import SemanticClient.Proofs.Spec.Writing

/-!
# Order specs are read back as they are written, and nothing else is read

A column is written as `table.field direction`. The table may be left out where it is the default one,
and the direction where it is ascending; blanks may stand around a segment, and blank segments anywhere.
A column may be named like a direction, since no direction is read without a column before it.

What may be written is said here by relations, so that every way to write a list of columns is one case of
them. A direction has one more spelling than its name in any case: a long s may stand for the s, and then
both names mean ascending.

* `direction?_eq_some_iff`: a direction is read from its spellings, and ascending from nothing.
* `ofSegment?_eq_some_iff`: a segment is read as a column exactly when it is a way to write it.
* `ofSegments_eq_ok_iff`, `ofSegments_eq_error_iff`: the same for lists of segments, with the segment that
  an error names.
* `parse_iff_written`: whole specs.
-/

namespace SemanticClient

open Text

namespace Text

/-! ## Letters -/

/-- The long s. -/
def longS : Char := '\u017f'

/-- A letter as a small one, with the long s as one more form of the s. -/
def smallLetter (c : Char) : Char := if c = longS then 's' else c.toLower

theorem smallLetter_of_ne {c : Char} (h : c ≠ longS) : smallLetter c = c.toLower := if_neg h

/-- Without a long s, only the case of a letter is lost. -/
theorem map_smallLetter {w : List Char} (h : longS ∉ w) : w.map smallLetter = w.map Char.toLower :=
  List.map_congr_left fun _ hc => smallLetter_of_ne fun e => h (e ▸ hc)

theorem isWord_of_isAlpha {c : Char} (h : c.isAlpha = true) : isWord c = true := by
  have hascii : c.toNat < 0x80 := by
    rcases Bool.or_eq_true_iff.1 h with hupper | hlower
    · have hle : c.val ≤ 'Z'.val := (of_decide_eq_true hupper).2
      exact Nat.lt_of_le_of_lt (UInt32.le_iff_toNat_le.1 hle) (by decide)
    · have hle : c.val ≤ 'z'.val := of_decide_eq_true (Bool.and_eq_true_iff.1 hlower).2
      exact Nat.lt_of_le_of_lt (UInt32.le_iff_toNat_le.1 hle) (by decide)
  rw [isWord_ascii hascii, isAsciiWord, Char.isAlphanum, h]
  rfl

theorem isAlpha_of_toLower {c : Char} (h : c.toLower.isAlpha = true) : c.isAlpha = true := by
  cases hupper : c.isUpper with
  | true => exact Bool.or_eq_true_iff.2 (.inl hupper)
  | false =>
    have hsame : c.toLower = c := dif_neg (of_decide_eq_false hupper)
    rwa [hsame] at h

theorem isWord_of_smallLetter {c : Char} (h : (smallLetter c).isAlpha = true) : isWord c = true := by
  by_cases hc : c = longS
  · rw [hc]
    decide
  · rw [smallLetter_of_ne hc] at h
    exact isWord_of_isAlpha (isAlpha_of_toLower h)

end Text

namespace Spec

/-! ## Directions -/

/-- How a direction may be spelled: by its name, in any case. With a long s for the s, either name stands
for ascending. -/
inductive Direction.Spelled : Direction → List Char → Prop
  | name {d : Direction} {w : List Char} (h : w.map Char.toLower = d.name.toList) : Spelled d w
  | longS {d : Direction} {w : List Char} (hs : longS ∈ w) (h : w.map smallLetter = d.name.toList) :
      Spelled .ascending w

/-- How a direction may be written behind a column: spelled after a blank at least, or not at all. -/
inductive Direction.WrittenAs : Direction → List Char → Prop
  | leftOut {v : List Char} (hv : AllBlank v) : WrittenAs .ascending v
  | spelled {d : Direction} {u w v : List Char} (hu : AllBlank u) (hne : u ≠ []) (hw : d.Spelled w)
      (hv : AllBlank v) : WrittenAs d (u ++ w ++ v)

namespace Direction

/-- No name has a long s in any case. -/
theorem longS_notMem_of_map_toLower {d : Direction} {w : List Char}
    (h : w.map Char.toLower = d.name.toList) : longS ∉ w := by
  intro hs
  have hmem : longS ∈ w.map Char.toLower := List.mem_map.2 ⟨longS, hs, by decide⟩
  rw [h] at hmem
  cases d <;> exact absurd hmem (by decide)

/-- However it is spelled, its small letters are a name. -/
theorem Spelled.exists_map_smallLetter {d : Direction} {w : List Char} (h : d.Spelled w) :
    ∃ d' : Direction, w.map smallLetter = d'.name.toList := by
  cases h with
  | longS _ h => exact ⟨_, h⟩
  | name h =>
    refine ⟨d, ?_⟩
    rw [← h, map_smallLetter (longS_notMem_of_map_toLower h)]

theorem Spelled.isWord {d : Direction} {w : List Char} (h : d.Spelled w) :
    ∀ c ∈ w, isWord c = true := by
  intro c hc
  obtain ⟨d', hsmall⟩ := h.exists_map_smallLetter
  have hletters : ∀ a ∈ d'.name.toList, a.isAlpha = true := by
    cases d' <;> exact List.all_eq_true.1 (by decide)
  have hmem := List.mem_map_of_mem (f := smallLetter) hc
  rw [hsmall] at hmem
  exact isWord_of_smallLetter (hletters _ hmem)

theorem Spelled.ne_nil {d : Direction} {w : List Char} (h : d.Spelled w) : w ≠ [] := by
  rintro rfl
  obtain ⟨d', hsmall⟩ := h.exists_map_smallLetter
  cases d' <;> cases hsmall

/-- Nothing but a blank stands in front of a direction. -/
theorem WrittenAs.isBlank {d : Direction} {cs : List Char} (h : d.WrittenAs cs) :
    ∀ c ∈ cs.head?, isBlank c = true := by
  intro c hc
  cases h with
  | leftOut hv => exact hv c (List.mem_of_mem_head? hc)
  | @spelled _ u w v hu hne hw hv =>
    cases u with
    | nil => exact absurd rfl hne
    | cons b u =>
      obtain rfl := Option.some.inj hc
      exact hu b List.mem_cons_self

theorem WrittenAs.stops {d : Direction} {cs : List Char} (h : d.WrittenAs cs) : Stops isWord cs :=
  fun c hc => isWord_of_isBlank (h.isBlank c hc)

theorem WrittenAs.notMem_comma {d : Direction} {cs : List Char} (h : d.WrittenAs cs) :
    ',' ∉ cs := by
  cases h with
  | leftOut hv => exact hv.notMem_comma
  | @spelled _ u w v hu hne hw hv =>
    simp only [List.mem_append, not_or]
    exact ⟨⟨hu.notMem_comma, notMem_of_isWord hw.isWord isWord_comma⟩, hv.notMem_comma⟩

end Direction

namespace Order

/-- Letter by letter, a word is spelled by what comes down to it. -/
theorem spells_iff {same : Char → Char → Bool} {fold : Char → Char} :
    ∀ {word cs : List Char}, (∀ a ∈ word, ∀ c, same a c = true ↔ fold c = a) →
      (spells same word cs = true ↔ cs.map fold = word)
  | [], [], _ => by simp [spells]
  | [], _ :: _, _ => by simp [spells]
  | _ :: _, [], _ => by simp [spells]
  | a :: word, c :: cs, h => by
    have ih : spells same word cs = true ↔ cs.map fold = word :=
      spells_iff fun b hb => h b (List.mem_cons_of_mem a hb)
    rw [spells, Bool.and_eq_true, h a List.mem_cons_self, ih, List.map_cons, List.cons.injEq]

theorem spells_isLetter_iff {word cs : List Char} :
    spells isLetter word cs = true ↔ cs.map Char.toLower = word :=
  spells_iff fun _ _ _ => beq_iff_eq

theorem spells_isLetterOrLongS_iff {word cs : List Char} (h : longS ∉ word) :
    spells isLetterOrLongS word cs = true ↔ cs.map smallLetter = word := by
  refine spells_iff fun a ha c => ?_
  have hlong : c.toNat = 0x17f ↔ c = longS :=
    ⟨fun e => Char.toNat_inj.1 e, fun e => by rw [e]; rfl⟩
  simp only [isLetterOrLongS, isLetter, Bool.or_eq_true, Bool.and_eq_true, beq_iff_eq, hlong]
  by_cases hc : c = longS
  · have hne : longS ≠ a := fun e => h (e ▸ ha)
    have hlower : longS.toLower = longS := by decide
    simp [hc, smallLetter, hlower, hne, eq_comm]
  · simp [hc, smallLetter_of_ne hc]

/-- The name of some direction, with a long s for the s or not. -/
theorem spells_either_iff {cs : List Char} :
    (spells isLetterOrLongS ['d', 'e', 's', 'c'] cs || spells isLetterOrLongS ['a', 's', 'c'] cs) = true ↔
      ∃ d : Direction, cs.map smallLetter = d.name.toList := by
  rw [Bool.or_eq_true, spells_isLetterOrLongS_iff (by decide), spells_isLetterOrLongS_iff (by decide)]
  constructor
  · rintro (h | h)
    · exact ⟨.descending, h⟩
    · exact ⟨.ascending, h⟩
  · rintro ⟨d, h⟩
    cases d with
    | ascending => exact Or.inr h
    | descending => exact Or.inl h

theorem direction?_of_spelled {cs : List Char} {d : Direction} (h : d.Spelled cs) :
    direction? cs = some d := by
  have hempty : cs.isEmpty = false := List.isEmpty_eq_false_iff.2 h.ne_nil
  have heither := spells_either_iff.2 h.exists_map_smallLetter
  unfold direction?
  simp only [hempty, heither, spells_isLetter_iff, Bool.false_eq_true, if_false, if_true]
  cases h with
  | name h =>
    rw [h]
    cases d <;> rfl
  | longS hs _ =>
    refine if_neg fun hdesc => ?_
    exact absurd hs (Direction.longS_notMem_of_map_toLower (d := .descending) hdesc)

/-- **A direction is read from its spellings**, and ascending from nothing. -/
theorem direction?_eq_some_iff {cs : List Char} {d : Direction} :
    direction? cs = some d ↔ (cs = [] ∧ d = .ascending) ∨ d.Spelled cs := by
  constructor
  · intro h
    simp only [direction?, spells_isLetter_iff] at h
    split at h
    · rename_i hempty
      exact Or.inl ⟨List.isEmpty_iff.1 hempty, (Option.some.inj h).symm⟩
    · right
      split at h
      · rename_i hdesc
        obtain rfl := Option.some.inj h
        exact .name hdesc
      · rename_i hdesc
        split at h
        · rename_i hsmall
          obtain rfl := Option.some.inj h
          obtain ⟨d, hsmall⟩ := spells_either_iff.1 hsmall
          -- descending without a long s is excluded by the case before
          by_cases hs : longS ∈ cs
          · exact .longS hs hsmall
          · rw [map_smallLetter hs] at hsmall
            cases d with
            | ascending => exact .name hsmall
            | descending => exact absurd hsmall hdesc
        · cases h
  · rintro (⟨rfl, rfl⟩ | h)
    · rfl
    · exact direction?_of_spelled h

/-! ## Segments -/

/-- Behind a name, a direction is read exactly from what it may be written as. -/
theorem direction?_trim_eq_some_iff {cs : List Char} {d : Direction} (hstops : Stops isWord cs) :
    direction? (trim cs) = some d ↔ d.WrittenAs cs := by
  constructor
  · intro h
    rcases direction?_eq_some_iff.1 h with ⟨hempty, rfl⟩ | hw
    · exact .leftOut (isEmpty_trim_iff.1 (List.isEmpty_iff.2 hempty))
    · obtain ⟨u, v, hu, hv, hcs⟩ := exists_eq_append_trim cs
      have hne : u ≠ [] := by
        -- with no blank in front, the spelling would go on with the name
        rintro rfl
        rw [List.nil_append] at hcs
        obtain ⟨c, w, hcons⟩ := List.exists_cons_of_ne_nil hw.ne_nil
        rw [hcons] at hw hcs
        rw [hcs] at hstops
        have hword := hw.isWord c List.mem_cons_self
        rw [hstops c rfl] at hword
        cases hword
      rw [hcs]
      exact .spelled hu hne hw hv
  · intro h
    cases h with
    | leftOut hv =>
      rw [trim_allBlank hv]
      rfl
    | @spelled _ u w v hu hne hw hv =>
      have hfirst := stops_isBlank_of_isWord hw.isWord [] hw.ne_nil
      have hlast := stops_isBlank_reverse_of_isWord hw.isWord [] hw.ne_nil
      rw [List.append_nil] at hfirst hlast
      rw [trim_blanks hu hv hfirst hlast hw.ne_nil]
      exact direction?_of_spelled hw

/-- How a column may be written as a segment: with its table, or without it where it is the default one. -/
inductive WrittenAs (defaultTable : String) (o : Order) : List Char → Prop
  | withTable {u trail : List Char} (hu : AllBlank u) (htable : IsName o.table)
      (hfield : IsName o.field) (htrail : o.direction.WrittenAs trail) :
      WrittenAs defaultTable o (u ++ (o.table.toList ++ '.' :: (o.field.toList ++ trail)))
  | withoutTable {u trail : List Char} (hu : AllBlank u) (htable : o.table = defaultTable)
      (hfield : IsName o.field) (htrail : o.direction.WrittenAs trail) :
      WrittenAs defaultTable o (u ++ (o.field.toList ++ trail))

variable {defaultTable : String} {o : Order} {segment : List Char}

theorem withDirection?_eq_some_iff {table : String} {field cs : List Char}
    (hstops : Stops isWord cs) :
    withDirection? table field cs = some o ↔
      o.table = table ∧ o.field = String.ofList field ∧ o.direction.WrittenAs cs := by
  rw [← direction?_trim_eq_some_iff hstops]
  unfold withDirection?
  obtain ⟨otable, ofield, d⟩ := o
  cases direction? (trim cs) with
  | none => simp
  | some d' => simp [eq_comm]

/-- **A segment is read as a column exactly when it is a way to write it.** -/
theorem ofSegment?_eq_some_iff :
    ofSegment? defaultTable segment = some o ↔ o.WrittenAs defaultTable segment := by
  constructor
  · intro h
    obtain ⟨u, hu, hsegment⟩ := exists_eq_append_trimLeft segment
    unfold ofSegment? at h
    obtain ⟨⟨first, cs⟩, hname, h⟩ := Option.bind_eq_some_iff.1 h
    obtain ⟨htext, hne, hw, hstops⟩ := name?_eq_some_iff_append.1 hname
    have hfirst := isName_ofList hne hw
    rw [htext] at hsegment
    simp only at h
    split at h
    · obtain ⟨⟨field, trail⟩, hfieldname, h'⟩ := Option.bind_eq_some_iff.1 h
      obtain ⟨rfl, hfieldne, hfieldw, hstops⟩ := name?_eq_some_iff_append.1 hfieldname
      obtain ⟨htable, hfield, htrail⟩ := (withDirection?_eq_some_iff hstops).1 h'
      rw [hsegment, ← String.toList_ofList (l := first), ← String.toList_ofList (l := field),
        ← htable, ← hfield]
      exact .withTable hu (htable ▸ hfirst) (hfield ▸ isName_ofList hfieldne hfieldw) htrail
    · obtain ⟨htable, hfield, htrail⟩ := (withDirection?_eq_some_iff hstops).1 h
      rw [hsegment, ← String.toList_ofList (l := first), ← hfield]
      exact .withoutTable hu htable (hfield ▸ hfirst) htrail
  · intro h
    cases h with
    | @withTable u trail hu htable hfield htrail =>
      have hstops := htrail.stops
      have htablename := name?_append htable.isWord htable.toList_ne_nil
        (stops_cons isWord_dot (o.field.toList ++ trail))
      have hfieldname := name?_append hfield.isWord hfield.toList_ne_nil hstops
      have hread := (withDirection?_eq_some_iff hstops).2
        ⟨String.ofList_toList.symm, String.ofList_toList.symm, htrail⟩
      unfold ofSegment?
      simp only [trimLeft_blanks hu (htable.stops_isBlank _), htablename, hfieldname,
        Option.bind_eq_bind, Option.bind_some]
      exact hread
    | @withoutTable u trail hu htable hfield htrail =>
      have hstops := htrail.stops
      have hfieldname := name?_append hfield.isWord hfield.toList_ne_nil hstops
      -- the name is not taken for a table, since no dot follows it
      have hdot : ∀ cs, trail ≠ '.' :: cs := by
        rintro cs rfl
        have hblank := htrail.isBlank '.' rfl
        rw [isBlank_dot] at hblank
        cases hblank
      have hread := (withDirection?_eq_some_iff hstops).2
        ⟨htable, String.ofList_toList.symm, htrail⟩
      unfold ofSegment?
      simp only [trimLeft_blanks hu (hfield.stops_isBlank _), hfieldname,
        Option.bind_eq_bind, Option.bind_some]
      exact hread

/-- A column is no blank segment. -/
theorem WrittenAs.not_allBlank (h : o.WrittenAs defaultTable segment) : ¬ AllBlank segment := by
  intro hblank
  have hread := ofSegment?_eq_some_iff.2 h
  have hnil : trimLeft segment = [] := List.dropWhile_eq_nil_iff.2 hblank
  rw [ofSegment?, hnil] at hread
  cases hread

/-! ## Lists of segments -/

/-- How a list of columns may be written as segments: one for each, in order, and blank ones at will. -/
inductive ListWrittenAs (defaultTable : String) : List Order → List (List Char) → Prop
  | nil : ListWrittenAs defaultTable [] []
  | blank {orders : List Order} {segment : List Char} {segments : List (List Char)}
      (hblank : AllBlank segment) (h : ListWrittenAs defaultTable orders segments) :
      ListWrittenAs defaultTable orders (segment :: segments)
  | column {o : Order} {orders : List Order} {segment : List Char} {segments : List (List Char)}
      (ho : o.WrittenAs defaultTable segment) (h : ListWrittenAs defaultTable orders segments) :
      ListWrittenAs defaultTable (o :: orders) (segment :: segments)

/-- A segment that spoils a spec: it is not blank, and it is no way to write a column. -/
structure Spoils (defaultTable : String) (segment : List Char) : Prop where
  notBlank : ¬ AllBlank segment
  noColumn : ∀ o : Order, ¬ o.WrittenAs defaultTable segment

/-- The first of the segments that spoil a spec. -/
inductive FirstSpoiling (defaultTable : String) : List (List Char) → List Char → Prop
  | here {segment : List Char} {segments : List (List Char)} (h : Spoils defaultTable segment) :
      FirstSpoiling defaultTable (segment :: segments) segment
  | behind {next segment : List Char} {segments : List (List Char)} (hnext : ¬ Spoils defaultTable next)
      (h : FirstSpoiling defaultTable segments segment) :
      FirstSpoiling defaultTable (next :: segments) segment

/-- A segment is blank, a column or spoils the spec. -/
theorem segment_cases (defaultTable : String) (segment : List Char) :
    AllBlank segment ∨ (∃ o : Order, o.WrittenAs defaultTable segment) ∨
      Spoils defaultTable segment := by
  by_cases hblank : AllBlank segment
  · exact Or.inl hblank
  · by_cases hcolumn : ∃ o : Order, o.WrittenAs defaultTable segment
    · exact Or.inr (Or.inl hcolumn)
    · exact Or.inr (Or.inr ⟨hblank, fun o ho => hcolumn ⟨o, ho⟩⟩)

variable {spec : String} {segments : List (List Char)} {orders : List Order}

/-! ### What one segment adds -/

theorem ofSegments_cons_of_blank (h : AllBlank segment) :
    ofSegments spec defaultTable (segment :: segments) = ofSegments spec defaultTable segments := by
  rw [ofSegments, if_pos (isEmpty_trim_iff.2 h)]

theorem ofSegments_cons_of_column (h : o.WrittenAs defaultTable segment) :
    ofSegments spec defaultTable (segment :: segments) =
      (ofSegments spec defaultTable segments).map (o :: ·) := by
  rw [ofSegments, if_neg (mt isEmpty_trim_iff.1 h.not_allBlank), ofSegment?_eq_some_iff.2 h]
  cases ofSegments spec defaultTable segments <;> rfl

theorem ofSegments_cons_of_spoils (h : Spoils defaultTable segment) :
    ofSegments spec defaultTable (segment :: segments) =
      .error (.invalidOrder spec (String.ofList (trim segment))) := by
  have hnone : ofSegment? defaultTable segment = none :=
    Option.eq_none_iff_forall_ne_some.2 fun o => mt ofSegment?_eq_some_iff.1 (h.noColumn o)
  rw [ofSegments, if_neg (mt isEmpty_trim_iff.1 h.notBlank), hnone]

/-! ### What the segments give -/

/-- **The columns are those that the segments are a way to write.** -/
theorem ofSegments_eq_ok_iff :
    ofSegments spec defaultTable segments = .ok orders ↔
      ListWrittenAs defaultTable orders segments := by
  constructor
  · intro h
    induction segments generalizing orders with
    | nil =>
      cases h
      exact .nil
    | cons segment segments ih =>
      rcases segment_cases defaultTable segment with hblank | ⟨o, ho⟩ | hspoils
      · rw [ofSegments_cons_of_blank hblank] at h
        exact .blank hblank (ih h)
      · rw [ofSegments_cons_of_column ho] at h
        cases hrest : ofSegments spec defaultTable segments with
        | error e =>
          rw [hrest] at h
          cases h
        | ok rest =>
          rw [hrest] at h
          cases h
          exact .column ho (ih hrest)
      · rw [ofSegments_cons_of_spoils hspoils] at h
        cases h
  · intro h
    induction h with
    | nil => rfl
    | blank hblank _ ih => rw [ofSegments_cons_of_blank hblank, ih]
    | column ho _ ih => rw [ofSegments_cons_of_column ho, ih]; rfl

theorem firstSpoiling_cons_iff {next : List Char} (hnext : ¬ Spoils defaultTable next) :
    FirstSpoiling defaultTable (next :: segments) segment ↔
      FirstSpoiling defaultTable segments segment := by
  constructor
  · intro h
    cases h with
    | here h => exact absurd h hnext
    | behind _ h => exact h
  · exact .behind hnext

theorem firstSpoiling_cons_iff_eq {next : List Char} (hnext : Spoils defaultTable next) :
    FirstSpoiling defaultTable (next :: segments) segment ↔ segment = next := by
  constructor
  · intro h
    cases h with
    | here _ => rfl
    | behind hgood _ => exact absurd hnext hgood
  · rintro rfl
    exact .here hnext

/-- There is a first one if there is any. -/
theorem exists_firstSpoiling_iff :
    (∃ segment, FirstSpoiling defaultTable segments segment) ↔
      ∃ segment ∈ segments, Spoils defaultTable segment := by
  induction segments with
  | nil => exact iff_of_false (fun ⟨_, h⟩ => nomatch h) (fun ⟨_, h, _⟩ => nomatch h)
  | cons next segments ih =>
    simp only [List.mem_cons, exists_eq_or_imp]
    by_cases hnext : Spoils defaultTable next
    · exact iff_of_true ⟨next, .here hnext⟩ (Or.inl hnext)
    · simp only [firstSpoiling_cons_iff hnext, ih, hnext, false_or]

/-- **An error names the first segment that spoils the spec.** -/
theorem ofSegments_eq_error_iff {e : SpecError} :
    ofSegments spec defaultTable segments = .error e ↔
      ∃ segment, FirstSpoiling defaultTable segments segment ∧
        e = .invalidOrder spec (String.ofList (trim segment)) := by
  induction segments with
  | nil => exact iff_of_false (fun h => nomatch h) (fun ⟨_, h, _⟩ => nomatch h)
  | cons segment segments ih =>
    rcases segment_cases defaultTable segment with hblank | ⟨o, ho⟩ | hspoils
    · have hgood : ¬ Spoils defaultTable segment := fun h => h.notBlank hblank
      simp only [ofSegments_cons_of_blank hblank, ih, firstSpoiling_cons_iff hgood]
    · have hgood : ¬ Spoils defaultTable segment := fun h => h.noColumn o ho
      simp only [ofSegments_cons_of_column ho, firstSpoiling_cons_iff hgood, ← ih]
      cases ofSegments spec defaultTable segments <;> simp [Except.map]
    · simp only [ofSegments_cons_of_spoils hspoils, firstSpoiling_cons_iff_eq hspoils,
        exists_eq_left, Except.error.injEq]
      exact eq_comm

/-! ## What can be written -/

/-- A column that can be written: it has names, or its table is the default one. -/
structure Writable (defaultTable : String) (o : Order) : Prop where
  field : IsName o.field
  table : IsName o.table ∨ o.table = defaultTable

theorem WrittenAs.writable (h : o.WrittenAs defaultTable segment) : o.Writable defaultTable := by
  cases h with
  | withTable _ htable hfield _ => exact ⟨hfield, Or.inl htable⟩
  | withoutTable _ htable hfield _ => exact ⟨hfield, Or.inr htable⟩

theorem ListWrittenAs.writable (h : ListWrittenAs defaultTable orders segments) :
    ∀ o ∈ orders, o.Writable defaultTable := by
  induction h with
  | nil => exact fun _ h => nomatch h
  | blank _ _ ih => exact ih
  | column ho _ ih => exact List.forall_mem_cons.2 ⟨ho.writable, ih⟩

/-! ## Whole specs -/

/-- No comma stands within a segment that is a way to write a column. -/
theorem WrittenAs.notMem_comma (h : o.WrittenAs defaultTable segment) : ',' ∉ segment := by
  have hdot : ',' ≠ '.' := by decide
  cases h with
  | withTable hu htable hfield htrail =>
    simp only [List.mem_append, List.mem_cons, not_or]
    exact ⟨hu.notMem_comma, htable.notMem_comma, hdot, hfield.notMem_comma, htrail.notMem_comma⟩
  | withoutTable hu _ hfield htrail =>
    simp only [List.mem_append, not_or]
    exact ⟨hu.notMem_comma, hfield.notMem_comma, htrail.notMem_comma⟩

theorem ListWrittenAs.notMem_comma (h : ListWrittenAs defaultTable orders segments) :
    ∀ segment ∈ segments, ',' ∉ segment := by
  induction h with
  | nil => exact fun _ h => nomatch h
  | blank hblank _ ih => exact List.forall_mem_cons.2 ⟨hblank.notMem_comma, ih⟩
  | column ho _ ih => exact List.forall_mem_cons.2 ⟨ho.notMem_comma, ih⟩

/-- Segments as a spec, a comma between any two. -/
def specOf (segments : List (List Char)) : String := String.ofList ([','].intercalate segments)

theorem specOf_split (spec : String) : specOf (split ',' spec.toList) = spec := by
  rw [specOf, intercalate_split, String.ofList_toList]

/-- What was written is read, also where nothing was. -/
theorem parse_specOf (h : ListWrittenAs defaultTable orders segments) :
    parse (specOf segments) defaultTable = .ok orders := by
  unfold parse
  rw [ofSegments_eq_ok_iff, specOf, String.toList_ofList]
  by_cases hne : segments = []
  · -- the empty spec is one blank segment
    subst hne
    cases h
    exact .blank (by simp [AllBlank]) .nil
  · rwa [split_intercalate hne h.notMem_comma]

/-- **An order spec is read exactly as it may have been written.** It gives the columns that its segments
are a way to write, with any case, blanks and omissions. It is refused exactly if some segment spoils it,
and then the error names the spec and the first such segment. -/
theorem parse_iff_written (spec defaultTable : String) :
    (∀ orders, parse spec defaultTable = .ok orders ↔
      ∃ segments, ListWrittenAs defaultTable orders segments ∧ spec = specOf segments) ∧
    ((∃ e, parse spec defaultTable = .error e) ↔
      ∃ segment ∈ split ',' spec.toList, Spoils defaultTable segment) ∧
    ∀ e, parse spec defaultTable = .error e ↔
      ∃ segment, FirstSpoiling defaultTable (split ',' spec.toList) segment ∧
        e = .invalidOrder spec (String.ofList (trim segment)) := by
  refine ⟨fun orders => ⟨fun h => ?_, ?_⟩, ?_, fun e => ofSegments_eq_error_iff⟩
  · exact ⟨split ',' spec.toList, ofSegments_eq_ok_iff.1 h, (specOf_split spec).symm⟩
  · rintro ⟨segments, hsegments, rfl⟩
    exact parse_specOf hsegments
  · simp only [parse, ofSegments_eq_error_iff, ← exists_firstSpoiling_iff]
    constructor
    · rintro ⟨e, segment, hfirst, -⟩
      exact ⟨segment, hfirst⟩
    · rintro ⟨segment, hfirst⟩
      exact ⟨_, segment, hfirst, rfl⟩

example : parse "asc , ,a.desc  DeSc, b DE\u017fC" "u" =
    .ok [⟨"u", "asc", .ascending⟩, ⟨"a", "desc", .descending⟩, ⟨"u", "b", .ascending⟩] := by decide

end Order
end Spec
end SemanticClient
