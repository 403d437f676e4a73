import SemanticClient.Proofs.Spec.Forms

/-!
# What the segments of a join spec give

Every segment gives one table or one diagnostic, and both come in the order of their segments. One fact is
carried from segment to segment: whether a main table came before. Only a segment of that form looks at
it; any other gives what it gives as a spec of its own.

* `or_isMain_readSegment`: what one segment adds to the fact that is carried.
* `getElem?_readSegments`: what a segment gives after the segments before it.
* `parse_accounts`: where every table and every diagnostic of a spec comes from.
-/

namespace SemanticClient.Spec

open Text

/-- A table as a segment gives it: of names, and with a condition exactly if it is joined. -/
structure Join.WellFormed (j : Join) : Prop where
  table : IsName j.table
  tableAlias : ∀ a ∈ j.tableAlias, IsName a
  condition : j.condition.isSome = true ↔ j.kind ≠ .main

namespace Segment

/-- Whether a segment is read as a main table. -/
def isAlone (cs : List Char) : Bool :=
  match ofText cs with
  | .alone _ _ => true
  | _ => false

theorem ofText_of_mainForm {cs : List Char} {table : String} {a : Option String}
    (h : MainForm cs table a) : ofText cs = .alone table.toList (a.map String.toList) := by
  rw [ofText_eq_alone_iff, String.ofList_toList, map_ofList_map_toList]
  exact h

/-- The segment has the form of a main table, whatever its name and alias. -/
def HasMainForm (cs : List Char) : Prop := ∃ table a, MainForm cs table a

theorem isAlone_iff {cs : List Char} : isAlone cs = true ↔ HasMainForm cs := by
  constructor
  · intro h
    unfold isAlone at h
    split at h
    · rename_i hread
      exact ⟨_, _, ofText_eq_alone_iff.1 hread⟩
    · cases h
  · rintro ⟨table, a, h⟩
    rw [isAlone, ofText_of_mainForm h]

end Segment

namespace JoinList

variable {s : Scope} {mainKnown : Bool} {segment : List Char}

/-! ## One segment -/

/-- A main table is taken if none is known, and left out otherwise. -/
theorem value_readSegment_of_mainForm {table : String} {a : Option String}
    (h : Segment.MainForm segment table a) :
    (readSegment s mainKnown segment).value =
      if mainKnown then .error (.extraMainTable (String.ofList (trim segment)))
      else .ok ⟨.main, table, a, none⟩ := by
  unfold readSegment
  rw [Segment.ofText_of_mainForm h]
  cases mainKnown with
  | true => rfl
  | false => simp only [Bool.false_eq_true, if_false, Traced.value_pure, String.ofList_toList,
      map_ofList_map_toList]

/-- What a segment of any other form gives: a joined table or a diagnostic. -/
theorem readSegment_of_not_isAlone (s : Scope) (mainKnown : Bool)
    (h : Segment.isAlone segment = false) :
    readSegment s mainKnown segment = readSegment s false segment ∧
      ((readSegment s false segment).value = .error (.invalidJoin (String.ofList (trim segment))) ∨
        ∃ j, (readSegment s false segment).value = .ok j ∧ j.kind ≠ .main) := by
  unfold Segment.isAlone at h
  unfold readSegment
  have hread := Segment.reading_ofText segment
  cases hseg : Segment.ofText segment with
  | joined kind table a condition =>
    rw [hseg] at hread
    cases hread with
    | joined hkind htable ha => exact ⟨rfl, .inr ⟨_, rfl, hkind⟩⟩
  | alone table a =>
    rw [hseg] at h
    cases h
  | unreadable => exact ⟨rfl, .inl rfl⟩

/-- A segment gives the main table if it is of that form and none is known. -/
theorem isMain_readSegment :
    isMain (readSegment s mainKnown segment).value = (!mainKnown && Segment.isAlone segment) := by
  cases halone : Segment.isAlone segment with
  | true =>
    obtain ⟨table, a, hform⟩ := Segment.isAlone_iff.1 halone
    rw [value_readSegment_of_mainForm hform]
    cases mainKnown <;> rfl
  | false =>
    obtain ⟨hfree, hgives⟩ := readSegment_of_not_isAlone s mainKnown halone
    rw [hfree, Bool.and_false]
    rcases hgives with he | ⟨j, hj, hkind⟩
    · rw [he, isMain]
    · rw [hj, isMain, beq_false_of_ne hkind]

/-- **A main table is known behind a segment** if it was known before it or is of that form itself. -/
theorem or_isMain_readSegment :
    (mainKnown || isMain (readSegment s mainKnown segment).value) =
      (mainKnown || Segment.isAlone segment) := by
  rw [isMain_readSegment]
  cases mainKnown <;> rfl

/-- The tables of segments are well-formed. -/
theorem wellFormed_of_readSegment {j : Join} (h : (readSegment s mainKnown segment).value = .ok j) :
    j.WellFormed := by
  unfold readSegment at h
  have hread := Segment.reading_ofText segment
  cases hseg : Segment.ofText segment with
  | joined kind table a condition =>
    rw [hseg] at h hread
    obtain rfl := Except.ok.inj h
    cases hread with
    | joined hkind htable ha =>
      refine ⟨htable, ?_, iff_of_true rfl hkind⟩
      intro b hb
      obtain ⟨b', hb', rfl⟩ := Option.map_eq_some_iff.1 hb
      exact ha b' hb'
  | alone table a =>
    rw [hseg] at h hread
    cases mainKnown with
    | true => cases h
    | false =>
      obtain rfl := Except.ok.inj h
      cases hread with
      | alone hform => exact ⟨hform.name, hform.aliasName, by simp⟩
  | unreadable =>
    rw [hseg] at h
    cases h

/-! ## All segments -/

theorem value_readSegments_cons (segments : List (List Char)) :
    (readSegments s mainKnown (segment :: segments)).value =
      (readSegment s mainKnown segment).value ::
        (readSegments s (mainKnown || Segment.isAlone segment) segments).value := by
  rw [← or_isMain_readSegment (s := s)]
  rfl

/-- **What a segment gives** depends on the segments before it only in whether one is a main table. -/
theorem getElem?_readSegments (s : Scope) (segments : List (List Char)) :
    ∀ (mainKnown : Bool) (i : ℕ), (readSegments s mainKnown segments).value[i]? =
      segments[i]?.map fun segment =>
        (readSegment s (mainKnown || (segments.take i).any Segment.isAlone) segment).value := by
  induction segments with
  | nil =>
    intro mainKnown i
    rfl
  | cons segment segments ih =>
    intro mainKnown i
    rw [value_readSegments_cons]
    cases i with
    | zero => simp
    | succ i => simp [ih, Bool.or_assoc]

/-- **At most one main table**, and none if one is known already. -/
theorem countP_isMain_readSegments (s : Scope) (segments : List (List Char)) :
    ∀ mainKnown : Bool,
      (readSegments s mainKnown segments).value.countP isMain + mainKnown.toNat ≤ 1 := by
  induction segments with
  | nil =>
    intro mainKnown
    rw [readSegments, Traced.value_pure, List.countP_nil, Nat.zero_add]
    exact Bool.toNat_le mainKnown
  | cons segment segments ih =>
    intro mainKnown
    have hrest := ih (mainKnown || Segment.isAlone segment)
    rw [value_readSegments_cons, List.countP_cons, isMain_readSegment]
    -- a segment that gives the main table leaves none for the rest
    cases mainKnown <;> cases halone : Segment.isAlone segment <;> rw [halone] at hrest <;>
      simpa using hrest

/-! ## Whole specs -/

/-- What every segment of a spec gives, in order. -/
def results (s : Scope) (spec : String) : List (Except SpecError Join) :=
  (readSegments s false (split ',' spec.toList)).value

/-- The diagnostic that a segment gives, if it gives one. -/
def diagnostic? : Except SpecError Join → Option SpecError
  | .ok _ => none
  | .error e => some e

/-- **Where the tables and the diagnostics of a join spec come from.** -/
structure Accounts (s : Scope) (spec : String) : Prop where
  length : (results s spec).length = (split ',' spec.toList).length
  joins : (parse s spec).value.joins = (results s spec).filterMap Except.toOption
  diagnostics : (parse s spec).value.diagnostics = (results s spec).filterMap diagnostic?
  count : (parse s spec).value.joins.length + (parse s spec).value.diagnostics.length =
    (split ',' spec.toList).length
  /-- The first segment with the form of a main table is the main table. -/
  first : ∀ (i : ℕ) (segment : List Char) (table : String) (a : Option String),
    (split ',' spec.toList)[i]? = some segment → Segment.MainForm segment table a →
    (∀ k < i, ∀ earlier, (split ',' spec.toList)[k]? = some earlier →
      ¬ Segment.HasMainForm earlier) →
    (results s spec)[i]? = some (.ok ⟨.main, table, a, none⟩)
  /-- Every later one is left out. -/
  further : ∀ (i k : ℕ) (segment earlier : List Char), (split ',' spec.toList)[i]? = some segment →
    Segment.HasMainForm segment → k < i → (split ',' spec.toList)[k]? = some earlier →
    Segment.HasMainForm earlier →
    (results s spec)[i]? = some (.error (.extraMainTable (String.ofList (trim segment))))
  /-- Any other segment gives what it gives as a spec of its own. -/
  other : ∀ (i : ℕ) (segment : List Char), (split ',' spec.toList)[i]? = some segment →
    ¬ Segment.HasMainForm segment →
    ∃ r, (results s spec)[i]? = some r ∧ results s (String.ofList segment) = [r] ∧
      (r = .error (.invalidJoin (String.ofList (trim segment))) ∨ ∃ j, r = .ok j ∧ j.kind ≠ .main)
  oneMain : (parse s spec).value.joins.countP (·.kind == .main) ≤ 1
  wellFormed : ∀ j ∈ (parse s spec).value.joins, j.WellFormed

theorem joins_ofResults (rs : List (Except SpecError Join)) :
    (ofResults rs).joins = rs.filterMap Except.toOption := by
  refine List.filterMap_congr fun r _ => ?_
  cases r <;> rfl

theorem diagnostics_ofResults (rs : List (Except SpecError Join)) :
    (ofResults rs).diagnostics = rs.filterMap diagnostic? := by
  refine List.filterMap_congr fun r _ => ?_
  cases r <;> rfl

/-- The main tables among results are those among their tables. -/
theorem countP_joins_ofResults (rs : List (Except SpecError Join)) :
    (ofResults rs).joins.countP (·.kind == .main) = rs.countP isMain := by
  induction rs with
  | nil => rfl
  | cons r rs ih =>
    rw [joins_ofResults] at ih ⊢
    cases r with
    | ok j =>
      rw [List.filterMap_cons_some (by rfl), List.countP_cons, List.countP_cons, ih]
      rfl
    | error e =>
      rw [List.filterMap_cons_none (by rfl), ih]
      rfl

/-- A spec of one segment has one result. -/
theorem results_ofList (s : Scope) (h : ',' ∉ segment) :
    results s (String.ofList segment) = [(readSegment s false segment).value] := by
  rw [results, String.toList_ofList, split_of_notMem h, value_readSegments_cons]
  rfl

/-- What a segment of a spec gives, by its place. -/
theorem getElem?_results (s : Scope) {spec : String} {i : ℕ}
    (h : (split ',' spec.toList)[i]? = some segment) :
    (results s spec)[i]? = some (readSegment s
      (((split ',' spec.toList).take i).any Segment.isAlone) segment).value := by
  rw [results, getElem?_readSegments, h, Option.map_some, Bool.false_or]

/-- A main table comes before a place exactly when one of the segments there has its form. -/
theorem any_isAlone_take_iff {segments : List (List Char)} {i : ℕ} :
    (segments.take i).any Segment.isAlone = true ↔
      ∃ k < i, ∃ earlier, segments[k]? = some earlier ∧ Segment.HasMainForm earlier := by
  simp only [List.any_eq_true, Segment.isAlone_iff, List.mem_iff_getElem?, List.getElem?_take]
  constructor
  · rintro ⟨earlier, ⟨k, hk⟩, hmain⟩
    split at hk
    · rename_i hlt
      exact ⟨k, hlt, earlier, hk, hmain⟩
    · cases hk
  · rintro ⟨k, hlt, earlier, hk, hmain⟩
    exact ⟨earlier, ⟨k, by rw [if_pos hlt, hk]⟩, hmain⟩

/-- Every table of a spec is given by one of its segments. -/
theorem wellFormed_of_mem_joins (s : Scope) (spec : String) :
    ∀ j ∈ (parse s spec).value.joins, j.WellFormed := by
  intro j hj
  have hjoins : (parse s spec).value.joins = (results s spec).filterMap Except.toOption :=
    joins_ofResults _
  rw [hjoins] at hj
  obtain ⟨r, hr, hread⟩ := List.mem_filterMap.1 hj
  obtain ⟨i, hi⟩ := List.mem_iff_getElem?.1 hr
  rw [results, getElem?_readSegments] at hi
  obtain ⟨segment, -, rfl⟩ := Option.map_eq_some_iff.1 hi
  generalize hknown : (false || _) = mainKnown at hread
  cases hgives : (readSegment s mainKnown segment).value with
  | ok j' =>
    rw [hgives] at hread
    obtain rfl := Option.some.inj hread
    exact wellFormed_of_readSegment hgives
  | error e =>
    rw [hgives] at hread
    cases hread

/-- **No segment is lost, doubled or moved**, and only main tables depend on the segments before them. -/
theorem parse_accounts (s : Scope) (spec : String) : Accounts s spec where
  length := length_readSegments s false _
  joins := joins_ofResults _
  diagnostics := diagnostics_ofResults _
  count := length_joins_add_length_diagnostics s spec
  first := by
    intro i segment table a hi hform hnone
    have hknown : ((split ',' spec.toList).take i).any Segment.isAlone = false := by
      rw [← Bool.not_eq_true, any_isAlone_take_iff]
      rintro ⟨k, hk, earlier, hearlier, hmain⟩
      exact hnone k hk earlier hearlier hmain
    rw [getElem?_results s hi, hknown, value_readSegment_of_mainForm hform]
    rfl
  further := by
    intro i k segment earlier hi hform hk hearlier hmain
    obtain ⟨table, a, hform⟩ := hform
    have hknown : ((split ',' spec.toList).take i).any Segment.isAlone = true :=
      any_isAlone_take_iff.2 ⟨k, hk, earlier, hearlier, hmain⟩
    rw [getElem?_results s hi, hknown, value_readSegment_of_mainForm hform]
    rfl
  other := by
    intro i segment hi hform
    have hcomma : ',' ∉ segment := notMem_of_mem_split (List.mem_of_getElem? hi)
    have halone : Segment.isAlone segment = false := by
      rw [← Bool.not_eq_true, Segment.isAlone_iff]
      exact hform
    obtain ⟨hfree, hgives⟩ := readSegment_of_not_isAlone s
      (((split ',' spec.toList).take i).any Segment.isAlone) halone
    refine ⟨_, getElem?_results s hi, ?_, ?_⟩
    · rw [results_ofList s hcomma, hfree]
    · rw [hfree]
      exact hgives
  oneMain := by
    have hcount := countP_isMain_readSegments s (split ',' spec.toList) false
    rw [← countP_joins_ofResults] at hcount
    exact hcount
  wellFormed := wellFormed_of_mem_joins s spec

end JoinList
end SemanticClient.Spec
