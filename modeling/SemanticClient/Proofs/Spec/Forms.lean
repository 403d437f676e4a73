import SemanticClient.Proofs.Spec.Writing

/-!
# Forms of segments

Which texts are a main table and which start with a flag, said without the readers: by the pieces that a
text is put together from, with blanks at will. A reader takes a text exactly when it has the form, so
the forms may stand for the readers wherever a law speaks of all texts.

* `Segment.flag?_eq_none_iff`: a flag is read from every text that starts with one.
* `Segment.ofText_eq_alone_iff`: a segment is read as a main table exactly when it has the form of one.
* `Segment.reading_ofText`: what is read as a joined table has the kind of a flag, and names.
-/

namespace SemanticClient.Spec

open Text

theorem map_toList_map_ofList (a : Option (List Char)) :
    (a.map String.ofList).map String.toList = a := by
  cases a with
  | none => rfl
  | some b => rw [Option.map_some, Option.map_some, String.toList_ofList]

/-- The flags are six letters. -/
theorem JoinKind.isSome_ofFlag?_iff {f : Char} :
    (ofFlag? f).isSome = true ↔ f ∈ ['j', 'J', 'l', 'L', 'r', 'R'] := by
  simp only [ofFlag?, List.mem_cons, List.not_mem_nil, or_false]
  split <;> rename_i hj
  · exact iff_of_true rfl (by tauto)
  · split <;> rename_i hl
    · exact iff_of_true rfl (by tauto)
    · split <;> rename_i hr
      · exact iff_of_true rfl (by tauto)
      · exact iff_of_false (by simp) (by tauto)

/-- No flag is that of a main table. -/
theorem JoinKind.ne_main_of_ofFlag? {f : Char} {kind : JoinKind} (h : ofFlag? f = some kind) :
    kind ≠ .main := by
  rintro rfl
  unfold ofFlag? at h
  split at h
  · cases h
  · split at h
    · cases h
    · split at h <;> cases h

namespace Segment

/-! ## Flags -/

/-- The text starts with a flag and its colon. -/
def StartsWithFlag (cs : List Char) : Prop :=
  ∃ u f v rest, AllBlank u ∧ AllBlank v ∧ f ∈ ['j', 'J', 'l', 'L', 'r', 'R'] ∧
    cs = u ++ f :: (v ++ ':' :: rest)

theorem startsWithFlag_of_flag? {cs rest : List Char} {kind : JoinKind}
    (h : flag? cs = some (kind, rest)) : kind ≠ .main ∧ StartsWithFlag cs := by
  obtain ⟨u, hu, hcs⟩ := exists_eq_append_trimLeft cs
  unfold flag? at h
  split at h
  · cases h
  · rename_i f tail htail
    obtain ⟨kind', hkind, h⟩ := Option.bind_eq_some_iff.1 h
    obtain ⟨rest', hcolon, h⟩ := Option.bind_eq_some_iff.1 h
    obtain ⟨rfl, rfl⟩ := Prod.mk.inj (Option.some.inj h)
    obtain ⟨-, v, w, hv, -, rfl⟩ := colon?_eq_some_iff.1 hcolon
    have hf : (JoinKind.ofFlag? f).isSome = true := by
      rw [hkind]
      rfl
    refine ⟨JoinKind.ne_main_of_ofFlag? hkind, u, f, v, w ++ rest', hu, hv,
      JoinKind.isSome_ofFlag?_iff.1 hf, ?_⟩
    rw [← htail, ← hcs]

/-- **A flag is read from every text that starts with one.** -/
theorem flag?_eq_none_iff {cs : List Char} : flag? cs = none ↔ ¬ StartsWithFlag cs := by
  constructor
  · rintro h ⟨u, f, v, rest, hu, hv, hf, rfl⟩
    obtain ⟨kind, hkind⟩ := Option.isSome_iff_exists.1 (JoinKind.isSome_ofFlag?_iff.2 hf)
    obtain ⟨w, hw, hrest⟩ := exists_eq_append_trimLeft rest
    rw [hrest, flag?_append hu hv hw hkind (stops_trimLeft rest)] at h
    cases h
  · intro h
    cases hread : flag? cs with
    | none => rfl
    | some flagged => exact absurd (startsWithFlag_of_flag? hread).2 h

/-! ## Main tables -/

/-- The form of a main table: a name, with an alias after a colon if there is one. A text that starts
with a flag is not of the form. -/
structure MainForm (cs : List Char) (table : String) (a : Option String) : Prop where
  noFlag : ¬ StartsWithFlag cs
  name : IsName table
  aliasName : ∀ b ∈ a, IsName b
  text : ∃ l : Layout, cs = l.before.1 ++ (table.toList ++ l.withAlias l.after.1 a)

theorem space_ne_nil : [' '] ≠ [] := List.cons_ne_nil _ _

/-- A layout with blanks only where a main table has them. -/
def mainLayout (before beforeAlias afterAlias after : Blanks) : Layout where
  before := before
  capital := false
  beforeColon := ⟨[], allBlank_nil⟩
  afterColon := ⟨[], allBlank_nil⟩
  beforeAlias := beforeAlias
  afterAlias := afterAlias
  gap := ⟨[' '], allBlank_space⟩
  gap_ne_nil := space_ne_nil
  after := after

/-! ## Readings -/

/-- What a segment may be read as. -/
inductive Reading (cs : List Char) : Segment → Prop
  | unreadable : Reading cs .unreadable
  | alone {table : List Char} {a : Option (List Char)}
      (h : MainForm cs (String.ofList table) (a.map String.ofList)) : Reading cs (.alone table a)
  | joined {kind : JoinKind} {table condition : List Char} {a : Option (List Char)}
      (hkind : kind ≠ .main) (htable : IsName (String.ofList table))
      (ha : ∀ b ∈ a, IsName (String.ofList b)) : Reading cs (.joined kind table a condition)

/-- What stands alone is a name, with an alias after a colon if there is one. -/
theorem reading_of_alone? {cs : List Char} {segment : Segment} (hflag : ¬ StartsWithFlag cs)
    (h : alone? cs = some segment) : Reading cs segment := by
  obtain ⟨u, hu, hcs⟩ := exists_eq_append_trimLeft cs
  unfold alone? at h
  obtain ⟨⟨table, rest⟩, hname, h⟩ := Option.bind_eq_some_iff.1 h
  obtain ⟨htext, hne, hw, -⟩ := name?_eq_some_iff_append.1 hname
  have htable := isName_ofList hne hw
  rw [htext] at hcs
  simp only at h
  split at h
  · split at h
    · rename_i hblank
      obtain rfl := Option.some.inj h
      have hafter := allBlank_of_isEmpty_trim hblank
      refine .alone ⟨hflag, htable, by simp, mainLayout ⟨u, hu⟩ ⟨[], allBlank_nil⟩ ⟨[], allBlank_nil⟩
        ⟨rest, hafter⟩, ?_⟩
      rw [String.toList_ofList]
      exact hcs
    · cases h
  · rename_i tail hcolon
    obtain ⟨⟨a, rest'⟩, haname, h'⟩ := Option.bind_eq_some_iff.1 h
    obtain ⟨rfl, hane, haw, -⟩ := name?_eq_some_iff_append.1 haname
    obtain ⟨-, v, w, hv, hw', rfl⟩ := colon?_eq_some_iff.1 hcolon
    split at h'
    · rename_i hblank
      obtain rfl := Option.some.inj h'
      have hafter := allBlank_of_isEmpty_trim hblank
      refine .alone ⟨hflag, htable, ?_, mainLayout ⟨u, hu⟩ ⟨v, hv⟩ ⟨w, hw'⟩ ⟨rest', hafter⟩, ?_⟩
      · rintro b hb
        obtain rfl := Option.some.inj hb
        exact isName_ofList hane haw
      · simp only [mainLayout, Option.map_some, Layout.withAlias, String.toList_ofList]
        exact hcs
    · cases h'

/-- An alias is a name. -/
theorem isName_of_aliased? {cs a condition : List Char} (h : aliased? cs = some (a, condition)) :
    IsName (String.ofList a) := by
  obtain ⟨rest, -, h⟩ := Option.bind_eq_some_iff.1 h
  obtain ⟨⟨a', rest'⟩, hname, h⟩ := Option.bind_eq_some_iff.1 h
  obtain ⟨condition', -, h⟩ := Option.bind_eq_some_iff.1 h
  obtain ⟨rfl, -⟩ := Prod.mk.inj (Option.some.inj h)
  obtain ⟨-, hne, hw, -⟩ := name?_eq_some_iff_append.1 hname
  exact isName_ofList hne hw

/-- What follows a flag is a name, with an alias if there is one. -/
theorem reading_of_joined? {cs rest : List Char} {kind : JoinKind} {segment : Segment}
    (hkind : kind ≠ .main) (h : joined? kind rest = some segment) : Reading cs segment := by
  unfold joined? at h
  obtain ⟨⟨table, rest'⟩, hname, h⟩ := Option.bind_eq_some_iff.1 h
  obtain ⟨-, hne, hw, -⟩ := name?_eq_some_iff_append.1 hname
  have htable := isName_ofList hne hw
  simp only at h
  split at h
  · rename_i a condition haliased
    obtain rfl := Option.some.inj h
    refine .joined hkind htable ?_
    rintro b hb
    obtain rfl := Option.some.inj hb
    exact isName_of_aliased? haliased
  · obtain ⟨condition, -, h⟩ := Option.bind_eq_some_iff.1 h
    obtain rfl := Option.some.inj h
    exact .joined hkind htable (by simp)

/-- **Every segment has a reading**: the flag decides which of the two kinds of table it may be. -/
theorem reading_ofText (cs : List Char) : Reading cs (ofText cs) := by
  unfold ofText
  cases hflag : flag? cs with
  | some flagged =>
    obtain ⟨kind, rest⟩ := flagged
    cases hread : joined? kind rest with
    | none =>
      simp only [hread, Option.getD_none]
      exact .unreadable
    | some segment =>
      simp only [hread, Option.getD_some]
      exact reading_of_joined? (startsWithFlag_of_flag? hflag).1 hread
  | none =>
    cases hread : alone? cs with
    | none => exact .unreadable
    | some segment => exact reading_of_alone? (flag?_eq_none_iff.1 hflag) hread

/-- **A segment is read as a main table exactly when it has the form of one.** -/
theorem ofText_eq_alone_iff {cs table : List Char} {a : Option (List Char)} :
    ofText cs = .alone table a ↔ MainForm cs (String.ofList table) (a.map String.ofList) := by
  constructor
  · intro h
    have hread := reading_ofText cs
    rw [h] at hread
    cases hread with
    | alone hform => exact hform
  · intro h
    obtain ⟨l, hl⟩ := h.text
    have hread : alone? cs = some (.alone table a) := by
      rw [hl, alone?_write l h.name h.aliasName, String.toList_ofList, map_toList_map_ofList]
    rw [ofText, flag?_eq_none_iff.2 h.noFlag, hread, Option.getD_some]

end Segment
end SemanticClient.Spec
