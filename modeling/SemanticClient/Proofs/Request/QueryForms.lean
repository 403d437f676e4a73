import SemanticClient.Proofs.Spec.Lexical
import SemanticClient.Request.Condition

/-!
# Conditions of a query form

The name of a field is a column and an operator: its first two words. A field gives one condition if it has
both of them and a value, and no condition otherwise. Two values are none: the empty one, and the one that
stands for everything. Blanks are a value like any other, so a field that holds nothing else gives a
condition where a blank field should give none.

* `Text.words_eq_cons_iff`: which word a text starts with.
* `formCondition_eq_some_iff`: which condition a field gives.
* `formConditions_given_iff`: the conditions of all fields, and when blank values are left out.
* `not_forall_formConditions_given`: sometimes they are not.
-/

namespace SemanticClient

/-! ## Words -/

namespace Text

/-- A piece of a text without blanks in it. -/
structure Unbroken (w : List Char) : Prop where
  ne_nil : w ≠ []
  visible : ∀ c ∈ w, isBlank c = false

/-- A piece of a text ends here: at its end, or before a blank. -/
def EndsPiece (rest : List Char) : Prop := Stops (fun c => !isBlank c) rest

theorem endsPiece_cons_iff {c : Char} {rest : List Char} : EndsPiece (c :: rest) ↔ isBlank c = true := by
  constructor
  · intro h
    simpa using h c rfl
  · intro h
    exact stops_cons (by simp [h]) rest

theorem AllBlank.endsPiece {v : List Char} (hv : AllBlank v) (hne : v ≠ []) (rest : List Char) :
    EndsPiece (v ++ rest) := by
  cases v with
  | nil => exact absurd rfl hne
  | cons c v => exact endsPiece_cons_iff.2 (hv c List.mem_cons_self)

theorem Unbroken.not_endsPiece {w : List Char} (hw : Unbroken w) (rest : List Char) :
    ¬ EndsPiece (w ++ rest) := by
  cases w with
  | nil => exact absurd rfl hw.ne_nil
  | cons c w =>
    rw [List.cons_append, endsPiece_cons_iff, hw.visible c List.mem_cons_self]
    exact Bool.false_ne_true

theorem words_nil : words [] = [] := rfl

theorem words_cons_of_blank {c : Char} (hc : isBlank c = true) (cs : List Char) :
    words (c :: cs) = words cs := by
  simp [words, splitWhere, hc]

theorem words_blanks_append {u : List Char} (hu : AllBlank u) (cs : List Char) :
    words (u ++ cs) = words cs := by
  induction u with
  | nil => rfl
  | cons c u ih =>
    obtain ⟨hc, hu⟩ := List.forall_mem_cons.1 hu
    rw [List.cons_append, words_cons_of_blank hc, ih hu]

theorem words_of_allBlank {u : List Char} (hu : AllBlank u) : words u = [] := by
  have h := words_blanks_append hu []
  rwa [List.append_nil] at h

/-- A piece without blanks is the first word, up to the blank behind it. -/
theorem words_append {w rest : List Char} (hw : Unbroken w) (hrest : EndsPiece rest) :
    words (w ++ rest) = w :: words rest := by
  cases rest with
  | nil =>
    have hne : w.isEmpty = false := by simpa using hw.ne_nil
    rw [List.append_nil, words, splitWhere_of_forall hw.visible]
    simp [hne, words_nil]
  | cons c rest =>
    have hne : w.isEmpty = false := by simpa using hw.ne_nil
    have hc := endsPiece_cons_iff.1 hrest
    rw [words, splitWhere_append hw.visible hc, words_cons_of_blank hc, words]
    simp [hne]

/-- A text has nothing but blanks, or it has a first word. -/
theorem allBlank_or_exists_unbroken (cs : List Char) :
    AllBlank cs ∨ ∃ u w rest, AllBlank u ∧ Unbroken w ∧ EndsPiece rest ∧ cs = u ++ (w ++ rest) := by
  obtain ⟨u, hu, hcs⟩ := exists_eq_append_trimLeft cs
  have hstops := stops_trimLeft cs
  cases htrim : trimLeft cs with
  | nil =>
    left
    rw [hcs, htrim, List.append_nil]
    exact hu
  | cons c tail =>
    right
    rw [htrim] at hstops hcs
    refine ⟨u, (c :: tail).takeWhile (fun c => !isBlank c), (c :: tail).dropWhile (fun c => !isBlank c),
      hu, ⟨?_, ?_⟩, stops_dropWhile _ _, ?_⟩
    · rw [List.takeWhile_cons_of_pos (by simp [hstops c rfl])]
      exact List.cons_ne_nil _ _
    · intro d hd
      simpa using List.mem_takeWhile_imp hd
    · rw [List.takeWhile_append_dropWhile, hcs]

/-- **Which word a text starts with**, and what its other words are. -/
theorem words_eq_cons_iff {cs w : List Char} {ws : List (List Char)} :
    words cs = w :: ws ↔
      ∃ u rest, AllBlank u ∧ Unbroken w ∧ EndsPiece rest ∧ cs = u ++ (w ++ rest) ∧ words rest = ws := by
  constructor
  · intro h
    rcases allBlank_or_exists_unbroken cs with hblank | ⟨u, w', rest, hu, hw, hrest, rfl⟩
    · rw [words_of_allBlank hblank] at h
      cases h
    · rw [words_blanks_append hu, words_append hw hrest] at h
      obtain ⟨rfl, rfl⟩ := List.cons.inj h
      exact ⟨u, rest, hu, hw, hrest, rfl, rfl⟩
  · rintro ⟨u, rest, hu, hw, hrest, rfl, rfl⟩
    rw [words_blanks_append hu, words_append hw hrest]

/-- The first two words of a text, with blanks in between and any text behind them. -/
def FirstWords (cs first second : List Char) : Prop :=
  ∃ u v rest, AllBlank u ∧ Unbroken first ∧ AllBlank v ∧ v ≠ [] ∧ Unbroken second ∧ EndsPiece rest ∧
    cs = u ++ (first ++ (v ++ (second ++ rest)))

/-- **The first two words of a text** are what its words begin with. -/
theorem firstWords_iff {cs first second : List Char} :
    FirstWords cs first second ↔ ∃ ws, words cs = first :: second :: ws := by
  constructor
  · rintro ⟨u, v, rest, hu, hfirst, hv, hne, hsecond, hrest, rfl⟩
    have hwords : words (v ++ (second ++ rest)) = second :: words rest :=
      words_eq_cons_iff.2 ⟨v, rest, hv, hsecond, hrest, rfl, rfl⟩
    exact ⟨words rest, words_eq_cons_iff.2 ⟨u, _, hu, hfirst, hv.endsPiece hne _, rfl, hwords⟩⟩
  · rintro ⟨ws, h⟩
    obtain ⟨u, tail, hu, hfirst, htail, rfl, hwords⟩ := words_eq_cons_iff.1 h
    obtain ⟨v, rest, hv, hsecond, hrest, rfl, -⟩ := words_eq_cons_iff.1 hwords
    refine ⟨u, v, rest, hu, hfirst, hv, ?_, hsecond, hrest, rfl⟩
    -- without a blank in between the two words would be one
    rintro rfl
    exact hsecond.not_endsPiece rest htail

end Text

/-! ## One field -/

/-- A column as an operand: behind the default table and a dot, unless the column has a dot of its own or
there is no default table. -/
inductive QualifiedAs (defaultTable : String) (column : List Char) : String → Prop
  | kept (h : '.' ∈ column ∨ defaultTable = "") :
    QualifiedAs defaultTable column (String.ofList column)
  | withTable (hdot : '.' ∉ column) (htable : defaultTable ≠ "") :
    QualifiedAs defaultTable column (defaultTable ++ "." ++ String.ofList column)

/-- Which condition a field gives, if some values are left out. -/
inductive FieldGives (LeftOut : String → Prop) (defaultTable name value : String) : Condition → Prop
  | predicate {column op : List Char} {left : String} (hvalue : ¬ LeftOut value)
    (hall : value ≠ allPlaceholder) (hname : Text.FirstWords name.toList column op)
    (hleft : QualifiedAs defaultTable column left) :
    FieldGives LeftOut defaultTable name value
      (.predicate (String.ofList op) left ("'" ++ value ++ "'"))

/-- The name of a field has an operator behind its column. -/
def HasOperator (name : String) : Prop := ∃ column op, Text.FirstWords name.toList column op

section Field

variable {LeftOut LeftOut' : String → Prop} {defaultTable name value : String} {c : Condition}

theorem exists_qualifiedAs (defaultTable : String) (column : List Char) :
    ∃ left, QualifiedAs defaultTable column left := by
  by_cases h : '.' ∈ column ∨ defaultTable = ""
  · exact ⟨_, .kept h⟩
  · exact ⟨_, .withTable (fun hdot => h (.inl hdot)) fun htable => h (.inr htable)⟩

theorem qualifiedAs_iff {column : List Char} {left : String} :
    QualifiedAs defaultTable column left ↔
      left = if column.contains '.' || defaultTable.isEmpty then String.ofList column
        else defaultTable ++ "." ++ String.ofList column := by
  have hkept : (column.contains '.' || defaultTable.isEmpty) = true ↔
      '.' ∈ column ∨ defaultTable = "" := by
    simp
  constructor
  · intro h
    cases h with
    | kept h => rw [if_pos (hkept.2 h)]
    | withTable hdot htable => rw [if_neg (mt hkept.1 (by simp [hdot, htable]))]
  · rintro rfl
    split
    · rename_i h
      exact .kept (hkept.1 h)
    · rename_i h
      obtain ⟨hdot, htable⟩ := not_or.1 (mt hkept.2 h)
      exact .withTable hdot htable

/-- A field gives a condition if it has a value that is not left out, and an operator. -/
theorem exists_fieldGives_iff :
    (∃ c, FieldGives LeftOut defaultTable name value c) ↔
      ¬ LeftOut value ∧ value ≠ allPlaceholder ∧ HasOperator name := by
  constructor
  · rintro ⟨c, hvalue, hall, hname, hleft⟩
    exact ⟨hvalue, hall, _, _, hname⟩
  · rintro ⟨hvalue, hall, column, op, hname⟩
    obtain ⟨left, hleft⟩ := exists_qualifiedAs defaultTable column
    exact ⟨_, .predicate hvalue hall hname hleft⟩

/-- A field gives one condition at most. -/
theorem FieldGives.unique {c' : Condition} (h : FieldGives LeftOut defaultTable name value c)
    (h' : FieldGives LeftOut defaultTable name value c') : c = c' := by
  obtain ⟨-, -, hname, hleft⟩ := h
  obtain ⟨-, -, hname', hleft'⟩ := h'
  obtain ⟨ws, hwords⟩ := Text.firstWords_iff.1 hname
  obtain ⟨ws', hwords'⟩ := Text.firstWords_iff.1 hname'
  obtain ⟨rfl, hrest⟩ := List.cons.inj (hwords.symm.trans hwords')
  obtain ⟨rfl, -⟩ := List.cons.inj hrest
  rw [qualifiedAs_iff.1 hleft, qualifiedAs_iff.1 hleft']

/-- A field that gives a condition gives it also if fewer values are left out. -/
theorem FieldGives.mono (h : FieldGives LeftOut defaultTable name value c)
    (hless : LeftOut' value → LeftOut value) : FieldGives LeftOut' defaultTable name value c := by
  cases h with
  | predicate hvalue hall hname hleft => exact .predicate (mt hless hvalue) hall hname hleft

theorem leftOut_iff (value : String) :
    (value.isEmpty || value == allPlaceholder) = true ↔ value = "" ∨ value = allPlaceholder := by
  simp

/-- **Which condition a field gives**: of the blank values only the empty one is left out. -/
theorem formCondition_eq_some_iff :
    (formCondition defaultTable name value).value = some c ↔
      FieldGives (· = "") defaultTable name value c := by
  constructor
  · intro h
    unfold formCondition at h
    split at h
    · cases h
    · rename_i hvalue
      obtain ⟨hne, hall⟩ := not_or.1 (mt (leftOut_iff value).2 hvalue)
      split at h
      · rename_i column op ws hwords
        cases h
        exact .predicate hne hall (Text.firstWords_iff.2 ⟨ws, hwords⟩) (qualifiedAs_iff.2 rfl)
      · cases h
  · rintro ⟨hne, hall, hname, hleft⟩
    obtain ⟨ws, hwords⟩ := Text.firstWords_iff.1 hname
    rw [qualifiedAs_iff.1 hleft, formCondition, if_neg (mt (leftOut_iff value).1 (not_or.2 ⟨hne, hall⟩)),
      hwords]
    rfl

end Field

/-! ## All fields -/

/-- Which conditions fields give: each in its turn one condition, or none. -/
inductive FieldsGive (LeftOut : String → Prop) (defaultTable : String) :
    List (String × String) → List Condition → Prop
  | nil : FieldsGive LeftOut defaultTable [] []
  | gives {name value : String} {c : Condition} {fields : List (String × String)} {cs : List Condition}
    (h : FieldGives LeftOut defaultTable name value c) (hs : FieldsGive LeftOut defaultTable fields cs) :
    FieldsGive LeftOut defaultTable ((name, value) :: fields) (c :: cs)
  | givesNone {name value : String} {fields : List (String × String)} {cs : List Condition}
    (h : ∀ c, ¬ FieldGives LeftOut defaultTable name value c)
    (hs : FieldsGive LeftOut defaultTable fields cs) :
    FieldsGive LeftOut defaultTable ((name, value) :: fields) cs

/-- Nothing but blanks, or nothing at all. -/
def Blank (value : String) : Prop := Text.AllBlank value.toList

section Fields

variable {LeftOut LeftOut' : String → Prop} {defaultTable : String} {fields : List (String × String)}
  {cs cs' : List Condition}

theorem FieldsGive.unique (h : FieldsGive LeftOut defaultTable fields cs)
    (h' : FieldsGive LeftOut defaultTable fields cs') : cs = cs' := by
  induction h generalizing cs' with
  | nil =>
    cases h'
    rfl
  | gives h hs ih =>
    cases h' with
    | gives h' hs' => rw [h.unique h', ih hs']
    | givesNone h' hs' => exact absurd h (h' _)
  | givesNone h hs ih =>
    cases h' with
    | gives h' hs' => exact absurd h' (h _)
    | givesNone h' hs' => exact ih hs'

/-- Fewer conditions are given if more values are left out. -/
theorem FieldsGive.length_le (h : FieldsGive LeftOut defaultTable fields cs)
    (h' : FieldsGive LeftOut' defaultTable fields cs') (hless : ∀ value, LeftOut' value → LeftOut value) :
    cs.length ≤ cs'.length := by
  induction h generalizing cs' with
  | nil => exact Nat.zero_le _
  | gives h hs ih =>
    cases h' with
    | gives h' hs' => exact Nat.succ_le_succ (ih hs')
    | givesNone h' hs' => exact absurd (h.mono (hless _)) (h' _)
  | givesNone h hs ih =>
    cases h' with
    | gives h' hs' => exact Nat.le_succ_of_le (ih hs')
    | givesNone h' hs' => exact ih hs'

theorem blank_of_eq_empty {value : String} (h : value = "") : Blank value := by
  subst h
  exact Text.allBlank_nil

/-- The conditions of a form are those that its fields give when only empty values are left out. -/
theorem fieldsGive_formConditions (defaultTable : String) (fields : List (String × String)) :
    FieldsGive (· = "") defaultTable fields (formConditions defaultTable fields).value := by
  induction fields with
  | nil => exact .nil
  | cons f fields ih =>
    obtain ⟨name, value⟩ := f
    rw [formConditions, Traced.value_bind, Traced.value_bind, Traced.value_pure]
    cases hfield : (formCondition defaultTable name value).value with
    | some c => exact .gives (formCondition_eq_some_iff.1 hfield) ih
    | none =>
      refine .givesNone (fun c hc => ?_) ih
      rw [formCondition_eq_some_iff.2 hc] at hfield
      cases hfield

theorem not_blank_allPlaceholder : ¬ Blank allPlaceholder := by
  intro h
  have hdash := h '-' (by decide)
  exact absurd hdash (by decide)

/-- Whether blank values are left out as well shows exactly in fields that have an operator. -/
theorem fieldsGive_blank_iff (h : FieldsGive (· = "") defaultTable fields cs) :
    FieldsGive Blank defaultTable fields cs ↔
      ∀ f ∈ fields, Blank f.2 → f.2 = "" ∨ ¬ HasOperator f.1 := by
  induction h with
  | nil => exact ⟨fun _ _ hf => absurd hf List.not_mem_nil, fun _ => .nil⟩
  | @gives name value c fields cs h hs ih =>
    obtain ⟨hne, -, hoperator⟩ := exists_fieldGives_iff.1 ⟨_, h⟩
    rw [List.forall_mem_cons, ← ih]
    constructor
    · intro hblank
      cases hblank with
      | gives h' hs' => exact ⟨fun hvalue => absurd hvalue (exists_fieldGives_iff.1 ⟨_, h'⟩).1, hs'⟩
      | givesNone h' hs' =>
        -- the later fields would give one condition more than they do
        exact absurd (hs'.length_le hs fun _ => blank_of_eq_empty) (Nat.not_succ_le_self _)
    · rintro ⟨hvalue, hs'⟩
      refine .gives (h.mono fun hblank => ?_) hs'
      exact (hvalue hblank).resolve_right (not_not.2 hoperator)
  | @givesNone name value fields cs h hs ih =>
    rw [List.forall_mem_cons, ← ih]
    constructor
    · intro hblank
      cases hblank with
      | gives h' hs' => exact absurd (h'.mono blank_of_eq_empty) (h _)
      | givesNone h' hs' =>
        refine ⟨fun hvalue => ?_, hs'⟩
        by_contra hgives
        obtain ⟨hne, hoperator⟩ := not_or.1 hgives
        have hall : value ≠ allPlaceholder := fun he => not_blank_allPlaceholder (he ▸ hvalue)
        have hgiven : ∃ c, FieldGives (· = "") defaultTable name value c :=
          exists_fieldGives_iff.2 ⟨hne, hall, not_not.1 hoperator⟩
        obtain ⟨c, hc⟩ := hgiven
        exact h c hc
    · rintro ⟨-, hs'⟩
      exact .givesNone (fun c hc => h c (hc.mono blank_of_eq_empty)) hs'

end Fields

/-- **Each field of a query form gives its condition**, in the order of the fields, and those of two lists
in turn are the conditions of the first and then those of the second. Blank values are left out exactly if
each of them is empty or stands in a field without an operator. -/
theorem formConditions_given_iff (defaultTable : String) (fields : List (String × String)) :
    (FieldsGive Blank defaultTable fields (formConditions defaultTable fields).value ↔
      ∀ f ∈ fields, Blank f.2 → f.2 = "" ∨ ¬ HasOperator f.1) ∧
    (∀ cs, FieldsGive (· = "") defaultTable fields cs ↔ cs = (formConditions defaultTable fields).value) ∧
    ∀ more, (formConditions defaultTable (fields ++ more)).value =
      (formConditions defaultTable fields).value ++ (formConditions defaultTable more).value := by
  have hgiven := fieldsGive_formConditions defaultTable fields
  refine ⟨fieldsGive_blank_iff hgiven, fun cs => ⟨fun h => h.unique hgiven, ?_⟩,
    formConditions_append defaultTable fields⟩
  rintro rfl
  exact hgiven

/-- **A field that holds two blanks gives a condition.** -/
theorem not_forall_formConditions_given :
    ¬ ∀ (defaultTable : String) (fields : List (String × String)),
      FieldsGive Blank defaultTable fields (formConditions defaultTable fields).value := by
  intro h
  have hgiven := h "u" [("u.name %", "  ")]
  have hvalue : (formConditions "u" [("u.name %", "  ")]).value =
      [.predicate "%" "u.name" "'  '"] := by rfl
  have hblank : Text.AllBlank "  ".toList := by decide
  rw [hvalue] at hgiven
  cases hgiven with
  | gives h hs => exact (exists_fieldGives_iff.1 ⟨_, h⟩).1 hblank
  | givesNone h hs => cases hs

end SemanticClient
