import Mathlib.Data.List.Forall2
import SemanticClient.Spec.Compiled

/-!
# Values cannot change the structure of a spec

A join spec is cut into segments and read before any variable is looked up: its **draft** has the tables
with their conditions as they are written. Looking variables up fills the draft in, and no value can do
more than that, whatever it contains.

* `value_splice_fills`: a value stands in place of the first marker of its condition and nowhere else.
* `readSegments_drafts`: every segment gives its draft filled in, or the draft's diagnostic.
* `compile_sameShape`: two compilations of one spec have the same shape, whatever their scopes hold.
-/

namespace SemanticClient.Spec

/-! ## Drafts -/

/-- A condition with some text in place of its first marker. One without a marker stays as it is. -/
def FillsMarker (condition filled : String) : Prop :=
  match Marked.first? condition.toList with
  | none => filled = condition
  | some m => ∃ literal, filled.toList = m.before ++ literal ++ m.after

/-- A table that is a draft with the marker of its condition filled in. -/
structure Join.Fills (draft j : Join) : Prop where
  kind : j.kind = draft.kind
  table : j.table = draft.table
  tableAlias : j.tableAlias = draft.tableAlias
  condition : Option.Rel FillsMarker draft.condition j.condition

namespace JoinList

/-- What a segment gives before any variable is looked up. -/
def draftSegment (mainKnown : Bool) (segment : List Char) : Except SpecError Join :=
  match Segment.ofText segment with
  | .joined kind table a condition =>
    .ok ⟨kind, String.ofList table, a.map String.ofList, some (String.ofList condition)⟩
  | .alone table a =>
    if mainKnown then .error (.extraMainTable (String.ofList (Text.trim segment)))
    else .ok ⟨.main, String.ofList table, a.map String.ofList, none⟩
  | .unreadable => .error (.invalidJoin (String.ofList (Text.trim segment)))

/-- What every segment gives before any variable is looked up. -/
def draftSegments : Bool → List (List Char) → List (Except SpecError Join)
  | _, [] => []
  | mainKnown, segment :: segments =>
    let d := draftSegment mainKnown segment
    d :: draftSegments (mainKnown || isMain d) segments

/-- A join spec before any variable is looked up. -/
def draft (spec : String) : JoinList := ofResults (draftSegments false (Text.split ',' spec.toList))

/-- A result that is a draft filled in, or the draft's own diagnostic. -/
inductive FillsResult : Except SpecError Join → Except SpecError Join → Prop
  | error (e : SpecError) : FillsResult (.error e) (.error e)
  | ok {d j : Join} (h : d.Fills j) : FillsResult (.ok d) (.ok j)

theorem FillsResult.isMain_eq {d r : Except SpecError Join} (h : FillsResult d r) :
    isMain d = isMain r := by
  cases h with
  | error e => rfl
  | ok h => simp only [isMain, h.kind]

end JoinList

/-! ## Filling in -/

/-- What stands in a condition for the variable of a path. -/
def literalOf (s : Scope) (path : List Char) : String :=
  (s.resolve path).value.literal?.getD (Variable.quote (String.ofList path))

theorem value_splice_of_none {condition : List Char} (h : Marked.first? condition = none)
    (s : Scope) : (splice s condition).value = condition := by
  unfold splice
  rw [h]
  rfl

theorem value_splice_of_some {condition : List Char} {m : Marked}
    (h : Marked.first? condition = some m) (s : Scope) :
    (splice s condition).value = m.before ++ (literalOf s m.path).toList ++ m.after := by
  unfold splice literalOf
  rw [h]
  by_cases hrest : (Marked.first? m.after).isSome <;>
    simp only [hrest, if_true, Bool.false_eq_true, if_false, Traced.value_bind] <;>
    cases (s.resolve m.path).value.literal? <;> rfl

/-- **A value stands in place of the first marker of its condition and nowhere else.** -/
theorem value_splice_fills (s : Scope) (condition : List Char) :
    FillsMarker (String.ofList condition) (String.ofList (splice s condition).value) := by
  unfold FillsMarker
  rw [String.toList_ofList, String.toList_ofList]
  cases hm : Marked.first? condition with
  | none => simp only [value_splice_of_none hm]
  | some m => exact ⟨(literalOf s m.path).toList, value_splice_of_some hm s⟩

namespace JoinList

/-- One segment: its form alone decides what it gives, the scope only fills a marker in. -/
theorem readSegment_draft (s : Scope) (mainKnown : Bool) (segment : List Char) :
    FillsResult (draftSegment mainKnown segment) (readSegment s mainKnown segment).value := by
  unfold draftSegment readSegment
  cases Segment.ofText segment with
  | joined kind table a condition =>
    exact .ok ⟨rfl, rfl, rfl, .some (value_splice_fills s condition)⟩
  | alone table a =>
    cases mainKnown with
    | true => exact .error _
    | false => exact .ok ⟨rfl, rfl, rfl, .none⟩
  | unreadable => exact .error _

/-- **All segments.** Which segment is the main table does not depend on the scope either. -/
theorem readSegments_drafts (s : Scope) (segments : List (List Char)) :
    ∀ mainKnown, List.Forall₂ FillsResult (draftSegments mainKnown segments)
      (readSegments s mainKnown segments).value := by
  induction segments with
  | nil => intro mainKnown; exact .nil
  | cons segment segments ih =>
    intro mainKnown
    have h := readSegment_draft s mainKnown segment
    refine .cons h ?_
    rw [h.isMain_eq]
    exact ih _

theorem ofResults_fills {ds rs : List (Except SpecError Join)} (h : List.Forall₂ FillsResult ds rs) :
    List.Forall₂ Join.Fills (ofResults ds).joins (ofResults rs).joins ∧
      (ofResults rs).diagnostics = (ofResults ds).diagnostics := by
  induction h with
  | nil => exact ⟨.nil, rfl⟩
  | cons hd hrest ih =>
    obtain ⟨hj, hdiag⟩ := ih
    cases hd with
    | error e => exact ⟨hj, congrArg (e :: ·) hdiag⟩
    | ok hfill => exact ⟨.cons hfill hj, hdiag⟩

/-- **A join spec is its draft filled in**, with the draft's diagnostics. -/
theorem parse_draft (s : Scope) (spec : String) :
    List.Forall₂ Join.Fills (draft spec).joins (parse s spec).value.joins ∧
      (parse s spec).value.diagnostics = (draft spec).diagnostics :=
  ofResults_fills (readSegments_drafts s _ false)

/-- The table that columns without one belong to is not filled in. -/
theorem defaultTable_fills {ds js : List Join} (h : List.Forall₂ Join.Fills ds js) :
    defaultTable js = defaultTable ds := by
  unfold defaultTable main?
  induction h with
  | nil => rfl
  | cons hd hrest ih =>
    rename_i d j ds js
    simp only [List.find?_cons, hd.kind]
    cases d.kind == .main with
    | true => simp only [hd.table, hd.tableAlias]
    | false => exact ih

end JoinList

/-! ## Two scopes -/

/-- Two tables that differ at most in what stands in place of the first marker of one condition. -/
structure Join.AlikeBut (condition : Option String) (j j' : Join) : Prop where
  kind : j.kind = j'.kind
  table : j.table = j'.table
  tableAlias : j.tableAlias = j'.tableAlias
  isSome : j.condition.isSome = j'.condition.isSome
  left : Option.Rel FillsMarker condition j.condition
  right : Option.Rel FillsMarker condition j'.condition

/-- Two compiled specs that differ at most in what stands in place of the first markers of the conditions
of a draft. -/
structure Compiled.SameShape (draft : JoinList) (c c' : Compiled) : Prop where
  diagnostics : c.diagnostics = c'.diagnostics
  orders : c.orders = c'.orders
  length : c.joins.length = c'.joins.length
  joins : ∀ (i : ℕ) (j j' : Join), c.joins[i]? = some j → c'.joins[i]? = some j' →
    ∃ d, draft.joins[i]? = some d ∧ j.AlikeBut d.condition j'

theorem isSome_eq_of_rel {r : String → String → Prop} {a b : Option String} (h : Option.Rel r a b) :
    b.isSome = a.isSome := by
  cases h with
  | none => rfl
  | some _ => rfl

theorem Join.Fills.alikeBut {d j j' : Join} (h : d.Fills j) (h' : d.Fills j') :
    j.AlikeBut d.condition j' where
  kind := h.kind.trans h'.kind.symm
  table := h.table.trans h'.table.symm
  tableAlias := h.tableAlias.trans h'.tableAlias.symm
  isSome := (isSome_eq_of_rel h.condition).trans (isSome_eq_of_rel h'.condition).symm
  left := h.condition
  right := h'.condition

theorem Compiled.sameShape_of_fills {draft : JoinList} {orders : List Order}
    {joins joins' : List Join} (h : List.Forall₂ Join.Fills draft.joins joins)
    (h' : List.Forall₂ Join.Fills draft.joins joins') :
    SameShape draft ⟨joins, orders, draft.diagnostics⟩ ⟨joins', orders, draft.diagnostics⟩ where
  diagnostics := rfl
  orders := rfl
  length := h.length_eq.symm.trans h'.length_eq
  joins := by
    intro i j j' hj hj'
    obtain ⟨hi, rfl⟩ := List.getElem?_eq_some_iff.1 hj
    obtain ⟨hi', rfl⟩ := List.getElem?_eq_some_iff.1 hj'
    have hd : i < draft.joins.length := h.length_eq ▸ hi
    exact ⟨draft.joins[i], List.getElem?_eq_getElem hd, (h.get hd hi).alikeBut (h'.get hd hi')⟩

/-- **Values cannot change the structure of a compiled spec.** In any two scopes a spec is refused for
the same reason, or compiles to the same shape. -/
theorem compile_sameShape (s s' : Scope) (joinSpec : String) (orderSpec : Option String) :
    match (compile s joinSpec orderSpec).value, (compile s' joinSpec orderSpec).value with
    | .ok c, .ok c' => c.SameShape (JoinList.draft joinSpec) c'
    | .error e, .error e' => e = e'
    | _, _ => False := by
  obtain ⟨h, hd⟩ := JoinList.parse_draft s joinSpec
  obtain ⟨h', hd'⟩ := JoinList.parse_draft s' joinSpec
  have ht := JoinList.defaultTable_fills h
  have ht' := JoinList.defaultTable_fills h'
  unfold compile
  simp only [Traced.value_bind, Traced.value_pure, hd, hd', ht, ht']
  cases orderSpec with
  | none => exact Compiled.sameShape_of_fills h h'
  | some spec =>
    simp only
    cases Order.parse spec (defaultTable (JoinList.draft joinSpec).joins) with
    | error e => rfl
    | ok orders => exact Compiled.sameShape_of_fills h h'

end SemanticClient.Spec
