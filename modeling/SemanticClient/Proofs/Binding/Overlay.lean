import SemanticClient.Proofs.Binding.Tables

/-!
# Options laid over options

Merging lays options over others: each option that the upper ones set is kept, and each that they leave
open is the lower ones'. So the laws of an overlay follow option by option, whether an option is a value
that may be missing or a list. A merge names no handler that neither of its parts names.

* `BindOptions.get_merge_of_sets`, `BindOptions.get_merge_of_not_sets`: one option of a merge.
* `BindOptions.eq_of_get`: options are the same if they are the same one by one.
* `BindOptions.merge_assoc`, `BindOptions.merge_self`: laws of an overlay.
* `BindOptions.namesHandler_of_validate`: a check that fails for a handler names one that is set.
* `BindOptions.merge_overlays`: all of it together.
-/

namespace SemanticClient

/-! ## Options by name -/

/-- An option of a binding. -/
inductive BindOption where
  | joinSpec | semanticKey | queryForm | args | sqlArgs | orderSpec | exprs | pageSize | rowKey | select
  | onClick | onChange | onLoad | onCheck | onCheckAll

namespace BindOption

/-- What an option holds: a value that may be missing, or a list. -/
abbrev Value : BindOption → Type
  | args => Option Json
  | sqlArgs => List String
  | exprs => List (String × Option String)
  | pageSize => Option Int64
  | _ => Option String

/-- What an option holds that is not set: no value, or the empty list. -/
def unset : (k : BindOption) → k.Value
  | sqlArgs | exprs => []
  | joinSpec | semanticKey | queryForm | args | orderSpec | pageSize | rowKey | select | onClick
  | onChange | onLoad | onCheck | onCheckAll => none

end BindOption

namespace BindOptions

/-- An option by its name. -/
def get (o : BindOptions) : (k : BindOption) → k.Value
  | .joinSpec => o.joinSpec
  | .semanticKey => o.semanticKey
  | .queryForm => o.queryForm
  | .args => o.args
  | .sqlArgs => o.sqlArgs
  | .orderSpec => o.orderSpec
  | .exprs => o.exprs
  | .pageSize => o.pageSize
  | .rowKey => o.rowKey
  | .select => o.select
  | .onClick => o.onClick
  | .onChange => o.onChange
  | .onLoad => o.onLoad
  | .onCheck => o.onCheck
  | .onCheckAll => o.onCheckAll

/-- Options set an option: they have a value for it, or a list that is not empty. -/
def Sets (o : BindOptions) (k : BindOption) : Prop := o.get k ≠ k.unset

/-- Options are the same if they are the same one by one. -/
theorem eq_of_get {a b : BindOptions} (h : ∀ k, a.get k = b.get k) : a = b := by
  cases a
  cases b
  rw [mk.injEq]
  exact ⟨h .joinSpec, h .semanticKey, h .queryForm, h .args, h .sqlArgs, h .orderSpec, h .exprs,
    h .pageSize, h .rowKey, h .select, h .onClick, h .onChange, h .onLoad, h .onCheck, h .onCheckAll⟩

/-! ## One option of a merge -/

theorem orElse_of_ne_none {α : Type} {u : Option α} (h : u ≠ none) (v : Option α) :
    (u <|> v) = u := by
  cases u with
  | none => exact absurd rfl h
  | some a => rfl

theorem orList_of_ne_nil {α : Type} {u : List α} (h : u ≠ []) (v : List α) : orList u v = u := by
  cases u with
  | nil => exact absurd rfl h
  | cons a u => rfl

variable {a b c : BindOptions} {k : BindOption}

/-- An option that the upper options set is kept. -/
theorem get_merge_of_sets (h : a.Sets k) : (a.merge b).get k = a.get k := by
  cases k with
  | sqlArgs => exact orList_of_ne_nil h _
  | exprs => exact orList_of_ne_nil h _
  | _ => exact orElse_of_ne_none h _

/-- Where the upper options set none, the lower ones show. -/
theorem get_merge_of_not_sets (h : ¬ a.Sets k) : (a.merge b).get k = b.get k := by
  have hunset : a.get k = k.unset := not_not.1 h
  cases k with
  | sqlArgs => exact congrArg (orList · b.sqlArgs) hunset
  | exprs => exact congrArg (orList · b.exprs) hunset
  | _ => exact congrArg (· <|> b.get _) hunset

/-- A merge sets what either of its parts sets. -/
theorem sets_merge_iff : (a.merge b).Sets k ↔ a.Sets k ∨ b.Sets k := by
  by_cases ha : a.Sets k
  · rw [Sets, get_merge_of_sets ha]
    exact ⟨.inl, fun _ => ha⟩
  · rw [Sets, get_merge_of_not_sets ha]
    exact ⟨.inr, fun h => h.resolve_left ha⟩

/-! ## Laws of an overlay -/

/-- **Three layers of options** lie over one another the same way, whichever two are merged first. -/
theorem merge_assoc (a b c : BindOptions) : (a.merge b).merge c = a.merge (b.merge c) := by
  refine eq_of_get fun k => ?_
  by_cases ha : a.Sets k
  · rw [get_merge_of_sets (sets_merge_iff.2 (.inl ha)), get_merge_of_sets ha, get_merge_of_sets ha]
  · rw [get_merge_of_not_sets ha]
    by_cases hb : b.Sets k
    · rw [get_merge_of_sets (sets_merge_iff.2 (.inr hb)), get_merge_of_not_sets ha,
        get_merge_of_sets hb]
    · have hab : ¬ (a.merge b).Sets k := fun h => (sets_merge_iff.1 h).elim ha hb
      rw [get_merge_of_not_sets hab, get_merge_of_not_sets hb]

theorem merge_self (a : BindOptions) : a.merge a = a := by
  refine eq_of_get fun k => ?_
  by_cases ha : a.Sets k
  · exact get_merge_of_sets ha
  · exact get_merge_of_not_sets ha

/-! ## Handlers -/

/-- Options name a handler for something that happens to the binding. -/
inductive NamesHandler (o : BindOptions) (id : String) : Prop
  | onClick (h : o.onClick = some id)
  | onChange (h : o.onChange = some id)
  | onLoad (h : o.onLoad = some id)
  | onCheck (h : o.onCheck = some id)
  | onCheckAll (h : o.onCheckAll = some id)

/-- The hooks of options are the handlers that they name. -/
theorem namesHandler_of_mem_hooks {o : BindOptions} {hook : String × String} (h : hook ∈ o.hooks) :
    o.NamesHandler hook.2 := by
  obtain ⟨option, hoption, hid⟩ := List.mem_filterMap.1 h
  obtain ⟨id, hset, rfl⟩ := Option.map_eq_some_iff.1 hid
  simp only [List.mem_cons, List.not_mem_nil, or_false] at hoption
  rcases hoption with rfl | rfl | rfl | rfl | rfl
  · exact .onClick hset
  · exact .onChange hset
  · exact .onLoad hset
  · exact .onCheck hset
  · exact .onCheckAll hset

theorem orElse_eq_some {α : Type} {u v : Option α} {x : α} (h : (u <|> v) = some x) :
    u = some x ∨ v = some x := by
  cases u with
  | none => exact .inr h
  | some y => exact .inl h

/-- **A merge names no handler of its own.** -/
theorem NamesHandler.of_merge {id : String} (h : (a.merge b).NamesHandler id) :
    a.NamesHandler id ∨ b.NamesHandler id := by
  cases h with
  | onClick h => exact (orElse_eq_some h).imp .onClick .onClick
  | onChange h => exact (orElse_eq_some h).imp .onChange .onChange
  | onLoad h => exact (orElse_eq_some h).imp .onLoad .onLoad
  | onCheck h => exact (orElse_eq_some h).imp .onCheck .onCheck
  | onCheckAll h => exact (orElse_eq_some h).imp .onCheckAll .onCheckAll

/-- **A check that fails for a handler** names one that the options set and nobody registered. -/
theorem namesHandler_of_validate {o : BindOptions} {handlers : Handlers} {id : String}
    (h : (o.validate handlers).value = .error (.unregisteredHandler id)) :
    o.NamesHandler id ∧ Keyed.contains handlers id = false := by
  rw [value_validate] at h
  cases hfault : o.fault? with
  | some e =>
    rw [hfault] at h
    obtain ⟨reason, rfl⟩ := exists_eq_of_fault? hfault
    cases h
  | none =>
    rw [hfault] at h
    obtain ⟨hook, hmem, hmissing, hid⟩ := exists_mem_of_checkHooks_error h
    cases hid
    exact ⟨namesHandler_of_mem_hooks hmem, hmissing⟩

/-- **Merging lays options over options.** The order in which three are merged does not matter, options
that set nothing change nothing on either side, and options laid over themselves stay the same. Each option
that the upper ones set is kept, and each that they leave open is the lower ones'. If what is wrong with a
merge is a handler that nobody registered, then one of its parts names that handler. -/
theorem merge_overlays (a b c : BindOptions) :
    (a.merge b).merge c = a.merge (b.merge c) ∧
    empty.merge a = a ∧ a.merge empty = a ∧ a.merge a = a ∧
    (∀ k, a.Sets k → (a.merge b).get k = a.get k) ∧
    (∀ k, ¬ a.Sets k → (a.merge b).get k = b.get k) ∧
    ∀ (handlers : Handlers) (id : String),
      ((a.merge b).validate handlers).value = .error (.unregisteredHandler id) →
        a.NamesHandler id ∨ b.NamesHandler id :=
  ⟨merge_assoc a b c, empty_merge a, merge_empty a, merge_self a, fun _ => get_merge_of_sets,
    fun _ => get_merge_of_not_sets,
    fun _ _ h => (namesHandler_of_validate h).1.of_merge⟩

/-- Options given in code over declared ones, and a handler that nobody registered. -/
theorem merge_overlays_users :
    let given : BindOptions := { empty with pageSize := some 20, onLoad := some "loadUsers" }
    let declared : BindOptions :=
      { empty with joinSpec := some "a_users:u", pageSize := some 50, sqlArgs := ["x"] }
    (given.Sets .pageSize ∧ (given.merge declared).pageSize = some 20) ∧
      (¬ given.Sets .sqlArgs ∧ (given.merge declared).sqlArgs = ["x"]) ∧
      (((given.merge declared).validate []).value = .error (.unregisteredHandler "loadUsers") ∧
        (given.NamesHandler "loadUsers" ∨ declared.NamesHandler "loadUsers")) := by
  intro given declared
  obtain ⟨-, -, -, -, hsets, hleft, hhandler⟩ := merge_overlays given declared empty
  have hsize : given.Sets .pageSize := Option.some_ne_none _
  have hargs : ¬ given.Sets .sqlArgs := fun h => h rfl
  have hvalidate : ((given.merge declared).validate []).value =
      .error (.unregisteredHandler "loadUsers") := by rfl
  exact ⟨⟨hsize, hsets .pageSize hsize⟩, ⟨hargs, hleft .sqlArgs hargs⟩,
    ⟨hvalidate, hhandler [] "loadUsers" hvalidate⟩⟩

end BindOptions
end SemanticClient
