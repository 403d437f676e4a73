import SemanticClient.Request.Dataset
import SemanticClient.Request.Update
import SemanticClient.Spec.Compiled

/-!
# What builder calls append

A batch call appends all that it is given to one list of a request and leaves the rest of it alone. A main
table among joined tables is the one thing that is not appended.

* `foldl_append_one`: appending one by one is appending the whole list.
* `Traced.foldlM_append`: calls that each append to a list append, one after the other, all that they give.
* `Compiled.value_toQuery`: the query of a compiled spec, member by member.
-/

namespace SemanticClient

/-- The results of steps that a list is taken through are those of its items. -/
theorem Traced.value_mapM {ε α β : Type} (f : α → Traced ε β) (as : List α) :
    (as.mapM f).value = as.map fun a => (f a).value := by
  induction as with
  | nil => rfl
  | cons a as ih =>
    rw [List.mapM_cons, List.map_cons, ← ih]
    rfl

/-- **Calls that each append to a list append all that they give**, in the order of the calls. -/
theorem Traced.foldlM_append {ε σ α β : Type} (get : σ → List β) {call : σ → α → Traced ε σ}
    {given : α → List β} (h : ∀ s a, get (call s a).value = get s ++ given a) (as : List α) :
    ∀ s, get (as.foldlM call s).value = get s ++ as.flatMap given := by
  induction as with
  | nil =>
    intro s
    rw [List.flatMap_nil, List.append_nil]
    rfl
  | cons a as ih =>
    intro s
    rw [List.foldlM_cons, Traced.value_bind, ih, h, List.append_assoc, List.flatMap_cons]

/-- **Appending one by one is appending the whole list.** The list is a field that can be read and set. -/
theorem foldl_append_one {σ α β : Type} (get : σ → List β) (set : σ → List β → σ) (g : α → β)
    (get_set : ∀ s l, get (set s l) = l) (set_set : ∀ s l l', set (set s l) l' = set s l')
    (set_get : ∀ s, set s (get s) = s) (as : List α) :
    ∀ s, as.foldl (fun s a => set s (get s ++ [g a])) s = set s (get s ++ as.map g) := by
  induction as with
  | nil =>
    intro s
    rw [List.foldl_nil, List.map_nil, List.append_nil, set_get]
  | cons a as ih =>
    intro s
    rw [List.foldl_cons, ih, get_set, set_set, List.append_assoc, List.map_cons, List.singleton_append]

namespace Select

variable (s : Select)

theorem foldl_addExpr (es : List (String × Option String)) :
    es.foldl addExpr s = { s with exprs := s.exprs ++ es } := by
  have h := foldl_append_one Select.exprs (fun s l => { s with exprs := l }) id (fun _ _ => rfl)
    (fun _ _ _ => rfl) (fun _ => rfl) es s
  rw [List.map_id] at h
  exact h

theorem foldl_addCondition (cs : List Condition) :
    cs.foldl addCondition s = { s with conditions := s.conditions ++ cs } := by
  have h := foldl_append_one Select.conditions (fun s l => { s with conditions := l }) id
    (fun _ _ => rfl) (fun _ _ _ => rfl) (fun _ => rfl) cs s
  rw [List.map_id] at h
  exact h

theorem foldl_addOrder (orders : List Spec.Order) :
    orders.foldl (fun s o => s.addOrder o.column o.direction) s =
      { s with orders := s.orders ++ orders.map fun o => (o.column, o.direction) } :=
  foldl_append_one Select.orders (fun s l => { s with orders := l })
    (fun o : Spec.Order => (o.column, o.direction)) (fun _ _ => rfl) (fun _ _ _ => rfl) (fun _ => rfl)
    orders s

/-- Joined tables are appended, without any main tables among them. -/
theorem value_addJoins (joins : List Spec.Join) :
    (s.addJoins joins).value = { s with joins := s.joins ++ joins.filter (·.kind != .main) } := by
  unfold addJoins
  induction joins generalizing s with
  | nil =>
    rw [List.foldlM_nil, List.filter_nil, List.append_nil]
    rfl
  | cons j joins ih =>
    rw [List.foldlM_cons, Traced.value_bind, ih]
    by_cases hmain : j.kind = .main
    · simp only [addJoin, hmain, if_true, Traced.value_bind, Traced.value_pure, List.filter_cons,
        bne_self_eq_false, Bool.false_eq_true, if_false]
    · have hjoined : (j.kind != .main) = true := bne_iff_ne.2 hmain
      simp only [addJoin, hmain, if_false, Traced.value_pure, List.filter_cons, hjoined, if_true,
        List.append_assoc, List.singleton_append]

end Select

/-- The arguments that a builder call gives to a dataset request. -/
def DatasetCall.givenArgs : DatasetCall → List Json
  | .args vs => vs
  | .arg v => [v]
  | .select _ | .treeSemantics _ | .rootId _ => []

namespace Dataset

/-- What builder calls make of a request, one after the other. -/
def addAll (d : Dataset) (calls : List DatasetCall) : Logged Dataset := calls.foldlM add d

/-- **Arguments are kept**, and those of later calls come behind them. -/
theorem args_addAll (d : Dataset) (calls : List DatasetCall) :
    (d.addAll calls).value.args = d.args ++ calls.flatMap DatasetCall.givenArgs := by
  refine Traced.foldlM_append Dataset.args (fun d call => ?_) calls d
  cases call with
  | args vs => rfl
  | arg v => rfl
  | select c => exact (List.append_nil _).symm
  | treeSemantics v => exact (List.append_nil _).symm
  | rootId r => exact (List.append_nil _).symm

end Dataset

/-- A call of an update's builder. -/
inductive UpdateCall where
  | value (name value : String)
  | values (values : List (String × String))
  | condition (op left right : String)
  | conditions (conditions : List Condition)
  | post (post : Update)
  | posts (posts : List Update)

/-- The conditions that a builder call gives to an update. -/
def UpdateCall.givenConditions : UpdateCall → List Condition
  | .condition op left right => [.predicate op left right]
  | .conditions cs => cs
  | .value _ _ | .values _ | .post _ | .posts _ => []

namespace Update

/-- What a builder call makes of a request. -/
def add (u : Update) : UpdateCall → Logged Update
  | .value name value => pure (u.addValues [(name, value)])
  | .values vs => pure (u.addValues vs)
  | .condition op left right => pure (u.addConditions [.predicate op left right])
  | .conditions cs => pure (u.addConditions cs)
  | .post v => pure (u.addPost v)
  | .posts vs => u.addPosts vs

/-- What builder calls make of a request, one after the other. -/
def addAll (u : Update) (calls : List UpdateCall) : Logged Update := calls.foldlM add u

theorem value_addPosts (u : Update) (posts : List Update) :
    (u.addPosts posts).value = { u with posts := u.posts ++ posts } := by
  unfold addPosts
  cases posts <;> rfl

/-- **Conditions are kept**, and those of later calls come behind them. -/
theorem conditions_addAll (u : Update) (calls : List UpdateCall) :
    (u.addAll calls).value.conditions = u.conditions ++ calls.flatMap UpdateCall.givenConditions := by
  refine Traced.foldlM_append Update.conditions (fun u call => ?_) calls u
  cases call with
  | condition op left right => rfl
  | conditions cs => rfl
  | value name value => exact (List.append_nil _).symm
  | values vs => exact (List.append_nil _).symm
  | post v => exact (List.append_nil _).symm
  | posts vs =>
    rw [add, value_addPosts]
    exact (List.append_nil _).symm

end Update

namespace Spec.Compiled

/-- The query of a compiled spec with a main table. -/
def queryOf (c : Compiled) (connection : Option String) (main : Join) : Query where
  action := .read
  select := { Select.ofTable connection main.table main.tableAlias with
    joins := c.joins.filter (·.kind != .main)
    orders := c.orders.map fun o => (o.column, o.direction) }

/-- **The query of a compiled spec**: the main table, every other table in the order of the spec, and
every order. Without a main table there is none. -/
theorem value_toQuery (c : Compiled) (connection : Option String) :
    (c.toQuery connection).value =
      match c.main? with
      | none => .error (.noMainTable (", ".intercalate (c.joins.map (·.table))))
      | some main => .ok (c.queryOf connection main) := by
  unfold toQuery
  cases c.main? with
  | none => rfl
  | some main =>
    have hjoins := Select.value_addJoins (.ofTable connection main.table main.tableAlias)
      (c.joins.filter (·.kind != .main))
    rw [List.filter_filter] at hjoins
    simp only [Query.ofTable, Query.add, Select.add, Traced.value_bind, Traced.value_pure, hjoins,
      Select.foldl_addOrder, Bool.and_self]
    rfl

end Spec.Compiled
end SemanticClient
