import SemanticClient.Binding.Binder
import SemanticClient.Proofs.Request.Building

/-!
# Requests of valid options

Options are valid if they name something to query: a semantic key or a join spec that is not blank. A
binding with a semantic key always gets a dataset request; any other gets a query, unless its specs do not
compile. So the check that options are complete is made once and needs no second chance.

* `Order.exists_parse_eq_error_iff`: an order spec is refused for its segments alone.
* `Binder.value_buildRequest_of_key`, `Binder.value_buildRequest_of_joins`: what options are compiled to.
* `Binder.buildRequest_of_valid`: the request of valid options.
-/

namespace SemanticClient

/-! ## Semantic keys -/

namespace SemanticKey

/-- What the arguments of a semantic key stand for, by position. -/
def resolvedArgs (s : Scope) (text : String) : List Variable :=
  ((Text.split ',' (Text.trim text.toList)).drop 1).map fun a => (readArg s a).value

/-- What stands before the first comma of a text, without the blanks around it. -/
def keyText (text : String) : List Char :=
  Text.trim ((Text.split ',' (Text.trim text.toList)).headD [])

theorem value_parse?_of_blank (s : Scope) {text : String} (h : Text.blankString text = true) :
    (parse? s text).value = none := by
  have htrim : (Text.trim text.toList).isEmpty = true := h
  unfold parse?
  simp only [htrim, if_true, Traced.value_pure]

/-- The key of a text is read from what stands before its first comma. -/
theorem value_parse? (s : Scope) {text : String} (h : Text.blankString text = false) :
    (parse? s text).value = some ⟨(readKey (keyText text)).value, resolvedArgs s text⟩ := by
  have htrim : (Text.trim text.toList).isEmpty = false := h
  unfold parse? resolvedArgs keyText
  simp only [htrim, Bool.false_eq_true, if_false]
  cases hsplit : Text.split ',' (Text.trim text.toList) with
  | nil => exact absurd hsplit (Text.splitWhere_ne_nil _ _)
  | cons key args =>
    simp only [Traced.value_bind, Traced.value_pure, Traced.value_mapM, List.drop_succ_cons,
      List.drop_zero, List.headD_cons]

/-- **A text that is not blank has a key**, with all of its arguments. -/
theorem exists_value_parse? (s : Scope) {text : String} (h : Text.blankString text = false) :
    ∃ key, (parse? s text).value = some ⟨key, resolvedArgs s text⟩ :=
  ⟨_, value_parse? s h⟩

end SemanticKey

/-! ## Order specs -/

namespace Spec

namespace Order

/-- A segment that is not blank and is no column to sort by, whatever table it would belong to. -/
def Unparsable (segment : List Char) : Prop :=
  (Text.trim segment).isEmpty = false ∧ ∀ table, ofSegment? table segment = none

/-- Some segment of an order spec is unparsable. -/
def Refused (spec : String) : Prop := ∃ segment ∈ Text.split ',' spec.toList, Unparsable segment

theorem isSome_withDirection? (table table' : String) (field cs : List Char) :
    (withDirection? table field cs).isSome = (withDirection? table' field cs).isSome := by
  unfold withDirection?
  cases direction? (Text.trim cs) with
  | none => rfl
  | some d => rfl

/-- Whether a segment is read does not depend on the table that columns without one belong to. -/
theorem isSome_ofSegment? (table table' : String) (segment : List Char) :
    (ofSegment? table segment).isSome = (ofSegment? table' segment).isSome := by
  unfold ofSegment?
  cases name? (Text.trimLeft segment) with
  | none => rfl
  | some first =>
    obtain ⟨name, cs⟩ := first
    simp only [Option.bind_eq_bind, Option.bind_some]
    split
    · rfl
    · exact isSome_withDirection? table table' name _

theorem unparsable_iff {table : String} {segment : List Char}
    (hblank : (Text.trim segment).isEmpty = false) :
    Unparsable segment ↔ ofSegment? table segment = none := by
  constructor
  · intro h
    exact h.2 table
  · intro h
    refine ⟨hblank, fun table' => ?_⟩
    rw [← Option.not_isSome_iff_eq_none, isSome_ofSegment? table' table, h]
    exact Bool.false_ne_true

theorem exists_ofSegments_eq_error_iff (spec table : String) (segments : List (List Char)) :
    (∃ e, ofSegments spec table segments = .error e) ↔ ∃ segment ∈ segments, Unparsable segment := by
  induction segments with
  | nil =>
    constructor
    · rintro ⟨e, h⟩
      cases h
    · rintro ⟨segment, hmem, -⟩
      cases hmem
  | cons segment segments ih =>
    simp only [List.mem_cons, exists_eq_or_imp]
    rw [← ih, ofSegments]
    cases hblank : (Text.trim segment).isEmpty with
    | true =>
      have hparsable : ¬ Unparsable segment := by
        intro h
        rw [h.1] at hblank
        cases hblank
      simp only [if_true, hparsable, false_or]
    | false =>
      rw [unparsable_iff hblank]
      cases hread : ofSegment? table segment with
      | none => simp
      | some o =>
        cases ofSegments spec table segments with
        | error e => simp [bind, Except.bind]
        | ok orders => simp [bind, Except.bind, pure, Except.pure]

/-- **An order spec is refused** exactly when some segment is unparsable; nothing else counts. -/
theorem exists_parse_eq_error_iff (spec table : String) :
    (∃ e, parse spec table = .error e) ↔ Refused spec :=
  exists_ofSegments_eq_error_iff spec table _

end Order

/-- The orders of a spec that may be missing. -/
def ordersOf (orderSpec : Option String) (joins : List Join) : Except SpecError (List Order) :=
  match orderSpec with
  | none => .ok []
  | some spec => Order.parse spec (defaultTable joins)

theorem exists_ordersOf_eq_error_iff (orderSpec : Option String) (joins : List Join) :
    (∃ e, ordersOf orderSpec joins = .error e) ↔ ∃ spec ∈ orderSpec, Order.Refused spec := by
  cases orderSpec with
  | none => simp [ordersOf]
  | some spec =>
    simp only [ordersOf, Option.mem_some_iff, exists_eq_left']
    exact Order.exists_parse_eq_error_iff spec (defaultTable joins)

/-- What two specs compile to: the tables as they are read, with the orders. -/
theorem value_compile (s : Scope) (joinSpec : String) (orderSpec : Option String) :
    (compile s joinSpec orderSpec).value =
      (ordersOf orderSpec (JoinList.parse s joinSpec).value.joins).map fun orders =>
        ⟨(JoinList.parse s joinSpec).value.joins, orders, (JoinList.parse s joinSpec).value.diagnostics⟩ := by
  unfold compile ordersOf
  simp only [Traced.value_bind, Traced.value_pure]
  cases orderSpec with
  | none => rfl
  | some spec =>
    simp only
    cases Order.parse spec (defaultTable (JoinList.parse s joinSpec).value.joins) with
    | error e => rfl
    | ok orders => rfl

end Spec

/-! ## Options -/

namespace BindOptions

theorem value_argPool (o : BindOptions) : o.argPool.value = o.args.bind Pool.ofJson? := by
  unfold argPool
  cases o.args with
  | none => rfl
  | some args =>
    simp only [Option.bind_some]
    cases Pool.ofJson? args with
    | none => rfl
    | some pool => rfl

/-- Valid options have no fault. -/
theorem fault?_of_validate {o : BindOptions} {handlers : Handlers}
    (h : (o.validate handlers).value = .ok ()) : o.fault? = none := by
  rw [value_validate] at h
  cases hfault : o.fault? with
  | none => rfl
  | some e =>
    rw [hfault] at h
    cases h

/-- **Valid options name something to query.** -/
theorem isBlank_of_validate {o : BindOptions} {handlers : Handlers}
    (h : (o.validate handlers).value = .ok ()) (hkey : isBlank o.semanticKey = true) :
    isBlank o.joinSpec = false := by
  have hfault := fault?_of_validate h
  unfold fault? at hfault
  cases hspec : isBlank o.joinSpec with
  | false => rfl
  | true =>
    rw [hspec, hkey] at hfault
    cases hfault

/-- An option that is not blank is set. -/
theorem exists_of_isBlank_eq_false {s : Option String} (h : isBlank s = false) :
    ∃ text, s = some text ∧ Text.blankString text = false := by
  cases s with
  | none => cases h
  | some text => exact ⟨text, rfl, h⟩

end BindOptions

/-! ## Requests -/

/-- A selection has the columns and the conditions of a binding, and asks for no page. -/
structure Select.Carries (s : Select) (o : BindOptions) (conditions : List Condition) : Prop where
  exprs : s.exprs = o.exprs
  conditions : s.conditions = conditions
  page : s.page = -1
  size : s.size = -1

namespace Binder

open Spec

/-- Where the variables of a binding are looked up. -/
def scope (b : Binder) (o : BindOptions) : Scope := ⟨o.args.bind Pool.ofJson?, b.ambient⟩

theorem value_datasetOf (connection : Option String) (o : BindOptions) (conditions : List Condition)
    (k : SemanticKey) :
    (datasetOf connection o conditions k).value =
      { action := .sqlTree
        select := { Select.ofTable connection k.key none with exprs := o.exprs, conditions }
        semanticKey := (some k.key).filter (!·.isEmpty)
        args := k.argsJson ++ o.sqlArgs.map .string
        treeSemantics := none
        rootId := none } := by
  have haction (key : Option String) : (Dataset.actionFor key .sqlTree).value = .sqlTree := by
    cases key with
    | none => rfl
    | some key => rfl
  simp only [datasetOf, Dataset.ofSemanticKey, Dataset.ofTable, Dataset.add, Select.add,
    Traced.value_bind, Traced.value_pure, haction, Select.foldl_addExpr, Select.foldl_addCondition,
    List.nil_append]
  rfl

/-- A query with the columns and conditions of a binding after its own. -/
def withOptions (o : BindOptions) (conditions : List Condition) (q : Query) : Query :=
  { q with select := { q.select with
    exprs := q.select.exprs ++ o.exprs
    conditions := q.select.conditions ++ conditions } }

theorem value_queryOf (connection : Option String) (s : Scope) (o : BindOptions)
    (conditions : List Condition) (joinSpec : String) :
    (queryOf connection s o conditions joinSpec).value =
      ((compile s joinSpec o.orderSpec).value.bind fun c => (c.toQuery connection).value).map
        (withOptions o conditions) := by
  unfold queryOf
  rw [Traced.value_bind]
  cases (compile s joinSpec o.orderSpec).value with
  | error e => rfl
  | ok c =>
    simp only [Traced.value_bind, Except.bind]
    cases (c.toQuery connection).value with
    | error e => rfl
    | ok q =>
      simp only [Query.add, Select.add, Traced.value_bind, Traced.value_pure, Select.foldl_addExpr,
        Select.foldl_addCondition]
      rfl

/-- The semantic key of a binding, if it has one that is not blank. -/
def keyOf? (b : Binder) (o : BindOptions) : Option SemanticKey :=
  o.semanticKey.bind fun sk => (SemanticKey.parse? (b.scope o) sk).value

/-- The request of a binding without a semantic key. -/
def joinsRequest (b : Binder) (o : BindOptions) (conditions : List Condition) :
    Except ClientError PagedRequest :=
  match o.joinSpec with
  | none => .error (.invalidOptions "no join spec (t) to query")
  | some joinSpec =>
    match (queryOf b.client.config.connection (b.scope o) o conditions joinSpec).value with
    | .ok q => .ok (.query q)
    | .error e => .error (.compilation e.message)

/-- **What a binding is compiled to.** A semantic key wins over a join spec. -/
theorem value_buildRequest (b : Binder) (o : BindOptions) (conditions : List Condition) :
    (b.buildRequest o conditions).value =
      match b.keyOf? o with
      | some key => .ok (.dataset (datasetOf b.client.config.connection o conditions key).value)
      | none => b.joinsRequest o conditions := by
  have hquery (joinSpec : String) :
      (do match ← queryOf b.client.config.connection (b.scope o) o conditions joinSpec with
          | .ok q => return .ok (.query q)
          | .error e => return .error (.compilation e.message) :
        Logged (Except ClientError PagedRequest)).value =
      match (queryOf b.client.config.connection (b.scope o) o conditions joinSpec).value with
      | .ok q => .ok (.query q)
      | .error e => .error (.compilation e.message) := by
    rw [Traced.value_bind]
    cases (queryOf b.client.config.connection (b.scope o) o conditions joinSpec).value with
    | ok q => rfl
    | error e => rfl
  unfold buildRequest keyOf? joinsRequest
  rw [Traced.value_bind, BindOptions.value_argPool]
  cases o.semanticKey with
  | none =>
    cases o.joinSpec with
    | none => rfl
    | some joinSpec => exact hquery joinSpec
  | some sk =>
    simp only [Traced.value_bind, Option.bind_some, scope]
    cases (SemanticKey.parse? ⟨o.args.bind Pool.ofJson?, b.ambient⟩ sk).value with
    | some key => rfl
    | none =>
      cases o.joinSpec with
      | none => rfl
      | some joinSpec => exact hquery joinSpec

variable (b : Binder) {o : BindOptions} (conditions : List Condition)

/-- **With a semantic key** the request is a dataset request, whatever else the options say. -/
theorem exists_dataset_of_key {sk : String} (hkey : o.semanticKey = some sk)
    (hsk : Text.blankString sk = false) :
    ∃ d, (b.buildRequest o conditions).value = .ok (.dataset d) ∧ d.action = .sqlTree ∧
      d.args = (SemanticKey.resolvedArgs (b.scope o) sk).map Variable.toJson ++
        o.sqlArgs.map Json.string ∧
      d.select.Carries o conditions := by
  obtain ⟨key, hparse⟩ := SemanticKey.exists_value_parse? (b.scope o) hsk
  have hkeyOf : b.keyOf? o = some ⟨key, SemanticKey.resolvedArgs (b.scope o) sk⟩ := by
    rw [keyOf?, hkey, Option.bind_some, hparse]
  rw [value_buildRequest, hkeyOf]
  refine ⟨_, rfl, ?_⟩
  rw [value_datasetOf]
  exact ⟨rfl, rfl, ⟨rfl, rfl, rfl, rfl⟩⟩

/-- **Without one** it is the query of the join spec, or why the specs do not compile. -/
theorem value_buildRequest_of_joins {joinSpec : String}
    (hkey : BindOptions.isBlank o.semanticKey = true) (hjoins : o.joinSpec = some joinSpec) :
    (b.buildRequest o conditions).value =
      match (queryOf b.client.config.connection (b.scope o) o conditions joinSpec).value with
      | .ok q => .ok (.query q)
      | .error e => .error (.compilation e.message) := by
  have hnone : b.keyOf? o = none := by
    unfold keyOf?
    cases hsk : o.semanticKey with
    | none => rfl
    | some sk =>
      rw [hsk] at hkey
      exact SemanticKey.value_parse?_of_blank (b.scope o) hkey
  simp only [value_buildRequest, hnone, joinsRequest, hjoins]

/-- The specs of a binding give no query: an order is refused, or no segment is the main table. -/
def NoQuery (b : Binder) (o : BindOptions) (joinSpec : String) : Prop :=
  (∃ spec ∈ o.orderSpec, Order.Refused spec) ∨
    JoinList.main? (JoinList.parse (b.scope o) joinSpec).value.joins = none

theorem exists_error_of_noQuery {joinSpec : String}
    (hkey : BindOptions.isBlank o.semanticKey = true) (hjoins : o.joinSpec = some joinSpec)
    (h : b.NoQuery o joinSpec) :
    ∃ reason, (b.buildRequest o conditions).value = .error (.compilation reason) := by
  rw [b.value_buildRequest_of_joins conditions hkey hjoins, value_queryOf, value_compile]
  cases horders : ordersOf o.orderSpec (JoinList.parse (b.scope o) joinSpec).value.joins with
  | error e => exact ⟨e.message, rfl⟩
  | ok orders =>
    rcases h with hrefused | hmain
    · obtain ⟨e, he⟩ := (exists_ordersOf_eq_error_iff o.orderSpec _).2 hrefused
      rw [horders] at he
      cases he
    · simp only [Except.map, Except.bind, Compiled.value_toQuery, Compiled.main?, hmain]
      exact ⟨_, rfl⟩

theorem exists_query_of_not_noQuery {joinSpec : String}
    (hkey : BindOptions.isBlank o.semanticKey = true) (hjoins : o.joinSpec = some joinSpec)
    (h : ¬ b.NoQuery o joinSpec) :
    ∃ q, (b.buildRequest o conditions).value = .ok (.query q) ∧ q.select.Carries o conditions := by
  obtain ⟨horder, hmain⟩ := not_or.1 h
  rw [← exists_ordersOf_eq_error_iff o.orderSpec (JoinList.parse (b.scope o) joinSpec).value.joins]
    at horder
  rw [b.value_buildRequest_of_joins conditions hkey hjoins, value_queryOf, value_compile]
  cases horders : ordersOf o.orderSpec (JoinList.parse (b.scope o) joinSpec).value.joins with
  | error e => exact absurd ⟨e, horders⟩ horder
  | ok orders =>
    obtain ⟨main, hmain⟩ := Option.ne_none_iff_exists'.1 hmain
    simp only [Except.map, Except.bind, Compiled.value_toQuery, Compiled.main?, hmain]
    exact ⟨_, rfl, ⟨rfl, rfl, rfl, rfl⟩⟩

/-- **The request of valid options.** It is never refused for what validation checks. A semantic key that
is not blank always gives a dataset request, with its own arguments before those of the options. Otherwise
there is a join spec; it gives a query unless an order is refused or no segment is the main table. Either
request has the columns and the conditions of the binding and asks for no page. -/
theorem buildRequest_of_valid (handlers : Handlers) (hvalid : (o.validate handlers).value = .ok ()) :
    (∀ reason, (b.buildRequest o conditions).value ≠ .error (.invalidOptions reason)) ∧
    (∀ sk, o.semanticKey = some sk → Text.blankString sk = false →
      ∃ d, (b.buildRequest o conditions).value = .ok (.dataset d) ∧ d.action = .sqlTree ∧
        d.args = (SemanticKey.resolvedArgs (b.scope o) sk).map Variable.toJson ++
          o.sqlArgs.map Json.string ∧
        d.select.Carries o conditions) ∧
    (BindOptions.isBlank o.semanticKey = true → ∃ joinSpec, o.joinSpec = some joinSpec ∧
      (b.NoQuery o joinSpec →
        ∃ reason, (b.buildRequest o conditions).value = .error (.compilation reason)) ∧
      (¬ b.NoQuery o joinSpec →
        ∃ q, (b.buildRequest o conditions).value = .ok (.query q) ∧
          q.select.Carries o conditions)) := by
  have hspec (hkey : BindOptions.isBlank o.semanticKey = true) :
      ∃ joinSpec, o.joinSpec = some joinSpec := by
    obtain ⟨joinSpec, hjoins, -⟩ :=
      BindOptions.exists_of_isBlank_eq_false (BindOptions.isBlank_of_validate hvalid hkey)
    exact ⟨joinSpec, hjoins⟩
  refine ⟨?_, fun sk => b.exists_dataset_of_key conditions, ?_⟩
  · intro reason hinvalid
    cases hkey : BindOptions.isBlank o.semanticKey with
    | false =>
      obtain ⟨sk, hsome, hsk⟩ := BindOptions.exists_of_isBlank_eq_false hkey
      obtain ⟨d, hd, -⟩ := b.exists_dataset_of_key conditions hsome hsk
      rw [hinvalid] at hd
      cases hd
    | true =>
      obtain ⟨joinSpec, hjoins⟩ := hspec hkey
      rw [b.value_buildRequest_of_joins conditions hkey hjoins] at hinvalid
      split at hinvalid
      · cases hinvalid
      · cases hinvalid
  · intro hkey
    obtain ⟨joinSpec, hjoins⟩ := hspec hkey
    exact ⟨joinSpec, hjoins, b.exists_error_of_noQuery conditions hkey hjoins,
      b.exists_query_of_not_noQuery conditions hkey hjoins⟩

/-- Options with a semantic key beside specs that do not compile. -/
def rolesOptions : BindOptions := { BindOptions.empty with
  joinSpec := some ","
  semanticKey := some " roles.ez, {@ form.id}, all "
  args := some (.object [("form", .object [("id", .string "7")])])
  sqlArgs := ["x"]
  orderSpec := some "a b c"
  exprs := [("u.name", none)] }

theorem buildRequest_of_valid_roles :
    (rolesOptions.validate []).value = .ok () ∧
    ∃ d, ((ofSession (.ofConfig .standard) (.ofInfo ⟨"ss-01", "admin", []⟩) [] []).buildRequest
        rolesOptions [.predicate "=" "a" "b"]).value = .ok (.dataset d) ∧
      d.action = .sqlTree ∧ d.args = [.string "7", .string "all", .string "x"] ∧
      d.select.Carries rolesOptions [.predicate "=" "a" "b"] := by
  have hvalid : (rolesOptions.validate []).value = .ok () := by rfl
  obtain ⟨-, hdataset, -⟩ := buildRequest_of_valid
    (ofSession (.ofConfig .standard) (.ofInfo ⟨"ss-01", "admin", []⟩) [] []) (o := rolesOptions)
    [.predicate "=" "a" "b"] [] hvalid
  obtain ⟨d, hd, haction, hargs, hcarries⟩ := hdataset _ rfl (by decide)
  exact ⟨hvalid, d, hd, haction, hargs.trans (by rfl), hcarries⟩

end Binder
end SemanticClient
