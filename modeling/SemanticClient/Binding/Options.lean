import SemanticClient.Binding.Handlers
import SemanticClient.Config
import SemanticClient.Variable.Pool
import SemanticClient.Text.Blank

/-!
# Options of a binding

What a grid, list or pager may declare about its data: a join spec or a semantic key, arguments, order,
page size, the row to select, and handlers for what the user does. Options that are given in code win
over declared ones.

* `merge_empty`, `empty_merge`: options that set nothing change nothing.
* `value_validate`: what a check of options finds.
-/

namespace SemanticClient

/-- The options of a binding. -/
structure BindOptions where
  joinSpec : Option String
  semanticKey : Option String
  /-- The query form whose fields are conditions. -/
  queryForm : Option String
  /-- Variables for the markers of specs. -/
  args : Option Json
  /-- Arguments that are sent as they are. -/
  sqlArgs : List String
  orderSpec : Option String
  /-- Columns to select, with their aliases. -/
  exprs : List (String × Option String)
  pageSize : Option Int64
  /-- The column that identifies a row. -/
  rowKey : Option String
  /-- The row to select after loading. -/
  select : Option String
  onClick : Option String
  onChange : Option String
  onLoad : Option String
  onCheck : Option String
  onCheckAll : Option String

namespace BindOptions

/-- Options that set nothing. -/
def empty : BindOptions where
  joinSpec := none
  semanticKey := none
  queryForm := none
  args := none
  sqlArgs := []
  orderSpec := none
  exprs := []
  pageSize := none
  rowKey := none
  select := none
  onClick := none
  onChange := none
  onLoad := none
  onCheck := none
  onCheckAll := none

/-- The first list, unless it is empty. -/
def orList {α : Type} (u v : List α) : List α := if u.isEmpty then v else u

/-- The options of the first, and where it sets none, those of the second. -/
def merge (a b : BindOptions) : BindOptions where
  joinSpec := a.joinSpec <|> b.joinSpec
  semanticKey := a.semanticKey <|> b.semanticKey
  queryForm := a.queryForm <|> b.queryForm
  args := a.args <|> b.args
  sqlArgs := orList a.sqlArgs b.sqlArgs
  orderSpec := a.orderSpec <|> b.orderSpec
  exprs := orList a.exprs b.exprs
  pageSize := a.pageSize <|> b.pageSize
  rowKey := a.rowKey <|> b.rowKey
  select := a.select <|> b.select
  onClick := a.onClick <|> b.onClick
  onChange := a.onChange <|> b.onChange
  onLoad := a.onLoad <|> b.onLoad
  onCheck := a.onCheck <|> b.onCheck
  onCheckAll := a.onCheckAll <|> b.onCheckAll

/-- The hooks that are set, each with the id of its handler. -/
def hooks (o : BindOptions) : List (String × String) :=
  [("onclick", o.onClick), ("onchange", o.onChange), ("onload", o.onLoad), ("oncheck", o.onCheck),
    ("oncheckAll", o.onCheckAll)].filterMap fun h => h.2.map fun id => (h.1, id)

/-- Whether an option is missing or has nothing but blanks. -/
def isBlank (s : Option String) : Bool := s.all Text.blankString

/-- Every hook's handler is registered, or the first that is not. -/
def checkHooks (handlers : Handlers) : List (String × String) → Logged (Except ClientError Unit)
  | [] => pure (.ok ())
  | (hook, id) :: hooks =>
    if Keyed.contains handlers id then checkHooks handlers hooks
    else do
      notice (.handlerMissing hook id)
      return .error (.unregisteredHandler id)

/-- The first reason for which options cannot drive a binding, whatever handlers there are. -/
def fault? (o : BindOptions) : Option ClientError :=
  if isBlank o.joinSpec && isBlank o.semanticKey then
    some (.invalidOptions "either a join spec (t) or a semantic key (sk) is needed")
  else
    match o.pageSize with
    | some size =>
      if size ≤ 0 then
        some (.invalidOptions ("page size must be positive: " ++ toString size.toInt))
      else none
    | none => none

/-- Checks that options can drive a binding: they need a join spec or a semantic key, a positive page
size if they have one, and registered handlers. -/
def validate (o : BindOptions) (handlers : Handlers) : Logged (Except ClientError Unit) :=
  match o.fault? with
  | some e => pure (.error e)
  | none => do
    if o.select.isSome && o.rowKey.isNone then notice .selectIgnored
    checkHooks handlers o.hooks

/-- The rows of a page of a pager with these options. -/
def rowsPerPage (o : BindOptions) : Int64 :=
  match o.pageSize with
  | some size => if 0 < size then size else defaultPageSize
  | none => defaultPageSize

/-- The arguments as a pool; arguments that are no object are none. -/
def argPool (o : BindOptions) : Logged (Option Pool) :=
  match o.args with
  | none => pure none
  | some args =>
    match Pool.ofJson? args with
    | some pool => pure (some pool)
    | none => do
      notice (.argsIgnored args.text)
      return none

/-- The names of the options. -/
def fields : List String := ["t", "sk", "query", "args", "sqlArgs", "order", "exprs", "pagesize",
  "rowpk", "select", "onclick", "onchange", "onload", "oncheck", "oncheckAll"]

/-- The members of options; those that are not set are `null`. -/
def members (o : BindOptions) : List (String × Json) := [
  ("t", .ofOption o.joinSpec),
  ("sk", .ofOption o.semanticKey),
  ("query", .ofOption o.queryForm),
  ("args", o.args.getD .null),
  ("sqlArgs", .strings o.sqlArgs),
  ("order", .ofOption o.orderSpec),
  ("exprs", .array (o.exprs.map fun e => .array [.string e.1, .ofOption e.2])),
  ("pagesize", (o.pageSize.map Json.int64).getD .null),
  ("rowpk", .ofOption o.rowKey),
  ("select", .ofOption o.select),
  ("onclick", .ofOption o.onClick),
  ("onchange", .ofOption o.onChange),
  ("onload", .ofOption o.onLoad),
  ("oncheck", .ofOption o.onCheck),
  ("oncheckAll", .ofOption o.onCheckAll)]

/-- Options as JSON. -/
def toJson (o : BindOptions) : Json := .ofMembers o.members

/-- Reads an expression with its alias. -/
def exprOfJson? : Json → Option (String × Option String)
  | .array [.string e, a] => do return (e, ← Json.nullable? Json.string? a)
  | _ => none

/-- Reads a list that may be missing, but not be `null`. -/
def listField? {α : Type} (read : Json → Option α) : Option Json → Option (List α)
  | none => some []
  | some v => v.list? read

/-- Reads options; all may be missing. -/
def ofJson? (v : Json) : Option BindOptions := do
  let r ← v.record? fields 0
  let text (k : String) := Json.optional? Json.string? (r.get? k)
  return {
    joinSpec := ← text "t"
    semanticKey := ← text "sk"
    queryForm := ← text "query"
    args := ← Json.optional? some (r.get? "args")
    sqlArgs := ← listField? Json.string? (r.get? "sqlArgs")
    orderSpec := ← text "order"
    exprs := ← listField? exprOfJson? (r.get? "exprs")
    pageSize := ← Json.optional? Json.int64? (r.get? "pagesize")
    rowKey := ← text "rowpk"
    select := ← text "select"
    onClick := ← text "onclick"
    onChange := ← text "onchange"
    onLoad := ← text "onload"
    onCheck := ← text "oncheck"
    onCheckAll := ← text "oncheckAll" }

/-- **What a check of options finds**: a fault of the options, or else a handler that is not registered. -/
theorem value_validate (o : BindOptions) (handlers : Handlers) :
    (o.validate handlers).value =
      match o.fault? with
      | some e => .error e
      | none => (checkHooks handlers o.hooks).value := by
  unfold validate
  cases o.fault? with
  | some e => rfl
  | none =>
    dsimp only
    split <;> rfl

theorem orList_nil {α : Type} (u : List α) : orList u [] = u := by cases u <;> rfl

theorem empty_merge (o : BindOptions) : empty.merge o = o := by
  simp [merge, empty, orList]

theorem merge_empty (o : BindOptions) : o.merge empty = o := by
  simp [merge, empty, orList_nil]

end BindOptions
end SemanticClient
