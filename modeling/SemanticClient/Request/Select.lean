import SemanticClient.Request.Condition
import SemanticClient.Spec.Join
import SemanticClient.Spec.Order

/-!
# Select parts

What queries and dataset requests have in common: the tables, columns, conditions, order, grouping and
page of a selection. A selection is built by calls that append to one of its lists; only the page is
replaced.

* `add`: one call; a batch is the calls it holds, one after the other.
-/

namespace SemanticClient

open Spec

/-- What is selected. -/
structure Select where
  /-- The connection of the server to use. -/
  connection : Option String
  /-- The main table. -/
  table : String
  tableAlias : Option String
  /-- Expressions with their aliases. -/
  exprs : List (String × Option String)
  joins : List Join
  conditions : List Condition
  orders : List (String × Direction)
  groups : List String
  /-- The page, from zero; `-1` without paging. -/
  page : Int64
  /-- The rows of a page; `-1` without paging. -/
  size : Int64

/-- A call of a selection's builder. -/
inductive SelectCall where
  | expr (expr : String) (exprAlias : Option String)
  | exprs (exprs : List (String × Option String))
  | join (kind : JoinKind) (table : String) (tableAlias condition : Option String)
  | joins (joins : List Join)
  | condition (op left right : String)
  | conditions (conditions : List Condition)
  | orderBy (column : String) (direction : Direction)
  | orderBys (orders : List Order)
  | groupBy (column : String)
  | groupBys (columns : List String)
  | page (size index : Int64)

namespace SelectCall

/-- An inner join. -/
def inner (table : String) (tableAlias : Option String) (condition : String) : SelectCall :=
  .join .inner table tableAlias (some condition)

/-- A left outer join. -/
def left (table : String) (tableAlias : Option String) (condition : String) : SelectCall :=
  .join .left table tableAlias (some condition)

/-- A right outer join. -/
def right (table : String) (tableAlias : Option String) (condition : String) : SelectCall :=
  .join .right table tableAlias (some condition)

end SelectCall

namespace Select

/-- A selection from a table and nothing else. -/
def ofTable (connection : Option String) (table : String) (tableAlias : Option String) : Select where
  connection := connection
  table := table
  tableAlias := tableAlias
  exprs := []
  joins := []
  conditions := []
  orders := []
  groups := []
  page := -1
  size := -1

/-- Whether the server is asked for one page only. -/
def isPaged (s : Select) : Bool := 0 ≤ s.page && 0 < s.size

/-- Appends an expression. -/
def addExpr (s : Select) (e : String × Option String) : Select := { s with exprs := s.exprs ++ [e] }

/-- Appends a joined table; a main table is no joined table. -/
def addJoin (s : Select) (j : Join) : Logged Select :=
  if j.kind = .main then do
    notice .mainTableJoined
    return s
  else pure { s with joins := s.joins ++ [j] }

/-- Appends a condition. -/
def addCondition (s : Select) (c : Condition) : Select := { s with conditions := s.conditions ++ [c] }

/-- Appends a column to sort by. -/
def addOrder (s : Select) (column : String) (direction : Direction) : Select :=
  { s with orders := s.orders ++ [(column, direction)] }

/-- Appends a column to group by. -/
def addGroup (s : Select) (column : String) : Select := { s with groups := s.groups ++ [column] }

/-- Asks for a page. -/
def setPage (s : Select) (size index : Int64) : Select := { s with size := size, page := index }

/-- Appends joined tables. -/
def addJoins (s : Select) (joins : List Join) : Logged Select := joins.foldlM addJoin s

/-- What a call makes of a selection. -/
def add (s : Select) : SelectCall → Logged Select
  | .expr e a => pure (s.addExpr (e, a))
  | .exprs es => pure (es.foldl addExpr s)
  | .join kind table tableAlias condition => s.addJoin ⟨kind, table, tableAlias, condition⟩
  | .joins joins => s.addJoins joins
  | .condition op left right => pure (s.addCondition (.predicate op left right))
  | .conditions cs => pure (cs.foldl addCondition s)
  | .orderBy column direction => pure (s.addOrder column direction)
  | .orderBys orders => pure (orders.foldl (fun s o => s.addOrder o.column o.direction) s)
  | .groupBy column => pure (s.addGroup column)
  | .groupBys columns => pure (columns.foldl addGroup s)
  | .page size index => pure (s.setPage size index)

/-- The members of a selection. -/
def members (s : Select) : List (String × Json) :=
  (s.connection.map fun c => ("conn", Json.string c)).toList ++
    ("f", .string s.table) ::
    ((s.tableAlias.map fun a => ("mAlias", Json.string a)).toList ++ [
      ("exprs", .array (s.exprs.map fun e => .array [.string e.1, .ofOption e.2])),
      ("j", .array (s.joins.map Join.toJson)),
      ("conds", .array (Condition.listToJson s.conditions)),
      ("orders", .array (s.orders.map fun o => .strings [o.1, o.2.name])),
      ("group", .strings s.groups),
      ("page", .int64 s.page),
      ("pgSize", .int64 s.size)])

end Select
end SemanticClient
