import SemanticClient.Request.Query

/-!
# Compiled specs

A join spec and an order spec together, and the query that they stand for. Columns without a table are
sorted by the main table's alias, or by its name when it has none.
-/

namespace SemanticClient.Spec

/-- What a join spec and an order spec say. -/
structure Compiled where
  joins : List Join
  orders : List Order
  /-- What was left out of the join spec. -/
  diagnostics : List SpecError

/-- The table that columns without one belong to. -/
def defaultTable (joins : List Join) : String :=
  match JoinList.main? joins with
  | some m => m.tableAlias.getD m.table
  | none => ""

/-- Compiles a join spec with an order spec, if there is one. -/
def compile (s : Scope) (joinSpec : String) (orderSpec : Option String) :
    Logged (Except SpecError Compiled) := do
  let list ← JoinList.parse s joinSpec
  return do
    let orders ← match orderSpec with
      | some spec => Order.parse spec (defaultTable list.joins)
      | none => .ok []
    return ⟨list.joins, orders, list.diagnostics⟩

namespace Compiled

/-- The main table, if there is one. -/
def main? (c : Compiled) : Option Join := JoinList.main? c.joins

/-- The query of a compiled spec. -/
def toQuery (c : Compiled) (connection : Option String) : Logged (Except SpecError Query) :=
  match c.main? with
  | none => pure (.error (.noMainTable (", ".intercalate (c.joins.map (·.table)))))
  | some m => do
    let q := Query.ofTable connection m.table m.tableAlias
    let q ← q.add (.joins (c.joins.filter (·.kind != .main)))
    let q ← q.add (.orderBys c.orders)
    return .ok q

end Compiled
end SemanticClient.Spec
