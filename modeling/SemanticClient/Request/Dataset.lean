import SemanticClient.Request.Select
import SemanticClient.Variable.SemanticKey

/-!
# Dataset requests

A request for a data set or a tree that the server knows under a semantic key, or for the upkeep of a
tree. A semantic key leaves no choice of action.
-/

namespace SemanticClient

/-- What a dataset request asks for. -/
inductive DatasetAction where
  /-- Load a tree by its semantic key. -/
  | sqlTree
  /-- Rebuild a tree below a root. -/
  | reTree
  /-- Rebuild every tree. -/
  | reForest
  /-- A name that no server is known to understand. -/
  | other (name : String)
deriving DecidableEq

namespace DatasetAction

/-- The name of an action. -/
def name : DatasetAction → String
  | sqlTree => "sqltree"
  | reTree => "retree"
  | reForest => "reforest"
  | other name => name

/-- The action of a name. -/
def parse (s : String) : Logged DatasetAction :=
  match [sqlTree, reTree, reForest].find? (·.name == s) with
  | some a => pure a
  | none => do
    notice (.unknownAction s)
    return other s

end DatasetAction

/-- A dataset request. -/
structure Dataset where
  action : DatasetAction
  select : Select
  semanticKey : Option String
  /-- Arguments of the semantic key, by position. -/
  args : List Json
  treeSemantics : Option Json
  rootId : Option String

/-- A call of a dataset request's builder. -/
inductive DatasetCall where
  | select (call : SelectCall)
  | args (args : List Json)
  | arg (arg : Json)
  | treeSemantics (semantics : Json)
  | rootId (root : String)

namespace Dataset

/-- The action to take, given the semantic key. -/
def actionFor (semanticKey : Option String) (action : DatasetAction) : Logged DatasetAction :=
  match semanticKey with
  | none => pure action
  | some key =>
    if action = .sqlTree then pure action
    else do
      notice (.actionOverridden action.name key)
      return .sqlTree

/-- A request on a table; an empty semantic key is none. -/
def ofTable (connection : Option String) (table : String) (semanticKey : Option String)
    (action : DatasetAction) : Logged Dataset := do
  let semanticKey := semanticKey.filter (!·.isEmpty)
  return {
    action := ← actionFor semanticKey action
    select := .ofTable connection table none
    semanticKey := semanticKey
    args := []
    treeSemantics := none
    rootId := none }

/-- What a builder call makes of a request. -/
def add (d : Dataset) : DatasetCall → Logged Dataset
  | .select c => do return { d with select := ← d.select.add c }
  | .args vs => pure { d with args := d.args ++ vs }
  | .arg v => pure { d with args := d.args ++ [v] }
  | .treeSemantics v => pure { d with treeSemantics := some v }
  | .rootId r => pure { d with rootId := some r }

/-- The request of a semantic key with its arguments. -/
def ofSemanticKey (connection : Option String) (k : SemanticKey) : Logged Dataset := do
  let d ← ofTable connection k.key (some k.key) .sqlTree
  d.add (.args k.argsJson)

/-- The members of a request. -/
def members (d : Dataset) : List (String × Json) :=
  ("a", .string d.action.name) :: (d.select.members ++
    (d.semanticKey.map fun k => ("sk", Json.string k)).toList ++
    ("sqlArgs", .array d.args) ::
    ((d.treeSemantics.map fun v => ("trSmtcs", v)).toList ++
      (d.rootId.map fun r => ("rootId", Json.string r)).toList))

/-- A request as JSON. -/
def toJson (d : Dataset) : Json := .ofMembers d.members

end Dataset
end SemanticClient
