import SemanticClient.Request.Select

/-!
# Query requests

A selection that is read from the query port.
-/

namespace SemanticClient

/-- What a request does to records. -/
inductive Crud where
  | insert
  | read
  | update
  | delete
deriving DecidableEq

namespace Crud

/-- The letter of an action. -/
def name : Crud → String
  | insert => "I"
  | read => "R"
  | update => "U"
  | delete => "D"

/-- The action of a letter. -/
def ofName? (s : String) : Option Crud := [insert, read, update, delete].find? (·.name == s)

/-- An action as JSON. -/
def toJson (c : Crud) : Json := .string c.name

theorem ofName?_name (c : Crud) : ofName? c.name = some c := by cases c <;> rfl

end Crud

/-- A query. -/
structure Query where
  action : Crud
  select : Select

namespace Query

/-- A query of a table. -/
def ofTable (connection : Option String) (table : String) (tableAlias : Option String) : Query :=
  ⟨.read, .ofTable connection table tableAlias⟩

/-- What a builder call makes of a query. -/
def add (q : Query) (c : SelectCall) : Logged Query := do
  return { q with select := ← q.select.add c }

/-- The members of a query. -/
def members (q : Query) : List (String × Json) := ("a", q.action.toJson) :: q.select.members

/-- A query as JSON. -/
def toJson (q : Query) : Json := .ofMembers q.members

end Query
end SemanticClient
