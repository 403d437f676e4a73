import SemanticClient.Json.Shape
import SemanticClient.Notice

/-!
# Result codes

How a server says that a request went well or why it did not. A code that is not in the table counts as
a general failure, so every text is some code.

* `parse_name`: a code is read back from its name, without a notice.
-/

namespace SemanticClient

/-- The result code of an answer. -/
inductive Code where
  | ok
  /-- The session has to be renewed. -/
  | session
  | semantic
  /-- The network failed. -/
  | io
  | transaction
  | dataAccess
  | general
deriving DecidableEq

namespace Code

/-- Every code. -/
def all : List Code := [ok, session, semantic, io, transaction, dataAccess, general]

/-- The name of a code. -/
def name : Code → String
  | ok => "ok"
  | session => "exSession"
  | semantic => "exSemantic"
  | io => "exIo"
  | transaction => "exTransct"
  | dataAccess => "exDA"
  | general => "exGeneral"

/-- The code of a name. -/
def ofName? (s : String) : Option Code := all.find? (·.name == s)

/-- The code that a text stands for. -/
def parse (s : String) : Logged Code :=
  match ofName? s with
  | some c => pure c
  | none => do
    notice (.unknownCode s)
    return general

/-- A code as JSON. -/
def toJson (c : Code) : Json := .string c.name

theorem ofName?_name (c : Code) : ofName? c.name = some c := by cases c <;> rfl

theorem parse_name (c : Code) : parse c.name = pure c := by simp [parse, ofName?_name]

end Code
end SemanticClient
