import SemanticClient.Error
import SemanticClient.Notice
import SemanticClient.Text.Quoted

/-!
# Handlers

Functions of the host under ids, so that declarations can refer to them by id. A function is held by its
name; running it is up to the host.

* `find?_register`: an id finds what was registered under it last.
-/

namespace SemanticClient

/-- Functions of the host under ids. -/
abbrev Handlers := Keyed String

namespace Handlers

/-- Registers a function under an id, in place of an earlier one. -/
def register (h : Handlers) (id function : String) : Logged Handlers := do
  if Keyed.contains h id then notice (.handlerReplaced id)
  return Keyed.insert id function h

/-- The function of an id. -/
def find? (h : Handlers) (id : String) : Except ClientError String :=
  match Keyed.get? h id with
  | some function => .ok function
  | none => .error (.unregisteredHandler id)

/-- How the ids are shown to a developer. -/
def debugText (h : Handlers) : String :=
  "HandlerRegistry \x7b ids: " ++ Text.quotedList (Keyed.keys h) ++ " \x7d"

theorem find?_register (h : Handlers) (id function : String) :
    find? (register h id function).value id = .ok function := by
  simp only [register]
  split <;> simp [find?, Keyed.get?_insert]

end Handlers
end SemanticClient
