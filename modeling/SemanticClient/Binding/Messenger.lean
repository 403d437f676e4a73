import SemanticClient.Notice
import SemanticClient.Protocol.Dispatch

/-!
# Messages to the user

What reaches the user: one alert a result code until the code is cleared, one progress indicator at a
time, and texts from a catalog that can be changed.
-/

namespace SemanticClient

/-- What the user was told already, and the texts to tell. -/
structure Messenger where
  /-- The codes that were alerted. -/
  reported : List Code
  /-- Whether a progress indicator is up. -/
  progressing : Bool
  catalog : Keyed String

/-- The alert for a network that failed. -/
def networkProblem : String := "Network Problem!"

namespace Messenger

/-- Nothing told yet. -/
def initial : Messenger where
  reported := []
  progressing := false
  catalog := [("none_selected", "Please select a record!"), ("ok", "OK!"),
    ("saved", "Saving Successfully!")]

/-- Clears a code, so that it may alert again. -/
def clear (m : Messenger) (c : Code) : Messenger :=
  { m with reported := m.reported.filter (· != c) }

/-- Clears every code, and the progress indicator with them. -/
def clearAll (m : Messenger) : Messenger := { m with reported := [], progressing := false }

/-- Whether a code was alerted. -/
def isReported (m : Messenger) (c : Code) : Bool := m.reported.contains c

/-- The text to alert the user with. -/
def alertText (e : DispatchError) : String := if e.code = .io then networkProblem else e.message

/-- Notes an error; the text to alert the user with, if its code was not alerted before. -/
def report (m : Messenger) (e : DispatchError) : Logged (Messenger × Option String) :=
  if m.isReported e.code then do
    notice (.errorRepeated e.display)
    return (m, none)
  else do
    notice (.errorReported e.display)
    return ({ m with reported := e.code :: m.reported }, some (alertText e))

/-- Takes the progress indicator, if it is not up already. -/
def progress (m : Messenger) : Messenger × Bool := ({ m with progressing := true }, !m.progressing)

/-- Gives the progress indicator back. -/
def close (m : Messenger) : Messenger := { m with progressing := false }

/-- Puts a text into the catalog. -/
def setMessage (m : Messenger) (name text : String) : Messenger :=
  { m with catalog := Keyed.insert name text m.catalog }

/-- The text of a name. -/
def message? (m : Messenger) (name : String) : Logged (Option String) :=
  match Keyed.get? m.catalog name with
  | some text => pure (some text)
  | none => do
    notice (.messageMissing name)
    return none

/-- The text for a success. -/
def ok? (m : Messenger) : Logged (Option String) := m.message? "ok"

end Messenger
end SemanticClient
