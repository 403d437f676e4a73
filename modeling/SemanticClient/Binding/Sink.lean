import SemanticClient.Protocol.Code
import SemanticClient.Protocol.ResultSet

/-!
# The user interface

What the user interface is asked to show, and how a console shows it: as lines of text, or as one JSON
object a line.
-/

namespace SemanticClient

/-- A call of the user interface. -/
inductive SinkCall where
  | showProgress
  | closeProgress
  | alert (code : Code) (text : String)
  | bindRows (target : String) (rows : List Row) (total : Int64)
  | selectRow (target : String) (index : Nat)
  | refreshPager (pager : String) (total page size : Int64)

/-- A user interface that does not take every call: why it refuses one, if it does. -/
structure SinkFault where
  reason? : SinkCall → Option String

/-- With a reason alone every call is refused. -/
instance : Coe String SinkFault := ⟨fun reason => ⟨fun _ => some reason⟩⟩

/-- Text for the two streams of a console. -/
structure Printed where
  output : String
  errors : String
deriving DecidableEq

namespace Printed

/-- Nothing. -/
def nothing : Printed := ⟨"", ""⟩

/-- A line of output. -/
def line (s : String) : Printed := ⟨s ++ "\n", ""⟩

/-- A line of errors. -/
def errorLine (s : String) : Printed := ⟨"", s ++ "\n"⟩

/-- One text after another. -/
def append (a b : Printed) : Printed := ⟨a.output ++ b.output, a.errors ++ b.errors⟩

instance : Append Printed := ⟨append⟩

end Printed

namespace SinkCall

/-- The text of a cell. -/
def cellText : Json → String
  | .null => "-"
  | v => v.plainText

/-- A row as a line of text. -/
def rowText (r : Row) : String :=
  "  " ++ "  ".intercalate (r.map fun c => c.1 ++ "=" ++ cellText c.2)

/-- The number of pages; there is always one. -/
def pageCount (total size : Int64) : Int :=
  if size ≤ 0 ∨ total ≤ 0 then 1 else (total.toInt + size.toInt - 1) / size.toInt

/-- A call as text. -/
def printText : SinkCall → Printed
  | showProgress => .line "..."
  | closeProgress => .nothing
  | alert code text => .errorLine ("[" ++ code.name ++ "] " ++ text)
  | bindRows target rows total =>
    rows.foldl (fun p r => p ++ Printed.line (rowText r))
      (.line (target ++ ": " ++ toString rows.length ++ " rows of " ++ toString total.toInt))
  | selectRow target index => .line (target ++ ": row " ++ toString index ++ " selected")
  | refreshPager pager total page size =>
    .line (pager ++ ": page " ++ toString (page.toInt + 1) ++ " of " ++
      toString (pageCount total size))

/-- A call as an event; progress is none. -/
def event? : SinkCall → Option Json
  | showProgress | closeProgress => none
  | alert code text =>
    some (.ofMembers [("event", .string "alert"), ("code", code.toJson), ("text", .string text)])
  | bindRows target rows total =>
    some (.ofMembers [("event", .string "rows"), ("target", .string target), ("total", .int64 total),
      ("rows", .array (rows.map .object))])
  | selectRow target index =>
    some (.ofMembers [("event", .string "select"), ("target", .string target), ("row", .nat index)])
  | refreshPager pager total page size =>
    some (.ofMembers [("event", .string "pager"), ("pager", .string pager), ("total", .int64 total),
      ("page", .int64 page), ("size", .int64 size)])

/-- A call as a line of JSON. -/
def printJson (c : SinkCall) : Printed :=
  match c.event? with
  | some v => .line v.text
  | none => .nothing

/-- What a console prints for a call. -/
def print (asJson : Bool) (c : SinkCall) : Printed := if asJson then c.printJson else c.printText

end SinkCall
end SemanticClient
