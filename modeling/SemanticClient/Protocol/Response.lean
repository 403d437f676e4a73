import SemanticClient.Protocol.Code
import SemanticClient.Protocol.ResultSet

/-!
# Responses

The answer of a server: a result code, a message of any kind and, after a failure, an error text. The
message of a query holds its result sets in `rs` and their total row counts in `total`.
-/

namespace SemanticClient

/-- An answer of a server. -/
structure Response where
  code : Code
  port : Option String
  message : Json
  error : Option String

namespace Response

/-- The members of a response that are there. -/
def members (r : Response) : List (String × Json) :=
  ("code", r.code.toJson) :: ((r.port.map fun s => ("port", .string s)).toList ++
    ("msg", r.message) :: (r.error.map fun s => ("error", .string s)).toList)

/-- A response as JSON. -/
def toJson (r : Response) : Json := .ofMembers r.members

/-- Reads the parts of a response beside its code. -/
def withCode? (r : Json) (code : Code) : Option Response := do
  return {
    code
    port := ← Json.optional? Json.string? (r.get? "port")
    message := (r.get? "msg").getD .null
    error := ← Json.optional? Json.string? (r.get? "error") }

/-- Reads the text of the code, which comes first. -/
def codeText? : Json → Option String
  | .object members => (Keyed.get? members "code").bind Json.string?
  | .array (code :: _) => code.string?
  | _ => none

/-- Reads a response; all but the code may be missing. -/
def ofJson? (v : Json) : Logged (Option Response) :=
  match codeText? v with
  | none => pure none
  | some s => do
    -- an unknown code is noticed even if a later part is of the wrong shape
    let code ← Code.parse s
    return (v.record? ["code", "port", "msg", "error"] 1).bind fun r => withCode? r code

/-- What to tell a user about a response: its error text, or else its message, or else its code. -/
def errorText (r : Response) : String :=
  match r.error, r.message with
  | some text, _ => text
  | none, .null => r.code.name
  | none, v => v.plainText

/-- The rows of a result set; a response without it has none. -/
def rows (r : Response) (i : Nat) : List Row :=
  match r.message.get? "rs" with
  | some (.array sets) => (sets[i]?.map ResultSet.rows).getD []
  | _ => []

/-- The total row count of a result set: the only number for the first set, or one number a set. -/
def total (r : Response) (i : Nat) (default : Int64) : Int64 :=
  match r.message.get? "total" with
  | some (.array totals) => (totals[i]?.bind Json.int64?).getD default
  | some v => if i = 0 then v.int64?.getD default else default
  | none => default

end Response
end SemanticClient
