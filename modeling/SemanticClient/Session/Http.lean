import SemanticClient.Session.Exchange
import SemanticClient.Text.Split

/-!
# Web requests

The text of the request that carries an envelope to a web server, and the status and the body in the text
that comes back. Each exchange has a connection of its own, and the server closes it after its answer.
-/

namespace SemanticClient

/-- Where a request goes. -/
structure Endpoint where
  host : String
  port : Nat
  /-- The path with the query. -/
  target : String
deriving DecidableEq

namespace Endpoint

/-- The rest of a text after a start that it has. -/
def after? (start cs : List Char) : Option (List Char) :=
  if start.isPrefixOf cs then some (cs.drop start.length) else none

/-- The host and the port of an authority. -/
def authority? (cs : List Char) : Option (String × Nat) :=
  match Text.split ':' cs with
  | [host] => some (String.ofList host, 80)
  | [host, port] => do return (String.ofList host, ← (String.ofList port).toNat?)
  | _ => none

/-- The endpoint of an address without encryption. -/
def ofUrl? (url : String) : Option Endpoint := do
  let rest ← after? "http://".toList url.toList
  let (host, port) ← authority? (rest.takeWhile (· != '/'))
  if host.isEmpty then none
  else
    let target := rest.dropWhile (· != '/')
    return ⟨host, port, if target.isEmpty then "/" else String.ofList target⟩

/-- A character of a target, with a blank written as an escape. -/
def targetChar (c : Char) : String := if c = ' ' then "%20" else c.toString

/-- The text of a request that posts a value. -/
def requestText (e : Endpoint) (payload : Json) : String :=
  let body := payload.text
  "\r\n".intercalate [
    "POST " ++ String.join (e.target.toList.map targetChar) ++ " HTTP/1.0",
    "Host: " ++ e.host ++ ":" ++ toString e.port,
    "Content-Type: application/json",
    "Accept: */*",
    "Content-Length: " ++ toString body.utf8ByteSize,
    "",
    body]

end Endpoint

/-- A text up to the first empty line, and what follows that line. -/
def splitHead : List Char → Option (List Char × List Char)
  | [] => none
  | c :: cs =>
    match Endpoint.after? ['\r', '\n', '\r', '\n'] (c :: cs) with
    | some body => some ([], body)
    | none => (splitHead cs).map fun r => (c :: r.1, r.2)

/-- The status in the first line of a head. -/
def statusOf? (head : List Char) : Option Nat :=
  match Text.words (head.takeWhile (· != '\r')) with
  | _ :: status :: _ => (String.ofList status).toNat?
  | _ => none

/-- The answer in the text that came back. -/
def Answer.ofText (s : String) : Answer :=
  match splitHead s.toList with
  | none => .error (.http "incomplete answer")
  | some (head, body) =>
    match statusOf? head with
    | none => .error (.http "no status")
    | some status => .ofBody status (String.ofList body)

end SemanticClient
