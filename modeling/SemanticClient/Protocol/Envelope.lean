import SemanticClient.Protocol.Header
import SemanticClient.Protocol.Port
import SemanticClient.Request.Body

/-!
# Envelopes

What travels to a server: bodies under a header, addressed to a port. The sequence number is drawn anew
for every envelope, for tracing only.
-/

namespace SemanticClient

/-- The version of the protocol. -/
def protocolVersion : String := "1.0"

/-- Bodies on their way to a port. -/
structure Envelope where
  sequence : Fin 1001
  port : Port
  header : Header
  bodies : List Body

namespace Envelope

/-- The envelope of one body. -/
def of (sequence : Fin 1001) (port : Port) (header : Option Header) (body : Body) : Envelope :=
  ⟨sequence, port, header.getD .empty, [body]⟩

/-- The envelope of one body, addressed by the path of a port. -/
def forPath (sequence : Fin 1001) (path : String) (header : Option Header) (body : Body) :
    Except ClientError Envelope := do
  return of sequence (← Port.ofPath? path) header body

/-- Adds an update to run after the first body, if that is an update; the body with it. -/
def addPost (e : Envelope) (post : Update) : Logged (Envelope × Option Update) :=
  match e.bodies with
  | .update u :: bodies => pure ({ e with bodies := .update (u.addPost post) :: bodies }, u.addPost post)
  | _ => do
    notice (.postIgnored e.port.name)
    return (e, none)

/-- The members of an envelope. -/
def members (e : Envelope) : List (String × Json) := [
  ("version", .string protocolVersion),
  ("seq", .nat e.sequence),
  ("port", e.port.toJson),
  ("header", e.header.toJson),
  ("body", .array (e.bodies.map Body.toJson))]

/-- An envelope as JSON. -/
def toJson (e : Envelope) : Json := .ofMembers e.members

end Envelope
end SemanticClient
