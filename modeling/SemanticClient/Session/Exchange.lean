import SemanticClient.Json.Parser
import SemanticClient.Session.Client
import SemanticClient.Text.Blank

/-!
# Exchanges

From what a web server sent to the answer of a request: the status has to be a success, the body must
not be empty, and it has to be JSON.

A dialogue is a sequence of requests in which each may depend on the answers before it.
-/

namespace SemanticClient

namespace Answer

/-- Whether a status is a success. -/
def isSuccess (status : Nat) : Bool := 200 ≤ status && status ≤ 299

/-- The answer in a body with a status. A body of less than two bytes, not counting the blanks around
it, is empty. -/
def ofBody (status : Nat) (body : String) : Answer :=
  if !isSuccess status then .error (.status status)
  else if (Text.trimmed body).utf8ByteSize < 2 then .error .emptyResponse
  else
    match Json.parse body with
    | .ok v => .ok v
    | .error e => .error (.invalidBody e.message)

end Answer

/-- Requests and answers that end with a result. -/
inductive Dialogue (α : Type) where
  | done (result : α)
  | ask (sending : Sending) (next : Answer → Dialogue α)

namespace Dialogue

variable {α β : Type}

/-- A dialogue and then another one that depends on its result. -/
def bind : Dialogue α → (α → Dialogue β) → Dialogue β
  | .done a, f => f a
  | .ask sending next, f => .ask sending fun answer => (next answer).bind f

instance : Monad Dialogue where
  pure := .done
  bind := bind

/-- One request and its answer. -/
def request (sending : Sending) : Dialogue Answer := .ask sending .done

/-- The result of a dialogue with a server that answers each request on its own, and the requests that
were sent. -/
def run (serve : Sending → Answer) : Dialogue α → List Sending × α
  | .done a => ([], a)
  | .ask sending next =>
    let r := (next (serve sending)).run serve
    (sending :: r.1, r.2)

end Dialogue
end SemanticClient
