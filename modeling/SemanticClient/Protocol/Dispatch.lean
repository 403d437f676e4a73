import SemanticClient.Error
import SemanticClient.Protocol.Response

/-!
# Failed dispatches

A request that does not end with a good answer ends with one kind of failure: what the server answered,
or what kept an answer from arriving, or what the client itself could not do.
-/

namespace SemanticClient

/-- What keeps an answer from arriving. -/
inductive TransportError where
  /-- The exchange itself failed. -/
  | http (detail : String)
  /-- The exchange ended with a status that is not a success. -/
  | status (code : Nat)
  | emptyResponse
  /-- The body is no JSON. -/
  | invalidBody (detail : String)
  /-- No exchange can be set up. -/
  | invalidConfig (detail : String)
deriving DecidableEq

/-- The wording of what kept an answer from arriving. -/
def TransportError.message : TransportError → String
  | .http detail => "HTTP error: " ++ detail
  | .status code => "HTTP status " ++ toString code
  | .emptyResponse => "Empty response"
  | .invalidBody detail => "Invalid response body: " ++ detail
  | .invalidConfig detail => "Invalid configuration: " ++ detail

/-- A request that did not end with a good answer. -/
structure DispatchError where
  code : Code
  message : String
  /-- The answer, if one arrived. -/
  response : Option Response

namespace DispatchError

/-- The failure that a server reports. -/
def ofResponse (r : Response) : DispatchError := ⟨r.code, r.errorText, some r⟩

/-- The failure that no usable answer arrived. -/
def io (message : String) : DispatchError := ⟨.io, message, none⟩

/-- The failure of an exchange. -/
def ofTransport (e : TransportError) : DispatchError := io e.message

/-- The failure of the client. -/
def ofClient (e : ClientError) : DispatchError := ⟨.general, e.message, none⟩

/-- The wording of a failure, with its code in front. -/
def display (e : DispatchError) : String := "[" ++ e.code.name ++ "] " ++ e.message

end DispatchError
end SemanticClient
