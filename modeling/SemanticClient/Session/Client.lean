import SemanticClient.Config
import SemanticClient.Protocol.Dispatch
import SemanticClient.Protocol.Envelope

/-!
# The client

A client posts envelopes and knows whether somebody is logged in. A request has two halves, the sending
and what becomes of the answer; between the two other requests may be sent and answered.

An answer is good exactly when it is an object that reads as a response with the code for success.
-/

namespace SemanticClient

/-- Whether somebody is logged in. -/
inductive LoginState where
  | loggedOut
  /-- A login is on its way. -/
  | loggingIn
  | loggedIn (info : SessionInfo)

/-- A client. -/
structure Client where
  config : Config
  state : LoginState

/-- A request on its way. -/
structure Sending where
  port : Port
  url : String
  payload : Json

/-- What comes back for a request: JSON, or what kept it from coming. -/
abbrev Answer := Except TransportError Json

/-- What a dispatch ends with. -/
abbrev Outcome := Except DispatchError Response

namespace Client

/-- A client that nobody is logged in to. -/
def ofConfig (c : Config) : Client := ⟨c, .loggedOut⟩

/-- Sends an envelope. -/
def send (c : Config) (e : Envelope) : Logged Sending := do
  if c.verbose then notice (.posting (c.url e.port) e.toJson.text)
  return ⟨e.port, c.url e.port, e.toJson⟩

/-- What an object that came back says. -/
def classify (p : Port) (v : Json) : Logged Outcome :=
  match v with
  | .object _ => do
    match ← Response.ofJson? v with
    | none =>
      return .error (.io ("Unexpected response from " ++ p.name ++ ": not a response"))
    | some r => if r.code = .ok then return .ok r else return .error (.ofResponse r)
  | _ => pure (.error (.io ("Unexpected response from " ++ p.name ++ ": not a JSON object")))

/-- What becomes of an answer. -/
def receive (c : Config) (p : Port) : Answer → Logged Outcome
  | .error e => pure (.error (.ofTransport e))
  | .ok v => do
    if c.verbose then notice (.answered p.name v.text)
    classify p v

/-- The envelope of a login. -/
def loginEnvelope (sequence : Fin 1001) (uid password : String) (iv : Crypto.Block) : Envelope :=
  .of sequence .session none (.session (.login (.of uid password iv)))

/-- The session info of a good answer to a login. -/
def sessionInfo (r : Response) : Except DispatchError SessionInfo :=
  match SessionInfo.ofJson? r.message with
  | some info => .ok info
  | none =>
    .error ⟨r.code, "Invalid session info: session id and user id are needed", some r⟩

/-- Starts a login. -/
def startLogin (c : Client) (sequence : Fin 1001) (uid password : String) (iv : Crypto.Block) :
    Logged (Client × Sending) := do
  let sending ← send c.config (loginEnvelope sequence uid password iv)
  return ({ c with state := .loggingIn }, sending)

/-- Ends a login with its answer. -/
def finishLogin (c : Client) (uid : String) (answer : Answer) :
    Logged (Client × Except DispatchError SessionInfo) := do
  match (← receive c.config .session answer).bind sessionInfo with
  | .ok info =>
    notice (.loggedIn info.uid info.ssid)
    return ({ c with state := .loggedIn info }, .ok info)
  | .error e =>
    notice (.loginFailed uid e.display)
    return ({ c with state := .loggedOut }, .error e)

end Client

/-- The callbacks that are given for the outcome of a request. -/
structure Callbacks where
  onOk : Bool
  onError : Bool
deriving DecidableEq

/-- A callback that is run, with what it is given. -/
inductive Callback where
  | ok (response : Response)
  | error (error : DispatchError)

namespace Callbacks

/-- Whether nobody waits for the outcome. -/
def missing (k : Callbacks) : Bool := !k.onOk && !k.onError

/-- The callback that takes an outcome, if it is given. -/
def run (k : Callbacks) (p : Port) : Outcome → Logged (Option Callback)
  | .ok r =>
    if k.onOk then pure (some (.ok r))
    else do
      notice (.responseUnhandled p.name)
      return none
  | .error e =>
    if k.onError then pure (some (.error e))
    else do
      notice (.errorUnhandled p.name e.display)
      return none

end Callbacks
end SemanticClient
