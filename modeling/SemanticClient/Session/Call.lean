import SemanticClient.Session.Session

/-!
# Calls

What a client and its sessions can be asked to do with the server. A call starts, which may end it at
once, and otherwise it finishes when its answer arrives. Between the two any other calls may start and
finish; a call holds all that its second half needs, and the client holds what the calls share.

A logout leaves nobody logged in, whatever its answer.
-/

namespace SemanticClient

/-- What a client and its sessions can be asked to do. -/
inductive Call where
  | login (uid password : String) (iv : Crypto.Block)
  /-- Post an envelope that belongs to no session. -/
  | post (envelope : Envelope)
  | commit (envelope : Envelope) (callbacks : Callbacks)
  /-- Post an envelope of a session. -/
  | sessionPost (session : Session) (envelope : Envelope)
  | sessionCommit (session : Session) (envelope : Envelope) (callbacks : Callbacks)
  | logout (session : Session)

/-- What a call ends with. -/
inductive Ending where
  /-- A login, with the session that it opened. -/
  | login (result : Except DispatchError Session)
  /-- A post or a logout. -/
  | dispatch (outcome : Outcome)
  /-- A commit, with the callback that was run. -/
  | commit (callback : Option Callback)

/-- How a call starts: it ends at once, or it waits for the answer to a request. -/
inductive Started where
  | ended (ending : Ending)
  | waiting (sending : Sending)

namespace Call

/-- A sign of life of a session. -/
def heartbeat (s : Session) (sequence : Fin 1001) : Call := .sessionPost s (s.heartbeat sequence)

/-- The first half of a call. -/
def start (sequence : Fin 1001) (c : Client) : Call → Logged (Client × Started)
  | .login uid password iv => do
    let (c, sending) ← c.startLogin sequence uid password iv
    return (c, .waiting sending)
  | .post e => do return (c, .waiting (← Client.send c.config e))
  | .commit e k => do
    if k.missing then notice (.callbacksMissing e.port.name)
    return (c, .waiting (← Client.send c.config e))
  | .sessionPost s e => do
    match ← s.start c e with
    | .ok sending => return (c, .waiting sending)
    | .error err => return (c, .ended (.dispatch (.error err)))
  | .sessionCommit s e k => do
    -- that nobody waits for the outcome is noticed only if something is sent
    if s.isCurrent c.state then
      if k.missing then notice (.callbacksMissing e.port.name)
    match ← s.start c e with
    | .ok sending => return (c, .waiting sending)
    | .error err => return (c, .ended (.commit (← k.run e.port (.error err))))
  | .logout s => do
    match ← s.start c (s.logout sequence) with
    | .ok sending => return (c, .waiting sending)
    -- nothing is sent, but nobody is logged in afterwards
    | .error err => return ({ c with state := .loggedOut }, .ended (.dispatch (.error err)))

/-- The second half of a call, with its answer. -/
def finish (c : Client) (answer : Answer) : Call → Logged (Client × Ending)
  | .login uid _ _ => do
    let (c, result) ← c.finishLogin uid answer
    return (c, .login (result.map Session.ofInfo))
  | .post e | .sessionPost _ e => do
    return (c, .dispatch (← Client.receive c.config e.port answer))
  | .commit e k | .sessionCommit _ e k => do
    let outcome ← Client.receive c.config e.port answer
    return (c, .commit (← k.run e.port outcome))
  | .logout _ => do
    let outcome ← Client.receive c.config .session answer
    return ({ c with state := .loggedOut }, .dispatch outcome)

/-- A call with nothing else between its halves: what it ends with, and the request that was sent if one
was. The answer is what would come back for a request. -/
def run (sequence : Fin 1001) (answer : Answer) (c : Client) (call : Call) :
    Logged (Client × Ending × Option Sending) := do
  match ← call.start sequence c with
  | (c, .ended e) => return (c, e, none)
  | (c, .waiting sending) =>
    let (c, e) ← call.finish c answer
    return (c, e, some sending)

end Call
end SemanticClient
