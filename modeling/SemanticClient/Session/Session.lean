import SemanticClient.Session.Client

/-!
# Sessions

What a successful login hands out: the session info, which heads every envelope of the session, and the
user action that goes with it. A session is over as soon as the client holds another one or none; from
then on it sends nothing.
-/

namespace SemanticClient

/-- A session. -/
structure Session where
  info : SessionInfo
  act : Option UserAct

namespace Session

/-- The session of a login. -/
def ofInfo (info : SessionInfo) : Session := ⟨info, none⟩

/-- Sets the user action. -/
def withAct (s : Session) (a : UserAct) : Session := { s with act := some a }

/-- Sets the command of the user action and leaves the rest of it. -/
def withCommand (s : Session) (command : String) : Session :=
  { s with act := some { s.act.getD ⟨"", "", "", ""⟩ with command } }

/-- The head of the session's envelopes. -/
def header (s : Session) : Header := .ofSession s.info s.act

/-- The envelope of a body. -/
def envelope (s : Session) (sequence : Fin 1001) (port : Port) (body : Body) : Envelope :=
  .of sequence port (some s.header) body

/-- The envelope of a query. -/
def query (s : Session) (sequence : Fin 1001) (q : Query) : Envelope :=
  s.envelope sequence .query (.query q)

/-- The port of an action on records. -/
def updatePort : Crud → Port
  | .insert => .insert
  | .delete => .delete
  | .update | .read => .update

/-- The envelope of an update, insert or delete. -/
def update (s : Session) (sequence : Fin 1001) (u : Update) : Envelope :=
  s.envelope sequence (updatePort u.action) (.update u)

/-- The envelope of an insert of values. -/
def insert (s : Session) (sequence : Fin 1001) (connection : Option String) (table : String)
    (values : List (String × String)) : Envelope :=
  s.envelope sequence .insert (.update ((Update.ofKey .insert connection table none).addValues values))

/-- The envelope of a delete by a key. -/
def delete (s : Session) (sequence : Fin 1001) (connection : Option String) (table : String)
    (key : PrimaryKey) : Envelope :=
  s.envelope sequence .delete (.update (.ofKey .delete connection table (some key)))

/-- The port of a dataset action. -/
def datasetPort : DatasetAction → Port
  | .sqlTree => .dataset
  | _ => .tree

/-- The envelope of a dataset request. -/
def dataset (s : Session) (sequence : Fin 1001) (d : Dataset) : Envelope :=
  s.envelope sequence (datasetPort d.action) (.dataset d)

/-- The envelope that rebuilds a tree below a root. -/
def reTree (s : Session) (sequence : Fin 1001) (connection : Option String) (table : String)
    (semantics : Json) (root : String) : Logged Envelope := do
  let d ← Dataset.ofTable connection table none .reTree
  let d ← d.add (.treeSemantics semantics)
  let d ← d.add (.rootId root)
  return s.envelope sequence .tree (.dataset d)

/-- The envelope that rebuilds every tree. -/
def reForest (s : Session) (sequence : Fin 1001) (connection : Option String) (table : String)
    (semantics : Json) : Logged Envelope := do
  let d ← Dataset.ofTable connection table none .reForest
  let d ← d.add (.treeSemantics semantics)
  return s.envelope sequence .tree (.dataset d)

/-- The envelope of a sign of life. -/
def heartbeat (s : Session) (sequence : Fin 1001) : Envelope :=
  s.envelope sequence .heartbeat (.session .ping)

/-- The envelope of the logout. -/
def logout (s : Session) (sequence : Fin 1001) : Envelope :=
  s.envelope sequence .session (.session (.logout (some s.info.uid)))

/-- Whether the session is the one that a client holds. -/
def isCurrent (s : Session) : LoginState → Bool
  | .loggedIn info => info.ssid == s.info.ssid
  | _ => false

/-- Sends an envelope of the session, unless the session is over. -/
def start (s : Session) (c : Client) (e : Envelope) : Logged (Except DispatchError Sending) :=
  if s.isCurrent c.state then do return .ok (← Client.send c.config e)
  else do
    notice (.sessionEnded s.info.ssid)
    return .error (.ofClient .notAuthenticated)

end Session
end SemanticClient
