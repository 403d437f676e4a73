import SemanticClient.Crypto.Credential
import SemanticClient.Request.Dataset
import SemanticClient.Request.Update

/-!
# Request bodies

What an envelope carries: a session request, a query, an update or a dataset request.
-/

namespace SemanticClient

/-- What a session request asks for. -/
inductive SessionAction where
  | login
  | logout
  | ping
deriving DecidableEq

namespace SessionAction

/-- The name of an action. -/
def name : SessionAction → String
  | login => "login"
  | logout => "logout"
  | ping => "ping"

/-- The action of a name. -/
def ofName? (s : String) : Option SessionAction := [login, logout, ping].find? (·.name == s)

/-- An action as JSON. -/
def toJson (a : SessionAction) : Json := .string a.name

theorem ofName?_name (a : SessionAction) : ofName? a.name = some a := by cases a <;> rfl

end SessionAction

/-- A login, a logout or a sign of life. -/
structure SessionRequest where
  action : SessionAction
  uid : Option String
  token : Option String
  iv : Option String
deriving DecidableEq

namespace SessionRequest

/-- The login with a credential. -/
def login (c : Crypto.Credential) : SessionRequest := ⟨.login, some c.uid, some c.token, some c.iv⟩

/-- The logout of a user. -/
def logout (uid : Option String) : SessionRequest := ⟨.logout, uid, none, none⟩

/-- A sign of life. -/
def ping : SessionRequest := ⟨.ping, none, none, none⟩

/-- The members of a request that are there. -/
def members (r : SessionRequest) : List (String × Json) :=
  ("a", r.action.toJson) ::
    ((r.uid.map fun s => ("uid", Json.string s)).toList ++
      (r.token.map fun s => ("token", Json.string s)).toList ++
      (r.iv.map fun s => ("iv", Json.string s)).toList)

/-- A request as JSON. -/
def toJson (r : SessionRequest) : Json := .ofMembers r.members

end SessionRequest

/-- The body of an envelope. -/
inductive Body where
  | session (request : SessionRequest)
  | query (query : Query)
  | update (update : Update)
  | dataset (dataset : Dataset)

/-- A body as JSON. -/
def Body.toJson : Body → Json
  | .session r => r.toJson
  | .query q => q.toJson
  | .update u => u.toJson
  | .dataset d => d.toJson

end SemanticClient
