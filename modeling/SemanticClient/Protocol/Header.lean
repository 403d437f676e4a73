import SemanticClient.Json.Shape

/-!
# Session info and headers

What a server says about a session when a login succeeds, and what every envelope of that session says
at its head. Session info may have members of any kind beside the two ids; they are kept.
-/

namespace SemanticClient

/-- What a user is doing, for the server's audit log. -/
structure UserAct where
  function : String
  category : String
  command : String
  remarks : String
deriving DecidableEq

namespace UserAct

/-- A user action as JSON: its four texts. -/
def toJson (a : UserAct) : Json := .strings [a.function, a.category, a.command, a.remarks]

/-- Reads a user action. -/
def ofJson? (v : Json) : Option UserAct := do
  match ← v.list? Json.string? with
  | [function, category, command, remarks] => some ⟨function, category, command, remarks⟩
  | _ => none

end UserAct

/-- What a successful login tells about its session. -/
structure SessionInfo where
  /-- The session id. -/
  ssid : String
  /-- The user id. -/
  uid : String
  /-- All other members. -/
  extra : Keyed Json

namespace SessionInfo

/-- The members of session info, the ids first. -/
def members (i : SessionInfo) : List (String × Json) :=
  ("ssid", .string i.ssid) :: ("uid", .string i.uid) :: i.extra

/-- Session info as JSON. -/
def toJson (i : SessionInfo) : Json := .ofMembers i.members

/-- Reads session info from an object with the two ids. -/
def ofJson? : Json → Option SessionInfo
  | .object members => do
    let ssid ← (← Keyed.get? members "ssid").string?
    let uid ← (← Keyed.get? members "uid").string?
    return ⟨ssid, uid, members.filter fun m => m.1 != "ssid" && m.1 != "uid"⟩
  | _ => none

end SessionInfo

/-- The head of an envelope. -/
structure Header where
  ssid : Option String
  uid : Option String
  act : Option UserAct
deriving DecidableEq

namespace Header

/-- The head of an envelope that belongs to no session. -/
def empty : Header := ⟨none, none, none⟩

/-- The head of a session's envelopes. -/
def ofSession (i : SessionInfo) (act : Option UserAct) : Header := ⟨some i.ssid, some i.uid, act⟩

/-- The members of a header that are there. -/
def members (h : Header) : List (String × Json) :=
  (h.ssid.map fun s => ("ssid", .string s)).toList ++
    (h.uid.map fun s => ("uid", .string s)).toList ++
    (h.act.map fun a => ("usrAct", a.toJson)).toList

/-- A header as JSON. -/
def toJson (h : Header) : Json := .ofMembers h.members

/-- Reads a header. -/
def ofJson? (v : Json) : Option Header := do
  let r ← v.record? ["ssid", "uid", "usrAct"] 3
  return {
    ssid := ← Json.optional? Json.string? (r.get? "ssid")
    uid := ← Json.optional? Json.string? (r.get? "uid")
    act := ← Json.optional? UserAct.ofJson? (r.get? "usrAct") }

end Header
end SemanticClient
