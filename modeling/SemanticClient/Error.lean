import SemanticClient.Json.Shape

/-!
# Client errors

What can go wrong on the client's side of a request. An error travels as JSON, so its reasons are texts.

* `ofKind?_kind`: an error is determined by its kind and what it is about.
-/

namespace SemanticClient

/-- A failure before or around a request. -/
inductive ClientError where
  /-- Neither a port's name nor its path. -/
  | unknownPort (name : String)
  /-- Nobody registered a handler of this id. -/
  | unregisteredHandler (id : String)
  /-- A primary key of no known shape. -/
  | invalidKey (key : String)
  /-- The session ended or gave way to a newer login. -/
  | notAuthenticated
  /-- A pager was used before it was bound. -/
  | pagerNotBound (pager : String)
  /-- Options that are incomplete or contradict each other. -/
  | invalidOptions (reason : String)
  /-- A spec that does not compile. -/
  | compilation (reason : String)
  /-- A credential that cannot be encrypted or decrypted. -/
  | crypto (reason : String)
  /-- A configuration that cannot be used. -/
  | configuration (reason : String)
  /-- A value that cannot be written as JSON. -/
  | serialization (reason : String)
deriving DecidableEq, Inhabited

namespace ClientError

/-- The name of an error's kind. -/
def kind : ClientError → String
  | unknownPort _ => "UnknownPort"
  | unregisteredHandler _ => "UnregisteredHandler"
  | invalidKey _ => "InvalidPk"
  | notAuthenticated => "NotAuthenticated"
  | pagerNotBound _ => "PagerNotBound"
  | invalidOptions _ => "InvalidOptions"
  | compilation _ => "CompileError"
  | crypto _ => "CryptoError"
  | configuration _ => "ConfigError"
  | serialization _ => "SerializationError"

/-- What an error is about; one kind of error says nothing beyond its name. -/
def detail? : ClientError → Option String
  | notAuthenticated => none
  | unknownPort s | unregisteredHandler s | invalidKey s | pagerNotBound s | invalidOptions s
  | compilation s | crypto s | configuration s | serialization s => some s

/-- The error of a kind about something. -/
def ofKind? : String → Option String → Option ClientError
  | "UnknownPort", some s => some (unknownPort s)
  | "UnregisteredHandler", some s => some (unregisteredHandler s)
  | "InvalidPk", some s => some (invalidKey s)
  | "NotAuthenticated", none => some notAuthenticated
  | "PagerNotBound", some s => some (pagerNotBound s)
  | "InvalidOptions", some s => some (invalidOptions s)
  | "CompileError", some s => some (compilation s)
  | "CryptoError", some s => some (crypto s)
  | "ConfigError", some s => some (configuration s)
  | "SerializationError", some s => some (serialization s)
  | _, _ => none

/-- The wording of an error. -/
def message : ClientError → String
  | unknownPort name => "Unknown port: " ++ name
  | unregisteredHandler id => "Handler not registered: " ++ id
  | invalidKey key => "Can't understand pk: " ++ key
  | notAuthenticated => "Not authenticated"
  | pagerNotBound pager => "Pager not bound: " ++ pager
  | invalidOptions reason => "Invalid options: " ++ reason
  | compilation reason => "Compile error: " ++ reason
  | crypto reason => "Crypto error: " ++ reason
  | configuration reason => "Configuration error: " ++ reason
  | serialization reason => "Serialization error: " ++ reason

/-- An error as JSON: its kind, and what it is about if it is about anything. -/
def members (e : ClientError) : List (String × Json) :=
  ("type", .string e.kind) :: (e.detail?.map fun s => ("message", .string s)).toList

/-- An error as JSON. -/
def toJson (e : ClientError) : Json := .ofMembers e.members

/-- Reads the name of the kind of an error, given the whole error. In an array it has to be a string. -/
def kindName? (whole kind : Json) : Option String :=
  match whole with
  | .array _ => kind.string?
  | _ => kind.choice?

/-- Reads an error. -/
def ofJson? (v : Json) : Option ClientError := do
  let r ← v.record? ["type", "message"] 2
  let kind ← kindName? v (← r.get? "type")
  let detail ← Json.optional? Json.string? (r.get? "message")
  ofKind? kind detail

theorem ofKind?_kind (e : ClientError) : ofKind? e.kind e.detail? = some e := by
  cases e <;> rfl

end ClientError
end SemanticClient
