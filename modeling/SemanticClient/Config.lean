import SemanticClient.Protocol.Port

/-!
# Configuration

Where the services are, which connection of the server they use, and how long to wait for them.
-/

namespace SemanticClient

/-- The service root that is taken when none is given. -/
def defaultRoot : String := "http://localhost:8080/jserv-sample"

/-- The rows of a page when none are given. -/
def defaultPageSize : Int64 := 20

/-- A client's configuration. -/
structure Config where
  /-- The service root, without a slash at its end. -/
  root : String
  /-- The connection of the server to use; without one the server decides. -/
  connection : Option String
  /-- Whether requests and answers are logged. -/
  verbose : Bool
  /-- How long to wait for an answer, in milliseconds. -/
  timeout : UInt64
deriving DecidableEq

namespace Config

/-- The configuration that is taken when nothing is given. -/
def standard : Config := ⟨defaultRoot, none, false, 20000⟩

/-- A text without the slashes it ends with. -/
def trimSlashes (s : String) : String :=
  String.ofList ((s.toList.reverse.dropWhile (· == '/')).reverse)

/-- Sets the service root. -/
def withRoot (c : Config) (root : String) : Config := { c with root := trimSlashes root }

/-- Sets the connection. -/
def withConnection (c : Config) (connection : String) : Config :=
  { c with connection := some connection }

/-- Sets whether requests and answers are logged. -/
def withVerbose (c : Config) (verbose : Bool) : Config := { c with verbose }

/-- Sets how long to wait. -/
def withTimeout (c : Config) (timeout : UInt64) : Config := { c with timeout }

/-- The address of a port. -/
def url (c : Config) (p : Port) : String :=
  c.root ++ "/" ++ p.path ++
    match c.connection with
    | some connection => "?conn=" ++ connection
    | none => ""

/-- The members of a configuration. -/
def members (c : Config) : List (String × Json) := [
  ("serv_root", .string c.root),
  ("conn_id", .ofOption c.connection),
  ("verbose", .bool c.verbose),
  ("timeout_ms", .nat c.timeout.toNat)]

/-- A configuration as JSON. -/
def toJson (c : Config) : Json := .ofMembers c.members

/-- Reads a configuration; only the connection may be missing. -/
def ofJson? (v : Json) : Option Config := do
  let r ← v.record? ["serv_root", "conn_id", "verbose", "timeout_ms"] 4
  return {
    root := ← (← r.get? "serv_root").string?
    connection := ← Json.optional? Json.string? (r.get? "conn_id")
    verbose := ← (← r.get? "verbose").bool?
    timeout := ← (← r.get? "timeout_ms").uint64? }

end Config
end SemanticClient
