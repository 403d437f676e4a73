import SemanticClient.Error

/-!
# Ports

The services of a server. A port has a name, which is how it is written in envelopes, and a path below
the service root.

* `ofName?_name`, `ofPath?_path`: a port is found by its name and by its path.
-/

namespace SemanticClient

/-- A service of a server. -/
inductive Port where
  | heartbeat
  | echo
  /-- Login and logout. -/
  | session
  | query
  | update
  | insert
  | delete
  | dataset
  /-- Upkeep of semantic trees. -/
  | tree
deriving DecidableEq

namespace Port

/-- Every port, in the order of the port table. -/
def all : List Port := [heartbeat, echo, session, query, update, insert, delete, dataset, tree]

/-- The name of a port. -/
def name : Port → String
  | heartbeat => "heartbeat"
  | echo => "echo"
  | session => "session"
  | query => "query"
  | update => "update"
  | insert => "insert"
  | delete => "delete"
  | dataset => "dataset"
  | tree => "stree"

/-- The path of a port below the service root. -/
def path : Port → String
  | heartbeat => "ping.serv"
  | echo => "echo.serv"
  | session => "login.serv"
  | query => "r.serv"
  | update => "u.serv"
  | insert => "c.serv"
  | delete => "d.serv"
  | dataset => "ds.serv"
  | tree => "s-tree.serv"

/-- The port of a name. -/
def ofName? (s : String) : Except ClientError Port :=
  match all.find? (·.name == s) with
  | some p => .ok p
  | none => .error (.unknownPort s)

/-- The port of a path. -/
def ofPath? (s : String) : Except ClientError Port :=
  match all.find? (·.path == s) with
  | some p => .ok p
  | none => .error (.unknownPort s)

/-- A port as JSON. -/
def toJson (p : Port) : Json := .string p.name

/-- Reads a port. -/
def ofJson? (v : Json) : Option Port := do (ofName? (← v.choice?)).toOption

theorem ofName?_name (p : Port) : ofName? p.name = .ok p := by cases p <;> rfl

theorem ofPath?_path (p : Port) : ofPath? p.path = .ok p := by cases p <;> rfl

end Port
end SemanticClient
