import SemanticClient.Request.Key
import SemanticClient.Request.Query

/-!
# Update requests

Updates, inserts and deletes of the records of one table, with further updates to run in the same
transaction.
-/

namespace SemanticClient

/-- An update, insert or delete. -/
structure Update where
  action : Crud
  connection : Option String
  table : String
  /-- Names and values to write. -/
  values : List (String × String)
  conditions : List Condition
  /-- What is to be run afterwards. -/
  posts : List Update

namespace Update

/-- A request of an action on the records of a key. -/
def ofKey (action : Crud) (connection : Option String) (table : String) (key : Option PrimaryKey) :
    Update where
  action := action
  connection := connection
  table := table
  values := []
  conditions := (key.map PrimaryKey.toConditions).getD []
  posts := []

/-- An update by a key given as JSON. If the key is not understood, the update has no condition. -/
def ofJsonKey (connection : Option String) (table : String) (key : Json) : Logged Update :=
  match PrimaryKey.ofJson key with
  | .ok k => pure (ofKey .update connection table (some k))
  | .error e => do
    notice (.keyRefused table e.message)
    return ofKey .update connection table none

/-- Appends values to write. -/
def addValues (u : Update) (values : List (String × String)) : Update :=
  { u with values := u.values ++ values }

/-- Appends conditions. -/
def addConditions (u : Update) (conditions : List Condition) : Update :=
  { u with conditions := u.conditions ++ conditions }

/-- Appends an update to run afterwards. -/
def addPost (u v : Update) : Update := { u with posts := u.posts ++ [v] }

/-- Appends updates to run afterwards. -/
def addPosts (u : Update) (posts : List Update) : Logged Update := do
  if posts.isEmpty then notice (.postsEmpty u.table)
  return { u with posts := u.posts ++ posts }

/-- A name and a value as JSON. -/
def valueToJson (nv : String × String) : Json := .strings [nv.1, nv.2]

mutual

/-- The members of a request. -/
def members : Update → List (String × Json)
  | ⟨action, connection, table, values, conditions, posts⟩ =>
    ("a", action.toJson) :: ((connection.map fun c => ("conn", Json.string c)).toList ++ [
      ("mtabl", .string table),
      ("nvs", .array (values.map valueToJson)),
      ("where", .array (Condition.listToJson conditions))] ++
      match posts with
      | [] => []
      | post :: posts => [("postUpds", .array (.ofMembers (members post) :: listToJson posts))])

/-- Requests as JSON. -/
def listToJson : List Update → List Json
  | [] => []
  | u :: us => .ofMembers (members u) :: listToJson us

end

/-- A request as JSON. -/
def toJson (u : Update) : Json := .ofMembers u.members

end Update
end SemanticClient
