import SemanticClient.Error
import SemanticClient.Json.Printer
import SemanticClient.Request.Condition

/-!
# Primary keys

What identifies the records that an update changes: a column with a value, or conditions. A key may be
given as JSON in three ways: `{"pk": column, "v": value}`, one condition as the array of its texts, or
an array of such arrays.
-/

namespace SemanticClient

/-- A primary key. -/
inductive PrimaryKey where
  /-- The records that meet conditions. -/
  | meeting (conditions : List Condition)
  /-- The records whose column has a value. -/
  | having (column value : String)

namespace PrimaryKey

/-- The condition of two or three values none of which is an array or an object. -/
def conditionOfItems? (items : List Json) : Option Condition :=
  let nested : Json → Bool
    | .array _ | .object _ => true
    | _ => false
  if items.any nested then none
  else
    match items with
    | [column, value] => some (.key column.plainText value.plainText)
    | [op, left, right] => some (.predicate op.plainText left.plainText right.plainText)
    | _ => none

/-- The condition of an array. -/
def conditionOfJson? : Json → Option Condition
  | .array items => conditionOfItems? items
  | _ => none

/-- Whether a value is an array. -/
def isArray : Json → Bool
  | .array _ => true
  | _ => false

/-- Reads a primary key. -/
def read? (v : Json) : Option PrimaryKey :=
  match v with
  | .object members =>
    match Keyed.get? members "pk", Keyed.get? members "v" with
    | some (.string column), some value => some (.having column value.plainText)
    | _, _ => none
  | .array items =>
    if items.all isArray then (items.mapM conditionOfJson?).map .meeting
    else (conditionOfItems? items).map fun c => .meeting [c]
  | _ => none

/-- Reads a primary key, or says which value is none. -/
def ofJson (v : Json) : Except ClientError PrimaryKey :=
  match read? v with
  | some k => .ok k
  | none => .error (.invalidKey v.text)

/-- The conditions that a key stands for. -/
def toConditions : PrimaryKey → List Condition
  | .meeting cs => cs
  | .having column value => [.key column value]

end PrimaryKey
end SemanticClient
