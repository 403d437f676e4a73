import SemanticClient.Json.Basic
import SemanticClient.Notice
import SemanticClient.Text.Split
import SemanticClient.Variable.Pool

/-!
# Where conditions

A condition matches a key column, compares two operands, or groups other conditions. On the wire all
three are arrays: two texts, three texts, and an array of arrays.

* `formConditions_append`: the fields of a query form give their conditions one by one.
-/

namespace SemanticClient

/-- A where condition. -/
inductive Condition where
  /-- A key column has a value. -/
  | key (column value : String)
  /-- An operator holds between two operands. -/
  | predicate (op left right : String)
  | group (conditions : List Condition)

instance : Inhabited Condition := ⟨.group []⟩

namespace Condition

mutual

/-- A condition as JSON. -/
def toJson : Condition → Json
  | .key column value => .strings [column, value]
  | .predicate op left right => .strings [op, left, right]
  | .group conditions => .array (listToJson conditions)

/-- Conditions as JSON. -/
def listToJson : List Condition → List Json
  | [] => []
  | c :: cs => toJson c :: listToJson cs

end

end Condition

/-- The value of a query form's field that stands for everything. -/
def allPlaceholder : String := "-- ALL --"

/-- The condition of a query form's field, whose name is a column and an operator: none if the value is
empty or stands for everything, or if the name has no operator. -/
def formCondition (defaultTable name value : String) : Logged (Option Condition) :=
  if value.isEmpty || value == allPlaceholder then pure none
  else
    match Text.words name.toList with
    | column :: op :: _ =>
      let qualified :=
        if column.contains '.' || defaultTable.isEmpty then String.ofList column
        else defaultTable ++ "." ++ String.ofList column
      pure (some (.predicate (String.ofList op) qualified (Variable.quote value)))
    | _ => do
      notice (.operatorMissing name)
      return none

/-- The conditions of the fields of a query form, names before values. -/
def formConditions (defaultTable : String) : List (String × String) → Logged (List Condition)
  | [] => pure []
  | (name, value) :: fields => do
    let c ← formCondition defaultTable name value
    let cs ← formConditions defaultTable fields
    return c.toList ++ cs

/-- The conditions of two lists of fields are those of the first and then those of the second. -/
theorem formConditions_append (defaultTable : String) (u v : List (String × String)) :
    (formConditions defaultTable (u ++ v)).value =
      (formConditions defaultTable u).value ++ (formConditions defaultTable v).value := by
  induction u with
  | nil => rfl
  | cons f u ih => simp [formConditions, ih]

end SemanticClient
