import SemanticClient.Decimal.Double
import SemanticClient.Keyed

/-!
# JSON values

The values that requests and answers are made of. An object's members are a keyed collection, so two
objects with the same members are the same value whatever order the members were written in.

* `get?_ofMembers`: an object made from members answers a key with the last member of that key.
-/

namespace SemanticClient

/-- A JSON number: an integer is kept exactly, anything else is a double. -/
inductive Number where
  | int (n : Int)
  | double (d : Double)
deriving DecidableEq

/-- A JSON value. -/
inductive Json where
  | null
  | bool (b : Bool)
  | number (n : Number)
  | string (s : String)
  | array (items : List Json)
  | object (members : List (String × Json))

instance : Inhabited Json := ⟨.null⟩

namespace Json

/-- The object with the given members, of which the last one of a key counts. -/
def ofMembers (members : List (String × Json)) : Json := .object (Keyed.ofList members)

/-- An integer. -/
def int (n : Int) : Json := .number (.int n)

/-- A signed word. -/
def int64 (n : Int64) : Json := int n.toInt

/-- A count. -/
def nat (n : Nat) : Json := int n

/-- A list of strings. -/
def strings (items : List String) : Json := .array (items.map .string)

/-- A string that may be missing, `null` when it is. -/
def ofOption : Option String → Json
  | none => .null
  | some s => .string s

/-- The value of a member; no other kind of value has members. -/
def get? : Json → String → Option Json
  | .object members, k => Keyed.get? members k
  | _, _ => none

/-- An object answers a key with the last of the members that it was made from. -/
theorem get?_ofMembers (members : List (String × Json)) (k : String) :
    (ofMembers members).get? k = Keyed.get? members.reverse k :=
  Keyed.get?_ofList members k

mutual

/-- Whether two values are the same. -/
def beq : Json → Json → Bool
  | .null, .null => true
  | .bool a, .bool b => a == b
  | .number a, .number b => decide (a = b)
  | .string a, .string b => a == b
  | .array a, .array b => beqItems a b
  | .object a, .object b => beqMembers a b
  | _, _ => false

/-- Whether two lists hold the same values. -/
def beqItems : List Json → List Json → Bool
  | [], [] => true
  | a :: as, b :: bs => beq a b && beqItems as bs
  | _, _ => false

/-- Whether two objects have the same members. -/
def beqMembers : List (String × Json) → List (String × Json) → Bool
  | [], [] => true
  | (k, a) :: as, (l, b) :: bs => k == l && beq a b && beqMembers as bs
  | _, _ => false

end

instance : BEq Json := ⟨beq⟩

end Json
end SemanticClient
