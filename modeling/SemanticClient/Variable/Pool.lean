import SemanticClient.Json.Printer
import SemanticClient.Text.Quoted

/-!
# Variables

The values that variable paths lead to. A pool holds values under names, and a value may be a pool
itself. A producer is a function without arguments; since it has nothing to depend on, it is held as the
value it gives, together with a number that tells one producer from another.

* `literal?_eq_none_iff`: exactly pools and producers cannot stand in a condition.
-/

namespace SemanticClient

/-- What a variable may be. -/
inductive Variable where
  | scalar (text : String)
  | list (items : List String)
  | pool (entries : List (String × Variable))
  /-- A function without arguments, by its number and the value it gives. -/
  | producer (number : Nat) (product : Variable)

/-- Variables under their names. -/
abbrev Pool := Keyed Variable

instance : Inhabited Variable := ⟨.scalar ""⟩

namespace Variable

mutual

/-- Whether two variables are the same; producers are only when they are one and the same. -/
def beq : Variable → Variable → Bool
  | .scalar a, .scalar b => a == b
  | .list a, .list b => a == b
  | .pool a, .pool b => beqEntries a b
  | .producer m _, .producer n _ => m == n
  | _, _ => false

/-- Whether two pools hold the same variables under the same names. -/
def beqEntries : List (String × Variable) → List (String × Variable) → Bool
  | [], [] => true
  | (k, a) :: as, (l, b) :: bs => k == l && beq a b && beqEntries as bs
  | _, _ => false

end

instance : BEq Variable := ⟨beq⟩

/-- A text between single quotes, unchanged. -/
def quote (s : String) : String := "'" ++ s ++ "'"

/-- A list of texts as a condition has it: each quoted, all in parentheses. -/
def quoteList (items : List String) : String := "(" ++ ", ".intercalate (items.map quote) ++ ")"

/-- The form of a variable within a condition. -/
def literal? : Variable → Option String
  | .scalar s => some (quote s)
  | .list items => some (quoteList items)
  | .pool _ | .producer _ _ => none

/-- The text of a scalar. -/
def scalar? : Variable → Option String
  | .scalar s => some s
  | _ => none

mutual

/-- A variable as JSON; a producer is called. -/
def toJson : Variable → Json
  | .scalar s => .string s
  | .list items => .strings items
  | .pool entries => .object (entriesToJson entries)
  | .producer _ v => toJson v

/-- The variables of a pool as the members of an object. -/
def entriesToJson : List (String × Variable) → List (String × Json)
  | [] => []
  | (k, v) :: es => (k, toJson v) :: entriesToJson es

end

mutual

/-- The variable of a JSON value: texts, numbers and truth values are scalars, and `null` is nothing. -/
def ofJson? : Json → Option Variable
  | .null => none
  | .string s => some (.scalar s)
  | .bool b => some (.scalar (Json.bool b).text)
  | .number n => some (.scalar n.text)
  | .array items => some (.list (items.map Json.plainText))
  | .object members => some (.pool (entriesOfJson members))

/-- The variables of the members that have one. -/
def entriesOfJson : List (String × Json) → List (String × Variable)
  | [] => []
  | (k, v) :: ms =>
    match ofJson? v with
    | none => entriesOfJson ms
    | some x => (k, x) :: entriesOfJson ms

end

mutual

/-- How a variable is shown to a developer. -/
def debugText : Variable → String
  | .scalar s => "Scalar(" ++ Text.quoted s ++ ")"
  | .list items => "List(" ++ Text.quotedList items ++ ")"
  | .pool entries =>
    "Map(ArgPool \x7b vars: \x7b" ++ ", ".intercalate (debugEntries entries) ++ "\x7d \x7d)"
  | .producer _ _ => "Func(..)"

/-- How the variables of a pool are shown. -/
def debugEntries : List (String × Variable) → List String
  | [] => []
  | (k, v) :: es => (Text.quoted k ++ ": " ++ debugText v) :: debugEntries es

end

theorem literal?_eq_none_iff (v : Variable) :
    v.literal? = none ↔ (∃ es, v = .pool es) ∨ ∃ n x, v = .producer n x := by
  cases v <;> simp [literal?]

end Variable

namespace Pool

/-- The pool of a JSON object; nothing else is a pool. -/
def ofJson? : Json → Option Pool
  | .object members => some (Variable.entriesOfJson members)
  | _ => none

/-- A pool as JSON. -/
def toJson (p : Pool) : Json := .object (Variable.entriesToJson p)

end Pool
end SemanticClient
