import SemanticClient.Json.Basic

/-!
# Shapes of values

Reading a JSON value as a value of another type: strings, words, options, named alternatives and
records. A record may be written as an object or as the array of its fields in order; members that are
not fields are passed over.
-/

namespace SemanticClient.Json

/-- A string. -/
def string? : Json → Option String
  | .string s => some s
  | _ => none

/-- A truth value. -/
def bool? : Json → Option Bool
  | .bool b => some b
  | _ => none

/-- An integer in the range of signed words. -/
def int64? : Json → Option Int64
  | .number (.int n) =>
    if Int64.minValue.toInt ≤ n ∧ n ≤ Int64.maxValue.toInt then some (Int64.ofInt n) else none
  | _ => none

/-- An integer in the range of unsigned words. -/
def uint64? : Json → Option UInt64
  | .number (.int n) => if 0 ≤ n ∧ n < UInt64.size then some (UInt64.ofNat n.toNat) else none
  | _ => none

/-- The items of an array. -/
def array? : Json → Option (List Json)
  | .array items => some items
  | _ => none

/-- An array with all items of one shape. -/
def list? {α : Type} (read : Json → Option α) (v : Json) : Option (List α) := do
  (← v.array?).mapM read

/-- A value or `null`, which is no value. -/
def nullable? {α : Type} (read : Json → Option α) : Json → Option (Option α)
  | .null => some none
  | v => (read v).map some

/-- A field that may be missing, or be `null`. -/
def optional? {α : Type} (read : Json → Option α) : Option Json → Option (Option α)
  | none => some none
  | some v => nullable? read v

/-- The name of an alternative that holds nothing: a string, or the only member of an object, with
`null`. -/
def choice? : Json → Option String
  | .string s => some s
  | .object [(k, .null)] => some k
  | _ => none

/-- A record as an object, from an object or from the array of its fields. An array may leave out fields
at its end as long as it has the given least number. -/
def record? (fields : List String) (least : Nat) : Json → Option Json
  | .object members => some (.object members)
  | .array items =>
    if least ≤ items.length ∧ items.length ≤ fields.length then some (ofMembers (fields.zip items))
    else none
  | _ => none

end SemanticClient.Json
