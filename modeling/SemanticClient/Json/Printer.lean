import SemanticClient.Decimal.Layout
import SemanticClient.Json.Basic

/-!
# JSON text

The compact form, without blanks, and the indented form of a value. Members are written in the order in
which the object holds them.
-/

namespace SemanticClient

/-- Doubles have a point from `1e-5` up to `1e16`, and an exponent beyond. -/
def Number.layout : DecimalLayout := ⟨-5, 16⟩

/-- The text of a number. -/
def Number.text : Number → String
  | .int n => toString n
  | .double d => layout.write d

namespace Json

/-- A hexadecimal digit, in lower case. -/
def hexDigit (n : Nat) : Char := Nat.digitChar n

/-- A character within a JSON string: quote, backslash and the controls are escaped. -/
def escapedChar (c : Char) : String :=
  if c == '"' then "\\\""
  else if c == '\\' then "\\\\"
  else if 0x20 ≤ c.toNat then c.toString
  else if c == '\n' then "\\n"
  else if c == '\r' then "\\r"
  else if c == '\t' then "\\t"
  else if c.toNat == 0x08 then "\\b"
  else if c.toNat == 0x0c then "\\f"
  else "\\u00" ++ String.ofList [hexDigit (c.toNat / 16), hexDigit (c.toNat % 16)]

/-- A JSON string. -/
def stringText (s : String) : String := "\"" ++ String.join (s.toList.map escapedChar) ++ "\""

mutual

/-- The compact text of a value. -/
def text : Json → String
  | .null => "null"
  | .bool true => "true"
  | .bool false => "false"
  | .number n => n.text
  | .string s => stringText s
  | .array items => "[" ++ ",".intercalate (textItems items) ++ "]"
  | .object members => "\x7b" ++ ",".intercalate (textMembers members) ++ "\x7d"

/-- The compact texts of the items of an array. -/
def textItems : List Json → List String
  | [] => []
  | v :: vs => text v :: textItems vs

/-- The compact texts of the members of an object. -/
def textMembers : List (String × Json) → List String
  | [] => []
  | (k, v) :: ms => (stringText k ++ ":" ++ text v) :: textMembers ms

end

/-- A line end and two blanks for every level of nesting. -/
def newline (level : Nat) : String := String.ofList ('\n' :: List.replicate (2 * level) ' ')

/-- What stands between brackets, each part on a line of its own. -/
def block (opening closing : String) (level : Nat) : List String → String
  | [] => opening ++ closing
  | parts =>
    opening ++ newline (level + 1) ++ ("," ++ newline (level + 1)).intercalate parts ++
      newline level ++ closing

mutual

/-- The indented text of a value that stands at a level of nesting. -/
def indentedAt : Nat → Json → String
  | level, .array items => block "[" "]" level (indentedItems (level + 1) items)
  | level, .object members => block "\x7b" "\x7d" level (indentedMembers (level + 1) members)
  | _, v => v.text

/-- The indented texts of the items of an array. -/
def indentedItems : Nat → List Json → List String
  | _, [] => []
  | level, v :: vs => indentedAt level v :: indentedItems level vs

/-- The indented texts of the members of an object. -/
def indentedMembers : Nat → List (String × Json) → List String
  | _, [] => []
  | level, (k, v) :: ms =>
    (stringText k ++ ": " ++ indentedAt level v) :: indentedMembers level ms

end

/-- The indented text of a value, by two blanks a level. -/
def indented (v : Json) : String := indentedAt 0 v

/-- A string as it is, any other value as its compact text. -/
def plainText : Json → String
  | .string s => s
  | v => v.text

end Json
end SemanticClient
