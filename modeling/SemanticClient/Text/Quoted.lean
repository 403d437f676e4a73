import SemanticClient.Text.Visible

/-!
# Quoted text

A text between double quotes in which every character can be told apart: what is not visible is written
as an escape. This is how texts are shown to a developer, not how they travel.
-/

namespace SemanticClient.Text

/-- A character within quotes: six escapes of their own, a code point in hex for anything else that
does not show itself. -/
def quotedChar (c : Char) : String :=
  if c == '"' then "\\\""
  else if c == '\\' then "\\\\"
  else if c == '\n' then "\\n"
  else if c == '\r' then "\\r"
  else if c == '\t' then "\\t"
  else if c.toNat == 0 then "\\0"
  else if isVisible c then c.toString
  else "\\u\x7b" ++ String.ofList (Nat.toDigits 16 c.toNat) ++ "\x7d"

/-- A text between quotes. -/
def quoted (s : String) : String := "\"" ++ String.join (s.toList.map quotedChar) ++ "\""

/-- A list of texts, each between quotes. -/
def quotedList (items : List String) : String :=
  "[" ++ ", ".intercalate (items.map quoted) ++ "]"

end SemanticClient.Text
