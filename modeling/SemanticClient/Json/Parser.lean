import SemanticClient.Json.Numeral

/-!
# Reading JSON

The strict grammar: no comments, no trailing commas, no text after the value, controls escaped, escapes
that come in surrogate pairs complete, and no deeper nesting than a limit allows. Of two members with
one key the later one counts.
-/

namespace SemanticClient.Json

/-- A text without the blanks it starts with; JSON knows four of them. -/
def skipBlanks (cs : List Char) : List Char :=
  cs.dropWhile fun c => c == ' ' || c == '\n' || c == '\t' || c == '\r'

/-- The value of a hexadecimal digit in either case. -/
def hexValue? (c : Char) : Option Nat :=
  if c.isDigit then some (c.toNat - '0'.toNat)
  else if 'a' ≤ c ∧ c ≤ 'f' then some (c.toNat - 'a'.toNat + 10)
  else if 'A' ≤ c ∧ c ≤ 'F' then some (c.toNat - 'A'.toNat + 10)
  else none

/-- The value of four hexadecimal digits. -/
def hexUnit? (a b c d : Char) : Option Nat := do
  return (((← hexValue? a) * 16 + (← hexValue? b)) * 16 + (← hexValue? c)) * 16 + (← hexValue? d)

/-- The character of an escape of one letter. -/
def escape? : Char → Option Char
  | '"' => some '"'
  | '\\' => some '\\'
  | '/' => some '/'
  | 'b' => some '\x08'
  | 'f' => some '\x0c'
  | 'n' => some '\n'
  | 'r' => some '\r'
  | 't' => some '\t'
  | _ => none

/-- Reads the rest of a string up to its closing quote. -/
def stringRest : Reader (List Char)
  | [] => .error .ended
  | '"' :: cs => .ok ([], cs)
  | '\\' :: 'u' :: a :: b :: c :: d :: cs =>
    match hexUnit? a b c d with
    | none => .error .badEscape
    | some u =>
      -- the first half of a pair: the second has to follow at once
      if 0xd800 ≤ u ∧ u < 0xdc00 then
        match cs with
        | '\\' :: 'u' :: e :: f :: g :: h :: cs =>
          match hexUnit? e f g h with
          | none => .error .badEscape
          | some v =>
            if 0xdc00 ≤ v ∧ v < 0xe000 then do
              let (s, cs) ← stringRest cs
              return (Char.ofNat (0x10000 + (u - 0xd800) * 0x400 + (v - 0xdc00)) :: s, cs)
            else .error .badEscape
        | _ => .error .badEscape
      -- a second half on its own stands for nothing
      else if 0xdc00 ≤ u ∧ u < 0xe000 then .error .badEscape
      else do
        let (s, cs) ← stringRest cs
        return (Char.ofNat u :: s, cs)
  | '\\' :: c :: cs =>
    match escape? c with
    | none => .error .badEscape
    | some d => do
      let (s, cs) ← stringRest cs
      return (d :: s, cs)
  | c :: cs =>
    if c.toNat < 0x20 then .error (.unexpected c)
    else do
      let (s, cs) ← stringRest cs
      return (c :: s, cs)

/-- Reads the items of an array up to its closing bracket, at least one; the count bounds how many. -/
def itemsRest (item : Reader Json) : Nat → Reader (List Json)
  | 0, cs => .error (faultAt cs)
  | n + 1, cs => do
    let (v, cs) ← item cs
    match skipBlanks cs with
    | ',' :: cs => do
      let (vs, cs) ← itemsRest item n cs
      return (v :: vs, cs)
    | ']' :: cs => return ([v], cs)
    | cs => .error (faultAt cs)

/-- Reads a member: a string, a colon and a value. -/
def readMember (item : Reader Json) (cs : List Char) : Except Fault ((String × Json) × List Char) :=
  match skipBlanks cs with
  | '"' :: cs => do
    let (key, cs) ← stringRest cs
    match skipBlanks cs with
    | ':' :: cs => do
      let (v, cs) ← item cs
      return ((String.ofList key, v), cs)
    | cs => .error (faultAt cs)
  | cs => .error (faultAt cs)

/-- Reads the members of an object up to its closing brace, at least one. -/
def membersRest (item : Reader Json) : Nat → Reader (List (String × Json))
  | 0, cs => .error (faultAt cs)
  | n + 1, cs => do
    let (m, cs) ← readMember item cs
    match skipBlanks cs with
    | ',' :: cs => do
      let (ms, cs) ← membersRest item n cs
      return (m :: ms, cs)
    | '\x7d' :: cs => return ([m], cs)
    | cs => .error (faultAt cs)

/-- Reads a fixed word. -/
def readWord (word : List Char) (v : Json) (cs : List Char) : Except Fault (Json × List Char) :=
  if word.isPrefixOf cs then .ok (v, cs.drop word.length)
  else .error (faultAt (cs.drop 1))

/-- Reads a value; the number is the count of arrays and objects that may be open at once. -/
def readValue : Nat → Reader Json
  | depth, cs =>
    match skipBlanks cs with
    | [] => .error .ended
    | '"' :: cs => do
      let (s, cs) ← stringRest cs
      return (.string (String.ofList s), cs)
    | '[' :: cs =>
      match depth with
      | 0 => .error .tooDeep
      | depth + 1 =>
        match skipBlanks cs with
        | ']' :: cs => .ok (.array [], cs)
        | cs => do
          let (vs, cs) ← itemsRest (readValue depth) cs.length cs
          return (.array vs, cs)
    | '\x7b' :: cs =>
      match depth with
      | 0 => .error .tooDeep
      | depth + 1 =>
        match skipBlanks cs with
        | '\x7d' :: cs => .ok (.object [], cs)
        | cs => do
          let (ms, cs) ← membersRest (readValue depth) cs.length cs
          return (ofMembers ms, cs)
    | 'n' :: cs => readWord "null".toList .null ('n' :: cs)
    | 't' :: cs => readWord "true".toList (.bool true) ('t' :: cs)
    | 'f' :: cs => readWord "false".toList (.bool false) ('f' :: cs)
    | cs => do
      let (n, cs) ← readNumber cs
      return (.number n, cs)

/-- Reads a text that is one value, with at most so many arrays and objects open at once. -/
def parseWithin (depth : Nat) (s : String) : Except Fault Json := do
  let (v, cs) ← readValue depth s.toList
  match skipBlanks cs with
  | [] => return v
  | cs => .error (faultAt cs)

/-- How many arrays and objects may be open at once. -/
def depthLimit : Nat := 127

/-- Reads a text that is one value. -/
def parse (s : String) : Except Fault Json := parseWithin depthLimit s

end SemanticClient.Json
