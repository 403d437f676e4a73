import SemanticClient.Json.Basic

/-!
# Reading numbers

A numeral without fraction and exponent is an integer as long as a word holds it. Every other numeral
is a double: its digits are collected in a word, as many as fit, and the word is scaled by a power of
ten in double arithmetic. The negative zero is a double, for no integer has its sign.
-/

namespace SemanticClient.Json

/-- What can be wrong with a JSON text. -/
inductive Fault where
  /-- The text ends within a value. -/
  | ended
  /-- A character that cannot stand where it does. -/
  | unexpected (c : Char)
  /-- Arrays and objects nested too deep. -/
  | tooDeep
  /-- A number beyond the largest double. -/
  | outOfRange
  /-- An escape that stands for no character. -/
  | badEscape
deriving DecidableEq

/-- The wording of a fault. -/
def Fault.message : Fault → String
  | .ended => "unexpected end of text"
  | .unexpected c => "unexpected character '" ++ c.toString ++ "'"
  | .tooDeep => "nesting too deep"
  | .outOfRange => "number out of range"
  | .badEscape => "invalid escape"

/-- A reader takes a value off the front of a text. -/
abbrev Reader (α : Type) := List Char → Except Fault (α × List Char)

/-- The fault of a text that cannot go on with what it starts with. -/
def faultAt : List Char → Fault
  | [] => .ended
  | c :: _ => .unexpected c

/-- The value of a decimal digit. -/
def digit? (c : Char) : Option Nat := if c.isDigit then some (c.toNat - '0'.toNat) else none

/-- Reads the digits before the point, those that fit in a word into the first number; the second counts
the digits that did not fit. -/
def wholeDigits (word beyond : Nat) : List Char → Nat × Nat × List Char
  | [] => (word, beyond, [])
  | c :: cs =>
    match digit? c with
    | none => (word, beyond, c :: cs)
    | some d =>
      if beyond = 0 ∧ word * 10 + d < UInt64.size then wholeDigits (word * 10 + d) 0 cs
      else wholeDigits word (beyond + 1) cs

/-- Reads the digits after the point into a word; `taken` counts those that fit, and once one does not,
all later ones are passed over. -/
def fractionDigits (word taken : Nat) (full : Bool) : List Char → Nat × Nat × List Char
  | [] => (word, taken, [])
  | c :: cs =>
    match digit? c with
    | none => (word, taken, c :: cs)
    | some d =>
      if !full && word * 10 + d < UInt64.size then fractionDigits (word * 10 + d) (taken + 1) false cs
      else fractionDigits word taken true cs

/-- Reads the digits of an exponent. -/
def exponentDigits (n : Nat) : List Char → Nat × List Char
  | [] => (n, [])
  | c :: cs =>
    match digit? c with
    | none => (n, c :: cs)
    | some d => exponentDigits (n * 10 + d) cs

/-- Whether a text starts with a digit. -/
def startsWithDigit : List Char → Bool
  | [] => false
  | c :: _ => c.isDigit

/-- Reads what follows the mark of an exponent. -/
def signedExponent (cs : List Char) : Except Fault (Int × List Char) :=
  let (negative, cs) := match cs with
    | '-' :: cs => (true, cs)
    | '+' :: cs => (false, cs)
    | cs => (false, cs)
  if startsWithDigit cs then
    let (n, cs) := exponentDigits 0 cs
    .ok (if negative then -(n : Int) else n, cs)
  else .error (faultAt cs)

/-- The double nearest to a power of ten. -/
def powerOfTen (n : Nat) : Float := Float.ofScientific 1 false n

/-- A float times a power of ten, unless it grows beyond every double. A power that no double holds is
taken in steps, and after two steps down every word is zero. -/
def scaled : Nat → Float → Int → Option Float
  | steps, x, e =>
    if e.natAbs ≤ 308 then
      if 0 ≤ e then
        let y := x * powerOfTen e.natAbs
        if y.isInf then none else some y
      else some (x / powerOfTen e.natAbs)
    else if x == 0 then some x
    else if 0 ≤ e then none
    else
      match steps with
      | 0 => some 0
      | steps + 1 => scaled steps (x / powerOfTen 308) (e + 308)

/-- The double of a word and a power of ten. -/
def doubleOf (negative : Bool) (word : Nat) (e : Int) : Except Fault Number :=
  match scaled 3 word.toUInt64.toFloat e with
  | none => .error .outOfRange
  | some x =>
    match Double.ofFloat? (if negative then -x else x) with
    | none => .error .outOfRange
    | some d => .ok (.double d)

/-- A number without fraction and exponent whose digits fit in a word. -/
def wholeNumber (negative : Bool) (word : Nat) : Except Fault Number :=
  if !negative then .ok (.int word)
  else if 0 < word ∧ Int64.minValue.toInt ≤ -(word : Int) then .ok (.int (-(word : Int)))
  -- the negative zero, and what is below the signed words
  else doubleOf true word 0

/-- Reads what may follow the digits before the point. -/
def afterWhole (negative : Bool) (word beyond : Nat) : Reader Number
  | '.' :: cs =>
    if startsWithDigit cs then
      let (word, taken, cs) := fractionDigits word 0 false cs
      let e : Int := beyond - taken
      match cs with
      | 'e' :: cs | 'E' :: cs => do
        let (f, cs) ← signedExponent cs
        return (← doubleOf negative word (e + f), cs)
      | cs => do return (← doubleOf negative word e, cs)
    else .error (faultAt cs)
  | 'e' :: cs | 'E' :: cs => do
    let (f, cs) ← signedExponent cs
    return (← doubleOf negative word (beyond + f), cs)
  | cs => do
    if beyond = 0 then return (← wholeNumber negative word, cs)
    else return (← doubleOf negative word beyond, cs)

/-- Reads a number; it does not start with a zero that another digit follows. -/
def readNumber (cs : List Char) : Except Fault (Number × List Char) :=
  let (negative, cs) := match cs with
    | '-' :: cs => (true, cs)
    | cs => (false, cs)
  match cs with
  | '0' :: cs => if startsWithDigit cs then .error (faultAt cs) else afterWhole negative 0 0 cs
  | cs =>
    if startsWithDigit cs then
      let (word, beyond, cs) := wholeDigits 0 0 cs
      afterWhole negative word beyond cs
    else .error (faultAt cs)

end SemanticClient.Json
