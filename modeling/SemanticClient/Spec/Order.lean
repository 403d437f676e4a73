import SemanticClient.Spec.Name
import SemanticClient.Text.Split

/-!
# Order specs

An order spec lists the columns to sort by, separated by commas: `pubDate desc, a.name`. A column
without a table belongs to a default table, and one without a direction is ascending. Blank segments
mean nothing; a segment of any other form spoils the whole spec.
-/

namespace SemanticClient.Spec

/-- A direction to sort in. -/
inductive Direction where
  | ascending
  | descending
deriving DecidableEq

/-- The name of a direction. -/
def Direction.name : Direction → String
  | .ascending => "asc"
  | .descending => "desc"

/-- A column to sort by. -/
structure Order where
  table : String
  field : String
  direction : Direction
deriving DecidableEq

namespace Order

/-- The column with its table, if it has one. -/
def column (o : Order) : String := if o.table.isEmpty then o.field else o.table ++ "." ++ o.field

/-- Whether a character is a small letter in either case. -/
def isLetter (letter c : Char) : Bool := c.toLower == letter

/-- Whether a character is a small letter in either case; the long s is one more form of the s. -/
def isLetterOrLongS (letter c : Char) : Bool :=
  isLetter letter c || (letter == 's' && c.toNat == 0x17f)

/-- Whether a text is a word, letter by letter. -/
def spells (same : Char → Char → Bool) : List Char → List Char → Bool
  | [], [] => true
  | a :: word, c :: cs => same a c && spells same word cs
  | _, _ => false

/-- Reads a direction. With a long s the word for descending is known, but not followed. -/
def direction? (cs : List Char) : Option Direction :=
  let asc := ['a', 's', 'c']
  let desc := ['d', 'e', 's', 'c']
  if cs.isEmpty then some .ascending
  else if spells isLetter desc cs then some .descending
  else if spells isLetterOrLongS desc cs || spells isLetterOrLongS asc cs then some .ascending
  else none

/-- Reads what follows a column: a direction after a blank, or nothing. -/
def withDirection? (table : String) (field cs : List Char) : Option Order := do
  return ⟨table, String.ofList field, ← direction? (Text.trim cs)⟩

/-- Reads a segment. -/
def ofSegment? (defaultTable : String) (segment : List Char) : Option Order := do
  let (first, cs) ← name? (Text.trimLeft segment)
  match cs with
  | '.' :: cs => do
    let (field, cs) ← name? cs
    withDirection? (String.ofList first) field cs
  | cs => withDirection? defaultTable first cs

/-- Reads segments of a spec. -/
def ofSegments (spec defaultTable : String) : List (List Char) → Except SpecError (List Order)
  | [] => .ok []
  | segment :: segments =>
    if (Text.trim segment).isEmpty then ofSegments spec defaultTable segments
    else
      match ofSegment? defaultTable segment with
      | none => .error (.invalidOrder spec (String.ofList (Text.trim segment)))
      | some o => do return o :: (← ofSegments spec defaultTable segments)

/-- Reads an order spec. -/
def parse (spec defaultTable : String) : Except SpecError (List Order) :=
  ofSegments spec defaultTable (Text.split ',' spec.toList)

end Order
end SemanticClient.Spec
