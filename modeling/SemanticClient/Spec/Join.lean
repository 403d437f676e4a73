import SemanticClient.Spec.Name
import SemanticClient.Variable.Marker

/-!
# Join specs

A join spec lists the tables of a query, separated by commas:

    b_articles, j:b_cate:c c.id = cateId, l:b_author a and a.name = {@ form.name}

The main table stands alone, with an alias if it has one. Every other table has a flag for the kind of
join, an alias if it has one, and the condition to join on. Segments of neither form and further main
tables are left out, with a diagnostic for each.

* `length_joins_add_length_diagnostics`: every segment gives one table or one diagnostic.
-/

namespace SemanticClient.Spec

/-- How a table comes into a query. -/
inductive JoinKind where
  | main
  | inner
  | left
  | right
deriving DecidableEq

/-- The name of a kind of join, as requests have it. -/
def JoinKind.name : JoinKind → String
  | .main => "main-table"
  | .inner => "j"
  | .left => "l"
  | .right => "r"

/-- The kind of join of a flag, in either case. -/
def JoinKind.ofFlag? (c : Char) : Option JoinKind :=
  if c = 'j' ∨ c = 'J' then some .inner
  else if c = 'l' ∨ c = 'L' then some .left
  else if c = 'r' ∨ c = 'R' then some .right
  else none

/-- A table of a query. -/
structure Join where
  kind : JoinKind
  table : String
  tableAlias : Option String
  condition : Option String
deriving DecidableEq

/-- A table as JSON: kind, name, alias and condition. -/
def Join.toJson (j : Join) : Json :=
  .array [.string j.kind.name, .string j.table, .ofOption j.tableAlias, .ofOption j.condition]

/-- A segment of a join spec by its form, before any variable is looked up. -/
inductive Segment where
  /-- A flag, a table and a condition. -/
  | joined (kind : JoinKind) (table : List Char) (tableAlias : Option (List Char))
      (condition : List Char)
  /-- A table that stands alone. -/
  | alone (table : List Char) (tableAlias : Option (List Char))
  /-- Anything else. -/
  | unreadable
deriving DecidableEq

namespace Segment

/-- Reads a flag with its colon. -/
def flag? (cs : List Char) : Option (JoinKind × List Char) :=
  match Text.trimLeft cs with
  | [] => none
  | c :: cs => do return (← JoinKind.ofFlag? c, ← colon? cs)

/-- Reads a condition: it follows at least one blank and holds no line feed. Of nothing but blanks, the
last one that is not a line feed is a condition if another blank stands before it. -/
def condition? (cs : List Char) : Option (List Char) :=
  let blanks := cs.takeWhile Text.isBlank
  let body := Text.trim cs
  if blanks.isEmpty then none
  else if body.isEmpty then ((blanks.drop 1).reverse.find? (· != '\n')).map fun c => [c]
  else if body.contains '\n' then none
  else some body

/-- Reads an alias and a condition. -/
def aliased? (cs : List Char) : Option (List Char × List Char) := do
  let (a, cs) ← name? (← colon? cs)
  return (a, ← condition? cs)

/-- Reads what follows a flag. A colon that is not the mark of an alias belongs to the condition. -/
def joined? (kind : JoinKind) (cs : List Char) : Option Segment := do
  let (table, cs) ← name? cs
  match aliased? cs with
  | some (a, condition) => return .joined kind table (some a) condition
  -- without an alias, a colon after a blank starts the condition
  | none => return .joined kind table none (← condition? cs)

/-- Reads a table that stands alone. -/
def alone? (cs : List Char) : Option Segment := do
  let (table, cs) ← name? (Text.trimLeft cs)
  match colon? cs with
  | none => if (Text.trim cs).isEmpty then return .alone table none else none
  | some cs => do
    let (a, cs) ← name? cs
    if (Text.trim cs).isEmpty then return .alone table (some a) else none

/-- Reads a segment. One that starts with a flag is never a main table. -/
def ofText (cs : List Char) : Segment :=
  match flag? cs with
  | some (kind, rest) => (joined? kind rest).getD .unreadable
  | none => (alone? cs).getD .unreadable

end Segment

/-- A condition with its first marker replaced by the variable that it names. A variable that cannot
stand in a condition leaves its path there, quoted. -/
def splice (s : Scope) (condition : List Char) : Logged (List Char) :=
  match Marked.first? condition with
  | none => pure condition
  | some m => do
    -- only the first marker counts; one after it is noticed before the first is looked up
    if (Marked.first? m.after).isSome then notice (.markersLeft (String.ofList condition))
    let v ← s.resolve m.path
    let literal ← match v.literal? with
      | some l => pure l
      | none => do
        let path := String.ofList m.path
        notice (.literalMissing path)
        pure (Variable.quote path)
    return m.before ++ literal.toList ++ m.after

/-- The tables of a join spec and what was left out. -/
structure JoinList where
  joins : List Join
  diagnostics : List SpecError

namespace JoinList

/-- A diagnostic for a segment that is left out. -/
def skip (e : SpecError) : Logged (Except SpecError Join) := do
  notice (.segmentSkipped e.message)
  return .error e

/-- The table of a segment, given whether a main table is known already. -/
def readSegment (s : Scope) (mainKnown : Bool) (segment : List Char) :
    Logged (Except SpecError Join) :=
  match Segment.ofText segment with
  | .joined kind table a condition => do
    let condition ← splice s condition
    return .ok ⟨kind, String.ofList table, a.map String.ofList, some (String.ofList condition)⟩
  | .alone table a =>
    if mainKnown then skip (.extraMainTable (String.ofList (Text.trim segment)))
    else pure (.ok ⟨.main, String.ofList table, a.map String.ofList, none⟩)
  | .unreadable => skip (.invalidJoin (String.ofList (Text.trim segment)))

/-- Whether a segment gave the main table. -/
def isMain : Except SpecError Join → Bool
  | .ok j => j.kind == .main
  | .error _ => false

/-- What every segment gives, in order. -/
def readSegments (s : Scope) : Bool → List (List Char) → Logged (List (Except SpecError Join))
  | _, [] => pure []
  | mainKnown, segment :: segments => do
    let r ← readSegment s mainKnown segment
    let rs ← readSegments s (mainKnown || isMain r) segments
    return r :: rs

/-- The tables and the diagnostics among results. -/
def ofResults (rs : List (Except SpecError Join)) : JoinList where
  joins := rs.filterMap fun
    | .ok j => some j
    | .error _ => none
  diagnostics := rs.filterMap fun
    | .ok _ => none
    | .error e => some e

/-- Reads a join spec. -/
def parse (s : Scope) (spec : String) : Logged JoinList := do
  return ofResults (← readSegments s false (Text.split ',' spec.toList))

/-- The main table, if there is one. -/
def main? (l : List Join) : Option Join := l.find? (·.kind == .main)

theorem length_readSegments (s : Scope) (b : Bool) (segments : List (List Char)) :
    (readSegments s b segments).value.length = segments.length := by
  induction segments generalizing b with
  | nil => rfl
  | cons c cs ih => simp [readSegments, ih]

/-- Every segment gives one table or one diagnostic. -/
theorem length_joins_add_length_diagnostics (s : Scope) (spec : String) :
    (parse s spec).value.joins.length + (parse s spec).value.diagnostics.length =
      (Text.split ',' spec.toList).length := by
  simp only [parse, Traced.value_bind, Traced.value_pure]
  rw [← length_readSegments s false]
  generalize (readSegments s false _).value = rs
  induction rs with
  | nil => rfl
  | cons r rs ih => cases r <;> simp [ofResults] at ih ⊢ <;> omega

end JoinList
end SemanticClient.Spec
