import SemanticClient.Text.Blank
import SemanticClient.Text.Word

/-!
# Parts of specs

The pieces that join specs, order specs and field expressions share: names and colons. A reader takes a
piece off the front of a text and gives it with the rest.

* `name?_eq_some_iff`: a name is the longest run of word characters, and it is not empty.
-/

namespace SemanticClient.Spec

/-- What is wrong with a spec. -/
inductive SpecError where
  /-- A segment of a join spec of no known form. -/
  | invalidJoin (segment : String)
  /-- A segment of an order spec of no known form. -/
  | invalidOrder (spec segment : String)
  /-- No segment of a join spec is a main table; the tables that are joined. -/
  | noMainTable (tables : String)
  /-- A second main table. -/
  | extraMainTable (segment : String)
deriving DecidableEq

/-- The wording of what is wrong with a spec. -/
def SpecError.message : SpecError → String
  | .invalidJoin segment => "Can't parse table join segment: '" ++ segment ++ "'"
  | .invalidOrder spec segment => "Can't parse order segment '" ++ segment ++ "' in '" ++ spec ++ "'"
  | .noMainTable tables => "No main table in join spec: '" ++ tables ++ "'"
  | .extraMainTable segment => "Main table already given, skipping: '" ++ segment ++ "'"

/-- Reads a name: all the word characters at the front. -/
def name? (cs : List Char) : Option (List Char × List Char) :=
  if (cs.takeWhile Text.isWord).isEmpty then none
  else some (cs.takeWhile Text.isWord, cs.dropWhile Text.isWord)

/-- Reads a colon with the blanks around it. -/
def colon? (cs : List Char) : Option (List Char) :=
  match Text.trimLeft cs with
  | ':' :: cs => some (Text.trimLeft cs)
  | _ => none

theorem name?_eq_some_iff {cs w r : List Char} :
    name? cs = some (w, r) ↔
      w ≠ [] ∧ w = cs.takeWhile Text.isWord ∧ r = cs.dropWhile Text.isWord := by
  rw [name?]
  by_cases h : cs.takeWhile Text.isWord = []
  · rw [h]
    exact ⟨fun h' => by simp at h', fun h' => absurd h'.2.1 h'.1⟩
  · rw [if_neg (by rwa [List.isEmpty_iff])]
    constructor
    · intro h'
      obtain ⟨rfl, rfl⟩ := Prod.mk.inj (Option.some.inj h')
      exact ⟨h, rfl, rfl⟩
    · rintro ⟨-, rfl, rfl⟩
      rfl

end SemanticClient.Spec
