import SemanticClient.Notice
import SemanticClient.Spec.Order

/-!
# Aliases of field expressions

A field expression such as `field: 'userName', width: 80` names a column between single quotes after
the word `field`, in any case.
-/

namespace SemanticClient.Spec

/-- Reads `field: 'name'` at the front of a text. -/
def fieldName? (cs : List Char) : Option (List Char) := do
  let word := ['f', 'i', 'e', 'l', 'd']
  if Order.spells Order.isLetter word (cs.take word.length) then
    match ← colon? (cs.drop word.length) with
    | '\'' :: cs => do
      let (name, cs) ← name? cs
      if cs.head? = some '\'' then some name else none
    | _ => none
  else none

/-- The first name that a field expression has anywhere. -/
def firstFieldName? : List Char → Option (List Char)
  | [] => none
  | c :: cs => fieldName? (c :: cs) <|> firstFieldName? cs

/-- The alias of a field expression, or the expression itself if it has none. -/
def findAlias (target : String) : Logged String :=
  match firstFieldName? target.toList with
  | some name => pure (String.ofList name)
  | none => do
    notice (.aliasMissing target)
    return target

end SemanticClient.Spec
