import SemanticClient.Variable.Marker

/-!
# Semantic keys

A semantic key with arguments, such as `roles.ez, {@ form.org}, all`: the name of a data set that the
server has configured, then its arguments by position. An argument with a marker is the variable of the
first marker, any other is its own text.
-/

namespace SemanticClient

/-- A semantic key and its arguments. -/
structure SemanticKey where
  key : String
  args : List Variable

namespace SemanticKey

/-- The arguments as JSON. -/
def argsJson (k : SemanticKey) : List Json := k.args.map Variable.toJson

/-- The table name that keys once started with. -/
def legacyTable : List Char := ['c', 'b', 'b', '.']

/-- The key without the table name that it may start with. -/
def readKey (key : List Char) : Logged String :=
  if legacyTable.isPrefixOf key then do
    notice (.legacyKey (String.ofList key))
    return String.ofList (key.drop legacyTable.length)
  else pure (String.ofList key)

/-- The variable that an argument stands for. -/
def readArg (s : Scope) (arg : List Char) : Logged Variable :=
  match Marked.first? arg with
  | some m => s.resolve m.path
  | none => pure (.scalar (String.ofList (Text.trim arg)))

/-- Reads a semantic key with arguments; a blank text has no key. -/
def parse? (s : Scope) (text : String) : Logged (Option SemanticKey) :=
  let text := Text.trim text.toList
  if text.isEmpty then pure none
  else
    match Text.split ',' text with
    | [] => pure none
    | key :: args => do
      let key ← readKey (Text.trim key)
      let args ← args.mapM (readArg s)
      return some ⟨key, args⟩

end SemanticKey
end SemanticClient
