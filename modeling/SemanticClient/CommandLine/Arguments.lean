import SemanticClient.Config

/-!
# Arguments

What the words of a command line mean: options before the command are common to all commands, the
command has options of its own, and some options may come from the environment. Every option is given at
most once. An option's value is attached to it or is the next word, if that does not start with a hyphen.

A value that is a word of its own is judged late: when another option of the same level follows, or else
after the command with its options. So a request for help with a command wins over a wrong value right
before the command.

* `parse` reads a whole command line.
-/

namespace SemanticClient.CommandLine

/-- Why a command line is not run. -/
inductive Stop where
  /-- The words make no command. -/
  | usage
  /-- Help or the version is asked for. -/
  | help
deriving DecidableEq

/-- A user with a password. -/
structure Credentials where
  uid : String
  password : String
deriving DecidableEq

/-- What to query. -/
structure QuerySpec where
  joins : String
  orders : Option String
  /-- Variables, as the text of a JSON object. -/
  args : Option String
deriving DecidableEq

/-- A command. -/
inductive Command where
  | compile (spec : QuerySpec)
  | login (credentials : Credentials)
  | query (credentials : Credentials) (spec : QuerySpec) (page size : Int64)
  | ping (credentials : Credentials)
deriving DecidableEq

/-- A command with the common options. -/
structure Invocation where
  config : Config
  /-- Whether results are printed as JSON. -/
  asJson : Bool
  command : Command
deriving DecidableEq

/-- An option that a command line may have. -/
structure OptionSpec where
  /-- The name after two hyphens, by which its value is kept too. -/
  name : String
  /-- The letter after one hyphen. -/
  letter : Option Char
  takesValue : Bool
deriving DecidableEq

/-- The options that are common to all commands. -/
def commonOptions : List OptionSpec :=
  [⟨"serv", none, true⟩, ⟨"conn", none, true⟩, ⟨"format", some 'f', true⟩,
    ⟨"verbose", some 'v', false⟩, ⟨"help", some 'h', false⟩, ⟨"version", some 'V', false⟩]

/-- The option that asks for help with a command. -/
def helpOption : OptionSpec := ⟨"help", some 'h', false⟩

/-- The options that name a user. -/
def credentialOptions : List OptionSpec := [⟨"uid", some 'u', true⟩, ⟨"pswd", some 'p', true⟩]

/-- The options that say what to query. -/
def queryOptions : List OptionSpec :=
  [⟨"t", some 't', true⟩, ⟨"order", some 'o', true⟩, ⟨"args", some 'a', true⟩]

/-- The options that choose a page. -/
def pageOptions : List OptionSpec := [⟨"page", none, true⟩, ⟨"size", none, true⟩]

/-- The options of a command. -/
def optionsOf? : String → Option (List OptionSpec)
  | "compile" => some (helpOption :: queryOptions)
  | "login" | "ping" => some (helpOption :: credentialOptions)
  | "query" => some (helpOption :: (credentialOptions ++ queryOptions ++ pageOptions))
  | _ => none

/-- The values of the options that were given; an option without a value has the empty text. -/
abbrev Values := Keyed String

/-- What a word is. -/
inductive Word where
  /-- Two hyphens: no options follow. -/
  | separator
  /-- An option by name, with the value attached to it. -/
  | long (name : String) (value : Option String)
  /-- Options by letter, and what may be the value of the last. -/
  | short (letters : List Char)
  | plain (text : String)

/-- A name and the value after the first `=`. -/
def nameAndValue : List Char → List Char × Option (List Char)
  | [] => ([], none)
  | '=' :: cs => ([], some cs)
  | c :: cs => (c :: (nameAndValue cs).1, (nameAndValue cs).2)

/-- What a word is; a single hyphen is plain. -/
def Word.ofText (s : String) : Word :=
  match s.toList with
  | ['-', '-'] => .separator
  | '-' :: '-' :: cs =>
    let (name, value) := nameAndValue cs
    .long (String.ofList name) (value.map String.ofList)
  | ['-'] => .plain s
  | '-' :: cs => .short cs
  | _ => .plain s

/-- The signed word that a text is the decimal of. -/
def readInt64? (s : String) : Option Int64 :=
  let (negative, digits) := match s.toList with
    | '-' :: cs => (true, cs)
    | '+' :: cs => (false, cs)
    | cs => (false, cs)
  if digits.isEmpty || !digits.all Char.isDigit then none
  else
    let n : Int := digits.foldl (fun n c => n * 10 + (c.toNat - '0'.toNat)) 0
    let n := if negative then -n else n
    if Int64.minValue.toInt ≤ n ∧ n ≤ Int64.maxValue.toInt then some (Int64.ofInt n) else none

/-- What an option's value has to look like. -/
def validValue (name value : String) : Bool :=
  match name with
  | "format" => value == "text" || value == "json"
  | "page" | "size" => (readInt64? value).isSome
  | _ => true

/-- An option whose value is a word of its own. -/
structure Pending where
  option : OptionSpec
  /-- The value, or nothing before its word is read. -/
  value : Option String

/-- Keeps the value of an option, which must not have one already. -/
def keep (values : Values) (o : OptionSpec) (value : String) : Except Stop Values :=
  if o.name == "help" || o.name == "version" then .error .help
  else if Keyed.contains values o.name || !validValue o.name value then .error .usage
  else .ok (Keyed.insert o.name value values)

/-- Keeps the value of an option that is pending. -/
def keepPending (values : Values) : Option Pending → Except Stop Values
  | none => .ok values
  | some ⟨_, none⟩ => .error .usage
  | some ⟨o, some value⟩ => keep values o value

/-- The effect of a word of letters: the values, and the option whose value is the next word. -/
def keepLetters (options : List OptionSpec) :
    Values → List Char → Except Stop (Values × Option Pending)
  | values, [] => .ok (values, none)
  | values, c :: cs =>
    match options.find? (·.letter == some c) with
    | none => .error .usage
    | some o =>
      if o.takesValue then
        match cs with
        | [] => .ok (values, some ⟨o, none⟩)
        | '=' :: cs => do return (← keep values o (String.ofList cs), none)
        | cs => do return (← keep values o (String.ofList cs), none)
      else
        match keep values o "" with
        | .ok values => keepLetters options values cs
        | .error e => .error e

/-- The effect of an option by name. -/
def keepLong (options : List OptionSpec) (values : Values) (name : String) (value : Option String) :
    Except Stop (Values × Option Pending) :=
  match options.find? (·.name == name), value with
  | none, _ => .error .usage
  | some o, some value =>
    if o.takesValue then do return (← keep values o value, none) else .error .usage
  | some o, none =>
    if o.takesValue then .ok (values, some ⟨o, none⟩) else do return (← keep values o "", none)

/-- Reads options up to the first plain word that is no value: the values, the option that is still
pending, and that word with the words after it. The fourth argument is the option that is pending at the
start. -/
def readOptions (options : List OptionSpec) :
    Values → List String → Option Pending → Except Stop (Values × Option Pending × List String)
  | values, [], pending => .ok (values, pending, [])
  | values, w :: ws, pending =>
    match Word.ofText w, pending with
    | .plain value, some ⟨o, none⟩ => readOptions options values ws (some ⟨o, some value⟩)
    | .plain _, _ => .ok (values, pending, w :: ws)
    -- neither a command nor a plain word of a command may follow
    | .separator, _ => if ws.isEmpty then .ok (values, pending, []) else .error .usage
    | .long name value, _ => do
      let (values, pending) ← keepLong options (← keepPending values pending) name value
      readOptions options values ws pending
    | .short letters, _ => do
      let (values, pending) ← keepLetters options (← keepPending values pending) letters
      readOptions options values ws pending

/-- Words that ask for help with a command. -/
def readHelp : List String → Except Stop Command
  | [] => .error .help
  | [w] => if (optionsOf? w).isSome || w == "help" then .error .help else .error .usage
  | _ => .error .usage

/-- A value from the words, or else from the environment. -/
def value? (values environment : Values) (name key : String) : Option String :=
  Keyed.get? values name <|> Keyed.get? environment key

/-- The user of a command. -/
def credentials (values environment : Values) : Except Stop Credentials :=
  match value? values environment "uid" "JSERV_UID", value? values environment "pswd" "JSERV_PSWD" with
  | some uid, some password => .ok ⟨uid, password⟩
  | _, _ => .error .usage

/-- What a command queries. -/
def querySpec (values : Values) : Except Stop QuerySpec :=
  match Keyed.get? values "t" with
  | some joins => .ok ⟨joins, Keyed.get? values "order", Keyed.get? values "args"⟩
  | none => .error .usage

/-- A number among the values. -/
def int64Value (values : Values) (name : String) (default : Int64) : Int64 :=
  ((Keyed.get? values name).bind readInt64?).getD default

/-- A command from its name and the values of its options. -/
def command (name : String) (values environment : Values) : Except Stop Command := do
  match name with
  | "compile" => return .compile (← querySpec values)
  | "login" => return .login (← credentials values environment)
  | "ping" => return .ping (← credentials values environment)
  | _ =>
    return .query (← credentials values environment) (← querySpec values)
      (int64Value values "page" 0) (int64Value values "size" defaultPageSize)

/-- Reads the name of a command and the words after it. -/
def readCommand (environment : Values) : List String → Except Stop Command
  | [] => .error .usage
  | w :: ws =>
    match optionsOf? w with
    | some options => do
      let (values, pending, rest) ← readOptions options [] ws none
      if rest.isEmpty then command w (← keepPending values pending) environment else .error .usage
    | none => if w == "help" then readHelp ws else .error .usage

/-- The configuration of the common options. -/
def configOf (values environment : Values) : Config :=
  let config := Config.standard.withRoot
    ((value? values environment "serv" "JSERV_ROOT").getD defaultRoot)
  let config := config.withVerbose (Keyed.contains values "verbose")
  match value? values environment "conn" "JSERV_CONN" with
  | some connection => config.withConnection connection
  | none => config

/-- Reads a command line. -/
def parse (words : List String) (environment : Values) : Except Stop Invocation := do
  let (values, pending, rest) ← readOptions commonOptions [] words none
  let command ← readCommand environment rest
  let values ← keepPending values pending
  return {
    config := configOf values environment
    asJson := Keyed.get? values "format" == some "json"
    command }

end SemanticClient.CommandLine
