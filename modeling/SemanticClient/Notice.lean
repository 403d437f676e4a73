/-!
# Notices

What the library has to say beside its results: a fact worth a line in a log, with its level. Results
that come with notices are `Logged`.

* `value_bind`, `events_bind`: in a sequence of steps the value is that of the last step, and the
  notices come in the order of the steps.
-/

namespace SemanticClient

/-- A result together with what happened on the way to it, in order. -/
structure Traced (ε α : Type) where
  value : α
  events : List ε

namespace Traced

variable {ε ζ α β : Type}

instance : Monad (Traced ε) where
  pure a := ⟨a, []⟩
  bind x f := ⟨(f x.value).value, x.events ++ (f x.value).events⟩

instance [Inhabited α] : Inhabited (Traced ε α) := ⟨⟨default, []⟩⟩

/-- One event and nothing else. -/
def tell (e : ε) : Traced ε Unit := ⟨(), [e]⟩

/-- The same result with every event renamed. -/
def mapEvents (f : ε → ζ) (x : Traced ε α) : Traced ζ α := ⟨x.value, x.events.map f⟩

@[simp] theorem value_pure (a : α) : (pure a : Traced ε α).value = a := rfl
@[simp] theorem events_pure (a : α) : (pure a : Traced ε α).events = [] := rfl
@[simp] theorem value_bind (x : Traced ε α) (f : α → Traced ε β) :
    (x >>= f).value = (f x.value).value := rfl
@[simp] theorem events_bind (x : Traced ε α) (f : α → Traced ε β) :
    (x >>= f).events = x.events ++ (f x.value).events := rfl
@[simp] theorem value_map (f : α → β) (x : Traced ε α) : (f <$> x).value = f x.value := rfl
@[simp] theorem events_map (f : α → β) (x : Traced ε α) : (f <$> x).events = x.events :=
  List.append_nil _
@[simp] theorem value_tell (e : ε) : (tell e).value = () := rfl
@[simp] theorem events_tell (e : ε) : (tell e).events = [e] := rfl
@[simp] theorem value_mapEvents (f : ε → ζ) (x : Traced ε α) : (x.mapEvents f).value = x.value := rfl
@[simp] theorem events_mapEvents (f : ε → ζ) (x : Traced ε α) :
    (x.mapEvents f).events = x.events.map f := rfl

theorem ext {x y : Traced ε α} (hv : x.value = y.value) (he : x.events = y.events) : x = y := by
  cases x; cases y; simp_all

instance : LawfulMonad (Traced ε) :=
  LawfulMonad.mk' (Traced ε)
    (fun x => ext rfl (by show x.events ++ [] = x.events; simp))
    (fun _ _ => rfl)
    (fun x f g => ext rfl (by simp))

end Traced

/-- How much a notice matters. -/
inductive Level where
  | error | warn | info
deriving DecidableEq

/-- The name of a level. -/
def Level.name : Level → String
  | .error => "error"
  | .warn => "warn"
  | .info => "info"

/-- What can be said beside a result. -/
inductive Notice where
  /-- A segment of a join spec was left out. -/
  | segmentSkipped (problem : String)
  /-- A field expression names no alias. -/
  | aliasMissing (target : String)
  /-- A condition has more variables than the one that is replaced. -/
  | markersLeft (condition : String)
  /-- A variable's value cannot stand in a condition. -/
  | literalMissing (path : String)
  /-- The name of a query form's field has no operator. -/
  | operatorMissing (name : String)
  /-- A path leads to no value. -/
  | unresolved (path : String)
  /-- A semantic key still has the table name it once needed. -/
  | legacyKey (key : String)
  /-- An answer has a code that is not in the table. -/
  | unknownCode (code : String)
  /-- Follow-up updates were given to an envelope that holds no update. -/
  | postIgnored (port : String)
  /-- A primary key was not understood and the update has none. -/
  | keyRefused (table problem : String)
  /-- A list of follow-up updates is empty. -/
  | postsEmpty (table : String)
  /-- A main table was given where joined tables are listed. -/
  | mainTableJoined
  /-- A dataset action is not one of the known ones. -/
  | unknownAction (name : String)
  /-- A dataset action gave way to a semantic key. -/
  | actionOverridden (action key : String)
  /-- A handler took the place of an earlier one. -/
  | handlerReplaced (id : String)
  /-- A row is to be selected, but no column identifies rows. -/
  | selectIgnored
  /-- A hook names a handler that nobody registered. -/
  | handlerMissing (hook id : String)
  /-- The arguments of a binding are no object. -/
  | argsIgnored (args : String)
  /-- An error whose code was alerted before. -/
  | errorRepeated (problem : String)
  /-- An error the user is told about. -/
  | errorReported (problem : String)
  /-- The catalog has no message of a name. -/
  | messageMissing (name : String)
  /-- A login succeeded. -/
  | loggedIn (uid ssid : String)
  /-- A login failed. -/
  | loginFailed (uid problem : String)
  /-- A session was used after its end. -/
  | sessionEnded (ssid : String)
  /-- An envelope is on its way. -/
  | posting (url payload : String)
  /-- An answer arrived. -/
  | answered (port answer : String)
  /-- Nobody waits for the outcome of a request. -/
  | callbacksMissing (port : String)
  /-- A good answer that no callback took. -/
  | responseUnhandled (port : String)
  /-- A failure that no callback took. -/
  | errorUnhandled (port problem : String)
  /-- A segment of a binding's join spec was left out. -/
  | skippedWhileBinding (problem : String)
  /-- The user interface did not take a call. -/
  | sinkFailed (problem : String)
  /-- The handler to run after loading could not be run. -/
  | handlerFailed (target problem : String)
deriving DecidableEq

namespace Notice

/-- The level of a notice. -/
def level : Notice → Level
  | segmentSkipped _ | aliasMissing _ | keyRefused _ _ | handlerMissing _ _ | errorReported _
  | errorUnhandled _ _ | handlerFailed _ _ => .error
  | loggedIn _ _ | posting _ _ | answered _ _ | responseUnhandled _ => .info
  | _ => .warn

/-- The wording of a notice. -/
def message : Notice → String
  | segmentSkipped problem => problem
  | aliasMissing target => "Can't parse field expression: " ++ target
  | markersLeft condition =>
    "Only one variable is supported in a join condition, the rest is sent as is: " ++ condition
  | literalMissing path => "Variable " ++ path ++ " has no literal form, using its name"
  | operatorMissing name =>
    "Query field name must carry a logic operator, e.g. 't.col =': " ++ name
  | unresolved path => "Can't find variable for " ++ path
  | legacyKey key => "sk's table name (cbb) ignored: " ++ key
  | unknownCode code => "Unknown result code '" ++ code ++ "', treated as exGeneral"
  | postIgnored port => "post() ignored: first body of " ++ port ++ " isn't an update"
  | keyRefused table problem => "UpdateRequest on " ++ table ++ ": " ++ problem
  | postsEmpty table => "Empty post updates on " ++ table ++ ", nothing to add"
  | mainTableJoined => "Main table can't be joined, ignored"
  | unknownAction name =>
    "Dataset action '" ++ name ++
      "' won't be understood by server, should be one of sqltree, retree, reforest"
  | actionOverridden action key =>
    "Dataset action '" ++ action ++ "' is ignored for sk is defined: " ++ key
  | handlerReplaced id =>
    "Handler " ++ id ++ " registered again, the earlier one is replaced"
  | selectIgnored => "select is ignored without rowpk"
  | handlerMissing hook id => hook ++ " handler " ++ id ++ " isn't registered"
  | argsIgnored args => "args must be an object, ignored: " ++ args
  | errorRepeated problem => "Error message ignored: " ++ problem
  | errorReported problem => problem
  | messageMissing name =>
    "No message named '" ++ name ++ "' in the catalog, use set_message() to add it"
  | loggedIn uid ssid => "Logged in as " ++ uid ++ " (ssid " ++ ssid ++ ")"
  | loginFailed uid problem => "Login failed for " ++ uid ++ ": " ++ problem
  | sessionEnded ssid => "Session " ++ ssid ++ " is no longer logged in"
  | posting url payload => "POST " ++ url ++ " " ++ payload
  | answered port answer => "Response from " ++ port ++ ": " ++ answer
  | callbacksMissing port => "Request to " ++ port ++ " committed without any callback"
  | responseUnhandled port => "Unhandled response from " ++ port
  | errorUnhandled port problem => "Unhandled error from " ++ port ++ ": " ++ problem
  | skippedWhileBinding problem => "Skipped while binding: " ++ problem
  | sinkFailed problem => "UI sink failed: " ++ problem
  | handlerFailed target problem => "onload of " ++ target ++ ": " ++ problem

end Notice

/-- A result with the notices on the way to it. -/
abbrev Logged := Traced Notice

/-- Gives a notice. -/
def notice (n : Notice) : Logged Unit := Traced.tell n

end SemanticClient
