import SemanticClient.Binding.Binder
import SemanticClient.CommandLine.Arguments
import SemanticClient.Session.Exchange

/-!
# Running commands

What a command prints and which requests it sends. Compiling needs no server; every other command logs
in first and ends there if the login fails.

* `run` is a command as a dialogue with the server.
-/

namespace SemanticClient.CommandLine

open Spec

/-- What a command leaves behind. -/
structure Report where
  printed : Printed
  /-- Zero for a success. -/
  exitCode : Nat

/-- The random choices of a run: the initial block of the credential and the sequence numbers of the
login and of the request after it. -/
structure Draws where
  iv : Crypto.Block
  loginSequence : Fin 1001
  requestSequence : Fin 1001

namespace Report

/-- A success. -/
def success (printed : Printed) : Report := ⟨printed, 0⟩

/-- A failure with its reason, after what was printed before. -/
def failure (printed : Printed) (reason : String) : Report :=
  ⟨printed ++ Printed.errorLine ("Error: " ++ reason), 1⟩

end Report

/-- The value of the text that gives arguments. -/
def readArgs (args : String) : Except String Json :=
  match Json.parse args with
  | .ok v => .ok v
  | .error e => .error ("Invalid --args: " ++ e.message)

/-- The pool of the text that gives arguments. -/
def argPool : Option String → Except String (Option Pool)
  | none => .ok none
  | some args => do
    match Pool.ofJson? (← readArgs args) with
    | some pool => return some pool
    | none => .error "--args must be a JSON object"

/-- What a compiled spec is reported as: what was left out, and the query. -/
def reportCompiled (asJson : Bool) (c : Compiled) : Report :=
  let skipped := c.diagnostics.foldl
    (fun p d => p ++ Printed.errorLine ("skipped: " ++ d.message)) Printed.nothing
  match (c.toQuery none).value with
  | .error e => .failure skipped ("Failed to build query: " ++ e.message)
  | .ok q =>
    let body := Json.object q.members
    .success (skipped ++ Printed.line (if asJson then body.text else body.indented))

/-- Compiles a spec. -/
def compileSpec (asJson : Bool) (spec : QuerySpec) : Report :=
  match argPool spec.args with
  | .error reason => .failure .nothing reason
  | .ok args =>
    match (compile ⟨args, []⟩ spec.joins spec.orders).value with
    | .error e => .failure .nothing ("Failed to compile: " ++ e.message)
    | .ok c => reportCompiled asJson c

/-- Logs in. -/
def openSession (config : Config) (k : Credentials) (d : Draws) :
    Dialogue (Except String (Client × Session)) := do
  let (c, sending) :=
    ((Client.ofConfig config).startLogin d.loginSequence k.uid k.password d.iv).value
  let (c, result) := (c.finishLogin k.uid (← Dialogue.request sending)).value
  match result with
  | .ok info => return .ok (c, .ofInfo info)
  | .error e => return .error ("Login failed: " ++ e.display)

/-- A command that needs a session. -/
def withSession (config : Config) (k : Credentials) (d : Draws)
    (act : Client → Session → Dialogue Report) : Dialogue Report := do
  match ← openSession config k d with
  | .ok (c, s) => act c s
  | .error reason => return .failure .nothing reason

/-- What a login prints. -/
def printInfo (asJson : Bool) (info : SessionInfo) : Printed :=
  if asJson then .line (Json.object info.members).text
  else .line ("Logged in: " ++ info.uid ++ " (ssid " ++ info.ssid ++ ")")

/-- What the user interface prints among effects. -/
def printEffects (asJson : Bool) (effects : List Effect) : Printed :=
  effects.foldl (fun p e => match e with
    | .shown call => p ++ call.print asJson
    | _ => p) .nothing

/-- The options of a query from the command line. -/
def queryOptions? (spec : QuerySpec) (size : Int64) : Except String BindOptions := do
  let args ← match spec.args with
    | some args => (readArgs args).map some
    | none => .ok none
  return { BindOptions.empty with
    joinSpec := some spec.joins, orderSpec := spec.orders, pageSize := some size, args }

/-- The pager that a query from the command line is bound to. -/
def pagerId : String := "cli"

/-- The name of what a query from the command line shows. -/
def rowsTarget : String := "rows"

/-- The report of a load. -/
def reportLoaded (asJson : Bool) (effects : List Effect) :
    Except DispatchError Loaded → Report
  | .ok _ => .success (printEffects asJson effects)
  | .error e => .failure (printEffects asJson effects) e.display

/-- Loads one page of a query in a session. -/
def queryPage (asJson : Bool) (spec : QuerySpec) (page size : Int64) (d : Draws) (c : Client)
    (s : Session) : Dialogue Report :=
  match queryOptions? spec size with
  | .error reason => .done (.failure .nothing reason)
  | .ok options =>
    -- options that do not compile end the command before the query is sent
    let registered := ((Binder.ofSession c s [] []).register pagerId rowsTarget options []).value
    match registered.2 with
    | .error e => .done (.failure .nothing e.display)
    | .ok _ =>
      let started := registered.1.startSelect d.requestSequence ⟨pagerId, page, size⟩
      match started.value.2 with
      | .ended result => .done (reportLoaded asJson started.events result)
      | .waiting load sending =>
        .ask sending fun answer =>
          let finished := started.value.1.finish load answer
          .done (reportLoaded asJson (started.events ++ finished.events) finished.value.2)

/-- Sends a sign of life in a session. -/
def pingSession (d : Draws) (c : Client) (s : Session) : Dialogue Report :=
  match (s.start c (s.heartbeat d.requestSequence)).value with
  | .error e => .done (.failure .nothing e.display)
  | .ok sending =>
    .ask sending fun answer =>
      match (Client.receive c.config sending.port answer).value with
      | .ok r => .done (.success (.line r.code.name))
      | .error e => .done (.failure .nothing e.display)

/-- A command as a dialogue with the server. -/
def run (i : Invocation) (d : Draws) : Dialogue Report :=
  match i.command with
  | .compile spec => .done (compileSpec i.asJson spec)
  | .login k => withSession i.config k d fun _ s => .done (.success (printInfo i.asJson s.info))
  | .query k spec page size =>
    withSession i.config k d (queryPage i.asJson spec page size d)
  | .ping k => withSession i.config k d (pingSession d)

end SemanticClient.CommandLine
