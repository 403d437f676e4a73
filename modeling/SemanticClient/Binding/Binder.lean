import SemanticClient.Binding.Messenger
import SemanticClient.Binding.Options
import SemanticClient.Binding.Pager
import SemanticClient.Binding.Sink
import SemanticClient.Session.Session
import SemanticClient.Spec.Compiled

/-!
# The binder

The binder loads grids and pagers: it compiles options into a request, posts it for its session, and
hands the rows to the user interface. A pager's request is compiled when the pager is bound; selecting a
page sends it again with that page. A load has two halves, up to the request and from the answer on, so
loads may overlap; the paging state of a pager moves only in the second half.

An operation has two halves too: `start` and `finish`.
-/

namespace SemanticClient

open Spec

/-- What the binder does to the world around it. -/
inductive Effect where
  | sent (sending : Sending)
  | shown (call : SinkCall)
  /-- A function of the host is run. -/
  | ran (function : String) (arg : Json)
  | noticed (notice : Notice)

/-- A result with the effects on the way to it. -/
abbrev Effects := Traced Effect

/-- A result of the parts that only give notices. -/
def Traced.noticing {α : Type} (x : Logged α) : Effects α := x.mapEvents .noticed

/-- A request that can be sent for one page or another. -/
inductive PagedRequest where
  | query (query : Query)
  | dataset (dataset : Dataset)

namespace PagedRequest

/-- Asks for a page. -/
def setPage (size index : Int64) : PagedRequest → PagedRequest
  | .query q => .query { q with select := q.select.setPage size index }
  | .dataset d => .dataset { d with select := d.select.setPage size index }

/-- The envelope of a request. -/
def envelope (s : Session) (sequence : Fin 1001) : PagedRequest → Envelope
  | .query q => s.query sequence q
  | .dataset d => s.dataset sequence d

end PagedRequest

/-- What is bound to a pager. -/
structure BoundPager where
  target : String
  options : BindOptions
  request : PagedRequest

/-- A binder with all that it knows. -/
structure Binder where
  client : Client
  session : Session
  handlers : Handlers
  /-- Variables that every binding can see. -/
  ambient : Pool
  messenger : Messenger
  pagers : Pagers
  bound : Keyed BoundPager
  /-- Which calls the user interface refuses, if it refuses any. -/
  sinkFault : Option SinkFault

/-- The page that a load is for. -/
structure PageTurn where
  pager : String
  page : Int64
  size : Int64
deriving DecidableEq

/-- A load whose request is on its way. -/
structure Load where
  target : String
  options : BindOptions
  port : Port
  /-- Whether this load put the progress indicator up. -/
  showing : Bool
  /-- The page that is loaded, if the load is for a pager. -/
  turn : Option PageTurn

/-- What a load ends with. -/
structure Loaded where
  rows : List Row
  total : Int64
  paging : Option PagingState

namespace Binder

/-- A binder of a session. -/
def ofSession (c : Client) (s : Session) (handlers : Handlers) (ambient : Pool) : Binder where
  client := c
  session := s
  handlers := handlers
  ambient := ambient
  messenger := .initial
  pagers := []
  bound := []
  sinkFault := none

/-- A new operation of the user begins: errors may alert again. -/
def beginOperation (b : Binder) : Binder := { b with messenger := b.messenger.clearAll }

/-- Calls the user interface. That it refuses a call changes nothing but the log. -/
def showCall (b : Binder) (call : SinkCall) : Effects Unit := do
  Traced.tell (.shown call)
  match b.sinkFault.bind (·.reason? call) with
  | some reason => Traced.tell (.noticed (.sinkFailed reason))
  | none => pure ()

/-- The dataset request of a semantic key with the columns and conditions of a binding. -/
def datasetOf (connection : Option String) (o : BindOptions) (conditions : List Condition)
    (k : SemanticKey) : Logged Dataset := do
  let d ← Dataset.ofSemanticKey connection k
  let d ← d.add (.args (o.sqlArgs.map .string))
  let d ← d.add (.select (.exprs o.exprs))
  d.add (.select (.conditions conditions))

/-- The query of a join spec with the columns and conditions of a binding. -/
def queryOf (connection : Option String) (s : Scope) (o : BindOptions) (conditions : List Condition)
    (joinSpec : String) : Logged (Except SpecError Query) := do
  match ← compile s joinSpec o.orderSpec with
  | .error e => return .error e
  | .ok compiled =>
    compiled.diagnostics.forM fun d => notice (.skippedWhileBinding d.message)
    match ← compiled.toQuery connection with
    | .error e => return .error e
    | .ok q => do
      let q ← q.add (.exprs o.exprs)
      return .ok (← q.add (.conditions conditions))

/-- Compiles options and conditions into a request. A semantic key wins over a join spec. -/
def buildRequest (b : Binder) (o : BindOptions) (conditions : List Condition) :
    Logged (Except ClientError PagedRequest) := do
  let connection := b.client.config.connection
  let s : Scope := ⟨← o.argPool, b.ambient⟩
  let key ← match o.semanticKey with
    | some sk => SemanticKey.parse? s sk
    | none => pure none
  match key with
  -- a join spec beside a semantic key is not even read
  | some key => return .ok (.dataset (← datasetOf connection o conditions key))
  | none =>
    match o.joinSpec with
    | none => return .error (.invalidOptions "no join spec (t) to query")
    | some joinSpec =>
      match ← queryOf connection s o conditions joinSpec with
      | .ok q => return .ok (.query q)
      | .error e => return .error (.compilation e.message)

/-- Checks options and compiles them. -/
def prepare (b : Binder) (o : BindOptions) (conditions : List Condition) :
    Logged (Except ClientError PagedRequest) := do
  match ← o.validate b.handlers with
  | .error e => return .error e
  | .ok () => b.buildRequest o conditions

/-- Gives a pager its paging state, unless it has one. -/
def bindState (b : Binder) (pager : String) (o : BindOptions) : Binder × PagingState :=
  let (pagers, s) := b.pagers.bind pager o.queryForm o.rowsPerPage
  ({ b with pagers }, s)

/-- Gives a pager its request. -/
def bindRequest (b : Binder) (pager : String) (p : BoundPager) : Binder :=
  { b with bound := Keyed.insert pager p b.bound }

/-- Binds a pager without loading anything. -/
def register (b : Binder) (pager target : String) (o : BindOptions) (conditions : List Condition) :
    Effects (Binder × Except DispatchError PagingState) := do
  match ← Traced.noticing (b.prepare o conditions) with
  | .error e => return (b, .error (.ofClient e))
  | .ok request =>
    let (b, s) := b.bindState pager o
    return (b.bindRequest pager ⟨target, o, request⟩, .ok s)

/-- Notes a failed load, and alerts the user if the messenger says so. -/
def reportError (b : Binder) (e : DispatchError) : Effects Binder := do
  let (messenger, alert) ← Traced.noticing (b.messenger.report e)
  match alert with
  | some text => b.showCall (.alert e.code text)
  | none => pure ()
  return { b with messenger }

/-- The first row whose key column has a value. -/
def rowIndex? (rows : List Row) (key value : String) : Option Nat :=
  rows.findIdx? fun r => (Keyed.get? r key).any fun v => v.plainText == value

/-- Selects the row that the options name, if it was loaded. -/
def selectRow (b : Binder) (o : BindOptions) (target : String) (rows : List Row) : Effects Unit :=
  match o.rowKey, o.select with
  | some key, some value =>
    match rowIndex? rows key value with
    | some i => b.showCall (.selectRow target i)
    | none => pure ()
  | _, _ => pure ()

/-- What a handler is given after a load. -/
def loadedJson (rows : List Row) (total : Int64) : Json :=
  .ofMembers [("rows", .array (rows.map .object)), ("total", .int64 total)]

/-- Runs the handler that the options name for what was loaded. -/
def runOnLoad (b : Binder) (o : BindOptions) (target : String) (rows : List Row) (total : Int64) :
    Effects Unit :=
  match o.onLoad with
  | none => pure ()
  | some id =>
    match b.handlers.find? id with
    | .ok function => Traced.tell (.ran function (loadedJson rows total))
    | .error e => Traced.tell (.noticed (.handlerFailed target e.message))

/-- Notes the page of a load in the state of its pager. -/
def turnPage (b : Binder) (t : PageTurn) (total : Int64) :
    Effects (Binder × Except DispatchError PagingState) :=
  match b.pagers.apply t.pager t.page t.size total with
  | .error e => pure (b, .error (.ofClient e))
  | .ok (pagers, s) => do
    b.showCall (.refreshPager t.pager s.total s.page s.size)
    return ({ b with pagers }, .ok s)

/-- Shows what was loaded. -/
def showLoaded (b : Binder) (l : Load) (r : Response) :
    Effects (Binder × Except DispatchError Loaded) := do
  let rows := r.rows 0
  let total := r.total 0 0
  b.showCall (.bindRows l.target rows total)
  b.selectRow l.options l.target rows
  b.runOnLoad l.options l.target rows total
  match l.turn with
  | none => return (b, .ok ⟨rows, total, none⟩)
  | some t =>
    let (b, s) ← b.turnPage t total
    return (b, s.map fun s => ⟨rows, total, some s⟩)

/-- Puts the progress indicator down if this load put it up. -/
def closeProgress (b : Binder) (l : Load) : Effects Binder := do
  if l.showing then
    b.showCall .closeProgress
    return { b with messenger := b.messenger.close }
  else return b

/-- Ends a load with its outcome. -/
def finishLoad (b : Binder) (l : Load) (outcome : Outcome) :
    Effects (Binder × Except DispatchError Loaded) := do
  -- the indicator goes down before the outcome is looked at
  let b ← b.closeProgress l
  match outcome with
  | .ok r => b.showLoaded l r
  | .error e => return (← b.reportError e, .error e)

/-- How an operation starts: it ends at once, or its load waits for the answer. -/
inductive LoadStart where
  | ended (result : Except DispatchError Loaded)
  | waiting (load : Load) (sending : Sending)

/-- Puts the progress indicator up if it is free; whether it was. -/
def takeProgress (b : Binder) : Effects (Binder × Bool) := do
  let (messenger, showing) := b.messenger.progress
  if showing then b.showCall .showProgress
  return ({ b with messenger }, showing)

/-- Starts a load. -/
def startLoad (b : Binder) (sequence : Fin 1001) (target : String) (o : BindOptions)
    (request : PagedRequest) (turn : Option PageTurn) : Effects (Binder × LoadStart) := do
  let e := request.envelope b.session sequence
  -- the indicator is up before the session is asked; an ended session takes it down again
  let (b, showing) ← b.takeProgress
  let l : Load := ⟨target, o, e.port, showing, turn⟩
  match ← Traced.noticing (b.session.start b.client e) with
  | .ok sending =>
    Traced.tell (.sent sending)
    return (b, .waiting l sending)
  | .error err =>
    let (b, result) ← b.finishLoad l (.error err)
    return (b, .ended result)

/-- Starts loading a grid, without paging. -/
def startGrid (b : Binder) (sequence : Fin 1001) (target : String) (o : BindOptions)
    (conditions : List Condition) : Effects (Binder × LoadStart) := do
  match ← Traced.noticing (b.prepare o conditions) with
  | .error e => return (b, .ended (.error (.ofClient e)))
  | .ok request => b.startLoad sequence target o request none

/-- Starts loading a page of a pager. -/
def startSelect (b : Binder) (sequence : Fin 1001) (t : PageTurn) : Effects (Binder × LoadStart) :=
  match Keyed.get? b.bound t.pager with
  | none => pure (b, .ended (.error (.ofClient (.pagerNotBound t.pager))))
  | some p => b.startLoad sequence p.target p.options (p.request.setPage t.size t.page) (some t)

/-- Binds a pager and starts loading the page that it is at. -/
def startBind (b : Binder) (sequence : Fin 1001) (pager target : String) (o : BindOptions)
    (conditions : List Condition) : Effects (Binder × LoadStart) := do
  let (b, s) ← b.register pager target o conditions
  match s with
  | .error e => return (b, .ended (.error e))
  | .ok s => b.startSelect sequence ⟨pager, s.page, s.size⟩

/-- An operation that loads rows. -/
inductive Operation where
  | grid (target : String) (options : BindOptions) (conditions : List Condition)
  | select (turn : PageTurn)
  | bind (pager target : String) (options : BindOptions) (conditions : List Condition)

/-- The first half of an operation. -/
def start (b : Binder) (sequence : Fin 1001) : Operation → Effects (Binder × LoadStart)
  | .grid target o conditions => b.startGrid sequence target o conditions
  | .select t => b.startSelect sequence t
  | .bind pager target o conditions => b.startBind sequence pager target o conditions

/-- The second half of an operation, with its answer. -/
def finish (b : Binder) (l : Load) (answer : Answer) :
    Effects (Binder × Except DispatchError Loaded) := do
  let outcome ← Traced.noticing (Client.receive b.client.config l.port answer)
  b.finishLoad l outcome

/-- An operation with nothing else between its halves. The answer is what would come back for a request. -/
def run (b : Binder) (sequence : Fin 1001) (answer : Answer) (o : Operation) :
    Effects (Binder × Except DispatchError Loaded) := do
  match ← b.start sequence o with
  | (b, .ended result) => return (b, result)
  | (b, .waiting l _) => b.finish l answer

end Binder
end SemanticClient
