import SemanticClient.Binding.Binder
import SemanticClient.Proofs.Session.Run

/-!
# Runs of a binder

Operations on one binder overlap. While a load waits for its answer, other operations start and end, the
user begins new ones, and the client's login state changes under the binder, since others use the client
too. Answers come in any order, or never.

A world is a binder with what is under way on it; a run takes a world through a list of events.

* `exists_start_eq`: an operation ends before its load, or starts the load that it plans.
* `startLoad_eq`: the first half of a load, step by step.
* `World.run_register`: a registration may be taken as one step or as two.
-/

namespace SemanticClient.Binder

/-! ## The parts of an operation -/

/-- What an operation loads, once its options are compiled and its pager is bound. -/
structure Plan where
  target : String
  options : BindOptions
  request : PagedRequest
  turn : Option PageTurn

/-- What an operation plans to load, and the binder with the pager bound if it binds one. -/
def plan (b : Binder) : Operation → Binder × Except DispatchError Plan
  | .grid target o conditions =>
    match (b.prepare o conditions).value with
    | .error e => (b, .error (.ofClient e))
    | .ok request => (b, .ok ⟨target, o, request, none⟩)
  | .select t =>
    match Keyed.get? b.bound t.pager with
    | none => (b, .error (.ofClient (.pagerNotBound t.pager)))
    | some p => (b, .ok ⟨p.target, p.options, p.request.setPage t.size t.page, some t⟩)
  | .bind pager target o conditions =>
    match (b.prepare o conditions).value with
    | .error e => (b, .error (.ofClient e))
    | .ok request =>
      let s := (b.bindState pager o).2
      ((b.bindState pager o).1.bindRequest pager ⟨target, o, request⟩,
        .ok ⟨target, o, request.setPage s.size s.page, some ⟨pager, s.page, s.size⟩⟩)

/-- Starts the load of a plan, or ends with the reason that there is none. -/
def startPlan (sequence : Fin 1001) : Binder × Except DispatchError Plan → Effects (Binder × LoadStart)
  | (b, .error e) => pure (b, .ended (.error e))
  | (b, .ok p) => b.startLoad sequence p.target p.options p.request p.turn

/-- Some notices and nothing else. -/
def notices (ns : List Notice) : Effects Unit := ⟨(), ns.map .noticed⟩

theorem noticing_bind {α β : Type} (x : Logged α) (f : α → Effects β) :
    (do f (← Traced.noticing x)) = (do notices x.events; f x.value) := rfl

/-- What follows a part of an operation needs to agree on the part's value only. -/
theorem bind_congr_value {ε α β : Type} {x : Traced ε α} {f g : α → Traced ε β}
    (h : f x.value = g x.value) : x >>= f = x >>= g := by
  refine Traced.ext ?_ ?_
  · rw [Traced.value_bind, Traced.value_bind, h]
  · rw [Traced.events_bind, Traced.events_bind, h]

section Parts

variable (b : Binder) (sequence : Fin 1001)

/-- A pager that was just bound starts with the page it is at. -/
theorem startSelect_bindRequest (pager : String) (p : BoundPager) (page size : Int64) :
    (b.bindRequest pager p).startSelect sequence ⟨pager, page, size⟩ =
      startPlan sequence (b.bindRequest pager p,
        .ok ⟨p.target, p.options, p.request.setPage size page, some ⟨pager, page, size⟩⟩) := by
  have hbound : Keyed.get? (b.bindRequest pager p).bound pager = some p := by
    rw [bindRequest, Keyed.get?_insert, if_pos rfl]
  rw [startSelect, hbound]
  rfl

/-- **An operation gives some notices**, and then ends at once or starts the load that it plans. -/
theorem exists_start_eq (o : Operation) :
    ∃ ns, b.start sequence o = (do notices ns; startPlan sequence (b.plan o)) := by
  cases o with
  | grid target o conditions =>
    refine ⟨(b.prepare o conditions).events, ?_⟩
    simp only [start, startGrid, plan, noticing_bind]
    cases (b.prepare o conditions).value with
    | error e => rfl
    | ok request => rfl
  | select t =>
    refine ⟨[], ?_⟩
    simp only [start, startSelect, plan]
    cases Keyed.get? b.bound t.pager with
    | none => rfl
    | some p => rfl
  | bind pager target o conditions =>
    refine ⟨(b.prepare o conditions).events, ?_⟩
    simp only [start, startBind, register, plan, bind_assoc, noticing_bind]
    cases (b.prepare o conditions).value with
    | error e => rfl
    | ok request =>
      simp only [pure_bind, startSelect_bindRequest]

/-- Planning changes no more of the binder than what pagers are bound to. -/
theorem plan_frame (o : Operation) :
    (b.plan o).1 = { b with pagers := (b.plan o).1.pagers, bound := (b.plan o).1.bound } := by
  cases o with
  | grid target o conditions =>
    simp only [plan]
    cases (b.prepare o conditions).value with
    | error e => rfl
    | ok request => rfl
  | select t =>
    simp only [plan]
    cases Keyed.get? b.bound t.pager with
    | none => rfl
    | some p => rfl
  | bind pager target o conditions =>
    simp only [plan]
    cases (b.prepare o conditions).value with
    | error e => rfl
    | ok request => rfl

theorem messenger_plan (o : Operation) : (b.plan o).1.messenger = b.messenger := by
  rw [b.plan_frame o]

theorem value_takeProgress :
    b.takeProgress.value =
      ({ b with messenger := b.messenger.progress.1 }, !b.messenger.progressing) := by
  unfold takeProgress Messenger.progress
  cases b.messenger.progressing with
  | true => rfl
  | false => rfl

theorem events_takeProgress :
    b.takeProgress.events =
      if b.messenger.progressing then [] else (b.showCall .showProgress).events := by
  unfold takeProgress Messenger.progress
  cases b.messenger.progressing with
  | true => rfl
  | false => exact List.append_nil _

theorem value_closeProgress (l : Load) :
    (b.closeProgress l).value = if l.showing then { b with messenger := b.messenger.close } else b := by
  unfold closeProgress
  cases l.showing with
  | true => rfl
  | false => rfl

theorem events_closeProgress (l : Load) :
    (b.closeProgress l).events =
      if l.showing then (b.showCall .closeProgress).events else [] := by
  unfold closeProgress
  cases l.showing with
  | true => exact List.append_nil _
  | false => rfl

theorem value_reportError (e : DispatchError) :
    (b.reportError e).value = { b with messenger := (b.messenger.report e).value.1 } := by
  unfold reportError
  rw [noticing_bind, Traced.value_bind]
  obtain ⟨messenger, alert⟩ := (b.messenger.report e).value
  cases alert with
  | none => rfl
  | some text => rfl

theorem events_reportError (e : DispatchError) :
    (b.reportError e).events = (notices (b.messenger.report e).events).events ++
      match (b.messenger.report e).value.2 with
      | some text => (b.showCall (.alert e.code text)).events
      | none => [] := by
  unfold reportError
  rw [noticing_bind, Traced.events_bind]
  refine congrArg _ ?_
  obtain ⟨messenger, alert⟩ := (b.messenger.report e).value
  cases alert with
  | none => rfl
  | some text => exact List.append_nil _

/-- Noting a page changes no more of the binder than pagers. -/
theorem exists_value_turnPage_eq (t : PageTurn) (total : Int64) :
    ∃ pagers, (b.turnPage t total).value.1 = { b with pagers } := by
  unfold turnPage
  split
  · exact ⟨b.pagers, rfl⟩
  · exact ⟨_, rfl⟩

/-- A page that is loaded moves its pager, and nothing else of the binder. -/
theorem value_showLoaded (l : Load) (r : Response) :
    (b.showLoaded l r).value.1 =
      match l.turn with
      | none => b
      | some t => (b.turnPage t (r.total 0 0)).value.1 := by
  unfold showLoaded
  cases l.turn with
  | none => rfl
  | some t => rfl

theorem events_showLoaded (l : Load) (r : Response) :
    (b.showLoaded l r).events =
      (b.showCall (.bindRows l.target (r.rows 0) (r.total 0 0))).events ++
      ((b.selectRow l.options l.target (r.rows 0)).events ++
      ((b.runOnLoad l.options l.target (r.rows 0) (r.total 0 0)).events ++
      match l.turn with
      | none => []
      | some t => (b.turnPage t (r.total 0 0)).events)) := by
  unfold showLoaded
  cases l.turn with
  | none => rfl
  | some t =>
    simp only [Traced.events_bind, Traced.events_pure, List.append_nil]

/-- **The first half of a load.** The indicator is taken first; then the request is sent, unless the
session is over, which ends the load. -/
theorem startLoad_eq (target : String) (o : BindOptions) (request : PagedRequest)
    (turn : Option PageTurn) :
    b.startLoad sequence target o request turn = (do
      let (b', showing) ← b.takeProgress
      let e := request.envelope b.session sequence
      let l : Load := ⟨target, o, e.port, showing, turn⟩
      notices (b.session.start b.client e).events
      if b.session.isCurrent b.client.state then
        Traced.tell (.sent (Client.send b.client.config e).value)
        return (b', .waiting l (Client.send b.client.config e).value)
      else
        let (b', result) ← b'.finishLoad l (.error (.ofClient .notAuthenticated))
        return (b', .ended result)) := by
  unfold startLoad
  refine bind_congr_value ?_
  rw [value_takeProgress]
  simp only [noticing_bind, Session.value_start]
  cases b.session.isCurrent b.client.state with
  | true => rfl
  | false => rfl

/-- While its session is the client's, a load waits for the answer to its request. -/
theorem exists_waiting_of_current (h : b.session.isCurrent b.client.state = true) (target : String)
    (o : BindOptions) (request : PagedRequest) (turn : Option PageTurn) :
    ∃ l, (b.startLoad sequence target o request turn).value.2 =
      .waiting l (Client.send b.client.config (request.envelope b.session sequence)).value := by
  rw [startLoad_eq, h]
  exact ⟨_, rfl⟩

theorem value_register_of_ok {o : BindOptions} {conditions : List Condition} {request : PagedRequest}
    (h : (b.prepare o conditions).value = .ok request) (pager target : String) :
    (b.register pager target o conditions).value =
      ((b.bindState pager o).1.bindRequest pager ⟨target, o, request⟩,
        .ok (b.bindState pager o).2) := by
  simp only [register, noticing_bind, Traced.value_bind, h, Traced.value_pure]

theorem value_register_of_error {o : BindOptions} {conditions : List Condition} {e : ClientError}
    (h : (b.prepare o conditions).value = .error e) (pager target : String) :
    (b.register pager target o conditions).value = (b, .error (.ofClient e)) := by
  simp only [register, noticing_bind, Traced.value_bind, h, Traced.value_pure]

end Parts

/-! ## Worlds and their events -/

/-- A binder and what is under way on it. -/
structure World where
  binder : Binder
  /-- The registrations whose pagers have a state and no request yet. -/
  registering : List (String × BoundPager)
  /-- The loads whose answers are outstanding. -/
  waiting : List Load

/-- What may happen next. -/
inductive Event where
  /-- The user begins a new operation. -/
  | beginOperation
  /-- The client's login state changes. -/
  | loginState (state : LoginState)
  /-- The user interface refuses some calls from now on, or takes them again. -/
  | sinkFault (fault : Option SinkFault)
  /-- The first half of a registration: its options are compiled and its pager has a state. -/
  | register (pager target : String) (options : BindOptions) (conditions : List Condition)
  /-- The second half of a registration: its pager has a request. -/
  | registered (index : Nat)
  /-- The first half of an operation. -/
  | start (sequence : Fin 1001) (operation : Operation)
  /-- The answer to a load, which is the second half of its operation. -/
  | answer (index : Nat) (answer : Answer)

namespace World

/-- The world of a binder before anything happens. -/
def init (c : Client) (s : Session) (handlers : Handlers) (ambient : Pool) : World :=
  ⟨.ofSession c s handlers ambient, [], []⟩

/-- The world after the first half of an operation. -/
def afterStart (w : World) : Binder × LoadStart → World
  | (b, .ended _) => { w with binder := b }
  | (b, .waiting l _) => { w with binder := b, waiting := w.waiting ++ [l] }

theorem binder_afterStart (w : World) (r : Binder × LoadStart) : (w.afterStart r).binder = r.1 := by
  obtain ⟨b, started⟩ := r
  cases started with
  | ended result => rfl
  | waiting l sending => rfl

/-- The world after the first half of a registration whose options compile. -/
def afterPrepare (w : World) (pager : String) (p : BoundPager) : World :=
  { w with
    binder := (w.binder.bindState pager p.options).1
    registering := w.registering ++ [(pager, p)] }

/-- An event. An answer to nothing, or the end of no registration, is none. -/
def step (w : World) : Event → Effects World
  | .beginOperation => pure { w with binder := w.binder.beginOperation }
  | .loginState state =>
    pure { w with binder := { w.binder with client := { w.binder.client with state } } }
  | .sinkFault fault => pure { w with binder := { w.binder with sinkFault := fault } }
  | .register pager target o conditions => do
    match ← Traced.noticing (w.binder.prepare o conditions) with
    | .error _ => return w
    | .ok request => return w.afterPrepare pager ⟨target, o, request⟩
  | .registered i =>
    match w.registering[i]? with
    | none => pure w
    | some (pager, p) => pure { w with
        binder := w.binder.bindRequest pager p
        registering := w.registering.eraseIdx i }
  | .start sequence o => do return w.afterStart (← w.binder.start sequence o)
  | .answer i answer =>
    match w.waiting[i]? with
    | none => pure w
    | some l => do
      let (b, _) ← w.binder.finish l answer
      return { w with binder := b, waiting := w.waiting.eraseIdx i }

theorem value_step_start (w : World) (sequence : Fin 1001) (o : Operation) :
    (w.step (.start sequence o)).value = w.afterStart (w.binder.start sequence o).value := by
  simp only [step, Traced.value_bind, Traced.value_pure]

/-- The outcome of a load that an answer is for. -/
def outcome (w : World) (l : Load) (answer : Answer) : Outcome :=
  (Client.receive w.binder.client.config l.port answer).value

theorem value_step_answer {w : World} {i : Nat} {l : Load} (h : w.waiting[i]? = some l)
    (answer : Answer) :
    (w.step (.answer i answer)).value = { w with
      binder := (w.binder.finishLoad l (w.outcome l answer)).value.1
      waiting := w.waiting.eraseIdx i } := by
  simp only [step, h, finish, outcome, noticing_bind, Traced.value_bind, Traced.value_pure]

theorem value_step_answer_of_none {w : World} {i : Nat} (h : w.waiting[i]? = none)
    (answer : Answer) : (w.step (.answer i answer)).value = w := by
  simp only [step, h, Traced.value_pure]

/-- The events of a run, one after the other. -/
def run (w : World) (es : List Event) : Effects World := es.foldlM step w

theorem run_cons (w : World) (e : Event) (es : List Event) :
    w.run (e :: es) = (do (← w.step e).run es) := List.foldlM_cons

theorem run_append (w : World) (es es' : List Event) :
    w.run (es ++ es') = (do (← w.run es).run es') := List.foldlM_append

theorem run_concat (w : World) (es : List Event) (e : Event) :
    w.run (es ++ [e]) = (do (← w.run es).step e) := by
  rw [run_append]
  refine bind_congr_value ?_
  rw [run_cons]
  exact bind_pure _

/-- The events of a run, each with the world that it finds. -/
def moments (w : World) : List Event → List (World × Event)
  | [] => []
  | e :: es => (w, e) :: moments (w.step e).value es

theorem moments_concat (w : World) (es : List Event) (e : Event) :
    w.moments (es ++ [e]) = w.moments es ++ [((w.run es).value, e)] := by
  induction es generalizing w with
  | nil => rfl
  | cons e' es ih =>
    rw [List.cons_append, moments, ih, moments, run_cons]
    rfl

/-- **The two halves of a registration make a whole one** if nothing comes between them. -/
theorem run_register (w : World) (hnone : w.registering = []) (pager target : String)
    (o : BindOptions) (conditions : List Condition) :
    (w.run [.register pager target o conditions, .registered 0]).value =
      { w with binder := (w.binder.register pager target o conditions).value.1 } := by
  obtain ⟨b, registering, waiting⟩ := w
  obtain rfl : registering = [] := hnone
  rw [run_cons, Traced.value_bind, run_cons, Traced.value_bind]
  show (World.step _ _).value = _
  simp only [step, register, noticing_bind, Traced.value_bind]
  cases (b.prepare o conditions).value with
  | error e => rfl
  | ok request => rfl

end World
end SemanticClient.Binder
