import SemanticClient.Proofs.Binding.Alerts
import SemanticClient.Proofs.Binding.Tables

/-!
# Sequential runs of a binder

One thing is asked of a binder at a time: an operation ends before the next one starts. The client's login
state may change in between, and so may the calls that the user interface refuses.

Between two acts nothing is under way. The indicator is down, every pager that can be asked for a page has a
state, and the handlers that its options name are there.

* `value_run_eq`, `visible_run_eq`: an operation from its start to its end.
* `World.value_run_acts`: a sequential run is a run in which nothing overlaps.
* `Idle.acts`: what holds between two acts.
* `isReported_acts_iff`: a code is noted if it alerted since the user last began a new operation.
-/

namespace SemanticClient.Binder

/-! ## Acts -/

/-- What is done to a binder with nothing else under way. -/
inductive Act where
  /-- The user begins a new operation. -/
  | beginOperation
  /-- The client's login state changes. -/
  | loginState (state : LoginState)
  /-- The user interface refuses some calls from now on, or takes them again. -/
  | sinkFault (fault : Option SinkFault)
  /-- A pager is bound without loading anything. -/
  | register (pager target : String) (options : BindOptions) (conditions : List Condition)
  /-- An operation, with the answer that would come back for its request. -/
  | load (sequence : Fin 1001) (answer : Answer) (operation : Operation)

/-- An act, from its start to its end. -/
def act (b : Binder) : Act → Effects Binder
  | .beginOperation => pure b.beginOperation
  | .loginState state => pure { b with client := { b.client with state } }
  | .sinkFault fault => pure { b with sinkFault := fault }
  | .register pager target o conditions => do return (← b.register pager target o conditions).1
  | .load sequence answer o => do return (← b.run sequence answer o).1

/-- Acts, one after the other. -/
def acts (b : Binder) (as : List Act) : Effects Binder := as.foldlM act b

theorem acts_cons (b : Binder) (a : Act) (as : List Act) :
    b.acts (a :: as) = (do (← b.act a).acts as) := List.foldlM_cons

theorem acts_append (b : Binder) (as as' : List Act) :
    b.acts (as ++ as') = (do (← b.acts as).acts as') := List.foldlM_append

theorem acts_concat (b : Binder) (as : List Act) (a : Act) :
    b.acts (as ++ [a]) = (do (← b.acts as).act a) := by
  rw [acts_append]
  refine bind_congr_value ?_
  rw [acts_cons]
  exact bind_pure _

section Parts

variable (b : Binder) (sequence : Fin 1001) (answer : Answer) (o : Operation)

/-! ## An operation from its start to its end -/

/-- What becomes of a plan: what the answer to its request says, or that the session is over. -/
def planOutcome (p : Plan) : Outcome :=
  if b.session.isCurrent b.client.state then
    (Client.receive b.client.config (p.request.envelope b.session sequence).port answer).value
  else .error (.ofClient .notAuthenticated)

/-- The load of a plan. -/
def planLoad (p : Plan) : Load :=
  ⟨p.target, p.options, (p.request.envelope b.session sequence).port, !b.messenger.progressing, p.turn⟩

/-- The binder with the indicator taken. -/
def taking : Binder := { b with messenger := b.messenger.progress.1 }

theorem value_startLoad (p : Plan) :
    (b.startLoad sequence p.target p.options p.request p.turn).value =
      if b.session.isCurrent b.client.state then
        (b.taking, .waiting (b.planLoad sequence p)
          (Client.send b.client.config (p.request.envelope b.session sequence)).value)
      else
        ((b.taking.finishLoad (b.planLoad sequence p) (.error (.ofClient .notAuthenticated))).value.1,
          .ended (.error (.ofClient .notAuthenticated))) := by
  rw [startLoad_eq]
  simp only [Traced.value_bind, value_takeProgress]
  cases b.session.isCurrent b.client.state with
  | true => rfl
  | false =>
    simp only [Bool.false_eq_true, if_false, Traced.value_bind, Traced.value_pure,
      value_snd_finishLoad_error]
    rfl

/-- The value of an operation, from that of its first half. -/
theorem value_run :
    (b.run sequence answer o).value =
      match (b.start sequence o).value with
      | (b', .ended result) => (b', result)
      | (b', .waiting l _) => (b'.finish l answer).value := by
  unfold run
  rw [Traced.value_bind]
  generalize (b.start sequence o).value = started
  obtain ⟨b', result | ⟨l, sending⟩⟩ := started
  · rfl
  · rfl

/-- What is seen of an operation, from its first half. -/
theorem visible_run :
    visible (b.run sequence answer o).events = visible (b.start sequence o).events ++
      match (b.start sequence o).value with
      | (_, .ended _) => []
      | (b', .waiting l _) => visible (b'.finishLoad l
          (Client.receive b'.client.config l.port answer).value).events := by
  unfold run
  rw [Traced.events_bind, visible_append]
  generalize (b.start sequence o).value = started
  obtain ⟨b', result | ⟨l, sending⟩⟩ := started
  · rfl
  · show _ ++ visible (b'.finish l answer).events = _
    rw [finish, noticing_bind, Traced.events_bind, visible_append, visible_notices, List.nil_append]

theorem value_start :
    (b.start sequence o).value =
      match b.plan o with
      | (b', .error e) => (b', .ended (.error e))
      | (b', .ok p) => (b'.startLoad sequence p.target p.options p.request p.turn).value := by
  obtain ⟨ns, hstart⟩ := b.exists_start_eq sequence o
  rw [hstart, Traced.value_bind]
  obtain ⟨b', planned⟩ := b.plan o
  cases planned with
  | error e => rfl
  | ok p => rfl

/-- **An operation from its start to its end.** If it plans no load it ends at once; otherwise its load
ends with the outcome of the plan. -/
theorem value_run_eq :
    (b.run sequence answer o).value =
      match b.plan o with
      | (b', .error e) => (b', .error e)
      | (b', .ok p) =>
        (b'.taking.finishLoad (b'.planLoad sequence p) (b'.planOutcome sequence answer p)).value := by
  rw [value_run, value_start]
  obtain ⟨b', planned⟩ := b.plan o
  cases planned with
  | error e => rfl
  | ok p =>
    dsimp only
    rw [value_startLoad, planOutcome]
    cases b'.session.isCurrent b'.client.state with
    | true => rfl
    | false => exact Prod.ext rfl (value_snd_finishLoad_error _ _ _).symm

/-- **What is seen of an operation.** If it plans no load nothing is; otherwise the indicator goes up if it
is free, the request is sent unless the session is over, and the load ends. -/
theorem visible_run_eq :
    visible (b.run sequence answer o).events =
      match b.plan o with
      | (_, .error _) => []
      | (b', .ok p) =>
        (if b'.messenger.progressing then [] else [.shown .showProgress]) ++
        ((if b'.session.isCurrent b'.client.state then
          [.sent (Client.send b'.client.config (p.request.envelope b'.session sequence)).value]
        else []) ++
        visible (b'.taking.finishLoad (b'.planLoad sequence p)
          (b'.planOutcome sequence answer p)).events) := by
  rw [visible_run, visible_start, value_start]
  obtain ⟨b', planned⟩ := b.plan o
  cases planned with
  | error e => rfl
  | ok p =>
    dsimp only
    rw [visible_startLoad, value_startLoad, planOutcome]
    cases b'.session.isCurrent b'.client.state with
    | true =>
      rw [if_pos rfl, if_pos rfl, if_pos rfl, if_pos rfl, List.append_assoc]
      rfl
    | false =>
      rw [if_neg Bool.false_ne_true, if_neg Bool.false_ne_true, if_neg Bool.false_ne_true,
        if_neg Bool.false_ne_true, List.append_nil, List.nil_append, visible_finishLoad_error, planLoad]
      cases b'.messenger.progressing with
      | true => rfl
      | false => rfl

theorem planOutcome_plan (p : Plan) :
    (b.plan o).1.planOutcome sequence answer p = b.planOutcome sequence answer p := by
  rw [b.plan_frame o]
  rfl

theorem value_run_of_plan {o : Operation} {p : Plan} (h : (b.plan o).2 = .ok p) :
    (b.run sequence answer o).value =
      ((b.plan o).1.taking.finishLoad ((b.plan o).1.planLoad sequence p)
        (b.planOutcome sequence answer p)).value := by
  rw [value_run_eq, ← b.planOutcome_plan sequence answer o p]
  generalize b.plan o = planning at h
  obtain ⟨b', planned⟩ := planning
  obtain rfl : planned = .ok p := h
  rfl

theorem visible_run_of_plan {o : Operation} {p : Plan} (h : (b.plan o).2 = .ok p) :
    visible (b.run sequence answer o).events =
      (if b.messenger.progressing then [] else [.shown .showProgress]) ++
      ((if b.session.isCurrent b.client.state then
        [.sent (Client.send b.client.config (p.request.envelope b.session sequence)).value]
      else []) ++
      visible ((b.plan o).1.taking.finishLoad ((b.plan o).1.planLoad sequence p)
        (b.planOutcome sequence answer p)).events) := by
  have hframe := b.plan_frame o
  rw [visible_run_eq, ← b.planOutcome_plan sequence answer o p]
  generalize b.plan o = planning at h hframe
  obtain ⟨b', planned⟩ := planning
  obtain rfl : planned = .ok p := h
  dsimp only at hframe ⊢
  rw [hframe]

/-- The second half of a load leaves marks on the messenger and on pagers only. -/
theorem exists_value_finishLoad_eq (l : Load) (outcome : Outcome) :
    ∃ messenger pagers, (b.finishLoad l outcome).value.1 = { b with messenger, pagers } := by
  cases outcome with
  | error e =>
    obtain ⟨messenger, hvalue⟩ := b.exists_value_finishLoad_error_eq l e
    exact ⟨messenger, b.pagers, hvalue⟩
  | ok r =>
    obtain ⟨messenger, hvalue⟩ := b.exists_value_finishLoad_ok_eq l r
    rw [hvalue]
    cases l.turn with
    | none => exact ⟨messenger, b.pagers, rfl⟩
    | some t =>
      obtain ⟨pagers, hturned⟩ := exists_value_turnPage_eq { b with messenger } t (r.total 0 0)
      exact ⟨messenger, pagers, hturned⟩

/-- An operation binds what its plan binds, and else leaves marks on the messenger and on pagers only. -/
theorem exists_value_run_eq :
    ∃ messenger pagers, (b.run sequence answer o).value.1 = { (b.plan o).1 with messenger, pagers } := by
  rw [value_run_eq]
  obtain ⟨b', planned⟩ := b.plan o
  cases planned with
  | error e => exact ⟨b'.messenger, b'.pagers, rfl⟩
  | ok p =>
    exact exists_value_finishLoad_eq b'.taking (b'.planLoad sequence p) (b'.planOutcome sequence answer p)

/-- A registration changes no more than what pagers are bound to. -/
theorem exists_value_register_eq (pager target : String) (o : BindOptions)
    (conditions : List Condition) :
    ∃ pagers bound, (b.register pager target o conditions).value.1 = { b with pagers, bound } := by
  cases hprepare : (b.prepare o conditions).value with
  | error e =>
    rw [value_register_of_error _ hprepare]
    exact ⟨b.pagers, b.bound, rfl⟩
  | ok request =>
    rw [value_register_of_ok _ hprepare]
    exact ⟨_, _, rfl⟩

/-- A registration is not seen. -/
theorem visible_register (pager target : String) (o : BindOptions) (conditions : List Condition) :
    visible (b.register pager target o conditions).events = [] := by
  rw [register, noticing_bind, Traced.events_bind, visible_append, visible_notices, List.nil_append]
  cases (b.prepare o conditions).value with
  | error e => rfl
  | ok request => rfl

end Parts

/-! ## Sequential runs are runs -/

/-- The events of an act: the halves of what is done, with nothing between them. -/
def Act.events : Act → List Event
  | .beginOperation => [.beginOperation]
  | .loginState state => [.loginState state]
  | .sinkFault fault => [.sinkFault fault]
  | .register pager target o conditions => [.register pager target o conditions, .registered 0]
  | .load sequence answer o => [.start sequence o, .answer 0 answer]

namespace World

/-- The world of a binder with nothing under way. -/
def idle (b : Binder) : World := ⟨b, [], []⟩

theorem value_run_events (b : Binder) (a : Act) :
    ((idle b).run a.events).value = idle (b.act a).value := by
  cases a with
  | beginOperation => rfl
  | loginState state => rfl
  | sinkFault fault => rfl
  | register pager target o conditions => exact (idle b).run_register rfl pager target o conditions
  | load sequence answer o =>
    show ((idle b).run [.start sequence o, .answer 0 answer]).value = idle (b.run sequence answer o).value.1
    have hbinder : (idle b).binder = b := rfl
    rw [run_cons, Traced.value_bind, value_step_start, run_cons, Traced.value_bind, value_run, hbinder]
    generalize (b.start sequence o).value = started
    obtain ⟨b', result | ⟨l, sending⟩⟩ := started
    · rfl
    · show (World.step ⟨b', [], [l]⟩ (.answer 0 answer)).value = _
      rw [value_step_answer rfl]
      rfl

/-- **A sequential run is a run** in which nothing overlaps. -/
theorem value_run_acts (b : Binder) (as : List Act) :
    ((idle b).run (as.flatMap Act.events)).value = idle (b.acts as).value := by
  induction as generalizing b with
  | nil => rfl
  | cons a as ih =>
    rw [List.flatMap_cons, run_append, Traced.value_bind, value_run_events, ih, acts_cons,
      Traced.value_bind]

end World

/-! ## Between two acts -/

/-- The handlers that options name are registered. -/
def HandlersOf (handlers : Handlers) (o : BindOptions) : Prop :=
  ∀ hook ∈ o.hooks, Keyed.contains handlers hook.2 = true

theorem handlersOf_of_checkHooks {handlers : Handlers} {hooks : List (String × String)}
    (h : (BindOptions.checkHooks handlers hooks).value = .ok ()) :
    ∀ hook ∈ hooks, Keyed.contains handlers hook.2 = true := by
  induction hooks with
  | nil => exact fun hook hmem => absurd hmem List.not_mem_nil
  | cons hook hooks ih =>
    rw [BindOptions.checkHooks] at h
    split at h
    · rename_i hcontains
      exact List.forall_mem_cons.2 ⟨hcontains, ih h⟩
    · cases h

theorem handlersOf_of_validate {handlers : Handlers} {o : BindOptions}
    (h : (o.validate handlers).value = .ok ()) : HandlersOf handlers o := by
  have hfault := BindOptions.fault?_of_validate h
  rw [BindOptions.value_validate, hfault] at h
  exact handlersOf_of_checkHooks h

/-- Options that compile have their handlers. -/
theorem handlersOf_of_prepare {b : Binder} {o : BindOptions} {conditions : List Condition}
    {request : PagedRequest} (h : (b.prepare o conditions).value = .ok request) :
    HandlersOf b.handlers o := by
  rw [value_prepare] at h
  cases hvalid : (o.validate b.handlers).value with
  | ok valid => exact handlersOf_of_validate hvalid
  | error e =>
    rw [hvalid] at h
    cases h

/-- All that is bound has its handlers. -/
def HasHandlers (b : Binder) : Prop :=
  ∀ pager p, Keyed.get? b.bound pager = some p → HandlersOf b.handlers p.options

section Parts

variable {b : Binder}

theorem HasHandlers.bindRequest (h : b.HasHandlers) {q : BoundPager}
    (hq : HandlersOf b.handlers q.options) (pager : String) : (b.bindRequest pager q).HasHandlers := by
  intro other p hp
  rw [World.get?_bound_bindRequest] at hp
  split at hp
  · cases hp
    exact hq
  · exact h other p hp

/-- A pager that is bound to options that compile has its handlers. -/
theorem HasHandlers.bind (h : b.HasHandlers) {o : BindOptions} {conditions : List Condition}
    {request : PagedRequest} (hprepare : (b.prepare o conditions).value = .ok request)
    (pager target : String) :
    ((b.bindState pager o).1.bindRequest pager ⟨target, o, request⟩).HasHandlers := by
  have hstate : (b.bindState pager o).1.HasHandlers := h
  have hoptions : HandlersOf b.handlers o := handlersOf_of_prepare hprepare
  exact hstate.bindRequest (q := ⟨target, o, request⟩) hoptions pager

theorem HasHandlers.plan (h : b.HasHandlers) (o : Operation) : (b.plan o).1.HasHandlers := by
  cases o with
  | select t =>
    rw [fst_plan_select]
    exact h
  | grid target o conditions =>
    simp only [Binder.plan]
    cases (b.prepare o conditions).value with
    | error e => exact h
    | ok request => exact h
  | bind pager target o conditions =>
    simp only [Binder.plan]
    cases hprepare : (b.prepare o conditions).value with
    | error e => exact h
    | ok request => exact h.bind hprepare pager target

theorem HasHandlers.act (h : b.HasHandlers) (a : Act) : (b.act a).value.HasHandlers := by
  cases a with
  | beginOperation => exact h
  | loginState state => exact h
  | sinkFault fault => exact h
  | register pager target o conditions =>
    show (b.register pager target o conditions).value.1.HasHandlers
    cases hprepare : (b.prepare o conditions).value with
    | error e =>
      rw [value_register_of_error _ hprepare]
      exact h
    | ok request =>
      rw [value_register_of_ok _ hprepare]
      exact h.bind hprepare pager target
  | load sequence answer o =>
    show (b.run sequence answer o).value.1.HasHandlers
    obtain ⟨messenger, pagers, hrun⟩ := b.exists_value_run_eq sequence answer o
    rw [hrun]
    exact h.plan o

/-- An operation gives the indicator back. -/
theorem progressing_run (b : Binder) (sequence : Fin 1001) (answer : Answer) (o : Operation) :
    (b.run sequence answer o).value.1.messenger.progressing = b.messenger.progressing := by
  rw [value_run_eq, ← b.messenger_plan o]
  obtain ⟨b', planned⟩ := b.plan o
  cases planned with
  | error e => rfl
  | ok p =>
    dsimp only
    rw [progressing_finishLoad, planLoad, Bool.not_not]
    rfl

theorem progressing_act (b : Binder) (a : Act) (h : b.messenger.progressing = false) :
    (b.act a).value.messenger.progressing = false := by
  cases a with
  | beginOperation => rfl
  | loginState state => exact h
  | sinkFault fault => exact h
  | register pager target o conditions =>
    show (b.register pager target o conditions).value.1.messenger.progressing = false
    obtain ⟨pagers, bound, hregister⟩ := b.exists_value_register_eq pager target o conditions
    rw [hregister]
    exact h
  | load sequence answer o => exact (b.progressing_run sequence answer o).trans h

theorem handlers_act (b : Binder) (a : Act) : (b.act a).value.handlers = b.handlers := by
  cases a with
  | beginOperation => rfl
  | loginState state => rfl
  | sinkFault fault => rfl
  | register pager target o conditions =>
    show (b.register pager target o conditions).value.1.handlers = b.handlers
    obtain ⟨pagers, bound, hregister⟩ := b.exists_value_register_eq pager target o conditions
    rw [hregister]
  | load sequence answer o =>
    show (b.run sequence answer o).value.1.handlers = b.handlers
    obtain ⟨messenger, pagers, hrun⟩ := b.exists_value_run_eq sequence answer o
    rw [hrun, b.plan_frame o]

end Parts

/-- Nothing is under way: the indicator is down, and what is bound can be loaded and shown. -/
structure Idle (handlers : Handlers) (b : Binder) : Prop where
  progressing : b.messenger.progressing = false
  handlers_eq : b.handlers = handlers
  hasHandlers : b.HasHandlers
  tracked : (World.idle b).Tracked

theorem Idle.act {handlers : Handlers} {b : Binder} (h : b.Idle handlers) (a : Act) :
    (b.act a).value.Idle handlers where
  progressing := b.progressing_act a h.progressing
  handlers_eq := (b.handlers_act a).trans h.handlers_eq
  hasHandlers := h.hasHandlers.act a
  tracked := by
    rw [← World.value_run_events]
    exact h.tracked.run a.events

/-- **Between two acts nothing is under way.** -/
theorem Idle.acts {handlers : Handlers} {b : Binder} (h : b.Idle handlers) (as : List Act) :
    (b.acts as).value.Idle handlers := by
  induction as generalizing b with
  | nil => exact h
  | cons a as ih =>
    rw [acts_cons, Traced.value_bind]
    exact ih (h.act a)

theorem idle_ofSession (c : Client) (s : Session) (handlers : Handlers) (ambient : Pool) :
    (ofSession c s handlers ambient).Idle handlers where
  progressing := rfl
  handlers_eq := rfl
  hasHandlers := fun pager p hp => by cases hp
  tracked := World.tracked_init c s handlers ambient

/-! ## What alerted -/

/-- Whether the user begins a new operation. -/
def Act.isBegin : Act → Bool
  | .beginOperation => true
  | _ => false

/-- A code alerted, and since then the user has begun no new operation. -/
def AlertedSinceBegin (b : Binder) (as : List Act) (code : Code) : Prop :=
  ∃ early a late text, as = early ++ a :: late ∧ (∀ a' ∈ late, a'.isBegin = false) ∧
    (code, text) ∈ alerts ((b.acts early).value.act a).events

section Parts

variable (b : Binder)

theorem reaches_run (sequence : Fin 1001) (answer : Answer) (o : Operation) :
    b.messenger.Reaches (b.run sequence answer o).value.1.messenger 0
      (alerts (b.run sequence answer o).events) := by
  have hstart := b.reaches_start sequence o
  unfold run
  rw [Traced.value_bind, Traced.events_bind, alerts_append]
  generalize b.start sequence o = started at hstart
  obtain ⟨⟨b', result | ⟨l, sending⟩⟩, events⟩ := started
  · exact hstart.trans (.refl _)
  · exact hstart.trans (b'.reaches_finish l answer)

/-- An act is some calls of the messenger, whose alerts it passes on. Only a new operation clears. -/
theorem reaches_act (a : Act) :
    b.messenger.Reaches (b.act a).value.messenger a.isBegin.toNat (alerts (b.act a).events) := by
  cases a with
  | beginOperation => exact b.messenger.reaches_perform .clearAll fun _ => rfl
  | loginState state => exact .refl _
  | sinkFault fault => exact .refl _
  | register pager target o conditions =>
    have halerts : alerts (b.register pager target o conditions).events = [] := by
      rw [← alerts_visible, visible_register]
      rfl
    obtain ⟨pagers, bound, hregister⟩ := b.exists_value_register_eq pager target o conditions
    simp only [act, Traced.value_bind, Traced.events_bind, Traced.value_pure, Traced.events_pure,
      List.append_nil, halerts, hregister]
    exact .refl _
  | load sequence answer o =>
    simp only [act, Traced.value_bind, Traced.events_bind, Traced.value_pure, Traced.events_pure,
      List.append_nil]
    exact b.reaches_run sequence answer o

end Parts

theorem alertedSinceBegin_concat (b : Binder) (as : List Act) (a : Act) (code : Code) :
    b.AlertedSinceBegin (as ++ [a]) code ↔
      b.AlertedSinceBegin as code ∧ a.isBegin = false ∨
        ∃ text, (code, text) ∈ alerts ((b.acts as).value.act a).events := by
  constructor
  · rintro ⟨early, a', late, text, has, hlate, halert⟩
    -- the act that alerted is the last one, or the last one comes after it
    rcases late.eq_nil_or_concat' with rfl | ⟨late, last, rfl⟩
    · obtain ⟨rfl, hlast⟩ := List.append_inj' has rfl
      obtain rfl := List.singleton_inj.1 hlast
      exact .inr ⟨text, halert⟩
    · rw [← List.cons_append, ← List.append_assoc] at has
      obtain ⟨rfl, hlast⟩ := List.append_inj' has rfl
      obtain rfl := List.singleton_inj.1 hlast
      obtain ⟨hkept, hend⟩ := List.forall_mem_append.1 hlate
      exact .inl ⟨⟨early, a', late, text, rfl, hkept, halert⟩, hend a (List.mem_singleton_self a)⟩
  · rintro (⟨⟨early, a', late, text, rfl, hlate, halert⟩, ha⟩ | ⟨text, halert⟩)
    · refine ⟨early, a', late ++ [a], text, List.append_assoc _ _ _, ?_, halert⟩
      exact List.forall_mem_append.2 ⟨hlate, List.forall_mem_singleton.2 ha⟩
    · exact ⟨as, a, [], text, rfl, fun a' ha' => absurd ha' List.not_mem_nil, halert⟩

/-- **A code is noted exactly if it alerted since the user last began a new operation.** -/
theorem isReported_acts_iff {b : Binder} {code : Code} (h : b.messenger.isReported code = false)
    (as : List Act) :
    (b.acts as).value.messenger.isReported code ↔ b.AlertedSinceBegin as code := by
  induction as using List.reverseRecOn with
  | nil =>
    have hnot : b.messenger.isReported code ≠ true := Bool.eq_false_iff.1 h
    refine iff_of_false hnot ?_
    rintro ⟨early, a, late, text, has, -, -⟩
    cases early <;> cases has
  | append_singleton as a ih =>
    have hreaches := (b.acts as).value.reaches_act a
    rw [acts_concat, Traced.value_bind, alertedSinceBegin_concat, ← ih]
    cases hbegin : a.isBegin with
    | true =>
      cases a with
      | beginOperation =>
        refine iff_of_false Bool.false_ne_true ?_
        rintro (⟨-, hfalse⟩ | ⟨text, halert⟩)
        · cases hfalse
        · cases halert
      | _ => cases hbegin
    | false =>
      rw [hbegin] at hreaches
      rw [hreaches.isReported_iff code, and_iff_left rfl]

end SemanticClient.Binder
