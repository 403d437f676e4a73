import SemanticClient.Proofs.Binding.Resending
import SemanticClient.Proofs.Session.Outcome

/-!
# The two tables of a binder

A binder keeps the state of a pager in one table and its request in another. A registration writes the
state first and the request later, and anything may happen in between; a page turn reads the request before
its post and the state after the answer. Still no page turn is ever lost for want of a state.

* `start_of_unbound`: a start that finds no request for its pager does nothing at all.
* `value_finishLoad_of_turn`: what a load of a pager that has a state ends with.
* `World.Accounted.run`: a pager has a state and no request only in the middle of a registration.
* `World.tables_inStep`: how the tables stand to each other at any time of any run.
-/

namespace SemanticClient

/-! ## The failure of an unbound pager -/

/-- Texts that start with different characters are different, whatever follows. -/
theorem Text.append_ne_append {s t : String} {c d : Char} (hs : s.toList.head? = some c)
    (ht : t.toList.head? = some d) (hne : c ≠ d) (u v : String) : s ++ u ≠ t ++ v := by
  intro h
  have hhead : (s ++ u).toList.head? = (t ++ v).toList.head? := by rw [h]
  rw [String.toList_append, String.toList_append, List.head?_append, List.head?_append, hs, ht] at hhead
  exact hne (Option.some.inj hhead)

/-- The wording of an error tells when it is about an unbound pager. -/
theorem ClientError.eq_of_message_eq_unbound {e : ClientError} {p : String}
    (h : e.message = (pagerNotBound p).message) : e = pagerNotBound p := by
  cases e with
  | pagerNotBound q =>
    have hlist : ("Pager not bound: " ++ q).toList = ("Pager not bound: " ++ p).toList :=
      congrArg String.toList h
    rw [String.toList_append, String.toList_append] at hlist
    exact congrArg pagerNotBound (String.toList_inj.1 (List.append_cancel_left hlist))
  | notAuthenticated =>
    have hwords : "Not authenticated" ++ "" = "Pager not bound: " ++ p := String.append_empty.trans h
    exact absurd hwords (Text.append_ne_append rfl rfl (by decide) _ _)
  | _ => exact absurd h (Text.append_ne_append rfl rfl (by decide) _ _)

theorem DispatchError.ofClient_eq_unbound_iff {e : ClientError} {p : String} :
    ofClient e = ofClient (.pagerNotBound p) ↔ e = .pagerNotBound p := by
  constructor
  · intro h
    exact ClientError.eq_of_message_eq_unbound (congrArg DispatchError.message h)
  · rintro rfl
    rfl

/-- Why a binding is refused: for what its options say, for a handler that nobody registered, or for a spec
that does not compile. -/
inductive ClientError.RefusesOptions : ClientError → Prop
  | invalid (reason : String) : RefusesOptions (.invalidOptions reason)
  | handler (id : String) : RefusesOptions (.unregisteredHandler id)
  | spec (reason : String) : RefusesOptions (.compilation reason)

theorem ClientError.RefusesOptions.ne_unbound {e : ClientError} (h : e.RefusesOptions) (p : String) :
    e ≠ .pagerNotBound p := by
  cases h with
  | invalid reason => exact ClientError.noConfusion
  | handler id => exact ClientError.noConfusion
  | spec reason => exact ClientError.noConfusion

namespace BindOptions

/-- Handlers are refused for one among them that is not registered. -/
theorem exists_mem_of_checkHooks_error {handlers : Handlers} {hooks : List (String × String)}
    {e : ClientError} (h : (checkHooks handlers hooks).value = .error e) :
    ∃ hook ∈ hooks, Keyed.contains handlers hook.2 = false ∧ e = .unregisteredHandler hook.2 := by
  induction hooks with
  | nil => cases h
  | cons hook hooks ih =>
    rw [checkHooks] at h
    split at h
    · obtain ⟨hook', hmem, hmissing⟩ := ih h
      exact ⟨hook', List.mem_cons_of_mem _ hmem, hmissing⟩
    · rename_i hmissing
      cases h
      exact ⟨hook, List.mem_cons_self, Bool.eq_false_iff.2 hmissing, rfl⟩

theorem exists_eq_of_fault? {o : BindOptions} {e : ClientError} (h : o.fault? = some e) :
    ∃ reason, e = .invalidOptions reason := by
  unfold fault? at h
  split at h
  · cases h
    exact ⟨_, rfl⟩
  · split at h
    · split at h
      · cases h
        exact ⟨_, rfl⟩
      · cases h
    · cases h

theorem refusesOptions_of_validate {o : BindOptions} {handlers : Handlers} {e : ClientError}
    (h : (o.validate handlers).value = .error e) : e.RefusesOptions := by
  rw [value_validate] at h
  cases hfault : o.fault? with
  | some e' =>
    rw [hfault] at h
    cases h
    obtain ⟨reason, rfl⟩ := exists_eq_of_fault? hfault
    exact .invalid reason
  | none =>
    rw [hfault] at h
    obtain ⟨hook, -, -, rfl⟩ := exists_mem_of_checkHooks_error h
    exact .handler hook.2

end BindOptions

namespace Binder

section Parts

variable (b : Binder)

theorem refusesOptions_of_buildRequest {o : BindOptions} {conditions : List Condition}
    {e : ClientError} (h : (b.buildRequest o conditions).value = .error e) : e.RefusesOptions := by
  rw [value_buildRequest] at h
  cases hkey : b.keyOf? o with
  | some key =>
    rw [hkey] at h
    cases h
  | none =>
    rw [hkey] at h
    dsimp only at h
    unfold joinsRequest at h
    split at h
    · cases h
      exact .invalid _
    · split at h
      · cases h
      · cases h
        exact .spec _

theorem value_prepare (o : BindOptions) (conditions : List Condition) :
    (b.prepare o conditions).value =
      (o.validate b.handlers).value.bind fun _ => (b.buildRequest o conditions).value := by
  unfold prepare
  rw [Traced.value_bind]
  cases (o.validate b.handlers).value with
  | error e => rfl
  | ok valid => rfl

/-- **Why a binding is refused.** It is never for want of a binding. -/
theorem refusesOptions_of_prepare {o : BindOptions} {conditions : List Condition} {e : ClientError}
    (h : (b.prepare o conditions).value = .error e) : e.RefusesOptions := by
  rw [value_prepare] at h
  cases hvalid : (o.validate b.handlers).value with
  | error e' =>
    rw [hvalid] at h
    cases h
    exact BindOptions.refusesOptions_of_validate hvalid
  | ok valid =>
    rw [hvalid] at h
    exact b.refusesOptions_of_buildRequest h

theorem ofClient_ne_unbound_of_prepare {o : BindOptions} {conditions : List Condition}
    {e : ClientError} (h : (b.prepare o conditions).value = .error e) (p : String) :
    DispatchError.ofClient e ≠ .ofClient (.pagerNotBound p) := by
  intro heq
  have he := DispatchError.ofClient_eq_unbound_iff.1 heq
  exact (b.refusesOptions_of_prepare h).ne_unbound p he

/-! ## What a load ends with -/

theorem eq_error_of_map {ε α β : Type} {f : α → β} {x : Except ε α} {e : ε}
    (h : x.map f = .error e) : x = .error e := by
  cases x with
  | error e' => exact congrArg Except.error (Except.error.inj h)
  | ok a => cases h

theorem value_snd_finishLoad_error (l : Load) (e : DispatchError) :
    (b.finishLoad l (.error e)).value.2 = .error e := by
  simp only [finishLoad, Traced.value_bind, Traced.value_pure]

theorem pagers_closeProgress (l : Load) : (b.closeProgress l).value.pagers = b.pagers := by
  obtain ⟨messenger, hclosed⟩ := b.exists_value_closeProgress_eq l
  rw [hclosed]

theorem value_snd_turnPage {t : PageTurn} {s : PagingState} (hs : Keyed.get? b.pagers t.pager = some s)
    (total : Int64) : (b.turnPage t total).value.2 = .ok (s.after (some ⟨t, total⟩)) := by
  simp only [turnPage, Pagers.apply, hs]
  rfl

/-- **What the load of a page ends with**, if its pager has a state: the state after the page turn. -/
theorem value_finishLoad_of_turn {l : Load} {t : PageTurn} {s : PagingState} (ht : l.turn = some t)
    (hs : Keyed.get? b.pagers t.pager = some s) (outcome : Outcome) :
    (b.finishLoad l outcome).value.2 = outcome.map fun r =>
      ⟨r.rows 0, r.total 0 0, some (s.after (some ⟨t, r.total 0 0⟩))⟩ := by
  cases outcome with
  | error e => exact b.value_snd_finishLoad_error l e
  | ok r =>
    have hclosed : Keyed.get? (b.closeProgress l).value.pagers t.pager = some s := by
      rw [pagers_closeProgress, hs]
    simp only [finishLoad, showLoaded, ht, Traced.value_bind, Traced.value_pure,
      value_snd_turnPage _ hclosed]
    rfl

/-- **What the load of a grid ends with.** -/
theorem value_finishLoad_of_grid {l : Load} (ht : l.turn = none) (outcome : Outcome) :
    (b.finishLoad l outcome).value.2 = outcome.map fun r => ⟨r.rows 0, r.total 0 0, none⟩ := by
  cases outcome with
  | error e => exact b.value_snd_finishLoad_error l e
  | ok r =>
    simp only [finishLoad, showLoaded, ht, Traced.value_bind, Traced.value_pure]
    rfl

/-- **What the first half of a load comes to**: it waits for its answer, or the session is over. -/
theorem value_snd_startLoad (sequence : Fin 1001) (target : String) (o : BindOptions)
    (request : PagedRequest) (turn : Option PageTurn) :
    (b.startLoad sequence target o request turn).value.2 =
      if b.session.isCurrent b.client.state then
        .waiting ⟨target, o, (request.envelope b.session sequence).port, !b.messenger.progressing, turn⟩
          (Client.send b.client.config (request.envelope b.session sequence)).value
      else .ended (.error (.ofClient .notAuthenticated)) := by
  rw [startLoad_eq]
  simp only [Traced.value_bind, value_takeProgress]
  cases b.session.isCurrent b.client.state with
  | true => rfl
  | false =>
    simp only [Bool.false_eq_true, if_false, Traced.value_bind, Traced.value_pure,
      value_snd_finishLoad_error]

/-- **What the first half of an operation comes to.** -/
theorem value_snd_start (sequence : Fin 1001) (o : Operation) :
    (b.start sequence o).value.2 =
      match (b.plan o).2 with
      | .error e => .ended (.error e)
      | .ok p =>
        if b.session.isCurrent b.client.state then
          .waiting ⟨p.target, p.options, (p.request.envelope b.session sequence).port,
              !b.messenger.progressing, p.turn⟩
            (Client.send b.client.config (p.request.envelope b.session sequence)).value
        else .ended (.error (.ofClient .notAuthenticated)) := by
  have hframe := b.plan_frame o
  obtain ⟨ns, hstart⟩ := b.exists_start_eq sequence o
  rw [hstart, Traced.value_bind]
  generalize b.plan o = planning at hframe ⊢
  obtain ⟨b', planned⟩ := planning
  cases planned with
  | error e => rfl
  | ok p =>
    dsimp only [startPlan] at hframe ⊢
    rw [value_snd_startLoad, hframe]

/-! ## Starts that find no request -/

/-- Only a page turn is ever refused for want of a binding: of a pager that has no request. -/
theorem eq_select_of_plan_unbound {o : Operation} {p : String}
    (h : (b.plan o).2 = .error (.ofClient (.pagerNotBound p))) :
    ∃ page size, o = .select ⟨p, page, size⟩ ∧ Keyed.get? b.bound p = none := by
  cases o with
  | grid target o conditions =>
    simp only [plan] at h
    cases hprepare : (b.prepare o conditions).value with
    | error e =>
      rw [hprepare] at h
      exact absurd (Except.error.inj h) (b.ofClient_ne_unbound_of_prepare hprepare p)
    | ok request =>
      rw [hprepare] at h
      cases h
  | bind pager target o conditions =>
    simp only [plan] at h
    cases hprepare : (b.prepare o conditions).value with
    | error e =>
      rw [hprepare] at h
      exact absurd (Except.error.inj h) (b.ofClient_ne_unbound_of_prepare hprepare p)
    | ok request =>
      rw [hprepare] at h
      cases h
  | select t =>
    simp only [plan] at h
    cases hbound : Keyed.get? b.bound t.pager with
    | none =>
      rw [hbound] at h
      have heq := DispatchError.ofClient_eq_unbound_iff.1 (Except.error.inj h)
      obtain ⟨pager, page, size⟩ := t
      cases heq
      exact ⟨page, size, rfl, hbound⟩
    | some q =>
      rw [hbound] at h
      cases h

/-- **A start that finds no request** for its pager does nothing at all: nothing is sent or shown, nothing is
noted, and the binder stays as it is. -/
theorem start_of_unbound {sequence : Fin 1001} {o : Operation} {p : String}
    (h : (b.start sequence o).value.2 = .ended (.error (.ofClient (.pagerNotBound p)))) :
    b.start sequence o = pure (b, .ended (.error (.ofClient (.pagerNotBound p)))) := by
  have hplan : (b.plan o).2 = .error (.ofClient (.pagerNotBound p)) := by
    rw [value_snd_start] at h
    split at h
    · rename_i e he
      rw [he, Except.error.inj (LoadStart.ended.inj h)]
    · split at h
      · cases h
      · -- an operation that plans a load ends only because the session is over
        have hover := Except.error.inj (LoadStart.ended.inj h)
        cases DispatchError.ofClient_eq_unbound_iff.1 hover
  obtain ⟨page, size, rfl, hbound⟩ := b.eq_select_of_plan_unbound hplan
  simp only [start, startSelect, hbound]

end Parts

namespace World

/-! ## Runs -/

/-- **The three parts of a binding make a whole one** if nothing comes between them. -/
theorem run_bind (w : World) (hnone : w.registering = []) {o : BindOptions}
    {conditions : List Condition} {request : PagedRequest}
    (hcompiles : (w.binder.prepare o conditions).value = .ok request) (pager target : String)
    (sequence : Fin 1001) :
    (w.run [.register pager target o conditions, .registered 0,
        .start sequence (.select ⟨pager, (w.binder.bindState pager o).2.page,
          (w.binder.bindState pager o).2.size⟩)]).value =
      (w.step (.start sequence (.bind pager target o conditions))).value := by
  have hregister := w.binder.value_register_of_ok hcompiles pager target
  have hsplit := w.run_append [.register pager target o conditions, .registered 0]
    [.start sequence (.select ⟨pager, (w.binder.bindState pager o).2.page,
      (w.binder.bindState pager o).2.size⟩)]
  rw [List.cons_append, List.cons_append, List.nil_append] at hsplit
  rw [hsplit, Traced.value_bind, w.run_register hnone, run_cons, Traced.value_bind, value_step_start,
    value_step_start]
  simp only [start, startBind, Traced.value_bind, hregister]
  rfl

/-- A pager has a request. -/
def HasRequest (w : World) (p : String) : Prop := (Keyed.get? w.binder.bound p).isSome

/-- A pager never loses its request. -/
theorem HasRequest.step {w : World} {p : String} (h : w.HasRequest p) (e : Event) :
    (w.step e).value.HasRequest p := by
  rw [HasRequest, get?_bound_step, Option.isSome_or, h, Bool.or_true]

theorem HasRequest.run {w : World} {p : String} (h : w.HasRequest p) (es : List Event) :
    (w.run es).value.HasRequest p := by
  induction es generalizing w with
  | nil => exact h
  | cons e es ih =>
    rw [run_cons, Traced.value_bind]
    exact ih (h.step e)

/-- A registration of the pager is half done: the pager has a state and waits for its request. -/
def HalfDone (w : World) (p : String) : Prop := ∃ x ∈ w.registering, x.1 = p

/-- A pager with a state has a request too, but for a registration that is half done. -/
def Accounted (w : World) : Prop := ∀ p, w.HasState p → w.HasRequest p ∨ w.HalfDone p

theorem registering_step_of_ok {w : World} {o : BindOptions} {conditions : List Condition}
    {request : PagedRequest} (h : (w.binder.prepare o conditions).value = .ok request)
    (pager target : String) :
    (w.step (.register pager target o conditions)).value.registering =
      w.registering ++ [(pager, ⟨target, o, request⟩)] := by
  simp only [step, noticing_bind, Traced.value_bind, h]
  rfl

theorem step_register_of_error {w : World} {o : BindOptions} {conditions : List Condition}
    {e : ClientError} (h : (w.binder.prepare o conditions).value = .error e) (pager target : String) :
    (w.step (.register pager target o conditions)).value = w := by
  simp only [step, noticing_bind, Traced.value_bind, h, Traced.value_pure]

/-- A half done registration stays so until it ends; then its pager has a request. -/
theorem HalfDone.step {w : World} {p : String} (h : w.HalfDone p) (e : Event) :
    (w.step e).value.HasRequest p ∨ (w.step e).value.HalfDone p := by
  obtain ⟨x, hx, rfl⟩ := h
  cases e with
  | beginOperation => exact .inr ⟨x, hx, rfl⟩
  | loginState state => exact .inr ⟨x, hx, rfl⟩
  | sinkFault fault => exact .inr ⟨x, hx, rfl⟩
  | register pager target o conditions =>
    refine .inr ⟨x, ?_, rfl⟩
    cases hprepare : (w.binder.prepare o conditions).value with
    | error e => rwa [step_register_of_error hprepare]
    | ok request =>
      rw [registering_step_of_ok hprepare]
      exact List.mem_append_left _ hx
  | registered i =>
    cases hi : w.registering[i]? with
    | none =>
      have hstep : (w.step (.registered i)).value = w := by
        simp only [World.step, hi, Traced.value_pure]
      rw [hstep]
      exact .inr ⟨x, hx, rfl⟩
    | some y =>
      by_cases hxy : x.1 = y.1
      · -- a registration of this pager ends
        refine .inl ?_
        rw [HasRequest, get?_bound_step]
        simp only [bound?, hi, hxy, if_true, Option.some_or, Option.isSome_some]
      · refine .inr ⟨x, ?_, rfl⟩
        have hstep : (w.step (.registered i)).value.registering = w.registering.eraseIdx i := by
          simp only [World.step, hi, Traced.value_pure]
        obtain ⟨j, hj⟩ := List.mem_iff_getElem?.1 hx
        rw [hstep, List.mem_eraseIdx_iff_getElem?]
        refine ⟨j, ?_, hj⟩
        rintro rfl
        rw [hj] at hi
        cases hi
        exact hxy rfl
  | start sequence o =>
    rw [value_step_start]
    refine .inr ⟨x, ?_, rfl⟩
    rwa [registering_afterStart]
  | answer i answer =>
    refine .inr ⟨x, ?_, rfl⟩
    cases hi : w.waiting[i]? with
    | none => rwa [value_step_answer_of_none hi]
    | some l => rwa [value_step_answer hi]

/-- **What gives a pager its first state**: a binding of it, or the first half of a registration, with
options that compile. -/
theorem exists_of_firstState? {w : World} {e : Event} {p : String} {s : PagingState}
    (h : firstState? p (w, e) = some s) :
    ∃ target o conditions request, (w.binder.prepare o conditions).value = .ok request ∧
      s = .initial o.queryForm o.rowsPerPage ∧
      (e = .register p target o conditions ∨
        ∃ sequence, e = .start sequence (.bind p target o conditions)) := by
  cases e with
  | register pager target o conditions =>
    simp only [firstState?] at h
    split at h
    · cases h
    · rename_i request hcompiles
      obtain ⟨rfl, hs⟩ := Option.ite_none_right_eq_some.1 h
      exact ⟨target, o, conditions, request, hcompiles, (Option.some.inj hs).symm, .inl rfl⟩
  | start sequence operation =>
    cases operation with
    | bind pager target o conditions =>
      simp only [firstState?] at h
      split at h
      · cases h
      · rename_i request hcompiles
        obtain ⟨rfl, hs⟩ := Option.ite_none_right_eq_some.1 h
        exact ⟨target, o, conditions, request, hcompiles, (Option.some.inj hs).symm,
          .inr ⟨sequence, rfl⟩⟩
    | _ => cases h
  | _ => cases h

/-- The event that gives a pager its first state gives it a request too, or leaves it half done. -/
theorem accounted_of_firstState? {w : World} {e : Event} {p : String} {s : PagingState}
    (h : firstState? p (w, e) = some s) :
    (w.step e).value.HasRequest p ∨ (w.step e).value.HalfDone p := by
  obtain ⟨target, o, conditions, request, hcompiles, -, he⟩ := exists_of_firstState? h
  rcases he with rfl | hbinds
  · refine .inr ⟨(p, ⟨target, o, request⟩), ?_, rfl⟩
    rw [registering_step_of_ok hcompiles]
    exact List.mem_append_right _ List.mem_cons_self
  · obtain ⟨sequence, rfl⟩ := hbinds
    refine .inl ?_
    rw [HasRequest, get?_bound_step]
    simp only [bound?, hcompiles, if_true, Option.some_or, Option.isSome_some]

theorem Accounted.step {w : World} (h : w.Accounted) (e : Event) : (w.step e).value.Accounted := by
  intro p hp
  rw [HasState, get?_pagers_step, Option.isSome_map, Option.isSome_or, Bool.or_eq_true] at hp
  rcases hp with hold | hnew
  · rcases h p hold with hrequest | hhalf
    · exact .inl (hrequest.step e)
    · exact hhalf.step e
  · obtain ⟨s, hs⟩ := Option.isSome_iff_exists.1 hnew
    exact accounted_of_firstState? hs

theorem Accounted.run {w : World} (h : w.Accounted) (es : List Event) : (w.run es).value.Accounted := by
  induction es generalizing w with
  | nil => exact h
  | cons e es ih =>
    rw [run_cons, Traced.value_bind]
    exact ih (h.step e)

theorem accounted_init (c : Client) (s : Session) (handlers : Handlers) (ambient : Pool) :
    (init c s handlers ambient).Accounted := fun p hp => by cases hp

theorem value_finish (w : World) (l : Load) (answer : Answer) :
    (w.binder.finish l answer).value = (w.binder.finishLoad l (w.outcome l answer)).value := by
  simp only [finish, outcome, noticing_bind, Traced.value_bind]

/-- A load fails only with its outcome, since its pager has a state. -/
theorem Tracked.outcome_eq_of_finish_error {w : World} (h : w.Tracked) {l : Load} (hl : l ∈ w.waiting)
    {answer : Answer} {e : DispatchError} (he : (w.binder.finish l answer).value.2 = .error e) :
    w.outcome l answer = .error e := by
  rw [value_finish] at he
  cases ht : l.turn with
  | none =>
    rw [value_finishLoad_of_grid _ ht] at he
    exact eq_error_of_map he
  | some t =>
    obtain ⟨s, hs⟩ := Option.isSome_iff_exists.1 (h.waiting l hl t ht)
    rw [value_finishLoad_of_turn _ ht hs] at he
    exact eq_error_of_map he

/-- No outcome is the failure of an unbound pager: it comes with a response, or the network has failed. -/
theorem outcome_ne_unbound (w : World) (l : Load) (answer : Answer) (p : String) :
    w.outcome l answer ≠ .error (.ofClient (.pagerNotBound p)) := by
  intro h
  have hclassified := Client.classifies_receive w.binder.client.config l.port answer
  have hlost := (hclassified.lost_iff .general).1 ⟨_, h⟩
  cases hlost.1

/-- How the two tables of a binder stand to each other, and what that means for its operations. -/
structure InStep (w : World) : Prop where
  /-- A pager with a request has a state. -/
  hasState : ∀ p, w.HasRequest p → w.HasState p
  /-- While no registration is half done, the tables are of the same pagers. -/
  samePagers : w.registering = [] → ∀ p, w.HasState p ↔ w.HasRequest p
  /-- An operation that ends for want of a binding has done nothing: it has sent nothing, shown nothing and
  left the binder alone. -/
  unbound : ∀ sequence o p,
    (w.binder.start sequence o).value.2 = .ended (.error (.ofClient (.pagerNotBound p))) →
    (w.binder.start sequence o).events = [] ∧ (w.binder.start sequence o).value.1 = w.binder
  /-- The answer to a load is never lost for want of a binding. -/
  answered : ∀ l ∈ w.waiting, ∀ answer p,
    (w.binder.finish l answer).value.2 ≠ .error (.ofClient (.pagerNotBound p))
  /-- Registering a pager does not fail for want of a binding. -/
  registered : ∀ pager target o conditions p,
    (w.binder.register pager target o conditions).value.2 ≠ .error (.ofClient (.pagerNotBound p))
  /-- A registration whose options are invalid or do not compile changes neither table, nor anything else,
  whether it is by itself or part of a binding, and whether or not its halves are told apart. -/
  refused : ∀ pager target o conditions e, (w.binder.prepare o conditions).value = .error e →
    (w.binder.register pager target o conditions).value = (w.binder, .error (.ofClient e)) ∧
    (w.step (.register pager target o conditions)).value = w ∧
    ∀ sequence, (w.step (.start sequence (.bind pager target o conditions))).value = w

/-- **The two tables never drift apart**, at any time of any run. -/
theorem tables_inStep (c : Client) (s : Session) (handlers : Handlers) (ambient : Pool)
    (es : List Event) : ((init c s handlers ambient).run es).value.InStep := by
  have htracked := (tracked_init c s handlers ambient).run es
  have haccounted := (accounted_init c s handlers ambient).run es
  generalize ((init c s handlers ambient).run es).value = w at htracked haccounted
  refine ⟨htracked.bound, ?_, ?_, ?_, ?_, ?_⟩
  · intro hnone p
    refine ⟨fun hp => (haccounted p hp).resolve_right ?_, htracked.bound p⟩
    -- a half done registration would still be under way
    rintro ⟨x, hx, -⟩
    rw [hnone] at hx
    cases hx
  · intro sequence o p hunbound
    rw [w.binder.start_of_unbound hunbound]
    exact ⟨rfl, rfl⟩
  · intro l hl answer p hunbound
    exact w.outcome_ne_unbound l answer p (htracked.outcome_eq_of_finish_error hl hunbound)
  · intro pager target o conditions p hunbound
    cases hprepare : (w.binder.prepare o conditions).value with
    | ok request =>
      rw [value_register_of_ok _ hprepare] at hunbound
      cases hunbound
    | error e =>
      rw [value_register_of_error _ hprepare] at hunbound
      exact w.binder.ofClient_ne_unbound_of_prepare hprepare p (Except.error.inj hunbound)
  · intro pager target o conditions e hprepare
    refine ⟨w.binder.value_register_of_error hprepare pager target,
      step_register_of_error hprepare pager target, fun sequence => ?_⟩
    rw [value_step_start]
    simp only [start, startBind, Traced.value_bind,
      w.binder.value_register_of_error hprepare pager target, Traced.value_pure]
    rfl

end World
end Binder
end SemanticClient
