import Mathlib.Data.List.Induction
import SemanticClient.Proofs.Binding.Run
import SemanticClient.Proofs.Protocol.Rows

/-!
# Paging

A pager has a state from its first binding on. Only the answer to a page turn moves it, and only if it
confirms the turn: the pager is then at the page that the turn asked for, with the total that the answer
tells. Answers come in any order, so the last one to come decides. When the turns were asked for is of no
account.

* `World.get?_pagers_step`: what an event does to the state of a pager.
* `World.Tracked.run`: all that is under way is for pagers that have a state.
* `World.paging_run`: the state of a pager at any time of any run.
-/

namespace SemanticClient

/-- A page turn with the total that its answer tells. -/
structure Turned where
  turn : PageTurn
  total : Int64

/-- The state of a pager after a page turn, if there is one. -/
def PagingState.after (s : PagingState) : Option Turned → PagingState
  | none => s
  | some d => { s with page := d.turn.page, size := d.turn.size, total := d.total }

theorem PagingState.map_after_none (s : Option PagingState) : s.map (·.after none) = s :=
  Option.map_id'

/-- Of two page turns the later one decides. -/
theorem PagingState.after_after (s : PagingState) (early late : Option Turned) :
    (s.after early).after late = s.after (late.or early) := by
  cases late with
  | none => rfl
  | some d => cases early <;> rfl

/-- A page turn of this pager. -/
def Turned.ofPager? (p : String) (d : Turned) : Option Turned :=
  if d.turn.pager = p then some d else none

theorem Turned.ofPager?_eq_some {p : String} {d d' : Turned} :
    d.ofPager? p = some d' ↔ d.turn.pager = p ∧ d = d' := by
  rw [ofPager?, Option.ite_none_right_eq_some, Option.some.injEq]

/-- The page turn that an outcome confirms, if the load is for one. -/
def Load.turned? (l : Load) : Outcome → Option Turned
  | .ok r => l.turn.map fun t => ⟨t, r.total 0 0⟩
  | .error _ => none

/-- A page turn is confirmed by a good answer, with the total that the answer tells. -/
theorem Load.turned?_eq_some_iff {l : Load} {outcome : Outcome} {d : Turned} :
    l.turned? outcome = some d ↔
      ∃ r, outcome = .ok r ∧ l.turn = some d.turn ∧ r.TotalIs 0 0 d.total := by
  constructor
  · intro h
    cases outcome with
    | error e => cases h
    | ok r =>
      obtain ⟨t, ht, rfl⟩ := Option.map_eq_some_iff.1 h
      exact ⟨r, rfl, ht, Response.totalIs_iff.2 rfl⟩
  · rintro ⟨r, rfl, ht, htotal⟩
    rw [turned?, ht, Option.map_some, ← Response.totalIs_iff.1 htotal]

/-- Binding gives a pager its first state, and changes nothing else. -/
theorem Pagers.get?_bind (ps : Pagers) (id : String) (queryForm : Option String) (size : Int64)
    (p : String) :
    Keyed.get? (ps.bind id queryForm size).1 p =
      (Keyed.get? ps p).or (if p = id then some (.initial queryForm size) else none) := by
  unfold Pagers.bind
  cases hid : Keyed.get? ps id with
  | some s =>
    by_cases hp : p = id
    · rw [hp, hid]
      rfl
    · rw [if_neg hp, Option.or_none]
  | none =>
    rw [Keyed.get?_insert]
    by_cases hp : p = id
    · rw [if_pos hp, if_pos hp, hp, hid]
      rfl
    · rw [if_neg hp, if_neg hp, Option.or_none]

namespace Binder

/-! ## What the parts of an operation do to pagers -/

section Parts

variable (b : Binder)

theorem exists_value_closeProgress_eq (l : Load) :
    ∃ messenger, (b.closeProgress l).value = { b with messenger } := by
  rw [value_closeProgress]
  cases l.showing with
  | true => exact ⟨_, rfl⟩
  | false => exact ⟨b.messenger, rfl⟩

/-- A failed load leaves a mark on the messenger only. -/
theorem exists_value_finishLoad_error_eq (l : Load) (e : DispatchError) :
    ∃ messenger, (b.finishLoad l (.error e)).value.1 = { b with messenger } := by
  obtain ⟨closed, hclosed⟩ := b.exists_value_closeProgress_eq l
  refine ⟨(closed.report e).value.1, ?_⟩
  unfold finishLoad
  simp only [Traced.value_bind, Traced.value_pure, hclosed, value_reportError]

/-- A load that succeeds moves its pager, if it is for one. -/
theorem exists_value_finishLoad_ok_eq (l : Load) (r : Response) :
    ∃ messenger, (b.finishLoad l (.ok r)).value.1 =
      match l.turn with
      | none => { b with messenger }
      | some t => ({ b with messenger }.turnPage t (r.total 0 0)).value.1 := by
  obtain ⟨messenger, hclosed⟩ := b.exists_value_closeProgress_eq l
  refine ⟨messenger, ?_⟩
  unfold finishLoad
  rw [Traced.value_bind, hclosed]
  refine (value_showLoaded _ l r).trans ?_
  cases l.turn with
  | none => rfl
  | some t => rfl

/-- The first half of a load leaves a mark on the messenger only. -/
theorem exists_value_startLoad_eq (sequence : Fin 1001) (target : String) (o : BindOptions)
    (request : PagedRequest) (turn : Option PageTurn) :
    ∃ messenger, (b.startLoad sequence target o request turn).value.1 = { b with messenger } := by
  rw [startLoad_eq]
  simp only [Traced.value_bind, value_takeProgress]
  cases b.session.isCurrent b.client.state with
  | true => exact ⟨b.messenger.progress.1, rfl⟩
  | false => exact exists_value_finishLoad_error_eq _ _ _

/-- A load that waits is for the page turn that it was started for. -/
theorem turn_of_startLoad {sequence : Fin 1001} {target : String} {o : BindOptions}
    {request : PagedRequest} {turn : Option PageTurn} {l : Load} {sending : Sending}
    (h : (b.startLoad sequence target o request turn).value.2 = .waiting l sending) :
    l.turn = turn := by
  rw [startLoad_eq] at h
  simp only [Traced.value_bind, value_takeProgress] at h
  cases hcurrent : b.session.isCurrent b.client.state with
  | true =>
    rw [hcurrent] at h
    cases h
    rfl
  | false =>
    rw [hcurrent] at h
    cases h

/-- Starting an operation does no more to pagers than binding the one that it binds. -/
theorem exists_value_start_eq (sequence : Fin 1001) (o : Operation) :
    ∃ messenger, (b.start sequence o).value.1 = { (b.plan o).1 with messenger } := by
  obtain ⟨ns, hstart⟩ := b.exists_start_eq sequence o
  rw [hstart, Traced.value_bind]
  obtain ⟨b', planned⟩ := b.plan o
  cases planned with
  | error e => exact ⟨b'.messenger, rfl⟩
  | ok p => exact b'.exists_value_startLoad_eq sequence p.target p.options p.request p.turn

theorem fst_plan_select (t : PageTurn) : (b.plan (.select t)).1 = b := by
  simp only [plan]
  cases Keyed.get? b.bound t.pager with
  | none => rfl
  | some p => rfl

theorem turn_of_plan_select {t : PageTurn} {q : Plan} (h : (b.plan (.select t)).2 = .ok q) :
    q.turn = some t := by
  simp only [plan] at h
  cases hbound : Keyed.get? b.bound t.pager with
  | none =>
    rw [hbound] at h
    cases h
  | some p =>
    rw [hbound] at h
    cases h
    rfl

/-- A load that waits is for the page turn that its operation plans. -/
theorem exists_plan_of_start {sequence : Fin 1001} {o : Operation} {l : Load} {sending : Sending}
    (h : (b.start sequence o).value.2 = .waiting l sending) :
    ∃ p, (b.plan o).2 = .ok p ∧ l.turn = p.turn := by
  obtain ⟨ns, hstart⟩ := b.exists_start_eq sequence o
  rw [hstart, Traced.value_bind] at h
  generalize b.plan o = planning at h ⊢
  obtain ⟨b', planned⟩ := planning
  cases planned with
  | error e => cases h
  | ok p => exact ⟨p, rfl, b'.turn_of_startLoad h⟩

theorem get?_pagers_turnPage (t : PageTurn) (total : Int64) (p : String) :
    Keyed.get? (b.turnPage t total).value.1.pagers p =
      (Keyed.get? b.pagers p).map (·.after (Turned.ofPager? p ⟨t, total⟩)) := by
  unfold turnPage Pagers.apply
  cases ht : Keyed.get? b.pagers t.pager with
  | none =>
    by_cases hp : t.pager = p
    · rw [← hp, ht]
      exact ht
    · rw [Turned.ofPager?, if_neg hp]
      exact (PagingState.map_after_none _).symm
  | some s =>
    show Keyed.get? (Keyed.insert t.pager _ b.pagers) p = _
    rw [Keyed.get?_insert]
    by_cases hp : t.pager = p
    · rw [Turned.ofPager?, if_pos hp, if_pos hp.symm, ← hp, ht]
      rfl
    · rw [Turned.ofPager?, if_neg hp, if_neg (Ne.symm hp)]
      exact (PagingState.map_after_none _).symm

/-- **The second half of a load** moves its pager if the outcome confirms the page turn. -/
theorem get?_pagers_finishLoad (l : Load) (outcome : Outcome) (p : String) :
    Keyed.get? (b.finishLoad l outcome).value.1.pagers p =
      (Keyed.get? b.pagers p).map (·.after ((l.turned? outcome).bind (Turned.ofPager? p))) := by
  cases outcome with
  | error e =>
    obtain ⟨messenger, hvalue⟩ := b.exists_value_finishLoad_error_eq l e
    rw [hvalue]
    exact (PagingState.map_after_none _).symm
  | ok r =>
    obtain ⟨messenger, hvalue⟩ := b.exists_value_finishLoad_ok_eq l r
    rw [hvalue, Load.turned?]
    cases l.turn with
    | none => exact (PagingState.map_after_none _).symm
    | some t => exact get?_pagers_turnPage _ t (r.total 0 0) p

/-- The second half of a load binds nothing. -/
theorem bound_finishLoad (l : Load) (outcome : Outcome) :
    (b.finishLoad l outcome).value.1.bound = b.bound := by
  cases outcome with
  | error e =>
    obtain ⟨messenger, hvalue⟩ := b.exists_value_finishLoad_error_eq l e
    rw [hvalue]
  | ok r =>
    obtain ⟨messenger, hvalue⟩ := b.exists_value_finishLoad_ok_eq l r
    rw [hvalue]
    cases l.turn with
    | none => rfl
    | some t =>
      obtain ⟨pagers, hturned⟩ := exists_value_turnPage_eq { b with messenger } t (r.total 0 0)
      dsimp only at hturned ⊢
      rw [hturned]

end Parts

/-! ## Runs -/

namespace World

/-- The first state that an event gives to a pager, unless the pager has one. -/
def firstState? (p : String) : World × Event → Option PagingState
  | (w, .register pager _ o conditions) | (w, .start _ (.bind pager _ o conditions)) =>
    match (w.binder.prepare o conditions).value with
    | .error _ => none
    | .ok _ => if p = pager then some (.initial o.queryForm o.rowsPerPage) else none
  | _ => none

/-- The page turn of a pager that an event confirms. -/
def turned? (p : String) : World × Event → Option Turned
  | (w, .answer i answer) =>
    match w.waiting[i]? with
    | none => none
    | some l => (l.turned? (w.outcome l answer)).bind (Turned.ofPager? p)
  | _ => none

theorem get?_pagers_afterPrepare (w : World) (pager : String) (q : BoundPager) (p : String) :
    Keyed.get? (w.afterPrepare pager q).binder.pagers p =
      (Keyed.get? w.binder.pagers p).or
        (if p = pager then some (.initial q.options.queryForm q.options.rowsPerPage) else none) :=
  Pagers.get?_bind w.binder.pagers pager q.options.queryForm q.options.rowsPerPage p

theorem get?_pagers_plan (w : World) (sequence : Fin 1001) (o : Operation) (p : String) :
    Keyed.get? (w.binder.plan o).1.pagers p =
      (Keyed.get? w.binder.pagers p).or (firstState? p (w, .start sequence o)) := by
  cases o with
  | grid target o conditions =>
    simp only [plan, firstState?, Option.or_none]
    cases (w.binder.prepare o conditions).value with
    | error e => rfl
    | ok request => rfl
  | select t =>
    simp only [plan, firstState?, Option.or_none]
    cases Keyed.get? w.binder.bound t.pager with
    | none => rfl
    | some q => rfl
  | bind pager target o conditions =>
    simp only [plan, firstState?]
    cases (w.binder.prepare o conditions).value with
    | error e => exact (Option.or_none).symm
    | ok request => exact Pagers.get?_bind w.binder.pagers pager o.queryForm o.rowsPerPage p

/-- **What an event does to the state of a pager**: it may give it the first one, or confirm a page turn
of it. -/
theorem get?_pagers_step (w : World) (e : Event) (p : String) :
    Keyed.get? (w.step e).value.binder.pagers p =
      ((Keyed.get? w.binder.pagers p).or (firstState? p (w, e))).map (·.after (turned? p (w, e))) := by
  -- an event that does neither
  have hkeeps : ∀ s : Option PagingState, s = (s.or none).map (·.after none) := by
    intro s
    rw [PagingState.map_after_none, Option.or_none]
  cases e with
  | beginOperation => exact hkeeps _
  | loginState state => exact hkeeps _
  | sinkFault fault => exact hkeeps _
  | register pager target o conditions =>
    simp only [step, noticing_bind, Traced.value_bind, firstState?]
    cases (w.binder.prepare o conditions).value with
    | error e => exact hkeeps _
    | ok request =>
      refine Eq.trans ?_ (PagingState.map_after_none _).symm
      exact w.get?_pagers_afterPrepare pager ⟨target, o, request⟩ p
  | registered i =>
    simp only [step]
    cases w.registering[i]? with
    | none => exact hkeeps _
    | some x => exact hkeeps _
  | start sequence o =>
    obtain ⟨messenger, hstart⟩ := w.binder.exists_value_start_eq sequence o
    rw [value_step_start, binder_afterStart, hstart, w.get?_pagers_plan sequence]
    exact (PagingState.map_after_none _).symm
  | answer i answer =>
    simp only [turned?, firstState?, Option.or_none]
    cases hi : w.waiting[i]? with
    | none =>
      rw [value_step_answer_of_none hi]
      exact (PagingState.map_after_none _).symm
    | some l =>
      rw [value_step_answer hi]
      exact w.binder.get?_pagers_finishLoad l (w.outcome l answer) p

/-- A pager has a state. -/
def HasState (w : World) (p : String) : Prop := (Keyed.get? w.binder.pagers p).isSome

/-- A pager never loses its state. -/
theorem HasState.step {w : World} {p : String} (h : w.HasState p) (e : Event) :
    (w.step e).value.HasState p := by
  obtain ⟨s, hs⟩ := Option.isSome_iff_exists.1 h
  rw [HasState, get?_pagers_step, hs]
  rfl

theorem registering_afterStart (w : World) (r : Binder × LoadStart) :
    (w.afterStart r).registering = w.registering := by
  obtain ⟨b, started⟩ := r
  cases started with
  | ended result => rfl
  | waiting l sending => rfl

theorem mem_waiting_afterStart {w : World} {r : Binder × LoadStart} {l : Load} :
    l ∈ (w.afterStart r).waiting ↔ l ∈ w.waiting ∨ ∃ sending, r.2 = .waiting l sending := by
  obtain ⟨b, started⟩ := r
  cases started with
  | ended result => simp [afterStart]
  | waiting l' sending => simp [afterStart, eq_comm]

/-- All that is under way, or may be asked for, is for pagers that have a state. -/
structure Tracked (w : World) : Prop where
  bound : ∀ p, (Keyed.get? w.binder.bound p).isSome → w.HasState p
  registering : ∀ x ∈ w.registering, w.HasState x.1
  waiting : ∀ l ∈ w.waiting, ∀ t, l.turn = some t → w.HasState t.pager

theorem tracked_init (c : Client) (s : Session) (handlers : Handlers) (ambient : Pool) :
    (init c s handlers ambient).Tracked where
  bound := fun _ h => by cases h
  registering := fun _ h => by cases h
  waiting := fun _ h => by cases h

/-- Since no pager loses its state, only what an event adds is to be looked at. -/
theorem Tracked.of_new {w : World} (h : w.Tracked) {e : Event}
    (hbound : ∀ p, (Keyed.get? (w.step e).value.binder.bound p).isSome →
      (Keyed.get? w.binder.bound p).isSome ∨ (w.step e).value.HasState p)
    (hregistering : ∀ x ∈ (w.step e).value.registering,
      x ∈ w.registering ∨ (w.step e).value.HasState x.1)
    (hwaiting : ∀ l ∈ (w.step e).value.waiting,
      l ∈ w.waiting ∨ ∀ t, l.turn = some t → (w.step e).value.HasState t.pager) :
    (w.step e).value.Tracked where
  bound := fun p hp => (hbound p hp).elim (fun hold => (h.bound p hold).step e) id
  registering := fun x hx => (hregistering x hx).elim (fun hold => (h.registering x hold).step e) id
  waiting := fun l hl t ht =>
    (hwaiting l hl).elim (fun hold => (h.waiting l hold t ht).step e) fun hnew => hnew t ht

/-- What an operation adds: the pager that it binds, if any, has a state by then. -/
theorem Tracked.plan {w : World} (h : w.Tracked) (o : Operation) :
    (∀ p, (Keyed.get? (w.binder.plan o).1.bound p).isSome →
      (Keyed.get? w.binder.bound p).isSome ∨ (Keyed.get? (w.binder.plan o).1.pagers p).isSome) ∧
    ∀ q t, (w.binder.plan o).2 = .ok q → q.turn = some t →
      (Keyed.get? (w.binder.plan o).1.pagers t.pager).isSome := by
  cases o with
  | grid target o conditions =>
    simp only [Binder.plan]
    cases (w.binder.prepare o conditions).value with
    | error e => exact ⟨fun p => .inl, fun q t hq => by cases hq⟩
    | ok request =>
      refine ⟨fun p => .inl, fun q t hq ht => ?_⟩
      cases hq
      cases ht
  | select t =>
    simp only [Binder.plan]
    cases hbound : Keyed.get? w.binder.bound t.pager with
    | none => exact ⟨fun p => .inl, fun q t hq => by cases hq⟩
    | some p =>
      refine ⟨fun p => .inl, fun q t' hq ht => ?_⟩
      cases hq
      cases ht
      exact h.bound t.pager (Option.isSome_of_eq_some hbound)
  | bind pager target o conditions =>
    simp only [Binder.plan]
    cases (w.binder.prepare o conditions).value with
    | error e => exact ⟨fun p => .inl, fun q t hq => by cases hq⟩
    | ok request =>
      have hpager : (Keyed.get? (w.binder.bindState pager o).1.pagers pager).isSome := by
        show (Keyed.get? (w.binder.pagers.bind pager _ _).1 pager).isSome
        rw [Pagers.get?_bind, if_pos rfl, Option.isSome_or, Option.isSome_some, Bool.or_true]
      refine ⟨fun p hp => ?_, fun q t hq ht => ?_⟩
      · simp only [bindRequest, Keyed.get?_insert] at hp
        by_cases heq : p = pager
        · rw [heq]
          exact .inr hpager
        · rw [if_neg heq] at hp
          exact .inl hp
      · cases hq
        cases ht
        exact hpager

theorem Tracked.step_register {w : World} (h : w.Tracked) (pager target : String) (o : BindOptions)
    (conditions : List Condition) : (w.step (.register pager target o conditions)).value.Tracked := by
  cases hprepare : (w.binder.prepare o conditions).value with
  | error e =>
    have hstep : (w.step (.register pager target o conditions)).value = w := by
      simp only [World.step, noticing_bind, Traced.value_bind, hprepare, Traced.value_pure]
    rw [hstep]
    exact h
  | ok request =>
    have hstep : (w.step (.register pager target o conditions)).value =
        w.afterPrepare pager ⟨target, o, request⟩ := by
      simp only [World.step, noticing_bind, Traced.value_bind, hprepare, Traced.value_pure]
    have hpager : (w.afterPrepare pager ⟨target, o, request⟩).HasState pager := by
      rw [HasState, get?_pagers_afterPrepare, if_pos rfl, Option.isSome_or, Option.isSome_some,
        Bool.or_true]
    refine h.of_new ?_ ?_ ?_
    · rw [hstep]
      exact fun p => .inl
    · rw [hstep]
      intro x hx
      rcases List.mem_append.1 hx with hold | hnew
      · exact .inl hold
      · rw [List.mem_singleton.1 hnew]
        exact .inr hpager
    · rw [hstep]
      exact fun l => .inl

theorem Tracked.step_registered {w : World} (h : w.Tracked) (i : Nat) :
    (w.step (.registered i)).value.Tracked := by
  cases hi : w.registering[i]? with
  | none =>
    have hstep : (w.step (.registered i)).value = w := by
      simp only [World.step, hi, Traced.value_pure]
    rw [hstep]
    exact h
  | some x =>
    have hstep : (w.step (.registered i)).value =
        { w with
          binder := w.binder.bindRequest x.1 x.2, registering := w.registering.eraseIdx i } := by
      simp only [World.step, hi, Traced.value_pure]
    refine h.of_new ?_ ?_ ?_
    · rw [hstep]
      intro p hp
      simp only [bindRequest, Keyed.get?_insert] at hp
      by_cases heq : p = x.1
      · -- the pager got its state in the first half of the registration
        rw [heq]
        exact .inr (h.registering x (List.mem_of_getElem? hi))
      · rw [if_neg heq] at hp
        exact .inl hp
    · rw [hstep]
      exact fun x hx => .inl (List.mem_of_mem_eraseIdx hx)
    · rw [hstep]
      exact fun l => .inl

theorem Tracked.step_start {w : World} (h : w.Tracked) (sequence : Fin 1001) (o : Operation) :
    (w.step (.start sequence o)).value.Tracked := by
  obtain ⟨hbound, hturn⟩ := h.plan o
  obtain ⟨messenger, hstart⟩ := w.binder.exists_value_start_eq sequence o
  have hbinder : (w.step (.start sequence o)).value.binder = { (w.binder.plan o).1 with messenger } := by
    rw [value_step_start, binder_afterStart, hstart]
  refine h.of_new ?_ ?_ ?_
  · unfold HasState
    rw [hbinder]
    exact hbound
  · intro x hx
    rw [value_step_start, registering_afterStart] at hx
    exact .inl hx
  · intro l hl
    rw [value_step_start] at hl
    rcases mem_waiting_afterStart.1 hl with hold | ⟨sending, hnew⟩
    · exact .inl hold
    · obtain ⟨q, hq, hlq⟩ := w.binder.exists_plan_of_start hnew
      refine .inr fun t ht => ?_
      rw [HasState, hbinder]
      exact hturn q t hq (hlq ▸ ht)

theorem Tracked.step_answer {w : World} (h : w.Tracked) (i : Nat) (answer : Answer) :
    (w.step (.answer i answer)).value.Tracked := by
  cases hi : w.waiting[i]? with
  | none =>
    rw [value_step_answer_of_none hi]
    exact h
  | some l =>
    refine h.of_new ?_ ?_ ?_
    · rw [value_step_answer hi]
      intro p hp
      rw [bound_finishLoad] at hp
      exact .inl hp
    · rw [value_step_answer hi]
      exact fun x => .inl
    · rw [value_step_answer hi]
      exact fun l hl => .inl (List.mem_of_mem_eraseIdx hl)

/-- **A step** keeps what is under way on pagers that have a state. -/
theorem Tracked.step {w : World} (h : w.Tracked) (e : Event) : (w.step e).value.Tracked := by
  cases e with
  | beginOperation => exact ⟨h.bound, h.registering, h.waiting⟩
  | loginState state => exact ⟨h.bound, h.registering, h.waiting⟩
  | sinkFault fault => exact ⟨h.bound, h.registering, h.waiting⟩
  | register pager target o conditions => exact h.step_register pager target o conditions
  | registered i => exact h.step_registered i
  | start sequence o => exact h.step_start sequence o
  | answer i answer => exact h.step_answer i answer

theorem Tracked.run {w : World} (h : w.Tracked) (es : List Event) : (w.run es).value.Tracked := by
  induction es generalizing w with
  | nil => exact h
  | cons e es ih =>
    rw [run_cons, Traced.value_bind]
    exact ih (h.step e)

/-! ## The state of a pager in a run -/

/-- What an event confirms is the page turn of a load that waits. -/
theorem exists_of_turned? {w : World} {e : Event} {p : String} {d : Turned}
    (hturned : turned? p (w, e) = some d) :
    ∃ l ∈ w.waiting, l.turn = some d.turn ∧ d.turn.pager = p := by
  cases e with
  | answer i answer =>
    simp only [turned?] at hturned
    cases hi : w.waiting[i]? with
    | none =>
      rw [hi] at hturned
      cases hturned
    | some l =>
      rw [hi] at hturned
      obtain ⟨d', hd', hpager⟩ := Option.bind_eq_some_iff.1 hturned
      obtain ⟨r, -, ht, -⟩ := Load.turned?_eq_some_iff.1 hd'
      obtain ⟨hp, rfl⟩ := Turned.ofPager?_eq_some.1 hpager
      exact ⟨l, List.mem_of_getElem? hi, ht, hp⟩
  | _ => cases hturned

/-- A pager's page turn is confirmed only after its first binding. -/
theorem Tracked.hasState_of_turned {w : World} (h : w.Tracked) {e : Event} {p : String} {d : Turned}
    (hturned : turned? p (w, e) = some d) : w.HasState p := by
  obtain ⟨l, hl, ht, rfl⟩ := exists_of_turned? hturned
  exact h.waiting l hl d.turn ht

/-- The first state of a pager in a run, if it is bound. -/
def firstState (w : World) (es : List Event) (p : String) : Option PagingState :=
  (w.moments es).findSome? (firstState? p)

/-- The last page turn of a pager that a run confirms, if it confirms any. -/
def lastTurn (w : World) (es : List Event) (p : String) : Option Turned :=
  (w.moments es).reverse.findSome? (turned? p)

theorem firstState_concat (w : World) (es : List Event) (e : Event) (p : String) :
    w.firstState (es ++ [e]) p = (w.firstState es p).or (firstState? p ((w.run es).value, e)) := by
  rw [firstState, moments_concat, List.findSome?_append, List.findSome?_singleton]
  rfl

theorem lastTurn_concat (w : World) (es : List Event) (e : Event) (p : String) :
    w.lastTurn (es ++ [e]) p = (turned? p ((w.run es).value, e)).or (w.lastTurn es p) := by
  rw [lastTurn, moments_concat, List.reverse_concat, List.findSome?_cons]
  cases turned? p ((w.run es).value, e) with
  | none => rfl
  | some d => rfl

/-- The state of a pager, and what it rests on: no page turn is confirmed before the first binding. -/
theorem pagers_run {w : World} (h : w.Tracked) (hnone : w.binder.pagers = []) (es : List Event)
    (p : String) :
    Keyed.get? (w.run es).value.binder.pagers p =
        (w.firstState es p).map (·.after (w.lastTurn es p)) ∧
      (w.firstState es p = none → w.lastTurn es p = none) := by
  induction es using List.reverseRecOn with
  | nil =>
    refine ⟨?_, fun _ => rfl⟩
    show Keyed.get? w.binder.pagers p = none
    rw [hnone]
    rfl
  | append_singleton es e ih =>
    obtain ⟨hstate, hfirst⟩ := ih
    rw [run_concat, Traced.value_bind, get?_pagers_step, hstate, firstState_concat, lastTurn_concat]
    cases hold : w.firstState es p with
    | some s =>
      -- bound before: of its page turns the one confirmed last wins
      refine ⟨?_, fun hnew => by cases hnew⟩
      rw [Option.map_some, Option.some_or, Option.map_some, Option.some_or, Option.map_some,
        PagingState.after_after]
    | none =>
      -- not bound before, so no load can be under way for it
      have hunturned : turned? p ((w.run es).value, e) = none := by
        cases hturned : turned? p ((w.run es).value, e) with
        | none => rfl
        | some d =>
          have hhas := (h.run es).hasState_of_turned hturned
          rw [HasState, hstate, hold] at hhas
          cases hhas
      rw [hunturned, hfirst hold, Option.map_none, Option.none_or, Option.none_or]
      exact ⟨rfl, fun _ => rfl⟩

/-- How loads move paging states: with the answers that confirm a page turn, and not otherwise. -/
structure MovesOnAnswers (w : World) : Prop where
  /-- Asking for a page moves no pager, be the session over or not. A load that waits is for that page. -/
  asked : ∀ sequence t,
    (w.step (.start sequence (.select t))).value.binder.pagers = w.binder.pagers ∧
    ∀ l ∈ (w.step (.start sequence (.select t))).value.waiting, l ∈ w.waiting ∨ l.turn = some t
  /-- A failure moves no pager. -/
  failed : ∀ i l answer e, w.waiting[i]? = some l → w.outcome l answer = .error e →
    (w.step (.answer i answer)).value.binder.pagers = w.binder.pagers
  /-- The answer to the load of a grid moves no pager. -/
  loaded : ∀ i l answer, w.waiting[i]? = some l → l.turn = none →
    (w.step (.answer i answer)).value.binder.pagers = w.binder.pagers
  /-- An answer that confirms a page turn moves its pager there, with the total that the answer tells, and no
  other pager. The pager keeps its query form. -/
  confirmed : ∀ i l answer t r, w.waiting[i]? = some l → l.turn = some t → w.outcome l answer = .ok r →
    ∃ s total, Keyed.get? w.binder.pagers t.pager = some s ∧ r.TotalIs 0 0 total ∧
      ∀ p, Keyed.get? (w.step (.answer i answer)).value.binder.pagers p =
        if p = t.pager then some { s with page := t.page, size := t.size, total }
        else Keyed.get? w.binder.pagers p

theorem Tracked.movesOnAnswers {w : World} (h : w.Tracked) : w.MovesOnAnswers where
  asked := fun sequence t => by
    rw [value_step_start]
    constructor
    · obtain ⟨messenger, hstart⟩ := w.binder.exists_value_start_eq sequence (.select t)
      rw [binder_afterStart, hstart]
      show (w.binder.plan (.select t)).1.pagers = w.binder.pagers
      rw [fst_plan_select]
    · intro l hl
      rcases mem_waiting_afterStart.1 hl with hold | ⟨sending, hnew⟩
      · exact .inl hold
      · obtain ⟨q, hq, hlq⟩ := w.binder.exists_plan_of_start hnew
        exact .inr (hlq.trans (w.binder.turn_of_plan_select hq))
  failed := fun i l answer e hi he => by
    obtain ⟨messenger, hfinish⟩ := w.binder.exists_value_finishLoad_error_eq l e
    rw [value_step_answer hi, he, hfinish]
  loaded := fun i l answer hi hl => by
    rw [value_step_answer hi]
    cases w.outcome l answer with
    | error e =>
      obtain ⟨messenger, hfinish⟩ := w.binder.exists_value_finishLoad_error_eq l e
      rw [hfinish]
    | ok r =>
      obtain ⟨messenger, hfinish⟩ := w.binder.exists_value_finishLoad_ok_eq l r
      rw [hfinish, hl]
  confirmed := fun i l answer t r hi ht hr => by
    obtain ⟨s, hs⟩ := Option.isSome_iff_exists.1 (h.waiting l (List.mem_of_getElem? hi) t ht)
    refine ⟨s, r.total 0 0, hs, Response.totalIs_iff.2 rfl, fun p => ?_⟩
    rw [value_step_answer hi, hr]
    show Keyed.get? (w.binder.finishLoad l (.ok r)).value.1.pagers p = _
    rw [get?_pagers_finishLoad, Load.turned?, ht]
    show (Keyed.get? w.binder.pagers p).map (·.after (Turned.ofPager? p ⟨t, r.total 0 0⟩)) = _
    by_cases hp : p = t.pager
    · rw [Turned.ofPager?, if_pos hp.symm, if_pos hp, hp, hs]
      rfl
    · rw [Turned.ofPager?, if_neg (Ne.symm hp), if_neg hp, PagingState.map_after_none]

/-- **Paging at any time of any run.** Paging states move on answers only, and a pager is where the last
confirmed page turn of it left it, or as its first binding made it if there is none. A page turn is
confirmed by a good answer to its load, with the total that the answer tells. -/
theorem paging_run (c : Client) (s : Session) (handlers : Handlers) (ambient : Pool) (es : List Event) :
    ((init c s handlers ambient).run es).value.MovesOnAnswers ∧
    (∀ p, Keyed.get? ((init c s handlers ambient).run es).value.binder.pagers p =
      ((init c s handlers ambient).firstState es p).map
        (·.after ((init c s handlers ambient).lastTurn es p))) ∧
    ∀ (l : Load) (outcome : Outcome) (d : Turned), l.turned? outcome = some d ↔
      ∃ r, outcome = .ok r ∧ l.turn = some d.turn ∧ r.TotalIs 0 0 d.total := by
  have htracked := tracked_init c s handlers ambient
  exact ⟨(htracked.run es).movesOnAnswers, fun p => (pagers_run htracked rfl es p).1,
    fun _ _ _ => Load.turned?_eq_some_iff⟩

end World
end Binder
end SemanticClient
