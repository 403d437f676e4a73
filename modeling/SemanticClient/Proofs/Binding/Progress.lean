import Mathlib.Data.List.Chain
import SemanticClient.Proofs.Binding.Run

/-!
# The progress indicator

Loads share one progress indicator: the load that finds it down puts it up, and puts it down again when
it ends. The user interface sees the calls that do so. A new operation of the user clears the indicator
without a call, whoever put it up; so the next load puts it up once more.

* `World.step_indicatorUse`: what any other event does to the indicator.
* `World.head?_eq_shown_iff`: when an event puts it up.
* `World.neverTwice_iff`: the indicator is put up twice in a row exactly if a load starts after a new
  operation that found it up.
* `World.not_forall_neverTwice`: it happens.
-/

namespace SemanticClient

/-- A call that puts the progress indicator up or down. -/
inductive IndicatorCall where
  | shown
  | closed
deriving DecidableEq

/-- What an effect does to the indicator that the user sees. -/
def Effect.indicatorCall? : Effect → Option IndicatorCall
  | .shown .showProgress => some .shown
  | .shown .closeProgress => some .closed
  | _ => none

/-- The calls among effects that put the indicator up or down, in order. -/
def indicatorCalls (effects : List Effect) : List IndicatorCall :=
  effects.filterMap Effect.indicatorCall?

theorem indicatorCalls_append (es es' : List Effect) :
    indicatorCalls (es ++ es') = indicatorCalls es ++ indicatorCalls es' := List.filterMap_append

namespace Binder

/-! ## What the parts of an operation do to the indicator -/

/-- How the indicator is used: whether it is taken before, the calls, and whether it is taken after. -/
inductive IndicatorUse : Bool → List IndicatorCall → Bool → Prop
  /-- Not at all. -/
  | keeps (taken : Bool) : IndicatorUse taken [] taken
  /-- A load puts it up. -/
  | takes : IndicatorUse false [.shown] true
  /-- A load puts it up and, refused by its session, down again. -/
  | flashes : IndicatorUse false [.shown, .closed] false
  /-- The load that put it up puts it down. -/
  | gives (taken : Bool) : IndicatorUse taken [.closed] false

section Parts

variable (b : Binder)

theorem indicatorCalls_notices (ns : List Notice) : indicatorCalls (notices ns).events = [] := by
  unfold indicatorCalls notices
  rw [List.filterMap_map]
  exact List.filterMap_eq_nil_iff.2 fun n _ => rfl

theorem indicatorCalls_showCall (call : SinkCall) :
    indicatorCalls (b.showCall call).events = (Effect.indicatorCall? (.shown call)).toList := by
  unfold showCall
  cases b.sinkFault.bind (·.reason? call) with
  | none => cases call <;> rfl
  | some reason => cases call <;> rfl

theorem indicatorCalls_takeProgress :
    indicatorCalls b.takeProgress.events =
      if b.messenger.progressing then [] else [.shown] := by
  rw [events_takeProgress]
  cases b.messenger.progressing with
  | true => rfl
  | false => exact b.indicatorCalls_showCall .showProgress

theorem indicatorCalls_closeProgress (l : Load) :
    indicatorCalls (b.closeProgress l).events = if l.showing then [.closed] else [] := by
  rw [events_closeProgress]
  cases l.showing with
  | true => exact b.indicatorCalls_showCall .closeProgress
  | false => rfl

theorem progressing_closeProgress (l : Load) :
    (b.closeProgress l).value.messenger.progressing =
      (b.messenger.progressing && !l.showing) := by
  rw [value_closeProgress]
  cases l.showing with
  | true => exact (Bool.and_false _).symm
  | false => exact (Bool.and_true _).symm

theorem indicatorCalls_reportError (e : DispatchError) :
    indicatorCalls (b.reportError e).events = [] := by
  rw [events_reportError, indicatorCalls_append, indicatorCalls_notices, List.nil_append]
  cases (b.messenger.report e).value.2 with
  | none => rfl
  | some text => exact b.indicatorCalls_showCall (.alert e.code text)

theorem progressing_report (m : Messenger) (e : DispatchError) :
    (m.report e).value.1.progressing = m.progressing := by
  unfold Messenger.report
  cases m.isReported e.code with
  | true => rfl
  | false => rfl

theorem indicatorCalls_selectRow (o : BindOptions) (target : String) (rows : List Row) :
    indicatorCalls (b.selectRow o target rows).events = [] := by
  unfold selectRow
  split
  · split
    · exact b.indicatorCalls_showCall (.selectRow target _)
    · rfl
  · rfl

theorem indicatorCalls_runOnLoad (o : BindOptions) (target : String) (rows : List Row)
    (total : Int64) : indicatorCalls (b.runOnLoad o target rows total).events = [] := by
  unfold runOnLoad
  split
  · rfl
  · split
    · rfl
    · rfl

theorem indicatorCalls_turnPage (t : PageTurn) (total : Int64) :
    indicatorCalls (b.turnPage t total).events = [] := by
  unfold turnPage
  split
  · rfl
  · rw [Traced.events_bind, Traced.events_pure, List.append_nil]
    exact b.indicatorCalls_showCall (.refreshPager _ _ _ _)

theorem messenger_turnPage (t : PageTurn) (total : Int64) :
    (b.turnPage t total).value.1.messenger = b.messenger := by
  obtain ⟨pagers, hturned⟩ := b.exists_value_turnPage_eq t total
  rw [hturned]

/-- What was loaded is shown without a word about the indicator. -/
theorem indicatorCalls_showLoaded (l : Load) (r : Response) :
    indicatorCalls (b.showLoaded l r).events = [] := by
  rw [events_showLoaded, indicatorCalls_append, indicatorCalls_append, indicatorCalls_append,
    indicatorCalls_showCall, indicatorCalls_selectRow, indicatorCalls_runOnLoad]
  cases l.turn with
  | none => rfl
  | some t => exact b.indicatorCalls_turnPage t (r.total 0 0)

theorem messenger_showLoaded (l : Load) (r : Response) :
    (b.showLoaded l r).value.1.messenger = b.messenger := by
  rw [value_showLoaded]
  cases l.turn with
  | none => rfl
  | some t => exact b.messenger_turnPage t (r.total 0 0)

/-- **The second half of a load** gives the indicator back if the first half took it, whatever the
outcome. -/
theorem indicatorCalls_finishLoad (l : Load) (outcome : Outcome) :
    indicatorCalls (b.finishLoad l outcome).events = if l.showing then [.closed] else [] := by
  unfold finishLoad
  rw [Traced.events_bind, indicatorCalls_append, indicatorCalls_closeProgress]
  cases outcome with
  | ok r => rw [indicatorCalls_showLoaded, List.append_nil]
  | error e =>
    rw [Traced.events_bind, Traced.events_pure, List.append_nil, indicatorCalls_reportError,
      List.append_nil]

theorem progressing_finishLoad (l : Load) (outcome : Outcome) :
    (b.finishLoad l outcome).value.1.messenger.progressing =
      (b.messenger.progressing && !l.showing) := by
  unfold finishLoad
  rw [Traced.value_bind, ← progressing_closeProgress]
  cases outcome with
  | ok r => rw [messenger_showLoaded]
  | error e =>
    rw [Traced.value_bind, value_reportError]
    exact progressing_report _ e

theorem indicatorUse_finishLoad (l : Load) (outcome : Outcome) :
    IndicatorUse b.messenger.progressing (indicatorCalls (b.finishLoad l outcome).events)
      (b.finishLoad l outcome).value.1.messenger.progressing := by
  rw [indicatorCalls_finishLoad, progressing_finishLoad]
  cases l.showing with
  | true =>
    rw [Bool.not_true, Bool.and_false]
    exact .gives _
  | false =>
    rw [Bool.not_false, Bool.and_true]
    exact .keeps _

/-- **The first half of a load** puts the indicator up if it is free, and down again if the session is
over. -/
theorem indicatorCalls_startLoad (sequence : Fin 1001) (target : String) (o : BindOptions)
    (request : PagedRequest) (turn : Option PageTurn) :
    indicatorCalls (b.startLoad sequence target o request turn).events =
      if b.messenger.progressing then []
      else if b.session.isCurrent b.client.state then [.shown] else [.shown, .closed] := by
  rw [startLoad_eq]
  simp only [Traced.events_bind, indicatorCalls_append, value_takeProgress,
    indicatorCalls_takeProgress, indicatorCalls_notices, List.nil_append]
  cases b.session.isCurrent b.client.state with
  | true =>
    cases b.messenger.progressing with
    | true => rfl
    | false => rfl
  | false =>
    simp only [Bool.false_eq_true, if_false, Traced.events_bind, Traced.events_pure, List.append_nil,
      indicatorCalls_finishLoad]
    cases b.messenger.progressing with
    | true => rfl
    | false => rfl

theorem progressing_startLoad (sequence : Fin 1001) (target : String) (o : BindOptions)
    (request : PagedRequest) (turn : Option PageTurn) :
    (b.startLoad sequence target o request turn).value.1.messenger.progressing =
      (b.messenger.progressing || b.session.isCurrent b.client.state) := by
  rw [startLoad_eq]
  simp only [Traced.value_bind, value_takeProgress]
  cases b.session.isCurrent b.client.state with
  | true => cases hprogressing : b.messenger.progressing <;> simp [Messenger.progress, hprogressing]
  | false =>
    simp only [Bool.false_eq_true, if_false, Traced.value_bind, Traced.value_pure,
      progressing_finishLoad]
    cases hprogressing : b.messenger.progressing <;> simp [Messenger.progress, hprogressing]

theorem indicatorUse_startLoad (sequence : Fin 1001) (target : String) (o : BindOptions)
    (request : PagedRequest) (turn : Option PageTurn) :
    IndicatorUse b.messenger.progressing
      (indicatorCalls (b.startLoad sequence target o request turn).events)
      (b.startLoad sequence target o request turn).value.1.messenger.progressing := by
  rw [indicatorCalls_startLoad, progressing_startLoad]
  cases b.messenger.progressing with
  | true => exact .keeps true
  | false =>
    cases b.session.isCurrent b.client.state with
    | true => exact .takes
    | false => exact .flashes

/-- An operation that plans a load uses the indicator as the load does; any other leaves it alone. -/
theorem indicatorCalls_start (sequence : Fin 1001) (o : Operation) :
    indicatorCalls (b.start sequence o).events =
      match (b.plan o).2 with
      | .error _ => []
      | .ok _ =>
        if b.messenger.progressing then []
        else if b.session.isCurrent b.client.state then [.shown] else [.shown, .closed] := by
  obtain ⟨ns, hstart⟩ := b.exists_start_eq sequence o
  have hframe := b.plan_frame o
  rw [hstart, Traced.events_bind, indicatorCalls_append, indicatorCalls_notices, List.nil_append]
  generalize b.plan o = planning at hframe ⊢
  obtain ⟨b', planned⟩ := planning
  cases planned with
  | error e => rfl
  | ok p =>
    refine (b'.indicatorCalls_startLoad sequence p.target p.options p.request p.turn).trans ?_
    dsimp only at hframe
    rw [hframe]

theorem indicatorUse_start (sequence : Fin 1001) (o : Operation) :
    IndicatorUse b.messenger.progressing (indicatorCalls (b.start sequence o).events)
      (b.start sequence o).value.1.messenger.progressing := by
  obtain ⟨ns, hstart⟩ := b.exists_start_eq sequence o
  rw [hstart, Traced.events_bind, Traced.value_bind, indicatorCalls_append, indicatorCalls_notices,
    List.nil_append, ← b.messenger_plan o]
  obtain ⟨b', planned⟩ := b.plan o
  cases planned with
  | error e => exact .keeps _
  | ok p => exact b'.indicatorUse_startLoad sequence p.target p.options p.request p.turn

theorem indicatorCalls_finish (l : Load) (answer : Answer) :
    indicatorCalls (b.finish l answer).events = if l.showing then [.closed] else [] := by
  unfold finish
  rw [noticing_bind, Traced.events_bind, indicatorCalls_append, indicatorCalls_notices,
    List.nil_append, indicatorCalls_finishLoad]

theorem indicatorUse_finish (l : Load) (answer : Answer) :
    IndicatorUse b.messenger.progressing (indicatorCalls (b.finish l answer).events)
      (b.finish l answer).value.1.messenger.progressing := by
  unfold finish
  rw [noticing_bind, Traced.events_bind, Traced.value_bind, indicatorCalls_append,
    indicatorCalls_notices, List.nil_append]
  exact b.indicatorUse_finishLoad l _

end Parts

/-! ## Runs -/

namespace World

/-- Whether a load has the indicator, as the binder sees it. -/
def taken (w : World) : Bool := w.binder.messenger.progressing

/-- **What an event does to the indicator.** A new operation of the user takes it from whoever has it,
without a call; any other event uses it as a load does. -/
theorem step_indicatorUse (w : World) (e : Event) :
    (e = .beginOperation ∧ indicatorCalls (w.step e).events = [] ∧
      (w.step e).value.taken = false) ∨
    IndicatorUse w.taken (indicatorCalls (w.step e).events) (w.step e).value.taken := by
  cases e with
  | beginOperation => exact .inl ⟨rfl, rfl, rfl⟩
  | loginState state => exact .inr (.keeps _)
  | sinkFault fault => exact .inr (.keeps _)
  | register pager target o conditions =>
    refine .inr ?_
    simp only [step, noticing_bind, Traced.events_bind, Traced.value_bind, indicatorCalls_append,
      indicatorCalls_notices, List.nil_append]
    cases (w.binder.prepare o conditions).value with
    | error e => exact .keeps _
    | ok request => exact .keeps _
  | registered i =>
    refine .inr ?_
    simp only [step]
    cases w.registering[i]? with
    | none => exact .keeps _
    | some p => exact .keeps _
  | start sequence o =>
    refine .inr ?_
    have h := w.binder.indicatorUse_start sequence o
    rw [← w.binder_afterStart] at h
    simp only [step, Traced.events_bind, Traced.value_bind, Traced.events_pure, Traced.value_pure,
      List.append_nil]
    exact h
  | answer i answer =>
    refine .inr ?_
    simp only [step]
    cases w.waiting[i]? with
    | none => exact .keeps _
    | some l =>
      simp only [Traced.events_bind, Traced.value_bind, Traced.events_pure, Traced.value_pure,
        List.append_nil]
      exact w.binder.indicatorUse_finish l answer

/-- The calls of one event never put the indicator up twice in a row. -/
theorem isChain_step (w : World) (e : Event) :
    (indicatorCalls (w.step e).events).IsChain fun c d => c = .shown → d = .closed := by
  rcases w.step_indicatorUse e with ⟨-, hcalls, -⟩ | huse
  · rw [hcalls]
    exact .nil
  · generalize indicatorCalls (w.step e).events = calls at huse ⊢
    generalize (w.step e).value.taken = after at huse
    generalize w.taken = taken at huse
    cases huse with
    | keeps => exact .nil
    | takes => exact .singleton _
    | flashes => exact .cons_cons (fun _ => rfl) (.singleton _)
    | gives => exact .singleton _

/-- An operation starts its load: its options compile, or its pager is bound. -/
def StartsLoad (w : World) (e : Event) : Prop :=
  ∃ sequence o p, e = .start sequence o ∧ (w.binder.plan o).2 = .ok p

/-- Beside operations only answers may call. -/
theorem indicatorCalls_step (w : World) (e : Event) :
    indicatorCalls (w.step e).events =
      match e with
      | .start sequence o => indicatorCalls (w.binder.start sequence o).events
      | .answer i _ =>
        match w.waiting[i]? with
        | none => []
        | some l => if l.showing then [.closed] else []
      | _ => [] := by
  cases e with
  | beginOperation => rfl
  | loginState state => rfl
  | sinkFault fault => rfl
  | register pager target o conditions =>
    simp only [step, noticing_bind, Traced.events_bind, indicatorCalls_append,
      indicatorCalls_notices, List.nil_append]
    cases (w.binder.prepare o conditions).value with
    | error e => rfl
    | ok request => rfl
  | registered i =>
    simp only [step]
    cases w.registering[i]? with
    | none => rfl
    | some p => rfl
  | start sequence o =>
    simp only [step, Traced.events_bind, Traced.events_pure, List.append_nil]
  | answer i answer =>
    simp only [step]
    cases w.waiting[i]? with
    | none => rfl
    | some l =>
      simp only [Traced.events_bind, Traced.events_pure, List.append_nil, indicatorCalls_finish]

/-- What is no operation never puts the indicator up. -/
theorem head?_ne_shown (w : World) {e : Event} (h : ∀ sequence o, e ≠ .start sequence o) :
    (indicatorCalls (w.step e).events).head? ≠ some .shown := by
  have hsilent : ([] : List IndicatorCall).head? ≠ some .shown := by decide
  have hcloses : [IndicatorCall.closed].head? ≠ some .shown := by decide
  rw [indicatorCalls_step]
  cases e with
  | start sequence o => exact absurd rfl (h sequence o)
  | answer i answer =>
    dsimp only
    cases w.waiting[i]? with
    | none => exact hsilent
    | some l =>
      dsimp only
      cases l.showing with
      | true => exact hcloses
      | false => exact hsilent
  | _ => exact hsilent

theorem head?_start_eq_shown_iff (w : World) (sequence : Fin 1001) (o : Operation) :
    (indicatorCalls (w.step (.start sequence o)).events).head? = some .shown ↔
      w.taken = false ∧ ∃ p, (w.binder.plan o).2 = .ok p := by
  rw [indicatorCalls_step, taken]
  dsimp only
  rw [indicatorCalls_start]
  cases (w.binder.plan o).2 with
  | error reason =>
    refine iff_of_false (fun h => by cases h) ?_
    rintro ⟨-, p, hp⟩
    cases hp
  | ok p =>
    cases w.binder.messenger.progressing with
    | true => exact iff_of_false (fun h => by cases h) fun h => by cases h.1
    | false =>
      refine iff_of_true ?_ ⟨rfl, p, rfl⟩
      cases w.binder.session.isCurrent w.binder.client.state with
      | true => rfl
      | false => rfl

/-- **Only a load puts the indicator up**, and only if it is free. -/
theorem head?_eq_shown_iff (w : World) (e : Event) :
    (indicatorCalls (w.step e).events).head? = some .shown ↔ w.taken = false ∧ w.StartsLoad e := by
  constructor
  · intro h
    by_cases hstart : ∃ sequence o, e = .start sequence o
    · obtain ⟨sequence, o, rfl⟩ := hstart
      obtain ⟨hfree, p, hp⟩ := (w.head?_start_eq_shown_iff sequence o).1 h
      exact ⟨hfree, sequence, o, p, rfl, hp⟩
    · exact absurd h (w.head?_ne_shown fun sequence o heq => hstart ⟨sequence, o, heq⟩)
  · rintro ⟨hfree, sequence, o, p, rfl, hp⟩
    exact (w.head?_start_eq_shown_iff sequence o).2 ⟨hfree, p, hp⟩

/-- The calls of a run that put the indicator up or down. -/
def calls (w : World) (es : List Event) : List IndicatorCall := indicatorCalls (w.run es).events

theorem calls_append (w : World) (es es' : List Event) :
    w.calls (es ++ es') = w.calls es ++ (w.run es).value.calls es' := by
  rw [calls, run_append, Traced.events_bind, indicatorCalls_append]
  rfl

theorem calls_cons (w : World) (e : Event) (es : List Event) :
    w.calls (e :: es) = indicatorCalls (w.step e).events ++ (w.step e).value.calls es := by
  rw [calls, run_cons, Traced.events_bind, indicatorCalls_append]
  rfl

theorem calls_concat (w : World) (es : List Event) (e : Event) :
    w.calls (es ++ [e]) = w.calls es ++ indicatorCalls ((w.run es).value.step e).events := by
  rw [calls, run_concat, Traced.events_bind, indicatorCalls_append]
  rfl

theorem calls_nil (w : World) : w.calls [] = [] := rfl

end World

/-- The indicator is never put up twice without being put down in between. -/
def NeverTwice (calls : List IndicatorCall) : Prop :=
  ∀ before between after,
    calls = before ++ .shown :: (between ++ .shown :: after) → .closed ∈ between

/-- There are only two calls, so it is enough to look at neighbours. -/
theorem neverTwice_iff_isChain (calls : List IndicatorCall) :
    NeverTwice calls ↔ calls.IsChain fun c d => c = .shown → d = .closed := by
  rw [List.isChain_iff_forall_rel_of_append_cons_cons]
  constructor
  · intro h c d before after heq hc
    cases d with
    | closed => rfl
    | shown =>
      rw [hc] at heq
      cases h before [] after heq
  · intro h before between after heq
    cases between with
    | nil => cases h heq rfl
    | cons d between => rw [h heq rfl]; exact List.mem_cons_self

namespace World

variable {w : World}

/-- While nobody has the indicator that the user still sees, a new operation has taken it away, and no
call came since. -/
theorem exists_beginOperation {es : List Event} (hlast : (w.calls es).getLast? = some .shown)
    (hfree : (w.run es).value.taken = false) :
    ∃ early late, es = early ++ .beginOperation :: late ∧ w.calls early = w.calls es := by
  induction es using List.reverseRecOn with
  | nil =>
    rw [calls_nil] at hlast
    cases hlast
  | append_singleton es e ih =>
    rw [run_concat, Traced.value_bind] at hfree
    rw [calls_concat] at hlast ⊢
    rcases (w.run es).value.step_indicatorUse e with ⟨rfl, hcalls, -⟩ | huse
    · refine ⟨es, [], rfl, ?_⟩
      rw [hcalls, List.append_nil]
    · generalize indicatorCalls ((w.run es).value.step e).events = calls at hlast huse ⊢
      rw [hfree] at huse
      generalize htaken : (w.run es).value.taken = taken at huse
      cases huse with
      | keeps =>
        -- nothing was called, so what was seen last was seen before this event
        rw [List.append_nil] at hlast ⊢
        obtain ⟨early, late, rfl, hearly⟩ := ih hlast htaken
        exact ⟨early, late ++ [e], by rw [List.append_assoc, List.cons_append], hearly⟩
      | flashes => simp at hlast
      | gives => simp at hlast

/-- Without a call the indicator stays free. -/
theorem taken_of_calls_eq_nil {es : List Event} (hfree : w.taken = false)
    (hsilent : w.calls es = []) : (w.run es).value.taken = false := by
  induction es generalizing w with
  | nil => exact hfree
  | cons e es ih =>
    rw [calls_cons, List.append_eq_nil_iff] at hsilent
    rw [run_cons, Traced.value_bind]
    refine ih ?_ hsilent.2
    rcases w.step_indicatorUse e with ⟨-, -, hafter⟩ | huse
    · exact hafter
    · rw [hsilent.1, hfree] at huse
      generalize (w.step e).value.taken = after at huse ⊢
      cases huse with
      | keeps => rfl

/-- A new operation of the user finds the indicator up, and a load starts before any call puts it
down. -/
def StartsWhileUp (w : World) (es : List Event) : Prop :=
  ∃ early middle e late, es = early ++ .beginOperation :: (middle ++ e :: late) ∧
    (w.calls early).getLast? = some .shown ∧
    w.calls (early ++ .beginOperation :: middle) = w.calls early ∧
    (w.run (early ++ .beginOperation :: middle)).value.StartsLoad e

theorem StartsWhileUp.concat {es : List Event} (h : w.StartsWhileUp es) (e : Event) :
    w.StartsWhileUp (es ++ [e]) := by
  obtain ⟨early, middle, e', late, rfl, hlast, hsilent, hstarts⟩ := h
  refine ⟨early, middle, e', late ++ [e], ?_, hlast, hsilent, hstarts⟩
  simp only [List.append_assoc, List.cons_append]

/-- The load that starts while the indicator is up puts it up a second time. -/
theorem StartsWhileUp.not_isChain {es : List Event} (h : w.StartsWhileUp es) :
    ¬ (w.calls es).IsChain fun c d => c = .shown → d = .closed := by
  obtain ⟨early, middle, e, late, rfl, hlast, hsilent, hstarts⟩ := h
  -- the new operation has freed it, and it stays free since nobody calls
  have hfree : (w.run (early ++ .beginOperation :: middle)).value.taken = false := by
    rw [calls_append, List.append_right_eq_self, calls_cons, List.append_eq_nil_iff] at hsilent
    rw [run_append, Traced.value_bind, run_cons, Traced.value_bind]
    exact taken_of_calls_eq_nil rfl hsilent.2
  have hhead := (head?_eq_shown_iff _ e).2 ⟨hfree, hstarts⟩
  intro hchain
  rw [← List.cons_append, ← List.append_assoc, calls_append, hsilent, calls_cons,
    List.isChain_append] at hchain
  cases hchain.2.2 _ hlast _ (List.mem_head?_append_of_mem_head? hhead) rfl

/-- **The indicator is put up twice in a row** exactly if a new operation of the user finds it up and a
load starts before it is put down. -/
theorem neverTwice_iff (w : World) (es : List Event) :
    NeverTwice (w.calls es) ↔ ¬ w.StartsWhileUp es := by
  rw [neverTwice_iff_isChain]
  constructor
  · intro hchain hstarts
    exact hstarts.not_isChain hchain
  · intro hnot
    induction es using List.reverseRecOn with
    | nil => exact .nil
    | append_singleton es e ih =>
      have hchain := ih fun h => hnot (h.concat e)
      rw [calls_concat, List.isChain_append]
      refine ⟨hchain, (w.run es).value.isChain_step e, ?_⟩
      rintro c hc d hd rfl
      cases d with
      | closed => rfl
      | shown =>
        -- the indicator is seen but free, so some new operation freed it
        obtain ⟨hfree, hstarts⟩ := (head?_eq_shown_iff _ e).1 hd
        obtain ⟨early, middle, rfl, hearly⟩ := exists_beginOperation hc hfree
        refine absurd ⟨early, middle, e, [], ?_, hearly ▸ hc, hearly.symm, hstarts⟩ hnot
        simp only [List.append_assoc, List.cons_append]

/-- The target and the options of a grid. -/
def rolesOfUsers : Operation := .grid "rows" { BindOptions.empty with semanticKey := some "roles.ez" } []

/-- **A new operation of the user while a load is outstanding** lets the next load put the indicator up a
second time. -/
theorem not_forall_neverTwice :
    ¬ ∀ (c : Client) (s : Session) (handlers : Handlers) (ambient : Pool) (es : List Event),
      NeverTwice ((init c s handlers ambient).calls es) := by
  intro hall
  have h := hall ⟨.standard, .loggedIn ⟨"ss-01", "admin", []⟩⟩ (.ofInfo ⟨"ss-01", "admin", []⟩) [] []
    [.start 0 rolesOfUsers, .beginOperation, .start 1 rolesOfUsers]
  exact absurd (h [] [] [] (by rfl)) List.not_mem_nil

end World
end Binder
end SemanticClient
