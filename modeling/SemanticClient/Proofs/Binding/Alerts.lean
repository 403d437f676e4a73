import Mathlib.Data.List.Induction
import SemanticClient.Proofs.Binding.Progress
import SemanticClient.Proofs.Binding.Visible

/-!
# Alerts

A messenger lets a failure alert the user if its code was not reported since it was last cleared. So
between two clearings a code alerts once. A binder clears its messenger when the user begins a new
operation, and not otherwise: of the loads that fail in between with one code, one alerts.

* `Messenger.isReported_performAll_iff`: what a messenger has noted, from the calls it got.
* `Messenger.countP_alerts_le`: the alerts for a code are counted by the clearings of the code.
* `Messenger.Reaches.isReported_iff`: what is noted until the next clearing.
* `Binder.World.reaches_run`: a run of a binder is a list of calls of its messenger.
* `alerts_onceACycle`: when a failure alerts, and how many alerts the user interface gets.
-/

namespace SemanticClient

/-- The alert that an effect is: the code of the failure, and the text. -/
def Effect.alert? : Effect → Option (Code × String)
  | .shown (.alert code text) => some (code, text)
  | _ => none

/-- The alerts among effects, in order. -/
def alerts (effects : List Effect) : List (Code × String) := effects.filterMap Effect.alert?

theorem alerts_append (es es' : List Effect) : alerts (es ++ es') = alerts es ++ alerts es' :=
  List.filterMap_append

theorem alerts_visible (effects : List Effect) : alerts (visible effects) = alerts effects :=
  filterMap_visible (fun _ => rfl) effects

namespace Messenger

/-! ## Histories of a messenger -/

/-- A call that changes a messenger. -/
inductive Call where
  | report (e : DispatchError)
  | clear (code : Code)
  | clearAll
  | progress
  | close
  | setMessage (name text : String)

namespace Call

/-- Whether a call reports a failure with a code. -/
def reports (code : Code) : Call → Bool
  | report e => e.code = code
  | _ => false

/-- Whether a call clears a code. -/
def clears (code : Code) : Call → Bool
  | clear c => c = code
  | clearAll => true
  | _ => false

end Call

/-- A call, with the alert that it asks for. -/
def perform (m : Messenger) : Call → Traced (Code × String) Messenger
  | .report e =>
    ⟨(m.report e).value.1, ((m.report e).value.2.map fun text => (e.code, text)).toList⟩
  | .clear c => pure (m.clear c)
  | .clearAll => pure m.clearAll
  | .progress => pure m.progress.1
  | .close => pure m.close
  | .setMessage name text => pure (m.setMessage name text)

/-- Calls, one after the other. -/
def performAll (m : Messenger) (calls : List Call) : Traced (Code × String) Messenger :=
  calls.foldlM perform m

theorem performAll_cons (m : Messenger) (call : Call) (calls : List Call) :
    m.performAll (call :: calls) = (do (← m.perform call).performAll calls) := List.foldlM_cons

theorem performAll_append (m : Messenger) (calls calls' : List Call) :
    m.performAll (calls ++ calls') = (do (← m.performAll calls).performAll calls') :=
  List.foldlM_append

theorem performAll_singleton (m : Messenger) (call : Call) :
    m.performAll [call] = m.perform call := by
  rw [performAll_cons]
  exact bind_pure _

theorem isReported_report (m : Messenger) (e : DispatchError) (code : Code) :
    (m.report e).value.1.isReported code ↔ m.isReported code ∨ e.code = code := by
  unfold report
  by_cases hreported : m.isReported e.code
  · rw [if_pos hreported]
    refine ⟨Or.inl, fun h => h.elim id fun hcode => ?_⟩
    rw [← hcode]
    exact hreported
  · rw [if_neg hreported]
    show (e.code :: m.reported).contains code ↔ _
    rw [List.contains_cons, Bool.or_eq_true, beq_iff_eq, or_comm]
    exact or_congr Iff.rfl eq_comm

theorem isReported_clear (m : Messenger) (c code : Code) :
    (m.clear c).isReported code ↔ m.isReported code ∧ c ≠ code := by
  unfold isReported clear
  rw [List.contains_iff_mem, List.contains_iff_mem, List.mem_filter, bne_iff_ne]
  exact and_congr Iff.rfl ne_comm

/-- **What a call does to the note of a code.** -/
theorem isReported_perform (m : Messenger) (call : Call) (code : Code) :
    (m.perform call).value.isReported code ↔
      m.isReported code ∧ call.clears code = false ∨ call.reports code := by
  -- a call that neither reports nor clears
  have hkeeps : m.isReported code ↔ m.isReported code ∧ false = false ∨ false = true := by simp
  cases call with
  | report e =>
    refine (m.isReported_report e code).trans (or_congr ?_ ?_)
    · exact (and_iff_left rfl).symm
    · exact decide_eq_true_iff.symm
  | clear c =>
    refine (m.isReported_clear c code).trans ?_
    show _ ↔ _ ∧ decide (c = code) = false ∨ false = true
    rw [decide_eq_false_iff_not, or_iff_left Bool.false_ne_true]
  | clearAll => exact iff_of_false Bool.false_ne_true (by simp [Call.clears, Call.reports])
  | progress => exact hkeeps
  | close => exact hkeeps
  | setMessage name text => exact hkeeps

/-- A code was reported and not cleared since. -/
def Reported (calls : List Call) (code : Code) : Prop :=
  ∃ early e late, calls = early ++ .report e :: late ∧ e.code = code ∧
    ∀ call ∈ late, call.clears code = false

theorem reported_concat (calls : List Call) (call : Call) (code : Code) :
    Reported (calls ++ [call]) code ↔
      Reported calls code ∧ call.clears code = false ∨ call.reports code := by
  constructor
  · rintro ⟨early, e, late, hcalls, hcode, hlate⟩
    -- the report is the last call, or the last call comes after it
    rcases late.eq_nil_or_concat' with rfl | ⟨late, last, rfl⟩
    · obtain ⟨-, hcall⟩ := List.append_inj' hcalls rfl
      obtain rfl := List.singleton_inj.1 hcall
      exact .inr (decide_eq_true hcode)
    · rw [← List.cons_append, ← List.append_assoc] at hcalls
      obtain ⟨rfl, hlast⟩ := List.append_inj' hcalls rfl
      obtain rfl := List.singleton_inj.1 hlast
      refine .inl ⟨⟨early, e, late, rfl, hcode, fun c hc => ?_⟩, ?_⟩
      · exact hlate c (List.mem_append_left _ hc)
      · exact hlate call (List.mem_append_right _ (List.mem_singleton_self _))
  · rintro (⟨⟨early, e, late, rfl, hcode, hlate⟩, hcall⟩ | hcall)
    · refine ⟨early, e, late ++ [call], List.append_assoc _ _ _, hcode, fun c hc => ?_⟩
      rcases List.mem_append.1 hc with hold | hnew
      · exact hlate c hold
      · rw [List.mem_singleton.1 hnew]
        exact hcall
    · cases call with
      | report e => exact ⟨calls, e, [], rfl, of_decide_eq_true hcall, fun c hc => by cases hc⟩
      | _ => cases hcall

/-- **What a messenger has noted**: the codes that were reported and not cleared since. -/
theorem isReported_performAll_iff (calls : List Call) (code : Code) :
    (initial.performAll calls).value.isReported code ↔ Reported calls code := by
  induction calls using List.reverseRecOn with
  | nil =>
    refine iff_of_false Bool.false_ne_true ?_
    rintro ⟨early, e, late, hcalls, -, -⟩
    cases early <;> cases hcalls
  | append_singleton calls call ih =>
    rw [performAll_append, Traced.value_bind, performAll_singleton, isReported_perform, ih,
      reported_concat]

theorem report_alert (m : Messenger) (e : DispatchError) :
    (m.report e).value.2 = if m.isReported e.code then none else some (alertText e) := by
  unfold report
  by_cases hreported : m.isReported e.code
  · rw [if_pos hreported, if_pos hreported]
    rfl
  · rw [if_neg hreported, if_neg hreported]
    rfl

/-- A call alerts for a code if it reports the code and the code was not noted before. -/
theorem countP_alerts_perform (m : Messenger) (call : Call) (code : Code) :
    (m.perform call).events.countP (fun a => a.1 = code) =
      (call.reports code && !m.isReported code).toNat := by
  cases call with
  | report e =>
    show ((m.report e).value.2.map fun text => (e.code, text)).toList.countP _ =
      (decide (e.code = code) && _).toNat
    rw [report_alert]
    by_cases hcode : e.code = code
    · rw [hcode]
      cases hreported : m.isReported code with
      | true => simp
      | false => simp
    · cases m.isReported e.code with
      | true => simp [hcode]
      | false => simp [hcode]
  | _ => rfl

/-- What a call takes from the note of a code it clears, and what it alerts for it notes. -/
theorem countP_alerts_perform_le (m : Messenger) (call : Call) (code : Code) :
    (m.perform call).events.countP (fun a => a.1 = code) + (m.isReported code).toNat ≤
      (call.clears code).toNat + ((m.perform call).value.isReported code).toNat := by
  have hafter := m.isReported_perform call code
  rw [countP_alerts_perform]
  cases hbefore : m.isReported code with
  | true =>
    cases hclears : call.clears code with
    | true => simp
    | false => simp [hafter.2 (.inl ⟨hbefore, hclears⟩)]
  | false =>
    cases hreports : call.reports code with
    | true => simp [hafter.2 (.inr hreports)]
    | false => simp

/-- **Alerts for a code** are counted by the clearings of the code. -/
theorem countP_alerts_le (m : Messenger) (calls : List Call) (code : Code) :
    (m.performAll calls).events.countP (fun a => a.1 = code) + (m.isReported code).toNat ≤
      calls.countP (Call.clears code) + ((m.performAll calls).value.isReported code).toNat := by
  induction calls generalizing m with
  | nil => exact Nat.le_refl _
  | cons call calls ih =>
    have hcall := m.countP_alerts_perform_le call code
    have hcalls := ih (m.perform call).value
    rw [performAll_cons, Traced.events_bind, Traced.value_bind, List.countP_append, List.countP_cons]
    cases hclears : call.clears code with
    | true =>
      rw [hclears] at hcall
      simp only [Bool.toNat_true, if_true] at hcall ⊢
      omega
    | false =>
      rw [hclears] at hcall
      simp only [Bool.toNat_false, Bool.false_eq_true, if_false] at hcall ⊢
      omega

/-- Calls that clear each code so often make a messenger another one, with these alerts on the way. -/
def Reaches (m m' : Messenger) (cleared : Nat) (as : List (Code × String)) : Prop :=
  ∃ calls, (∀ code, calls.countP (Call.clears code) = cleared) ∧ m.performAll calls = ⟨m', as⟩

theorem Reaches.refl (m : Messenger) : m.Reaches m 0 [] := ⟨[], fun _ => rfl, rfl⟩

theorem Reaches.trans {m m' m'' : Messenger} {n n' : Nat} {as as' : List (Code × String)}
    (h : m.Reaches m' n as) (h' : m'.Reaches m'' n' as') : m.Reaches m'' (n + n') (as ++ as') := by
  obtain ⟨calls, hcleared, hcalls⟩ := h
  obtain ⟨calls', hcleared', hcalls'⟩ := h'
  refine ⟨calls ++ calls', fun code => ?_, ?_⟩
  · rw [List.countP_append, hcleared, hcleared']
  · rw [performAll_append, hcalls]
    refine Traced.ext ?_ ?_
    · rw [Traced.value_bind, hcalls']
    · rw [Traced.events_bind, hcalls']

theorem reaches_perform (m : Messenger) (call : Call) {n : Nat}
    (h : ∀ code, (call.clears code).toNat = n) :
    m.Reaches (m.perform call).value n (m.perform call).events := by
  refine ⟨[call], fun code => ?_, m.performAll_singleton call⟩
  rw [← h code, List.countP_singleton]
  cases call.clears code with
  | true => rfl
  | false => rfl

/-- **A code alerts at most once more than it is cleared.** -/
theorem Reaches.countP_le {m : Messenger} {n : Nat} {as : List (Code × String)}
    (h : initial.Reaches m n as) (code : Code) : as.countP (fun a => a.1 = code) ≤ n + 1 := by
  obtain ⟨calls, hcleared, hcalls⟩ := h
  have hcount := initial.countP_alerts_le calls code
  rw [hcalls, hcleared] at hcount
  have hlast := Bool.toNat_le (m.isReported code)
  dsimp only at hcount
  omega

/-- A call asks for an alert for a code if it reports the code and the code was not noted before. -/
theorem exists_mem_alerts_perform_iff (m : Messenger) (call : Call) (code : Code) :
    (∃ text, (code, text) ∈ (m.perform call).events) ↔
      call.reports code = true ∧ m.isReported code = false := by
  have hcount := m.countP_alerts_perform call code
  have hpos : (∃ text, (code, text) ∈ (m.perform call).events) ↔
      0 < (m.perform call).events.countP (fun a => a.1 = code) := by
    rw [List.countP_pos_iff]
    constructor
    · rintro ⟨text, hmem⟩
      exact ⟨_, hmem, decide_eq_true rfl⟩
    · rintro ⟨⟨code', text⟩, hmem, hcode⟩
      obtain rfl : code' = code := of_decide_eq_true hcode
      exact ⟨text, hmem⟩
  rw [hpos, hcount]
  cases call.reports code with
  | true => cases m.isReported code <;> simp
  | false => simp

/-- **Until a code is cleared** it is noted if it was before, or an alert was asked for it. -/
theorem isReported_performAll_of_not_clears {m : Messenger} {calls : List Call} {code : Code}
    (h : ∀ call ∈ calls, call.clears code = false) :
    (m.performAll calls).value.isReported code ↔
      m.isReported code ∨ ∃ text, (code, text) ∈ (m.performAll calls).events := by
  induction calls generalizing m with
  | nil => exact (or_iff_left fun ⟨text, hmem⟩ => absurd hmem List.not_mem_nil).symm
  | cons call calls ih =>
    obtain ⟨hcall, hcalls⟩ := List.forall_mem_cons.1 h
    rw [performAll_cons, Traced.value_bind, Traced.events_bind, ih hcalls, isReported_perform, hcall,
      and_iff_left rfl, or_assoc]
    have hhere := m.exists_mem_alerts_perform_iff call code
    simp only [List.mem_append, exists_or, hhere]
    cases m.isReported code with
    | true => simp
    | false => simp

/-- **What is noted until the next clearing**: what was before, and what was alerted. -/
theorem Reaches.isReported_iff {m m' : Messenger} {as : List (Code × String)} (h : m.Reaches m' 0 as)
    (code : Code) : m'.isReported code ↔ m.isReported code ∨ ∃ text, (code, text) ∈ as := by
  obtain ⟨calls, hcleared, hcalls⟩ := h
  have hkept : ∀ call ∈ calls, call.clears code = false := fun call hcall =>
    Bool.eq_false_iff.2 (List.countP_eq_zero.1 (hcleared code) call hcall)
  have hiff := isReported_performAll_of_not_clears (m := m) hkept
  rwa [hcalls] at hiff

end Messenger

namespace Binder

/-! ## What the parts of an operation tell the messenger -/

section Parts

variable (b : Binder)

theorem reaches_takeProgress :
    b.messenger.Reaches b.takeProgress.value.1.messenger 0 (alerts b.takeProgress.events) := by
  have halerts : alerts b.takeProgress.events = [] := by
    rw [← alerts_visible, visible_takeProgress]
    cases b.messenger.progressing with
    | true => rfl
    | false => rfl
  rw [halerts, value_takeProgress]
  exact b.messenger.reaches_perform .progress fun _ => rfl

theorem reaches_closeProgress (l : Load) :
    b.messenger.Reaches (b.closeProgress l).value.messenger 0 (alerts (b.closeProgress l).events) := by
  rw [← alerts_visible, visible_closeProgress, value_closeProgress]
  cases l.showing with
  | true => exact b.messenger.reaches_perform .close fun _ => rfl
  | false => exact .refl _

theorem reaches_reportError (e : DispatchError) :
    b.messenger.Reaches (b.reportError e).value.messenger 0 (alerts (b.reportError e).events) := by
  have halerts : alerts (b.reportError e).events = (b.messenger.perform (.report e)).events := by
    rw [← alerts_visible, visible_reportError, Messenger.perform, Messenger.report_alert, alertCall?]
    cases b.messenger.isReported e.code with
    | true => rfl
    | false => rfl
  rw [halerts, value_reportError]
  exact b.messenger.reaches_perform (.report e) fun _ => rfl

theorem alerts_showLoaded (l : Load) (r : Response) : alerts (b.showLoaded l r).events = [] := by
  rw [← alerts_visible, visible_showLoaded]
  refine List.filterMap_eq_nil_iff.2 fun effect heffect => ?_
  simp only [List.mem_cons, List.mem_append, List.mem_map, Option.mem_toList] at heffect
  rcases heffect with rfl | ⟨i, -, rfl⟩ | ⟨function, -, rfl⟩ | ⟨call, hcall, rfl⟩
  · rfl
  · rfl
  · rfl
  · obtain ⟨t, -, hturn⟩ := Option.bind_eq_some_iff.1 hcall
    obtain ⟨s, -, rfl⟩ := Option.map_eq_some_iff.1 hturn
    rfl

theorem reaches_finishLoad (l : Load) (outcome : Outcome) :
    b.messenger.Reaches (b.finishLoad l outcome).value.1.messenger 0
      (alerts (b.finishLoad l outcome).events) := by
  have hclose := b.reaches_closeProgress l
  unfold finishLoad
  rw [Traced.value_bind, Traced.events_bind, alerts_append]
  cases outcome with
  | ok r =>
    rw [messenger_showLoaded, alerts_showLoaded]
    exact hclose.trans (.refl _)
  | error e =>
    rw [Traced.value_bind, Traced.events_bind, Traced.events_pure, List.append_nil]
    exact hclose.trans (reaches_reportError _ e)

theorem alerts_notices (ns : List Notice) : alerts (notices ns).events = [] := by
  rw [← alerts_visible, visible_notices]
  rfl

theorem reaches_startLoad (sequence : Fin 1001) (target : String) (o : BindOptions)
    (request : PagedRequest) (turn : Option PageTurn) :
    b.messenger.Reaches (b.startLoad sequence target o request turn).value.1.messenger 0
      (alerts (b.startLoad sequence target o request turn).events) := by
  have htake := b.reaches_takeProgress
  rw [startLoad_eq, Traced.value_bind, Traced.events_bind, alerts_append]
  simp only [Traced.value_bind, Traced.events_bind, alerts_append, alerts_notices, List.nil_append]
  cases b.session.isCurrent b.client.state with
  | true => exact htake.trans (.refl _)
  | false =>
    -- the session refuses, and the load ends as if the answer were that failure
    simp only [Bool.false_eq_true, if_false, Traced.value_bind, Traced.events_bind, Traced.value_pure,
      Traced.events_pure, List.append_nil]
    exact htake.trans (reaches_finishLoad _ _ _)

theorem reaches_start (sequence : Fin 1001) (o : Operation) :
    b.messenger.Reaches (b.start sequence o).value.1.messenger 0
      (alerts (b.start sequence o).events) := by
  obtain ⟨ns, hstart⟩ := b.exists_start_eq sequence o
  rw [hstart, Traced.value_bind, Traced.events_bind, alerts_append, alerts_notices, List.nil_append,
    ← b.messenger_plan o]
  obtain ⟨b', planned⟩ := b.plan o
  cases planned with
  | error e => exact .refl _
  | ok p => exact b'.reaches_startLoad sequence p.target p.options p.request p.turn

theorem reaches_finish (l : Load) (answer : Answer) :
    b.messenger.Reaches (b.finish l answer).value.1.messenger 0
      (alerts (b.finish l answer).events) := by
  unfold finish
  rw [noticing_bind, Traced.value_bind, Traced.events_bind, alerts_append, alerts_notices,
    List.nil_append]
  exact b.reaches_finishLoad l _

end Parts

/-! ## Runs of a binder -/

/-- Whether an event begins a new operation of the user. -/
def Event.isBegin : Event → Bool
  | .beginOperation => true
  | _ => false

namespace World

/-- **A step** is some calls of the messenger, whose alerts it passes on. Only a new operation clears. -/
theorem reaches_step (w : World) (e : Event) :
    w.binder.messenger.Reaches (w.step e).value.binder.messenger e.isBegin.toNat
      (alerts (w.step e).events) := by
  cases e with
  | beginOperation => exact w.binder.messenger.reaches_perform .clearAll fun _ => rfl
  | loginState state => exact .refl _
  | sinkFault fault => exact .refl _
  | register pager target o conditions =>
    simp only [step, noticing_bind, Traced.value_bind, Traced.events_bind, alerts_append,
      alerts_notices, List.nil_append]
    cases (w.binder.prepare o conditions).value with
    | error e => exact .refl _
    | ok request => exact .refl _
  | registered i =>
    simp only [step]
    cases w.registering[i]? with
    | none => exact .refl _
    | some p => exact .refl _
  | start sequence o =>
    have h := w.binder.reaches_start sequence o
    rw [← w.binder_afterStart] at h
    simp only [step, Traced.events_bind, Traced.value_bind, Traced.events_pure, Traced.value_pure,
      List.append_nil]
    exact h
  | answer i answer =>
    simp only [step]
    cases w.waiting[i]? with
    | none => exact .refl _
    | some l =>
      simp only [Traced.events_bind, Traced.value_bind, Traced.events_pure, Traced.value_pure,
        List.append_nil]
      exact w.binder.reaches_finish l answer

/-- **A run** is some calls of the messenger, which clear each code as often as the user begins a new
operation. Its alerts are those that the calls ask for. -/
theorem reaches_run (w : World) (es : List Event) :
    w.binder.messenger.Reaches (w.run es).value.binder.messenger (es.countP Event.isBegin)
      (alerts (w.run es).events) := by
  induction es generalizing w with
  | nil => exact .refl _
  | cons e es ih =>
    have hcount : (e :: es).countP Event.isBegin = e.isBegin.toNat + es.countP Event.isBegin := by
      rw [List.countP_cons, Nat.add_comm]
      cases e.isBegin with
      | true => rfl
      | false => rfl
    rw [hcount, run_cons, Traced.value_bind, Traced.events_bind, alerts_append]
    exact (w.reaches_step e).trans (ih (w.step e).value)

end World
end Binder

/-- **One alert for a code between two clearings of it.** Whatever calls a messenger got, a failure alerts
exactly if its code was not reported since it was last cleared. So in a run of a binder the alerts for a
code are at most one more than the new operations that the user began. -/
theorem alerts_onceACycle :
    (∀ (calls : List Messenger.Call) (e : DispatchError) (text : String),
      ((Messenger.initial.performAll calls).value.report e).value.2 = some text ↔
        ¬ Messenger.Reported calls e.code ∧
        text = if e.code = .io then networkProblem else e.message) ∧
    ∀ (c : Client) (s : Session) (handlers : Handlers) (ambient : Pool) (es : List Binder.Event)
      (code : Code),
      (alerts ((Binder.World.init c s handlers ambient).run es).events).countP (fun a => a.1 = code) ≤
        es.countP Binder.Event.isBegin + 1 := by
  constructor
  · intro calls e text
    rw [Messenger.report_alert, ← Messenger.isReported_performAll_iff]
    cases (Messenger.initial.performAll calls).value.isReported e.code with
    | true => simp
    | false => simp [Messenger.alertText, eq_comm]
  · intro c s handlers ambient es code
    exact ((Binder.World.init c s handlers ambient).reaches_run es).countP_le code

end SemanticClient
