import SemanticClient.Proofs.Binding.Sequential

/-!
# Calls that the user interface refuses

A user interface may refuse any of its calls, each for a reason of its own and differently from one time to
the next. A call that is refused is noted in the log and was made all the same, so nothing else depends on
it.

* `value_run_withFault`, `visible_run_withFault`: an operation, whatever is refused.
* `acts_withFault`: a sequential run, whatever is refused and however that changes.
-/

namespace SemanticClient.Binder

/-- Whether an act is about the calls that the user interface refuses. -/
def Act.isFault : Act → Bool
  | .sinkFault _ => true
  | _ => false

/-- The same binder with a user interface that refuses these calls. -/
def withFault (b : Binder) (fault : Option SinkFault) : Binder := { b with sinkFault := fault }

section Parts

variable (b : Binder) (fault : Option SinkFault)

theorem plan_withFault (o : Operation) :
    (b.withFault fault).plan o = ((b.plan o).1.withFault fault, (b.plan o).2) := by
  cases o with
  | grid target o conditions =>
    have hprepare : (b.withFault fault).prepare o conditions = b.prepare o conditions := rfl
    simp only [plan, hprepare]
    cases (b.prepare o conditions).value with
    | error e => rfl
    | ok request => rfl
  | select t =>
    have hbound : (b.withFault fault).bound = b.bound := rfl
    simp only [plan, hbound]
    cases Keyed.get? b.bound t.pager with
    | none => rfl
    | some p => rfl
  | bind pager target o conditions =>
    have hprepare : (b.withFault fault).prepare o conditions = b.prepare o conditions := rfl
    simp only [plan, hprepare]
    cases (b.prepare o conditions).value with
    | error e => rfl
    | ok request => rfl

theorem value_closeProgress_withFault (l : Load) :
    ((b.withFault fault).closeProgress l).value = (b.closeProgress l).value.withFault fault := by
  rw [value_closeProgress, value_closeProgress]
  cases l.showing with
  | true => rfl
  | false => rfl

theorem value_turnPage_withFault (t : PageTurn) (total : Int64) :
    ((b.withFault fault).turnPage t total).value =
      ((b.turnPage t total).value.1.withFault fault, (b.turnPage t total).value.2) := by
  have hpagers : (b.withFault fault).pagers = b.pagers := rfl
  simp only [turnPage, hpagers]
  cases b.pagers.apply t.pager t.page t.size total with
  | error e => rfl
  | ok turned => rfl

theorem value_finishLoad_withFault (l : Load) (outcome : Outcome) :
    ((b.withFault fault).finishLoad l outcome).value =
      ((b.finishLoad l outcome).value.1.withFault fault, (b.finishLoad l outcome).value.2) := by
  cases outcome with
  | error e =>
    simp only [finishLoad, Traced.value_bind, Traced.value_pure, value_closeProgress_withFault,
      value_reportError]
    rfl
  | ok r =>
    simp only [finishLoad, showLoaded, Traced.value_bind, value_closeProgress_withFault]
    cases l.turn with
    | none => rfl
    | some t =>
      simp only [Traced.value_bind, Traced.value_pure, value_turnPage_withFault]

theorem visible_finishLoad_withFault (l : Load) (outcome : Outcome) :
    visible ((b.withFault fault).finishLoad l outcome).events =
      visible (b.finishLoad l outcome).events := by
  cases outcome with
  | error e =>
    rw [visible_finishLoad_error, visible_finishLoad_error]
    rfl
  | ok r =>
    rw [visible_finishLoad_ok, visible_finishLoad_ok, visible_showLoaded, visible_showLoaded]
    rfl

theorem value_run_withFault (sequence : Fin 1001) (answer : Answer) (o : Operation) :
    ((b.withFault fault).run sequence answer o).value =
      ((b.run sequence answer o).value.1.withFault fault, (b.run sequence answer o).value.2) := by
  rw [value_run_eq, value_run_eq, plan_withFault]
  obtain ⟨b', planned⟩ := b.plan o
  cases planned with
  | error e => rfl
  | ok p => exact value_finishLoad_withFault b'.taking fault _ _

theorem visible_run_withFault (sequence : Fin 1001) (answer : Answer) (o : Operation) :
    visible ((b.withFault fault).run sequence answer o).events =
      visible (b.run sequence answer o).events := by
  rw [visible_run_eq, visible_run_eq, plan_withFault]
  obtain ⟨b', planned⟩ := b.plan o
  cases planned with
  | error e => rfl
  | ok p =>
    have hfinish := visible_finishLoad_withFault b'.taking fault (b'.planLoad sequence p)
      (b'.planOutcome sequence answer p)
    dsimp only
    rw [← hfinish]
    rfl

/-- An act does the same and is seen alike, whatever calls the user interface refuses. -/
theorem act_withFault {a : Act} (h : a.isFault = false) :
    ((b.withFault fault).act a).value = (b.act a).value.withFault fault ∧
      visible ((b.withFault fault).act a).events = visible (b.act a).events := by
  cases a with
  | beginOperation => exact ⟨rfl, rfl⟩
  | loginState state => exact ⟨rfl, rfl⟩
  | sinkFault fault => cases h
  | register pager target o conditions =>
    have hprepare : (b.withFault fault).prepare o conditions = b.prepare o conditions := rfl
    simp only [act, register, hprepare, noticing_bind, Traced.value_bind, Traced.events_bind]
    cases (b.prepare o conditions).value with
    | error e => exact ⟨rfl, rfl⟩
    | ok request => exact ⟨rfl, rfl⟩
  | load sequence answer o =>
    have hseen := b.visible_run_withFault fault sequence answer o
    simp only [act, Traced.value_bind, Traced.events_bind, Traced.value_pure, Traced.events_pure,
      List.append_nil, value_run_withFault, hseen, and_self]

end Parts

/-- **The calls that the user interface refuses make no difference**: acts do the same and are seen alike
without the acts that are about them. -/
theorem acts_withFault (b : Binder) (fault : Option SinkFault) (as : List Act) :
    (∃ fault', ((b.withFault fault).acts as).value =
      (b.acts (as.filter (!·.isFault))).value.withFault fault') ∧
    visible ((b.withFault fault).acts as).events = visible (b.acts (as.filter (!·.isFault))).events := by
  induction as generalizing b fault with
  | nil => exact ⟨⟨fault, rfl⟩, rfl⟩
  | cons a as ih =>
    cases ha : a.isFault with
    | true =>
      obtain ⟨fault', rfl⟩ : ∃ fault', a = .sinkFault fault' := by
        cases a with
        | sinkFault fault' => exact ⟨fault', rfl⟩
        | _ => cases ha
      exact ih b fault'
    | false =>
      obtain ⟨hvalue, hseen⟩ := b.act_withFault fault ha
      obtain ⟨⟨fault', hvalue'⟩, hseen'⟩ := ih (b.act a).value fault
      rw [List.filter_cons_of_pos (by rw [ha]; rfl), acts_cons, acts_cons]
      simp only [Traced.value_bind, Traced.events_bind, visible_append, hvalue, hseen, hvalue', hseen']
      exact ⟨⟨fault', rfl⟩, trivial⟩

end SemanticClient.Binder
