import SemanticClient.Proofs.Binding.Pages

/-!
# Binding a pager once more

The first binding of a pager loads the first page of what is bound. A pager that is bound once more gets
another request and other options, but it stays where it is: the binding loads the page that the pager was
at, with the page size that it had, and the pager keeps the query form of its first binding.

* `World.HasForm.run`: a pager never changes its query form.
* `World.loadsAt_of_binds`: a binding loads the page that its pager is at.
* `World.loadsAt_run`: which page that is, after any run.
-/

namespace SemanticClient

theorem PagingState.queryForm_after (s : PagingState) (d : Option Turned) :
    (s.after d).queryForm = s.queryForm := by
  cases d with
  | none => rfl
  | some d => rfl

/-- A page turn to where a pager is notes a new total. -/
theorem PagingState.after_self {s s' : PagingState} (h : s'.queryForm = s.queryForm) (pager : String)
    (total : Int64) : s'.after (some ⟨⟨pager, s.page, s.size⟩, total⟩) = { s with total := total } := by
  obtain ⟨form, total', page, size⟩ := s'
  obtain rfl : form = s.queryForm := h
  rfl

namespace Binder.World

/-! ## The query form of a pager -/

/-- A pager has a state with this query form. -/
def HasForm (w : World) (p : String) (form : Option String) : Prop :=
  (Keyed.get? w.binder.pagers p).map (·.queryForm) = some form

theorem HasForm.step {w : World} {p : String} {form : Option String} (h : w.HasForm p form)
    (e : Event) : (w.step e).value.HasForm p form := by
  obtain ⟨s, hs, hform⟩ := Option.map_eq_some_iff.1 h
  rw [HasForm, get?_pagers_step, hs, Option.some_or, Option.map_some, Option.map_some,
    PagingState.queryForm_after, hform]

theorem HasForm.run {w : World} {p : String} {form : Option String} (h : w.HasForm p form)
    (es : List Event) : (w.run es).value.HasForm p form := by
  induction es generalizing w with
  | nil => exact h
  | cons e es ih =>
    rw [run_cons, Traced.value_bind]
    exact ih (h.step e)

/-- An event that would give a pager its first state leaves it with the form that it had, if it had one. -/
theorem hasForm_of_firstState? {w : World} {e : Event} {pager : String} {o : BindOptions}
    (h : firstState? pager (w, e) = some (.initial o.queryForm o.rowsPerPage)) :
    (w.step e).value.HasForm pager (w.binder.bindState pager o).2.queryForm := by
  rw [HasForm, get?_pagers_step, h, snd_bindState]
  cases Keyed.get? w.binder.pagers pager with
  | none => exact congrArg some (PagingState.queryForm_after _ _)
  | some s => exact congrArg some (PagingState.queryForm_after _ _)

/-! ## What a binding loads -/

/-- A load that is for the place of a paging state. -/
structure LoadsAt (w : World) (operation : Operation) (s : PagingState) : Prop where
  /-- One request is sent, for that page. Whenever the answer comes, the operation ends with the answer's
  rows and total and that state, or with the failure. -/
  loads : w.binder.session.isCurrent w.binder.client.state = true → ∀ sequence, ∃ l x,
    (w.binder.start sequence operation).value.2 = .waiting l x ∧
    sendings (w.step (.start sequence operation)).events = [x] ∧ x.AsksFor s.page s.size ∧
    ∀ later w', ((w.step (.start sequence operation)).value.run later).value = w' →
      ∀ answer, (w'.binder.finish l answer).value.2 =
        (w'.outcome l answer).map fun r =>
          ⟨r.rows 0, r.total 0 0, some { s with total := r.total 0 0 }⟩
  /-- Once the session is over nothing is loaded. -/
  refused : w.binder.session.isCurrent w.binder.client.state = false → ∀ sequence,
    (w.binder.start sequence operation).value.2 = .ended (.error (.ofClient .notAuthenticated))

/-- A load is for one place only. -/
theorem LoadsAt.unique {w : World} {operation : Operation} {s s' : PagingState}
    (h : w.LoadsAt operation s) (h' : w.LoadsAt operation s')
    (hcurrent : w.binder.session.isCurrent w.binder.client.state = true) :
    s.page = s'.page ∧ s.size = s'.size := by
  obtain ⟨-, x, -, hsent, hasks, -⟩ := h.loads hcurrent 0
  obtain ⟨-, x', -, hsent', hasks', -⟩ := h'.loads hcurrent 0
  rw [hsent] at hsent'
  cases hsent'
  exact hasks.unique hasks'

/-- The load of a page turn is for the page of the turn, and its pager keeps its query form. -/
theorem loadsAt_of_plans {w : World} {operation : Operation} {p : Plan} {pager : String}
    {s : PagingState} (hplans : w.binder.Plans operation p)
    (hturn : p.turn = some ⟨pager, s.page, s.size⟩)
    (hform : ∀ sequence, (w.step (.start sequence operation)).value.HasForm pager s.queryForm) :
    w.LoadsAt operation s where
  loads := by
    intro hcurrent sequence
    obtain ⟨l, x, hstart, hsent, hasks⟩ := hplans.exists_waiting _ hcurrent sequence
    rw [hturn] at hasks
    refine ⟨l, x, hstart, ?_, hasks, ?_⟩
    · rw [sendings_step]
      exact hsent
    · rintro later w' rfl answer
      obtain ⟨p', hp', hl⟩ := w.binder.exists_plan_of_start hstart
      rw [w.binder.plan_eq_ok_iff.2 hplans] at hp'
      cases hp'
      obtain ⟨s', hs', hform'⟩ := Option.map_eq_some_iff.1 ((hform sequence).run later)
      rw [value_finish, value_finishLoad_of_turn _ (hl.trans hturn) hs']
      simp only [PagingState.after_self hform']
  refused := by
    intro hover sequence
    rw [value_snd_start, w.binder.plan_eq_ok_iff.2 hplans, hover]
    rfl

/-- **A binding of a pager** up to its load, and the load: in one step, or in the parts that it has. Then
anything may happen between the first half of the registration and the second, and before the load. In both
forms the options compile. -/
inductive Binds (w : World) (pager : String) (o : BindOptions) : List Event → Operation → Prop
  | whole {target : String} {conditions : List Condition} {request : PagedRequest}
    (compiles : (w.binder.prepare o conditions).value = .ok request) :
    Binds w pager o [] (.bind pager target o conditions)
  | parts {target : String} {conditions : List Condition} {request : PagedRequest}
    (between rest : List Event) (i : Nat)
    (compiles : (w.binder.prepare o conditions).value = .ok request)
    (ends : (w.run (.register pager target o conditions :: between)).value.registering[i]? =
      some (pager, ⟨target, o, request⟩)) :
    Binds w pager o (.register pager target o conditions :: between ++ .registered i :: rest)
      (.select ⟨pager, (w.binder.bindState pager o).2.page, (w.binder.bindState pager o).2.size⟩)

/-- **A binding loads the page that its pager is at**, as the binding finds it or makes it. What happens
while the binding is under way does not matter. -/
theorem loadsAt_of_binds {w : World} {pager : String} {o : BindOptions} {before : List Event}
    {operation : Operation} (h : w.Binds pager o before operation) :
    (w.run before).value.LoadsAt operation (w.binder.bindState pager o).2 := by
  cases h with
  | @whole target conditions request compiles =>
    show w.LoadsAt _ _
    refine loadsAt_of_plans (.bind compiles rfl) rfl fun sequence => hasForm_of_firstState? ?_
    simp only [firstState?, compiles, if_true]
  | @parts target conditions request between rest i compiles ends =>
    have hrequest : (w.run (.register pager target o conditions :: between ++
        .registered i :: rest)).value.HasRequest pager := by
      -- the second half gives the pager a request, and nothing takes it away again
      rw [run_append, Traced.value_bind, run_cons, Traced.value_bind]
      refine HasRequest.run ?_ rest
      rw [HasRequest, get?_bound_step]
      simp only [bound?, ends, if_true, Option.some_or, Option.isSome_some]
    have hform : (w.run (.register pager target o conditions :: between ++
        .registered i :: rest)).value.HasForm pager (w.binder.bindState pager o).2.queryForm := by
      -- the first half finds the query form, or sets it, and nothing changes it again
      rw [List.cons_append, run_cons, Traced.value_bind]
      refine HasForm.run (hasForm_of_firstState? ?_) _
      simp only [firstState?, compiles, if_true]
    obtain ⟨q, hq⟩ := Option.isSome_iff_exists.1 hrequest
    exact loadsAt_of_plans (.select hq) rfl fun sequence => hform.step _

/-- **Which page a binding loads**, after any run. If the run has not bound the pager, it is the first page
of what is bound: page zero with the page size of the options, and the pager has their query form. A pager
that the run has bound before stays where it is: at its last page turn that was confirmed, or at page zero
with the page size of its first binding, and with the query form of that one. -/
theorem loadsAt_run (c : Client) (s : Session) (handlers : Handlers) (ambient : Pool)
    (es : List Event) {pager : String} {o : BindOptions} {before : List Event} {operation : Operation}
    (h : ((init c s handlers ambient).run es).value.Binds pager o before operation) :
    ((init c s handlers ambient).firstState es pager = none →
      ((init c s handlers ambient).run (es ++ before)).value.LoadsAt operation
        (.initial o.queryForm o.rowsPerPage)) ∧
    ∀ first, (init c s handlers ambient).firstState es pager = some first →
      ((init c s handlers ambient).run (es ++ before)).value.LoadsAt operation
        (first.after ((init c s handlers ambient).lastTurn es pager)) := by
  have hloads := loadsAt_of_binds h
  have hstate := (pagers_run (tracked_init c s handlers ambient) rfl es pager).1
  rw [snd_bindState, hstate] at hloads
  rw [run_append, Traced.value_bind]
  constructor
  · intro hnone
    rwa [hnone] at hloads
  · intro first hfirst
    rwa [hfirst] at hloads

/-- The options of a pager on the users that have a role, with longer pages. -/
def longPages : BindOptions := { rolesOptions with pageSize := some 50, queryForm := some "search" }

/-- A pager is bound once more, with longer pages, while the user begins a new operation. -/
def rolesRebinding : List Event :=
  [.register "users" "users" longPages [], .beginOperation, .registered 0, .beginOperation]

theorem loadsAt_run_roles :
    ((init loggedInClient loggedInSession [] []).run
        ([.start 0 (.bind "users" "grid" rolesOptions [])] ++ rolesRebinding)).value.LoadsAt
      (.select ⟨"users", 0, 20⟩) ⟨none, 0, 0, 20⟩ := by
  have hbinds : ((init loggedInClient loggedInSession [] []).run
      [.start 0 (.bind "users" "grid" rolesOptions [])]).value.Binds "users" longPages rolesRebinding
        (.select ⟨"users", 0, 20⟩) :=
    .parts [.beginOperation] [.beginOperation] 0 (by rfl) (by rfl)
  exact (loadsAt_run _ _ _ _ _ hbinds).2 _ (by rfl)

/-- **A pager that is bound once more does not load the first page of what is bound**, if its pages had
another size before. -/
theorem not_forall_loadsAt_first :
    ¬ ∀ (c : Client) (s : Session) (handlers : Handlers) (ambient : Pool) (es : List Event)
      (pager : String) (o : BindOptions) (before : List Event) (operation : Operation),
      ((init c s handlers ambient).run es).value.Binds pager o before operation →
      ((init c s handlers ambient).run (es ++ before)).value.LoadsAt operation
        (.initial o.queryForm o.rowsPerPage) := by
  intro hall
  have hbinds : ((init loggedInClient loggedInSession [] []).run
      [.start 0 (.bind "users" "grid" rolesOptions [])]).value.Binds "users" longPages []
        (.bind "users" "grid" longPages []) :=
    .whole (by rfl)
  have hfirst := hall _ _ _ _ _ _ _ _ _ hbinds
  rw [run_append, Traced.value_bind] at hfirst
  obtain ⟨-, hsize⟩ := hfirst.unique (loadsAt_of_binds hbinds) (by rfl)
  -- the pager has kept the page size of its first binding
  have hkept : (50 : Int64) = 20 := hsize
  cases hkept

end Binder.World
end SemanticClient
