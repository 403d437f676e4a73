import SemanticClient.Proofs.Binding.Tables

/-!
# The pages that are asked for

The load of a grid asks for no page: its page and its page size are `-1`. The load of a pager asks for the
page of its turn, whatever that is. Binding checks the page size of its options, but a page turn is not
checked, so a request can ask for a page of no rows or for rows of no page.

* `Sending.asksFor_send`: what a request asks for can be read off what is sent.
* `Plans.asks`: an operation asks for the page of its turn.
* `World.Agreeing.step`: as long as no page turn goes astray, pagers stay at pages that can be asked for.
* `World.pagesAgree_iff`: when the pages and page sizes that a run asks for agree.
-/

namespace SemanticClient

/-! ## What a request asks for -/

/-- What a request selects. -/
def PagedRequest.select : PagedRequest → Select
  | .query q => q.select
  | .dataset d => d.select

theorem PagedRequest.select_setPage (r : PagedRequest) (size index : Int64) :
    (r.setPage size index).select = r.select.setPage size index := by
  cases r with
  | query q => rfl
  | dataset d => rfl

theorem Select.get?_members_page (s : Select) :
    (Json.ofMembers s.members).get? "page" = some (.int64 s.page) := by
  simp [members]

theorem Select.get?_members_size (s : Select) :
    (Json.ofMembers s.members).get? "pgSize" = some (.int64 s.size) := by
  simp [members]

theorem PagedRequest.get?_toJson_page (r : PagedRequest) :
    r.body.toJson.get? "page" = some (.int64 r.select.page) := by
  cases r with
  | query q =>
    show (Json.ofMembers q.members).get? "page" = _
    rw [Query.members, Json.get?_ofMembers_cons, q.select.get?_members_page]
    rfl
  | dataset d =>
    show (Json.ofMembers d.members).get? "page" = _
    simp [Dataset.members, d.select.get?_members_page, select]

theorem PagedRequest.get?_toJson_size (r : PagedRequest) :
    r.body.toJson.get? "pgSize" = some (.int64 r.select.size) := by
  cases r with
  | query q =>
    show (Json.ofMembers q.members).get? "pgSize" = _
    rw [Query.members, Json.get?_ofMembers_cons, q.select.get?_members_size]
    rfl
  | dataset d =>
    show (Json.ofMembers d.members).get? "pgSize" = _
    simp [Dataset.members, d.select.get?_members_size, select]

/-- A page and a page size that are both given or both left out. -/
def PagesAgree (page size : Int64) : Prop := page = -1 ∧ size = -1 ∨ 0 ≤ page ∧ 0 < size

instance (page size : Int64) : Decidable (PagesAgree page size) :=
  inferInstanceAs (Decidable (_ ∨ _))

namespace Sending

/-- What is sent has one body, which asks for a page of some size. -/
def AsksFor (x : Sending) (page size : Int64) : Prop :=
  ∃ body, x.payload.get? "body" = some (.array [body]) ∧
    body.get? "page" = some (.int64 page) ∧ body.get? "pgSize" = some (.int64 size)

/-- What is sent asks for one page only. -/
theorem AsksFor.unique {x : Sending} {page size page' size' : Int64} (h : x.AsksFor page size)
    (h' : x.AsksFor page' size') : page = page' ∧ size = size' := by
  obtain ⟨body, hbody, hpage, hsize⟩ := h
  obtain ⟨body', hbody', hpage', hsize'⟩ := h'
  rw [hbody] at hbody'
  cases hbody'
  rw [hpage] at hpage'
  rw [hsize] at hsize'
  exact ⟨Json.int64_injective (Option.some.inj hpage'), Json.int64_injective (Option.some.inj hsize')⟩

theorem asksFor_send (c : Config) (s : Session) (sequence : Fin 1001) (r : PagedRequest) :
    (Client.send c (r.envelope s sequence)).value.AsksFor r.select.page r.select.size := by
  refine ⟨r.body.toJson, ?_, r.get?_toJson_page, r.get?_toJson_size⟩
  rw [Client.value_send]
  show (r.envelope s sequence).toJson.get? "body" = _
  rw [Envelope.get?_toJson_body, PagedRequest.bodies_envelope, List.map_singleton]

/-- What is sent asks for a page with a page size, or for neither. -/
def PagesAgree (x : Sending) : Prop :=
  ∃ page size, x.AsksFor page size ∧ SemanticClient.PagesAgree page size

theorem AsksFor.agrees_iff {x : Sending} {page size : Int64} (h : x.AsksFor page size) :
    x.PagesAgree ↔ SemanticClient.PagesAgree page size := by
  constructor
  · rintro ⟨page', size', h', hagree⟩
    obtain ⟨rfl, rfl⟩ := h.unique h'
    exact hagree
  · intro hagree
    exact ⟨page, size, h, hagree⟩

end Sending

/-- A page of a binding's options has rows, whatever page size they give. -/
theorem BindOptions.rowsPerPage_pos (o : BindOptions) : 0 < o.rowsPerPage := by
  unfold rowsPerPage
  split
  · split
    · assumption
    · decide
  · decide

namespace Binder

section Parts

variable (b : Binder)

theorem unpaged_of_queryOf {connection : Option String} {s : Scope} {o : BindOptions}
    {conditions : List Condition} {joinSpec : String} {q : Query}
    (h : (queryOf connection s o conditions joinSpec).value = .ok q) :
    q.select.page = -1 ∧ q.select.size = -1 := by
  rw [value_queryOf, Spec.value_compile] at h
  cases horders : Spec.ordersOf o.orderSpec (Spec.JoinList.parse s joinSpec).value.joins with
  | error e =>
    rw [horders] at h
    cases h
  | ok orders =>
    simp only [horders, Except.map, Except.bind, Spec.Compiled.value_toQuery, Spec.Compiled.main?] at h
    cases hmain : Spec.JoinList.main? (Spec.JoinList.parse s joinSpec).value.joins with
    | none =>
      rw [hmain] at h
      cases h
    | some main =>
      rw [hmain] at h
      cases h
      exact ⟨rfl, rfl⟩

/-- What is compiled from options asks for no page. -/
theorem unpaged_of_prepare {o : BindOptions} {conditions : List Condition} {request : PagedRequest}
    (h : (b.prepare o conditions).value = .ok request) :
    request.select.page = -1 ∧ request.select.size = -1 := by
  rw [value_prepare] at h
  cases hvalid : (o.validate b.handlers).value with
  | error e =>
    rw [hvalid] at h
    cases h
  | ok valid =>
    rw [hvalid] at h
    change (b.buildRequest o conditions).value = .ok request at h
    rw [value_buildRequest] at h
    cases hkey : b.keyOf? o with
    | some key =>
      rw [hkey] at h
      cases h
      rw [PagedRequest.select, value_datasetOf]
      exact ⟨rfl, rfl⟩
    | none =>
      rw [hkey] at h
      dsimp only at h
      unfold joinsRequest at h
      split at h
      · cases h
      · split at h
        · rename_i q hq
          cases h
          exact unpaged_of_queryOf hq
        · cases h

/-- The state that binding gives to a pager, or finds. -/
theorem snd_bindState (pager : String) (o : BindOptions) :
    (b.bindState pager o).2 =
      (Keyed.get? b.pagers pager).getD (.initial o.queryForm o.rowsPerPage) := by
  show (b.pagers.bind pager o.queryForm o.rowsPerPage).2 = _
  unfold Pagers.bind
  cases Keyed.get? b.pagers pager with
  | none => rfl
  | some s => rfl

/-- **How an operation comes to plan a load**: its options compile, or its pager has a request. A binding
plans to load the page that it finds its pager at. -/
inductive Plans : Operation → Plan → Prop
  | grid {target : String} {o : BindOptions} {conditions : List Condition} {request : PagedRequest}
    (compiles : (b.prepare o conditions).value = .ok request) :
    Plans (.grid target o conditions) ⟨target, o, request, none⟩
  | select {t : PageTurn} {q : BoundPager} (bound : Keyed.get? b.bound t.pager = some q) :
    Plans (.select t) ⟨q.target, q.options, q.request.setPage t.size t.page, some t⟩
  | bind {pager target : String} {o : BindOptions} {conditions : List Condition}
    {request : PagedRequest} {s : PagingState} (compiles : (b.prepare o conditions).value = .ok request)
    (found : (b.bindState pager o).2 = s) :
    Plans (.bind pager target o conditions)
      ⟨target, o, request.setPage s.size s.page, some ⟨pager, s.page, s.size⟩⟩

theorem plan_eq_ok_iff {o : Operation} {p : Plan} : (b.plan o).2 = .ok p ↔ b.Plans o p := by
  constructor
  · intro h
    cases o with
    | grid target o conditions =>
      simp only [plan] at h
      cases hprepare : (b.prepare o conditions).value with
      | error e =>
        rw [hprepare] at h
        cases h
      | ok request =>
        rw [hprepare] at h
        cases h
        exact .grid hprepare
    | select t =>
      simp only [plan] at h
      cases hbound : Keyed.get? b.bound t.pager with
      | none =>
        rw [hbound] at h
        cases h
      | some q =>
        rw [hbound] at h
        cases h
        exact .select hbound
    | bind pager target o conditions =>
      simp only [plan] at h
      cases hprepare : (b.prepare o conditions).value with
      | error e =>
        rw [hprepare] at h
        cases h
      | ok request =>
        rw [hprepare] at h
        cases h
        exact .bind hprepare rfl
  · intro h
    cases h with
    | grid compiles => simp only [plan, compiles]
    | select bound => simp only [plan, bound]
    | bind compiles found => simp only [plan, compiles, found]

/-- The page and the page size that a turn asks for; without a turn neither is given. -/
def askedPage : Option PageTurn → Int64 × Int64
  | none => (-1, -1)
  | some t => (t.page, t.size)

/-- **An operation asks for the page of its turn**, and for none without one. -/
theorem Plans.asks {o : Operation} {p : Plan} (h : b.Plans o p) :
    (p.request.select.page, p.request.select.size) = askedPage p.turn := by
  cases h with
  | grid compiles =>
    obtain ⟨hpage, hsize⟩ := b.unpaged_of_prepare compiles
    exact Prod.ext hpage hsize
  | select bound =>
    rw [PagedRequest.select_setPage]
    rfl
  | bind compiles found =>
    rw [PagedRequest.select_setPage]
    rfl

/-- **An operation that plans a load** sends one request, whose answer its load waits for. It asks for the
page of the plan's turn. -/
theorem Plans.exists_waiting {o : Operation} {p : Plan} (h : b.Plans o p)
    (hcurrent : b.session.isCurrent b.client.state = true) (sequence : Fin 1001) :
    ∃ l x, (b.start sequence o).value.2 = .waiting l x ∧
      sendings (b.start sequence o).events = [x] ∧ x.AsksFor (askedPage p.turn).1 (askedPage p.turn).2 := by
  have hasks := Sending.asksFor_send b.client.config b.session sequence p.request
  have hpage : p.request.select.page = (askedPage p.turn).1 := congrArg Prod.fst h.asks
  have hsize : p.request.select.size = (askedPage p.turn).2 := congrArg Prod.snd h.asks
  rw [hpage, hsize] at hasks
  rw [value_snd_start, sendings_start, b.plan_eq_ok_iff.2 h]
  dsimp only
  rw [if_pos hcurrent, if_pos hcurrent]
  exact ⟨_, _, rfl, rfl, hasks⟩

/-- An operation whose load waits found its session current. -/
theorem current_of_start_waiting {sequence : Fin 1001} {o : Operation} {l : Load} {sending : Sending}
    (h : (b.start sequence o).value.2 = .waiting l sending) :
    b.session.isCurrent b.client.state = true := by
  rw [value_snd_start] at h
  split at h
  · cases h
  · split at h
    · assumption
    · cases h

/-- The second half of a load sends nothing. -/
theorem sendings_finishLoad (l : Load) (outcome : Outcome) :
    sendings (b.finishLoad l outcome).events = [] := by
  have hshown (calls : List SinkCall) : sendings (calls.map .shown) = [] := by
    rw [sendings, List.filterMap_map]
    exact List.filterMap_eq_nil_iff.2 fun call _ => rfl
  have hclose : sendings (if l.showing then [.shown .closeProgress] else []) = [] := by
    cases l.showing with
    | true => rfl
    | false => rfl
  rw [← sendings_visible]
  cases outcome with
  | error e => rw [visible_finishLoad_error, sendings_append, hclose, hshown, List.append_nil]
  | ok r =>
    have hselect : sendings ((selectedRow? l.options (r.rows 0)).toList.map fun i =>
        .shown (.selectRow l.target i)) = [] := by
      cases selectedRow? l.options (r.rows 0) with
      | none => rfl
      | some i => rfl
    have hrun : sendings ((b.onLoadFunction? l.options).toList.map fun function =>
        .ran function (loadedJson (r.rows 0) (r.total 0 0))) = [] := by
      cases b.onLoadFunction? l.options with
      | none => rfl
      | some function => rfl
    rw [visible_finishLoad_ok, sendings_append, hclose, visible_showLoaded, List.nil_append,
      ← List.singleton_append, sendings_append, sendings_append, sendings_append, hselect, hrun, hshown]
    rfl

end Parts

namespace World

/-! ## Pages and page sizes that agree -/

/-- Pagers are at pages that can be asked for, and so are the page turns that are on their way. -/
structure Agreeing (w : World) : Prop where
  pagers : ∀ p s, Keyed.get? w.binder.pagers p = some s → PagesAgree s.page s.size
  waiting : ∀ l ∈ w.waiting, ∀ t, l.turn = some t → PagesAgree t.page t.size

theorem agreeing_init (c : Client) (s : Session) (handlers : Handlers) (ambient : Pool) :
    (init c s handlers ambient).Agreeing where
  pagers := fun p s h => by cases h
  waiting := fun l hl => by cases hl

/-- A page turn that goes astray: its request is sent, and only one of its page and its page size is
given. -/
def GoesAstray : World × Event → Prop
  | (w, .start _ (.select t)) =>
    w.HasRequest t.pager ∧ w.binder.session.isCurrent w.binder.client.state = true ∧
      ¬ PagesAgree t.page t.size
  | _ => False

/-- Nothing is sent but by the first half of an operation. -/
theorem sendings_step (w : World) (e : Event) :
    sendings (w.step e).events =
      match e with
      | .start sequence o => sendings (w.binder.start sequence o).events
      | _ => [] := by
  have hnotices (ns : List Notice) : sendings (notices ns).events = [] := by
    rw [← sendings_visible, visible_notices]
    rfl
  cases e with
  | beginOperation => rfl
  | loginState state => rfl
  | sinkFault fault => rfl
  | register pager target o conditions =>
    simp only [step, noticing_bind, Traced.events_bind, sendings_append, hnotices, List.nil_append]
    cases (w.binder.prepare o conditions).value with
    | error e => rfl
    | ok request => rfl
  | registered i =>
    simp only [step]
    cases w.registering[i]? with
    | none => rfl
    | some x => rfl
  | start sequence o => simp only [step, Traced.events_bind, Traced.events_pure, List.append_nil]
  | answer i answer =>
    simp only [step]
    cases w.waiting[i]? with
    | none => rfl
    | some l =>
      simp only [finish, noticing_bind, Traced.events_bind, Traced.events_pure, List.append_nil,
        sendings_append, hnotices, sendings_finishLoad]

/-- The page that a turn asks for can be asked for, unless the turn goes astray. -/
theorem Agreeing.pagesAgree_of_plans {w : World} (h : w.Agreeing) {sequence : Fin 1001} {o : Operation}
    {p : Plan} (hplans : w.binder.Plans o p)
    (hcurrent : w.binder.session.isCurrent w.binder.client.state = true) :
    PagesAgree (askedPage p.turn).1 (askedPage p.turn).2 ↔ ¬ GoesAstray (w, .start sequence o) := by
  cases hplans with
  | grid compiles => exact iff_of_true (.inl ⟨rfl, rfl⟩) id
  | @select t q bound =>
    have hrequest : w.HasRequest t.pager := Option.isSome_of_eq_some bound
    constructor
    · rintro hagree ⟨-, -, hnot⟩
      exact hnot hagree
    · intro hnot
      by_contra hdisagree
      exact hnot ⟨hrequest, hcurrent, hdisagree⟩
  | @bind pager target o conditions request s compiles found =>
    refine iff_of_true ?_ id
    rw [snd_bindState] at found
    cases hs : Keyed.get? w.binder.pagers pager with
    | none =>
      rw [hs] at found
      subst found
      exact .inr ⟨Int64.le_refl 0, o.rowsPerPage_pos⟩
    | some kept =>
      rw [hs] at found
      subst found
      exact h.pagers pager kept hs

/-- A page turn that goes astray is sent. -/
theorem exists_plan_of_goesAstray {w : World} {sequence : Fin 1001} {o : Operation}
    (h : GoesAstray (w, .start sequence o)) :
    (∃ p, (w.binder.plan o).2 = .ok p) ∧ w.binder.session.isCurrent w.binder.client.state = true := by
  cases o with
  | select t =>
    obtain ⟨hrequest, hcurrent, -⟩ := h
    obtain ⟨q, hq⟩ := Option.isSome_iff_exists.1 hrequest
    exact ⟨⟨_, w.binder.plan_eq_ok_iff.2 (.select hq)⟩, hcurrent⟩
  | _ => exact h.elim

/-- **What an event asks for agrees**, unless it is a page turn that goes astray. -/
theorem Agreeing.sendings_step_iff {w : World} (h : w.Agreeing) (e : Event) :
    (∀ x ∈ sendings (w.step e).events, x.PagesAgree) ↔ ¬ GoesAstray (w, e) := by
  rw [sendings_step]
  cases e with
  | start sequence o =>
    dsimp only
    cases hplan : (w.binder.plan o).2 with
    | error e =>
      rw [sendings_start, hplan]
      refine iff_of_true (fun x hx => by cases hx) fun hastray => ?_
      obtain ⟨⟨p, hp⟩, -⟩ := exists_plan_of_goesAstray hastray
      rw [hplan] at hp
      cases hp
    | ok p =>
      have hplans := w.binder.plan_eq_ok_iff.1 hplan
      cases hcurrent : w.binder.session.isCurrent w.binder.client.state with
      | false =>
        -- nothing is sent, so there is nothing that could disagree
        rw [sendings_start, hplan, hcurrent]
        refine iff_of_true (fun x hx => by cases hx) fun hastray => ?_
        obtain ⟨-, hover⟩ := exists_plan_of_goesAstray hastray
        rw [hcurrent] at hover
        cases hover
      | true =>
        obtain ⟨-, x, -, hx, hasks⟩ := hplans.exists_waiting _ hcurrent sequence
        rw [hx, List.forall_mem_singleton, hasks.agrees_iff]
        exact h.pagesAgree_of_plans hplans hcurrent
  | _ => exact iff_of_true (fun x hx => by cases hx) id

/-- The first state of a pager is at the first page, with rows on it. -/
theorem pagesAgree_of_firstState? {w : World} {e : Event} {p : String} {s : PagingState}
    (h : firstState? p (w, e) = some s) : PagesAgree s.page s.size := by
  obtain ⟨-, o, -, -, -, rfl, -⟩ := exists_of_firstState? h
  exact .inr ⟨Int64.le_refl 0, o.rowsPerPage_pos⟩

/-- A load that waits after an event waited before it, or is started by it. -/
theorem mem_waiting_step {w : World} {e : Event} {l : Load} (h : l ∈ (w.step e).value.waiting) :
    l ∈ w.waiting ∨ ∃ sequence o sending, e = .start sequence o ∧
      (w.binder.start sequence o).value.2 = .waiting l sending := by
  cases e with
  | beginOperation => exact .inl h
  | loginState state => exact .inl h
  | sinkFault fault => exact .inl h
  | register pager target o conditions =>
    simp only [step, noticing_bind, Traced.value_bind] at h
    split at h
    · exact .inl h
    · exact .inl h
  | registered i =>
    simp only [step] at h
    split at h
    · exact .inl h
    · exact .inl h
  | start sequence o =>
    rw [value_step_start, mem_waiting_afterStart] at h
    rcases h with hold | hnew
    · exact .inl hold
    · obtain ⟨sending, hstarted⟩ := hnew
      exact .inr ⟨sequence, o, sending, rfl, hstarted⟩
  | answer i answer =>
    cases hi : w.waiting[i]? with
    | none =>
      rw [value_step_answer_of_none hi] at h
      exact .inl h
    | some l' =>
      rw [value_step_answer hi] at h
      exact .inl (List.mem_of_mem_eraseIdx h)

/-- As long as no page turn goes astray, pagers stay at pages that can be asked for. -/
theorem Agreeing.step {w : World} (h : w.Agreeing) {e : Event} (hnot : ¬ GoesAstray (w, e)) :
    (w.step e).value.Agreeing where
  pagers := by
    intro p s hs
    rw [get?_pagers_step] at hs
    obtain ⟨s₀, hs₀, rfl⟩ := Option.map_eq_some_iff.1 hs
    cases hturned : turned? p (w, e) with
    | none =>
      rcases Option.or_eq_some_iff.1 hs₀ with hold | ⟨-, hfirst⟩
      · exact h.pagers p s₀ hold
      · exact pagesAgree_of_firstState? hfirst
    | some d =>
      obtain ⟨l, hl, ht, -⟩ := exists_of_turned? hturned
      exact h.waiting l hl d.turn ht
  waiting := by
    intro l hl t ht
    rcases mem_waiting_step hl with hold | ⟨sequence, o, sending, rfl, hstarted⟩
    · exact h.waiting l hold t ht
    · obtain ⟨p, hp, hturn⟩ := w.binder.exists_plan_of_start hstarted
      have hcurrent := w.binder.current_of_start_waiting hstarted
      have hagree := (h.pagesAgree_of_plans (w.binder.plan_eq_ok_iff.1 hp) hcurrent).2 hnot
      rwa [← hturn, ht] at hagree

/-- **What a run asks for agrees** exactly if no page turn goes astray in it. -/
theorem Agreeing.sendings_run_iff {w : World} (h : w.Agreeing) (es : List Event) :
    (∀ x ∈ sendings (w.run es).events, x.PagesAgree) ↔ ∀ m ∈ w.moments es, ¬ GoesAstray m := by
  induction es generalizing w with
  | nil => exact iff_of_true (fun x hx => by cases hx) fun m hm => by cases hm
  | cons e es ih =>
    rw [run_cons, Traced.events_bind, sendings_append, List.forall_mem_append, h.sendings_step_iff,
      moments, List.forall_mem_cons]
    exact and_congr_right fun hnot => ih (h.step hnot)

/-- **When the pages and page sizes that a run asks for agree.** In every run every request that is sent
asks for a page with a page size, or for neither, exactly if no page turn goes astray: each one that is sent
was given both or neither. Binding a pager and loading a grid never ask for one without the other. -/
theorem pagesAgree_iff (c : Client) (s : Session) (handlers : Handlers) (ambient : Pool)
    (es : List Event) :
    (∀ x ∈ sendings ((init c s handlers ambient).run es).events, x.PagesAgree) ↔
      ∀ m ∈ (init c s handlers ambient).moments es, ¬ GoesAstray m :=
  (agreeing_init c s handlers ambient).sendings_run_iff es

/-- A client that a user is logged in with. -/
def loggedInClient : Client := ⟨.standard, .loggedIn ⟨"ss-01", "admin", []⟩⟩

/-- The session of that user. -/
def loggedInSession : Session := .ofInfo ⟨"ss-01", "admin", []⟩

/-- A pager is bound, and then asked for a page size without a page. -/
def astrayEvents (early late : Fin 1001) : List Event :=
  [.start early (.bind "users" "grid" rolesOptions []), .start late (.select ⟨"users", -1, 20⟩)]

/-- **A page turn that goes astray** is sent as it is. -/
theorem not_forall_pagesAgree :
    ¬ ∀ (c : Client) (s : Session) (handlers : Handlers) (ambient : Pool) (es : List Event),
      ∀ x ∈ sendings ((init c s handlers ambient).run es).events, x.PagesAgree := by
  intro hall
  have h := hall loggedInClient loggedInSession [] [] (astrayEvents 7 8)
  rw [(agreeing_init _ _ _ _).sendings_run_iff] at h
  refine h _ (List.mem_cons_of_mem _ List.mem_cons_self) ⟨by rfl, by rfl, ?_⟩
  decide

end World
end Binder
end SemanticClient
