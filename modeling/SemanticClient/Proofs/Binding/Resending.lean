import SemanticClient.Proofs.Binding.Naming
import SemanticClient.Proofs.Binding.Paging
import SemanticClient.Proofs.Binding.Visible

/-!
# Sending a pager's request again

The request of a pager is compiled when the pager is bound. From then on nothing but another binding of
the pager replaces it: not its own page turns, nor what other pagers and grids do. So each page turn sends
the request that was bound, with the page in the place of the one before.

* `PagedRequest.toJson_setPage`: what asking for a page does to the body of a request.
* `World.get?_bound_step`: what an event does to what a pager is bound to.
* `World.repeats_boundRequest`: what a page turn sends, after whatever came since the pager was bound.
-/

namespace SemanticClient

/-! ## The body for a page -/

namespace Json

/-- An object with some members put in, over those that it had under the same names. -/
def withMembers (members : List (String × Json)) : Json → Json
  | .object m => .object (members.foldl (fun m e => Keyed.insert e.1 e.2 m) m)
  | v => v

theorem withMembers_ofMembers (u v : List (String × Json)) :
    (ofMembers u).withMembers v = ofMembers (u ++ v) := by
  unfold ofMembers Keyed.ofList
  rw [List.foldl_append]
  rfl

/-- Objects that say the same under every name are the same. -/
theorem ofMembers_congr {u v : List (String × Json)}
    (h : ∀ k, (ofMembers u).get? k = (ofMembers v).get? k) : ofMembers u = ofMembers v :=
  congrArg object (Keyed.Ordered.ext (Keyed.ordered_ofList u) (Keyed.ordered_ofList v) h)

end Json

/-- The members of a body that ask for a page. -/
def PageTurn.members (t : PageTurn) : List (String × Json) :=
  [("page", .int64 t.page), ("pgSize", .int64 t.size)]

theorem Select.get?_members_setPage (s : Select) (t : PageTurn) (k : String) :
    (Json.ofMembers (s.setPage t.size t.page).members).get? k =
      (Json.ofMembers (s.members ++ t.members)).get? k := by
  simp only [members, setPage, PageTurn.members, Json.get?_ofMembers_append, Json.get?_ofMembers_cons,
    Json.get?_ofMembers_optional, Json.get?_ofMembers_nil]
  by_cases hpage : k = "page"
  · simp [hpage]
  · by_cases hsize : k = "pgSize"
    · simp [hsize]
    · simp only [hpage, hsize, if_false, Option.none_or]

namespace PagedRequest

/-- **Asking for a page replaces the page**, and nothing else of the body. -/
theorem toJson_setPage (r : PagedRequest) (t : PageTurn) :
    (r.setPage t.size t.page).body.toJson = r.body.toJson.withMembers t.members := by
  cases r with
  | query q =>
    show Json.ofMembers _ = (Json.ofMembers _).withMembers t.members
    rw [Json.withMembers_ofMembers]
    refine Json.ofMembers_congr fun k => ?_
    simp only [Query.members, List.cons_append, Json.get?_ofMembers_cons]
    rw [Select.get?_members_setPage]
  | dataset d =>
    show Json.ofMembers _ = (Json.ofMembers _).withMembers t.members
    rw [Json.withMembers_ofMembers]
    refine Json.ofMembers_congr fun k => ?_
    have hselect := d.select.get?_members_setPage t k
    simp only [Dataset.members, List.cons_append, Json.get?_ofMembers_cons, Json.get?_ofMembers_append,
      PageTurn.members] at hselect ⊢
    rw [hselect]
    by_cases hpage : k = "page"
    · simp [hpage]
    · by_cases hsize : k = "pgSize"
      · simp [hsize]
      · simp only [hpage, hsize, if_false, Json.get?_ofMembers_nil, Option.none_or]

/-- The port that a request is for. -/
def port : PagedRequest → Port
  | .query _ => .query
  | .dataset d => Session.datasetPort d.action

theorem port_envelope_setPage (r : PagedRequest) (size index : Int64) (s : Session)
    (sequence : Fin 1001) : ((r.setPage size index).envelope s sequence).port = r.port := by
  cases r with
  | query q => rfl
  | dataset d => rfl

end PagedRequest

/-- A request that is sent once more for a page: to the port that it is for, and with its body, of which
nothing but the page is replaced. -/
structure Sending.Repeats (x : Sending) (c : Config) (r : PagedRequest) (t : PageTurn) : Prop where
  port : x.port = r.port
  url : x.url = c.url r.port
  body : x.payload.get? "body" = some (.array [r.body.toJson.withMembers t.members])

theorem Sending.repeats_send (c : Config) (s : Session) (sequence : Fin 1001) (r : PagedRequest)
    (t : PageTurn) :
    (Client.send c ((r.setPage t.size t.page).envelope s sequence)).value.Repeats c r t := by
  have hport := r.port_envelope_setPage t.size t.page s sequence
  rw [Client.value_send]
  refine ⟨hport, congrArg c.url hport, ?_⟩
  rw [Envelope.get?_toJson_body, PagedRequest.bodies_envelope, List.map_singleton,
    PagedRequest.toJson_setPage]

/-- The request that an effect sends. -/
def Effect.sending? : Effect → Option Sending
  | .sent x => some x
  | _ => none

/-- The requests that are sent among effects, in order. -/
def sendings (effects : List Effect) : List Sending := effects.filterMap Effect.sending?

theorem sendings_append (es es' : List Effect) :
    sendings (es ++ es') = sendings es ++ sendings es' := List.filterMap_append

theorem sendings_visible (effects : List Effect) : sendings (visible effects) = sendings effects :=
  filterMap_visible (fun _ => rfl) effects

namespace Binder

section Parts

variable (b : Binder)

/-- A load sends its request exactly once, unless the session is over. -/
theorem sendings_startLoad (sequence : Fin 1001) (target : String) (o : BindOptions)
    (request : PagedRequest) (turn : Option PageTurn) :
    sendings (b.startLoad sequence target o request turn).events =
      if b.session.isCurrent b.client.state then
        [(Client.send b.client.config (request.envelope b.session sequence)).value]
      else [] := by
  have hprogress (call : SinkCall) :
      sendings (if b.messenger.progressing then [] else [.shown call]) = [] := by
    cases b.messenger.progressing with
    | true => rfl
    | false => rfl
  have halert (call : Option SinkCall) : sendings (call.toList.map .shown) = [] := by
    cases call with
    | none => rfl
    | some c => rfl
  rw [← sendings_visible, visible_startLoad, sendings_append, hprogress, List.nil_append]
  by_cases hcurrent : b.session.isCurrent b.client.state
  · rw [if_pos hcurrent, if_pos hcurrent]
    rfl
  · rw [if_neg hcurrent, if_neg hcurrent, sendings_append, hprogress, halert]
    rfl

/-- **An operation sends the request that it plans**, once, unless it plans none or the session is over. -/
theorem sendings_start (sequence : Fin 1001) (o : Operation) :
    sendings (b.start sequence o).events =
      match (b.plan o).2 with
      | .error _ => []
      | .ok p =>
        if b.session.isCurrent b.client.state then
          [(Client.send b.client.config (p.request.envelope b.session sequence)).value]
        else [] := by
  have hframe := b.plan_frame o
  rw [← sendings_visible, visible_start]
  generalize b.plan o = planning at hframe ⊢
  obtain ⟨b', planned⟩ := planning
  cases planned with
  | error e => rfl
  | ok p =>
    dsimp only at hframe ⊢
    rw [sendings_visible, sendings_startLoad, hframe]

theorem sendings_select {t : PageTurn} {p : BoundPager} (h : Keyed.get? b.bound t.pager = some p)
    (sequence : Fin 1001) :
    sendings (b.start sequence (.select t)).events =
      if b.session.isCurrent b.client.state then
        [(Client.send b.client.config
          ((p.request.setPage t.size t.page).envelope b.session sequence)).value]
      else [] := by
  simp only [sendings_start, plan, h]

end Parts

namespace World

/-! ## What a pager is bound to -/

/-- What an event binds a pager to, if it does. -/
def bound? (pager : String) : World × Event → Option BoundPager
  | (w, .registered i) =>
    match w.registering[i]? with
    | none => none
    | some (q, p) => if pager = q then some p else none
  | (w, .start _ (.bind q target o conditions)) =>
    match (w.binder.prepare o conditions).value with
    | .error _ => none
    | .ok request => if pager = q then some ⟨target, o, request⟩ else none
  | _ => none

theorem get?_bound_bindRequest (b : Binder) (q : String) (p : BoundPager) (pager : String) :
    Keyed.get? (b.bindRequest q p).bound pager =
      (if pager = q then some p else none).or (Keyed.get? b.bound pager) := by
  rw [bindRequest, Keyed.get?_insert]
  by_cases hq : pager = q
  · rw [if_pos hq, if_pos hq, Option.some_or]
  · rw [if_neg hq, if_neg hq, Option.none_or]

theorem get?_bound_plan (w : World) (sequence : Fin 1001) (o : Operation) (pager : String) :
    Keyed.get? (w.binder.plan o).1.bound pager =
      (bound? pager (w, .start sequence o)).or (Keyed.get? w.binder.bound pager) := by
  cases o with
  | grid target o conditions =>
    simp only [plan, bound?, Option.none_or]
    cases (w.binder.prepare o conditions).value with
    | error e => rfl
    | ok request => rfl
  | select t =>
    rw [fst_plan_select]
    rfl
  | bind q target o conditions =>
    simp only [plan, bound?]
    cases (w.binder.prepare o conditions).value with
    | error e => rfl
    | ok request => exact get?_bound_bindRequest _ q ⟨target, o, request⟩ pager

/-- **What an event does to what a pager is bound to**: nothing, unless it binds the pager. -/
theorem get?_bound_step (w : World) (e : Event) (pager : String) :
    Keyed.get? (w.step e).value.binder.bound pager =
      (bound? pager (w, e)).or (Keyed.get? w.binder.bound pager) := by
  cases e with
  | beginOperation => rfl
  | loginState state => rfl
  | sinkFault fault => rfl
  | register q target o conditions =>
    simp only [step, noticing_bind, Traced.value_bind]
    cases (w.binder.prepare o conditions).value with
    | error e => rfl
    | ok request => rfl
  | registered i =>
    simp only [step, bound?]
    cases w.registering[i]? with
    | none => rfl
    | some x => exact get?_bound_bindRequest w.binder x.1 x.2 pager
  | start sequence o =>
    -- the load that an operation starts is seen by the messenger only
    obtain ⟨messenger, hstart⟩ := w.binder.exists_value_start_eq sequence o
    rw [value_step_start, binder_afterStart, hstart]
    exact w.get?_bound_plan sequence o pager
  | answer i answer =>
    cases hi : w.waiting[i]? with
    | none =>
      rw [value_step_answer_of_none hi]
      rfl
    | some l =>
      rw [value_step_answer hi]
      show Keyed.get? (w.binder.finishLoad l (w.outcome l answer)).value.1.bound pager = _
      rw [bound_finishLoad]
      rfl

/-- A run that does not bind a pager leaves it bound to what it was. -/
theorem get?_bound_run (w : World) {es : List Event} {pager : String}
    (h : ∀ m ∈ w.moments es, bound? pager m = none) :
    Keyed.get? (w.run es).value.binder.bound pager = Keyed.get? w.binder.bound pager := by
  induction es generalizing w with
  | nil => rfl
  | cons e es ih =>
    have hfirst := h (w, e) List.mem_cons_self
    have hrest := ih (w.step e).value fun m hm => h m (List.mem_cons_of_mem _ hm)
    rw [run_cons, Traced.value_bind, hrest, get?_bound_step, hfirst, Option.none_or]

/-- A registration of a pager, in one step or in two. In both forms its options compile to the request of
`p`. Between the two steps anything may happen. -/
inductive Registers (w : World) (pager : String) (p : BoundPager) : List Event → Prop
  | bind (sequence : Fin 1001) (conditions : List Condition)
    (compiles : (w.binder.prepare p.options conditions).value = .ok p.request) :
    Registers w pager p [.start sequence (.bind pager p.target p.options conditions)]
  | register (conditions : List Condition) (between : List Event) (i : Nat)
    (compiles : (w.binder.prepare p.options conditions).value = .ok p.request)
    (ends : (w.run (.register pager p.target p.options conditions :: between)).value.registering[i]? =
      some (pager, p)) :
    Registers w pager p
      (.register pager p.target p.options conditions :: between ++ [.registered i])

theorem Registers.get?_bound {w : World} {pager : String} {p : BoundPager} {es : List Event}
    (h : w.Registers pager p es) : Keyed.get? (w.run es).value.binder.bound pager = some p := by
  cases h with
  | bind sequence conditions compiles =>
    have hbound : bound? pager (w, .start sequence (.bind pager p.target p.options conditions)) =
        some p := by
      simp only [bound?, compiles, if_true]
    rw [run_cons, Traced.value_bind]
    show Keyed.get? (w.step _).value.binder.bound pager = some p
    rw [get?_bound_step, hbound, Option.some_or]
  | register conditions between i compiles ends =>
    rw [run_concat, Traced.value_bind, get?_bound_step]
    simp only [bound?, ends, if_true, Option.some_or]

/-- What a page turn of a pager sends: a request, for the page of the turn, or nothing if the session is
over. -/
structure Repeats (w : World) (pager : String) (r : PagedRequest) : Prop where
  sent : w.binder.session.isCurrent w.binder.client.state = true → ∀ sequence page size,
    ∃ x, sendings (w.step (.start sequence (.select ⟨pager, page, size⟩))).events = [x] ∧
      x.Repeats w.binder.client.config r ⟨pager, page, size⟩
  refused : w.binder.session.isCurrent w.binder.client.state = false → ∀ sequence page size,
    sendings (w.step (.start sequence (.select ⟨pager, page, size⟩))).events = []

theorem repeats_of_bound {w : World} {pager : String} {p : BoundPager}
    (h : Keyed.get? w.binder.bound pager = some p) : w.Repeats pager p.request := by
  have hsent (sequence : Fin 1001) (page size : Int64) :
      sendings (w.step (.start sequence (.select ⟨pager, page, size⟩))).events =
        sendings (w.binder.start sequence (.select ⟨pager, page, size⟩)).events := by
    simp only [step, Traced.events_bind, Traced.events_pure, List.append_nil]
  refine ⟨fun hcurrent sequence page size => ?_, fun hover sequence page size => ?_⟩
  · rw [hsent, w.binder.sendings_select h, if_pos hcurrent]
    exact ⟨_, rfl, Sending.repeats_send _ _ _ _ _⟩
  · rw [hsent, w.binder.sendings_select h, hover, if_neg Bool.false_ne_true]

/-- **A pager sends the request that it was bound with.** Whatever happens after a registration, as long
as it does not bind the pager again, a page turn sends the request of the registration: the body that the
options were compiled to, with the page of the turn. -/
theorem repeats_boundRequest {w : World} {pager : String} {p : BoundPager} {registration : List Event}
    (h : w.Registers pager p registration) (later : List Event)
    (hlater : ∀ m ∈ (w.run registration).value.moments later, bound? pager m = none) :
    (w.run (registration ++ later)).value.Repeats pager p.request := by
  refine repeats_of_bound ?_
  rw [run_append, Traced.value_bind, get?_bound_run _ hlater, h.get?_bound]

/-- A pager on the users that have a role. -/
def rolesPager : BoundPager where
  target := "users"
  options := rolesOptions
  request := .dataset {
    action := .sqlTree
    select := { Select.ofTable none "roles.ez" none with exprs := [("u.name", none)] }
    semanticKey := some "roles.ez"
    args := [.string "7", .string "all", .string "x"]
    treeSemantics := none
    rootId := none }

/-- Between the two steps of its registration the user begins a new operation. -/
def rolesRegistration : List Event :=
  [.register "users" "users" rolesOptions [], .beginOperation, .registered 0]

/-- A page turn that the session refuses, another pager, and a login. -/
def afterRoles (sequence : Fin 1001) : List Event := [
  .start sequence (.select ⟨"users", 7, 50⟩),
  .start sequence (.bind "other" "grid" { rolesOptions with exprs := [("u.id", none)] } []),
  .loginState (.loggedIn ⟨"ss-01", "admin", []⟩)]

theorem repeats_boundRequest_roles :
    ∃ x, sendings (((World.init (.ofConfig .standard) (.ofInfo ⟨"ss-01", "admin", []⟩) [] []).run
        (rolesRegistration ++ afterRoles 7)).value.step (.start 8 (.select ⟨"users", 2, 10⟩))).events =
        [x] ∧
      x.Repeats .standard rolesPager.request ⟨"users", 2, 10⟩ := by
  have hregisters : (World.init (.ofConfig .standard) (.ofInfo ⟨"ss-01", "admin", []⟩) [] []).Registers
      "users" rolesPager rolesRegistration :=
    .register [] [.beginOperation] 0 (by rfl) (by rfl)
  refine (repeats_boundRequest hregisters (afterRoles 7) fun m hm => ?_).sent (by rfl) 8 2 10
  simp only [afterRoles, moments, List.mem_cons, List.not_mem_nil, or_false] at hm
  rcases hm with rfl | rfl | rfl
  · rfl
  · rfl
  · rfl

end World
end Binder
end SemanticClient
