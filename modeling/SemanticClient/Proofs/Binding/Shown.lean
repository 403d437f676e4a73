import SemanticClient.Proofs.Binding.Pages
import SemanticClient.Proofs.Binding.SinkFaults
import SemanticClient.Proofs.Protocol.Rows

/-!
# What is seen of a load

In a sequential run a load is seen as a whole: the indicator goes up, the request is sent, the indicator
goes down, and then the outcome is shown. A failure is alerted if its code was not alerted since the user
last began a new operation. Rows are bound, a row is selected among them, the handler is given them, and a
pager is refreshed with the state that it has from then on. What is seen depends on no call that the user
interface refuses.

* `selectedRow?_eq_some_iff`: which row is selected.
* `exists_showsOutcome_finishLoad`: the second half of a load shows its outcome.
* `load_seen`: what is seen of an operation at any time of a sequential run, and what it ends with.
-/

namespace SemanticClient.Binder

/-! ## How an outcome is shown -/

/-- A row has a value in a column: the plain text of its cell. -/
def HasValue (row : Row) (column value : String) : Prop :=
  ∃ v, Keyed.get? row column = some v ∧ v.PlainText value

/-- Options select a row by its index: they name a column and a value, the row has the value in the column,
and no row before it has. -/
def Selects (o : BindOptions) (rows : List Row) (i : Nat) : Prop :=
  ∃ column value, o.rowKey = some column ∧ o.select = some value ∧
    (∃ row, rows[i]? = some row ∧ HasValue row column value) ∧
    ∀ j < i, ∀ row, rows[j]? = some row → ¬ HasValue row column value

/-- What the user is told of a failure: that the network failed, or else the message of the failure. -/
inductive TellsFailure (e : DispatchError) : String → Prop
  | network (h : e.code = .io) : TellsFailure e networkProblem
  | message (h : e.code ≠ .io) : TellsFailure e e.message

/-- How a failure is shown: its code alerts, unless it did before. -/
inductive ShowsFailure (alerted : Code → Prop) (e : DispatchError) : List Effect → Prop
  | first {text : String} (h : ¬ alerted e.code) (htext : TellsFailure e text) :
    ShowsFailure alerted e [.shown (.alert e.code text)]
  | again (h : alerted e.code) : ShowsFailure alerted e []

/-- How a row is selected after its table was bound, if one is. -/
inductive ShowsSelection (target : String) (o : BindOptions) (rows : List Row) : List Effect → Prop
  | selected {i : Nat} (h : Selects o rows i) :
    ShowsSelection target o rows [.shown (.selectRow target i)]
  | nothing (h : ∀ i, ¬ Selects o rows i) : ShowsSelection target o rows []

/-- What a handler for loads is given: an object that holds the rows and the total, and nothing else. -/
structure HandsOver (rows : List Row) (total : Int64) (v : Json) : Prop where
  rows : v.get? "rows" = some (.array (rows.map .object))
  total : v.get? "total" = some (.int64 total)
  onlyThese : ∀ key, key ≠ "rows" → key ≠ "total" → v.get? key = none

/-- How the handler for loads is run, if one is set: with the rows and the total. -/
inductive RunsOnLoad (handlers : Handlers) (o : BindOptions) (rows : List Row) (total : Int64) :
    List Effect → Prop
  | set {id function : String} {v : Json} (hid : o.onLoad = some id)
    (hfunction : Keyed.get? handlers id = some function) (hv : HandsOver rows total v) :
    RunsOnLoad handlers o rows total [.ran function v]
  | unset (h : o.onLoad = none) : RunsOnLoad handlers o rows total []

/-- How a pager is refreshed after its page was loaded: with the state that is stored. -/
inductive ShowsPaging (pagers : Pagers) (total : Int64) :
    Option PageTurn → List Effect → Option PagingState → Prop
  | grid : ShowsPaging pagers total none [] none
  | pager {t : PageTurn} {s : PagingState} (stored : Keyed.get? pagers t.pager = some s)
    (hpage : s.page = t.page) (hsize : s.size = t.size) (htotal : s.total = total) :
    ShowsPaging pagers total (some t) [.shown (.refreshPager t.pager s.total s.page s.size)] (some s)

/-- How an outcome is shown once the indicator is down, and what the load ends with. What is bound, selected
from, handed over and returned are the same rows, those of the first result set, and the same total. The
pagers are those afterwards. -/
inductive ShowsOutcome (alerted : Code → Prop) (handlers : Handlers) (p : Plan) (pagers : Pagers) :
    Outcome → List Effect → Except DispatchError Loaded → Prop
  | failed {e : DispatchError} {alert : List Effect} (halert : ShowsFailure alerted e alert) :
    ShowsOutcome alerted handlers p pagers (.error e) alert (.error e)
  | loaded {r : Response} {rows : List Row} {total : Int64} {selection handling refresh : List Effect}
    {s : Option PagingState} (hrows : r.RowsAre 0 rows) (htotal : r.TotalIs 0 0 total)
    (hselection : ShowsSelection p.target p.options rows selection)
    (hhandling : RunsOnLoad handlers p.options rows total handling)
    (hrefresh : ShowsPaging pagers total p.turn refresh s) :
    ShowsOutcome alerted handlers p pagers (.ok r)
      (.shown (.bindRows p.target rows total) :: (selection ++ (handling ++ refresh)))
      (.ok ⟨rows, total, s⟩)

theorem hasValue_iff {row : Row} {column value : String} :
    ((Keyed.get? row column).any fun v => v.plainText == value) = true ↔ HasValue row column value := by
  unfold HasValue
  cases Keyed.get? row column with
  | none => simp
  | some v =>
    rw [Option.any_some, beq_iff_eq, eq_comm, ← Json.plainText_iff]
    simp

theorem tellsFailure_alertText (e : DispatchError) : TellsFailure e (Messenger.alertText e) := by
  unfold Messenger.alertText
  split
  · rename_i h
    exact .network h
  · rename_i h
    exact .message h

theorem handsOver_loadedJson (rows : List Row) (total : Int64) :
    HandsOver rows total (loadedJson rows total) where
  rows := by simp [loadedJson]
  total := by simp [loadedJson]
  onlyThese key hrows htotal := by simp [loadedJson, hrows, htotal]

/-- **Which row is selected**: the first one that has the value. -/
theorem selectedRow?_eq_some_iff {o : BindOptions} {rows : List Row} {i : Nat} :
    selectedRow? o rows = some i ↔ Selects o rows i := by
  have hindex (column value : String) : rowIndex? rows column value = some i ↔
      (∃ row, rows[i]? = some row ∧ HasValue row column value) ∧
        ∀ j < i, ∀ row, rows[j]? = some row → ¬ HasValue row column value := by
    rw [rowIndex?, List.findIdx?_eq_some_iff_getElem]
    constructor
    · rintro ⟨hi, hfound, hbefore⟩
      refine ⟨⟨rows[i], List.getElem?_eq_getElem hi, hasValue_iff.1 hfound⟩, fun j hj row hrow hvalue => ?_⟩
      obtain ⟨hlt, rfl⟩ := List.getElem?_eq_some_iff.1 hrow
      exact hbefore j hj (hasValue_iff.2 hvalue)
    · rintro ⟨⟨row, hrow, hvalue⟩, hbefore⟩
      obtain ⟨hi, rfl⟩ := List.getElem?_eq_some_iff.1 hrow
      refine ⟨hi, hasValue_iff.2 hvalue, fun j hj hfound => ?_⟩
      exact hbefore j hj _ (List.getElem?_eq_getElem (hj.trans hi)) (hasValue_iff.1 hfound)
  unfold selectedRow? Selects
  rw [Option.bind_eq_some_iff]
  constructor
  · rintro ⟨column, hcolumn, hselected⟩
    obtain ⟨value, hvalue, hi⟩ := Option.bind_eq_some_iff.1 hselected
    exact ⟨column, value, hcolumn, hvalue, (hindex column value).1 hi⟩
  · rintro ⟨column, value, hcolumn, hvalue, hi⟩
    exact ⟨column, hcolumn, Option.bind_eq_some_iff.2 ⟨value, hvalue, (hindex column value).2 hi⟩⟩

theorem showsSelection_selectedRow? (target : String) (o : BindOptions) (rows : List Row) :
    ShowsSelection target o rows
      ((selectedRow? o rows).toList.map fun i => .shown (.selectRow target i)) := by
  cases hselected : selectedRow? o rows with
  | some i => exact .selected (selectedRow?_eq_some_iff.1 hselected)
  | none =>
    refine .nothing fun i hi => ?_
    rw [selectedRow?_eq_some_iff.2 hi] at hselected
    cases hselected

/-- A handler that is set is registered, so it is run. -/
theorem runsOnLoad_onLoadFunction? {b : Binder} {o : BindOptions} (h : HandlersOf b.handlers o)
    (rows : List Row) (total : Int64) :
    RunsOnLoad b.handlers o rows total
      ((b.onLoadFunction? o).toList.map fun function => .ran function (loadedJson rows total)) := by
  unfold onLoadFunction?
  cases hid : o.onLoad with
  | none => exact .unset hid
  | some id =>
    have hhook : ("onload", id) ∈ o.hooks := by simp [BindOptions.hooks, hid]
    obtain ⟨function, hfunction⟩ := Option.isSome_iff_exists.1 (h _ hhook)
    rw [Option.bind_some, Handlers.find?, hfunction]
    exact .set hid hfunction (handsOver_loadedJson rows total)

section Parts

variable {b : Binder} {l : Load}

/-- A pager that has a state is refreshed with the one that it has afterwards. -/
theorem exists_showsPaging_finishLoad
    (hstate : ∀ t, l.turn = some t → (Keyed.get? b.pagers t.pager).isSome) (r : Response) :
    ∃ s, (b.finishLoad l (.ok r)).value.2 = .ok ⟨r.rows 0, r.total 0 0, s⟩ ∧
      ShowsPaging (b.finishLoad l (.ok r)).value.1.pagers (r.total 0 0) l.turn
        ((b.turnCall? l.turn (r.total 0 0)).toList.map .shown) s := by
  cases hturn : l.turn with
  | none => exact ⟨none, b.value_finishLoad_of_grid hturn (.ok r), .grid⟩
  | some t =>
    obtain ⟨s, hs⟩ := Option.isSome_iff_exists.1 (hstate t hturn)
    have hstored := b.get?_pagers_finishLoad l (.ok r) t.pager
    rw [hs, Load.turned?, hturn, Option.map_some, Option.map_some, Option.bind_some, Turned.ofPager?,
      if_pos rfl] at hstored
    refine ⟨_, b.value_finishLoad_of_turn hturn hs (.ok r), ?_⟩
    rw [turnCall?, Option.bind_some, hs]
    exact .pager hstored rfl rfl rfl

/-- **The second half of a load shows its outcome**, after the indicator went down. -/
theorem exists_showsOutcome_finishLoad {alerted : Code → Prop} {p : Plan} (htarget : l.target = p.target)
    (hoptions : l.options = p.options) (hturn : l.turn = p.turn) (hshowing : l.showing = true)
    (halerted : ∀ code, b.messenger.isReported code = true ↔ alerted code)
    (hhandlers : HandlersOf b.handlers p.options)
    (hstate : ∀ t, p.turn = some t → (Keyed.get? b.pagers t.pager).isSome) (outcome : Outcome) :
    ∃ shown, visible (b.finishLoad l outcome).events = .shown .closeProgress :: shown ∧
      ShowsOutcome alerted b.handlers p (b.finishLoad l outcome).value.1.pagers outcome shown
        (b.finishLoad l outcome).value.2 := by
  cases outcome with
  | error e =>
    rw [visible_finishLoad_error, value_snd_finishLoad_error, hshowing, alertCall?]
    refine ⟨_, rfl, .failed ?_⟩
    cases hreported : b.messenger.isReported e.code with
    | true => exact .again ((halerted e.code).1 hreported)
    | false =>
      refine .first (fun h => ?_) (tellsFailure_alertText e)
      rw [(halerted e.code).2 h] at hreported
      cases hreported
  | ok r =>
    rw [← hturn] at hstate
    obtain ⟨s, hvalue, hpaging⟩ := exists_showsPaging_finishLoad hstate r
    rw [visible_finishLoad_ok, visible_showLoaded, hshowing, hvalue, htarget, hoptions]
    refine ⟨_, rfl, .loaded (Response.rowsAre_iff.2 rfl) (Response.totalIs_iff.2 rfl) ?_ ?_
      (hturn ▸ hpaging)⟩
    · exact showsSelection_selectedRow? p.target p.options (r.rows 0)
    · exact runsOnLoad_onLoadFunction? hhandlers (r.rows 0) (r.total 0 0)

end Parts

/-! ## Operations -/

/-- Why options are rejected: they are invalid, or they are valid and do not compile. -/
inductive Rejects (b : Binder) (o : BindOptions) (conditions : List Condition) : ClientError → Prop
  | invalid {e : ClientError} (h : (o.validate b.handlers).value = .error e) : Rejects b o conditions e
  | uncompiled {e : ClientError} (valid : (o.validate b.handlers).value = .ok ())
    (h : (b.buildRequest o conditions).value = .error e) : Rejects b o conditions e

/-- Why an operation loads nothing: its options are rejected, or its pager is not bound. -/
inductive Refuses (b : Binder) : Operation → DispatchError → Prop
  | grid {target : String} {o : BindOptions} {conditions : List Condition} {e : ClientError}
    (rejected : b.Rejects o conditions e) : Refuses b (.grid target o conditions) (.ofClient e)
  | select {t : PageTurn} (unbound : Keyed.get? b.bound t.pager = none) :
    Refuses b (.select t) (.ofClient (.pagerNotBound t.pager))
  | bind {pager target : String} {o : BindOptions} {conditions : List Condition} {e : ClientError}
    (rejected : b.Rejects o conditions e) : Refuses b (.bind pager target o conditions) (.ofClient e)

theorem rejects_of_prepare {b : Binder} {o : BindOptions} {conditions : List Condition} {e : ClientError}
    (h : (b.prepare o conditions).value = .error e) : b.Rejects o conditions e := by
  rw [value_prepare] at h
  cases hvalid : (o.validate b.handlers).value with
  | error e' =>
    rw [hvalid] at h
    cases h
    exact .invalid hvalid
  | ok valid =>
    rw [hvalid] at h
    exact .uncompiled hvalid h

/-- An operation that plans no load is refused, and binds nothing. -/
theorem refuses_of_plan {b : Binder} {o : Operation} {e : DispatchError}
    (h : (b.plan o).2 = .error e) : b.Refuses o e ∧ b.plan o = (b, .error e) := by
  cases o with
  | grid target o conditions =>
    simp only [plan] at h ⊢
    cases hprepare : (b.prepare o conditions).value with
    | error e' =>
      rw [hprepare] at h
      cases h
      exact ⟨.grid (rejects_of_prepare hprepare), rfl⟩
    | ok request =>
      rw [hprepare] at h
      cases h
  | select t =>
    simp only [plan] at h ⊢
    cases hbound : Keyed.get? b.bound t.pager with
    | none =>
      rw [hbound] at h
      cases h
      exact ⟨.select hbound, rfl⟩
    | some q =>
      rw [hbound] at h
      cases h
  | bind pager target o conditions =>
    simp only [plan] at h ⊢
    cases hprepare : (b.prepare o conditions).value with
    | error e' =>
      rw [hprepare] at h
      cases h
      exact ⟨.bind (rejects_of_prepare hprepare), rfl⟩
    | ok request =>
      rw [hprepare] at h
      cases h

/-- What is loaded has its handlers, if what is bound has. -/
theorem Plans.handlersOf {b : Binder} {o : Operation} {p : Plan} (h : b.Plans o p)
    (hbound : b.HasHandlers) : HandlersOf b.handlers p.options := by
  cases h with
  | grid compiles => exact handlersOf_of_prepare compiles
  | select bound => exact hbound _ _ bound
  | bind compiles found => exact handlersOf_of_prepare compiles

/-- An operation that is refused is not seen, and leaves the binder as it is. -/
theorem run_of_refused {b : Binder} {o : Operation} {e : DispatchError}
    (h : b.plan o = (b, .error e)) (sequence : Fin 1001) (answer : Answer) :
    visible (b.run sequence answer o).events = [] ∧
      (b.run sequence answer o).value = (b, .error e) := by
  rw [visible_run_eq, value_run_eq, h]
  exact ⟨rfl, rfl⟩

/-- **An operation that plans a load** takes the indicator, sends its request, gives the indicator back and
shows the outcome. -/
theorem Idle.exists_shows_run {handlers : Handlers} {b : Binder} (h : b.Idle handlers) {o : Operation}
    {p : Plan} (hp : (b.plan o).2 = .ok p) {alerted : Code → Prop}
    (halerted : ∀ code, b.messenger.isReported code = true ↔ alerted code) (sequence : Fin 1001)
    (answer : Answer) :
    ∃ shown,
      visible (b.run sequence answer o).events = .shown .showProgress ::
        ((if b.session.isCurrent b.client.state then
          [.sent (Client.send b.client.config (p.request.envelope b.session sequence)).value] else []) ++
        .shown .closeProgress :: shown) ∧
      ShowsOutcome alerted handlers p (b.run sequence answer o).value.1.pagers
        (b.planOutcome sequence answer p) shown (b.run sequence answer o).value.2 := by
  have hkept : (b.plan o).1.taking.handlers = handlers := by
    rw [taking, b.plan_frame o, ← h.handlers_eq]
  have hshowing : ((b.plan o).1.planLoad sequence p).showing = true := by
    rw [planLoad, b.messenger_plan o, h.progressing]
    rfl
  have hreported (code : Code) :
      (b.plan o).1.taking.messenger.isReported code = true ↔ alerted code := by
    rw [← halerted code, ← b.messenger_plan o]
    rfl
  have hhandlers := (b.plan_eq_ok_iff.1 hp).handlersOf h.hasHandlers
  rw [h.handlers_eq, ← hkept] at hhandlers
  obtain ⟨-, hstate⟩ := h.tracked.plan o
  obtain ⟨shown, hvisible, hshows⟩ := exists_showsOutcome_finishLoad (b := (b.plan o).1.taking)
    (l := (b.plan o).1.planLoad sequence p) rfl rfl rfl hshowing hreported hhandlers
    (fun t => hstate p t hp) (b.planOutcome sequence answer p)
  rw [visible_run_of_plan _ _ _ hp, value_run_of_plan _ _ _ hp, hvisible, h.progressing, ← hkept]
  exact ⟨shown, rfl, hshows⟩

/-- **What is seen of an operation in a sequential run.** At any time of the run, whatever is asked and
whatever would be answered:

* An operation that is refused is not seen, and leaves the binder as it is. A registration is never seen.
* Any other puts the indicator up, sends its request unless the session is over, puts the indicator down
  and shows the outcome.
* Afterwards the indicator is down.
* Which calls the user interface refuses makes no difference: with a user interface that takes every call
  the run and the operation are seen alike, and the operation ends with the same and leaves the same. -/
theorem load_seen (c : Client) (s : Session) (handlers : Handlers) (ambient : Pool) (as : List Act)
    (sequence : Fin 1001) (answer : Answer) (o : Operation) :
    let start := ofSession c s handlers ambient
    let b := (start.acts as).value
    let r := b.run sequence answer o
    let faultless := as.filter (!·.isFault)
    let b₀ := (start.acts faultless).value
    let r₀ := b₀.run sequence answer o
    ((∃ e, b.Refuses o e ∧ visible r.events = [] ∧ r.value = (b, .error e)) ∨
      ∃ p, b.Plans o p ∧ ∃ shown,
        visible r.events = .shown .showProgress ::
          ((if b.session.isCurrent b.client.state then
            [.sent (Client.send b.client.config (p.request.envelope b.session sequence)).value] else []) ++
          .shown .closeProgress :: shown) ∧
        ShowsOutcome (start.AlertedSinceBegin as) handlers p r.value.1.pagers
          (b.planOutcome sequence answer p) shown r.value.2) ∧
    (∀ pager target o conditions, visible (b.register pager target o conditions).events = []) ∧
    r.value.1.messenger.progressing = false ∧
    visible (start.acts as).events = visible (start.acts faultless).events ∧
    b = b₀.withFault b.sinkFault ∧ visible r.events = visible r₀.events ∧ r.value.2 = r₀.value.2 ∧
    r.value.1 = r₀.value.1.withFault b.sinkFault := by
  intro start b r faultless b₀ r₀
  have hidle : b.Idle handlers := (idle_ofSession c s handlers ambient).acts as
  have hdown : r.value.1.messenger.progressing = false :=
    (b.progressing_run sequence answer o).trans hidle.progressing
  obtain ⟨⟨fault, hfault⟩, hseen⟩ := start.acts_withFault none as
  have hb : b = b₀.withFault b.sinkFault := by
    have hsame : b = b₀.withFault fault := hfault
    rw [hsame]
    rfl
  have hvalue : r.value = (r₀.value.1.withFault b.sinkFault, r₀.value.2) := by
    rw [← b₀.value_run_withFault b.sinkFault sequence answer o, ← hb]
  have hvisible := b₀.visible_run_withFault b.sinkFault sequence answer o
  rw [← hb] at hvisible
  refine ⟨?_, b.visible_register, hdown, hseen, hb, hvisible, by rw [hvalue], by rw [hvalue]⟩
  cases hplan : (b.plan o).2 with
  | error e =>
    obtain ⟨hrefuses, hkept⟩ := refuses_of_plan hplan
    exact .inl ⟨e, hrefuses, run_of_refused hkept sequence answer⟩
  | ok p =>
    refine .inr ⟨p, b.plan_eq_ok_iff.1 hplan, ?_⟩
    exact hidle.exists_shows_run hplan (fun code => isReported_acts_iff rfl as) sequence answer

end SemanticClient.Binder
