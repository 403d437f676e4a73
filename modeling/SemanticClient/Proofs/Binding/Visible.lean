import Mathlib.Data.List.Basic
import SemanticClient.Proofs.Binding.Run

/-!
# What can be seen of an operation

The effects of an operation that reach beyond the log: requests, calls of the user interface and handlers
that are run. Each part of an operation has an exact list of them, whether or not the user interface
refuses its calls.

* `visible_startLoad`: the first half of a load.
* `visible_finishLoad_error`, `visible_finishLoad_ok`: the second half.
* `visible_start`: an operation that plans no load is not seen.
-/

namespace SemanticClient

/-- Whether an effect reaches beyond the log. -/
def Effect.isVisible : Effect → Bool
  | .noticed _ => false
  | _ => true

/-- The effects that reach beyond the log, in order. -/
def visible (effects : List Effect) : List Effect := effects.filter Effect.isVisible

theorem visible_append (es es' : List Effect) : visible (es ++ es') = visible es ++ visible es' :=
  List.filter_append es es'

/-- What no notice has a part in can be read off the visible effects. -/
theorem filterMap_visible {α : Type} {f : Effect → Option α} (hnotices : ∀ n, f (.noticed n) = none)
    (effects : List Effect) : (visible effects).filterMap f = effects.filterMap f := by
  unfold visible
  rw [List.filterMap_filter]
  refine List.filterMap_congr fun effect _ => ?_
  cases effect with
  | noticed n => exact (hnotices n).symm
  | _ => rfl

namespace Binder

theorem visible_notices (ns : List Notice) : visible (notices ns).events = [] := by
  refine List.filter_eq_nil_iff.2 fun effect heffect => ?_
  obtain ⟨n, -, rfl⟩ := List.mem_map.1 heffect
  exact Bool.false_ne_true

/-- The row that the options select, if it was loaded. -/
def selectedRow? (o : BindOptions) (rows : List Row) : Option Nat :=
  o.rowKey.bind fun key => o.select.bind fun value => rowIndex? rows key value

section Parts

variable (b : Binder)

/-- The function that the options run after a load. -/
def onLoadFunction? (o : BindOptions) : Option String :=
  o.onLoad.bind fun id => (b.handlers.find? id).toOption

/-- How a failure is alerted: not at all, if its code was alerted before. -/
def alertCall? (e : DispatchError) : Option SinkCall :=
  if b.messenger.isReported e.code then none else some (.alert e.code (Messenger.alertText e))

/-- How the page turn of a load is shown: not at all, if its pager has no state. -/
def turnCall? (turn : Option PageTurn) (total : Int64) : Option SinkCall :=
  turn.bind fun t => (Keyed.get? b.pagers t.pager).map fun _ =>
    .refreshPager t.pager total t.page t.size

theorem visible_showCall (call : SinkCall) : visible (b.showCall call).events = [.shown call] := by
  unfold showCall
  cases b.sinkFault.bind (·.reason? call) with
  | none => rfl
  | some reason => rfl

theorem visible_takeProgress :
    visible b.takeProgress.events =
      if b.messenger.progressing then [] else [.shown .showProgress] := by
  rw [events_takeProgress, apply_ite visible, visible_showCall]
  rfl

theorem visible_closeProgress (l : Load) :
    visible (b.closeProgress l).events = if l.showing then [.shown .closeProgress] else [] := by
  rw [events_closeProgress, apply_ite visible, visible_showCall]
  rfl

theorem visible_reportError (e : DispatchError) :
    visible (b.reportError e).events = (b.alertCall? e).toList.map .shown := by
  rw [events_reportError, visible_append, visible_notices, List.nil_append]
  unfold alertCall? Messenger.report
  by_cases hreported : b.messenger.isReported e.code
  · rw [if_pos hreported, if_pos hreported]
    rfl
  · rw [if_neg hreported, if_neg hreported]
    exact b.visible_showCall (.alert e.code (Messenger.alertText e))

theorem visible_selectRow (o : BindOptions) (target : String) (rows : List Row) :
    visible (b.selectRow o target rows).events =
      (selectedRow? o rows).toList.map fun i => .shown (.selectRow target i) := by
  unfold selectRow selectedRow?
  cases o.rowKey with
  | none => rfl
  | some key =>
    cases o.select with
    | none => rfl
    | some value =>
      dsimp only [Option.bind_some]
      cases rowIndex? rows key value with
      | none => rfl
      | some i => exact b.visible_showCall (.selectRow target i)

theorem visible_runOnLoad (o : BindOptions) (target : String) (rows : List Row) (total : Int64) :
    visible (b.runOnLoad o target rows total).events =
      (b.onLoadFunction? o).toList.map fun function => .ran function (loadedJson rows total) := by
  unfold runOnLoad onLoadFunction?
  cases o.onLoad with
  | none => rfl
  | some id =>
    dsimp only [Option.bind_some]
    cases b.handlers.find? id with
    | error e => rfl
    | ok function => rfl

theorem visible_turnPage (t : PageTurn) (total : Int64) :
    visible (b.turnPage t total).events = (b.turnCall? (some t) total).toList.map .shown := by
  unfold turnPage turnCall? Pagers.apply
  dsimp only [Option.bind_some]
  cases Keyed.get? b.pagers t.pager with
  | none => rfl
  | some s =>
    dsimp only
    rw [Traced.events_bind, Traced.events_pure, List.append_nil]
    exact b.visible_showCall (.refreshPager t.pager total t.page t.size)

/-- Rows are bound first; then a row is selected, the handler is run, and the pager is refreshed. -/
theorem visible_showLoaded (l : Load) (r : Response) :
    visible (b.showLoaded l r).events =
      .shown (.bindRows l.target (r.rows 0) (r.total 0 0)) ::
      (((selectedRow? l.options (r.rows 0)).toList.map fun i => .shown (.selectRow l.target i)) ++
      (((b.onLoadFunction? l.options).toList.map fun function =>
        .ran function (loadedJson (r.rows 0) (r.total 0 0))) ++
      (b.turnCall? l.turn (r.total 0 0)).toList.map .shown)) := by
  rw [events_showLoaded, visible_append, visible_append, visible_append, visible_showCall,
    visible_selectRow, visible_runOnLoad, List.singleton_append]
  cases l.turn with
  | none => rfl
  | some t => rw [visible_turnPage]

/-- **The second half of a load that fails**: the indicator goes down, then the failure is alerted. -/
theorem visible_finishLoad_error (l : Load) (e : DispatchError) :
    visible (b.finishLoad l (.error e)).events =
      (if l.showing then [.shown .closeProgress] else []) ++ (b.alertCall? e).toList.map .shown := by
  -- taking the indicator down does not touch what was alerted
  have halert : (b.closeProgress l).value.alertCall? e = b.alertCall? e := by
    rw [value_closeProgress]
    cases l.showing with
    | true => rfl
    | false => rfl
  unfold finishLoad
  simp only [Traced.events_bind, Traced.events_pure, List.append_nil, visible_append,
    visible_closeProgress, visible_reportError, halert]

/-- **The second half of a load that succeeds**: the indicator goes down, then what was loaded is shown. -/
theorem visible_finishLoad_ok (l : Load) (r : Response) :
    visible (b.finishLoad l (.ok r)).events =
      (if l.showing then [.shown .closeProgress] else []) ++ visible (b.showLoaded l r).events := by
  have hshown : visible ((b.closeProgress l).value.showLoaded l r).events =
      visible (b.showLoaded l r).events := by
    rw [value_closeProgress, visible_showLoaded, visible_showLoaded]
    cases l.showing with
    | true => rfl
    | false => rfl
  unfold finishLoad
  rw [Traced.events_bind, visible_append, visible_closeProgress, hshown]

/-- **The first half of a load**: the indicator goes up if it is free, then the request is sent. If the
session is over, the load fails instead. -/
theorem visible_startLoad (sequence : Fin 1001) (target : String) (o : BindOptions)
    (request : PagedRequest) (turn : Option PageTurn) :
    visible (b.startLoad sequence target o request turn).events =
      (if b.messenger.progressing then [] else [.shown .showProgress]) ++
      if b.session.isCurrent b.client.state then
        [.sent (Client.send b.client.config (request.envelope b.session sequence)).value]
      else
        (if b.messenger.progressing then [] else [.shown .closeProgress]) ++
        (b.alertCall? (.ofClient .notAuthenticated)).toList.map .shown := by
  rw [startLoad_eq]
  simp only [Traced.events_bind, visible_append, value_takeProgress, visible_takeProgress,
    visible_notices, List.nil_append]
  by_cases hcurrent : b.session.isCurrent b.client.state
  · rw [if_pos hcurrent, if_pos hcurrent]
    rfl
  · rw [if_neg hcurrent, if_neg hcurrent]
    simp only [Traced.events_bind, Traced.events_pure, List.append_nil, visible_finishLoad_error]
    cases b.messenger.progressing with
    | true => rfl
    | false => rfl

/-- **The first half of an operation** is that of the load it plans; if it plans none, it is not seen. -/
theorem visible_start (sequence : Fin 1001) (o : Operation) :
    visible (b.start sequence o).events =
      match b.plan o with
      | (_, .error _) => []
      | (b', .ok p) => visible (b'.startLoad sequence p.target p.options p.request p.turn).events := by
  obtain ⟨ns, hstart⟩ := b.exists_start_eq sequence o
  rw [hstart, Traced.events_bind, visible_append, visible_notices, List.nil_append]
  obtain ⟨b', planned⟩ := b.plan o
  cases planned with
  | error e => rfl
  | ok p => rfl

end Parts

end Binder
end SemanticClient
