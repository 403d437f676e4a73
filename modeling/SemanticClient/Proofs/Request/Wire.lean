import Mathlib.Data.List.Basic
import SemanticClient.Protocol.Envelope

/-!
# Bodies as JSON

A body does not say what kind of body it is, and members that are not there are left out. Still no two
bodies are written alike: the names that a body uses tell its kind, and what stands under each name tells
the rest, at any depth of nested groups and of updates to run afterwards.

* `Json.get?_ofMembers_append`: an object answers from its later members first.
* `Select.map_get?_members`, `Dataset.map_get?_toJson`, …: what a body says under each of its names.
* `Condition.eq_of_toJson_eq`, `Update.eq_of_toJson_eq`: nothing is lost in nested conditions and updates.
* `Body.marks_eq`: the kind of a body shows in its names.
* `Body.toJson_inj`: bodies that are written alike are the same.
-/

namespace SemanticClient

open Function Spec

/-! ## Members -/

/-- Among distinct keys it does not matter from which end an entry is looked for. -/
theorem Keyed.get?_reverse_of_nodup {α : Type} {m : List (String × α)} (h : (keys m).Nodup) (k : String) :
    get? m.reverse k = get? m k := by
  induction m with
  | nil => rfl
  | cons e m ih =>
    obtain ⟨j, a⟩ := e
    obtain ⟨hj, hm⟩ := List.nodup_cons.1 h
    rw [List.reverse_cons, get?_append, ih hm, get?_cons, get?_cons, get?_nil]
    by_cases hk : k = j
    · rw [get?_eq_none_of_notMem (hk ▸ hj), Option.none_or, if_pos hk]
    · rw [if_neg hk, Option.or_none, if_neg hk]

namespace Json

/-- An object with distinct keys says the same in whatever order its members stand. -/
theorem get?_object_of_nodup {members : List (String × Json)} (h : (Keyed.keys members).Nodup)
    (k : String) : (object members).get? k = (ofMembers members).get? k :=
  ((get?_ofMembers members k).trans (Keyed.get?_reverse_of_nodup h k)).symm

@[simp] theorem get?_ofMembers_nil (k : String) : (ofMembers []).get? k = none := rfl

/-- An object answers from its later members first. -/
@[simp] theorem get?_ofMembers_append (u v : List (String × Json)) (k : String) :
    (ofMembers (u ++ v)).get? k = ((ofMembers v).get? k).or ((ofMembers u).get? k) := by
  rw [get?_ofMembers, get?_ofMembers, get?_ofMembers, List.reverse_append, Keyed.get?_append]

theorem get?_ofMembers_singleton (l k : String) (v : Json) :
    (ofMembers [(l, v)]).get? k = if k = l then some v else none :=
  Keyed.get?_cons l k v []

@[simp] theorem get?_ofMembers_cons (l k : String) (v : Json) (m : List (String × Json)) :
    (ofMembers ((l, v) :: m)).get? k =
      ((ofMembers m).get? k).or (if k = l then some v else none) := by
  rw [← List.singleton_append, get?_ofMembers_append, get?_ofMembers_singleton]

/-- A member that may be left out. -/
@[simp] theorem get?_ofMembers_optional {α : Type} (o : Option α) (l k : String) (f : α → Json) :
    (ofMembers (o.map fun a => (l, f a)).toList).get? k = if k = l then o.map f else none := by
  cases o with
  | none =>
    rw [Option.map_none, Option.map_none, ite_self]
    rfl
  | some a => exact get?_ofMembers_singleton l k (f a)

@[simp] theorem get?_ofMembers_optional_value (o : Option Json) (l k : String) :
    (ofMembers (o.map (Prod.mk l)).toList).get? k = if k = l then o else none := by
  have h := get?_ofMembers_optional o l k id
  rwa [Option.map_id_apply] at h

/-! ## Texts, numbers and lists -/

theorem string_injective : Injective string := fun _ _ => string.inj

theorem ofOption_injective : Injective ofOption := by
  intro a b h
  cases a with
  | none =>
    cases b with
    | none => rfl
    | some b => cases h
  | some a =>
    cases b with
    | none => cases h
    | some b => exact congrArg some (string.inj h)

theorem strings_injective : Injective strings :=
  fun _ _ h => List.map_injective_iff.2 string_injective (array.inj h)

theorem int64_injective : Injective int64 :=
  fun _ _ h => Int64.toInt_inj.1 (Number.int.inj (number.inj h))

end Json

theorem Crud.name_injective : Injective name := by
  intro a b h
  have hread := congrArg ofName? h
  rw [ofName?_name, ofName?_name] at hread
  exact Option.some.inj hread

theorem SessionAction.name_injective : Injective name := by
  intro a b h
  have hread := congrArg ofName? h
  rw [ofName?_name, ofName?_name] at hread
  exact Option.some.inj hread

theorem Spec.JoinKind.name_injective : Injective JoinKind.name := by
  intro a b h
  cases a <;> cases b <;> simp_all [JoinKind.name]

theorem Spec.Direction.name_injective : Injective Direction.name := by
  intro a b h
  cases a <;> cases b <;> simp_all [Direction.name]

theorem Spec.Join.toJson_injective : Injective Join.toJson := by
  intro a b h
  obtain ⟨kind, table, tableAlias, condition⟩ := a
  obtain ⟨kind', table', tableAlias', condition'⟩ := b
  simp only [Join.toJson, Json.array.injEq, List.cons.injEq, Json.string.injEq, and_true] at h
  obtain ⟨hkind, rfl, halias, hcondition⟩ := h
  cases JoinKind.name_injective hkind
  cases Json.ofOption_injective halias
  cases Json.ofOption_injective hcondition
  rfl

/-! ## Conditions -/

namespace Condition

/-- A condition is written as an array, so a group is never written like a list of texts. -/
theorem string_notMem_listToJson (s : String) (cs : List Condition) : .string s ∉ listToJson cs := by
  induction cs with
  | nil => exact List.not_mem_nil
  | cons c cs ih =>
    intro h
    rw [listToJson, List.mem_cons] at h
    rcases h with h | h
    · cases c <;> cases h
    · exact ih h

theorem listToJson_ne_cons (s : String) (texts : List Json) (cs : List Condition) :
    listToJson cs ≠ .string s :: texts := by
  intro h
  apply string_notMem_listToJson s cs
  rw [h]
  exact List.mem_cons_self

mutual

theorem eq_of_toJson_eq : ∀ {c d : Condition}, c.toJson = d.toJson → c = d
  | .key _ _, .key _ _, h => by
    simp [toJson, Json.strings] at h
    simp [h]
  -- two texts are never three
  | .key _ _, .predicate _ _ _, h => by simp [toJson, Json.strings] at h
  | .key _ _, .group ds, h => absurd (Json.array.inj h).symm (listToJson_ne_cons _ _ ds)
  | .predicate _ _ _, .key _ _, h => by simp [toJson, Json.strings] at h
  | .predicate _ _ _, .predicate _ _ _, h => by
    simp [toJson, Json.strings] at h
    simp [h]
  | .predicate _ _ _, .group ds, h => absurd (Json.array.inj h).symm (listToJson_ne_cons _ _ ds)
  | .group cs, .key _ _, h => absurd (Json.array.inj h) (listToJson_ne_cons _ _ cs)
  | .group cs, .predicate _ _ _, h => absurd (Json.array.inj h) (listToJson_ne_cons _ _ cs)
  | .group _, .group _, h => congrArg group (eq_of_listToJson_eq (Json.array.inj h))

theorem eq_of_listToJson_eq : ∀ {cs ds : List Condition}, listToJson cs = listToJson ds → cs = ds
  | [], [], _ => rfl
  | [], _ :: _, h => by cases h
  | _ :: _, [], h => by cases h
  | _ :: _, _ :: _, h => by
    obtain ⟨hhead, htail⟩ := List.cons.inj h
    rw [eq_of_toJson_eq hhead, eq_of_listToJson_eq htail]

end

end Condition

/-! ## Selections -/

namespace Select

/-- The names of a selection's members. -/
def names : List String :=
  ["conn", "f", "mAlias", "exprs", "j", "conds", "orders", "group", "page", "pgSize"]

/-- An expression as JSON. -/
def exprToJson (e : String × Option String) : Json := .array [.string e.1, .ofOption e.2]

/-- An order as JSON. -/
def orderToJson (o : String × Direction) : Json := .strings [o.1, o.2.name]

/-- What a selection says under each of its names. -/
def entries (s : Select) : List (Option Json) := [
  s.connection.map .string,
  some (.string s.table),
  s.tableAlias.map .string,
  some (.array (s.exprs.map exprToJson)),
  some (.array (s.joins.map Join.toJson)),
  some (.array (Condition.listToJson s.conditions)),
  some (.array (s.orders.map orderToJson)),
  some (.strings s.groups),
  some (.int64 s.page),
  some (.int64 s.size)]

theorem map_get?_members (s : Select) : names.map (Json.ofMembers s.members).get? = s.entries := by
  simp [names, members, entries, exprToJson, orderToJson]

theorem exprToJson_injective : Injective exprToJson := by
  intro a b h
  simp only [exprToJson, Json.array.injEq, List.cons.injEq, Json.string.injEq, and_true] at h
  exact Prod.ext h.1 (Json.ofOption_injective h.2)

theorem orderToJson_injective : Injective orderToJson := by
  intro a b h
  have htexts := Json.strings_injective h
  simp only [List.cons.injEq, and_true] at htexts
  exact Prod.ext htexts.1 (Direction.name_injective htexts.2)

theorem entries_injective : Injective entries := by
  intro s t h
  have hstring := Option.map_injective Json.string_injective
  simp only [entries, List.cons.injEq, Option.some.injEq, Json.string.injEq, Json.array.injEq,
    and_true] at h
  obtain ⟨hconnection, htable, halias, hexprs, hjoins, hconditions, horders, hgroups, hpage, hsize⟩ := h
  obtain ⟨connection, table, tableAlias, exprs, joins, conditions, orders, groups, page, size⟩ := s
  congr 1
  · exact hstring hconnection
  · exact hstring halias
  · exact List.map_injective_iff.2 exprToJson_injective hexprs
  · exact List.map_injective_iff.2 Join.toJson_injective hjoins
  · exact Condition.eq_of_listToJson_eq hconditions
  · exact List.map_injective_iff.2 orderToJson_injective horders
  · exact Json.strings_injective hgroups
  · exact Json.int64_injective hpage
  · exact Json.int64_injective hsize

end Select

/-! ## Kinds of bodies -/

namespace SessionRequest

/-- The names of a session request's members. -/
def names : List String := ["a", "uid", "token", "iv"]

/-- What a session request says under each of its names. -/
theorem map_get?_toJson (r : SessionRequest) :
    names.map r.toJson.get? =
      [some r.action.toJson, r.uid.map .string, r.token.map .string, r.iv.map .string] := by
  simp [names, toJson, members]

theorem toJson_injective : Injective toJson := by
  intro r s h
  have hstring := Option.map_injective Json.string_injective
  have hentries := s.map_get?_toJson
  rw [← h, r.map_get?_toJson] at hentries
  simp only [List.cons.injEq, Option.some.injEq, and_true] at hentries
  obtain ⟨haction, huid, htoken, hiv⟩ := hentries
  cases r
  congr 1
  · exact SessionAction.name_injective (Json.string.inj haction)
  · exact hstring huid
  · exact hstring htoken
  · exact hstring hiv

end SessionRequest

namespace Query

/-- A query says its action, and what its selection says. -/
theorem map_get?_toJson (q : Query) :
    ("a" :: Select.names).map q.toJson.get? = some q.action.toJson :: q.select.entries := by
  rw [← Select.map_get?_members]
  simp [Select.names, toJson, members, Select.members]

theorem toJson_injective : Injective toJson := by
  intro q r h
  have hentries := r.map_get?_toJson
  rw [← h, q.map_get?_toJson, List.cons.injEq, Option.some.injEq] at hentries
  obtain ⟨haction, hselect⟩ := hentries
  cases q
  congr 1
  · exact Crud.name_injective (Json.string.inj haction)
  · exact Select.entries_injective hselect

end Query

namespace Dataset

/-- The names of a dataset request's own members, beside those of its selection. -/
def ownNames : List String := ["a", "sk", "sqlArgs", "trSmtcs", "rootId"]

/-- A dataset request says what its selection says, and more. -/
theorem map_get?_toJson (d : Dataset) :
    (ownNames ++ Select.names).map d.toJson.get? =
      [some (.string d.action.name), d.semanticKey.map .string, some (.array d.args),
        d.treeSemantics, d.rootId.map .string] ++ d.select.entries := by
  rw [← Select.map_get?_members]
  simp [ownNames, Select.names, toJson, members, Select.members]

end Dataset

namespace Update

/-- The names of an update's members. -/
def names : List String := ["a", "conn", "mtabl", "nvs", "where", "postUpds"]

/-- The updates to run afterwards are left out if there are none. -/
def postsEntry : List Update → Option Json
  | [] => none
  | u :: us => some (.array (listToJson (u :: us)))

/-- What an update says under each of its names. -/
theorem map_get?_toJson (u : Update) :
    names.map u.toJson.get? =
      [some u.action.toJson, u.connection.map .string, some (.string u.table),
        some (.array (u.values.map valueToJson)), some (.array (Condition.listToJson u.conditions)),
        postsEntry u.posts] := by
  -- whether there are updates to run afterwards decides whether there is a member for them
  obtain ⟨action, connection, table, values, conditions, posts⟩ := u
  cases posts with
  | nil => simp [names, toJson, members, postsEntry]
  | cons u us => simp [names, toJson, members, postsEntry, listToJson]

theorem valueToJson_injective : Injective valueToJson := by
  intro a b h
  have htexts := Json.strings_injective h
  simp only [List.cons.injEq, and_true] at htexts
  exact Prod.ext htexts.1 htexts.2

mutual

theorem eq_of_toJson_eq : ∀ {u v : Update}, u.toJson = v.toJson → u = v
  | ⟨action, connection, table, values, conditions, posts⟩,
    ⟨action', connection', table', values', conditions', posts'⟩, h => by
    have hentries := congrArg (fun j => names.map j.get?) h
    simp only [map_get?_toJson, List.cons.injEq, Option.some.injEq, Json.string.injEq,
      Json.array.injEq, and_true] at hentries
    obtain ⟨haction, hconnection, rfl, hvalues, hconditions, hposts⟩ := hentries
    congr 1
    · exact Crud.name_injective (Json.string.inj haction)
    · exact Option.map_injective Json.string_injective hconnection
    · exact List.map_injective_iff.2 valueToJson_injective hvalues
    · exact Condition.eq_of_listToJson_eq hconditions
    · match posts, posts', hposts with
      | [], [], _ => rfl
      | _ :: _, _ :: _, hposts => exact eq_of_listToJson_eq (Json.array.inj (Option.some.inj hposts))

theorem eq_of_listToJson_eq : ∀ {us vs : List Update}, listToJson us = listToJson vs → us = vs
  | [], [], _ => rfl
  | [], _ :: _, h => by cases h
  | _ :: _, [], h => by cases h
  | _ :: _, _ :: _, h => by
    obtain ⟨hhead, htail⟩ := List.cons.inj h
    rw [eq_of_toJson_eq hhead, eq_of_listToJson_eq htail]

end

end Update

/-! ## Bodies -/

/-- An action is one of the known ones, or has a name of its own. -/
def DatasetAction.Proper : DatasetAction → Prop
  | .other name => name ∉ [sqlTree.name, reTree.name, reForest.name]
  | _ => True

theorem DatasetAction.name_injOn {a b : DatasetAction} (ha : a.Proper) (hb : b.Proper)
    (h : a.name = b.name) : a = b := by
  cases a <;> cases b <;> simp_all [Proper, name]

theorem Dataset.eq_of_toJson_eq {d e : Dataset} (hd : d.action.Proper) (he : e.action.Proper)
    (h : d.toJson = e.toJson) : d = e := by
  have hstring := Option.map_injective Json.string_injective
  have hentries := e.map_get?_toJson
  rw [← h, d.map_get?_toJson] at hentries
  simp only [List.cons_append, List.nil_append, List.cons.injEq, Option.some.injEq,
    Json.string.injEq, Json.array.injEq] at hentries
  obtain ⟨haction, hkey, hargs, hsemantics, hroot, hselect⟩ := hentries
  cases d
  congr 1
  · exact DatasetAction.name_injOn hd he haction
  · exact Select.entries_injective hselect
  · exact hstring hkey
  · exact hstring hroot

theorem Envelope.get?_toJson_body (e : Envelope) :
    e.toJson.get? "body" = some (.array (e.bodies.map Body.toJson)) := by
  simp [toJson, members]

namespace Body

/-- The dataset action of a body, if it has one, is proper. -/
def Proper : Body → Prop
  | .dataset d => d.action.Proper
  | _ => True

/-- Whether a body has a main table, a table to change, and arguments. -/
def marks (b : Body) : List Bool := ["f", "mtabl", "sqlArgs"].map fun k => (b.toJson.get? k).isSome

/-- **The kind of a body shows in the names that it uses.** -/
theorem marks_eq (b : Body) :
    b.marks =
      match b with
      | .session _ => [false, false, false]
      | .query _ => [true, false, false]
      | .update _ => [false, true, false]
      | .dataset _ => [true, false, true] := by
  cases b with
  | session r => simp [marks, toJson, SessionRequest.toJson, SessionRequest.members]
  | query q => simp [marks, toJson, Query.toJson, Query.members, Select.members]
  | update u =>
    obtain ⟨action, connection, table, values, conditions, posts⟩ := u
    cases posts with
    | nil => simp [marks, toJson, Update.toJson, Update.members]
    | cons u us => simp [marks, toJson, Update.toJson, Update.members]
  | dataset d => simp [marks, toJson, Dataset.toJson, Dataset.members, Select.members]

/-- **Bodies that are written alike are the same**: of the same kind and with the same members, nested
groups and updates included. Only a dataset action that poses as a known one would be taken for it. -/
theorem toJson_inj {a b : Body} (ha : a.Proper) (hb : b.Proper) : a.toJson = b.toJson ↔ a = b := by
  refine ⟨fun h => ?_, congrArg toJson⟩
  -- bodies of two kinds differ in their marks; within a kind the members decide
  have hmarks : a.marks = b.marks := by rw [marks, marks, h]
  rw [marks_eq, marks_eq] at hmarks
  cases a with
  | session r =>
    cases b with
    | session s => exact congrArg session (SessionRequest.toJson_injective h)
    | query _ | update _ | dataset _ => cases hmarks
  | query q =>
    cases b with
    | query r => exact congrArg query (Query.toJson_injective h)
    | session _ | update _ | dataset _ => cases hmarks
  | update u =>
    cases b with
    | update v => exact congrArg update (Update.eq_of_toJson_eq h)
    | session _ | query _ | dataset _ => cases hmarks
  | dataset d =>
    cases b with
    | dataset e => exact congrArg dataset (Dataset.eq_of_toJson_eq ha hb h)
    | session _ | query _ | update _ => cases hmarks

/-- A selection with an empty group within a group beside a key. -/
def groupedSelect : Select :=
  { Select.ofTable none "a_tree" none with conditions := [.group [.group []], .key "id" "42"] }

/-- A dataset request whose action has the name of a query's, and that query. -/
theorem toJson_dataset_ne_query :
    (dataset ⟨.other "R", groupedSelect, none, [], some .null, none⟩).Proper ∧
      (query ⟨.read, groupedSelect⟩).Proper ∧
      (dataset ⟨.other "R", groupedSelect, none, [], some .null, none⟩).toJson ≠
        (query ⟨.read, groupedSelect⟩).toJson := by
  have hproper : (dataset ⟨.other "R", groupedSelect, none, [], some .null, none⟩).Proper := by
    show "R" ∉ ["sqltree", "retree", "reforest"]
    decide
  have hquery : (query ⟨.read, groupedSelect⟩).Proper := trivial
  refine ⟨hproper, hquery, fun h => ?_⟩
  cases (toJson_inj hproper hquery).1 h

end Body
end SemanticClient
