import Mathlib.Data.List.Forall2
import SemanticClient.Proofs.Request.Building

/-!
# Primary keys as JSON

A key may be given as a column with its value, as one condition or as a list of conditions. A condition is
told from a list of conditions by what stands in it: a condition holds two or three values of which none is
an array or an object, a list holds nothing but arrays. So a where list is read back as it was written,
unless a group is in it, and a condition may as well be the only one of a list.

Two things are not checked. A list without any condition is a key, and whoever deletes by it deletes every
record. The value that goes with a column may be an array or an object, which no condition may hold.

* `PrimaryKey.ofJson_eq_ok_iff`: which values are keys, and of what.
* `PrimaryKey.ofJson_written`: where lists and conditions are read back as they were written.
* `Update.keyed_restricts_iff`: every key but the empty list restricts the requests that are made with it.
* `PrimaryKey.agree_pair_iff`: when a column with its value is read like the condition of the two.
-/

namespace SemanticClient

/-- An array or an object. -/
inductive Json.Nested : Json → Prop
  | array (items : List Json) : Nested (.array items)
  | object (members : List (String × Json)) : Nested (.object members)

theorem Json.not_nested_string (s : String) : ¬ (string s).Nested := fun h => by cases h

/-- A condition that groups others. -/
def Condition.IsGroup (c : Condition) : Prop := ∃ cs, c = .group cs

namespace PrimaryKey

/-! ## What is read -/

/-- The values that a condition is written with, two or three, none of which is nested. -/
inductive Tuple : List Json → Condition → Prop
  | key {column value : Json} (hcolumn : ¬ column.Nested) (hvalue : ¬ value.Nested) :
      Tuple [column, value] (.key column.plainText value.plainText)
  | predicate {op left right : Json} (hop : ¬ op.Nested) (hleft : ¬ left.Nested)
      (hright : ¬ right.Nested) :
      Tuple [op, left, right] (.predicate op.plainText left.plainText right.plainText)

/-- The array of the values of a condition. -/
def TupleArray (v : Json) (c : Condition) : Prop := ∃ items, v = .array items ∧ Tuple items c

/-- Which values are keys. -/
inductive ReadAs : Json → PrimaryKey → Prop
  | pair {members : List (String × Json)} {column : String} {value : Json}
      (hcolumn : Keyed.get? members "pk" = some (.string column))
      (hvalue : Keyed.get? members "v" = some value) :
      ReadAs (.object members) (.having column value.plainText)
  | tuple {items : List Json} {c : Condition} (h : Tuple items c) : ReadAs (.array items) (.meeting [c])
  | tuples {items : List Json} {cs : List Condition} (h : List.Forall₂ TupleArray items cs) :
      ReadAs (.array items) (.meeting cs)

theorem Tuple.not_nested {items : List Json} {c : Condition} (h : Tuple items c) :
    ∀ v ∈ items, ¬ v.Nested := by
  cases h with
  | key hcolumn hvalue => simp [hcolumn, hvalue]
  | predicate hop hleft hright => simp [hop, hleft, hright]

theorem Tuple.unique {items : List Json} {c d : Condition} (h : Tuple items c) (h' : Tuple items d) :
    c = d := by
  cases h with
  | key _ _ =>
    cases h' with
    | key _ _ => rfl
  | predicate _ _ _ =>
    cases h' with
    | predicate _ _ _ => rfl

theorem Tuple.ne_nil {items : List Json} {c : Condition} (h : Tuple items c) : items ≠ [] := by
  cases h <;> exact List.cons_ne_nil _ _

theorem conditionOfItems?_of_nested {items : List Json} {v : Json} (hv : v ∈ items) (h : v.Nested) :
    conditionOfItems? items = none := by
  unfold conditionOfItems?
  refine if_pos (List.any_eq_true.2 ⟨v, hv, ?_⟩)
  cases h <;> rfl

theorem conditionOfItems?_of_not_nested (items : List Json) : (∀ v ∈ items, ¬ v.Nested) →
    conditionOfItems? items =
      match items with
      | [column, value] => some (.key column.plainText value.plainText)
      | [op, left, right] => some (.predicate op.plainText left.plainText right.plainText)
      | _ => none := by
  intro h
  unfold conditionOfItems?
  refine if_neg fun hany => ?_
  obtain ⟨v, hv, hnested⟩ := List.any_eq_true.1 hany
  cases v with
  | array vs => exact h _ hv (.array vs)
  | object members => exact h _ hv (.object members)
  | _ => cases hnested

theorem conditionOfItems?_eq_some_iff {items : List Json} {c : Condition} :
    conditionOfItems? items = some c ↔ Tuple items c := by
  constructor
  · intro h
    have hflat : ∀ v ∈ items, ¬ v.Nested := fun v hv hnested => by
      rw [conditionOfItems?_of_nested hv hnested] at h
      cases h
    rw [conditionOfItems?_of_not_nested items hflat] at h
    split at h
    · cases h
      exact .key (hflat _ (by simp)) (hflat _ (by simp))
    · cases h
      exact .predicate (hflat _ (by simp)) (hflat _ (by simp)) (hflat _ (by simp))
    · cases h
  · intro h
    rw [conditionOfItems?_of_not_nested items h.not_nested]
    cases h with
    | key _ _ => rfl
    | predicate _ _ _ => rfl

theorem conditionOfJson?_eq_some_iff {v : Json} {c : Condition} :
    conditionOfJson? v = some c ↔ TupleArray v c := by
  unfold TupleArray
  cases v with
  | array items => simp [conditionOfJson?, conditionOfItems?_eq_some_iff]
  | _ => simp [conditionOfJson?]

/-- A list is read if each of its items is. -/
theorem mapM_eq_some_iff {α β : Type} {read : α → Option β} {as : List α} {bs : List β} :
    as.mapM read = some bs ↔ List.Forall₂ (fun a b => read a = some b) as bs := by
  induction as generalizing bs with
  | nil =>
    rw [List.mapM_nil, List.forall₂_nil_left_iff]
    exact ⟨fun h => (Option.some.inj h).symm, fun h => congrArg some h.symm⟩
  | cons a as ih =>
    rw [List.mapM_cons, List.forall₂_cons_left_iff]
    simp only [Option.bind_eq_bind, Option.bind_eq_some_iff, Option.pure_def, Option.some.injEq, ih]
    constructor
    · rintro ⟨b, hb, bs, hbs, rfl⟩
      exact ⟨b, bs, hb, hbs, rfl⟩
    · rintro ⟨b, bs, hb, hbs, rfl⟩
      exact ⟨b, hb, bs, hbs, rfl⟩

theorem all_isArray_iff {items : List Json} :
    items.all isArray = true ↔ ∀ v ∈ items, ∃ vs, v = .array vs := by
  rw [List.all_eq_true]
  refine forall₂_congr fun v _ => ?_
  cases v <;> simp [isArray]

theorem Tuple.not_all_isArray {items : List Json} {c : Condition} (h : Tuple items c) :
    ¬ items.all isArray = true := by
  intro hall
  obtain ⟨v, hv⟩ := List.exists_mem_of_ne_nil items h.ne_nil
  obtain ⟨vs, rfl⟩ := all_isArray_iff.1 hall v hv
  exact h.not_nested _ hv (.array vs)

theorem all_isArray_of_tuples {items : List Json} {cs : List Condition}
    (h : List.Forall₂ TupleArray items cs) : items.all isArray = true := by
  induction h with
  | nil => rfl
  | cons hv _ ih =>
    obtain ⟨vs, rfl, -⟩ := hv
    exact ih

/-- **Which values are keys.** -/
theorem read?_eq_some_iff {v : Json} {k : PrimaryKey} : read? v = some k ↔ ReadAs v k := by
  constructor
  · intro h
    unfold read? at h
    split at h
    · split at h
      · rename_i hcolumn hvalue
        cases h
        exact .pair hcolumn hvalue
      · cases h
    · -- a list of nothing but arrays is never looked at as a condition
      split at h
      · obtain ⟨cs, hcs, rfl⟩ := Option.map_eq_some_iff.1 h
        simp only [mapM_eq_some_iff, conditionOfJson?_eq_some_iff] at hcs
        exact .tuples hcs
      · obtain ⟨c, hc, rfl⟩ := Option.map_eq_some_iff.1 h
        exact .tuple (conditionOfItems?_eq_some_iff.1 hc)
    · cases h
  · intro h
    cases h with
    | pair hcolumn hvalue => simp only [read?, hcolumn, hvalue]
    | tuple h =>
      simp only [read?, if_neg h.not_all_isArray, conditionOfItems?_eq_some_iff.2 h, Option.map_some]
    | tuples h =>
      have hread : List.Forall₂ (fun v c => conditionOfJson? v = some c) _ _ :=
        h.imp fun _ _ => conditionOfJson?_eq_some_iff.2
      simp only [read?, if_pos (all_isArray_of_tuples h), mapM_eq_some_iff.2 hread, Option.map_some]

theorem ofJson_eq_ok_iff {v : Json} {k : PrimaryKey} : ofJson v = .ok k ↔ ReadAs v k := by
  rw [← read?_eq_some_iff, ofJson]
  cases read? v <;> simp

/-- A value that is no key is refused by name. -/
theorem ofJson_eq_error_iff {v : Json} {e : ClientError} :
    ofJson v = .error e ↔ (∀ k, ¬ ReadAs v k) ∧ e = .invalidKey v.text := by
  simp only [← read?_eq_some_iff, ofJson]
  cases read? v <;> simp [eq_comm]

/-- Two readings agree: both are refused, or both give the same conditions. -/
inductive Agree : Except ClientError PrimaryKey → Except ClientError PrimaryKey → Prop
  | refused (e e' : ClientError) : Agree (.error e) (.error e')
  | same {k k' : PrimaryKey} (h : k.toConditions = k'.toConditions) : Agree (.ok k) (.ok k')

/-- Readings agree if every key that one of them gives has its conditions from the other as well. -/
theorem agree_iff {v w : Json} :
    Agree (ofJson v) (ofJson w) ↔ ∀ cs, (∃ k, ReadAs v k ∧ k.toConditions = cs) ↔
      ∃ k, ReadAs w k ∧ k.toConditions = cs := by
  simp only [← ofJson_eq_ok_iff]
  generalize ofJson v = a
  generalize ofJson w = b
  constructor
  · intro h cs
    cases h with
    | refused e e' => simp
    | same h => simp [h]
  · intro h
    -- what one of them gives is given by the other as well, so neither is refused alone
    cases a with
    | error e =>
      cases b with
      | error e' => exact .refused e e'
      | ok k' =>
        obtain ⟨k, hk, -⟩ := (h k'.toConditions).2 ⟨k', rfl, rfl⟩
        cases hk
    | ok k =>
      obtain ⟨k', rfl, hcs⟩ := (h k.toConditions).1 ⟨k, rfl, rfl⟩
      exact .same hcs.symm

/-! ## What was written -/

theorem listToJson_eq_map (cs : List Condition) :
    Condition.listToJson cs = cs.map Condition.toJson := by
  induction cs with
  | nil => rfl
  | cons c cs ih => rw [Condition.listToJson, ih, List.map_cons]

/-- Every condition is written as an array, so conditions that are listed are no values of one. -/
theorem not_tuple_listToJson (cs : List Condition) (c : Condition) :
    ¬ Tuple (Condition.listToJson cs) c := by
  intro h
  cases cs with
  | nil => exact h.ne_nil rfl
  | cons d cs =>
    refine h.not_nested d.toJson (by simp [Condition.listToJson]) ?_
    cases d <;> exact .array _

theorem tupleArray_toJson {c : Condition} (h : ¬ c.IsGroup) : TupleArray c.toJson c := by
  cases c with
  | key column value => exact ⟨_, rfl, .key (Json.not_nested_string _) (Json.not_nested_string _)⟩
  | predicate op left right =>
    exact ⟨_, rfl, .predicate (Json.not_nested_string _) (Json.not_nested_string _)
      (Json.not_nested_string _)⟩
  | group cs => exact absurd ⟨cs, rfl⟩ h

/-- **A condition is read back from what it is written as**, unless it is a group. -/
theorem tupleArray_toJson_iff {c d : Condition} : TupleArray c.toJson d ↔ ¬ c.IsGroup ∧ c = d := by
  constructor
  · rintro ⟨items, hitems, hd⟩
    have hgroup : ¬ c.IsGroup := by
      rintro ⟨cs, rfl⟩
      cases Json.array.inj hitems
      exact not_tuple_listToJson cs d hd
    obtain ⟨items', hitems', hc⟩ := tupleArray_toJson hgroup
    cases hitems.symm.trans hitems'
    exact ⟨hgroup, hc.unique hd⟩
  · rintro ⟨hgroup, rfl⟩
    exact tupleArray_toJson hgroup

/-- **A where list is read back**, unless a group is in it. -/
theorem readAs_listToJson_iff {cs : List Condition} {k : PrimaryKey} :
    ReadAs (.array (Condition.listToJson cs)) k ↔ (∀ c ∈ cs, ¬ c.IsGroup) ∧ k = .meeting cs := by
  have htuples (ds : List Condition) : List.Forall₂ TupleArray (Condition.listToJson cs) ds ↔
      (∀ c ∈ cs, ¬ c.IsGroup) ∧ cs = ds := by
    rw [listToJson_eq_map, List.forall₂_map_left_iff]
    simp only [tupleArray_toJson_iff]
    rw [List.forall₂_and_left, List.forall₂_eq_eq_eq]
  constructor
  · intro h
    cases h with
    | tuple h => exact absurd h (not_tuple_listToJson cs _)
    | tuples h =>
      obtain ⟨hgroup, rfl⟩ := (htuples _).1 h
      exact ⟨hgroup, rfl⟩
  · rintro ⟨hgroup, rfl⟩
    exact .tuples ((htuples cs).2 ⟨hgroup, rfl⟩)

/-- An array of which not all items are arrays is a key as the values of one condition. -/
theorem readAs_array_iff {items : List Json} {k : PrimaryKey}
    (h : ∃ v ∈ items, ∀ vs, v ≠ .array vs) :
    ReadAs (.array items) k ↔ ∃ c, Tuple items c ∧ k = .meeting [c] := by
  constructor
  · intro hk
    cases hk with
    | tuple hc => exact ⟨_, hc, rfl⟩
    | tuples hcs =>
      obtain ⟨v, hv, hne⟩ := h
      obtain ⟨vs, rfl⟩ := all_isArray_iff.1 (all_isArray_of_tuples hcs) v hv
      exact absurd rfl (hne vs)
  · rintro ⟨c, hc, rfl⟩
    exact .tuple hc

/-- The only item of a list is a key as the values of one condition. -/
theorem readAs_singleton_iff {items : List Json} {k : PrimaryKey} :
    ReadAs (.array [.array items]) k ↔ ∃ c, Tuple items c ∧ k = .meeting [c] := by
  constructor
  · intro hk
    cases hk with
    | tuple hc => cases hc
    | tuples hcs =>
      obtain ⟨c, cs, ⟨vs, hvs, hc⟩, hrest, rfl⟩ := List.forall₂_cons_left_iff.1 hcs
      obtain rfl := List.forall₂_nil_left_iff.1 hrest
      obtain rfl := Json.array.inj hvs
      exact ⟨c, hc, rfl⟩
  · rintro ⟨c, hc, rfl⟩
    exact .tuples (.cons ⟨items, rfl, hc⟩ .nil)

/-- **What was written is read back.** A where list gives the key of its own conditions; with a group in it,
an empty one as well, it is refused. A condition that is no group gives the list of the one. Any array but a
list of arrays is the same key alone and as the only item of a list. -/
theorem ofJson_written :
    (∀ cs : List Condition, (∀ c ∈ cs, ¬ c.IsGroup) →
      ofJson (.array (Condition.listToJson cs)) = .ok (.meeting cs)) ∧
    (∀ cs : List Condition, (∃ c ∈ cs, c.IsGroup) →
      ofJson (.array (Condition.listToJson cs)) =
        .error (.invalidKey (Json.array (Condition.listToJson cs)).text)) ∧
    (∀ c : Condition, ¬ c.IsGroup → ofJson c.toJson = .ok (.meeting [c])) ∧
    ∀ items : List Json, (∃ v ∈ items, ∀ vs, v ≠ .array vs) →
      Agree (ofJson (.array items)) (ofJson (.array [.array items])) := by
  refine ⟨?_, ?_, ?_, ?_⟩
  · intro cs hcs
    rw [ofJson_eq_ok_iff, readAs_listToJson_iff]
    exact ⟨hcs, rfl⟩
  · rintro cs ⟨c, hc, hgroup⟩
    rw [ofJson_eq_error_iff]
    refine ⟨fun k hk => ?_, rfl⟩
    exact (readAs_listToJson_iff.1 hk).1 c hc hgroup
  · intro c hgroup
    obtain ⟨items, hitems, hc⟩ := tupleArray_toJson_iff.2 ⟨hgroup, rfl⟩
    rw [ofJson_eq_ok_iff, hitems]
    exact .tuple hc
  · intro items hitems
    simp only [agree_iff, readAs_array_iff hitems, readAs_singleton_iff, implies_true]

/-- A list of both kinds of conditions, one with an empty group, one condition, and a value with an array
in it. -/
theorem ofJson_written_roles :
    ofJson (.array (Condition.listToJson [.predicate "=" "orgId" "'o1'", .key "roleId" "r1"])) =
        .ok (.meeting [.predicate "=" "orgId" "'o1'", .key "roleId" "r1"]) ∧
      ofJson (.array (Condition.listToJson [.key "roleId" "r1", .group []])) =
        .error (.invalidKey
          (Json.array (Condition.listToJson [.key "roleId" "r1", .group []])).text) ∧
      ofJson (Condition.key "roleId" "r1").toJson = .ok (.meeting [.key "roleId" "r1"]) ∧
      Agree (ofJson (.array [.string "roleId", .array []]))
        (ofJson (.array [.array [.string "roleId", .array []]])) := by
  obtain ⟨hlist, hgroup, hone, hagree⟩ := ofJson_written
  refine ⟨hlist _ ?_, hgroup _ ⟨.group [], by simp, [], rfl⟩, hone _ ?_, hagree _ ⟨.string "roleId", ?_⟩⟩
  · simp [Condition.IsGroup]
  · simp [Condition.IsGroup]
  · simp

/-! ## A column with its value -/

/-- A column with its value, as the members of an object. -/
def pair (column : String) (value : Json) : Json := .ofMembers [("pk", .string column), ("v", value)]

theorem readAs_pair_iff {column : String} {value : Json} {k : PrimaryKey} :
    ReadAs (pair column value) k ↔ k = .having column value.plainText := by
  have hcolumn : Keyed.get? (Keyed.ofList [("pk", Json.string column), ("v", value)]) "pk" =
      some (.string column) := by
    simp [Keyed.get?_ofList, Keyed.get?_cons]
  have hvalue : Keyed.get? (Keyed.ofList [("pk", Json.string column), ("v", value)]) "v" =
      some value := by
    simp [Keyed.get?_ofList, Keyed.get?_cons]
  constructor
  · intro h
    cases h with
    | pair hcolumn' hvalue' =>
      cases hcolumn.symm.trans hcolumn'
      cases hvalue.symm.trans hvalue'
      rfl
  · rintro rfl
    exact .pair hcolumn hvalue

theorem readAs_strings_iff {column : String} {value : Json} {k : PrimaryKey} :
    ReadAs (.array [.string column, value]) k ↔
      ¬ value.Nested ∧ k = .meeting [.key column value.plainText] := by
  rw [readAs_array_iff ⟨.string column, by simp, fun _ => Json.noConfusion⟩]
  constructor
  · rintro ⟨c, hc, rfl⟩
    cases hc with
    | key _ hvalue => exact ⟨hvalue, rfl⟩
  · rintro ⟨hvalue, rfl⟩
    exact ⟨_, .key (Json.not_nested_string column) hvalue, rfl⟩

/-- **A column with its value is read like the condition of the two** exactly if the value is neither an
array nor an object. The pair is a key with any value, the condition with no other. -/
theorem agree_pair_iff (column : String) (value : Json) :
    Agree (ofJson (pair column value)) (ofJson (.array [.string column, value])) ↔
      ¬ value.Nested := by
  simp only [agree_iff, readAs_pair_iff, readAs_strings_iff, and_assoc, exists_and_left,
    exists_eq_left, toConditions]
  constructor
  · intro h
    exact ((h _).1 rfl).1
  · intro h cs
    exact ⟨fun hcs => ⟨h, hcs⟩, And.right⟩

/-- **A pair whose value is a list is a key, the condition of the two is none.** -/
theorem not_forall_agree_pair :
    ¬ ∀ (column : String) (value : Json),
      Agree (ofJson (pair column value)) (ofJson (.array [.string column, value])) := by
  intro h
  have hpair : ofJson (pair "roleId" (.array [.int 1])) = .ok (.having "roleId" "[1]") := by rfl
  have htuple : ofJson (.array [.string "roleId", .array [.int 1]]) =
      .error (.invalidKey "[\"roleId\",[1]]") := by rfl
  have hagree := h "roleId" (.array [.int 1])
  rw [hpair, htuple] at hagree
  cases hagree

end PrimaryKey

/-! ## What a key restricts -/

namespace Update

/-- An update or a delete by a key that a value gives. -/
inductive KeyedBy (v : Json) : Update → Prop
  | update {k : PrimaryKey} (h : PrimaryKey.ofJson v = .ok k) (connection : Option String)
      (table : String) : KeyedBy v (ofKey .update connection table (some k))
  | delete {k : PrimaryKey} (h : PrimaryKey.ofJson v = .ok k) (connection : Option String)
      (table : String) : KeyedBy v (ofKey .delete connection table (some k))
  | updateJson {k : PrimaryKey} (h : PrimaryKey.ofJson v = .ok k) (connection : Option String)
      (table : String) : KeyedBy v (ofJsonKey connection table v).value

/-- A request by a key has the conditions of the key. -/
theorem KeyedBy.exists_key {v : Json} {u : Update} (h : KeyedBy v u) :
    ∃ k, PrimaryKey.ReadAs v k ∧ u.conditions = k.toConditions := by
  cases h with
  | update h _ _ => exact ⟨_, PrimaryKey.ofJson_eq_ok_iff.1 h, rfl⟩
  | delete h _ _ => exact ⟨_, PrimaryKey.ofJson_eq_ok_iff.1 h, rfl⟩
  | updateJson h connection table =>
    refine ⟨_, PrimaryKey.ofJson_eq_ok_iff.1 h, ?_⟩
    rw [ofJsonKey, h]
    rfl

end Update

/-- A key has no condition exactly if it is the empty list. -/
theorem PrimaryKey.ReadAs.toConditions_eq_nil_iff {v : Json} {k : PrimaryKey} (h : ReadAs v k) :
    k.toConditions = [] ↔ v = .array [] := by
  cases h with
  | pair hcolumn hvalue => simp [toConditions]
  | tuple h => simp [toConditions, h.ne_nil]
  | tuples h =>
    cases h with
    | nil => simp [toConditions]
    | cons hv hvs => simp [toConditions]

/-- The empty list is a key, without any condition. -/
theorem PrimaryKey.ofJson_nil : ofJson (.array []) = .ok (.meeting []) :=
  ofJson_eq_ok_iff.2 (.tuples .nil)

namespace Update

/-- **Every key but the empty list restricts the requests that are made with it**, and no later call takes
a condition away. -/
theorem keyed_restricts_iff (v : Json) :
    (∀ u, KeyedBy v u → ∀ calls, (u.addAll calls).value.conditions ≠ []) ↔ v ≠ .array [] := by
  constructor
  · rintro h rfl
    exact h _ (.delete PrimaryKey.ofJson_nil none "") [] rfl
  · intro hne u hu calls hnil
    obtain ⟨k, hk, hconditions⟩ := hu.exists_key
    rw [conditions_addAll, List.append_eq_nil_iff, hconditions, hk.toConditions_eq_nil_iff] at hnil
    exact hne hnil.1

/-- **A delete by a key that is the empty list deletes every record.** -/
theorem not_forall_keyed_restricts :
    ¬ ∀ (v : Json) (u : Update), KeyedBy v u →
      ∀ calls, (u.addAll calls).value.conditions ≠ [] := by
  intro h
  have hdelete := KeyedBy.delete PrimaryKey.ofJson_nil none "a_users"
  exact h (.array []) _ hdelete [] rfl

end Update
end SemanticClient
