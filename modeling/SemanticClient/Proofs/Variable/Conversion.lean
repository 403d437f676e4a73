import SemanticClient.Proofs.Protocol.Texts
import SemanticClient.Variable.Pool

/-!
# Variables as JSON and back

Variables are turned into JSON and read from it. Nothing is lost on the way there and back, except that a
producer is called. The other way round JSON loses its kinds: what a variable cannot hold is held as its
text, and a member that is `null` is not held at all. `Flattened` says what is left, without a variable in
between.

The item of an array and the member of an object fare differently. A `null` item stays, as the text
`null`, and an item with items or members of its own becomes one text; a `null` member goes, and what is
in a member is treated like any other value.

* `Variable.ofJson?_toJson`, `Pool.ofJson?_toJson`: there and back.
* `Json.throughVariable?_eq_some_iff`: what is left of a JSON value.
* `Variable.json_conversions`: both, and that nothing more is lost the second time.
-/

namespace SemanticClient

/-! ## There and back -/

namespace Variable

/-- A variable with no producer in it. -/
inductive ProducerFree : Variable → Prop
  | scalar (s : String) : ProducerFree (.scalar s)
  | list (items : List String) : ProducerFree (.list items)
  | pool {entries : List (String × Variable)} (h : ∀ e ∈ entries, ProducerFree e.2) :
      ProducerFree (.pool entries)

/-- A pool is read back if every variable in it is. -/
theorem entriesOfJson_entriesToJson {entries : List (String × Variable)}
    (h : ∀ e ∈ entries, ofJson? e.2.toJson = some e.2) :
    entriesOfJson (entriesToJson entries) = entries := by
  induction entries with
  | nil => rfl
  | cons e es ih =>
    obtain ⟨hfirst, hrest⟩ := List.forall_mem_cons.1 h
    rw [entriesToJson, entriesOfJson, hfirst, ih hrest]

/-- **A variable without producers is read back from its JSON.** -/
theorem ofJson?_toJson {v : Variable} (h : v.ProducerFree) : ofJson? v.toJson = some v := by
  induction h with
  | scalar s => rfl
  | list items =>
    have hitems : (items.map Json.string).map Json.plainText = items := by
      rw [List.map_map]
      exact List.map_id items
    rw [toJson, Json.strings, ofJson?, hitems]
  | pool _ ih => rw [toJson, ofJson?, entriesOfJson_entriesToJson ih]

/-- Only `null` has no variable. -/
theorem ofJson?_eq_none_iff {j : Json} : ofJson? j = none ↔ j = .null := by
  cases j <;> simp [ofJson?]

mutual

/-- What is read from JSON has no producer in it. -/
theorem producerFree_of_ofJson? : ∀ {j : Json} {v : Variable}, ofJson? j = some v → v.ProducerFree
  | .null, _, h => nomatch h
  | .bool b, _, h => Option.some.inj h ▸ .scalar (Json.bool b).text
  | .number n, _, h => Option.some.inj h ▸ .scalar n.text
  | .string s, _, h => Option.some.inj h ▸ .scalar s
  | .array items, _, h => Option.some.inj h ▸ .list (items.map Json.plainText)
  | .object members, _, h => Option.some.inj h ▸ .pool (producerFree_entriesOfJson members)

theorem producerFree_entriesOfJson :
    ∀ (members : List (String × Json)), ∀ e ∈ entriesOfJson members, e.2.ProducerFree
  | [] => fun e he => nomatch he
  | (k, j) :: ms => by
    have hrest := producerFree_entriesOfJson ms
    unfold entriesOfJson
    cases hj : ofJson? j with
    | none => exact hrest
    | some v => exact List.forall_mem_cons.2 ⟨producerFree_of_ofJson? hj, hrest⟩

end

end Variable

namespace Pool

/-- A pool is read from JSON where a variable is that turns out to be one. -/
theorem ofJson?_eq_some_iff {j : Json} {p : Pool} :
    ofJson? j = some p ↔ Variable.ofJson? j = some (.pool p) := by
  cases j <;> simp [ofJson?, Variable.ofJson?]

/-- **A pool without producers is read back from its JSON.** -/
theorem ofJson?_toJson {p : Pool} (h : (Variable.pool p).ProducerFree) : ofJson? p.toJson = some p :=
  ofJson?_eq_some_iff.2 (Variable.ofJson?_toJson h)

end Pool

/-! ## What is left of JSON -/

namespace Json

/-- What is left of a JSON value that has been a variable. -/
def throughVariable? (j : Json) : Option Json := (Variable.ofJson? j).map Variable.toJson

mutual

/-- What is left of a JSON value, unless it is `null`. -/
inductive Flattened : Json → Json → Prop
  | string (s : String) : Flattened (.string s) (.string s)
  | bool (b : Bool) : Flattened (.bool b) (.string (Json.bool b).text)
  | number (n : Number) : Flattened (.number n) (.string n.text)
  | array {items : List Json} {texts : List String} (h : List.Forall₂ PlainText items texts) :
      Flattened (.array items) (.strings texts)
  | object {members left : List (String × Json)} (h : FlattenedMembers members left) :
      Flattened (.object members) (.object left)

/-- What is left of members: each under its own key, save those that are `null`. -/
inductive FlattenedMembers : List (String × Json) → List (String × Json) → Prop
  | nil : FlattenedMembers [] []
  | dropped (k : String) {members left : List (String × Json)} (h : FlattenedMembers members left) :
      FlattenedMembers ((k, .null) :: members) left
  | kept (k : String) {j j' : Json} {members left : List (String × Json)} (hj : Flattened j j')
      (h : FlattenedMembers members left) : FlattenedMembers ((k, j) :: members) ((k, j') :: left)

end

/-- JSON without `null`. -/
inductive NullFree : Json → Prop
  | string (s : String) : NullFree (.string s)
  | bool (b : Bool) : NullFree (.bool b)
  | number (n : Number) : NullFree (.number n)
  | array {items : List Json} (h : ∀ j ∈ items, NullFree j) : NullFree (.array items)
  | object {members : List (String × Json)} (h : ∀ m ∈ members, NullFree m.2) :
      NullFree (.object members)

mutual

/-- The variable of a JSON value has what is left of it. -/
theorem flattened_of_ofJson? : ∀ {j : Json} {v : Variable}, Variable.ofJson? j = some v →
    Flattened j v.toJson
  | .null, _, h => nomatch h
  | .bool b, _, h => Option.some.inj h ▸ .bool b
  | .number n, _, h => Option.some.inj h ▸ .number n
  | .string s, _, h => Option.some.inj h ▸ .string s
  | .array _, _, h => Option.some.inj h ▸ .array (forall₂_plainText_iff.2 rfl)
  | .object members, _, h => Option.some.inj h ▸ .object (flattenedMembers_entriesOfJson members)

theorem flattenedMembers_entriesOfJson : ∀ members : List (String × Json),
    FlattenedMembers members (Variable.entriesToJson (Variable.entriesOfJson members))
  | [] => .nil
  | (k, j) :: ms => by
    have hrest := flattenedMembers_entriesOfJson ms
    unfold Variable.entriesOfJson
    cases hj : Variable.ofJson? j with
    | none =>
      obtain rfl := Variable.ofJson?_eq_none_iff.1 hj
      exact .dropped k hrest
    | some v => exact .kept k (flattened_of_ofJson? hj) hrest

end

mutual

/-- What is left of a JSON value is what its variable has. -/
theorem throughVariable?_of_flattened : ∀ {j j' : Json}, Flattened j j' → j.throughVariable? = some j'
  | _, _, .string _ => rfl
  | _, _, .bool _ => rfl
  | _, _, .number _ => rfl
  | _, _, .array h => by
    rw [forall₂_plainText_iff.1 h]
    rfl
  | _, _, .object h => by
    have hmembers := entriesToJson_of_flattenedMembers h
    rw [throughVariable?, Variable.ofJson?, Option.map_some, Variable.toJson, hmembers]

theorem entriesToJson_of_flattenedMembers : ∀ {members left : List (String × Json)},
    FlattenedMembers members left →
      Variable.entriesToJson (Variable.entriesOfJson members) = left
  | _, _, .nil => rfl
  | _, _, .dropped _ h => by
    have hrest := entriesToJson_of_flattenedMembers h
    rwa [Variable.entriesOfJson, Variable.ofJson?]
  | _, _, .kept k hj h => by
    have hrest := entriesToJson_of_flattenedMembers h
    obtain ⟨v, hv, hj'⟩ := Option.map_eq_some_iff.1 (throughVariable?_of_flattened hj)
    simp only [Variable.entriesOfJson, hv, Variable.entriesToJson, hj', hrest]

end

/-- **What is left of a JSON value.** -/
theorem throughVariable?_eq_some_iff {j j' : Json} : j.throughVariable? = some j' ↔ Flattened j j' := by
  constructor
  · intro h
    obtain ⟨v, hv, rfl⟩ := Option.map_eq_some_iff.1 h
    exact flattened_of_ofJson? hv
  · exact throughVariable?_of_flattened

/-- Everything but `null` leaves something. -/
theorem exists_throughVariable? {j : Json} (h : j ≠ .null) : ∃ j', j.throughVariable? = some j' := by
  cases hj : Variable.ofJson? j with
  | none => exact absurd (Variable.ofJson?_eq_none_iff.1 hj) h
  | some v => exact ⟨v.toJson, by rw [throughVariable?, hj]; rfl⟩

/-- **Nothing more is lost the second time.** -/
theorem throughVariable?_idem {j j' : Json} (h : j.throughVariable? = some j') :
    j'.throughVariable? = some j' := by
  obtain ⟨v, hv, rfl⟩ := Option.map_eq_some_iff.1 h
  have hback := Variable.ofJson?_toJson (Variable.producerFree_of_ofJson? hv)
  rw [throughVariable?, hback, Option.map_some]

end Json

mutual

/-- A variable has no `null` in its JSON. -/
theorem Variable.nullFree_toJson : ∀ v : Variable, v.toJson.NullFree
  | .scalar s => .string s
  | .list items => .array fun j hj => by
    obtain ⟨s, -, rfl⟩ := List.mem_map.1 hj
    exact .string s
  | .pool entries => .object (nullFree_entriesToJson entries)
  | .producer _ v => nullFree_toJson v

theorem Variable.nullFree_entriesToJson :
    ∀ (entries : List (String × Variable)), ∀ m ∈ entriesToJson entries, m.2.NullFree
  | [] => fun _ hm => nomatch hm
  | (_, v) :: es => List.forall_mem_cons.2 ⟨nullFree_toJson v, nullFree_entriesToJson es⟩

end

/-- **The conversions between variables and JSON.** A variable or a pool without producers is read back
from its JSON as it was. A JSON value other than `null` that has been a variable is left without `null`,
flattened as `Json.Flattened` says, and the same when it is a variable once more. -/
theorem Variable.json_conversions :
    (∀ v : Variable, v.ProducerFree → ofJson? v.toJson = some v) ∧
    (∀ p : Pool, (Variable.pool p).ProducerFree → Pool.ofJson? p.toJson = some p) ∧
    ∀ j : Json, j ≠ .null → ∃ j', j.throughVariable? = some j' ∧ j'.NullFree ∧ Json.Flattened j j' ∧
      j'.throughVariable? = some j' := by
  refine ⟨fun v => ofJson?_toJson, fun p => Pool.ofJson?_toJson, fun j hj => ?_⟩
  obtain ⟨j', h⟩ := Json.exists_throughVariable? hj
  obtain ⟨v, -, hv⟩ := Option.map_eq_some_iff.1 h
  have hnull : j'.NullFree := hv ▸ nullFree_toJson v
  exact ⟨j', h, hnull, Json.throughVariable?_eq_some_iff.1 h, Json.throughVariable?_idem h⟩

/-- A form of a text, a list with an item that is no text, and a member that is `null`. -/
def formJson : Json :=
  .object [("ids", .array [.string "a", .null, .array [.bool true]]), ("note", .null), ("open", .bool true)]

/-- The form loses its `null` member, and the rest of it becomes text; after that it stays the same. -/
theorem Variable.json_conversions_form :
    (∃ j', formJson.throughVariable? = some j' ∧ Json.Flattened formJson j' ∧
      j'.throughVariable? = some j') ∧
    formJson.throughVariable? =
      some (.object [("ids", Json.strings ["a", "null", "[true]"]), ("open", .string "true")]) ∧
    ofJson? (Variable.pool [("id", .list ["7"])]).toJson = some (.pool [("id", .list ["7"])]) ∧
    Pool.ofJson? (Pool.toJson [("id", .list ["7"])]) = some [("id", .list ["7"])] := by
  have hid : (Variable.pool [("id", .list ["7"])]).ProducerFree := .pool (by simp [ProducerFree.list])
  obtain ⟨hvariable, hpool, hjson⟩ := json_conversions
  obtain ⟨j', hthrough, -, hflattened, hagain⟩ := hjson formJson Json.noConfusion
  exact ⟨⟨j', hthrough, hflattened, hagain⟩, rfl, hvariable _ hid, hpool _ hid⟩

end SemanticClient
