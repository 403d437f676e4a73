import SemanticClient.Proofs.Binding.Request
import SemanticClient.Proofs.Request.Wire
import SemanticClient.Proofs.Spec.Draft
import SemanticClient.Proofs.Spec.Forms

/-!
# What a request asks for

The body of a request has the name of what it asks for in its main table, and a dataset request has it a
second time as its semantic key. A join spec cannot leave the name out, since no table of a spec is empty.
A semantic key can: a text that is not blank may have nothing before its first comma, or nothing but the
table name that keys once started with. Such a key passes every check, and the request that is built for
it asks for nothing.

* `Spec.JoinList.table_ne_empty`: no table of a join spec is empty.
* `SemanticKey.key_eq_empty_iff`: which texts give an empty key.
* `Binder.buildRequest_named_iff`: a request has a name unless its semantic key has none.
* `Binder.not_forall_named`: valid options whose request asks for nothing.
-/

namespace SemanticClient

/-! ## Tables of join specs -/

namespace Spec

namespace Segment

/-- The table of a segment that can be read is not empty. -/
def HasTable : Segment → Prop
  | .joined _ table _ _ | .alone table _ => table ≠ []
  | .unreadable => True

theorem Reading.hasTable {cs : List Char} {segment : Segment} (h : Reading cs segment) :
    segment.HasTable := by
  cases h with
  | unreadable => exact trivial
  | alone h => exact mt String.ofList_eq_empty_iff.2 h.name.ne_empty
  | joined _ htable _ => exact mt String.ofList_eq_empty_iff.2 htable.ne_empty

end Segment

namespace JoinList

theorem table_ne_empty_of_draftSegment {mainKnown : Bool} {segment : List Char} {j : Join}
    (h : draftSegment mainKnown segment = .ok j) : j.table ≠ "" := by
  have htable := (Segment.reading_ofText segment).hasTable
  unfold draftSegment at h
  cases hread : Segment.ofText segment with
  | joined kind table a condition =>
    rw [hread] at h htable
    cases h
    exact mt String.ofList_eq_empty_iff.1 htable
  | alone table a =>
    rw [hread] at h htable
    cases mainKnown with
    | true => cases h
    | false =>
      cases h
      exact mt String.ofList_eq_empty_iff.1 htable
  | unreadable =>
    rw [hread] at h
    cases h

theorem table_ne_empty_of_mem_draftSegments {segments : List (List Char)} {j : Join} :
    ∀ {mainKnown : Bool}, .ok j ∈ draftSegments mainKnown segments → j.table ≠ "" := by
  induction segments with
  | nil =>
    intro mainKnown h
    cases h
  | cons segment segments ih =>
    intro mainKnown h
    rcases List.mem_cons.1 h with h | h
    · exact table_ne_empty_of_draftSegment h.symm
    · exact ih h

theorem mem_ofResults_joins {rs : List (Except SpecError Join)} {j : Join} :
    j ∈ (ofResults rs).joins ↔ .ok j ∈ rs := by
  simp only [ofResults, List.mem_filterMap]
  constructor
  · rintro ⟨r, hr, he⟩
    cases r with
    | error e => cases he
    | ok j' =>
      cases he
      exact hr
  · intro h
    exact ⟨.ok j, h, rfl⟩

/-- **No table of a join spec is empty**, whatever the variables of its conditions are. -/
theorem table_ne_empty (s : Scope) (spec : String) {j : Join}
    (h : j ∈ (parse s spec).value.joins) : j.table ≠ "" := by
  -- a table is that of its draft, in which no variable has a part
  have hdraft := (parse_draft s spec).1
  obtain ⟨i, hi, rfl⟩ := List.getElem_of_mem h
  have hi' : i < (draft spec).joins.length := hdraft.length_eq ▸ hi
  have htable := (hdraft.get hi' hi).table
  simp only [List.get_eq_getElem] at htable
  rw [htable]
  exact table_ne_empty_of_mem_draftSegments (mem_ofResults_joins.1 (List.getElem_mem hi'))

end JoinList
end Spec

/-! ## Empty keys -/

namespace SemanticKey

/-- The text is not blank, but nothing stands before its first comma, or nothing but the table name that
keys once started with. -/
def Nameless (text : String) : Prop :=
  Text.blankString text = false ∧ (keyText text = [] ∨ keyText text = legacyTable)

instance (text : String) : Decidable (Nameless text) :=
  inferInstanceAs (Decidable (_ ∧ _))

theorem value_readKey (key : List Char) :
    (readKey key).value =
      String.ofList (if legacyTable.isPrefixOf key then key.drop legacyTable.length else key) := by
  unfold readKey
  split
  · rfl
  · rfl

theorem value_readKey_eq_empty_iff (key : List Char) :
    (readKey key).value = "" ↔ key = [] ∨ key = legacyTable := by
  rw [value_readKey, String.ofList_eq_empty_iff]
  constructor
  · intro h
    split at h
    · rename_i hprefix
      obtain ⟨rest, rfl⟩ := List.isPrefixOf_iff_prefix.1 hprefix
      rw [List.drop_left] at h
      rw [h, List.append_nil]
      exact Or.inr rfl
    · exact Or.inl h
  · rintro (rfl | rfl)
    · rfl
    · rfl

/-- **Which texts give an empty key.** -/
theorem key_eq_empty_iff {s : Scope} {text : String} {k : SemanticKey}
    (h : (parse? s text).value = some k) : k.key = "" ↔ Nameless text := by
  cases hblank : Text.blankString text with
  | true =>
    rw [value_parse?_of_blank s hblank] at h
    cases h
  | false =>
    rw [value_parse? s hblank] at h
    obtain rfl := Option.some.inj h
    rw [value_readKey_eq_empty_iff, Nameless, hblank]
    simp only [true_and]

end SemanticKey

/-! ## Requests -/

namespace PagedRequest

/-- The body that a request is sent as. -/
def body : PagedRequest → Body
  | .query q => .query q
  | .dataset d => .dataset d

theorem bodies_envelope (r : PagedRequest) (s : Session) (sequence : Fin 1001) :
    (r.envelope s sequence).bodies = [r.body] := by
  cases r with
  | query q => rfl
  | dataset d => rfl

/-- The body says what it asks for: it has a main table, which is not empty, and a dataset request has the
same text for its semantic key. -/
def Named (r : PagedRequest) : Prop :=
  ∃ name, name ≠ "" ∧ r.body.toJson.get? "f" = some (.string name) ∧
    ∀ d, r = .dataset d → r.body.toJson.get? "sk" = some (.string name)

theorem named_query_iff (q : Query) : (query q).Named ↔ q.select.table ≠ "" := by
  have htable : q.toJson.get? "f" = some (.string q.select.table) := by
    simp [Query.toJson, Query.members, Select.members]
  constructor
  · rintro ⟨name, hne, hf, -⟩
    cases htable.symm.trans hf
    exact hne
  · intro hne
    refine ⟨_, hne, htable, ?_⟩
    rintro d ⟨⟩

theorem named_dataset_iff (d : Dataset) :
    (dataset d).Named ↔ d.select.table ≠ "" ∧ d.semanticKey = some d.select.table := by
  have htable : d.toJson.get? "f" = some (.string d.select.table) := by
    simp [Dataset.toJson, Dataset.members, Select.members]
  have hkey : d.toJson.get? "sk" = d.semanticKey.map .string := by
    simp [Dataset.toJson, Dataset.members, Select.members]
  constructor
  · rintro ⟨name, hne, hf, hsk⟩
    cases htable.symm.trans hf
    refine ⟨hne, Option.map_injective Json.string_injective ?_⟩
    exact hkey.symm.trans (hsk d rfl)
  · rintro ⟨hne, hsk⟩
    refine ⟨_, hne, htable, fun _ _ => ?_⟩
    show d.toJson.get? "sk" = _
    rw [hkey, hsk]
    rfl

end PagedRequest

namespace Binder

open Spec

theorem table_ne_empty_of_queryOf {connection : Option String} {s : Scope} {o : BindOptions}
    {conditions : List Condition} {joinSpec : String} {q : Query}
    (h : (queryOf connection s o conditions joinSpec).value = .ok q) : q.select.table ≠ "" := by
  rw [value_queryOf, value_compile] at h
  cases horders : ordersOf o.orderSpec (JoinList.parse s joinSpec).value.joins with
  | error e =>
    rw [horders] at h
    cases h
  | ok orders =>
    simp only [horders, Except.map, Except.bind, Compiled.value_toQuery, Compiled.main?] at h
    cases hmain : JoinList.main? (JoinList.parse s joinSpec).value.joins with
    | none =>
      rw [hmain] at h
      cases h
    | some main =>
      rw [hmain] at h
      cases h
      exact JoinList.table_ne_empty s joinSpec (List.mem_of_find?_eq_some hmain)

variable {b : Binder} {o : BindOptions} {conditions : List Condition} {request : PagedRequest}

/-- A join spec names what it asks for. -/
theorem named_of_joinsRequest (h : b.joinsRequest o conditions = .ok request) : request.Named := by
  unfold joinsRequest at h
  split at h
  · cases h
  · split at h
    · rename_i q hq
      cases h
      exact (PagedRequest.named_query_iff q).2 (table_ne_empty_of_queryOf hq)
    · cases h

/-- A semantic key does, unless it is empty. -/
theorem named_datasetOf_iff (connection : Option String) (k : SemanticKey) :
    (PagedRequest.dataset (datasetOf connection o conditions k).value).Named ↔ k.key ≠ "" := by
  rw [PagedRequest.named_dataset_iff, value_datasetOf]
  show k.key ≠ "" ∧ (some k.key).filter (!·.isEmpty) = some k.key ↔ k.key ≠ ""
  refine and_iff_left_of_imp fun hne => ?_
  simpa [Option.filter_eq_some_iff] using hne

/-- **What a request asks for.** A request that is built for a binding, valid or not, has a name unless the
binding's semantic key has none: the key is not blank, but before its first comma there is nothing, or
nothing but the table name that keys once started with. -/
theorem buildRequest_named_iff (h : (b.buildRequest o conditions).value = .ok request) :
    request.Named ↔ ∀ sk ∈ o.semanticKey, ¬ SemanticKey.Nameless sk := by
  rw [value_buildRequest] at h
  cases hkey : b.keyOf? o with
  | some k =>
    rw [hkey] at h
    cases h
    obtain ⟨sk, hsk, hparse⟩ := Option.bind_eq_some_iff.1 hkey
    rw [named_datasetOf_iff, ne_eq, SemanticKey.key_eq_empty_iff hparse, hsk]
    simp only [Option.mem_some_iff, forall_eq']
  | none =>
    rw [hkey] at h
    refine iff_of_true (named_of_joinsRequest h) ?_
    intro sk hsk hnameless
    -- a nameless key is not blank, so it would have been read
    have hread := SemanticKey.value_parse? (b.scope o) hnameless.1
    rw [keyOf?, hsk, Option.bind_some, hread] at hkey
    cases hkey

/-- A binder of a session, with no handlers and no variables. -/
def adminBinder : Binder := ofSession (.ofConfig .standard) (.ofInfo ⟨"ss-01", "admin", []⟩) [] []

theorem buildRequest_named_roles :
    ∃ request, (adminBinder.buildRequest rolesOptions []).value = .ok request ∧ request.Named := by
  obtain ⟨d, hd, -⟩ := adminBinder.exists_dataset_of_key (o := rolesOptions) [] rfl (by decide)
  refine ⟨_, hd, (buildRequest_named_iff hd).2 ?_⟩
  rintro sk ⟨⟩
  decide

/-- Options whose semantic key has an argument and no name. -/
def namelessOptions : BindOptions := { BindOptions.empty with semanticKey := some ", all" }

/-- **Valid options whose request asks for nothing.** -/
theorem not_forall_named :
    ¬ ∀ (b : Binder) (handlers : Handlers) (o : BindOptions) (conditions : List Condition)
      (request : PagedRequest), (o.validate handlers).value = .ok () →
      (b.buildRequest o conditions).value = .ok request → request.Named := by
  intro hall
  have hvalid : (namelessOptions.validate []).value = .ok () := by rfl
  have hkey : adminBinder.keyOf? namelessOptions = some ⟨"", [.scalar "all"]⟩ := by rfl
  have hbuild := adminBinder.value_buildRequest namelessOptions []
  rw [hkey] at hbuild
  have hnamed := hall adminBinder [] namelessOptions [] _ hvalid hbuild
  rw [named_datasetOf_iff] at hnamed
  exact hnamed rfl

end Binder
end SemanticClient
