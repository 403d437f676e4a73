import SemanticClient.Proofs.Variable.Paths

/-!
# Producers are transparent

A producer may stand anywhere in a pool: under the first key of a path, in the middle of it, at its end, or
within what a path leads to. Whether it is called when a path comes by, or was called before, makes no
difference: resolving commutes with replacing every producer by what it gives.

A producer is called once wherever one is met, so this takes that no producer gives another one directly.
It may well give a pool that holds producers.

* `Variable.SingleCall.child?_evaluated`, `Variable.SingleCall.descend?_evaluated`: one level down, and
  along any keys.
* `Scope.find?_evaluated`: what keys lead to, from either pool.
* `Variable.descend?_append`: keys are followed in parts.
* `Scope.resolve_evaluated`: whole paths, with the notices they give.
-/

namespace SemanticClient

open Text

namespace Variable

/-! ## Producers called ahead -/

mutual

/-- A variable with every producer in it replaced by what it gives. -/
def evaluated : Variable → Variable
  | .scalar s => .scalar s
  | .list items => .list items
  | .pool entries => .pool (evaluatedEntries entries)
  | .producer _ v => evaluated v

/-- The entries of a pool with every producer in them replaced. -/
def evaluatedEntries : List (String × Variable) → List (String × Variable)
  | [] => []
  | (k, v) :: es => (k, evaluated v) :: evaluatedEntries es

end

/-- No producer in a variable gives another producer directly. -/
inductive SingleCall : Variable → Prop
  | scalar (s : String) : SingleCall (.scalar s)
  | list (items : List String) : SingleCall (.list items)
  | pool {entries : List (String × Variable)} (h : ∀ e ∈ entries, SingleCall e.2) :
      SingleCall (.pool entries)
  | producer {v : Variable} (number : ℕ) (hv : ∀ n x, v ≠ .producer n x) (h : SingleCall v) :
      SingleCall (.producer number v)

/-- No producer is left. -/
theorem evaluated_ne_producer : ∀ (v : Variable) (n : ℕ) (x : Variable), v.evaluated ≠ .producer n x
  | .scalar _, _, _ => Variable.noConfusion
  | .list _, _, _ => Variable.noConfusion
  | .pool _, _, _ => Variable.noConfusion
  | .producer _ v, n, x => evaluated_ne_producer v n x

theorem product_eq_self {v : Variable} (h : ∀ n x, v ≠ .producer n x) : v.product = v := by
  cases v with
  | scalar _ => rfl
  | list _ => rfl
  | pool _ => rfl
  | producer n x => exact absurd rfl (h n x)

/-- One level below a producer there is what is one level below its product. -/
theorem child?_producer {v : Variable} (n : ℕ) (h : ∀ m x, v ≠ .producer m x) (k : String) :
    (Variable.producer n v).child? k = v.child? k := by
  cases v with
  | scalar _ => rfl
  | list _ => rfl
  | pool _ => rfl
  | producer m x => exact absurd rfl (h m x)

theorem evaluated_product (v : Variable) : v.product.evaluated = v.evaluated := by
  cases v with
  | scalar _ => rfl
  | list _ => rfl
  | pool _ => rfl
  | producer _ _ => rfl

theorem evaluatedEntries_eq_map (entries : List (String × Variable)) :
    evaluatedEntries entries = entries.map fun e => (e.1, e.2.evaluated) := by
  induction entries with
  | nil => rfl
  | cons e es ih => rw [evaluatedEntries, ih, List.map_cons]

/-- Under every key there is what was there before, with its producers called. -/
theorem get?_evaluatedEntries (entries : List (String × Variable)) (k : String) :
    Keyed.get? (evaluatedEntries entries) k = (Keyed.get? entries k).map evaluated := by
  rw [evaluatedEntries_eq_map, Keyed.get?_map]

/-! ## One level and any number of levels -/

theorem SingleCall.get? {entries : List (String × Variable)} (h : SingleCall (.pool entries)) {k : String}
    {v : Variable} (hget : Keyed.get? entries k = some v) : v.SingleCall := by
  cases h with
  | pool h =>
    induction entries with
    | nil => cases hget
    | cons e es ih =>
      obtain ⟨hfirst, hrest⟩ := List.forall_mem_cons.1 h
      rw [Keyed.get?_cons] at hget
      split at hget
      · obtain rfl := Option.some.inj hget
        exact hfirst
      · exact ih hget hrest

/-- What a producer gives, or a variable itself, is no producer. -/
theorem SingleCall.product_ne_producer {v : Variable} (h : v.SingleCall) :
    ∀ n x, v.product ≠ .producer n x := by
  cases h with
  | scalar _ => exact fun _ _ => Variable.noConfusion
  | list _ => exact fun _ _ => Variable.noConfusion
  | pool _ => exact fun _ _ => Variable.noConfusion
  | producer _ hv _ => exact hv

theorem SingleCall.product {v : Variable} (h : v.SingleCall) : v.product.SingleCall := by
  cases h with
  | scalar s => exact .scalar s
  | list items => exact .list items
  | pool h => exact .pool h
  | producer _ _ h => exact h

theorem SingleCall.child {v w : Variable} (h : v.SingleCall) {k : String} (hw : v.child? k = some w) :
    w.SingleCall := by
  obtain ⟨entries, hpool, hget⟩ := child?_eq_some_iff.1 hw
  have hproduct := h.product
  rw [hpool] at hproduct
  exact hproduct.get? hget

/-- **One level down** it makes no difference whether the producers were called before. -/
theorem SingleCall.child?_evaluated {v : Variable} (h : v.SingleCall) (k : String) :
    v.evaluated.child? k = (v.child? k).map evaluated := by
  induction h with
  | scalar _ => rfl
  | list _ => rfl
  | @pool entries _ _ => exact get?_evaluatedEntries entries k
  | producer n hv _ ih =>
    -- a producer has to give the pool itself to be looked into
    rw [child?_producer n hv, evaluated, ih]

theorem SingleCall.descend {v w : Variable} (h : v.SingleCall) {ks : List String}
    (hw : v.descend? ks = some w) : w.SingleCall := by
  induction ks generalizing v with
  | nil =>
    obtain rfl := Option.some.inj hw
    exact h
  | cons k ks ih =>
    obtain ⟨x, hx, hw⟩ := Option.bind_eq_some_iff.1 hw
    exact ih (h.child hx) hw

/-- **Along any keys** neither. -/
theorem SingleCall.descend?_evaluated {v : Variable} (h : v.SingleCall) (ks : List String) :
    v.evaluated.descend? ks = (v.descend? ks).map evaluated := by
  induction ks generalizing v with
  | nil => rfl
  | cons k ks ih =>
    simp only [descend?, Option.bind_eq_bind, h.child?_evaluated k]
    cases hchild : v.child? k with
    | none => rfl
    | some x => exact ih (h.child hchild)

/-- Keys are followed in parts. -/
theorem descend?_append (v : Variable) (ks ls : List String) :
    v.descend? (ks ++ ls) = (v.descend? ks).bind fun x => x.descend? ls := by
  induction ks generalizing v with
  | nil => rfl
  | cons k ks ih =>
    simp only [List.cons_append, descend?, Option.bind_eq_bind, Option.bind_assoc, ih]

/-! ## Literals and JSON -/

mutual

/-- As JSON a variable is the same before and after. -/
theorem toJson_evaluated : ∀ v : Variable, v.evaluated.toJson = v.toJson
  | .scalar _ => rfl
  | .list _ => rfl
  | .pool entries => by rw [evaluated, toJson, toJson, entriesToJson_evaluatedEntries entries]
  | .producer _ v => by rw [evaluated, toJson, toJson_evaluated v]

theorem entriesToJson_evaluatedEntries :
    ∀ entries : List (String × Variable), entriesToJson (evaluatedEntries entries) = entriesToJson entries
  | [] => rfl
  | (k, v) :: es => by
    rw [evaluatedEntries, entriesToJson, entriesToJson, toJson_evaluated v,
      entriesToJson_evaluatedEntries es]

end

/-- Anything but a producer has the same literal before and after. -/
theorem literal?_evaluated {v : Variable} (h : ∀ n x, v ≠ .producer n x) :
    v.evaluated.literal? = v.literal? := by
  cases v with
  | scalar _ => rfl
  | list _ => rfl
  | pool _ => rfl
  | producer n x => exact absurd rfl (h n x)

end Variable

namespace Scope

/-! ## Paths -/

/-- A scope with every producer in its pools replaced by what it gives. -/
def evaluated (s : Scope) : Scope :=
  ⟨s.args.map Variable.evaluatedEntries, Variable.evaluatedEntries s.ambient⟩

/-- No producer in the pools of a scope gives another producer directly. -/
structure SingleCall (s : Scope) : Prop where
  args : ∀ p ∈ s.args, (Variable.pool p).SingleCall
  ambient : (Variable.pool s.ambient).SingleCall

theorem SingleCall.root {s : Scope} (h : s.SingleCall) (k : String) :
    (Variable.pool (s.root k)).SingleCall := by
  unfold Scope.root
  split
  · rename_i pool hargs
    split
    · exact h.args pool hargs
    · exact h.ambient
  · exact h.ambient

/-- A path starts in the same pool, since calling producers leaves the keys of a pool as they are. -/
theorem root_evaluated (s : Scope) (k : String) :
    s.evaluated.root k = Variable.evaluatedEntries (s.root k) := by
  unfold root evaluated
  cases s.args with
  | none => rfl
  | some pool =>
    have hcontains : Keyed.contains (Variable.evaluatedEntries pool) k = Keyed.contains pool k := by
      rw [Keyed.contains, Keyed.contains, Variable.get?_evaluatedEntries, Option.isSome_map]
    simp only [Option.map_some, hcontains]
    split <;> rfl

/-- **What keys lead to** is the same with the producers called before or on the way. -/
theorem find?_evaluated {s : Scope} (h : s.SingleCall) (ks : List String) :
    s.evaluated.find? ks = (s.find? ks).map Variable.evaluated := by
  cases ks with
  | nil => rfl
  | cons k ks =>
    have hget := Variable.get?_evaluatedEntries (s.root k) k
    simp only [find?, root_evaluated, Option.bind_eq_bind, hget]
    cases hv : Keyed.get? (s.root k) k with
    | none => rfl
    | some v =>
      have hcall := (h.root k).get? hv
      simp only [Option.map_some, Option.bind_some, hcall.descend?_evaluated]
      cases v.descend? ks with
      | none => rfl
      | some w =>
        -- the last call finds nothing left to do
        have hproduct := Variable.product_eq_self w.evaluated_ne_producer
        simp only [Option.map_some, Option.bind_some, hproduct, Variable.evaluated_product, Option.pure_def]

/-- What keys lead to is no producer. -/
theorem ne_producer_of_find? {s : Scope} (h : s.SingleCall) {ks : List String} {w : Variable}
    (hw : s.find? ks = some w) : ∀ n x, w ≠ .producer n x := by
  cases ks with
  | nil => cases hw
  | cons k ks =>
    obtain ⟨v, hget, hw⟩ := Option.bind_eq_some_iff.1 hw
    obtain ⟨u, hu, hw⟩ := Option.bind_eq_some_iff.1 hw
    obtain rfl := Option.some.inj hw
    exact (((h.root k).get? hget).descend hu).product_ne_producer

/-- What a path stands for is no producer. -/
theorem value_resolve_ne_producer {s : Scope} (h : s.SingleCall) (path : List Char) :
    ∀ n x, (s.resolve path).value ≠ .producer n x := by
  rw [value_resolve]
  cases hfind : s.find? (pathKeys (trim path)) with
  | none => exact fun _ _ => Variable.noConfusion
  | some w => exact ne_producer_of_find? h hfind

/-- Resolving commutes with calling producers, also in the notices that it gives. -/
theorem resolve_evaluated_eq_map {s : Scope} (h : s.SingleCall) (path : List Char) :
    s.evaluated.resolve path = Variable.evaluated <$> s.resolve path := by
  have hfind := find?_evaluated h (pathKeys (trim path))
  unfold resolve
  simp only [hfind]
  cases s.find? (pathKeys (trim path)) with
  | none => exact Traced.ext rfl (List.append_nil _).symm
  | some w => rfl

/-- A producer in the middle of a path is looked through: the keys behind it are followed from what it
gives. -/
theorem find?_through_producer {s : Scope} (h : s.SingleCall) {k : String} {ks ls : List String} {n : ℕ}
    {v : Variable} (hls : ls ≠ [])
    (hv : (Keyed.get? (s.root k) k).bind (fun x => x.descend? ks) = some (.producer n v)) :
    s.find? (k :: (ks ++ ls)) = (v.descend? ls).map Variable.product := by
  obtain ⟨x, hget, hx⟩ := Option.bind_eq_some_iff.1 hv
  have hproducer := ((h.root k).get? hget).descend hx
  obtain ⟨l, ls, rfl⟩ := List.exists_cons_of_ne_nil hls
  have hdescend : (Variable.producer n v).descend? (l :: ls) = v.descend? (l :: ls) := by
    have hv : ∀ m x, v ≠ .producer m x := hproducer.product_ne_producer
    rw [Variable.descend?, Variable.descend?, Variable.child?_producer n hv]
  simp only [find?, hget, Option.bind_eq_bind, Option.bind_some, Variable.descend?_append, hx, hdescend]
  cases v.descend? (l :: ls) with
  | none => rfl
  | some w => rfl

/-- **Producers are transparent.** Resolving with the producers of all pools called before gives what
resolving gives with the producers in it called afterwards. What a path stands for is never a producer, so
it has the literal and the JSON form of what is behind it. A producer in the middle of a path is looked
through as what it gives. -/
theorem resolve_evaluated {s : Scope} (h : s.SingleCall) (path : List Char) :
    s.evaluated.resolve path = Variable.evaluated <$> s.resolve path ∧
    (∀ n v, (s.resolve path).value ≠ .producer n v) ∧
    (s.resolve path).value.literal? = (s.evaluated.resolve path).value.literal? ∧
    (s.resolve path).value.toJson = (s.evaluated.resolve path).value.toJson ∧
    ∀ (k : String) (ks ls : List String) (n : ℕ) (v : Variable),
      pathKeys (trim path) = k :: (ks ++ ls) → ls ≠ [] →
      (Keyed.get? (s.root k) k).bind (fun x => x.descend? ks) = some (.producer n v) →
      (s.resolve path).value =
        ((v.descend? ls).map Variable.product).getD (.scalar (String.ofList (trim path))) := by
  have hne := value_resolve_ne_producer h path
  have heq := resolve_evaluated_eq_map h path
  have hvalue : (s.evaluated.resolve path).value = (s.resolve path).value.evaluated := by
    rw [heq, Traced.value_map]
  refine ⟨heq, hne, ?_, ?_, ?_⟩
  · rw [hvalue, Variable.literal?_evaluated hne]
  · rw [hvalue, Variable.toJson_evaluated]
  · intro k ks ls n v hkeys hls hv
    rw [value_resolve, hkeys, find?_through_producer h hls hv]

/-- The field of a form is found by calling the producers of both, before or on the way. -/
theorem resolve_evaluated_form :
    (resolve ⟨some formPool, []⟩ "form.org".toList).value = .scalar "o-1" ∧
      evaluated ⟨some formPool, []⟩ =
        ⟨some [("form", .pool [("org", .scalar "o-1"), ("user", .pool [])])], []⟩ ∧
      (evaluated ⟨some formPool, []⟩).resolve "form.org".toList =
        Variable.evaluated <$> resolve ⟨some formPool, []⟩ "form.org".toList := by
  have hempty : (Variable.pool []).SingleCall := .pool (by simp)
  have horg : (Variable.producer 1 (.scalar "o-1")).SingleCall := .producer 1 (by simp) (.scalar "o-1")
  have hform : (Variable.pool formPool).SingleCall := by
    refine .pool fun e he => ?_
    obtain rfl := List.mem_singleton.1 he
    exact .producer 0 (by simp) (.pool (by simp [horg, hempty]))
  have h : SingleCall ⟨some formPool, []⟩ := ⟨fun p hp => by simp_all, hempty⟩
  obtain ⟨heq, -, -, -, hthrough⟩ := resolve_evaluated h "form.org".toList
  exact ⟨hthrough "form" [] ["org"] 0 _ (by decide) (by decide) rfl, rfl, heq⟩

end Scope
end SemanticClient
