/-!
# Keyed collections

Entries under text keys, in increasing order of the keys and with one entry a key. JSON objects,
variable pools, message catalogs and pager tables are all of this kind, so the order in which their
entries are shown never depends on the order in which they were put in.

* `get?_insert`: putting an entry in changes what is found under its own key and nothing else.
* `get?_map`: entries changed in place stay under their keys.
* `get?_ofList`: of the entries of a list, the last one under a key is found.
* `Ordered.insert`: putting an entry in keeps the keys in order.
* `Ordered.ext`: two ordered collections that find the same under every key are the same.
-/

namespace SemanticClient

/-- Entries under text keys. -/
abbrev Keyed (α : Type) := List (String × α)

namespace Keyed

variable {α β : Type}

/-- The entry under a key. -/
def get? (m : Keyed α) (k : String) : Option α := m.lookup k

/-- Whether there is an entry under a key. -/
def contains (m : Keyed α) (k : String) : Bool := (get? m k).isSome

/-- Puts an entry in at the place of its key, over any entry that the key had. -/
def insert (k : String) (a : α) : Keyed α → Keyed α
  | [] => [(k, a)]
  | (l, b) :: m =>
    if k = l then (k, a) :: m
    else if k < l then (k, a) :: (l, b) :: m
    else (l, b) :: insert k a m

/-- The entries of a list that may repeat keys; of two entries under a key the later one stays. -/
def ofList (entries : List (String × α)) : Keyed α :=
  entries.foldl (fun m e => insert e.1 e.2 m) []

/-- The keys, in order. -/
def keys (m : Keyed α) : List String := m.map (·.1)

/-- Keys in increasing order, so no key twice. -/
def Ordered (m : Keyed α) : Prop := (keys m).Pairwise (· < ·)

theorem get?_nil (k : String) : get? ([] : Keyed α) k = none := rfl

theorem get?_cons (l k : String) (b : α) (m : Keyed α) :
    get? ((l, b) :: m) k = if k = l then some b else get? m k := by
  rw [get?, List.lookup_cons]
  by_cases h : k = l
  · rw [if_pos h, beq_iff_eq.2 h]
  · rw [if_neg h, beq_false_of_ne h]
    rfl

theorem contains_iff {m : Keyed α} {k : String} : m.contains k = true ↔ k ∈ m.keys := by
  induction m with
  | nil => exact ⟨Bool.noConfusion, fun h => absurd h List.not_mem_nil⟩
  | cons e m ih =>
    obtain ⟨j, a⟩ := e
    have hkeys : k ∈ keys ((j, a) :: m) ↔ k = j ∨ k ∈ keys m := List.mem_cons
    rw [contains, get?_cons, hkeys, ← ih]
    by_cases h : k = j
    · simp [h]
    · simp [h, contains]

/-- Entries changed in place are found changed under the keys they had. -/
theorem get?_map (f : α → β) (m : Keyed α) (k : String) :
    get? (m.map fun e => (e.1, f e.2)) k = (get? m k).map f := by
  induction m with
  | nil => rfl
  | cons e m ih =>
    obtain ⟨j, a⟩ := e
    rw [List.map_cons, get?_cons, get?_cons, ih]
    split <;> rfl

/-- An entry put in is found under its own key, and every other key finds what it found before. -/
theorem get?_insert (k l : String) (a : α) (m : Keyed α) :
    get? (insert k a m) l = if l = k then some a else get? m l := by
  induction m with
  | nil => simp [insert, get?_cons, get?_nil]
  | cons e m ih =>
    obtain ⟨j, b⟩ := e
    simp only [insert]
    split
    · subst_vars; simp only [get?_cons]; split <;> rfl
    · split
      · simp only [get?_cons]
      · simp only [get?_cons, ih]
        split <;> split <;> simp_all

theorem mem_keys_insert {k l : String} {a : α} {m : Keyed α} :
    l ∈ keys (insert k a m) ↔ l = k ∨ l ∈ keys m := by
  induction m with
  | nil => simp [insert, keys]
  | cons e m ih =>
    obtain ⟨j, b⟩ := e
    simp only [keys, List.map_cons, List.mem_cons] at ih ⊢
    rw [insert]
    split
    · subst_vars
      simp
    · split
      · simp
      · simp only [List.map_cons, List.mem_cons, ih]
        exact or_left_comm

/-- Putting an entry in keeps the keys in order. -/
theorem Ordered.insert {m : Keyed α} (h : Ordered m) (k : String) (a : α) :
    Ordered (Keyed.insert k a m) := by
  induction m with
  | nil => exact List.pairwise_singleton _ _
  | cons e m ih =>
    obtain ⟨j, b⟩ := e
    obtain ⟨hj, hm⟩ := List.pairwise_cons.1 h
    rw [Keyed.insert]
    split
    · subst_vars
      exact h
    · rename_i hne
      split
      · rename_i hlt
        refine List.pairwise_cons.2 ⟨fun l hl => ?_, h⟩
        rcases List.mem_cons.1 hl with rfl | hl
        · exact hlt
        · exact String.lt_trans hlt (hj l hl)
      · rename_i hnlt
        refine List.pairwise_cons.2 ⟨fun l hl => ?_, ih hm⟩
        rcases mem_keys_insert.1 hl with rfl | hl
        · exact Std.lt_of_le_of_ne (String.not_lt.1 hnlt) (Ne.symm hne)
        · exact hj l hl

theorem ordered_ofList (entries : List (String × α)) : Ordered (ofList entries) := by
  have h : ∀ m : Keyed α, Ordered m →
      Ordered (entries.foldl (fun m e => Keyed.insert e.1 e.2 m) m) := by
    induction entries with
    | nil => exact fun _ hm => hm
    | cons e es ih => exact fun m hm => ih _ (hm.insert e.1 e.2)
  exact h [] List.Pairwise.nil

theorem get?_append (m n : Keyed α) (k : String) :
    get? (m ++ n) k = (get? m k).or (get? n k) := by
  induction m with
  | nil => rfl
  | cons e m ih =>
    obtain ⟨j, b⟩ := e
    rw [List.cons_append, get?_cons, get?_cons, ih]
    split <;> rfl

theorem get?_eq_none_of_notMem {m : Keyed α} {k : String} (h : k ∉ keys m) : get? m k = none := by
  induction m with
  | nil => rfl
  | cons e m ih =>
    obtain ⟨j, b⟩ := e
    simp only [keys, List.map_cons, List.mem_cons, not_or] at h
    rw [get?_cons, if_neg h.1]
    exact ih h.2

/-- Of the entries of a list, the last one under a key is found. -/
theorem get?_ofList (entries : List (String × α)) (k : String) :
    get? (ofList entries) k = get? entries.reverse k := by
  have h : ∀ m : Keyed α, get? (entries.foldl (fun m e => Keyed.insert e.1 e.2 m) m) k =
      get? (entries.reverse ++ m) k := by
    induction entries with
    | nil => exact fun _ => rfl
    | cons e es ih =>
      intro m
      rw [List.foldl_cons, ih, List.reverse_cons, List.append_assoc, get?_append, get?_append,
        get?_insert, List.singleton_append, get?_cons]
  exact (h []).trans (by rw [List.append_nil])

/-- Ordered collections that find the same under every key are the same. -/
theorem Ordered.ext {m n : Keyed α} (hm : Ordered m) (hn : Ordered n)
    (h : ∀ k, get? m k = get? n k) : m = n := by
  induction m generalizing n with
  | nil =>
    cases n with
    | nil => rfl
    | cons e n =>
      have := h e.1
      rw [get?_nil, get?_cons, if_pos rfl] at this
      cases this
  | cons e m ih =>
    obtain ⟨j, a⟩ := e
    cases n with
    | nil =>
      have := h j
      rw [get?_nil, get?_cons, if_pos rfl] at this
      cases this
    | cons e n =>
      obtain ⟨l, b⟩ := e
      obtain ⟨hj, hmt⟩ := List.pairwise_cons.1 hm
      obtain ⟨hl, hnt⟩ := List.pairwise_cons.1 hn
      have hjm : j ∉ keys m := fun hmem => String.lt_irrefl _ (hj j hmem)
      have hln : l ∉ keys n := fun hmem => String.lt_irrefl _ (hl l hmem)
      have hjl : j = l := by
        by_cases hjn : j ∈ keys n
        · by_cases hlm : l ∈ keys m
          · exact absurd (String.lt_trans (hj l hlm) (hl j hjn)) (String.lt_irrefl _)
          · by_cases hlj : l = j
            · exact hlj.symm
            · have := h l
              rw [get?_cons, if_neg hlj, get?_eq_none_of_notMem hlm, get?_cons, if_pos rfl] at this
              cases this
        · by_cases hlj : j = l
          · exact hlj
          · have := h j
            rw [get?_cons, if_pos rfl, get?_cons, if_neg hlj, get?_eq_none_of_notMem hjn] at this
            cases this
      subst hjl
      have hab := h j
      rw [get?_cons, if_pos rfl, get?_cons, if_pos rfl] at hab
      cases hab
      congr 1
      refine ih hmt hnt fun k => ?_
      have hk := h k
      rw [get?_cons, get?_cons] at hk
      by_cases hkj : k = j
      · rw [hkj, get?_eq_none_of_notMem hjm, get?_eq_none_of_notMem hln]
      · rwa [if_neg hkj, if_neg hkj] at hk

end Keyed
end SemanticClient
