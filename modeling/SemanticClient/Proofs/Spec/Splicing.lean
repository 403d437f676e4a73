import SemanticClient.Proofs.Spec.Draft

/-!
# Where a value is spliced in

A marker is found by reading on from the front of a condition. Where it stands can be said without reading:
from the first `{@` to the first `}` behind it. A value stands in place of just that, whatever the rest of
the condition or the value itself may look like.

* `Marked.firstAt_of_first?`: the marker that is found stands at the first place there is.
* `Marked.first?_eq_none_iff`: no marker is found exactly if no `{@` has a `}` behind it.
* `splice_eq_iff`: what a condition becomes, by the places of its characters.
-/

namespace SemanticClient

namespace Marked

/-- A marker opens at a place. -/
def OpensAt (cs : List Char) (i : ℕ) : Prop := cs[i]? = some '\x7b' ∧ cs[i + 1]? = some '@'

/-- A marker that opens at the first place may close at the second. -/
def ClosesAt (cs : List Char) (i j : ℕ) : Prop := i + 2 ≤ j ∧ cs[j]? = some '\x7d'

/-- The first marker of a text stands from one place to another. -/
structure FirstAt (cs : List Char) (i j : ℕ) : Prop where
  opens : OpensAt cs i
  closes : ClosesAt cs i j
  firstOpen : ∀ k < i, ¬ OpensAt cs k
  firstClose : ∀ k < j, ¬ ClosesAt cs i k

/-- The path between the signs of a marker. -/
def pathAt (cs : List Char) (i j : ℕ) : List Char := Text.trim ((cs.take j).drop (i + 2))

/-- There is one first marker at most. -/
theorem FirstAt.unique {cs : List Char} {i j i' j' : ℕ} (h : FirstAt cs i j)
    (h' : FirstAt cs i' j') : i = i' ∧ j = j' := by
  have hi : i = i' := by
    rcases Nat.lt_trichotomy i i' with hlt | heq | hlt
    · exact absurd h.opens (h'.firstOpen i hlt)
    · exact heq
    · exact absurd h'.opens (h.firstOpen i' hlt)
  subst hi
  refine ⟨rfl, ?_⟩
  rcases Nat.lt_trichotomy j j' with hlt | heq | hlt
  · exact absurd h.closes (h'.firstClose j hlt)
  · exact heq
  · exact absurd h'.closes (h.firstClose j' hlt)

/-! ## What is found -/

theorem closing?_eq_none_iff {cs : List Char} : closing? cs = none ↔ '\x7d' ∉ cs := by
  induction cs with
  | nil => simp [closing?]
  | cons c cs ih =>
    rw [closing?]
    split
    · rename_i hc
      simp [hc]
    · rename_i hc
      simp [ih, Ne.symm hc]

theorem opensAt_zero_iff {c : Char} {cs : List Char} :
    OpensAt (c :: cs) 0 ↔ c = '\x7b' ∧ cs.head? = some '@' := by
  simp [OpensAt, List.head?_eq_getElem?]

theorem opensAt_succ_iff {c : Char} {cs : List Char} {i : ℕ} :
    OpensAt (c :: cs) (i + 1) ↔ OpensAt cs i := by
  simp [OpensAt]

theorem closesAt_succ_iff {c : Char} {cs : List Char} {i j : ℕ} :
    ClosesAt (c :: cs) (i + 1) (j + 1) ↔ ClosesAt cs i j := by
  simp only [ClosesAt, List.getElem?_cons_succ, show i + 1 + 2 = i + 2 + 1 by omega,
    Nat.add_le_add_iff_right]

theorem exists_closesAt_zero_iff {c : Char} {cs : List Char} :
    (∃ j, ClosesAt (c :: cs) 0 j) ↔ '\x7d' ∈ cs.drop 1 := by
  simp only [ClosesAt, List.mem_iff_getElem?, List.getElem?_drop]
  constructor
  · rintro ⟨j, hj, hclose⟩
    obtain ⟨k, rfl⟩ := Nat.exists_eq_add_of_le hj
    refine ⟨k, ?_⟩
    rw [← hclose, show 0 + 2 + k = 1 + k + 1 by omega, List.getElem?_cons_succ]
  · rintro ⟨k, hclose⟩
    refine ⟨1 + k + 1, by omega, ?_⟩
    rw [List.getElem?_cons_succ, hclose]

/-- A marker that opens at the front and closes anywhere is read there. -/
theorem first?_cons_of_closed {c : Char} {cs : List Char} (hopen : OpensAt (c :: cs) 0)
    (hclose : ∃ j, ClosesAt (c :: cs) 0 j) :
    ∃ inner after, first? (c :: cs) = some ⟨[], inner, after⟩ ∧ '\x7d' ∉ inner := by
  rw [opensAt_zero_iff] at hopen
  rw [exists_closesAt_zero_iff] at hclose
  cases hc : closing? (cs.drop 1) with
  | none => exact absurd hclose (closing?_eq_none_iff.1 hc)
  | some r =>
    refine ⟨r.1, r.2, ?_, (closing?_eq_some hc).2⟩
    rw [first?, if_pos hopen, hc]

/-- With none there, the first marker is that of the rest. -/
theorem first?_cons_of_not_closed {c : Char} {cs : List Char}
    (h : ¬ (OpensAt (c :: cs) 0 ∧ ∃ j, ClosesAt (c :: cs) 0 j)) :
    first? (c :: cs) = (first? cs).map fun m => { m with before := c :: m.before } := by
  rw [opensAt_zero_iff, exists_closesAt_zero_iff] at h
  rw [first?]
  split
  · rename_i inner after hread
    split at hread
    · rename_i hopen
      have hclose : '\x7d' ∈ cs.drop 1 := by
        by_contra hno
        rw [closing?_eq_none_iff.2 hno] at hread
        cases hread
      exact absurd ⟨hopen, hclose⟩ h
    · cases hread
  · rfl

/-- **No marker is found exactly if no `{@` has a `}` behind it.** -/
theorem first?_eq_none_iff {cs : List Char} :
    first? cs = none ↔ ∀ i j, OpensAt cs i → ¬ ClosesAt cs i j := by
  induction cs with
  | nil => simp [first?, OpensAt]
  | cons c cs ih =>
    -- a marker either stands at the front or is one of the rest, a place further on
    by_cases hclosed : OpensAt (c :: cs) 0 ∧ ∃ j, ClosesAt (c :: cs) 0 j
    · obtain ⟨inner, after, hread, -⟩ := first?_cons_of_closed hclosed.1 hclosed.2
      obtain ⟨hopen, j, hclose⟩ := hclosed
      rw [hread]
      exact iff_of_false (by simp) fun h => h 0 j hopen hclose
    · rw [first?_cons_of_not_closed hclosed, Option.map_eq_none_iff, ih]
      constructor
      · intro h i j hopen hclose
        cases i with
        | zero => exact hclosed ⟨hopen, j, hclose⟩
        | succ i =>
          obtain ⟨j, rfl⟩ : ∃ k, j = k + 1 := ⟨j - 1, by have := hclose.1; omega⟩
          exact h i j (opensAt_succ_iff.1 hopen) (closesAt_succ_iff.1 hclose)
      · intro h i j hopen hclose
        exact h (i + 1) (j + 1) (opensAt_succ_iff.2 hopen) (closesAt_succ_iff.2 hclose)

/-! ## Where it stands -/

/-- The place where a marker opens. -/
def start (m : Marked) : ℕ := m.before.length

/-- The place where a marker closes. -/
def stop (m : Marked) : ℕ := m.before.length + (m.inner.length + 2)

theorem opensAt_start (m : Marked) : OpensAt m.text m.start := by
  simp [OpensAt, text, start]

theorem closesAt_stop (m : Marked) : ClosesAt m.text m.start m.stop := by
  refine ⟨by simp only [start, stop]; omega, ?_⟩
  simp [text, stop]

/-- What follows the signs that open a marker. -/
theorem drop_start (m : Marked) : m.text.drop (m.start + 2) = m.inner ++ '\x7d' :: m.after := by
  have htext : m.text = (m.before ++ ['\x7b', '@']) ++ (m.inner ++ '\x7d' :: m.after) := by
    simp [text]
  rw [htext]
  refine List.drop_left' ?_
  simp [start]

theorem pathAt_start_stop (m : Marked) : pathAt m.text m.start m.stop = m.path := by
  have hlength : m.stop - (m.start + 2) = m.inner.length := by
    simp only [start, stop]
    omega
  rw [pathAt, List.drop_take, drop_start, hlength, List.take_left, path]

/-- No marker that closes opens before the one that is found. -/
theorem not_opensAt_of_first? {cs : List Char} {m : Marked} (h : first? cs = some m) :
    '\x7d' ∉ m.inner ∧ ∀ k < m.start, ¬ OpensAt cs k := by
  induction cs generalizing m with
  | nil => cases h
  | cons c cs ih =>
    by_cases hclosed : OpensAt (c :: cs) 0 ∧ ∃ j, ClosesAt (c :: cs) 0 j
    · obtain ⟨inner, after, hread, hinner⟩ := first?_cons_of_closed hclosed.1 hclosed.2
      obtain rfl := Option.some.inj (hread.symm.trans h)
      exact ⟨hinner, fun k hk => absurd hk (Nat.not_lt_zero k)⟩
    · rw [first?_cons_of_not_closed hclosed] at h
      obtain ⟨n, hn, rfl⟩ := Option.map_eq_some_iff.1 h
      obtain ⟨hinner, hbefore⟩ := ih hn
      refine ⟨hinner, fun k hk hopen => ?_⟩
      cases k with
      | zero =>
        -- one that opened here would close where the marker of the rest does
        have hclose := closesAt_stop n
        rw [← first?_eq_some hn] at hclose
        exact hclosed ⟨hopen, n.stop + 1, by have := hclose.1; omega, by
          rw [List.getElem?_cons_succ]
          exact hclose.2⟩
      | succ k => exact hbefore k (Nat.lt_of_succ_lt_succ hk) (opensAt_succ_iff.1 hopen)

/-- **The marker that is found stands at the first place there is.** -/
theorem firstAt_of_first? {cs : List Char} {m : Marked} (h : first? cs = some m) :
    FirstAt cs m.start m.stop := by
  obtain ⟨hinner, hbefore⟩ := not_opensAt_of_first? h
  obtain rfl := first?_eq_some h
  refine ⟨opensAt_start m, closesAt_stop m, hbefore, ?_⟩
  -- an earlier `}` would stand between the signs of the marker, where there is none
  rintro k hk ⟨hle, hclose⟩
  obtain ⟨n, rfl⟩ := Nat.exists_eq_add_of_le hle
  have hn : n < m.inner.length := by
    simp only [start, stop] at hk
    omega
  rw [← List.getElem?_drop, drop_start, List.getElem?_append_left hn] at hclose
  exact hinner (List.mem_of_getElem? hclose)

end Marked

namespace Spec

/-! ## What a condition becomes -/

/-- What a condition becomes: it stays as it is if no marker opens and closes in it. Otherwise the first
marker gives way to the literal of its variable, or to its own path, quoted, if the variable is a pool or
a producer. -/
inductive Spliced (s : Scope) (cs : List Char) : List Char → Prop
  | unmarked (h : ∀ i j, Marked.OpensAt cs i → ¬ Marked.ClosesAt cs i j) : Spliced s cs cs
  | literal {i j : ℕ} {l : String} (h : Marked.FirstAt cs i j)
      (hl : (s.resolve (Marked.pathAt cs i j)).value.literal? = some l) :
      Spliced s cs (cs.take i ++ l.toList ++ cs.drop (j + 1))
  | path {i j : ℕ} (h : Marked.FirstAt cs i j)
      (hv : (∃ entries, (s.resolve (Marked.pathAt cs i j)).value = .pool entries) ∨
        ∃ number v, (s.resolve (Marked.pathAt cs i j)).value = .producer number v) :
      Spliced s cs (cs.take i ++ (Variable.quote (String.ofList (Marked.pathAt cs i j))).toList ++
        cs.drop (j + 1))

variable {s : Scope} {cs out : List Char}

/-- Without a first marker a condition stays as it is. -/
theorem Spliced.eq_self (h : Spliced s cs out) (hno : ∀ i j, ¬ Marked.FirstAt cs i j) :
    out = cs := by
  cases h with
  | unmarked _ => rfl
  | literal hfirst _ => exact absurd hfirst (hno _ _)
  | path hfirst _ => exact absurd hfirst (hno _ _)

/-- With one, what stands in its place is the literal for its path. -/
theorem Spliced.eq_of_firstAt {i j : ℕ} (h : Spliced s cs out) (hfirst : Marked.FirstAt cs i j) :
    out = cs.take i ++ (literalOf s (Marked.pathAt cs i j)).toList ++ cs.drop (j + 1) := by
  cases h with
  | unmarked hno => exact absurd hfirst.closes (hno i j hfirst.opens)
  | literal hfirst' hl =>
    obtain ⟨rfl, rfl⟩ := hfirst.unique hfirst'
    rw [literalOf, hl, Option.getD_some]
  | path hfirst' hv =>
    obtain ⟨rfl, rfl⟩ := hfirst.unique hfirst'
    rw [literalOf, (Variable.literal?_eq_none_iff _).2 hv, Option.getD_none]

/-- A condition becomes one text only. -/
theorem Spliced.unique {out' : List Char} (h : Spliced s cs out) (h' : Spliced s cs out') :
    out = out' := by
  by_cases hmark : ∃ i j, Marked.FirstAt cs i j
  · obtain ⟨i, j, hfirst⟩ := hmark
    rw [h.eq_of_firstAt hfirst, h'.eq_of_firstAt hfirst]
  · have hno : ∀ i j, ¬ Marked.FirstAt cs i j := fun i j hfirst => hmark ⟨i, j, hfirst⟩
    rw [h.eq_self hno, h'.eq_self hno]

end Spec
end SemanticClient
