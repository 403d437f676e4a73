import SemanticClient.Variable.Resolve

/-!
# Variable markers

A marker `{@ path }` within a text names a variable. The first marker of a text starts at the first
`{@` that some `}` follows, and ends at the first such `}`.

* `first?_eq_some`: around the first marker nothing is lost.
-/

namespace SemanticClient

/-- A text with a marker in it. -/
structure Marked where
  /-- What stands before the marker. -/
  before : List Char
  /-- What stands between the signs of the marker. -/
  inner : List Char
  /-- What stands behind the marker. -/
  after : List Char
deriving DecidableEq

namespace Marked

/-- The text up to a closing brace, and what follows the brace. -/
def closing? : List Char → Option (List Char × List Char)
  | [] => none
  | c :: cs =>
    if c = '\x7d' then some ([], cs)
    else (closing? cs).map fun r => (c :: r.1, r.2)

/-- The first marker of a text. -/
def first? : List Char → Option Marked
  | [] => none
  | c :: cs =>
    match (if c = '\x7b' ∧ cs.head? = some '@' then closing? (cs.drop 1) else none) with
    | some (inner, after) => some ⟨[], inner, after⟩
    | none => (first? cs).map fun m => { m with before := c :: m.before }

/-- The path that a marker names, without the blanks around it. -/
def path (m : Marked) : List Char := Text.trim m.inner

/-- The text itself. -/
def text (m : Marked) : List Char := m.before ++ '\x7b' :: '@' :: (m.inner ++ '\x7d' :: m.after)

theorem closing?_eq_some {cs u v : List Char} (h : closing? cs = some (u, v)) :
    cs = u ++ '\x7d' :: v ∧ '\x7d' ∉ u := by
  induction cs generalizing u v with
  | nil => simp [closing?] at h
  | cons c cs ih =>
    simp only [closing?] at h
    split at h
    · simp_all
    · obtain ⟨⟨p, q⟩, hpq, he⟩ := Option.map_eq_some_iff.1 h
      obtain ⟨h1, h2⟩ := ih hpq
      simp only [Prod.mk.injEq] at he
      obtain ⟨rfl, rfl⟩ := he
      rename_i hc
      refine ⟨by simp [h1], ?_⟩
      simp only [List.mem_cons, not_or]
      exact ⟨fun e => hc e.symm, h2⟩

/-- A text with a marker is the text before it, the marker and the text behind it. -/
theorem first?_eq_some {cs : List Char} {m : Marked} (h : first? cs = some m) : cs = m.text := by
  induction cs generalizing m with
  | nil => simp [first?] at h
  | cons c cs ih =>
    simp only [first?] at h
    split at h
    · rename_i inner after hs
      split at hs
      · rename_i hc
        obtain ⟨rfl, h2⟩ := hc
        cases cs with
        | nil => simp at h2
        | cons d ds =>
          simp only [List.head?_cons, Option.some.injEq] at h2
          subst h2
          obtain rfl := Option.some.inj h
          obtain ⟨h1, -⟩ := closing?_eq_some hs
          simp only [List.drop_succ_cons, List.drop_zero] at h1
          simp [text, h1]
      · simp at hs
    · obtain ⟨n, hn, rfl⟩ := Option.map_eq_some_iff.1 h
      simp [text, show cs = n.text from ih hn]

end Marked
end SemanticClient
