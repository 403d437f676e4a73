import Mathlib.Data.List.Basic
import SemanticClient.Text.Split
import SemanticClient.Variable.Pool

/-!
# Literals

What stands in a condition for a variable: a scalar between quotes, and a list as its items between
quotes, in parentheses. The texts between the quotes are written as they are, quotes included. So the
literal of a list tells the text of all its items with `', '` in between, but not always where one item
ends and the next begins: the list of `a` and `b` has the literal of the one item `a', 'b`.

* `Text.eq_of_intercalate_eq`: texts that hold no separator can be told apart.
* `Variable.quoteList_eq_iff`: which lists have the same literal.
* `Variable.confused_iff`: which variables have the same literal.
* `Variable.not_forall_not_confused`: some do.
-/

namespace SemanticClient

namespace Text

/-- What comes before the first separator, and what comes after it, can be told. -/
theorem append_cons_inj {c : Char} {s t u v : List Char} (hs : c ∉ s) (ht : c ∉ t)
    (h : s ++ c :: u = t ++ c :: v) : s = t ∧ u = v := by
  have hsplit := congrArg (split c) h
  rw [split_append_sep hs, split_append_sep ht] at hsplit
  obtain rfl := (List.cons.inj hsplit).1
  exact ⟨rfl, (List.cons.inj (List.append_cancel_left h)).2⟩

/-- **Texts between separators can be told apart** if none of them holds the character that a separator
begins with. -/
theorem eq_of_intercalate_eq {c : Char} {sep : List Char} {u v : List (List Char)}
    (hu : ∀ t ∈ u, c ∉ t) (hv : ∀ t ∈ v, c ∉ t) (hune : u ≠ []) (hvne : v ≠ [])
    (h : (c :: sep).intercalate u = (c :: sep).intercalate v) : u = v := by
  -- what holds no separator is one text and not several
  have hone {s t : List Char} {w : List (List Char)} (hs : c ∉ s) :
      s ≠ t ++ (c :: sep) ++ (c :: sep).intercalate w := by
    rintro rfl
    exact hs (by simp)
  induction u generalizing v with
  | nil => exact absurd rfl hune
  | cons s u ih =>
    obtain ⟨hs, hu⟩ := List.forall_mem_cons.1 hu
    match v with
    | [] => exact absurd rfl hvne
    | t :: v =>
      obtain ⟨ht, hv⟩ := List.forall_mem_cons.1 hv
      match u, v with
      | [], [] => simpa using h
      | [], t' :: v =>
        rw [List.intercalate_singleton, List.intercalate_cons_cons] at h
        exact absurd h (hone hs)
      | s' :: u, [] =>
        rw [List.intercalate_singleton, List.intercalate_cons_cons] at h
        exact absurd h.symm (hone ht)
      | s' :: u, t' :: v =>
        rw [List.intercalate_cons_cons, List.intercalate_cons_cons, List.append_assoc,
          List.append_assoc] at h
        obtain ⟨rfl, hrest⟩ := append_cons_inj hs ht h
        have htails := ih hu hv (List.cons_ne_nil _ _) (List.cons_ne_nil _ _)
          (List.append_cancel_left hrest)
        rw [htails]

end Text

namespace Variable

/-! ## The literals of lists -/

/-- The text of a list's items, with what stands between two of them. -/
def itemsText (items : List String) : String := "', '".intercalate items

theorem quote_injective {s t : String} (h : quote s = quote t) : s = t := by
  have hlist := congrArg String.toList h
  simpa [quote, String.toList_inj] using hlist

theorem intercalate_map_quote (s : String) (items : List String) :
    ", ".intercalate ((s :: items).map quote) = quote (itemsText (s :: items)) := by
  induction items generalizing s with
  | nil => rfl
  | cons t items ih =>
    rw [List.map_cons, List.map_cons, String.intercalate_cons_cons, ← List.map_cons, ih t]
    simp only [itemsText, quote, String.intercalate_cons_cons, String.append_assoc]
    rfl

/-- The literal of a list is the text of its items between quotes, in parentheses. -/
theorem quoteList_of_ne_nil {items : List String} (h : items ≠ []) :
    quoteList items = "(" ++ quote (itemsText items) ++ ")" := by
  cases items with
  | nil => exact absurd rfl h
  | cons s items => rw [quoteList, intercalate_map_quote]

theorem quoteList_ne_quoteList_nil {items : List String} (h : items ≠ []) :
    quoteList items ≠ quoteList [] := by
  intro heq
  have hlist := congrArg String.toList heq
  rw [quoteList_of_ne_nil h] at hlist
  simp [quoteList, quote] at hlist

/-- **Which lists have the same literal**: those whose items have the same text. The empty list is by
itself. -/
theorem quoteList_eq_iff (u v : List String) :
    quoteList u = quoteList v ↔ u = v ∨ u ≠ [] ∧ v ≠ [] ∧ itemsText u = itemsText v := by
  constructor
  · intro h
    by_cases hu : u = []
    · by_cases hv : v = []
      · exact .inl (hu.trans hv.symm)
      · exact absurd (h.symm.trans (congrArg quoteList hu)) (quoteList_ne_quoteList_nil hv)
    · by_cases hv : v = []
      · exact absurd (h.trans (congrArg quoteList hv)) (quoteList_ne_quoteList_nil hu)
      · refine .inr ⟨hu, hv, ?_⟩
        rw [quoteList_of_ne_nil hu, quoteList_of_ne_nil hv, String.append_assoc,
          String.append_assoc] at h
        have hquoted := (String.append_left_inj _).1 ((String.append_right_inj _).1 h)
        exact quote_injective hquoted
  · rintro (rfl | ⟨hu, hv, htext⟩)
    · rfl
    · rw [quoteList_of_ne_nil hu, quoteList_of_ne_nil hv, htext]

/-- A list is never taken for a scalar: its literal begins with a parenthesis. -/
theorem quote_ne_quoteList (s : String) (items : List String) : quote s ≠ quoteList items := by
  intro h
  have hlist := congrArg String.toList h
  simp [quoteList, quote] at hlist

/-- Items without quotes can be told from their text. -/
theorem eq_of_itemsText_eq {u v : List String} (hu : ∀ s ∈ u, '\'' ∉ s.toList)
    (hv : ∀ s ∈ v, '\'' ∉ s.toList) (hune : u ≠ []) (hvne : v ≠ [])
    (h : itemsText u = itemsText v) : u = v := by
  have hlists := congrArg String.toList h
  rw [itemsText, itemsText, String.toList_intercalate, String.toList_intercalate] at hlists
  have hitems : u.map String.toList = v.map String.toList :=
    Text.eq_of_intercalate_eq (List.forall_mem_map.2 hu) (List.forall_mem_map.2 hv)
      (fun e => hune (List.map_eq_nil_iff.1 e)) (fun e => hvne (List.map_eq_nil_iff.1 e)) hlists
  exact List.map_injective_iff.2 (fun _ _ => String.toList_inj.1) hitems

/-! ## Which variables are confused -/

/-- Two different variables have the same literal. -/
def Confused (v w : Variable) : Prop :=
  v ≠ w ∧ ∃ literal, v.literal? = some literal ∧ w.literal? = some literal

/-- Two different lists have items, and the same text of them. -/
def SameItemsText (u v : List String) : Prop :=
  u ≠ v ∧ u ≠ [] ∧ v ≠ [] ∧ itemsText u = itemsText v

/-- No item of a list holds a quote. What a scalar holds is of no account. -/
def QuoteFreeItems : Variable → Prop
  | .list items => ∀ s ∈ items, '\'' ∉ s.toList
  | _ => True

theorem confused_list_iff (u v : List String) :
    Confused (.list u) (.list v) ↔ SameItemsText u v := by
  have hlists : Confused (.list u) (.list v) ↔ u ≠ v ∧ quoteList u = quoteList v := by
    constructor
    · rintro ⟨hne, literal, hu, hv⟩
      exact ⟨fun e => hne (congrArg list e), Option.some.inj (hu.trans hv.symm)⟩
    · rintro ⟨hne, hsame⟩
      exact ⟨fun e => hne (Variable.list.inj e), _, rfl, congrArg some hsame.symm⟩
  rw [hlists, quoteList_eq_iff]
  constructor
  · rintro ⟨hne, heq | hsame⟩
    · exact absurd heq hne
    · exact ⟨hne, hsame⟩
  · rintro ⟨hne, hsame⟩
    exact ⟨hne, .inr hsame⟩

/-- **Which variables have the same literal**, beside a variable with itself: two lists with items whose
texts are the same. Some item then holds a quote. -/
theorem confused_iff (v w : Variable) :
    (v.Confused w ↔ ∃ items items', v = .list items ∧ w = .list items' ∧ SameItemsText items items') ∧
    ¬ (v.Confused w ∧ v.QuoteFreeItems ∧ w.QuoteFreeItems) := by
  have hconfused : v.Confused w ↔
      ∃ items items', v = .list items ∧ w = .list items' ∧ SameItemsText items items' := by
    constructor
    · rintro ⟨hne, literal, hv, hw⟩
      match v, w with
      | .scalar s, .scalar t =>
        have hquoted := Option.some.inj (hv.trans hw.symm)
        exact absurd (congrArg scalar (quote_injective hquoted)) hne
      | .scalar s, .list items =>
        exact absurd (Option.some.inj (hv.trans hw.symm)) (quote_ne_quoteList s items)
      | .list items, .scalar s =>
        exact absurd (Option.some.inj (hw.trans hv.symm)) (quote_ne_quoteList s items)
      | .list items, .list items' =>
        exact ⟨items, items', rfl, rfl, (confused_list_iff items items').1 ⟨hne, literal, hv, hw⟩⟩
      | .pool _, _ | .producer _ _, _ => cases hv
      | _, .pool _ | _, .producer _ _ => cases hw
    · rintro ⟨items, items', rfl, rfl, hsame⟩
      exact (confused_list_iff items items').2 hsame
  refine ⟨hconfused, ?_⟩
  rintro ⟨h, hv, hw⟩
  obtain ⟨items, items', rfl, rfl, hne, hitems, hitems', htext⟩ := hconfused.1 h
  exact hne (eq_of_itemsText_eq hv hw hitems hitems' htext)

/-- **One item may pose as two**, by closing its own quotes. -/
theorem not_forall_not_confused : ¬ ∀ v w : Variable, ¬ v.Confused w := by
  intro hall
  refine hall (.list ["a', 'b"]) (.list ["a", "b"]) ⟨?_, "('a', 'b')", rfl, rfl⟩
  intro h
  exact absurd (Variable.list.inj h) (by decide)

end Variable
end SemanticClient
