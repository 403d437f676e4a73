import Mathlib.Data.List.TakeWhile
import SemanticClient.Spec.Join

/-!
# Pieces are read back as they are written

A reader takes a piece off the front of a text; what follows the piece must not extend it. That a text
does not start with a character of a class is said by `Stops`.

* `isWord_of_isBlank`: no word character is a blank.
* `trim_blanks`: blanks around a text that has none at its ends are trimmed away.
* `split_intercalate`, `intercalate_split`: parts with a separator between any two are cut where they were
  put together, and every text is put together from its parts.
* `exists_eq_append_trim`: what is trimmed away is blanks around the text.
* `name?_append`, `colon?_append`, `colon?_eq_none`: names and colons, with any text behind them.
* `name?_eq_some_iff_append`, `colon?_eq_some_iff`: the texts that a name and a colon are read from.
* `first?_eq_none`: a text in which no `{@` is closed has no marker.
-/

namespace SemanticClient

open Text

/-- The text does not start with a character of the class. -/
def Stops (p : Char → Bool) (cs : List Char) : Prop := ∀ c ∈ cs.head?, p c = false

section Stops

variable {p : Char → Bool}

theorem stops_nil : Stops p [] := by
  intro c hc
  cases hc

theorem stops_cons {c : Char} (h : p c = false) (cs : List Char) : Stops p (c :: cs) := by
  intro d hd
  rw [List.head?_cons, Option.mem_some_iff] at hd
  rw [← hd]
  exact h

instance : (cs : List Char) → Decidable (Stops p cs)
  | [] => isTrue stops_nil
  | c :: cs => decidable_of_iff (p c = false) ⟨fun h => stops_cons h cs, fun h => h c rfl⟩

theorem Stops.dropWhile_eq {cs : List Char} (h : Stops p cs) : cs.dropWhile p = cs := by
  cases cs with
  | nil => rfl
  | cons c cs => rw [List.dropWhile_cons_of_neg]; rw [h c rfl]; exact Bool.false_ne_true

theorem Stops.takeWhile_eq {cs : List Char} (h : Stops p cs) : cs.takeWhile p = [] := by
  cases cs with
  | nil => rfl
  | cons c cs => rw [List.takeWhile_cons_of_neg]; rw [h c rfl]; exact Bool.false_ne_true

/-- A run of the class ends where the text behind it begins. -/
theorem takeWhile_append_stops {u cs : List Char} (hu : ∀ c ∈ u, p c = true) (h : Stops p cs) :
    (u ++ cs).takeWhile p = u := by
  rw [List.takeWhile_append_of_pos hu, h.takeWhile_eq, List.append_nil]

theorem dropWhile_append_stops {u cs : List Char} (hu : ∀ c ∈ u, p c = true) (h : Stops p cs) :
    (u ++ cs).dropWhile p = cs := by
  rw [List.dropWhile_append_of_pos hu, h.dropWhile_eq]

/-- What is left behind a run of the class does not start with the class. -/
theorem stops_dropWhile (p : Char → Bool) (cs : List Char) : Stops p (cs.dropWhile p) := by
  intro c hc
  have hhead := List.head?_dropWhile_not p cs
  rw [hc] at hhead
  simpa using hhead

end Stops

namespace Text

/-! ## Classes -/

/-- The code points of the blanks. -/
def blankCodes : List Nat :=
  [0x20, 0x09, 0x0a, 0x0b, 0x0c, 0x0d, 0x85, 0xa0, 0x1680, 0x2000, 0x2001, 0x2002, 0x2003, 0x2004,
    0x2005, 0x2006, 0x2007, 0x2008, 0x2009, 0x200a, 0x2028, 0x2029, 0x202f, 0x205f, 0x3000]

theorem mem_blankCodes {c : Char} (h : isBlank c = true) : c.toNat ∈ blankCodes := by
  simp only [isBlank, Bool.or_eq_true, Bool.and_eq_true, beq_iff_eq, decide_eq_true_eq] at h
  simp only [blankCodes, List.mem_cons, List.not_mem_nil, or_false]
  omega

/-- **No word character is a blank.** -/
theorem isWord_of_isBlank {c : Char} (h : isBlank c = true) : isWord c = false := by
  have hall : ∀ n ∈ blankCodes, isWord (Char.ofNat n) = false := by decide +kernel
  have hc := hall c.toNat (mem_blankCodes h)
  rwa [Char.ofNat_toNat] at hc

theorem isBlank_of_isWord {c : Char} (h : isWord c = true) : isBlank c = false := by
  cases hb : isBlank c with
  | false => rfl
  | true => rw [isWord_of_isBlank hb] at h; exact absurd h Bool.false_ne_true

theorem isWord_colon : isWord ':' = false := by decide

theorem isWord_comma : isWord ',' = false := by decide

theorem isWord_dot : isWord '.' = false := by decide

theorem isBlank_colon : isBlank ':' = false := by decide

theorem isBlank_comma : isBlank ',' = false := by decide

theorem isBlank_dot : isBlank '.' = false := by decide

theorem allBlank_nil : AllBlank [] := fun _ hc => nomatch hc

theorem allBlank_space : AllBlank [' '] := fun _ hc => List.mem_singleton.1 hc ▸ rfl

theorem AllBlank.notMem {u : List Char} (hu : AllBlank u) {c : Char} (hc : isBlank c = false) :
    c ∉ u := by
  intro hmem
  rw [hu c hmem] at hc
  cases hc

theorem AllBlank.notMem_comma {u : List Char} (hu : AllBlank u) : ',' ∉ u := hu.notMem isBlank_comma

theorem notMem_of_isWord {w : List Char} (hw : ∀ c ∈ w, isWord c = true) {c : Char}
    (hc : isWord c = false) : c ∉ w := by
  intro hmem
  rw [hw c hmem] at hc
  cases hc

/-- A run of word characters starts with none that is blank. -/
theorem stops_isBlank_of_isWord {w : List Char} (hw : ∀ c ∈ w, isWord c = true) (rest : List Char)
    (hne : w ≠ []) : Stops isBlank (w ++ rest) := by
  cases w with
  | nil => exact absurd rfl hne
  | cons c w => exact stops_cons (isBlank_of_isWord (hw c List.mem_cons_self)) _

theorem stops_isBlank_reverse_of_isWord {w : List Char} (hw : ∀ c ∈ w, isWord c = true)
    (rest : List Char) (hne : w ≠ []) : Stops isBlank (w.reverse ++ rest) :=
  stops_isBlank_of_isWord (fun c hc => hw c (List.mem_reverse.1 hc)) rest
    (mt List.reverse_eq_nil_iff.1 hne)

/-! ## Trimming and splitting -/

theorem trimLeft_blanks {u cs : List Char} (hu : AllBlank u) (h : Stops isBlank cs) :
    trimLeft (u ++ cs) = cs := dropWhile_append_stops hu h

/-- Blanks around a text that has none at its ends are trimmed away. -/
theorem trim_blanks {u cs v : List Char} (hu : AllBlank u) (hv : AllBlank v)
    (hfirst : Stops isBlank cs) (hlast : Stops isBlank cs.reverse) (hne : cs ≠ []) :
    trim (u ++ cs ++ v) = cs := by
  have hs : Stops isBlank (cs ++ v) := by
    cases cs with
    | nil => exact absurd rfl hne
    | cons c cs => exact stops_cons (hfirst c rfl) _
  unfold trim
  rw [List.append_assoc, trimLeft_blanks hu hs, trimRight_append hv, trimRight, hlast.dropWhile_eq,
    List.reverse_reverse]

theorem trim_allBlank {u : List Char} (hu : AllBlank u) : trim u = [] := by
  have h := trimRight_append (u := []) hu
  rw [List.nil_append] at h
  have hl : trimLeft u = [] := by
    have := dropWhile_blank_append (v := []) hu
    rwa [List.append_nil] at this
  rw [trim, hl]
  rfl

theorem stops_trimLeft (cs : List Char) : Stops isBlank (trimLeft cs) := stops_dropWhile isBlank cs

/-- What is trimmed away in front of a text is blanks. -/
theorem exists_eq_append_trimLeft (cs : List Char) : ∃ u, AllBlank u ∧ cs = u ++ trimLeft cs :=
  ⟨cs.takeWhile isBlank, fun _ hc => List.mem_takeWhile_imp hc,
    List.takeWhile_append_dropWhile.symm⟩

/-- What is trimmed away behind a text is blanks. -/
theorem exists_eq_trimRight_append (cs : List Char) : ∃ v, AllBlank v ∧ cs = trimRight cs ++ v := by
  refine ⟨(cs.reverse.takeWhile isBlank).reverse, ?_, ?_⟩
  · intro c hc
    exact List.mem_takeWhile_imp (List.mem_reverse.1 hc)
  · rw [trimRight, ← List.reverse_append, List.takeWhile_append_dropWhile, List.reverse_reverse]

/-- What is trimmed away is blanks around the text. -/
theorem exists_eq_append_trim (cs : List Char) :
    ∃ u v, AllBlank u ∧ AllBlank v ∧ cs = u ++ trim cs ++ v := by
  obtain ⟨u, hu, hleft⟩ := exists_eq_append_trimLeft cs
  obtain ⟨v, hv, hright⟩ := exists_eq_trimRight_append (trimLeft cs)
  refine ⟨u, v, hu, hv, ?_⟩
  rw [List.append_assoc, trim, ← hright, ← hleft]

/-- A text that is trimmed away has nothing but blanks. -/
theorem allBlank_of_isEmpty_trim {cs : List Char} (h : (trim cs).isEmpty = true) : AllBlank cs := by
  obtain ⟨u, v, hu, hv, he⟩ := exists_eq_append_trim cs
  rw [List.isEmpty_iff.1 h, List.append_nil] at he
  rw [he]
  intro c hc
  rcases List.mem_append.1 hc with hc | hc
  · exact hu c hc
  · exact hv c hc

theorem isEmpty_trim_iff {cs : List Char} : (trim cs).isEmpty = true ↔ AllBlank cs := by
  refine ⟨allBlank_of_isEmpty_trim, fun h => ?_⟩
  rw [trim_allBlank h]
  rfl

/-- Parts with a separator between any two are cut where they were put together. -/
theorem split_intercalate {sep : Char} :
    ∀ {parts : List (List Char)}, parts ≠ [] → (∀ part ∈ parts, sep ∉ part) →
      split sep ([sep].intercalate parts) = parts
  | [], hne, _ => absurd rfl hne
  | [part], _, h => by
    rw [List.intercalate_singleton]
    exact split_of_notMem (h part List.mem_cons_self)
  | part :: next :: parts, _, h => by
    have ih := split_intercalate (List.cons_ne_nil next parts)
      fun q hq => h q (List.mem_cons_of_mem _ hq)
    rw [List.intercalate_cons_of_ne_nil (List.cons_ne_nil next parts), List.append_assoc,
      List.singleton_append, split_append_sep (h part List.mem_cons_self), ih]

/-- Nothing is lost at the separators. -/
theorem intercalate_split (sep : Char) (cs : List Char) : [sep].intercalate (split sep cs) = cs := by
  unfold split
  induction cs with
  | nil => rfl
  | cons c cs ih =>
    rw [splitWhere]
    cases hparts : splitWhere (· == sep) cs with
    | nil => exact absurd hparts (splitWhere_ne_nil _ cs)
    | cons part parts =>
      rw [hparts] at ih
      split
      · rename_i hc
        rw [List.intercalate_cons_of_ne_nil (List.cons_ne_nil part parts), ih, eq_of_beq hc]
        rfl
      · cases parts with
        | nil =>
          rw [List.intercalate_singleton] at ih ⊢
          rw [ih]
        | cons next parts =>
          rw [List.intercalate_cons_of_ne_nil (List.cons_ne_nil next parts)] at ih ⊢
          rw [← ih]
          rfl

end Text

namespace Marked

/-- A text in which no `{@` is closed has no marker. -/
theorem first?_eq_none {cs : List Char}
    (h : ∀ u v, cs = u ++ '\x7b' :: '@' :: v → '\x7d' ∉ v) : first? cs = none := by
  cases hm : first? cs with
  | none => rfl
  | some m =>
    refine absurd ?_ (h m.before (m.inner ++ '\x7d' :: m.after) (first?_eq_some hm))
    rw [List.mem_append]
    exact Or.inr List.mem_cons_self

end Marked

namespace Spec

/-! ## Names and colons -/

theorem name?_append {w rest : List Char} (hw : ∀ c ∈ w, isWord c = true) (hne : w ≠ [])
    (h : Stops isWord rest) : name? (w ++ rest) = some (w, rest) := by
  rw [name?_eq_some_iff]
  exact ⟨hne, (takeWhile_append_stops hw h).symm, (dropWhile_append_stops hw h).symm⟩

/-- A colon is read with the blanks around it. -/
theorem colon?_append {u v rest : List Char} (hu : AllBlank u) (hv : AllBlank v)
    (h : Stops isBlank rest) : colon? (u ++ ':' :: (v ++ rest)) = some rest := by
  unfold colon?
  rw [trimLeft_blanks hu (stops_cons isBlank_colon _)]
  simp only [trimLeft_blanks hv h]

theorem colon?_eq_none {u rest : List Char} (hu : AllBlank u) (h : Stops isBlank rest)
    (hne : rest.head? ≠ some ':') : colon? (u ++ rest) = none := by
  unfold colon?
  rw [trimLeft_blanks hu h]
  cases rest with
  | nil => rfl
  | cons c rest =>
    have hc : c ≠ ':' := fun e => hne (by rw [e, List.head?_cons])
    split
    · rename_i e
      exact absurd (List.cons.inj e).1 hc
    · rfl

/-- A name is read from every text that starts with it and goes on with something else. -/
theorem name?_eq_some_iff_append {cs w rest : List Char} :
    name? cs = some (w, rest) ↔
      cs = w ++ rest ∧ w ≠ [] ∧ (∀ c ∈ w, isWord c = true) ∧ Stops isWord rest := by
  constructor
  · intro h
    obtain ⟨hne, rfl, rfl⟩ := name?_eq_some_iff.1 h
    exact ⟨List.takeWhile_append_dropWhile.symm, hne, fun c hc => List.mem_takeWhile_imp hc,
      stops_dropWhile isWord cs⟩
  · rintro ⟨rfl, hne, hw, hrest⟩
    exact name?_append hw hne hrest

/-- A colon is read from every text that has nothing but blanks in front of it. -/
theorem colon?_eq_some_iff {cs rest : List Char} :
    colon? cs = some rest ↔
      Stops isBlank rest ∧ ∃ u v, AllBlank u ∧ AllBlank v ∧ cs = u ++ ':' :: (v ++ rest) := by
  constructor
  · intro h
    obtain ⟨u, hu, hcs⟩ := exists_eq_append_trimLeft cs
    unfold colon? at h
    split at h
    · rename_i tail htail
      obtain rfl := Option.some.inj h
      obtain ⟨v, hv, hrest⟩ := exists_eq_append_trimLeft tail
      refine ⟨stops_trimLeft tail, u, v, hu, hv, ?_⟩
      rw [← hrest, ← htail, ← hcs]
    · cases h
  · rintro ⟨hrest, u, v, hu, hv, rfl⟩
    exact colon?_append hu hv hrest

/-- No colon is read from blanks alone. -/
theorem colon?_of_allBlank {u : List Char} (hu : AllBlank u) : colon? u = none := by
  have h := colon?_eq_none hu (stops_nil : Stops isBlank []) (by simp)
  rwa [List.append_nil] at h

end Spec
end SemanticClient
