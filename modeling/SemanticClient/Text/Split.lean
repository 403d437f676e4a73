import SemanticClient.Text.Blank

/-!
# Separators

Cutting a text at every separator.

* `split_of_notMem`, `split_append_sep`: a text is cut after its first part without the separator, so
  the parts are read back one after the other.
* `notMem_of_mem_split`: no part holds the separator.
-/

namespace SemanticClient.Text

/-- The parts of a text between the characters of a class: always one more part than there are such
characters. -/
def splitWhere (p : Char → Bool) : List Char → List (List Char)
  | [] => [[]]
  | c :: cs =>
    if p c then [] :: splitWhere p cs
    else
      match splitWhere p cs with
      | [] => [[c]]
      | part :: parts => (c :: part) :: parts

/-- The parts of a text between the occurrences of a separator. -/
def split (sep : Char) (cs : List Char) : List (List Char) := splitWhere (· == sep) cs

/-- The blank-separated parts of a text, none of them empty. -/
def words (cs : List Char) : List (List Char) := (splitWhere isBlank cs).filter (!·.isEmpty)

variable {p : Char → Bool}

theorem splitWhere_ne_nil (p : Char → Bool) (cs : List Char) : splitWhere p cs ≠ [] := by
  cases cs with
  | nil => simp [splitWhere]
  | cons c cs =>
    simp only [splitWhere]
    split
    · simp
    · split <;> simp

/-- A text with no separator is one part. -/
theorem splitWhere_of_forall {cs : List Char} (h : ∀ c ∈ cs, p c = false) :
    splitWhere p cs = [cs] := by
  induction cs with
  | nil => rfl
  | cons c cs ih => simp [splitWhere, h c (by simp), ih fun d hd => h d (by simp [hd])]

/-- What stands before the first separator is the first part. -/
theorem splitWhere_append {part : List Char} {c : Char} (h : ∀ d ∈ part, p d = false)
    (hc : p c = true) (cs : List Char) :
    splitWhere p (part ++ c :: cs) = part :: splitWhere p cs := by
  induction part with
  | nil => simp [splitWhere, hc]
  | cons d part ih => simp [splitWhere, h d (by simp), ih fun e he => h e (by simp [he])]

theorem eq_false_of_mem_splitWhere {cs part : List Char} (h : part ∈ splitWhere p cs) :
    ∀ c ∈ part, p c = false := by
  induction cs generalizing part with
  | nil => simp_all [splitWhere]
  | cons c cs ih =>
    simp only [splitWhere] at h
    split at h
    · rcases List.mem_cons.1 h with rfl | h
      · simp
      · exact ih h
    · rename_i hc
      split at h
      · rename_i he; exact absurd he (splitWhere_ne_nil p cs)
      · rename_i q qs he
        rcases List.mem_cons.1 h with rfl | h
        · intro d hd
          rcases List.mem_cons.1 hd with rfl | hd
          · simpa using hc
          · exact ih (by simp [he]) d hd
        · exact ih (by simp [he, h])

theorem split_of_notMem {sep : Char} {cs : List Char} (h : sep ∉ cs) : split sep cs = [cs] :=
  splitWhere_of_forall fun c hc => by
    have : c ≠ sep := fun e => h (e ▸ hc)
    simpa using this

theorem split_append_sep {sep : Char} {part : List Char} (h : sep ∉ part) (cs : List Char) :
    split sep (part ++ sep :: cs) = part :: split sep cs :=
  splitWhere_append (fun c hc => by
    have : c ≠ sep := fun e => h (e ▸ hc)
    simpa using this) (by simp) cs

theorem notMem_of_mem_split {sep : Char} {cs part : List Char} (h : part ∈ split sep cs) :
    sep ∉ part := fun hm => by
  simpa using eq_false_of_mem_splitWhere h sep hm

end SemanticClient.Text
