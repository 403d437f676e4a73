/-!
# Blanks

White space as Unicode defines the property: the characters that may stand around the parts of a spec
without meaning anything. Texts are lists of characters here, as the grammars read them.

* `trimLeft_append`, `trimRight_append`: blanks around a text are trimmed away.
-/

namespace SemanticClient.Text

/-- White space: 25 characters, the space, the tab and the line ends among them. -/
def isBlank (c : Char) : Bool :=
  let n := c.toNat
  n == 0x20 || (0x09 ≤ n && n ≤ 0x0d) || n == 0x85 || n == 0xa0 || n == 0x1680 ||
    (0x2000 ≤ n && n ≤ 0x200a) || n == 0x2028 || n == 0x2029 || n == 0x202f || n == 0x205f ||
    n == 0x3000

/-- A text without the blanks it starts with. -/
def trimLeft (cs : List Char) : List Char := cs.dropWhile isBlank

/-- A text without the blanks it ends with. -/
def trimRight (cs : List Char) : List Char := (cs.reverse.dropWhile isBlank).reverse

/-- A text without the blanks around it. -/
def trim (cs : List Char) : List Char := trimRight (trimLeft cs)

/-- Only blanks, or nothing at all. -/
def AllBlank (cs : List Char) : Prop := ∀ c ∈ cs, isBlank c = true

instance (cs : List Char) : Decidable (AllBlank cs) := List.decidableBAll (isBlank · = true) cs

/-- A string without the blanks around it. -/
def trimmed (s : String) : String := String.ofList (trim s.toList)

/-- Whether a string has nothing but blanks. -/
def blankString (s : String) : Bool := (trim s.toList).isEmpty

theorem dropWhile_blank_append {u v : List Char} (h : AllBlank u) :
    (u ++ v).dropWhile isBlank = v.dropWhile isBlank := by
  induction u with
  | nil => rfl
  | cons c u ih =>
    have hc : isBlank c = true := h c (by simp)
    simp [hc, ih fun d hd => h d (by simp [hd])]

theorem trimLeft_append {u v : List Char} (h : AllBlank u) : trimLeft (u ++ v) = trimLeft v :=
  dropWhile_blank_append h

theorem trimRight_append {u v : List Char} (h : AllBlank v) : trimRight (u ++ v) = trimRight u := by
  unfold trimRight
  rw [List.reverse_append, dropWhile_blank_append]
  intro c hc
  exact h c (by simpa using hc)

end SemanticClient.Text
