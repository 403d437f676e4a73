import Mathlib.Data.List.Forall2
import Mathlib.Data.List.TakeWhile
import SemanticClient.Json.Parser
import SemanticClient.Json.Printer

/-!
# Texts of JSON values

What a text is a text of does not depend on its layout. A text names the parts of its value in order, each
item and each member once, and blanks may stand before a part, behind a colon and before a closing bracket.
The compact text and the indented one are two of the texts of a value.

Besides there is the plain text of a value, which is what names a column and what a cell is compared by.

* `Json.plainText_iff`: the plain text of a value.
* `Json.hasText_text`, `Json.hasText_indented`: the two layouts are texts of the value that they lay out.
-/

namespace SemanticClient.Json

/-! ## Plain texts -/

/-- The plain text of a value: its own if it is a string, its JSON text otherwise. -/
inductive PlainText : Json → String → Prop
  | string (s : String) : PlainText (.string s) s
  | other {j : Json} (h : ∀ s, j ≠ .string s) : PlainText j j.text

theorem plainText_iff {j : Json} {s : String} : PlainText j s ↔ s = j.plainText := by
  constructor
  · intro h
    cases h with
    | string s => rfl
    | other h =>
      cases j with
      | string s => exact absurd rfl (h s)
      | _ => rfl
  · rintro rfl
    cases j with
    | string s => exact .string s
    | _ => exact .other fun _ => Json.noConfusion

theorem forall₂_plainText_iff {items : List Json} {texts : List String} :
    List.Forall₂ PlainText items texts ↔ texts = items.map plainText := by
  have hitem : PlainText = fun j s => s = j.plainText := by
    funext j s
    exact propext plainText_iff
  rw [hitem, eq_comm, ← List.forall₂_eq_eq_eq, List.forall₂_map_left_iff]
  simp only [eq_comm]

/-! ## Texts in any layout -/

/-- Nothing but blanks that a reader passes over. -/
def Blanks (s : String) : Prop := skipBlanks s.toList = []

/-- Parts one after another, with commas between and blanks before each. -/
inductive Listed {α : Type} (IsPart : α → String → Prop) : List α → String → Prop
  | nil : Listed IsPart [] ""
  | last {a : α} {u t : String} (hu : Blanks u) (ht : IsPart a t) : Listed IsPart [a] (u ++ t)
  | cons {a b : α} {as : List α} {u t s : String} (hu : Blanks u) (ht : IsPart a t)
      (hs : Listed IsPart (b :: as) s) : Listed IsPart (a :: b :: as) (u ++ t ++ "," ++ s)

mutual

/-- A text of a value, in some layout. -/
inductive HasText : Json → String → Prop
  | null : HasText .null "null"
  | true : HasText (.bool true) "true"
  | false : HasText (.bool false) "false"
  | number (n : Number) : HasText (.number n) n.text
  | string (s : String) : HasText (.string s) (stringText s)
  | array {items : List Json} {s z : String} (hs : Listed HasText items s) (hz : Blanks z) :
      HasText (.array items) ("[" ++ s ++ z ++ "]")
  | object {members : List (String × Json)} {s z : String} (hs : Listed HasMemberText members s)
      (hz : Blanks z) : HasText (.object members) ("\x7b" ++ s ++ z ++ "\x7d")

/-- A text of a member: its key, a colon and a text of its value. -/
inductive HasMemberText : String × Json → String → Prop
  | colon {k : String} {v : Json} {u t : String} (hu : Blanks u) (ht : HasText v t) :
      HasMemberText (k, v) (stringText k ++ ":" ++ u ++ t)

end

theorem blanks_empty : Blanks "" := rfl

theorem blanks_newline (level : Nat) : Blanks (newline level) := by
  rw [Blanks, newline, String.toList_ofList, skipBlanks, List.dropWhile_eq_nil_iff]
  intro c hc
  rcases List.mem_cons.1 hc with rfl | hc
  · rfl
  · rw [(List.mem_replicate.1 hc).2]
    rfl

variable {α : Type} {IsPart : α → String → Prop} {as : List α} {parts : List String}

theorem listed_intercalate {u : String} (hu : Blanks u) (h : List.Forall₂ IsPart as parts)
    (hne : parts ≠ []) : Listed IsPart as (u ++ ("," ++ u).intercalate parts) := by
  induction h with
  | nil => exact absurd rfl hne
  | @cons a t as ts ht hs ih =>
    cases hs with
    | nil =>
      rw [String.intercalate_singleton]
      exact .last hu ht
    | @cons b t' as ts ht' hs =>
      have hrest := ih (List.cons_ne_nil t' ts)
      rw [String.intercalate_cons_cons]
      simpa only [String.append_assoc] using Listed.cons hu ht hrest

/-- Parts without any blanks between. -/
theorem listed_compact (h : List.Forall₂ IsPart as parts) : Listed IsPart as (",".intercalate parts) := by
  cases h with
  | nil => exact .nil
  | @cons a t as ts ht hs =>
    have hlisted := listed_intercalate blanks_empty (.cons ht hs) (List.cons_ne_nil t ts)
    rwa [String.append_empty, String.empty_append] at hlisted

/-- Parts on lines of their own. -/
theorem exists_listed_block (h : List.Forall₂ IsPart as parts) (opening closing : String)
    (level : Nat) :
    ∃ s z, Listed IsPart as s ∧ Blanks z ∧
      block opening closing level parts = opening ++ s ++ z ++ closing := by
  cases h with
  | nil => exact ⟨"", "", .nil, blanks_empty, by simp [block]⟩
  | @cons a t as ts ht hs =>
    have hlisted := listed_intercalate (blanks_newline (level + 1)) (.cons ht hs) (List.cons_ne_nil t ts)
    exact ⟨_, _, hlisted, blanks_newline level, by simp only [block, String.append_assoc]⟩

mutual

/-- **The compact text is a text of its value.** -/
theorem hasText_text : ∀ v : Json, HasText v v.text
  | .null => .null
  | .bool true => .true
  | .bool false => .false
  | .number n => .number n
  | .string s => .string s
  | .array items => by
    have htext := HasText.array (listed_compact (hasText_textItems items)) blanks_empty
    rwa [String.append_empty] at htext
  | .object members => by
    have htext := HasText.object (listed_compact (hasText_textMembers members)) blanks_empty
    rwa [String.append_empty] at htext

theorem hasText_textItems : ∀ items : List Json, List.Forall₂ HasText items (textItems items)
  | [] => .nil
  | v :: vs => .cons (hasText_text v) (hasText_textItems vs)

theorem hasText_textMembers :
    ∀ members : List (String × Json), List.Forall₂ HasMemberText members (textMembers members)
  | [] => .nil
  | (k, v) :: ms => by
    have hmember := HasMemberText.colon (k := k) blanks_empty (hasText_text v)
    rw [String.append_empty] at hmember
    exact .cons hmember (hasText_textMembers ms)

end

mutual

/-- A value is laid out at any level of nesting. -/
theorem hasText_indentedAt : ∀ (level : Nat) (v : Json), HasText v (indentedAt level v)
  | level, .array items => by
    obtain ⟨s, z, hs, hz, hblock⟩ :=
      exists_listed_block (hasText_indentedItems (level + 1) items) "[" "]" level
    rw [indentedAt, hblock]
    exact .array hs hz
  | level, .object members => by
    obtain ⟨s, z, hs, hz, hblock⟩ :=
      exists_listed_block (hasText_indentedMembers (level + 1) members) "\x7b" "\x7d" level
    rw [indentedAt, hblock]
    exact .object hs hz
  | _, .null => hasText_text .null
  | _, .bool b => hasText_text (.bool b)
  | _, .number n => hasText_text (.number n)
  | _, .string s => hasText_text (.string s)

theorem hasText_indentedItems :
    ∀ (level : Nat) (items : List Json), List.Forall₂ HasText items (indentedItems level items)
  | _, [] => .nil
  | level, v :: vs => .cons (hasText_indentedAt level v) (hasText_indentedItems level vs)

theorem hasText_indentedMembers : ∀ (level : Nat) (members : List (String × Json)),
    List.Forall₂ HasMemberText members (indentedMembers level members)
  | _, [] => .nil
  | level, (k, v) :: ms => by
    have hmember := HasMemberText.colon (k := k) (u := " ") rfl (hasText_indentedAt level v)
    have hcolon : stringText k ++ ":" ++ " " = stringText k ++ ": " := String.append_assoc
    rw [hcolon] at hmember
    exact .cons hmember (hasText_indentedMembers level ms)

end

/-- **The indented text is a text of its value.** -/
theorem hasText_indented (v : Json) : HasText v v.indented := hasText_indentedAt 0 v

end SemanticClient.Json
