import Mathlib.Data.List.Forall2
import SemanticClient.Proofs.Binding.Naming
import SemanticClient.Proofs.Spec.Splicing
import SemanticClient.Proofs.Variable.Paths

/-!
# Positions of arguments

The server binds the arguments of a semantic key by position, so none may be lost, doubled or moved. The
text of a key is cut at its commas before any variable is looked up: every comma gives one argument, which
may be empty, and the value of a variable is one argument whatever it holds. Blanks around a segment have no
say in what it stands for, not even at the ends of the text.

* `Marked.first?_append_left`, `Marked.first?_append_right`: what may be put around a marker.
* `SemanticKey.value_readArg_iff`: what a segment stands for, on its own.
* `SemanticKey.value_parse?_of_written`: a key is read back with the texts that it was written with.
* `SemanticKey.keepsPositions`: from the commas of a text to the arguments of a request.
-/

namespace SemanticClient

open Text

/-- There is one part more than there are separators. -/
theorem Text.length_split (sep : Char) (cs : List Char) :
    (split sep cs).length = cs.count sep + 1 := by
  unfold split
  induction cs with
  | nil => rfl
  | cons c cs ih =>
    obtain ⟨part, parts, hparts⟩ := List.exists_cons_of_ne_nil (splitWhere_ne_nil (· == sep) cs)
    rw [hparts] at ih
    rw [splitWhere, hparts, List.count_cons]
    split
    · rw [List.length_cons, ih]
    · exact ih

/-! ## Markers within blanks -/

namespace Marked

/-- No marker opens in a text without `{`, so the first one stands behind it. -/
theorem first?_append_left {u : List Char} (hu : '\x7b' ∉ u) (cs : List Char) :
    first? (u ++ cs) = (first? cs).map fun m => { m with before := u ++ m.before } := by
  induction u with
  | nil => simp
  | cons c u ih =>
    obtain ⟨hc, hu⟩ := not_or.1 (mt List.mem_cons.2 hu)
    have hclosed : ¬ (OpensAt (c :: (u ++ cs)) 0 ∧ ∃ j, ClosesAt (c :: (u ++ cs)) 0 j) := fun h =>
      hc (opensAt_zero_iff.1 h.1).1.symm
    rw [List.cons_append, first?_cons_of_not_closed hclosed, ih hu, Option.map_map]
    rfl

theorem closing?_append {v : List Char} (hv : '\x7d' ∉ v) (cs : List Char) :
    closing? (cs ++ v) = (closing? cs).map fun r => (r.1, r.2 ++ v) := by
  induction cs with
  | nil => exact closing?_eq_none_iff.2 hv
  | cons c cs ih =>
    rw [List.cons_append, closing?, closing?]
    split
    · rfl
    · rw [ih, Option.map_map, Option.map_map]
      rfl

/-- No marker closes in a text without `}`, so the first one stands before it. -/
theorem first?_append_right {v : List Char} (hv : '\x7d' ∉ v) (cs : List Char) :
    first? (cs ++ v) = (first? cs).map fun m => { m with after := m.after ++ v } := by
  induction cs with
  | nil =>
    refine first?_eq_none fun u w hv' hw => hv ?_
    rw [show v = u ++ '\x7b' :: '@' :: w from hv']
    simp [hw]
  | cons c cs ih =>
    -- what opens here closes where it did, if at all
    have hhere : (if c = '\x7b' ∧ (cs ++ v).head? = some '@' then closing? ((cs ++ v).drop 1) else none) =
        (if c = '\x7b' ∧ cs.head? = some '@' then closing? (cs.drop 1) else none).map
          fun r => (r.1, r.2 ++ v) := by
      cases cs with
      | nil =>
        have hrest : closing? v.tail = none :=
          closing?_eq_none_iff.2 fun h => hv (List.mem_of_mem_tail h)
        simp [hrest]
      | cons d cs =>
        simp only [List.cons_append, List.head?_cons, List.drop_succ_cons, List.drop_zero,
          closing?_append hv]
        split <;> rfl
    rw [List.cons_append, first?, first?, hhere, ih]
    cases (if c = '\x7b' ∧ cs.head? = some '@' then closing? (cs.drop 1) else none) with
    | none => simp only [Option.map_none, Option.map_map, Function.comp_def]
    | some r => rfl

/-- Blanks around a text do not change the path that its first marker names. -/
theorem map_path_first?_append_blanks {u v : List Char} (hu : AllBlank u) (hv : AllBlank v)
    (cs : List Char) : (first? (u ++ (cs ++ v))).map path = (first? cs).map path := by
  rw [first?_append_left (hu.notMem (by decide)), first?_append_right (hv.notMem (by decide)),
    Option.map_map, Option.map_map]
  rfl

end Marked

/-! ## What a segment stands for -/

namespace SemanticKey

/-- What a segment of a semantic key stands for: the variable that its first marker names, or its own text
if no marker opens and closes in it. -/
inductive StandsFor (s : Scope) (segment : List Char) : Variable → Prop
  | ownText (h : ∀ i j, Marked.OpensAt segment i → ¬ Marked.ClosesAt segment i j) :
      StandsFor s segment (.scalar (String.ofList (trim segment)))
  | marked {i j : ℕ} (h : Marked.FirstAt segment i j) :
      StandsFor s segment (s.resolve (Marked.pathAt segment i j)).value

theorem value_readArg (s : Scope) (segment : List Char) :
    (readArg s segment).value =
      match (Marked.first? segment).map Marked.path with
      | some path => (s.resolve path).value
      | none => .scalar (String.ofList (trim segment)) := by
  unfold readArg
  cases Marked.first? segment with
  | none => rfl
  | some m => rfl

/-- **What a segment stands for is what it is read as.** -/
theorem value_readArg_iff {s : Scope} {segment : List Char} {v : Variable} :
    (readArg s segment).value = v ↔ StandsFor s segment v := by
  rw [value_readArg]
  cases hm : Marked.first? segment with
  | none =>
    have hno := Marked.first?_eq_none_iff.1 hm
    constructor
    · rintro rfl
      exact .ownText hno
    · intro h
      cases h with
      | ownText _ => rfl
      | marked h => exact absurd h.closes (hno _ _ h.opens)
  | some m =>
    have hfirst := Marked.firstAt_of_first? hm
    have hpath : Marked.pathAt segment m.start m.stop = m.path := by
      rw [Marked.first?_eq_some hm, Marked.pathAt_start_stop]
    simp only [Option.map_some]
    rw [← hpath]
    constructor
    · rintro rfl
      exact .marked hfirst
    · intro h
      cases h with
      | ownText hno => exact absurd hfirst.closes (hno _ _ hfirst.opens)
      | marked h =>
        obtain ⟨rfl, rfl⟩ := hfirst.unique h
        rfl

/-- Blanks around a segment have no say in what it is read as. -/
theorem value_readArg_append_blanks (s : Scope) {u v : List Char} (hu : AllBlank u) (hv : AllBlank v)
    (segment : List Char) :
    (readArg s (u ++ (segment ++ v))).value = (readArg s segment).value := by
  rw [value_readArg, value_readArg, Marked.map_path_first?_append_blanks hu hv,
    trim_append_blanks hu hv]

/-! ## From a text to its arguments -/

/-- The arguments are read from the parts behind the first comma, one by one. -/
theorem resolvedArgs_eq (s : Scope) (text : String) :
    resolvedArgs s text =
      ((split ',' text.toList).drop 1).map fun segment => (readArg s segment).value := by
  rw [resolvedArgs, List.map_drop, List.map_drop,
    map_split_trim (value_readArg_append_blanks s) isBlank_comma]

/-- The key is read from the part before it. -/
theorem keyText_eq (text : String) : keyText text = trim ((split ',' text.toList).headD []) := by
  have hparts := congrArg List.head? (map_trim_split isBlank_comma text.toList)
  rw [List.head?_map, List.head?_map] at hparts
  obtain ⟨key, args, hkey⟩ := List.exists_cons_of_ne_nil (splitWhere_ne_nil (· == ',') text.toList)
  obtain ⟨key', args', hkey'⟩ :=
    List.exists_cons_of_ne_nil (splitWhere_ne_nil (· == ',') (trim text.toList))
  unfold keyText
  unfold split at hparts ⊢
  rw [hkey, hkey'] at hparts
  rw [hkey, hkey']
  exact Option.some.inj hparts

/-- The arguments that are read from a text keep the places of their segments and are sent in these
places. -/
structure InPlace (s : Scope) (text : String) (k : SemanticKey) : Prop where
  /-- Every comma gives one argument. -/
  length : k.args.length = text.toList.count ','
  /-- An argument depends on its own segment and on no other. -/
  args : ∀ i v, k.args[i]? = some v ↔
    ∃ segment, (split ',' text.toList)[i + 1]? = some segment ∧ StandsFor s segment v
  /-- A request sends them before the arguments of later calls. -/
  sent : ∀ connection calls,
    ((Dataset.ofSemanticKey connection k).value.addAll calls).value.toJson.get? "sqlArgs" =
      some (.array (k.args.map Variable.toJson ++ calls.flatMap DatasetCall.givenArgs))

/-- A request sends the arguments of its key before those of the calls. -/
theorem sqlArgs_addAll (connection : Option String) (k : SemanticKey) (calls : List DatasetCall) :
    ((Dataset.ofSemanticKey connection k).value.addAll calls).value.toJson.get? "sqlArgs" =
      some (.array (k.args.map Variable.toJson ++ calls.flatMap DatasetCall.givenArgs)) := by
  have hentry (d : Dataset) : d.toJson.get? "sqlArgs" = some (.array d.args) := by
    simp [Dataset.toJson, Dataset.members, Select.members]
  rw [hentry, Dataset.args_addAll]
  rfl

/-- **A text that is not blank has a key with its arguments in place.** -/
theorem exists_inPlace (s : Scope) {text : String} (h : ¬ AllBlank text.toList) :
    ∃ k, (parse? s text).value = some k ∧ InPlace s text k := by
  have hblank : blankString text = false := by
    rw [← Bool.not_eq_true]
    exact mt isEmpty_trim_iff.1 h
  refine ⟨_, value_parse? s hblank, ?_, ?_, fun connection => sqlArgs_addAll connection _⟩
  · -- the part before the first comma is no argument
    rw [resolvedArgs_eq, List.length_map, List.length_drop, length_split, Nat.add_sub_cancel]
  · intro i v
    rw [resolvedArgs_eq, List.getElem?_map, List.getElem?_drop, Nat.add_comm 1 i,
      Option.map_eq_some_iff]
    simp only [value_readArg_iff]

/-! ## Arguments that were written -/

/-- A key that can be written: it is not empty, has no blank at its ends and no comma, and does not begin
with the table name that keys once started with. -/
structure PlainKey (key : String) : Prop where
  ne_empty : key ≠ ""
  trimmed : trim key.toList = key.toList
  noComma : ',' ∉ key.toList
  noTable : ¬ legacyTable <+: key.toList

/-- The text of an argument that can be written: it has no blank at its ends, no comma and no marker. -/
structure PlainText (t : String) : Prop where
  trimmed : trim t.toList = t.toList
  noComma : ',' ∉ t.toList
  noMarker : ∀ i j, Marked.OpensAt t.toList i → ¬ Marked.ClosesAt t.toList i j

/-- A text with blanks around it. -/
def Padded (t : String) (part : List Char) : Prop :=
  ∃ u v, AllBlank u ∧ AllBlank v ∧ part = u ++ (t.toList ++ v)

/-- How a key and the texts of its arguments may be written: a comma between any two, blanks around each. -/
def WrittenAs (key : String) (texts : List String) (text : String) : Prop :=
  ∃ parts, List.Forall₂ Padded (key :: texts) parts ∧ text.toList = [','].intercalate parts

theorem Padded.notMem_comma {t : String} {part : List Char} (h : Padded t part)
    (ht : ',' ∉ t.toList) : ',' ∉ part := by
  obtain ⟨u, v, hu, hv, rfl⟩ := h
  simp only [List.mem_append, not_or]
  exact ⟨hu.notMem_comma, ht, hv.notMem_comma⟩

theorem Padded.trim_eq {t : String} {part : List Char} (h : Padded t part)
    (ht : trim t.toList = t.toList) : trim part = t.toList := by
  obtain ⟨u, v, hu, hv, rfl⟩ := h
  rw [trim_append_blanks hu hv, ht]

/-- A plain text is read as itself. -/
theorem Padded.value_readArg_eq (s : Scope) {t : String} {part : List Char} (h : Padded t part)
    (ht : PlainText t) : (readArg s part).value = .scalar t := by
  obtain ⟨u, v, hu, hv, rfl⟩ := h
  rw [value_readArg_append_blanks s hu hv, value_readArg,
    Marked.first?_eq_none_iff.2 ht.noMarker, Option.map_none]
  show Variable.scalar (String.ofList (trim t.toList)) = .scalar t
  rw [ht.trimmed, String.ofList_toList]

theorem notMem_comma_of_padded {ts : List String} {parts : List (List Char)}
    (h : List.Forall₂ Padded ts parts) (hts : ∀ t ∈ ts, ',' ∉ t.toList) :
    ∀ part ∈ parts, ',' ∉ part := by
  induction h with
  | nil => exact List.forall_mem_nil _
  | cons hpart _ ih =>
    obtain ⟨ht, hts⟩ := List.forall_mem_cons.1 hts
    exact List.forall_mem_cons.2 ⟨hpart.notMem_comma ht, ih hts⟩

theorem map_readArg_of_padded (s : Scope) {ts : List String} {parts : List (List Char)}
    (h : List.Forall₂ Padded ts parts) (hts : ∀ t ∈ ts, PlainText t) :
    parts.map (fun part => (readArg s part).value) = ts.map .scalar := by
  induction h with
  | nil => rfl
  | cons hpart _ ih =>
    obtain ⟨ht, hts⟩ := List.forall_mem_cons.1 hts
    rw [List.map_cons, List.map_cons, ih hts, hpart.value_readArg_eq s ht]

/-- **A key is read back with the texts that it was written with**, each as an argument of its own. -/
theorem value_parse?_of_written (s : Scope) {key : String} {texts : List String} {text : String}
    (hkey : PlainKey key) (htexts : ∀ t ∈ texts, PlainText t) (h : WrittenAs key texts text) :
    (parse? s text).value = some ⟨key, texts.map .scalar⟩ := by
  obtain ⟨parts, hparts, htext⟩ := h
  have hcommas := notMem_comma_of_padded hparts
    (List.forall_mem_cons.2 ⟨hkey.noComma, fun t ht => (htexts t ht).noComma⟩)
  obtain ⟨first, rest, hfirst, hrest, rfl⟩ := List.forall₂_cons_left_iff.1 hparts
  have hsplit : split ',' text.toList = first :: rest := by
    rw [htext]
    exact split_intercalate (List.cons_ne_nil first rest) hcommas
  have hread : keyText text = key.toList := by
    rw [keyText_eq, hsplit]
    exact hfirst.trim_eq hkey.trimmed
  have hblank : blankString text = false := by
    rw [← Bool.not_eq_true]
    intro hblank
    -- nothing would be left of the key
    have hnil : keyText text = [] := by
      rw [keyText, List.isEmpty_iff.1 hblank]
      rfl
    rw [hread] at hnil
    exact hkey.ne_empty (String.toList_eq_nil_iff.1 hnil)
  rw [value_parse? s hblank, resolvedArgs_eq, hsplit, hread, value_readKey,
    if_neg (mt List.isPrefixOf_iff_prefix.1 hkey.noTable), String.ofList_toList]
  congr 2
  exact map_readArg_of_padded s hrest htexts

/-- **Arguments keep their positions.** In a text that is not blank every comma gives one argument, read from
the segment behind it and from nothing else: the variable of its first marker or its own text. A key and
plain texts are read back as they were written, whatever blanks stand around them. A request sends the
arguments of a key in their order, before those of later calls. -/
theorem keepsPositions (s : Scope) :
    (∀ text : String, ¬ AllBlank text.toList →
      ∃ k, (parse? s text).value = some k ∧ InPlace s text k) ∧
    ∀ (key : String) (texts : List String) (text : String), PlainKey key →
      (∀ t ∈ texts, PlainText t) → WrittenAs key texts text →
      (parse? s text).value = some ⟨key, texts.map .scalar⟩ :=
  ⟨fun _ => exists_inPlace s, fun _ _ _ => value_parse?_of_written s⟩

/-- A key with an empty argument, a variable that is a list and a comma at the end; and a key that was
written with blanks around an empty text. -/
theorem keepsPositions_roles :
    (∃ k, (parse? ⟨some [("ids", .list ["1", "2"])], []⟩ " roles.ez,, {@ ids} x, ").value = some k ∧
      InPlace ⟨some [("ids", .list ["1", "2"])], []⟩ " roles.ez,, {@ ids} x, " k) ∧
    (parse? ⟨none, []⟩ " roles.ez ,\t, all roles").value =
      some ⟨"roles.ez", [.scalar "", .scalar "all roles"]⟩ := by
  have hkey : PlainKey "roles.ez" := ⟨by decide, by decide, by decide, by decide⟩
  have hempty : PlainText "" := ⟨by decide, by decide, Marked.first?_eq_none_iff.1 (by decide)⟩
  have hall : PlainText "all roles" :=
    ⟨by decide, by decide, Marked.first?_eq_none_iff.1 (by decide)⟩
  have hwritten : WrittenAs "roles.ez" ["", "all roles"] " roles.ez ,\t, all roles" :=
    ⟨[" roles.ez ".toList, "\t".toList, " all roles".toList],
      .cons ⟨[' '], [' '], by decide, by decide, by decide⟩
        (.cons ⟨['\t'], [], by decide, by decide, by decide⟩
          (.cons ⟨[' '], [], by decide, by decide, by decide⟩ .nil)), by decide⟩
  refine ⟨(keepsPositions _).1 _ (by decide), (keepsPositions _).2 _ _ _ hkey ?_ hwritten⟩
  simp [hempty, hall]

end SemanticKey
end SemanticClient
