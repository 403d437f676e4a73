import SemanticClient.Proofs.Spec.Draft
import SemanticClient.Proofs.Spec.Lexical

/-!
# Join specs are read back as they are written

A table is written as a segment with blanks at will (`Layout.write`): the main table as `table:alias`,
every other table as `flag:table:alias condition`, an alias only where there is one. A segment has more
than one reading in sight, since a colon may start an alias or a condition and a main table may look like
a flag. What tells them apart is said by `Join.Writable`.

* `Segment.ofText_write`: a written segment has the form it was written in.
* `readSegment_write`: it gives its table, with any scope and without a notice.
* `parse_write`: a spec of at least one segment gives the tables that were written, in order.
* `not_forall_parse_write`: no tables at all cannot be written, since the empty spec is one empty segment.
-/

namespace SemanticClient.Spec

open Text

/-! ## Writing -/

/-- Blanks that mean nothing. -/
abbrev Blanks := { cs : List Char // AllBlank cs }

/-- Where the blanks of a segment stand, and the case of its flag. -/
structure Layout where
  before : Blanks
  capital : Bool
  /-- Around the colon after the flag. -/
  beforeColon : Blanks
  afterColon : Blanks
  /-- Around the colon before the alias. -/
  beforeAlias : Blanks
  afterAlias : Blanks
  /-- Before the condition. -/
  gap : Blanks
  gap_ne_nil : gap.1 ≠ []
  after : Blanks

/-- The flag of a kind of join, in either case. -/
def JoinKind.flag? (capital : Bool) : JoinKind → Option Char
  | .main => none
  | .inner => some (if capital then 'J' else 'j')
  | .left => some (if capital then 'L' else 'l')
  | .right => some (if capital then 'R' else 'r')

/-- Exactly the main table has no flag. -/
theorem JoinKind.flag?_eq_none_iff {kind : JoinKind} {capital : Bool} :
    kind.flag? capital = none ↔ kind = .main := by
  cases kind with
  | main => exact ⟨fun _ => rfl, fun _ => rfl⟩
  | _ =>
    constructor
    · intro h
      cases h
    · intro h
      cases h

namespace Layout

/-- An alias with its colon, if there is one, and what follows. -/
def withAlias (l : Layout) (rest : List Char) : Option String → List Char
  | none => rest
  | some a => l.beforeAlias.1 ++ ':' :: (l.afterAlias.1 ++ (a.toList ++ rest))

/-- A condition after the blanks that set it off. -/
def condition (l : Layout) (condition : String) : List Char :=
  l.gap.1 ++ (condition.toList ++ l.after.1)

/-- A table as a segment. -/
def write (l : Layout) (j : Join) : List Char :=
  match j.kind.flag? l.capital with
  | none => l.before.1 ++ (j.table.toList ++ l.withAlias l.after.1 j.tableAlias)
  | some f =>
    l.before.1 ++ f :: (l.beforeColon.1 ++ ':' :: (l.afterColon.1 ++ (j.table.toList ++
      l.withAlias (l.condition (j.condition.getD "")) j.tableAlias)))

end Layout

/-- Tables as a spec, a comma between any two. -/
def JoinList.write (list : List (Join × Layout)) : String :=
  String.ofList ([','].intercalate (list.map fun p => p.2.write p.1))

/-! ## What can be written -/

/-- A name of a table, or an alias. -/
structure IsName (s : String) : Prop where
  ne_empty : s ≠ ""
  isWord : ∀ c ∈ s.toList, isWord c = true

/-- A condition that stands for itself: one line of one segment, with no blank at its ends, no marker,
and no colon that would be taken for the mark of an alias. -/
structure IsPlain (s : String) : Prop where
  ne_empty : s ≠ ""
  noComma : ',' ∉ s.toList
  noLineFeed : '\n' ∉ s.toList
  noBlankFirst : Stops isBlank s.toList
  noBlankLast : Stops isBlank s.toList.reverse
  noColonFirst : s.toList.head? ≠ some ':'
  noMarker : ∀ u v, s.toList = u ++ '\x7b' :: '@' :: v → '\x7d' ∉ v

/-- A table that can be written: the main table has no condition, every other table has one, and a main
table with an alias does not look like a flag. -/
structure Join.Writable (j : Join) : Prop where
  table : IsName j.table
  tableAlias : ∀ a ∈ j.tableAlias, IsName a
  alone : j.kind = .main → j.condition = none
  noFlag : j.kind = .main → j.tableAlias ≠ none → j.table ∉ ["j", "J", "l", "L", "r", "R"]
  joined : j.kind ≠ .main → ∃ c, j.condition = some c ∧ IsPlain c

theorem IsName.toList_ne_nil {s : String} (h : IsName s) : s.toList ≠ [] :=
  fun e => h.ne_empty (String.toList_eq_nil_iff.1 e)

theorem isName_ofList {w : List Char} (hne : w ≠ []) (hw : ∀ c ∈ w, isWord c = true) :
    IsName (String.ofList w) where
  ne_empty := mt String.ofList_eq_empty_iff.1 hne
  isWord := by rwa [String.toList_ofList]

theorem IsPlain.toList_ne_nil {s : String} (h : IsPlain s) : s.toList ≠ [] :=
  fun e => h.ne_empty (String.toList_eq_nil_iff.1 e)

theorem map_ofList_map_toList (a : Option String) : (a.map String.toList).map String.ofList = a := by
  cases a with
  | none => rfl
  | some b => rw [Option.map_some, Option.map_some, String.ofList_toList]

/-- A name does not start with a blank. -/
theorem IsName.stops_isBlank {s : String} (h : IsName s) (rest : List Char) :
    Stops isBlank (s.toList ++ rest) :=
  stops_isBlank_of_isWord h.isWord rest h.toList_ne_nil

theorem IsPlain.stops_isBlank {s : String} (h : IsPlain s) (rest : List Char) :
    Stops isBlank (s.toList ++ rest) := by
  have hb := h.noBlankFirst
  cases hs : s.toList with
  | nil => exact absurd hs h.toList_ne_nil
  | cons c cs =>
    rw [hs] at hb
    exact stops_cons (hb c rfl) _

/-- Blanks end a name. -/
theorem stops_isWord_blanks {u rest : List Char} (hu : AllBlank u)
    (h : u = [] → Stops isWord rest) : Stops isWord (u ++ rest) := by
  cases u with
  | nil => exact h rfl
  | cons c u => exact stops_cons (isWord_of_isBlank (hu c List.mem_cons_self)) _

/-! ## Reading what was written -/

variable (l : Layout)

/-- What follows a table ends its name. -/
theorem Layout.stops_withAlias {rest : List Char} (h : Stops isWord rest) (a : Option String) :
    Stops isWord (l.withAlias rest a) := by
  cases a with
  | none => exact h
  | some a => exact stops_isWord_blanks l.beforeAlias.2 fun _ => stops_cons isWord_colon _

theorem Layout.stops_condition (c : String) : Stops isWord (l.condition c) :=
  stops_isWord_blanks l.gap.2 fun e => absurd e l.gap_ne_nil

theorem Layout.stops_after : Stops isWord l.after.1 := by
  have h : Stops isWord (l.after.1 ++ []) := stops_isWord_blanks l.after.2 fun _ => stops_nil
  rwa [List.append_nil] at h

namespace Segment

/-- A condition is read without the blanks around it. -/
theorem condition?_write {c : String} (h : IsPlain c) :
    condition? (l.condition c) = some c.toList := by
  have hgap : (l.condition c).takeWhile isBlank = l.gap.1 :=
    takeWhile_append_stops l.gap.2 (h.stops_isBlank _)
  have htrim : trim (l.condition c) = c.toList := by
    rw [Layout.condition, ← List.append_assoc]
    exact trim_blanks l.gap.2 l.after.2 h.noBlankFirst h.noBlankLast h.toList_ne_nil
  unfold condition?
  simp only [hgap, htrim, List.isEmpty_eq_false_iff.2 l.gap_ne_nil,
    List.isEmpty_eq_false_iff.2 h.toList_ne_nil, List.contains_iff_mem, h.noLineFeed,
    Bool.false_eq_true, if_false]

/-- **A table with its condition.** Without an alias, the condition is not mistaken for one. -/
theorem joined?_write {table c : String} {a : Option String} (kind : JoinKind) (ht : IsName table)
    (ha : ∀ b ∈ a, IsName b) (hc : IsPlain c) :
    joined? kind (table.toList ++ l.withAlias (l.condition c) a) =
      some (.joined kind table.toList (a.map String.toList) c.toList) := by
  have hname := name?_append ht.isWord ht.toList_ne_nil
    (l.stops_withAlias (l.stops_condition c) a)
  unfold joined?
  rw [hname]
  cases a with
  | none =>
    have hcolon : colon? (l.condition c) = none := by
      refine colon?_eq_none l.gap.2 (hc.stops_isBlank _) ?_
      rw [List.head?_append_of_ne_nil _ hc.toList_ne_nil]
      exact hc.noColonFirst
    simp [aliased?, Layout.withAlias, hcolon, condition?_write l hc]
  | some b =>
    have hb := ha b rfl
    have hcolon := colon?_append l.beforeAlias.2 l.afterAlias.2
      (hb.stops_isBlank (l.condition c))
    have hbname := name?_append hb.isWord hb.toList_ne_nil (l.stops_condition c)
    simp [aliased?, Layout.withAlias, hcolon, hbname, condition?_write l hc]

/-- A table that stands alone. -/
theorem alone?_write {table : String} {a : Option String} (ht : IsName table)
    (ha : ∀ b ∈ a, IsName b) :
    alone? (l.before.1 ++ (table.toList ++ l.withAlias l.after.1 a)) =
      some (.alone table.toList (a.map String.toList)) := by
  have hname := name?_append ht.isWord ht.toList_ne_nil (l.stops_withAlias l.stops_after a)
  unfold alone?
  rw [trimLeft_blanks l.before.2 (ht.stops_isBlank _), hname]
  cases a with
  | none =>
    have hcolon := colon?_of_allBlank l.after.2
    simp [Layout.withAlias, hcolon, trim_allBlank l.after.2]
  | some b =>
    have hb := ha b rfl
    have hcolon := colon?_append l.beforeAlias.2 l.afterAlias.2 (hb.stops_isBlank l.after.1)
    have hbname := name?_append hb.isWord hb.toList_ne_nil l.stops_after
    simp [Layout.withAlias, hcolon, hbname, trim_allBlank l.after.2]

theorem isBlank_of_ofFlag? {f : Char} {kind : JoinKind} (h : JoinKind.ofFlag? f = some kind) :
    isBlank f = false := by
  cases hb : isBlank f with
  | false => rfl
  | true =>
    have hall : ∀ n ∈ blankCodes, JoinKind.ofFlag? (Char.ofNat n) = none := by decide
    have hn := hall f.toNat (mem_blankCodes hb)
    rw [Char.ofNat_toNat, h] at hn
    cases hn

theorem ofFlag?_flag? {kind : JoinKind} {capital : Bool} {f : Char}
    (h : kind.flag? capital = some f) : JoinKind.ofFlag? f = some kind := by
  cases kind with
  | main => cases h
  | inner => cases h; cases capital <;> decide
  | left => cases h; cases capital <;> decide
  | right => cases h; cases capital <;> decide

/-- A flag is read with its colon. -/
theorem flag?_append {u v w rest : List Char} {f : Char} {kind : JoinKind} (hu : AllBlank u)
    (hv : AllBlank v) (hw : AllBlank w) (hf : JoinKind.ofFlag? f = some kind)
    (h : Stops isBlank rest) :
    flag? (u ++ f :: (v ++ ':' :: (w ++ rest))) = some (kind, rest) := by
  unfold flag?
  rw [trimLeft_blanks hu (stops_cons (isBlank_of_ofFlag? hf) _)]
  simp [hf, colon?_append hv hw h]

theorem colon?_word {d : Char} (hd : isWord d = true) (cs : List Char) : colon? (d :: cs) = none := by
  have hne : d ≠ ':' := by
    rintro rfl
    rw [isWord_colon] at hd
    cases hd
  refine colon?_eq_none (u := []) (by intro c hc; cases hc)
    (stops_cons (isBlank_of_isWord hd) cs) ?_
  rw [List.head?_cons]
  exact fun e => hne (Option.some.inj e)

theorem ofFlag?_eq_none {c : Char} (h : String.ofList [c] ∉ ["j", "J", "l", "L", "r", "R"]) :
    JoinKind.ofFlag? c = none := by
  have hne : ∀ d, String.ofList [d] ∈ ["j", "J", "l", "L", "r", "R"] → c ≠ d := by
    rintro d hd rfl
    exact h hd
  unfold JoinKind.ofFlag?
  rw [if_neg (by simp [hne 'j' (by decide), hne 'J' (by decide)]),
    if_neg (by simp [hne 'l' (by decide), hne 'L' (by decide)]),
    if_neg (by simp [hne 'r' (by decide), hne 'R' (by decide)])]

/-- **A main table is not taken for a flag**, unless it has an alias and looks like one. -/
theorem flag?_alone {table : String} {a : Option String} (ht : IsName table)
    (hflag : a ≠ none → table ∉ ["j", "J", "l", "L", "r", "R"]) :
    flag? (l.before.1 ++ (table.toList ++ l.withAlias l.after.1 a)) = none := by
  unfold flag?
  rw [trimLeft_blanks l.before.2 (ht.stops_isBlank _)]
  have hw := ht.isWord
  cases hs : table.toList with
  | nil => exact absurd hs ht.toList_ne_nil
  | cons c cs =>
    rw [hs] at hw
    simp only [List.cons_append]
    cases cs with
    | cons d cs =>
      have hd := hw d (List.mem_cons_of_mem _ List.mem_cons_self)
      simp [colon?_word hd]
    | nil =>
      -- one character: without an alias no colon follows it, and with one it is no flag
      cases a with
      | none =>
        have hcolon := colon?_of_allBlank l.after.2
        simp [Layout.withAlias, hcolon]
      | some b =>
        have htable : table = String.ofList [c] := by
          rw [← hs, String.ofList_toList]
        have hc : JoinKind.ofFlag? c = none := ofFlag?_eq_none (htable ▸ hflag (by simp))
        simp [hc]

/-- **A written segment has the form it was written in.** -/
theorem ofText_write {j : Join} (hj : j.Writable) :
    ofText (l.write j) =
      match j.condition with
      | none => .alone j.table.toList (j.tableAlias.map String.toList)
      | some c => .joined j.kind j.table.toList (j.tableAlias.map String.toList) c.toList := by
  unfold ofText Layout.write
  cases hf : j.kind.flag? l.capital with
  | none =>
    have hmain := JoinKind.flag?_eq_none_iff.1 hf
    simp only [flag?_alone l hj.table (hj.noFlag hmain), alone?_write l hj.table hj.tableAlias,
      hj.alone hmain, Option.getD_some]
  | some f =>
    have hmain : j.kind ≠ .main := by
      rw [Ne, ← JoinKind.flag?_eq_none_iff, hf]
      exact Option.some_ne_none f
    obtain ⟨c, hc, hplain⟩ := hj.joined hmain
    have hflag := flag?_append l.before.2 l.beforeColon.2 l.afterColon.2 (ofFlag?_flag? hf)
      (hj.table.stops_isBlank (l.withAlias (l.condition c) j.tableAlias))
    simp only [hc, Option.getD_some, hflag,
      joined?_write l j.kind hj.table hj.tableAlias hplain]

end Segment

namespace JoinList

theorem splice_of_isPlain (s : Scope) {c : String} (h : IsPlain c) :
    splice s c.toList = pure c.toList := by
  unfold splice
  rw [Marked.first?_eq_none h.noMarker]

/-- **A written segment gives its table**, with any scope and without a notice. -/
theorem readSegment_write (s : Scope) (mainKnown : Bool) {j : Join} (hj : j.Writable)
    (hmain : j.kind = .main → mainKnown = false) :
    readSegment s mainKnown (l.write j) = pure (.ok j) := by
  obtain ⟨kind, table, a, condition⟩ := j
  unfold readSegment
  rw [Segment.ofText_write l hj]
  by_cases hk : kind = .main
  · have hc : condition = none := hj.alone hk
    subst hk hc
    simp only [hmain rfl, Bool.false_eq_true, if_false, String.ofList_toList, map_ofList_map_toList]
  · obtain ⟨c, hc, hplain⟩ := hj.joined hk
    simp only at hc
    subst hc
    simp only [splice_of_isPlain s hplain, pure_bind, String.ofList_toList, map_ofList_map_toList]

/-- Whether a table is the main table of a spec. -/
def isMainTable (p : Join × Layout) : Bool := p.1.kind == .main

/-- **Written segments give their tables**, if the main table is among them at most once, and not at all
if it is known already. -/
theorem readSegments_write (s : Scope) :
    ∀ (list : List (Join × Layout)) (mainKnown : Bool), (∀ p ∈ list, p.1.Writable) →
      list.countP isMainTable + mainKnown.toNat ≤ 1 →
      readSegments s mainKnown (list.map fun p => p.2.write p.1) =
        pure (list.map fun p => .ok p.1) := by
  intro list
  induction list with
  | nil => intro mainKnown _ _; rfl
  | cons p list ih =>
    intro mainKnown hw hone
    rw [List.countP_cons] at hone
    have hmain : p.1.kind = .main → mainKnown = false := by
      intro hk
      have hp : isMainTable p = true := by rw [isMainTable, hk]; rfl
      rw [hp] at hone
      cases mainKnown with
      | false => rfl
      | true => simp at hone
    have hrest : list.countP isMainTable + (mainKnown || isMain (.ok p.1)).toNat ≤ 1 := by
      have he : isMain (.ok p.1) = isMainTable p := rfl
      rw [he]
      cases mainKnown <;> cases hp : isMainTable p <;> simp [hp] at hone ⊢ <;> omega
    simp only [List.map_cons, readSegments]
    rw [readSegment_write p.2 s mainKnown (hw p List.mem_cons_self) hmain, pure_bind,
      ih _ (fun q hq => hw q (List.mem_cons_of_mem _ hq)) hrest, pure_bind]

theorem ofResults_ok (joins : List Join) : ofResults (joins.map .ok) = ⟨joins, []⟩ := by
  induction joins with
  | nil => rfl
  | cons j joins ih =>
    rw [ofResults, JoinList.mk.injEq] at ih ⊢
    simp only [List.map_cons, List.filterMap_cons_none]
    exact ⟨congrArg (j :: ·) ih.1, ih.2⟩

end JoinList

/-! ## Whole specs -/

theorem IsName.notMem_comma {s : String} (h : IsName s) : ',' ∉ s.toList :=
  notMem_of_isWord h.isWord isWord_comma

theorem flag?_ne_comma {kind : JoinKind} {capital : Bool} {f : Char}
    (h : kind.flag? capital = some f) : ',' ≠ f := by
  have hf := Segment.ofFlag?_flag? h
  rintro rfl
  cases hf

theorem Layout.notMem_comma_withAlias {rest : List Char} (hrest : ',' ∉ rest) {a : Option String}
    (ha : ∀ b ∈ a, IsName b) : ',' ∉ l.withAlias rest a := by
  cases a with
  | none => exact hrest
  | some b =>
    have hb := (ha b rfl).notMem_comma
    have hbefore := l.beforeAlias.2.notMem_comma
    have hafter := l.afterAlias.2.notMem_comma
    have hcolon : ',' ≠ ':' := by decide
    simp only [Layout.withAlias, List.mem_append, List.mem_cons, not_or]
    exact ⟨hbefore, hcolon, hafter, hb, hrest⟩

/-- No comma stands within a written segment. -/
theorem Layout.notMem_comma_write {j : Join} (hj : j.Writable) : ',' ∉ l.write j := by
  have hbefore := l.before.2.notMem_comma
  have htable := hj.table.notMem_comma
  unfold Layout.write
  cases hf : j.kind.flag? l.capital with
  | none =>
    have hrest := l.notMem_comma_withAlias l.after.2.notMem_comma hj.tableAlias
    simp only [List.mem_append, not_or]
    exact ⟨hbefore, htable, hrest⟩
  | some f =>
    have hmain : j.kind ≠ .main := by
      rw [Ne, ← JoinKind.flag?_eq_none_iff, hf]
      exact Option.some_ne_none f
    obtain ⟨c, hc, hplain⟩ := hj.joined hmain
    have hcondition : ',' ∉ l.condition (j.condition.getD "") := by
      rw [hc, Option.getD_some, Layout.condition, List.mem_append, List.mem_append]
      rintro (h | h | h)
      · exact l.gap.2.notMem_comma h
      · exact hplain.noComma h
      · exact l.after.2.notMem_comma h
    have hrest := l.notMem_comma_withAlias hcondition hj.tableAlias
    have hcolon : ',' ≠ ':' := by decide
    simp only [List.mem_append, List.mem_cons, not_or]
    exact ⟨hbefore, flag?_ne_comma hf, l.beforeColon.2.notMem_comma, hcolon,
      l.afterColon.2.notMem_comma, htable, hrest⟩

namespace JoinList

/-- **A written spec is read back.** The tables come in the order they were written in, with nothing left
out, whatever the variables are. -/
theorem parse_write (s : Scope) {list : List (Join × Layout)} (hne : list ≠ [])
    (hw : ∀ p ∈ list, p.1.Writable) (hmain : list.countP isMainTable ≤ 1) :
    parse s (write list) = pure ⟨list.map Prod.fst, []⟩ := by
  have hsplit : split ',' (write list).toList = list.map fun p => p.2.write p.1 := by
    rw [write, String.toList_ofList]
    refine split_intercalate (fun e => hne (List.map_eq_nil_iff.1 e)) ?_
    intro part hpart
    obtain ⟨p, hp, rfl⟩ := List.mem_map.1 hpart
    exact p.2.notMem_comma_write (hw p hp)
  have hresults : (list.map fun p => (.ok p.1 : Except SpecError Join)) =
      (list.map Prod.fst).map .ok := by
    rw [List.map_map]
    rfl
  unfold parse
  rw [hsplit, readSegments_write s list false hw hmain, pure_bind, hresults, ofResults_ok]

/-- A join before a main table that is named like a flag, with blanks wherever they may stand. -/
def articles : List (Join × Layout) :=
  let blanks : Layout :=
    { before := ⟨[' '], by decide⟩
      capital := true
      beforeColon := ⟨[' '], by decide⟩
      afterColon := ⟨['\t'], by decide⟩
      beforeAlias := ⟨[' '], by decide⟩
      afterAlias := ⟨[' ', ' '], by decide⟩
      gap := ⟨['\n', ' '], by decide⟩
      gap_ne_nil := by decide
      after := ⟨[' '], by decide⟩ }
  [(⟨.left, "b_cate", some "c", some "c.id = :cateId"⟩, blanks), (⟨.main, "j", none, none⟩, blanks)]

theorem parse_write_articles :
    parse ⟨none, []⟩ " L :\tb_cate :  c\n c.id = :cateId , j " =
      pure ⟨[⟨.left, "b_cate", some "c", some "c.id = :cateId"⟩, ⟨.main, "j", none, none⟩], []⟩ := by
  have hplain : IsPlain "c.id = :cateId" := by
    refine ⟨by decide, by decide, by decide, by decide, by decide, by decide, ?_⟩
    intro u v h
    have hbrace : '\x7b' ∈ "c.id = :cateId".toList := by
      rw [h, List.mem_append]
      exact Or.inr List.mem_cons_self
    exact absurd hbrace (by decide)
  have hw : ∀ p ∈ articles, p.1.Writable := by
    intro p hp
    rcases List.mem_cons.1 hp with rfl | hp
    · refine ⟨⟨by decide, List.all_eq_true.1 (by decide)⟩, ?_, by simp, by simp,
        fun _ => ⟨_, rfl, hplain⟩⟩
      rintro a ⟨⟩
      exact ⟨by decide, List.all_eq_true.1 (by decide)⟩
    · obtain rfl := List.mem_singleton.1 hp
      exact ⟨⟨by decide, List.all_eq_true.1 (by decide)⟩, by simp, by simp, by simp, by simp⟩
  have hwrite : write articles = " L :\tb_cate :  c\n c.id = :cateId , j " := by decide
  have hne : articles ≠ [] := by decide
  have h := parse_write ⟨none, []⟩ hne hw (by decide)
  rw [hwrite] at h
  exact h

/-- **No tables at all are not read back.** The empty spec has one segment, which is left out with a
diagnostic. -/
theorem not_forall_parse_write :
    ¬ ∀ (s : Scope) (list : List (Join × Layout)), (∀ p ∈ list, p.1.Writable) →
      list.countP isMainTable ≤ 1 → parse s (write list) = pure ⟨list.map Prod.fst, []⟩ := by
  intro h
  have hempty := h ⟨none, []⟩ [] (by simp) (by simp)
  have hdiagnostics := congrArg (fun r => r.value.diagnostics.length) hempty
  exact absurd hdiagnostics (by decide)

end JoinList
end SemanticClient.Spec
