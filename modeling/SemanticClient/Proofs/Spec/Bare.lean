import SemanticClient.Proofs.Spec.Segments

/-!
# Joined tables without a condition

A joined table needs a condition. A segment with a flag, a table and an alias at most has none, and is left
out with a diagnostic, but not always: a condition starts behind a blank and may be a blank itself, or the
colon and the alias of the table. So blanks alone decide whether a missing condition is noticed.

* `Segment.condition?_of_allBlank_eq_none_iff`: which blanks are no condition.
* `Segment.condition?_colon`: when a colon and an alias are one.
* `JoinList.bare_reported_iff`: a joined table without a condition is reported exactly if nothing of it is
  taken for one.
* `JoinList.not_forall_bare_reported`: two blanks at the end go unnoticed.
-/

namespace SemanticClient.Spec

open Text

/-! ## Segments without a condition -/

namespace Layout

variable (l : Layout)

/-- A joined table without a condition, as a segment. -/
def writeBare (f : Char) (table : String) (a : Option String) : List Char :=
  l.before.1 ++ f :: (l.beforeColon.1 ++ ':' :: (l.afterColon.1 ++ (table.toList ++
    l.withAlias l.after.1 a)))

/-- A blank at the end is taken for a condition. It is no line feed, and another blank stands before it. -/
def BlankTaken : Prop := ∃ c ∈ l.after.1.tail, c ≠ '\n'

/-- The alias is taken for a condition, with its colon. A blank stands before the colon, and no line feed
behind it. -/
def AliasTaken (a : Option String) : Prop :=
  a ≠ none ∧ l.beforeAlias.1 ≠ [] ∧ '\n' ∉ l.afterAlias.1

/-- A blank at the end, or the colon and the alias. -/
def IsTaken (a : Option String) (condition : List Char) : Prop :=
  (∃ c ∈ l.after.1, condition = [c]) ∨ ∃ b ∈ a, condition = ':' :: (l.afterAlias.1 ++ b.toList)

end Layout

/-- A text without an opening brace has no marker. -/
theorem first?_of_notMem {cs : List Char} (h : '\x7b' ∉ cs) : Marked.first? cs = none := by
  refine Marked.first?_eq_none fun u v he => absurd ?_ h
  rw [he, List.mem_append]
  exact .inr List.mem_cons_self

namespace Segment

/-! ## What is taken for a condition -/

/-- Blanks alone are a condition if the last of them that is no line feed has another one before it. -/
theorem condition?_of_allBlank {u : List Char} (hu : AllBlank u) :
    condition? u = (u.tail.reverse.find? (· != '\n')).map fun c => [c] := by
  have htake : u.takeWhile isBlank = u := by
    have h := takeWhile_append_stops hu (stops_nil : Stops isBlank [])
    rwa [List.append_nil] at h
  unfold condition?
  simp only [htake, trim_allBlank hu, List.isEmpty_nil, if_true, List.drop_one]
  cases u with
  | nil => rfl
  | cons c u => rfl

theorem condition?_of_allBlank_eq_none_iff {u : List Char} (hu : AllBlank u) :
    condition? u = none ↔ ∀ c ∈ u.tail, c = '\n' := by
  rw [condition?_of_allBlank hu]
  simp

/-- A colon and a name behind a blank are a condition if there is no line feed between them. -/
theorem condition?_colon {u v w : List Char} {b : String} (hu : AllBlank u) (hw : AllBlank w)
    (hb : IsName b) :
    condition? (u ++ ':' :: (v ++ (b.toList ++ w))) =
      if u ≠ [] ∧ '\n' ∉ v then some (':' :: (v ++ b.toList)) else none := by
  have htake : (u ++ ':' :: (v ++ (b.toList ++ w))).takeWhile isBlank = u :=
    takeWhile_append_stops hu (stops_cons isBlank_colon _)
  have htrim : trim (u ++ ':' :: (v ++ (b.toList ++ w))) = ':' :: (v ++ b.toList) := by
    have hlast : Stops isBlank (':' :: (v ++ b.toList)).reverse := by
      rw [List.reverse_cons, List.reverse_append, List.append_assoc]
      exact stops_isBlank_reverse_of_isWord hb.isWord _ hb.toList_ne_nil
    have h := trim_blanks hu hw (stops_cons isBlank_colon _) hlast (List.cons_ne_nil _ _)
    simpa only [List.append_assoc, List.cons_append] using h
  have hline : '\n' ∉ b.toList := notMem_of_isWord hb.isWord (by decide)
  unfold condition?
  simp only [htake, htrim]
  by_cases hne : u = []
  · simp [hne]
  · by_cases hv : '\n' ∈ v <;> simp [hne, hv, hline]

/-! ## What a segment without a condition is read as -/

variable {l : Layout} {f : Char} {table : String} {a : Option String}

theorem aliased?_of_allBlank {u : List Char} (hu : AllBlank u) : aliased? u = none := by
  rw [aliased?, colon?_of_allBlank hu]
  rfl

/-- An alias is read as one if a condition follows it. -/
theorem aliased?_bare {b : String} (hb : IsName b) :
    aliased? (l.withAlias l.after.1 (some b)) = (condition? l.after.1).map fun c => (b.toList, c) := by
  have hcolon := colon?_append l.beforeAlias.2 l.afterAlias.2 (hb.stops_isBlank l.after.1)
  have hname := name?_append hb.isWord hb.toList_ne_nil l.stops_after
  unfold aliased? Layout.withAlias
  simp only [hcolon, hname, Option.bind_eq_bind, Option.bind_some]
  cases condition? l.after.1 <;> rfl

/-- What is taken for a condition: a blank at the end, or else the colon and the alias. -/
theorem joined?_bare (kind : JoinKind) (ht : IsName table) (ha : ∀ b ∈ a, IsName b) :
    joined? kind (table.toList ++ l.withAlias l.after.1 a) =
      match condition? l.after.1, a with
      | some c, _ => some (.joined kind table.toList (a.map String.toList) c)
      | none, none => none
      | none, some b =>
        if l.beforeAlias.1 ≠ [] ∧ '\n' ∉ l.afterAlias.1 then
          some (.joined kind table.toList none (':' :: (l.afterAlias.1 ++ b.toList)))
        else none := by
  have hname := name?_append ht.isWord ht.toList_ne_nil (l.stops_withAlias l.stops_after a)
  unfold joined?
  rw [hname]
  cases a with
  | none =>
    -- the blanks at the end are all there is to find a condition in
    simp only [Option.bind_eq_bind, Option.bind_some, Layout.withAlias, aliased?_of_allBlank l.after.2]
    cases condition? l.after.1 <;> rfl
  | some b =>
    have hb := ha b rfl
    simp only [Option.bind_eq_bind, Option.bind_some, aliased?_bare hb]
    cases hc : condition? l.after.1 with
    | some c => rfl
    | none =>
      -- nothing follows the alias, so it is given up, and its colon may start a condition
      simp only [Option.map_none, Layout.withAlias, condition?_colon l.beforeAlias.2 l.after.2 hb]
      split <;> rfl

theorem ofText_bare (hf : f ∈ ['j', 'J', 'l', 'L', 'r', 'R']) (ht : IsName table) :
    ∃ kind, ofText (l.writeBare f table a) =
      (joined? kind (table.toList ++ l.withAlias l.after.1 a)).getD .unreadable := by
  obtain ⟨kind, hkind⟩ := Option.isSome_iff_exists.1 (JoinKind.isSome_ofFlag?_iff.2 hf)
  refine ⟨kind, ?_⟩
  rw [ofText, Layout.writeBare, flag?_append l.before.2 l.beforeColon.2 l.afterColon.2 hkind
    (ht.stops_isBlank _)]

/-- **A joined table without a condition is unreadable** unless something of it is taken for one. -/
theorem ofText_bare_of_not_taken (hf : f ∈ ['j', 'J', 'l', 'L', 'r', 'R']) (ht : IsName table)
    (ha : ∀ b ∈ a, IsName b) (hblank : ¬ l.BlankTaken) (halias : ¬ l.AliasTaken a) :
    ofText (l.writeBare f table a) = .unreadable := by
  obtain ⟨kind, hread⟩ := ofText_bare (l := l) (a := a) hf ht
  have hc : condition? l.after.1 = none := by
    rw [condition?_of_allBlank_eq_none_iff l.after.2]
    intro c hmem
    by_contra hne
    exact hblank ⟨c, hmem, hne⟩
  rw [hread, joined?_bare kind ht ha, hc]
  cases a with
  | none => rfl
  | some b =>
    have hb : ¬ (l.beforeAlias.1 ≠ [] ∧ '\n' ∉ l.afterAlias.1) := fun h => halias ⟨by simp, h⟩
    simp only [if_neg hb, Option.getD_none]

/-- **Otherwise its condition is a blank, or the colon and the alias.** -/
theorem exists_ofText_bare_of_taken (hf : f ∈ ['j', 'J', 'l', 'L', 'r', 'R']) (ht : IsName table)
    (ha : ∀ b ∈ a, IsName b) (h : l.BlankTaken ∨ l.AliasTaken a) :
    ∃ kind a' condition, ofText (l.writeBare f table a) = .joined kind table.toList a' condition ∧
      l.IsTaken a condition := by
  obtain ⟨kind, hread⟩ := ofText_bare (l := l) (a := a) hf ht
  rw [hread, joined?_bare kind ht ha]
  cases hc : condition? l.after.1 with
  | some condition =>
    refine ⟨kind, a.map String.toList, condition, rfl, .inl ?_⟩
    rw [condition?_of_allBlank l.after.2] at hc
    obtain ⟨c, hfind, rfl⟩ := Option.map_eq_some_iff.1 hc
    have hmem := List.mem_reverse.1 (List.mem_of_find?_eq_some hfind)
    exact ⟨c, List.mem_of_mem_tail hmem, rfl⟩
  | none =>
    rw [condition?_of_allBlank_eq_none_iff l.after.2] at hc
    rcases h with ⟨c, hmem, hne⟩ | ⟨hsome, hb⟩
    · exact absurd (hc c hmem) hne
    · obtain ⟨b, rfl⟩ := Option.ne_none_iff_exists'.1 hsome
      refine ⟨kind, none, _, ?_, .inr ⟨b, rfl, rfl⟩⟩
      simp only [if_pos hb, Option.getD_some]

end Segment

/-! ## What it gives -/

namespace JoinList

variable {l : Layout} {f : Char} {table : String} {a : Option String}

/-- No marker is replaced in what is taken for a condition. -/
theorem first?_of_isTaken {condition : List Char} (ha : ∀ b ∈ a, IsName b)
    (h : l.IsTaken a condition) : Marked.first? condition = none := by
  have hblank : isBlank '\x7b' = false := by decide
  refine first?_of_notMem ?_
  rcases h with ⟨c, hc, rfl⟩ | ⟨b, hb, rfl⟩
  · rw [List.mem_singleton]
    rintro rfl
    exact l.after.2.notMem hblank hc
  · simp only [List.mem_cons, List.mem_append, not_or]
    exact ⟨by decide, l.afterAlias.2.notMem hblank, notMem_of_isWord (ha b hb).isWord (by decide)⟩

theorem reported_of_not_taken (s : Scope) {spec : String} {i : ℕ}
    (hf : f ∈ ['j', 'J', 'l', 'L', 'r', 'R']) (ht : IsName table) (ha : ∀ b ∈ a, IsName b)
    (hi : (split ',' spec.toList)[i]? = some (l.writeBare f table a))
    (hblank : ¬ l.BlankTaken) (halias : ¬ l.AliasTaken a) :
    (results s spec)[i]? =
      some (.error (.invalidJoin (String.ofList (trim (l.writeBare f table a))))) := by
  rw [getElem?_results s hi, readSegment, Segment.ofText_bare_of_not_taken hf ht ha hblank halias]
  rfl

theorem exists_join_of_taken (s : Scope) {spec : String} {i : ℕ}
    (hf : f ∈ ['j', 'J', 'l', 'L', 'r', 'R']) (ht : IsName table) (ha : ∀ b ∈ a, IsName b)
    (hi : (split ',' spec.toList)[i]? = some (l.writeBare f table a))
    (h : l.BlankTaken ∨ l.AliasTaken a) :
    ∃ j condition, (results s spec)[i]? = some (.ok j) ∧ j.table = table ∧
      j.condition = some (String.ofList condition) ∧ l.IsTaken a condition := by
  obtain ⟨kind, a', condition, hread, hcondition⟩ := Segment.exists_ofText_bare_of_taken hf ht ha h
  refine ⟨⟨kind, table, a'.map String.ofList, some (String.ofList condition)⟩, condition, ?_, rfl,
    rfl, hcondition⟩
  rw [getElem?_results s hi, readSegment, hread]
  simp only [Traced.value_bind, value_splice_of_none (first?_of_isTaken ha hcondition),
    Traced.value_pure, String.ofList_toList]

/-- **A joined table without a condition is reported** exactly if nothing of it is taken for one. If
something is, the segment gives a join on it. -/
theorem bare_reported_iff (s : Scope) {spec : String} {i : ℕ}
    (hf : f ∈ ['j', 'J', 'l', 'L', 'r', 'R']) (ht : IsName table) (ha : ∀ b ∈ a, IsName b)
    (hi : (split ',' spec.toList)[i]? = some (l.writeBare f table a)) :
    ((results s spec)[i]? =
        some (.error (.invalidJoin (String.ofList (trim (l.writeBare f table a))))) ↔
      ¬ l.BlankTaken ∧ ¬ l.AliasTaken a) ∧
    (l.BlankTaken ∨ l.AliasTaken a → ∃ j condition, (results s spec)[i]? = some (.ok j) ∧
      j.table = table ∧ j.condition = some (String.ofList condition) ∧ l.IsTaken a condition) := by
  refine ⟨⟨fun hreported => ?_, fun h => reported_of_not_taken s hf ht ha hi h.1 h.2⟩,
    exists_join_of_taken s hf ht ha hi⟩
  rw [← not_or]
  intro htaken
  obtain ⟨j, condition, hj, -⟩ := exists_join_of_taken s hf ht ha hi htaken
  rw [hreported] at hj
  cases hj

/-- Line feeds where a blank or the alias would be taken for the condition otherwise. -/
def lineLayout : Layout :=
  Segment.mainLayout ⟨[' '], allBlank_space⟩ ⟨[' '], allBlank_space⟩ ⟨['\n'], by decide⟩
    ⟨[' ', '\n'], by decide⟩

theorem bare_reported_cate :
    (results ⟨none, []⟩ "b_articles, R:b_cate :\nc \n")[1]? =
      some (.error (.invalidJoin "R:b_cate :\nc")) := by
  have ht : IsName "b_cate" := ⟨by decide, List.all_eq_true.1 (by decide)⟩
  have ha : ∀ b ∈ some "c", IsName b := by
    rintro b ⟨⟩
    exact ⟨by decide, List.all_eq_true.1 (by decide)⟩
  have hi : (split ',' "b_articles, R:b_cate :\nc \n".toList)[1]? =
      some (lineLayout.writeBare 'R' "b_cate" (some "c")) := by decide
  have hblank : ¬ lineLayout.BlankTaken := by
    rintro ⟨c, hc, hne⟩
    exact hne (List.mem_singleton.1 hc)
  have halias : ¬ lineLayout.AliasTaken (some "c") := fun h => absurd h.2.2 (by decide)
  exact (bare_reported_iff ⟨none, []⟩ (by decide) ht ha hi).1.2 ⟨hblank, halias⟩

/-- **Two blanks at the end go unnoticed.** The second one is the condition. -/
theorem not_forall_bare_reported :
    ¬ ∀ (s : Scope) (spec : String) (i : ℕ) (l : Layout) (f : Char) (table : String)
        (a : Option String), f ∈ ['j', 'J', 'l', 'L', 'r', 'R'] → IsName table →
      (∀ b ∈ a, IsName b) → (split ',' spec.toList)[i]? = some (l.writeBare f table a) →
      (results s spec)[i]? =
        some (.error (.invalidJoin (String.ofList (trim (l.writeBare f table a))))) := by
  intro h
  have ht : IsName "b_cate" := ⟨by decide, List.all_eq_true.1 (by decide)⟩
  have hreported := h ⟨none, []⟩ "j:b_cate  " 0
    (Segment.mainLayout ⟨[], by decide⟩ ⟨[], by decide⟩ ⟨[], by decide⟩ ⟨[' ', ' '], by decide⟩)
    'j' "b_cate" none (by decide) ht (by simp) (by decide)
  exact absurd hreported (by decide)

end JoinList
end SemanticClient.Spec
