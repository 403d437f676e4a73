import SemanticClient.Proofs.Spec.Lexical

/-!
# Where variable paths lead

A path is keys with a dot between any two, and blanks around each key at will. Where it leads is said here
without reading it: from pool to pool along its keys, a producer giving way to its product wherever one
stands. A path that leads nowhere stands for its own text.

Only the first key has a say in where a path starts. So the arguments of a call shadow the ambient pool
also where they lead nowhere, and the two are never mixed.

* `Text.map_split_trim`: blanks around a text do not matter to what is read from its parts.
* `pathKeys_of_written`: a path is read as the keys that it was written from.
* `leadsTo_cons_iff`: the keys of a path are followed one by one.
* `Scope.resolve_written`: what a written path stands for, and on which of the two pools that depends.
-/

namespace SemanticClient

open Text

/-! ## Blanks around parts -/

namespace Text

/-- Blanks around a text are trimmed away, whatever the text itself begins and ends with. -/
theorem trim_append_blanks {u v : List Char} (hu : AllBlank u) (hv : AllBlank v) (cs : List Char) :
    trim (u ++ (cs ++ v)) = trim cs := by
  unfold trim
  rw [trimLeft_append hu, trimLeft, List.dropWhile_append]
  by_cases hcs : (cs.dropWhile isBlank).isEmpty = true
  · have hleft : v.dropWhile isBlank = [] := List.dropWhile_eq_nil_iff.2 hv
    rw [if_pos hcs, hleft, trimLeft, List.isEmpty_iff.1 hcs]
  · rw [if_neg hcs, trimRight_append hv, trimLeft]

variable {sep : Char}

/-- What is put in front of a text without a separator goes to its first part. -/
theorem split_append_left {u : List Char} (hu : sep ∉ u) (cs : List Char) :
    ∃ part parts, split sep cs = part :: parts ∧ split sep (u ++ cs) = (u ++ part) :: parts := by
  obtain ⟨part, parts, hparts⟩ := List.exists_cons_of_ne_nil (splitWhere_ne_nil (· == sep) cs)
  refine ⟨part, parts, hparts, ?_⟩
  induction u with
  | nil => exact hparts
  | cons c u ih =>
    obtain ⟨hc, hu⟩ := not_or.1 (mt List.mem_cons.2 hu)
    have hne : (c == sep) = false := beq_false_of_ne (Ne.symm hc)
    have hrest := ih hu
    unfold split at hrest ⊢
    rw [List.cons_append, splitWhere, hne, hrest]
    rfl

/-- What is put behind a text without a separator goes to its last part. -/
theorem split_append_right {v : List Char} (hv : sep ∉ v) (cs : List Char) :
    ∃ parts part, split sep cs = parts ++ [part] ∧ split sep (cs ++ v) = parts ++ [part ++ v] := by
  induction cs with
  | nil => exact ⟨[], [], rfl, split_of_notMem hv⟩
  | cons c cs ih =>
    obtain ⟨parts, part, hparts, happend⟩ := ih
    unfold split at hparts happend ⊢
    rw [List.cons_append, splitWhere, splitWhere, hparts, happend]
    by_cases hc : (c == sep) = true
    · refine ⟨[] :: parts, part, ?_, ?_⟩ <;> rw [if_pos hc] <;> rfl
    · rw [if_neg hc, if_neg hc]
      -- the character goes to the first part, which may be the last one too
      cases parts with
      | nil => exact ⟨[], c :: part, rfl, rfl⟩
      | cons first parts => exact ⟨(c :: first) :: parts, part, rfl, rfl⟩

/-- **Blanks around a text do not matter to what is read from its parts**, if those around a part do not. -/
theorem map_split_trim {α : Type} {read : List Char → α}
    (hread : ∀ {u v : List Char}, AllBlank u → AllBlank v → ∀ cs, read (u ++ (cs ++ v)) = read cs)
    (hsep : isBlank sep = false) (cs : List Char) :
    (split sep (trim cs)).map read = (split sep cs).map read := by
  obtain ⟨u, v, hu, hv, hcs⟩ := exists_eq_append_trim cs
  obtain ⟨first, rest, hleft, hleft'⟩ := split_append_left (hu.notMem hsep) (trim cs)
  obtain ⟨parts, last, hright, hright'⟩ := split_append_right (hv.notMem hsep) (u ++ trim cs)
  have hfirst : read (u ++ first) = read first := by
    have h := hread hu allBlank_nil first
    rwa [List.append_nil] at h
  have hlast : read (last ++ v) = read last := hread allBlank_nil hv last
  rw [hcs, hright', List.map_append, List.map_singleton, hlast, ← List.map_singleton (f := read),
    ← List.map_append, ← hright, hleft', List.map_cons, hfirst, ← hcs, hleft, List.map_cons]

/-- Blanks around a text do not matter to its trimmed parts. -/
theorem map_trim_split (hsep : isBlank sep = false) (cs : List Char) :
    (split sep (trim cs)).map trim = (split sep cs).map trim :=
  map_split_trim trim_append_blanks hsep cs

end Text

/-! ## Keys and paths -/

/-- A key that can be written within a path: it has no dot and no blank at its ends. -/
structure IsKey (k : String) : Prop where
  noDot : '.' ∉ k.toList
  noBlankFirst : Stops isBlank k.toList
  noBlankLast : Stops isBlank k.toList.reverse

/-- How keys may be written as a path: a dot between any two, and blanks around each. -/
inductive PathWrittenAs : List String → List Char → Prop
  | last {k : String} {u v : List Char} (hu : AllBlank u) (hv : AllBlank v) :
      PathWrittenAs [k] (u ++ (k.toList ++ v))
  | dot {k : String} {ks : List String} {u v path : List Char} (hu : AllBlank u) (hv : AllBlank v)
      (h : PathWrittenAs ks path) : PathWrittenAs (k :: ks) (u ++ (k.toList ++ v) ++ '.' :: path)

theorem IsKey.trim_eq {k : String} (h : IsKey k) : trim k.toList = k.toList := by
  by_cases hk : k.toList = []
  · rw [hk]
    rfl
  · have htrim := trim_blanks allBlank_nil allBlank_nil h.noBlankFirst h.noBlankLast hk
    rwa [List.append_nil, List.nil_append] at htrim

/-- A key is what is left of it when the blanks around it are trimmed away. -/
theorem IsKey.trim_append_blanks {k : String} (h : IsKey k) {u v : List Char} (hu : AllBlank u)
    (hv : AllBlank v) : String.ofList (trim (u ++ (k.toList ++ v))) = k := by
  rw [Text.trim_append_blanks hu hv, h.trim_eq, String.ofList_toList]

/-- No dot stands in a key with blanks around it. -/
theorem IsKey.notMem_dot {k : String} (h : IsKey k) {u v : List Char} (hu : AllBlank u)
    (hv : AllBlank v) : '.' ∉ u ++ (k.toList ++ v) := by
  simp only [List.mem_append, not_or]
  exact ⟨hu.notMem isBlank_dot, h.noDot, hv.notMem isBlank_dot⟩

/-- **A path is read as the keys that it was written from.** -/
theorem pathKeys_of_written {ks : List String} {path : List Char} (h : PathWrittenAs ks path)
    (hkeys : ∀ k ∈ ks, IsKey k) : pathKeys path = ks := by
  induction h with
  | @last k u v hu hv =>
    have hk := hkeys k List.mem_cons_self
    rw [pathKeys, split_of_notMem (hk.notMem_dot hu hv), List.map_singleton,
      hk.trim_append_blanks hu hv]
  | @dot k ks u v path hu hv _ ih =>
    obtain ⟨hk, hks⟩ := List.forall_mem_cons.1 hkeys
    have hrest := ih hks
    unfold pathKeys at hrest ⊢
    rw [split_append_sep (hk.notMem_dot hu hv), List.map_cons, hrest, hk.trim_append_blanks hu hv]

/-- Blanks around a path do not change its keys. -/
theorem pathKeys_trim (path : List Char) : pathKeys (trim path) = pathKeys path := by
  have h := congrArg (List.map String.ofList) (map_trim_split isBlank_dot path)
  rw [List.map_map, List.map_map] at h
  exact h

/-! ## Following keys -/

/-- Where keys lead from a pool. Under the last key there may be any variable, under every other one a
pool; a producer stands for what it gives, here and there. -/
inductive LeadsTo : Pool → List String → Variable → Prop
  | last {p : Pool} {k : String} {v : Variable} (h : p.get? k = some v) : LeadsTo p [k] v.product
  | deeper {p entries : Pool} {k : String} {ks : List String} {v w : Variable}
      (h : p.get? k = some v) (hv : v.product = .pool entries) (hw : LeadsTo entries ks w) :
      LeadsTo p (k :: ks) w

/-- One level down there is something only in a pool, or in one that a producer gives. -/
theorem Variable.child?_eq_some_iff {v w : Variable} {k : String} :
    v.child? k = some w ↔ ∃ entries, v.product = .pool entries ∧ Keyed.get? entries k = some w := by
  cases v with
  | scalar _ => simp [child?, product]
  | list _ => simp [child?, product]
  | pool _ => simp [child?, product]
  | producer _ x => cases x <;> simp [child?, product]

/-- **The keys of a path are followed one by one.** -/
theorem leadsTo_cons_iff {p : Pool} {k : String} {ks : List String} {w : Variable} :
    LeadsTo p (k :: ks) w ↔
      ∃ v, p.get? k = some v ∧ (v.descend? ks).map Variable.product = some w := by
  induction ks generalizing p k with
  | nil =>
    constructor
    · intro h
      cases h with
      | last h => exact ⟨_, h, rfl⟩
      | deeper _ _ hw => cases hw
    · rintro ⟨v, h, hw⟩
      obtain rfl := Option.some.inj hw
      exact .last h
  | cons l ks ih =>
    constructor
    · intro h
      cases h with
      | @deeper _ entries _ _ v _ h hv hw =>
        obtain ⟨x, hx, hdescend⟩ := ih.1 hw
        refine ⟨v, h, ?_⟩
        rw [Variable.descend?, Variable.child?_eq_some_iff.2 ⟨entries, hv, hx⟩]
        exact hdescend
    · rintro ⟨v, h, hw⟩
      obtain ⟨y, hdescend, rfl⟩ := Option.map_eq_some_iff.1 hw
      obtain ⟨x, hchild, hx⟩ := Option.bind_eq_some_iff.1 hdescend
      obtain ⟨entries, hv, hget⟩ := Variable.child?_eq_some_iff.1 hchild
      exact .deeper h hv (ih.2 ⟨x, hget, by rw [hx]; rfl⟩)

/-! ## Where a path starts -/

namespace Scope

/-- Where a path starts: in the arguments of the call if they have its first key, in the ambient pool
otherwise. -/
inductive StartsIn (s : Scope) (k : String) : Pool → Prop
  | args {p : Pool} (h : s.args = some p) (hk : k ∈ p.keys) : StartsIn s k p
  | ambient (h : ∀ p ∈ s.args, k ∉ p.keys) : StartsIn s k s.ambient

theorem startsIn_iff {s : Scope} {k : String} {p : Pool} : s.StartsIn k p ↔ p = s.root k := by
  unfold root
  constructor
  · intro h
    cases h with
    | args h hk =>
      have hcontains := Keyed.contains_iff.2 hk
      simp only [h, hcontains, if_true]
    | ambient h =>
      split
      · rename_i pool hargs
        have hcontains := mt Keyed.contains_iff.1 (h pool hargs)
        rw [if_neg hcontains]
      · rfl
  · rintro rfl
    split
    · rename_i pool hargs
      split
      · rename_i hcontains
        exact .args hargs (Keyed.contains_iff.1 hcontains)
      · rename_i hcontains
        refine .ambient fun p hp => ?_
        obtain rfl := Option.some.inj (hargs.symm.trans hp)
        exact mt Keyed.contains_iff.2 hcontains
    · rename_i hargs
      exact .ambient fun p hp => nomatch hargs.symm.trans hp

/-- What is found along keys is where they lead from the pool that they start in. -/
theorem find?_cons_eq_some_iff {s : Scope} {k : String} {ks : List String} {w : Variable} :
    s.find? (k :: ks) = some w ↔ LeadsTo (s.root k) (k :: ks) w := by
  rw [leadsTo_cons_iff, find?]
  constructor
  · intro h
    obtain ⟨v, hget, h⟩ := Option.bind_eq_some_iff.1 h
    obtain ⟨x, hdescend, hw⟩ := Option.bind_eq_some_iff.1 h
    exact ⟨v, hget, by rw [hdescend]; exact hw⟩
  · rintro ⟨v, hget, hw⟩
    obtain ⟨x, hdescend, hw⟩ := Option.map_eq_some_iff.1 hw
    exact Option.bind_eq_some_iff.2 ⟨v, hget, Option.bind_eq_some_iff.2 ⟨x, hdescend, congrArg some hw⟩⟩

/-- Where nothing is found, the keys lead nowhere. -/
theorem find?_cons_eq_none_iff {s : Scope} {k : String} {ks : List String} :
    s.find? (k :: ks) = none ↔ ∀ w, ¬ LeadsTo (s.root k) (k :: ks) w := by
  simp only [Option.eq_none_iff_forall_ne_some, ne_eq, find?_cons_eq_some_iff]

/-- **What a path stands for depends on the pool that it starts in** and on nothing else of a scope. -/
theorem resolve_eq_of_startsIn {s s' : Scope} {path : List Char} {k : String} {ks : List String} {p : Pool}
    (hkeys : pathKeys (trim path) = k :: ks) (h : s.StartsIn k p) (h' : s'.StartsIn k p) :
    s.resolve path = s'.resolve path := by
  have hroot : s.root k = s'.root k := (startsIn_iff.1 h).symm.trans (startsIn_iff.1 h')
  have hfind : s.find? (k :: ks) = s'.find? (k :: ks) := by
    rw [find?, find?, hroot]
  unfold resolve
  simp only [hkeys, hfind]

/-- A path with known keys stands for what they lead to, or for its own text. -/
theorem value_resolve_eq_iff {s : Scope} {path : List Char} {k : String} {ks : List String}
    (hkeys : pathKeys (trim path) = k :: ks) (v : Variable) :
    (s.resolve path).value = v ↔ LeadsTo (s.root k) (k :: ks) v ∨
      (∀ w, ¬ LeadsTo (s.root k) (k :: ks) w) ∧ v = .scalar (String.ofList (trim path)) := by
  rw [value_resolve, hkeys, ← find?_cons_eq_some_iff, ← find?_cons_eq_none_iff]
  cases s.find? (k :: ks) with
  | none => simp [eq_comm]
  | some w => simp

/-- **What a written path stands for.** Its keys are followed from the pool that they start in, through
producers as well; where they lead nowhere, the path stands for its own text. The ambient pool has no say
if the arguments have the first key, and the arguments have none if they do not have it. -/
theorem resolve_written {k : String} {ks : List String} {path : List Char}
    (hkeys : ∀ l ∈ k :: ks, IsKey l) (hpath : PathWrittenAs (k :: ks) path) :
    (∀ (s : Scope) (v : Variable), (s.resolve path).value = v ↔
      ∃ p, s.StartsIn k p ∧ (LeadsTo p (k :: ks) v ∨
        (∀ w, ¬ LeadsTo p (k :: ks) w) ∧ v = .scalar (String.ofList (trim path)))) ∧
    (∀ args ambient ambient' : Pool, k ∈ args.keys →
      resolve ⟨some args, ambient⟩ path = resolve ⟨some args, ambient'⟩ path) ∧
    ∀ (args args' : Option Pool) (ambient : Pool),
      (∀ p ∈ args, k ∉ p.keys) → (∀ p ∈ args', k ∉ p.keys) →
      resolve ⟨args, ambient⟩ path = resolve ⟨args', ambient⟩ path := by
  have hread : pathKeys (trim path) = k :: ks := by
    rw [pathKeys_trim, pathKeys_of_written hpath hkeys]
  refine ⟨fun s v => ?_, ?_, ?_⟩
  · simp only [value_resolve_eq_iff hread, startsIn_iff, exists_eq_left]
  · intro args ambient ambient' hk
    exact resolve_eq_of_startsIn hread (.args rfl hk) (.args rfl hk)
  · intro args args' ambient hargs hargs'
    exact resolve_eq_of_startsIn hread (.ambient hargs) (.ambient hargs')

/-- A form that a producer gives, with a field that a producer fills in. -/
def formPool : Pool :=
  [("form", .producer 0 (.pool [("org", .producer 1 (.scalar "o-1")), ("user", .pool [])]))]

/-- The arguments lead to what their producers give, and shadow the ambient pool where they lead nowhere. -/
theorem resolve_written_form :
    (resolve ⟨some formPool, []⟩ " form\t. org ".toList).value = .scalar "o-1" ∧
      resolve ⟨some formPool, [("form", .pool [("id", .scalar "7")])]⟩ "form.id".toList =
        resolve ⟨some formPool, []⟩ "form.id".toList := by
  have hform : IsKey "form" := ⟨by decide, by decide, by decide⟩
  have horg : IsKey "org" := ⟨by decide, by decide, by decide⟩
  have hid : IsKey "id" := ⟨by decide, by decide, by decide⟩
  constructor
  · have hpath : PathWrittenAs ["form", "org"] " form\t. org ".toList :=
      .dot (u := [' ']) (v := ['\t']) (by decide) (by decide)
        (.last (u := [' ']) (v := [' ']) (by decide) (by decide))
    refine ((resolve_written (by simp [hform, horg]) hpath).1 _ _).2 ⟨formPool, ?_, .inl ?_⟩
    · exact .args rfl (by decide)
    · exact .deeper rfl rfl (.last (v := .producer 1 (.scalar "o-1")) rfl)
  · have hpath : PathWrittenAs ["form", "id"] "form.id".toList :=
      .dot (u := []) (v := []) (by decide) (by decide) (.last (u := []) (v := []) (by decide) (by decide))
    exact (resolve_written (by simp [hform, hid]) hpath).2.1 formPool _ _ (by decide)

end Scope
end SemanticClient
