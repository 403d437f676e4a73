import SemanticClient.Proofs.Binding.Request
import SemanticClient.Proofs.Request.Wire
import SemanticClient.Proofs.Spec.Orders
import SemanticClient.Proofs.Spec.Segments

/-!
# The query of a join spec and an order spec

Compiling two specs fails for the order spec alone, and making a query of what they compile to fails for
the join spec alone. Both failures are a matter of the texts: no variable has a say in them. Otherwise the
body of the query holds everything that the specs say and nothing else.

The main table may stand anywhere in a join spec, so the columns of an order spec cannot be completed
before the whole join spec is read: a column without a table belongs to the main table wherever that is.

* `JoinList.main?_of_firstMain`, `JoinList.main?_of_forall_not`: the main table is the first segment of its
  form.
* `Order.unparsable_iff_forall_spoils`: which segments spoil an order spec does not depend on the table that
  columns belong to.
* `compile_toQuery_iff`: when each step fails, and what the body says when none does.
-/

namespace SemanticClient.Spec

open Text

/-! ## The main table -/

namespace JoinList

/-- The main table of a list of segments: the first one of its form. -/
inductive FirstMain : List (List Char) → String → Option String → Prop
  | here {segment : List Char} {segments : List (List Char)} {table : String} {a : Option String}
      (h : Segment.MainForm segment table a) : FirstMain (segment :: segments) table a
  | behind {next : List Char} {segments : List (List Char)} {table : String} {a : Option String}
      (hnext : ¬ Segment.HasMainForm next) (h : FirstMain segments table a) :
      FirstMain (next :: segments) table a

variable {segments : List (List Char)} {table : String} {a : Option String}

/-- There is a first one if there is any. -/
theorem exists_firstMain (h : ∃ segment ∈ segments, Segment.HasMainForm segment) :
    ∃ table a, FirstMain segments table a := by
  induction segments with
  | nil =>
    obtain ⟨segment, hmem, -⟩ := h
    exact absurd hmem List.not_mem_nil
  | cons next segments ih =>
    by_cases hnext : Segment.HasMainForm next
    · obtain ⟨table, a, hform⟩ := hnext
      exact ⟨table, a, .here hform⟩
    · obtain ⟨segment, hmem, hmain⟩ := h
      rcases List.mem_cons.1 hmem with rfl | hmem
      · exact absurd hmain hnext
      · obtain ⟨table, a, hfirst⟩ := ih ⟨segment, hmem, hmain⟩
        exact ⟨table, a, .behind hnext hfirst⟩

/-- What the columns without a table belong to is a name. -/
theorem FirstMain.isName (h : FirstMain segments table a) : IsName (a.getD table) := by
  induction h with
  | here hform =>
    rename_i a
    cases a with
    | none => exact hform.name
    | some b => exact hform.aliasName b rfl
  | behind _ _ ih => exact ih

/-- A segment that is no main table leaves it to the segments behind it to be one. -/
theorem main?_readSegments_cons (s : Scope) {next : List Char} (hnext : ¬ Segment.HasMainForm next) :
    main? (ofResults (readSegments s false (next :: segments)).value).joins =
      main? (ofResults (readSegments s false segments).value).joins := by
  have halone : Segment.isAlone next = false := by
    rw [← Bool.not_eq_true, Segment.isAlone_iff]
    exact hnext
  obtain ⟨-, hgives⟩ := readSegment_of_not_isAlone s false halone
  rw [value_readSegments_cons, halone, Bool.or_false, joins_ofResults, joins_ofResults]
  rcases hgives with he | ⟨j, hj, hkind⟩
  · rw [he]
    rfl
  · rw [hj, List.filterMap_cons_some (by rfl), main?, List.find?_cons_of_neg]
    · rfl
    · rw [beq_iff_eq]
      exact hkind

/-- **The first segment of its form is the main table.** -/
theorem main?_of_firstMain (s : Scope) (h : FirstMain segments table a) :
    main? (ofResults (readSegments s false segments).value).joins = some ⟨.main, table, a, none⟩ := by
  induction h with
  | here hform =>
    rw [value_readSegments_cons, value_readSegment_of_mainForm hform]
    rfl
  | behind hnext _ ih => rw [main?_readSegments_cons s hnext, ih]

/-- With no segment of its form there is no main table. -/
theorem main?_of_forall_not (s : Scope) (h : ∀ segment ∈ segments, ¬ Segment.HasMainForm segment) :
    main? (ofResults (readSegments s false segments).value).joins = none := by
  induction segments with
  | nil => rfl
  | cons next segments ih =>
    obtain ⟨hnext, hrest⟩ := List.forall_mem_cons.1 h
    rw [main?_readSegments_cons s hnext, ih hrest]

end JoinList

/-! ## Orders -/

namespace Order

/-- **Which segments spoil a spec** does not depend on the table that columns without one belong to. -/
theorem unparsable_iff_forall_spoils {segment : List Char} :
    Unparsable segment ↔ ∀ table, Spoils table segment := by
  constructor
  · rintro ⟨hblank, hnone⟩ table
    refine ⟨fun h => ?_, fun o ho => ?_⟩
    · rw [isEmpty_trim_iff.2 h] at hblank
      cases hblank
    · have hread := ofSegment?_eq_some_iff.2 ho
      rw [hnone table] at hread
      cases hread
  · intro h
    refine ⟨?_, fun table => ?_⟩
    · rw [← Bool.not_eq_true, isEmpty_trim_iff]
      exact (h "").notBlank
    · exact Option.eq_none_iff_forall_ne_some.2 fun o =>
        mt ofSegment?_eq_some_iff.1 ((h table).noColumn o)

/-- How the columns of an order spec may be written; without a spec there are none. -/
inductive SpecWrittenAs (defaultTable : String) : List Order → Option String → Prop
  | leftOut : SpecWrittenAs defaultTable [] none
  | written {orders : List Order} {spec : String}
      (h : ListWrittenAs defaultTable orders (split ',' spec.toList)) :
      SpecWrittenAs defaultTable orders (some spec)

variable {orders : List Order} {orderSpec : Option String}

theorem specWrittenAs_of_ordersOf {joins : List Join} (h : ordersOf orderSpec joins = .ok orders) :
    SpecWrittenAs (Spec.defaultTable joins) orders orderSpec := by
  cases orderSpec with
  | none =>
    obtain rfl := Except.ok.inj h
    exact .leftOut
  | some spec => exact .written (ofSegments_eq_ok_iff.1 h)

/-- Where the default table is a name, every column has a name for its table. -/
theorem SpecWrittenAs.isName {defaultTable : String} (hdefault : IsName defaultTable)
    (h : SpecWrittenAs defaultTable orders orderSpec) : ∀ o ∈ orders, IsName o.table := by
  intro o ho
  cases h with
  | leftOut => exact absurd ho List.not_mem_nil
  | written h =>
    rcases (h.writable o ho).table with htable | htable
    · exact htable
    · rw [htable]
      exact hdefault

/-- A column with a table is written with it. -/
theorem column_of_isName {o : Order} (h : IsName o.table) : o.column = o.table ++ "." ++ o.field := by
  have hempty : o.table.isEmpty = false := by
    rw [← Bool.not_eq_true, String.isEmpty_iff]
    exact h.ne_empty
  rw [column, hempty]
  rfl

end Order

/-! ## The whole query -/

/-- A body says what two specs say, and asks for no page. -/
structure SaysSpecs (body : Json) (connection : Option String) (table : String)
    (tableAlias : Option String) (joins : List Join) (orders : List Order) : Prop where
  action : body.get? "a" = some (.string "R")
  connection : body.get? "conn" = connection.map .string
  table : body.get? "f" = some (.string table)
  tableAlias : body.get? "mAlias" = tableAlias.map .string
  exprs : body.get? "exprs" = some (.array [])
  joins : body.get? "j" = some (.array ((joins.filter (·.kind != .main)).map Join.toJson))
  conditions : body.get? "conds" = some (.array [])
  orders : body.get? "orders" =
    some (.array (orders.map fun o => .strings [o.table ++ "." ++ o.field, o.direction.name]))
  groups : body.get? "group" = some (.array [])
  page : body.get? "page" = some (.int (-1))
  size : body.get? "pgSize" = some (.int (-1))

/-- What the query of a compiled spec says under each name. -/
theorem Compiled.saysSpecs_queryOf (c : Compiled) (connection : Option String) (main : Join)
    (horders : ∀ o ∈ c.orders, IsName o.table) :
    SaysSpecs (c.queryOf connection main).toJson connection main.table main.tableAlias c.joins
      c.orders := by
  have hentries := (c.queryOf connection main).map_get?_toJson
  have hcolumns : (c.orders.map fun o => (o.column, o.direction)).map Select.orderToJson =
      c.orders.map fun o => .strings [o.table ++ "." ++ o.field, o.direction.name] := by
    rw [List.map_map]
    refine List.map_congr_left fun o ho => ?_
    simp only [Function.comp_apply, Select.orderToJson, Order.column_of_isName (horders o ho)]
  simp only [queryOf, Select.ofTable, Select.names, Select.entries, List.map_cons, List.map_nil,
    List.cons.injEq, hcolumns, and_true] at hentries
  obtain ⟨haction, hconnection, htable, halias, hexprs, hjoins, hconditions, horders, hgroups, hpage,
    hsize⟩ := hentries
  exact ⟨haction, hconnection, htable, halias, hexprs, hjoins, hconditions, horders, hgroups, hpage, hsize⟩

section Compiled

variable {s : Scope} {joinSpec : String} {orderSpec : Option String} {c : Compiled}

/-- What compiles has the tables of its join spec and the columns of its order spec. -/
theorem eq_of_compile (h : (compile s joinSpec orderSpec).value = .ok c) :
    c.joins = (JoinList.parse s joinSpec).value.joins ∧
      ordersOf orderSpec (JoinList.parse s joinSpec).value.joins = .ok c.orders := by
  rw [value_compile] at h
  cases horders : ordersOf orderSpec (JoinList.parse s joinSpec).value.joins with
  | error e =>
    rw [horders] at h
    cases h
  | ok orders =>
    rw [horders] at h
    obtain rfl := Except.ok.inj h
    exact ⟨rfl, rfl⟩

theorem exists_compile_eq_error_iff :
    (∃ e, (compile s joinSpec orderSpec).value = .error e) ↔
      ∃ e, ordersOf orderSpec (JoinList.parse s joinSpec).value.joins = .error e := by
  rw [value_compile]
  cases ordersOf orderSpec (JoinList.parse s joinSpec).value.joins with
  | error e => exact iff_of_true ⟨e, rfl⟩ ⟨e, rfl⟩
  | ok orders => exact iff_of_false (fun ⟨_, h⟩ => nomatch h) (fun ⟨_, h⟩ => nomatch h)

/-- Without a main table there is no query, whatever else is in the spec. -/
theorem toQuery_of_forall_not (connection : Option String)
    (hc : (compile s joinSpec orderSpec).value = .ok c)
    (h : ∀ segment ∈ split ',' joinSpec.toList, ¬ Segment.HasMainForm segment) :
    (c.toQuery connection).value = .error
      (.noMainTable (", ".intercalate ((JoinList.parse s joinSpec).value.joins.map (·.table)))) := by
  have hmain : c.main? = none := by
    rw [Compiled.main?, (eq_of_compile hc).1]
    exact JoinList.main?_of_forall_not s h
  rw [Compiled.value_toQuery, hmain, (eq_of_compile hc).1]

/-- **With one the query holds all that the specs say.** -/
theorem toQuery_of_firstMain (connection : Option String) {table : String} {a : Option String}
    (hc : (compile s joinSpec orderSpec).value = .ok c)
    (h : JoinList.FirstMain (split ',' joinSpec.toList) table a) :
    ∃ q orders, (c.toQuery connection).value = .ok q ∧
      Order.SpecWrittenAs (a.getD table) orders orderSpec ∧ (∀ o ∈ orders, IsName o.table) ∧
      SaysSpecs q.toJson connection table a (JoinList.parse s joinSpec).value.joins orders := by
  obtain ⟨hjoins, horders⟩ := eq_of_compile hc
  have hfirst : JoinList.main? (JoinList.parse s joinSpec).value.joins = some ⟨.main, table, a, none⟩ :=
    JoinList.main?_of_firstMain s h
  have hmain : c.main? = some ⟨.main, table, a, none⟩ := by
    rw [Compiled.main?, hjoins, hfirst]
  have hdefault : defaultTable (JoinList.parse s joinSpec).value.joins = a.getD table := by
    rw [defaultTable, hfirst]
  have hwritten := Order.specWrittenAs_of_ordersOf horders
  rw [hdefault] at hwritten
  have hnames := hwritten.isName h.isName
  have hsays := c.saysSpecs_queryOf connection ⟨.main, table, a, none⟩ hnames
  rw [hjoins] at hsays
  refine ⟨_, c.orders, ?_, hwritten, hnames, hsays⟩
  rw [Compiled.value_toQuery, hmain]

end Compiled

/-- **The query of two specs.** Compiling them fails exactly when there is an order spec and some segment
spoils it. Making a query of what they compile to fails exactly when no segment of the join spec has the
form of a main table, and the error names the tables that are joined. Otherwise the body names the first
such segment, every other table in the order of the spec, and every column with its table, which is the
main table's alias or name where the spec gives none. -/
theorem compile_toQuery_iff (s : Scope) (joinSpec : String) (orderSpec connection : Option String) :
    ((∃ e, (compile s joinSpec orderSpec).value = .error e) ↔
      ∃ spec ∈ orderSpec, ∃ segment ∈ split ',' spec.toList, ∀ table, Order.Spoils table segment) ∧
    ∀ c, (compile s joinSpec orderSpec).value = .ok c →
      ((∃ e, (c.toQuery connection).value = .error e) ↔
        ∀ segment ∈ split ',' joinSpec.toList, ¬ Segment.HasMainForm segment) ∧
      (∀ e, (c.toQuery connection).value = .error e →
        e = .noMainTable (", ".intercalate ((JoinList.parse s joinSpec).value.joins.map (·.table)))) ∧
      ∀ q, (c.toQuery connection).value = .ok q → ∃ table tableAlias orders,
        JoinList.FirstMain (split ',' joinSpec.toList) table tableAlias ∧
        Order.SpecWrittenAs (tableAlias.getD table) orders orderSpec ∧
        (∀ o ∈ orders, o.table ≠ "") ∧
        SaysSpecs q.toJson connection table tableAlias (JoinList.parse s joinSpec).value.joins orders := by
  refine ⟨?_, fun c hc => ?_⟩
  · rw [exists_compile_eq_error_iff, exists_ordersOf_eq_error_iff]
    simp only [Order.Refused, Order.unparsable_iff_forall_spoils]
  · by_cases hany : ∃ segment ∈ split ',' joinSpec.toList, Segment.HasMainForm segment
    · obtain ⟨table, a, hfirst⟩ := JoinList.exists_firstMain hany
      obtain ⟨q, orders, hq, hwritten, hnames, hsays⟩ := toQuery_of_firstMain connection hc hfirst
      simp only [hq]
      refine ⟨iff_of_false (fun ⟨_, h⟩ => nomatch h) fun h => ?_, fun _ h => (nomatch h), ?_⟩
      · obtain ⟨segment, hmem, hmain⟩ := hany
        exact h segment hmem hmain
      · intro q' hq'
        obtain rfl := Except.ok.inj hq'
        exact ⟨table, a, orders, hfirst, hwritten, fun o ho => (hnames o ho).ne_empty, hsays⟩
    · have hnone : ∀ segment ∈ split ',' joinSpec.toList, ¬ Segment.HasMainForm segment :=
        fun segment hmem hmain => hany ⟨segment, hmem, hmain⟩
      simp only [toQuery_of_forall_not connection hc hnone]
      refine ⟨iff_of_true ⟨_, rfl⟩ hnone, ?_, fun _ h => (nomatch h)⟩
      intro e he
      exact (Except.error.inj he).symm

/-- A join that is written before the main table, and a column that waits for its alias. -/
theorem compile_toQuery_articles :
    ∃ c q table a orders,
      (compile ⟨none, []⟩ "l:b_cate c.id = u.cate, b_articles :u" (some "pubDate desc, ,c.asc")).value =
        .ok c ∧
      (c.toQuery (some "sys")).value = .ok q ∧
      Order.SpecWrittenAs (a.getD table) orders (some "pubDate desc, ,c.asc") ∧
      SaysSpecs q.toJson (some "sys") table a
        [⟨.left, "b_cate", none, some "c.id = u.cate"⟩, ⟨.main, "b_articles", some "u", none⟩]
        orders := by
  obtain ⟨-, hquery⟩ := compile_toQuery_iff ⟨none, []⟩ "l:b_cate c.id = u.cate, b_articles :u"
    (some "pubDate desc, ,c.asc") (some "sys")
  obtain ⟨-, -, hsays⟩ := hquery _ rfl
  obtain ⟨table, a, orders, -, hwritten, -, hsays⟩ := hsays _ rfl
  exact ⟨_, _, table, a, orders, rfl, rfl, hwritten, hsays⟩

end SemanticClient.Spec
