import Mathlib.Data.Nat.Find
import SemanticClient.Json.Shape
import SemanticClient.Proofs.Protocol.Texts
import SemanticClient.Protocol.Response

/-!
# What rows keep of a result set

A result set starts with its columns, and every further entry that is an array becomes a row. A row has the
columns that the entry has cells for. If the columns are strings and no two are the same, a row keeps each
of its cells under the name of the column, so an entry as long as the columns is read back as it was. Any
other columns are read too: one that is no string is named by its JSON text, and of columns with one name
the last one with a cell counts.

The message of a response has its result sets in `rs` and their totals in `total`, as a number for the first
of them or as a list.

* `Keyed.get?_ofList_of_last`: what is found in a collection made from a list.
* `ResultSet.rowOf_row`: what a row has of its columns and cells.
* `ResultSet.RowOf.keeps`: a row of distinct columns keeps all its cells.
* `Response.rowsAre_iff`, `Response.totalIs_iff`: the rows and the total of a response, as its message has
  them.
* `ResultSet.rows_lossless`: all rows of a result set, and of a response.
* `ResultSet.not_forall_rows_eq_nil`: a result set may have rows although its columns are no strings.
-/

namespace SemanticClient

/-! ## Collections made from lists -/

namespace Keyed

variable {α : Type}

/-- **What is found in a collection made from a list**: the entry behind which no other has its key. -/
theorem get?_ofList_of_last {entries : List (String × α)} {i : Nat} {k : String} {a : α}
    (hentry : entries[i]? = some (k, a)) (hlast : ∀ j b, i < j → entries[j]? ≠ some (k, b)) :
    get? (ofList entries) k = some a := by
  obtain ⟨hi, hget⟩ := List.getElem?_eq_some_iff.1 hentry
  have hafter : k ∉ keys (entries.drop (i + 1)).reverse := by
    intro hmem
    obtain ⟨e, he, rfl⟩ := List.mem_map.1 hmem
    obtain ⟨j, hj⟩ := List.mem_iff_getElem?.1 (List.mem_reverse.1 he)
    rw [List.getElem?_drop] at hj
    exact hlast (i + 1 + j) e.2 (by omega) hj
  rw [get?_ofList, ← List.take_append_drop i entries, List.drop_eq_getElem_cons hi, hget,
    List.reverse_append, List.reverse_cons, List.append_assoc, get?_append,
    get?_eq_none_of_notMem hafter, Option.none_or, List.singleton_append, get?_cons, if_pos rfl]

theorem mem_keys_ofList {entries : List (String × α)} {k : String} :
    k ∈ keys (ofList entries) ↔ k ∈ keys entries := by
  have hreverse : k ∈ keys entries.reverse ↔ k ∈ keys entries := by
    rw [keys, List.map_reverse, List.mem_reverse, keys]
  rw [← contains_iff, contains, get?_ofList, ← contains, contains_iff, hreverse]

end Keyed

namespace ResultSet

/-! ## One row -/

/-- What a row has of its columns and cells: the columns up to the end of the shorter list, each with the
cell at its place. Of columns with one name the last one with a cell counts. -/
structure RowOf (names : List String) (cells : List Json) (r : Row) : Prop where
  ordered : Keyed.Ordered r
  keys : ∀ k, k ∈ Keyed.keys r ↔ k ∈ names.take (min names.length cells.length)
  cell : ∀ (i : Nat) name v, names[i]? = some name → cells[i]? = some v →
    (∀ j, i < j → names[j]? = some name → cells[j]? = none) → Keyed.get? r name = some v

/-- A row keeps every cell that has a column, under the name of the column. -/
def Keeps (names : List String) (cells : List Json) (r : Row) : Prop :=
  ∀ (i : Nat) name v, names[i]? = some name → cells[i]? = some v → Keyed.get? r name = some v

theorem keys_zip (names : List String) (cells : List Json) :
    Keyed.keys (names.zip cells) = names.take (min names.length cells.length) := by
  rw [Keyed.keys, List.zip_eq_zip_take_min]
  exact List.map_fst_zip (by simp)

theorem rowOf_row (columns cells : List Json) :
    RowOf (columns.map columnName) cells (row columns cells) where
  ordered := Keyed.ordered_ofList _
  keys k := by rw [row, Keyed.mem_keys_ofList, keys_zip]
  cell i name v hname hv hlast := by
    refine Keyed.get?_ofList_of_last (List.getElem?_zip_eq_some.2 ⟨hname, hv⟩) fun j w hj hzip => ?_
    obtain ⟨hname', hw⟩ := List.getElem?_zip_eq_some.1 hzip
    rw [hlast j hj hname'] at hw
    cases hw

/-- Of columns with one name there is a last one with a cell. -/
theorem exists_last {names : List String} {cells : List Json} {k : String}
    (h : k ∈ names.take (min names.length cells.length)) :
    ∃ (i : Nat) (v : Json), names[i]? = some k ∧ cells[i]? = some v ∧
      ∀ j, i < j → names[j]? = some k → cells[j]? = none := by
  obtain ⟨first, hfirst⟩ := List.mem_iff_getElem?.1 h
  rw [List.getElem?_take, Option.ite_none_right_eq_some] at hfirst
  obtain ⟨hlt, hname⟩ := hfirst
  have hle : first ≤ cells.length - 1 := by omega
  have hspec := Nat.findGreatest_spec (P := fun i => names[i]? = some k) hle hname
  have hlength := Nat.findGreatest_le (P := fun i => names[i]? = some k) (cells.length - 1)
  refine ⟨_, _, hspec, List.getElem?_eq_getElem (by omega), fun j hj hk => ?_⟩
  rcases Nat.lt_or_ge j cells.length with hcell | hcell
  · exact absurd hk (Nat.findGreatest_is_greatest hj (by omega))
  · exact List.getElem?_eq_none hcell

/-- There is one row of given columns and cells. -/
theorem RowOf.unique {names : List String} {cells : List Json} {r r' : Row} (h : RowOf names cells r)
    (h' : RowOf names cells r') : r = r' := by
  refine h.ordered.ext h'.ordered fun k => ?_
  by_cases hk : k ∈ names.take (min names.length cells.length)
  · obtain ⟨i, v, hname, hv, hlast⟩ := exists_last hk
    rw [h.cell i k v hname hv hlast, h'.cell i k v hname hv hlast]
  · rw [Keyed.get?_eq_none_of_notMem (mt (h.keys k).1 hk),
      Keyed.get?_eq_none_of_notMem (mt (h'.keys k).1 hk)]

/-- **A row of distinct columns keeps all its cells.** -/
theorem RowOf.keeps {names : List String} {cells : List Json} {r : Row} (h : RowOf names cells r)
    (hdistinct : names.Nodup) : Keeps names cells r := by
  intro i name v hname hv
  refine h.cell i name v hname hv fun j hj hname' => ?_
  obtain ⟨hi, -⟩ := List.getElem?_eq_some_iff.1 hname
  have hij : i = j := (List.getElem?_inj hi hdistinct).1 (hname.trans hname'.symm)
  omega

/-- Reading the columns of a row one by one gives its cells. -/
theorem Keeps.map_get? {names : List String} {cells : List Json} {r : Row} (h : Keeps names cells r)
    (hlength : cells.length = names.length) : names.map (Keyed.get? r) = cells.map some := by
  refine List.ext_getElem (by simp [hlength]) fun i hi hi' => ?_
  rw [List.length_map] at hi hi'
  rw [List.getElem_map, List.getElem_map]
  exact h i _ _ (List.getElem?_eq_getElem hi) (List.getElem?_eq_getElem hi')

theorem map_get?_of_forall₂ {names : List String} {lists : List (List Json)} {read : List Row}
    (h : List.Forall₂ (Keeps names) lists read) (hlength : ∀ cells ∈ lists, cells.length = names.length) :
    read.map (fun r => names.map (Keyed.get? r)) = lists.map (·.map some) := by
  induction h with
  | nil => rfl
  | cons hrow hrows ih =>
    obtain ⟨hfirst, hrest⟩ := List.forall_mem_cons.1 hlength
    rw [List.map_cons, List.map_cons, hrow.map_get? hfirst, ih hrest]

/-! ## All rows -/

/-- The entries of a result set that are rows, each as its cells. -/
def cellLists (entries : List Json) : List (List Json) := entries.filterMap Json.array?

theorem rows_array (columns entries : List Json) :
    rows (.array (.array columns :: entries)) = (cellLists entries).map (row columns) := by
  rw [cellLists, List.map_filterMap]
  refine List.filterMap_congr fun v _ => ?_
  cases v <;> rfl

/-- A value that does not start with a list of columns has no rows. -/
theorem rows_eq_nil {set : Json} (h : ∀ columns entries, set ≠ .array (.array columns :: entries)) :
    rows set = [] := by
  unfold rows
  split
  · rename_i columns entries
    exact absurd rfl (h columns entries)
  · rfl

/-- Every entry that is an array gives one row, in the order of the entries. -/
theorem forall₂_rows (columns entries : List Json) :
    List.Forall₂ (RowOf (columns.map columnName)) (cellLists entries)
      (rows (.array (.array columns :: entries))) := by
  rw [rows_array, List.forall₂_map_right_iff, List.forall₂_same]
  exact fun cells _ => rowOf_row columns cells

theorem eq_of_forall₂_rowOf {names : List String} {lists : List (List Json)} {read read' : List Row}
    (h : List.Forall₂ (RowOf names) lists read) (h' : List.Forall₂ (RowOf names) lists read') :
    read = read' := by
  induction h generalizing read' with
  | nil =>
    cases h'
    rfl
  | cons hrow hrows ih =>
    cases h' with
    | cons hrow' hrows' => rw [hrow.unique hrow', ih hrows']

theorem map_columnName_map_string (names : List String) :
    (names.map Json.string).map columnName = names := by
  rw [List.map_map]
  exact List.map_id names

/-- What rows keep of the entries behind distinct columns. -/
structure Lossless (names : List String) (entries : List Json) (read : List Row) : Prop where
  rows : List.Forall₂ (fun cells r => RowOf names cells r ∧ Keeps names cells r) (cellLists entries) read
  readBack : (∀ cells ∈ cellLists entries, cells.length = names.length) →
    read.map (fun r => names.map (Keyed.get? r)) = (cellLists entries).map (·.map some)

theorem lossless_rows {names : List String} (hdistinct : names.Nodup) (entries : List Json) :
    Lossless names entries (rows (.array (.strings names :: entries))) := by
  have hrows := forall₂_rows (names.map .string) entries
  rw [map_columnName_map_string] at hrows
  refine ⟨hrows.imp fun _ _ h => ⟨h, h.keeps hdistinct⟩, fun hlength => ?_⟩
  exact map_get?_of_forall₂ (hrows.imp fun _ _ h => h.keeps hdistinct) hlength

end ResultSet

/-! ## The rows of a response -/

namespace Response

/-- The message of a response has a result set under an index. -/
def HasSet (r : Response) (i : Nat) (set : Json) : Prop :=
  ∃ members sets, r.message = .object members ∧ Keyed.get? members "rs" = some (.array sets) ∧
    sets[i]? = some set

variable {r : Response} {i : Nat}

theorem rows_of_hasSet {set : Json} (h : r.HasSet i set) : r.rows i = ResultSet.rows set := by
  obtain ⟨members, sets, hmessage, hsets, hset⟩ := h
  rw [rows, hmessage, Json.get?, hsets]
  simp only [hset, Option.map_some, Option.getD_some]

theorem rows_of_forall_not_hasSet (h : ∀ set, ¬ r.HasSet i set) : r.rows i = [] := by
  unfold rows
  split
  · rename_i sets hsets
    cases hset : sets[i]? with
    | none => rfl
    | some set =>
      cases hmessage : r.message with
      | object members =>
        rw [hmessage] at hsets
        exact absurd ⟨members, sets, hmessage, hsets, hset⟩ (h set)
      | _ =>
        rw [hmessage] at hsets
        cases hsets
  · rfl

theorem rows_of_forall_not_columns
    (h : ∀ columns entries, ¬ r.HasSet i (.array (.array columns :: entries))) : r.rows i = [] := by
  by_cases hset : ∃ set, r.HasSet i set
  · obtain ⟨set, hset⟩ := hset
    rw [rows_of_hasSet hset]
    refine ResultSet.rows_eq_nil fun columns entries he => ?_
    exact h columns entries (he ▸ hset)
  · exact rows_of_forall_not_hasSet fun set h => hset ⟨set, h⟩

/-- The rows that a response has under an index, as its message has them: one for every entry with cells
behind the columns of the result set, and none if there is no such result set. -/
inductive RowsAre (r : Response) (i : Nat) : List Row → Prop
  | listed {columns entries : List Json} {names : List String} {read : List Row}
      (hset : r.HasSet i (.array (.array columns :: entries)))
      (hnames : List.Forall₂ Json.PlainText columns names)
      (hrows : List.Forall₂ (ResultSet.RowOf names) (ResultSet.cellLists entries) read) :
      RowsAre r i read
  | missing (h : ∀ columns entries, ¬ r.HasSet i (.array (.array columns :: entries))) : RowsAre r i []

/-- **The rows of a response** are those that its message has. -/
theorem rowsAre_iff {read : List Row} : r.RowsAre i read ↔ read = r.rows i := by
  constructor
  · intro h
    cases h with
    | listed hset hnames hrows =>
      rw [rows_of_hasSet hset]
      obtain rfl := Json.forall₂_plainText_iff.1 hnames
      exact ResultSet.eq_of_forall₂_rowOf hrows (ResultSet.forall₂_rows _ _)
    | missing h => exact (rows_of_forall_not_columns h).symm
  · rintro rfl
    by_cases h : ∃ columns entries, r.HasSet i (.array (.array columns :: entries))
    · obtain ⟨columns, entries, hset⟩ := h
      rw [rows_of_hasSet hset]
      exact .listed hset (Json.forall₂_plainText_iff.2 rfl) (ResultSet.forall₂_rows columns entries)
    · have hnone : ∀ columns entries, ¬ r.HasSet i (.array (.array columns :: entries)) :=
        fun columns entries hset => h ⟨columns, entries, hset⟩
      rw [rows_of_forall_not_columns hnone]
      exact .missing hnone

end Response

namespace ResultSet

/-- **Rows are read without loss.** -/
theorem rows_lossless :
    (∀ (names : List String) (entries : List Json), names.Nodup →
      Lossless names entries (rows (.array (.strings names :: entries)))) ∧
    (∀ (r : Response) (i : Nat) (set : Json), r.HasSet i set → r.rows i = rows set) ∧
    (∀ (r : Response) (i : Nat),
      (∀ columns entries, ¬ r.HasSet i (.array (.array columns :: entries))) → r.rows i = []) ∧
    ∀ columns entries, List.Forall₂ (RowOf (columns.map columnName)) (cellLists entries)
      (rows (.array (.array columns :: entries))) := by
  refine ⟨fun names entries hdistinct => lossless_rows hdistinct entries, ?_, ?_, forall₂_rows⟩
  · intro r i set hset
    exact Response.rows_of_hasSet hset
  · intro r i hnone
    exact Response.rows_of_forall_not_columns hnone

/-- Two rows with something in between that is none, and a response without a second result set. -/
theorem rows_lossless_users :
    let names := ["uid", "uname"]
    let entries := [Json.strings ["admin", "Admin"], .null, Json.strings ["u1", "User 1"]]
    let set := Json.array (.strings names :: entries)
    let r : Response := ⟨.ok, none, .object [("rs", .array [set])], none⟩
    (names.Nodup ∧ Lossless names entries (rows set)) ∧
      ((∀ cells ∈ cellLists entries, cells.length = names.length) ∧
        (rows set).map (fun r => names.map (Keyed.get? r)) = (cellLists entries).map (·.map some)) ∧
      (r.HasSet 0 set ∧ r.rows 0 = rows set) ∧
      ((∀ columns entries, ¬ r.HasSet 1 (.array (.array columns :: entries))) ∧ r.rows 1 = []) := by
  intro names entries set r
  obtain ⟨hlossless, hset, hnone, -⟩ := rows_lossless
  have hnames : names.Nodup := by decide
  have hlength : ∀ cells ∈ cellLists entries, cells.length = names.length := by
    simp [cellLists, entries, names, Json.strings, Json.array?]
  have hfirst : r.HasSet 0 set := ⟨_, _, rfl, rfl, rfl⟩
  have hsecond : ∀ columns entries, ¬ r.HasSet 1 (.array (.array columns :: entries)) := by
    rintro columns entries ⟨members, sets, hmessage, hsets, hget⟩
    cases hmessage
    cases hsets
    cases hget
  exact ⟨⟨hnames, hlossless names entries hnames⟩,
    ⟨hlength, (hlossless names entries hnames).readBack hlength⟩,
    ⟨hfirst, hset r 0 set hfirst⟩, ⟨hsecond, hnone r 1 hsecond⟩⟩

/-- **A result set whose only column is a number has a row**: the number names it by its text. -/
theorem not_forall_rows_eq_nil :
    ¬ ∀ (r : Response) (i : Nat),
      (∀ names entries, names.Nodup → ¬ r.HasSet i (.array (.strings names :: entries))) →
        r.rows i = [] := by
  intro h
  let numbered : Json := .array [.array [.int 1], .array [.string "x"]]
  let r : Response := ⟨.ok, none, .object [("rs", .array [numbered])], none⟩
  have hrows : r.rows 0 = [[("1", .string "x")]] := by rfl
  have hnil : r.rows 0 = [] := by
    refine h r 0 ?_
    rintro names entries - ⟨members, sets, hmessage, hsets, hget⟩
    cases hmessage
    cases hsets
    have hheader : Json.array [.int 1] = .strings names :=
      (List.cons.inj (Json.array.inj (Option.some.inj hget))).1
    -- the first of the names would be the number
    cases names with
    | nil => cases hheader
    | cons name names => cases hheader
  rw [hrows] at hnil
  cases hnil

end ResultSet

/-! ## The total of a response -/

/-- Only an integer that a word holds is read as one. -/
theorem Json.int64?_eq_some_iff {v : Json} {n : Int64} : v.int64? = some n ↔ v = .int64 n := by
  constructor
  · intro h
    unfold int64? at h
    split at h
    · obtain ⟨⟨hmin, hmax⟩, hn⟩ := Option.ite_none_right_eq_some.1 h
      obtain rfl := Option.some.inj hn
      rw [int64, int, Int64.toInt_ofInt_of_le hmin (Int.lt_add_one_of_le hmax)]
    · cases h
  · rintro rfl
    simp only [int64, int, int64?, n.minValue_le_toInt, n.toInt_le, and_self, if_true, Int64.ofInt_toInt]

namespace Response

variable {r : Response} {i : Nat} {n : Int64}

/-- The message of a response tells a total under an index: by a number, which is for the first result set,
or by a list of numbers. -/
inductive TellsTotal (r : Response) (i : Nat) (n : Int64) : Prop
  | number (first : i = 0) (h : r.message.get? "total" = some (.int64 n))
  | listed {totals : List Json} (h : r.message.get? "total" = some (.array totals))
    (entry : totals[i]? = some (.int64 n))

/-- The total that a response has under an index: the one that its message tells, or else the default. -/
inductive TotalIs (r : Response) (i : Nat) (default : Int64) : Int64 → Prop
  | told {n : Int64} (h : r.TellsTotal i n) : TotalIs r i default n
  | missing (h : ∀ n, ¬ r.TellsTotal i n) : TotalIs r i default default

theorem TellsTotal.total_eq (h : r.TellsTotal i n) (default : Int64) : r.total i default = n := by
  have hread := Json.int64?_eq_some_iff.2 (rfl : Json.int64 n = .int64 n)
  unfold total
  cases h with
  | number first h =>
    rw [h]
    show (if i = 0 then (Json.int64 n).int64?.getD default else default) = n
    rw [if_pos first, hread, Option.getD_some]
  | listed h entry =>
    rw [h]
    simp only [entry, Option.bind_some, hread, Option.getD_some]

theorem total_eq_default (h : ∀ n, ¬ r.TellsTotal i n) (default : Int64) :
    r.total i default = default := by
  unfold total
  split
  · rename_i totals htotals
    cases hentry : totals[i]?.bind Json.int64? with
    | none => rfl
    | some n =>
      obtain ⟨v, hv, hread⟩ := Option.bind_eq_some_iff.1 hentry
      rw [Json.int64?_eq_some_iff.1 hread] at hv
      exact absurd (.listed htotals hv) (h n)
  · rename_i v _ htotal
    split
    · rename_i first
      cases hread : v.int64? with
      | none => rfl
      | some n =>
        rw [Json.int64?_eq_some_iff.1 hread] at htotal
        exact absurd (.number first htotal) (h n)
    · rfl
  · rfl

/-- **The total of a response** is the one that its message tells. -/
theorem totalIs_iff {default : Int64} : r.TotalIs i default n ↔ n = r.total i default := by
  constructor
  · intro h
    cases h with
    | told h => exact (h.total_eq default).symm
    | missing h => exact (total_eq_default h _).symm
  · rintro rfl
    by_cases h : ∃ n, r.TellsTotal i n
    · obtain ⟨n, hn⟩ := h
      rw [hn.total_eq]
      exact .told hn
    · have hnone : ∀ n, ¬ r.TellsTotal i n := fun n hn => h ⟨n, hn⟩
      rw [total_eq_default hnone]
      exact .missing hnone

end Response
end SemanticClient
