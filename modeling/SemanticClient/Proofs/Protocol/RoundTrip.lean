import SemanticClient.Binding.Options
import SemanticClient.Proofs.Protocol.Rows
import SemanticClient.Proofs.Request.Wire
import SemanticClient.Proofs.Session.LoginState

/-!
# Reading back what is written

Responses, headers, configurations, options and errors are written as JSON and read from it. What is written
is read back as it was, whether absent members are left out or written as `null`. Session info keeps members
that it knows nothing of, so here the opposite holds too: an object that is read as session info is written
as the same object again.

* `Json.ReadsBack.optional?_map`, `Json.ReadsBack.optional?_getD`: the two ways to write what may be absent.
* `SessionInfo.toJson_of_readFrom`: nothing of an object is lost in session info.
* `formats_readBack`: all formats together.
-/

namespace SemanticClient

/-! ## Keyed collections -/

namespace Keyed

variable {α : Type} {m : Keyed α}

/-- In an ordered collection it does not matter from which end an entry is looked for. -/
theorem Ordered.get?_reverse (h : Ordered m) (k : String) : get? m.reverse k = get? m k := by
  have hdistinct : (keys m).Nodup := List.Pairwise.imp (fun hlt => String.ne_of_lt hlt) h
  exact get?_reverse_of_nodup hdistinct k

theorem Ordered.filter (h : Ordered m) (p : String × α → Bool) : Ordered (m.filter p) :=
  List.Pairwise.sublist (List.filter_sublist.map _) h

/-- Dropping the entries of some keys leaves all others. -/
theorem get?_filter (p : String → Bool) (k : String) :
    get? (m.filter fun e => p e.1) k = if p k then get? m k else none := by
  induction m with
  | nil => exact (ite_self _).symm
  | cons e m ih =>
    obtain ⟨j, a⟩ := e
    rw [List.filter_cons, get?_cons]
    by_cases hj : p j
    · rw [if_pos hj, get?_cons, ih]
      by_cases hk : k = j
      · rw [if_pos hk, if_pos hk, hk, if_pos hj]
      · rw [if_neg hk, if_neg hk]
    · rw [if_neg hj, ih]
      by_cases hk : k = j
      · rw [hk, if_neg hj, if_neg hj]
      · rw [if_neg hk]

end Keyed

/-! ## Shapes -/

namespace Json

variable {α : Type} {write : α → Json} {read : Json → Option α}

/-- **A reader reads back what a writer writes.** It never writes `null`, which stands for no value. -/
structure ReadsBack (write : α → Json) (read : Json → Option α) : Prop where
  written : ∀ a, read (write a) = some a
  ne_null : ∀ a, write a ≠ .null

namespace ReadsBack

theorem nullable?_written (h : ReadsBack write read) (a : α) :
    nullable? read (write a) = some (some a) := by
  have hread := h.written a
  have hnull := h.ne_null a
  unfold nullable?
  split
  · contradiction
  · rw [hread, Option.map_some]

/-- A member that is left out if there is no value. -/
theorem optional?_map (h : ReadsBack write read) (o : Option α) :
    optional? read (o.map write) = some o := by
  cases o with
  | none => rfl
  | some a => exact h.nullable?_written a

/-- A member that is `null` if there is no value. -/
theorem optional?_getD (h : ReadsBack write read) (o : Option α) :
    optional? read (some ((o.map write).getD .null)) = some o := by
  cases o with
  | none => rfl
  | some a => exact h.nullable?_written a

theorem list?_array (h : ReadsBack write read) (l : List α) :
    (array (l.map write)).list? read = some l := by
  induction l with
  | nil => rfl
  | cons a l ih =>
    show ((write a :: l.map write).mapM read : Option (List α)) = some (a :: l)
    change (l.map write).mapM read = some l at ih
    rw [List.mapM_cons, h.written, ih]
    rfl

end ReadsBack

theorem readsBack_string : ReadsBack string string? := ⟨fun _ => rfl, fun _ => Json.noConfusion⟩

theorem readsBack_int64 : ReadsBack int64 int64? where
  written _ := int64?_eq_some_iff.2 rfl
  ne_null _ := Json.noConfusion

theorem uint64?_nat (n : UInt64) : (nat n.toNat).uint64? = some n := by
  have hlt : (n.toNat : Int) < UInt64.size := by exact_mod_cast n.toNat_lt
  simp only [nat, int, uint64?, hlt, Int.natCast_nonneg, and_self, if_true, Int.toNat_natCast,
    UInt64.ofNat_toNat]

/-- **Under its name each member is found**, if no name is there twice. -/
theorem get?_ofMembers_of_nodup {members : List (String × Json)} (h : (members.map (·.1)).Nodup) :
    ∀ e ∈ members, (ofMembers members).get? e.1 = some e.2 := by
  induction members with
  | nil => exact fun e he => absurd he List.not_mem_nil
  | cons e members ih =>
    obtain ⟨hnot, hrest⟩ := List.nodup_cons.1 h
    refine List.forall_mem_cons.2 ⟨?_, fun e' he' => ?_⟩
    · have hreverse : e.1 ∉ Keyed.keys members.reverse := by
        rw [Keyed.keys, List.map_reverse, List.mem_reverse]
        exact hnot
      rw [get?_ofMembers_cons, get?_ofMembers, Keyed.get?_eq_none_of_notMem hreverse, if_pos rfl,
        Option.none_or]
    · rw [get?_ofMembers_cons, ih hrest e' he', Option.some_or]

theorem optional?_ofOption (o : Option String) : optional? string? (some (.ofOption o)) = some o := by
  cases o with
  | none => rfl
  | some s => rfl

end Json

/-! ## Formats -/

theorem UserAct.readsBack : Json.ReadsBack toJson ofJson? := ⟨fun _ => rfl, fun _ => Json.noConfusion⟩

/-- A record that is written as an object is read from it. -/
theorem Json.record?_ofMembers (members : List (String × Json)) (fields : List String) (least : Nat) :
    (ofMembers members).record? fields least = some (ofMembers members) := rfl

theorem Header.ofJson?_toJson (h : Header) : ofJson? h.toJson = some h := by
  have hssid : (Json.ofMembers h.members).get? "ssid" = h.ssid.map .string := by simp [members]
  have huid : (Json.ofMembers h.members).get? "uid" = h.uid.map .string := by simp [members]
  have hact : (Json.ofMembers h.members).get? "usrAct" = h.act.map UserAct.toJson := by simp [members]
  simp only [ofJson?, toJson, Json.record?_ofMembers, Option.bind_eq_bind, Option.bind_some, hssid, huid,
    hact, Json.readsBack_string.optional?_map, UserAct.readsBack.optional?_map, Option.pure_def]

theorem Config.ofJson?_toJson (c : Config) : ofJson? c.toJson = some c := by
  have hnodup : (c.members.map (·.1)).Nodup := by
    show ["serv_root", "conn_id", "verbose", "timeout_ms"].Nodup
    decide
  have hmembers := Json.get?_ofMembers_of_nodup hnodup
  simp only [members, List.forall_mem_cons] at hmembers
  obtain ⟨hroot, hconnection, hverbose, htimeout, -⟩ := hmembers
  have hread := Json.optional?_ofOption c.connection
  rw [← hconnection] at hread
  refine Option.bind_eq_some_iff.2 ⟨_, hroot, ?_⟩
  refine Option.bind_eq_some_iff.2 ⟨c.root, rfl, ?_⟩
  refine Option.bind_eq_some_iff.2 ⟨_, hread, ?_⟩
  refine Option.bind_eq_some_iff.2 ⟨_, hverbose, ?_⟩
  refine Option.bind_eq_some_iff.2 ⟨c.verbose, rfl, ?_⟩
  refine Option.bind_eq_some_iff.2 ⟨_, htimeout, ?_⟩
  exact Option.bind_eq_some_iff.2 ⟨_, Json.uint64?_nat _, rfl⟩

theorem ClientError.ofJson?_toJson (e : ClientError) : ofJson? e.toJson = some e := by
  have htype : (Json.ofMembers e.members).get? "type" = some (.string e.kind) := by simp [members]
  have hmessage : (Json.ofMembers e.members).get? "message" = e.detail?.map .string := by simp [members]
  have hkind : kindName? (Json.ofMembers e.members) (.string e.kind) = some e.kind := rfl
  simp only [ofJson?, toJson, Json.record?_ofMembers, Option.bind_eq_bind, Option.bind_some, htype,
    hmessage, hkind, Json.readsBack_string.optional?_map, ofKind?_kind]

theorem Response.ofJson?_toJson (r : Response) : ofJson? r.toJson = pure (some r) := by
  have hcode : (Json.ofMembers r.members).get? "code" = some (.string r.code.name) := by
    simp [members, Code.toJson]
  have hport : (Json.ofMembers r.members).get? "port" = r.port.map .string := by simp [members]
  have hmessage : (Json.ofMembers r.members).get? "msg" = some r.message := by simp [members]
  have herror : (Json.ofMembers r.members).get? "error" = r.error.map .string := by simp [members]
  have htext : codeText? r.toJson = some r.code.name := by
    show ((Json.ofMembers r.members).get? "code").bind Json.string? = _
    rw [hcode]
    rfl
  have hread : withCode? (Json.ofMembers r.members) r.code = some r := by
    simp only [withCode?, Option.bind_eq_bind, Option.bind_some, hport, hmessage, herror,
      Json.readsBack_string.optional?_map, Option.getD_some, Option.pure_def]
  simp only [ofJson?, htext, Code.parse_name, pure_bind]
  simp only [toJson, Json.record?_ofMembers, Option.bind_some, hread]

/-- An expression with its alias is read back. -/
theorem BindOptions.readsBack_expr :
    Json.ReadsBack (fun e : String × Option String => .array [.string e.1, .ofOption e.2]) exprOfJson? where
  written e := by
    obtain ⟨expr, label⟩ := e
    cases label with
    | none => rfl
    | some label => rfl
  ne_null _ := Json.noConfusion

theorem BindOptions.ofJson?_toJson {o : BindOptions} (h : o.args ≠ some .null) :
    ofJson? o.toJson = some o := by
  have hargs : Json.optional? some (some (o.args.getD .null)) = some o.args := by
    cases hargs : o.args with
    | none => rfl
    | some v =>
      rw [hargs] at h
      cases v with
      | null => exact absurd rfl h
      | _ => rfl
  have hexprs := readsBack_expr.list?_array o.exprs
  have hsqlArgs : (Json.strings o.sqlArgs).list? Json.string? = some o.sqlArgs :=
    Json.readsBack_string.list?_array o.sqlArgs
  have hpageSize := Json.readsBack_int64.optional?_getD o.pageSize
  -- no option has the name of another one
  have hnodup : (o.members.map (·.1)).Nodup := by
    show fields.Nodup
    decide
  have hmembers := Json.get?_ofMembers_of_nodup hnodup
  have hrecord := Json.record?_ofMembers o.members fields 0
  -- all that counts of the object is what it says under each name
  show ofJson? (Json.ofMembers o.members) = some o
  generalize Json.ofMembers o.members = v at hmembers hrecord ⊢
  simp only [members, List.forall_mem_cons] at hmembers
  refine Option.bind_eq_some_iff.2 ⟨v, hrecord, ?_⟩
  simp only [hmembers, Json.optional?_ofOption, listField?, hargs, hexprs, hsqlArgs, hpageSize]
  rfl

/-! ## Session info -/

namespace SessionInfo

/-- The other members of session info, as an object has them: in order, and none of them an id. -/
structure WellFormed (i : SessionInfo) : Prop where
  ordered : Keyed.Ordered i.extra
  ssid : "ssid" ∉ Keyed.keys i.extra
  uid : "uid" ∉ Keyed.keys i.extra

/-- What session info says under each name: the ids, and beside them its other members. -/
theorem get?_members {i : SessionInfo} (h : Keyed.Ordered i.extra) (k : String) :
    Keyed.get? (Keyed.ofList i.members) k =
      ((Keyed.get? i.extra k).or (if k = "uid" then some (.string i.uid) else none)).or
        (if k = "ssid" then some (.string i.ssid) else none) := by
  have hextra : (Json.ofMembers i.extra).get? k = Keyed.get? i.extra k := by
    rw [Json.get?_ofMembers, h.get?_reverse]
  rw [← hextra, ← Json.get?_ofMembers_cons, ← Json.get?_ofMembers_cons]
  rfl

/-- The other members of an object are those under names that are no ids. -/
theorem get?_filter_extra (members : Keyed Json) (k : String) :
    Keyed.get? (members.filter fun m => m.1 != "ssid" && m.1 != "uid") k =
      if k = "ssid" ∨ k = "uid" then none else Keyed.get? members k := by
  rw [Keyed.get?_filter fun l => l != "ssid" && l != "uid"]
  by_cases hid : k = "ssid" ∨ k = "uid"
  · rcases hid with rfl | rfl
    · rfl
    · rfl
  · obtain ⟨hssid, huid⟩ := not_or.1 hid
    rw [if_neg hid, bne_iff_ne.2 hssid, bne_iff_ne.2 huid]
    rfl

/-- **Session info is in what is written of it.** -/
theorem WellFormed.readFrom {i : SessionInfo} (h : i.WellFormed) :
    i.ReadFrom (Keyed.ofList i.members) where
  ssid := by
    rw [get?_members h.ordered, Keyed.get?_eq_none_of_notMem h.ssid]
    rfl
  uid := by
    rw [get?_members h.ordered, Keyed.get?_eq_none_of_notMem h.uid]
    rfl
  extra := by
    refine h.ordered.ext ((Keyed.ordered_ofList i.members).filter _) fun k => ?_
    rw [get?_filter_extra]
    by_cases hid : k = "ssid" ∨ k = "uid"
    · rw [if_pos hid]
      rcases hid with rfl | rfl
      · exact Keyed.get?_eq_none_of_notMem h.ssid
      · exact Keyed.get?_eq_none_of_notMem h.uid
    · obtain ⟨hssid, huid⟩ := not_or.1 hid
      rw [if_neg hid, get?_members h.ordered, if_neg hssid, if_neg huid, Option.or_none, Option.or_none]

theorem ofJson?_toJson {i : SessionInfo} (h : i.WellFormed) : ofJson? i.toJson = some i :=
  (ofJson?_eq_some_iff _ _).2 ⟨_, rfl, h.readFrom⟩

/-- **Nothing of an object is lost in session info**: no member is dropped, added or renamed. -/
theorem toJson_of_readFrom {i : SessionInfo} {members : Keyed Json} (hordered : Keyed.Ordered members)
    (h : i.ReadFrom members) : i.toJson = .object members := by
  have hextra : Keyed.Ordered i.extra := h.extra ▸ hordered.filter _
  refine congrArg Json.object ((Keyed.ordered_ofList i.members).ext hordered fun k => ?_)
  rw [get?_members hextra, h.extra, get?_filter_extra]
  by_cases hid : k = "ssid" ∨ k = "uid"
  · rw [if_pos hid, Option.none_or]
    rcases hid with rfl | rfl
    · exact h.ssid.symm
    · exact h.uid.symm
  · obtain ⟨hssid, huid⟩ := not_or.1 hid
    rw [if_neg hid, if_neg hssid, if_neg huid, Option.or_none, Option.or_none]

/-- Session info that was read is as an object has it. -/
theorem ReadFrom.wellFormed {i : SessionInfo} {members : Keyed Json} (hordered : Keyed.Ordered members)
    (h : i.ReadFrom members) : i.WellFormed where
  ordered := h.extra ▸ hordered.filter _
  ssid := by simp [h.extra, Keyed.keys]
  uid := by simp [h.extra, Keyed.keys]

/-- Which objects are read as session info: those with the two ids as texts. -/
theorem exists_ofJson?_object_iff (members : Keyed Json) :
    (∃ i, ofJson? (.object members) = some i) ↔
      (∃ ssid, Keyed.get? members "ssid" = some (.string ssid)) ∧
        ∃ uid, Keyed.get? members "uid" = some (.string uid) := by
  constructor
  · rintro ⟨i, hi⟩
    obtain ⟨members', heq, hread⟩ := (ofJson?_eq_some_iff _ i).1 hi
    cases heq
    exact ⟨⟨i.ssid, hread.ssid⟩, i.uid, hread.uid⟩
  · rintro ⟨⟨ssid, hssid⟩, uid, huid⟩
    exact ⟨⟨ssid, uid, _⟩, (ofJson?_eq_some_iff _ _).2 ⟨members, rfl, hssid, huid, rfl⟩⟩

end SessionInfo

/-- **What is written is read back as it was**, in every format that is both written and read. Session info
needs its other members to be those of an object, as they are in all that was read
(`SessionInfo.ReadFrom.wellFormed`), and options need arguments that are not `null`, which is how absent
ones are written. An object is read as session info exactly if it has the two ids as texts. Then it is
written again as it was. -/
theorem formats_readBack :
    (∀ r : Response, Response.ofJson? r.toJson = pure (some r)) ∧
    (∀ h : Header, Header.ofJson? h.toJson = some h) ∧
    (∀ a : UserAct, UserAct.ofJson? a.toJson = some a) ∧
    (∀ c : Config, Config.ofJson? c.toJson = some c) ∧
    (∀ e : ClientError, ClientError.ofJson? e.toJson = some e) ∧
    (∀ i : SessionInfo, i.WellFormed → SessionInfo.ofJson? i.toJson = some i) ∧
    (∀ o : BindOptions, o.args ≠ some .null → BindOptions.ofJson? o.toJson = some o) ∧
    ∀ members, Keyed.Ordered members →
      ((∃ i, SessionInfo.ofJson? (.object members) = some i) ↔
        (∃ ssid, Keyed.get? members "ssid" = some (.string ssid)) ∧
          ∃ uid, Keyed.get? members "uid" = some (.string uid)) ∧
      ∀ i, SessionInfo.ofJson? (.object members) = some i → i.toJson = .object members := by
  refine ⟨Response.ofJson?_toJson, Header.ofJson?_toJson, UserAct.readsBack.written,
    Config.ofJson?_toJson, ClientError.ofJson?_toJson, fun _ => SessionInfo.ofJson?_toJson,
    fun _ => BindOptions.ofJson?_toJson, ?_⟩
  intro members hordered
  refine ⟨SessionInfo.exists_ofJson?_object_iff members, fun i hi => ?_⟩
  obtain ⟨members', heq, hread⟩ := (SessionInfo.ofJson?_eq_some_iff _ i).1 hi
  cases heq
  exact SessionInfo.toJson_of_readFrom hordered hread

/-- What an administrator's login tells. -/
def adminInfo : SessionInfo := ⟨"ss-01", "admin", [("roles", .strings ["r1", "r2"]), ("usrName", .null)]⟩

/-- A pager on users, with a variable for its specs. -/
def usersOptions : BindOptions :=
  { BindOptions.empty with
    joinSpec := some "a_users:u"
    args := some (.ofMembers [("org", .string "o1")])
    exprs := [("u.name", none), ("u.id", some "id")]
    pageSize := some 10 }

theorem formats_readBack_admin :
    SessionInfo.ofJson? adminInfo.toJson = some adminInfo ∧
    BindOptions.ofJson? usersOptions.toJson = some usersOptions ∧
    adminInfo.toJson = .object [("roles", .strings ["r1", "r2"]), ("ssid", .string "ss-01"),
      ("uid", .string "admin"), ("usrName", .null)] := by
  obtain ⟨-, -, -, -, -, hinfo, hoptions, hobject⟩ := formats_readBack
  have hordered : Keyed.Ordered [("roles", Json.strings ["r1", "r2"]), ("ssid", .string "ss-01"),
      ("uid", .string "admin"), ("usrName", .null)] := by
    unfold Keyed.Ordered
    decide
  refine ⟨hinfo _ ⟨?_, by decide, by decide⟩, hoptions _ ?_, (hobject _ hordered).2 _ rfl⟩
  · unfold Keyed.Ordered
    decide
  · intro hnull
    cases hnull

end SemanticClient
