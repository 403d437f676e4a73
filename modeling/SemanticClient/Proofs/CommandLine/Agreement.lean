import SemanticClient.CommandLine.Run
import SemanticClient.Proofs.Binding.Request
import SemanticClient.Proofs.Binding.Run
import SemanticClient.Proofs.Protocol.Texts
import SemanticClient.Proofs.Request.Wire
import SemanticClient.Proofs.Session.Logout
import SemanticClient.Proofs.Spec.Lexical

/-!
# Compiling and querying agree

A spec can be compiled without a server, which prints the query that it stands for, or it can be queried,
which logs in and posts the query for one page. The two take different ways: querying goes through the
options of a binding, their validation and a pager. Both come to the same query.

* `Spec.JoinList.joins_parse_of_blank`: a blank join spec names no table.
* `Spec.value_toQuery_eq`: the connection is all that a query has from elsewhere.
* `Query.get?_toJson_forPage`: what tells the body of a query for a page from the query itself.
* `CommandLine.compileSpec_of_ok`, `CommandLine.compileSpec_of_error`: what compiling reports.
* `CommandLine.queryPage_of_ok`, `CommandLine.queryPage_of_error`: what querying sends in its session.
* `CommandLine.postsPrinted_querySending`: the request posts what compiling prints.
* `CommandLine.query_agrees`: both together.
-/

namespace SemanticClient

/-! ## Blank specs -/

namespace Spec

theorem Segment.ofText_of_allBlank {cs : List Char} (h : Text.AllBlank cs) :
    ofText cs = .unreadable := by
  have hleft : Text.trimLeft cs = [] := List.dropWhile_eq_nil_iff.2 h
  have hflag : flag? cs = none := by
    rw [flag?, hleft]
  have halone : alone? cs = none := by
    rw [alone?, hleft]
    rfl
  rw [ofText, hflag, halone]
  rfl

/-- **A blank join spec names no table.** -/
theorem JoinList.joins_parse_of_blank (s : Scope) {spec : String}
    (h : Text.blankString spec = true) : (parse s spec).value.joins = [] := by
  have hblank : Text.AllBlank spec.toList := Text.allBlank_of_isEmpty_trim h
  have hsplit : Text.split ',' spec.toList = [spec.toList] :=
    Text.split_of_notMem (Text.AllBlank.notMem_comma hblank)
  simp only [parse, hsplit, readSegments, readSegment, Segment.ofText_of_allBlank hblank, skip,
    Traced.value_bind, Traced.value_pure]
  rfl

/-! ## The query of two specs -/

/-- The query that two specs stand for, on no connection. -/
def specQuery (s : Scope) (joinSpec : String) (orderSpec : Option String) : Except SpecError Query :=
  (compile s joinSpec orderSpec).value.bind fun c => (c.toQuery none).value

end Spec

/-- A query on a connection. -/
def Query.onConnection (q : Query) (connection : Option String) : Query :=
  { q with select := { q.select with connection } }

/-- A query on a connection for one page. -/
def Query.forPage (q : Query) (connection : Option String) (page size : Int64) : Query :=
  { q with select := { q.select with connection, page, size } }

namespace Spec

/-- **The connection is all that a query has from elsewhere**: the rest is in the specs. -/
theorem Compiled.value_toQuery_eq (c : Compiled) (connection : Option String) :
    (c.toQuery connection).value = (c.toQuery none).value.map (·.onConnection connection) := by
  rw [value_toQuery, value_toQuery]
  cases c.main? with
  | none => rfl
  | some main => rfl

/-- A blank join spec stands for no query. -/
theorem exists_specQuery_eq_error_of_blank (s : Scope) {joinSpec : String}
    (h : Text.blankString joinSpec = true) (orderSpec : Option String) :
    ∃ e, specQuery s joinSpec orderSpec = .error e := by
  rw [specQuery, value_compile]
  cases ordersOf orderSpec (JoinList.parse s joinSpec).value.joins with
  | error e => exact ⟨e, rfl⟩
  | ok orders =>
    have hmain : JoinList.main? (JoinList.parse s joinSpec).value.joins = none := by
      rw [JoinList.joins_parse_of_blank s h]
      rfl
    simp only [Except.map, Except.bind, Compiled.value_toQuery, Compiled.main?, hmain]
    exact ⟨_, rfl⟩

end Spec

/-! ## The body of a query -/

/-- **Only three members tell a query for a page from the query itself.** -/
theorem Query.get?_toJson_forPage (q : Query) (connection : Option String) (page size : Int64)
    (key : String) :
    (q.forPage connection page size).toJson.get? key =
      if key = "conn" then connection.map .string
      else if key = "page" then some (.int64 page)
      else if key = "pgSize" then some (.int64 size)
      else q.toJson.get? key := by
  unfold toJson
  simp only [members, Select.members, forPage, Json.get?_ofMembers_append, Json.get?_ofMembers_cons,
    Json.get?_ofMembers_optional, Json.get?_ofMembers_nil]
  by_cases hconn : key = "conn"
  · simp [hconn]
  · by_cases hpage : key = "page"
    · simp [hpage]
    · by_cases hsize : key = "pgSize"
      · simp [hsize]
      · simp only [hconn, hpage, hsize, if_false]

/-- No two members of a query have the same name. -/
theorem Query.nodup_keys_members (q : Query) : (Keyed.keys q.members).Nodup := by
  obtain ⟨action, select⟩ := q
  cases hconnection : select.connection <;> cases halias : select.tableAlias <;>
    simp [members, Select.members, Keyed.keys, hconnection, halias]

/-- A request posts what a text says, but on a connection and for a page: the text is one of an object, and
the only body of the request says the same as that object under every name but three. -/
def Sending.PostsPrinted (x : Sending) (connection : Option String) (page size : Int64)
    (text : String) : Prop :=
  ∃ printed posted : Json, printed.HasText text ∧ x.payload.get? "body" = some (.array [posted]) ∧
    ∀ key, posted.get? key =
      if key = "conn" then connection.map .string
      else if key = "page" then some (.int64 page)
      else if key = "pgSize" then some (.int64 size)
      else printed.get? key

/-! ## Requests and dialogues -/

/-- A dialogue after another one goes on where that one ended. -/
theorem Dialogue.run_bind {α β : Type} (serve : Sending → Answer) (x : Dialogue α)
    (f : α → Dialogue β) :
    (x >>= f).run serve =
      ((x.run serve).1 ++ ((f (x.run serve).2).run serve).1, ((f (x.run serve).2).run serve).2) := by
  show (x.bind f).run serve = _
  induction x with
  | done a => rfl
  | ask sending next ih =>
    rw [Dialogue.bind, Dialogue.run, Dialogue.run, ih]
    rfl

namespace CommandLine

open Spec

/-! ## Specs on the command line -/

namespace QuerySpec

/-- The arguments of a spec are the text of a JSON object, if there are any. -/
def HasObjectArgs (spec : QuerySpec) : Prop :=
  ∀ args ∈ spec.args, ∃ members, Json.parse args = .ok (.object members)

/-- The value of the arguments. -/
def argsJson? (spec : QuerySpec) : Option Json := spec.args.bind fun args => (Json.parse args).toOption

/-- Where the variables of a spec are looked up. -/
def scope (spec : QuerySpec) : Scope := ⟨spec.argsJson?.bind Pool.ofJson?, []⟩

/-- The query that a spec stands for, on no connection. -/
def query (spec : QuerySpec) : Except SpecError Query := specQuery spec.scope spec.joins spec.orders

/-- A spec as the options of a binding. -/
def options (spec : QuerySpec) (size : Int64) : BindOptions := { BindOptions.empty with
  joinSpec := some spec.joins
  orderSpec := spec.orders
  pageSize := some size
  args := spec.argsJson? }

variable {spec : QuerySpec}

theorem HasObjectArgs.argPool_eq (h : spec.HasObjectArgs) :
    argPool spec.args = .ok spec.scope.args := by
  unfold scope argsJson?
  cases hargs : spec.args with
  | none => rfl
  | some args =>
    obtain ⟨members, hparse⟩ := h args hargs
    simp only [argPool, readArgs, hparse, Option.bind_some, Except.toOption]
    rfl

theorem HasObjectArgs.queryOptions?_eq (h : spec.HasObjectArgs) (size : Int64) :
    queryOptions? spec size = .ok (spec.options size) := by
  unfold options argsJson?
  cases hargs : spec.args with
  | none =>
    simp only [queryOptions?, hargs]
    rfl
  | some args =>
    obtain ⟨members, hparse⟩ := h args hargs
    simp only [queryOptions?, hargs, readArgs, hparse, Option.bind_some, Except.toOption]
    rfl

end QuerySpec

/-! ## Compiling -/

/-- The text that compiling prints for a query. -/
def bodyText (asJson : Bool) (q : Query) : String :=
  if asJson then (Json.object q.members).text else (Json.object q.members).indented

/-- In either layout it is a text of the members of the query. -/
theorem hasText_bodyText (asJson : Bool) (q : Query) : (Json.object q.members).HasText (bodyText asJson q) := by
  cases asJson with
  | true => exact Json.hasText_text _
  | false => exact Json.hasText_indented _

theorem output_append (a b : Printed) : (a ++ b).output = a.output ++ b.output := rfl

/-- What was skipped is no output. -/
theorem output_foldl_skipped (es : List SpecError) (p : Printed) :
    (es.foldl (fun p d => p ++ Printed.errorLine ("skipped: " ++ d.message)) p).output = p.output := by
  induction es generalizing p with
  | nil => rfl
  | cons e es ih =>
    rw [List.foldl_cons, ih, output_append]
    exact String.append_empty

section Compiling

variable {spec : QuerySpec} (asJson : Bool)

theorem compileSpec_eq (h : spec.HasObjectArgs) :
    compileSpec asJson spec =
      match (compile spec.scope spec.joins spec.orders).value with
      | .error e => .failure .nothing ("Failed to compile: " ++ e.message)
      | .ok c => reportCompiled asJson c := by
  unfold compileSpec
  rw [h.argPool_eq]
  rfl

/-- **A spec that stands for a query compiles**, and its query is printed. -/
theorem compileSpec_of_ok (h : spec.HasObjectArgs) {q : Query} (hquery : spec.query = .ok q) :
    (compileSpec asJson spec).exitCode = 0 ∧
      (compileSpec asJson spec).printed.output = bodyText asJson q ++ "\n" := by
  rw [compileSpec_eq asJson h]
  unfold QuerySpec.query specQuery at hquery
  cases hcompile : (compile spec.scope spec.joins spec.orders).value with
  | error e =>
    rw [hcompile] at hquery
    cases hquery
  | ok c =>
    rw [hcompile] at hquery
    have hq : (c.toQuery none).value = .ok q := hquery
    simp only [reportCompiled, hq]
    refine ⟨rfl, ?_⟩
    show (_ ++ Printed.line (bodyText asJson q)).output = _
    rw [output_append, output_foldl_skipped]
    exact String.empty_append

/-- **A spec that stands for no query does not compile.** -/
theorem compileSpec_of_error (h : spec.HasObjectArgs) {e : SpecError} (hquery : spec.query = .error e) :
    (compileSpec asJson spec).exitCode = 1 := by
  rw [compileSpec_eq asJson h]
  unfold QuerySpec.query specQuery at hquery
  cases hcompile : (compile spec.scope spec.joins spec.orders).value with
  | error e => rfl
  | ok c =>
    rw [hcompile] at hquery
    have hq : (c.toQuery none).value = .error e := hquery
    simp only [reportCompiled, hq]
    rfl

end Compiling

/-! ## Querying -/

section Querying

variable {spec : QuerySpec} {size : Int64}

theorem fault?_options (hblank : Text.blankString spec.joins = false) (hsize : 0 < size) :
    (spec.options size).fault? = none := by
  have hnot : ¬ size ≤ 0 := Int64.not_le.2 hsize
  have hjoins : BindOptions.isBlank (spec.options size).joinSpec = false := hblank
  unfold BindOptions.fault?
  rw [hjoins]
  simp only [QuerySpec.options, Bool.false_and, Bool.false_eq_true, if_false, hnot]

theorem validate_options (hblank : Text.blankString spec.joins = false) (hsize : 0 < size) :
    ((spec.options size).validate []).value = .ok () := by
  rw [BindOptions.value_validate, fault?_options hblank hsize]
  rfl

/-- The command line adds no columns and no conditions. -/
theorem withOptions_options (spec : QuerySpec) (size : Int64) (q : Query) :
    Binder.withOptions (spec.options size) [] q = q := by
  unfold Binder.withOptions QuerySpec.options BindOptions.empty
  rw [List.append_nil, List.append_nil]

section

variable (c : Client) (s : Session)

/-- The options of a spec are compiled to the query that it stands for. -/
theorem value_buildRequest_options (spec : QuerySpec) (size : Int64) :
    ((Binder.ofSession c s [] []).buildRequest (spec.options size) []).value =
      match spec.query with
      | .ok q => .ok (.query (q.onConnection c.config.connection))
      | .error e => .error (.compilation e.message) := by
  have hnone : BindOptions.isBlank (spec.options size).semanticKey = true := rfl
  have hjoins : (spec.options size).joinSpec = some spec.joins := rfl
  have hscope : (Binder.ofSession c s [] []).scope (spec.options size) = spec.scope := rfl
  have horders : (spec.options size).orderSpec = spec.orders := rfl
  rw [Binder.value_buildRequest_of_joins _ _ hnone hjoins, Binder.value_queryOf, hscope, horders]
  unfold QuerySpec.query specQuery
  cases (compile spec.scope spec.joins spec.orders).value with
  | error e => rfl
  | ok compiled =>
    simp only [Except.bind]
    rw [compiled.value_toQuery_eq (Binder.ofSession c s [] []).client.config.connection]
    cases (compiled.toQuery none).value with
    | error e => rfl
    | ok q =>
      simp only [Except.map, withOptions_options]
      rfl

/-- A spec that stands for a query is registered with it. -/
theorem value_prepare_of_ok {q : Query} (hsize : 0 < size) (hquery : spec.query = .ok q) :
    ((Binder.ofSession c s [] []).prepare (spec.options size) []).value =
      .ok (.query (q.onConnection c.config.connection)) := by
  -- validation looks at blanks, compilation at tables: a blank join spec fails either way
  have hblank : Text.blankString spec.joins = false := by
    cases hjoins : Text.blankString spec.joins with
    | false => rfl
    | true =>
      obtain ⟨e, he⟩ := exists_specQuery_eq_error_of_blank spec.scope hjoins spec.orders
      rw [QuerySpec.query, he] at hquery
      cases hquery
  have hvalid : ((spec.options size).validate (Binder.ofSession c s [] []).handlers).value = .ok () :=
    validate_options hblank hsize
  unfold Binder.prepare
  rw [Traced.value_bind, hvalid]
  show ((Binder.ofSession c s [] []).buildRequest (spec.options size) []).value = _
  rw [value_buildRequest_options, hquery]

/-- A spec that stands for no query is not registered, be it that validation or compilation refuses it. -/
theorem exists_value_prepare_of_error (size : Int64) {e : SpecError}
    (hquery : spec.query = .error e) :
    ∃ e, ((Binder.ofSession c s [] []).prepare (spec.options size) []).value = .error e := by
  unfold Binder.prepare
  rw [Traced.value_bind]
  cases ((spec.options size).validate (Binder.ofSession c s [] []).handlers).value with
  | error e => exact ⟨e, rfl⟩
  | ok valid =>
    refine ⟨.compilation e.message, ?_⟩
    show ((Binder.ofSession c s [] []).buildRequest (spec.options size) []).value = _
    rw [value_buildRequest_options, hquery]

/-- The request that queries in a session. -/
def querySending (config : Config) (s : Session) (d : Draws) (q : Query) : Sending :=
  ⟨.query, config.url .query, (s.query d.requestSequence q).toJson⟩

/-- The request posts the query that is printed. -/
theorem postsPrinted_querySending (config : Config) (s : Session) (d : Draws) (asJson : Bool) (q : Query)
    (page size : Int64) :
    (querySending config s d (q.forPage config.connection page size)).PostsPrinted config.connection page
      size (bodyText asJson q) := by
  refine ⟨.object q.members, (q.forPage config.connection page size).toJson, hasText_bodyText asJson q,
    Envelope.get?_toJson_body _, fun key => ?_⟩
  rw [Query.get?_toJson_forPage, Json.get?_object_of_nodup q.nodup_keys_members]
  rfl

/-- **A spec that stands for a query is sent** as the query for one page, and nothing after it. -/
theorem queryPage_of_ok (asJson : Bool) (page : Int64) (d : Draws) {q : Query}
    (hcurrent : s.isCurrent c.state = true) (h : spec.HasObjectArgs) (hsize : 0 < size)
    (hquery : spec.query = .ok q) :
    ∃ report : Answer → Report, queryPage asJson spec page size d c s =
      .ask (querySending c.config s d (q.forPage c.config.connection page size))
        fun answer => .done (report answer) := by
  have hprepare := value_prepare_of_ok c s hsize hquery
  -- the binder once the pager is bound
  let b := ((Binder.ofSession c s [] []).bindState pagerId (spec.options size)).1.bindRequest pagerId
    ⟨rowsTarget, spec.options size, .query (q.onConnection c.config.connection)⟩
  let request := (PagedRequest.query (q.onConnection c.config.connection)).setPage size page
  obtain ⟨l, hwaiting⟩ := b.exists_waiting_of_current d.requestSequence hcurrent rowsTarget
    (spec.options size) request (some ⟨pagerId, page, size⟩)
  have hsending : (Client.send b.client.config (request.envelope b.session d.requestSequence)).value =
      querySending c.config s d (q.forPage c.config.connection page size) := by
    rw [Client.value_send]
    rfl
  unfold queryPage
  simp only [h.queryOptions?_eq, Binder.value_register_of_ok _ hprepare,
    Binder.startSelect_bindRequest, Binder.startPlan]
  rw [hwaiting, hsending]
  exact ⟨_, rfl⟩

/-- **A spec that stands for no query** ends the command before anything is sent. -/
theorem queryPage_of_error (asJson : Bool) (page size : Int64) (d : Draws) {e : SpecError}
    (h : spec.HasObjectArgs) (hquery : spec.query = .error e) :
    ∃ report, queryPage asJson spec page size d c s = .done report := by
  obtain ⟨refusal, hprepare⟩ := exists_value_prepare_of_error c s size hquery
  unfold queryPage
  simp only [h.queryOptions?_eq, Binder.value_register_of_error _ hprepare]
  exact ⟨_, rfl⟩

end

end Querying

/-! ## Both together -/

/-- The request of a login. -/
def loginSending (config : Config) (k : Credentials) (d : Draws) : Sending :=
  ⟨.session, config.url .session,
    (Client.loginEnvelope d.loginSequence k.uid k.password d.iv).toJson⟩

/-- After a good answer to its login a command goes on in the session that it opened. -/
theorem run_withSession {config : Config} {k : Credentials} {d : Draws} {serve : Sending → Answer}
    {info : SessionInfo}
    (hlogin : (Client.receive config .session (serve (loginSending config k d))).value.bind
      Client.sessionInfo = .ok info)
    (act : Client → Session → Dialogue Report) :
    (withSession config k d act).run serve =
      (loginSending config k d :: ((act ⟨config, .loggedIn info⟩ (.ofInfo info)).run serve).1,
        ((act ⟨config, .loggedIn info⟩ (.ofInfo info)).run serve).2) := by
  have hopened : (openSession config k d).run serve =
      ([loginSending config k d], .ok (⟨config, .loggedIn info⟩, .ofInfo info)) := by
    have hstart : ((Client.ofConfig config).startLogin d.loginSequence k.uid k.password d.iv).value =
        (⟨config, .loggingIn⟩, loginSending config k d) := by
      simp only [Client.startLogin, Traced.value_bind, Traced.value_pure, Client.value_send]
      rfl
    have hfinish := Client.value_finishLogin_of_ok (c := ⟨config, .loggingIn⟩) hlogin k.uid
    simp only [openSession, hstart, Dialogue.run_bind, Dialogue.request, Dialogue.run, hfinish]
    rfl
  unfold withSession
  rw [Dialogue.run_bind, hopened]
  rfl

/-- **Compiling and querying agree.** Compiling sends nothing. It succeeds exactly if querying, once it
is logged in, posts a query; then that is the one request after the login, and it posts the query that
compiling prints, in either layout, but on the configured connection and for the page that was asked for.
Otherwise nothing is sent after the login. -/
theorem query_agrees (config config' : Config) (asJson asJson' : Bool) (k : Credentials)
    (spec : QuerySpec) (page size : Int64) (d d' : Draws) (serve serve' : Sending → Answer)
    (info : SessionInfo) (hargs : spec.HasObjectArgs) (hsize : 0 < size)
    (hlogin : (Client.receive config .session (serve (loginSending config k d))).value.bind
      Client.sessionInfo = .ok info) :
    let compiled := (run ⟨config', asJson', .compile spec⟩ d').run serve'
    let queried := (run ⟨config, asJson, .query k spec page size⟩ d).run serve
    compiled.1 = [] ∧
    (compiled.2.exitCode = 0 ↔ ∃ sending ∈ queried.1, sending.port = .query) ∧
    (compiled.2.exitCode = 0 → ∃ q : Query,
      compiled.2.printed.output = bodyText asJson' q ++ "\n" ∧
      queried.1 = [loginSending config k d,
        querySending config (.ofInfo info) d (q.forPage config.connection page size)] ∧
      (querySending config (.ofInfo info) d (q.forPage config.connection page size)).PostsPrinted
        config.connection page size (bodyText asJson' q)) ∧
    (compiled.2.exitCode ≠ 0 → queried.1 = [loginSending config k d]) := by
  intro compiled queried
  have hqueried : queried.1 = loginSending config k d ::
      ((queryPage asJson spec page size d ⟨config, .loggedIn info⟩ (.ofInfo info)).run serve).1 :=
    congrArg Prod.fst (run_withSession hlogin _)
  have hcurrent : (Session.ofInfo info).isCurrent (.loggedIn info) = true := beq_self_eq_true info.ssid
  rw [hqueried]
  cases hquery : spec.query with
  | ok q =>
    obtain ⟨hcode, houtput⟩ := compileSpec_of_ok asJson' hargs hquery
    obtain ⟨report, hpage⟩ := queryPage_of_ok ⟨config, .loggedIn info⟩ (.ofInfo info) asJson page d
      hcurrent hargs hsize hquery
    rw [hpage]
    refine ⟨rfl, iff_of_true hcode ⟨_, List.mem_cons_of_mem _ List.mem_cons_self, rfl⟩, ?_, ?_⟩
    · intro _
      exact ⟨q, houtput, rfl, postsPrinted_querySending config (.ofInfo info) d asJson' q page size⟩
    · intro hfailed
      exact absurd hcode hfailed
  | error e =>
    have hcode : compiled.2.exitCode = 1 := compileSpec_of_error asJson' hargs hquery
    have hfailed : compiled.2.exitCode ≠ 0 := by
      rw [hcode]
      exact Nat.one_ne_zero
    obtain ⟨report, hpage⟩ := queryPage_of_error ⟨config, .loggedIn info⟩ (.ofInfo info) asJson
      page size d hargs hquery
    rw [hpage]
    refine ⟨rfl, iff_of_false hfailed ?_, fun hdone => absurd hdone hfailed, fun _ => rfl⟩
    -- the login goes to another port
    rintro ⟨sending, hmem, hport⟩
    rw [List.mem_singleton.1 hmem] at hport
    cases hport

/-- A spec with a variable in a condition. -/
def rolesSpec : QuerySpec :=
  ⟨"a_users:u, j:a_roles:r r.id = \x7b@id\x7d", some "name desc", some "\x7b\"id\":\"7\"\x7d"⟩

/-- The draws of a run. -/
def rolesDraws : Draws := ⟨Crypto.keyOf "pw", ⟨0, by decide⟩, ⟨1, by decide⟩⟩

theorem query_agrees_roles :
    rolesSpec.HasObjectArgs ∧ ∃ q : Query,
      ((run ⟨.standard, true, .compile rolesSpec⟩ rolesDraws).run
        fun _ => .error .emptyResponse).2.printed.output = bodyText true q ++ "\n" ∧
      ((run ⟨.standard, false, .query ⟨"admin", "pw"⟩ rolesSpec 2 20⟩ rolesDraws).run
        fun _ => welcome "ss-01").1 =
        [loginSending .standard ⟨"admin", "pw"⟩ rolesDraws,
          querySending .standard (adminSession "ss-01") rolesDraws
            (q.forPage Config.standard.connection 2 20)] ∧
      (querySending .standard (adminSession "ss-01") rolesDraws
        (q.forPage Config.standard.connection 2 20)).PostsPrinted Config.standard.connection 2 20
          (bodyText true q) := by
  have hargs : rolesSpec.HasObjectArgs := by
    intro args hmem
    cases hmem
    exact ⟨_, by rfl⟩
  have hcode : (compileSpec true rolesSpec).exitCode = 0 := by rfl
  obtain ⟨-, -, hagree, -⟩ := query_agrees .standard .standard false true ⟨"admin", "pw"⟩ rolesSpec 2 20
    rolesDraws rolesDraws (fun _ => welcome "ss-01") (fun _ => .error .emptyResponse)
    (adminSession "ss-01").info hargs (by decide) (receive_welcome "ss-01")
  exact ⟨hargs, hagree hcode⟩

end CommandLine
end SemanticClient
