import SemanticClient.Proofs.Request.Wire
import SemanticClient.Proofs.Session.Failure
import SemanticClient.Proofs.Session.Logout

/-!
# What sessions send

A session is kept by whoever was given it, also beyond its end. Each call through it asks first whether
the client is still logged in under its id. If so, one request is sent, at the address of its port; if
not, none is, and the call fails at once. What a session writes itself has its two ids at the head.

* `Config.UrlOf.port_eq`: an address belongs to one port.
* `Call.value_start_of_heldBy`, `Call.value_start_of_not_heldBy`: how any call through a session starts.
* `Session.Builds.header_eq`: whatever a session writes, its head is that of the session.
* `Run.sendsWhileHeld`: what calls through a session send, at any time of any run.
-/

namespace SemanticClient

/-! ## Addresses -/

/-- The address of a port: its path below the service root, and behind it the connection if there is one. -/
inductive Config.UrlOf (c : Config) (p : Port) : String → Prop
  | plain (h : c.connection = none) : UrlOf c p (c.root ++ "/" ++ p.path)
  | onConnection {connection : String} (h : c.connection = some connection) :
    UrlOf c p (c.root ++ "/" ++ p.path ++ "?conn=" ++ connection)

theorem Config.urlOf_iff {c : Config} {p : Port} {url : String} : c.UrlOf p url ↔ url = c.url p := by
  unfold Config.url
  constructor
  · intro h
    cases h with
    | plain h => rw [h, String.append_empty]
    | onConnection h => rw [h, String.append_assoc]
  · rintro rfl
    cases hconnection : c.connection with
    | none =>
      rw [String.append_empty]
      exact .plain hconnection
    | some connection =>
      show c.UrlOf p (c.root ++ "/" ++ p.path ++ ("?conn=" ++ connection))
      rw [← String.append_assoc]
      exact .onConnection hconnection

/-- No two ports have the same path. -/
theorem Port.path_injective {p q : Port} (h : p.path = q.path) : p = q := by
  have hp := p.ofPath?_path
  rw [h, q.ofPath?_path] at hp
  exact (Except.ok.inj hp).symm

/-- **An address belongs to one port.** -/
theorem Config.UrlOf.port_eq {c : Config} {p q : Port} {url : String} (hp : c.UrlOf p url)
    (hq : c.UrlOf q url) : p = q := by
  obtain rfl := urlOf_iff.1 hp
  have hurl := urlOf_iff.1 hq
  exact Port.path_injective ((String.append_right_inj _).1 ((String.append_left_inj _).1 hurl))

/-! ## Requests -/

/-- The request that a happening hands to the transport. No answer brings one with it. -/
def Happening.request? : Happening → Option Sending
  | .sent _ sending => some sending
  | .refused _ _ | .answered _ _ _ => none

/-- The requests of a history, the latest first. -/
def requests (history : List Happening) : List Sending := history.filterMap Happening.request?

/-- The happening starts the call: its request is sent, or it is refused. -/
def Happening.Starts (call : Call) : Happening → Prop
  | .sent c _ | .refused c _ => c = call
  | .answered _ _ _ => False

/-- The envelope that a call through a session posts. A logout writes its own. -/
def Call.message? (sequence : Fin 1001) : Call → Option Envelope
  | .login _ _ _ | .post _ | .commit _ _ => none
  | .sessionPost _ e | .sessionCommit _ e _ => some e
  | .logout s => some (s.logout sequence)

/-- How a call fails: the failure is returned, or handed to the callback for failures if there is one. -/
def Call.failure (e : DispatchError) : Call → Ending
  | .login _ _ _ => .login (.error e)
  | .post _ | .sessionPost _ _ | .logout _ => .dispatch (.error e)
  | .commit _ k | .sessionCommit _ _ k => .commit (if k.onError then some (.error e) else none)

/-- The client is logged in under the id of the session. -/
def Session.HeldBy (s : Session) (c : Client) : Prop :=
  ∃ info, c.state = .loggedIn info ∧ info.ssid = s.info.ssid

theorem Session.isCurrent_eq_true_iff (s : Session) (c : Client) :
    s.isCurrent c.state = true ↔ s.HeldBy c := by
  unfold HeldBy
  cases c.state with
  | loggedIn info =>
    rw [s.isCurrent_loggedIn_iff info]
    constructor
    · intro h
      exact ⟨info, rfl, h⟩
    · rintro ⟨_, ⟨⟩, h⟩
      exact h
  | loggedOut | loggingIn =>
    constructor
    · intro h
      cases h
    · rintro ⟨_, ⟨⟩, -⟩

namespace Call

variable {call : Call} {s : Session} {c : Client}

/-- **While the client is logged in under its id**, a session posts the envelope of the call and leaves the
client alone. -/
theorem value_start_of_heldBy (hs : call.session? = some s) (hheld : s.HeldBy c)
    (sequence : Fin 1001) :
    ∃ e, call.message? sequence = some e ∧
      (call.start sequence c).value = (c, .waiting ⟨e.port, c.config.url e.port, e.toJson⟩) := by
  have hcurrent := (s.isCurrent_eq_true_iff c).2 hheld
  cases call with
  | login uid password iv => cases hs
  | post e => cases hs
  | commit e k => cases hs
  | sessionPost t e =>
    obtain rfl := Option.some.inj hs
    refine ⟨e, rfl, ?_⟩
    rw [value_start_sessionPost, if_pos hcurrent, Client.value_send]
  | sessionCommit t e k =>
    obtain rfl := Option.some.inj hs
    refine ⟨e, rfl, ?_⟩
    rw [value_start_sessionCommit, if_pos hcurrent, Client.value_send]
  | logout t =>
    obtain rfl := Option.some.inj hs
    refine ⟨_, rfl, ?_⟩
    rw [value_start_logout, if_pos hcurrent, Client.value_send]

/-- **Otherwise the call fails at once.** -/
theorem value_start_of_not_heldBy (hs : call.session? = some s) (hover : ¬ s.HeldBy c)
    (sequence : Fin 1001) :
    (call.start sequence c).value.2 = .ended (call.failure (.ofClient .notAuthenticated)) := by
  have hcurrent : ¬ s.isCurrent c.state = true := fun h => hover ((s.isCurrent_eq_true_iff c).1 h)
  cases call with
  | login uid password iv => cases hs
  | post e => cases hs
  | commit e k => cases hs
  | sessionPost t e =>
    obtain rfl := Option.some.inj hs
    rw [value_start_sessionPost, if_neg hcurrent]
    rfl
  | sessionCommit t e k =>
    obtain rfl := Option.some.inj hs
    rw [value_start_sessionCommit, if_neg hcurrent, Callbacks.value_run_error]
    rfl
  | logout t =>
    obtain rfl := Option.some.inj hs
    rw [value_start_logout, if_neg hcurrent]
    rfl

end Call

/-! ## Heads -/

/-- The envelope was written by the session; updates to run afterwards may have been added to it. -/
inductive Session.Builds (s : Session) : Envelope → Prop
  | envelope (sequence port body) : Builds s (s.envelope sequence port body)
  | query (sequence q) : Builds s (s.query sequence q)
  | update (sequence u) : Builds s (s.update sequence u)
  | insert (sequence connection table values) : Builds s (s.insert sequence connection table values)
  | delete (sequence connection table key) : Builds s (s.delete sequence connection table key)
  | dataset (sequence d) : Builds s (s.dataset sequence d)
  | reTree (sequence connection table semantics root) :
      Builds s (s.reTree sequence connection table semantics root).value
  | reForest (sequence connection table semantics) :
      Builds s (s.reForest sequence connection table semantics).value
  | heartbeat (sequence) : Builds s (s.heartbeat sequence)
  | logout (sequence) : Builds s (s.logout sequence)
  | addPost {e : Envelope} (h : Builds s e) (post : Update) : Builds s (e.addPost post).value.1

theorem Envelope.header_addPost (e : Envelope) (post : Update) :
    (e.addPost post).value.1.header = e.header := by
  unfold addPost
  split
  · rfl
  · rfl

theorem Session.Builds.header_eq {s : Session} {e : Envelope} (h : s.Builds e) : e.header = s.header := by
  induction h with
  | addPost h post ih => rw [Envelope.header_addPost, ih]
  | _ => rfl

/-- The head of the envelope has these two ids, as it is sent. -/
def Envelope.HeadedBy (e : Envelope) (info : SessionInfo) : Prop :=
  ∃ header, e.toJson.get? "header" = some header ∧
    header.get? "ssid" = some (.string info.ssid) ∧ header.get? "uid" = some (.string info.uid)

/-- **What a session writes has its ids at the head**, whatever the user is doing. -/
theorem Session.Builds.headedBy {s : Session} {e : Envelope} (h : s.Builds e) : e.HeadedBy s.info := by
  have hheader : e.toJson.get? "header" = some s.header.toJson := by
    rw [← h.header_eq]
    simp [Envelope.toJson, Envelope.members]
  refine ⟨_, hheader, ?_, ?_⟩
  · simp [Session.header, Header.ofSession, Header.toJson, Header.members]
  · simp [Session.header, Header.ofSession, Header.toJson, Header.members]

/-! ## Runs -/

/-- What a call through a session sends, given what was sent before. -/
structure SendsWhileHeld (config : Config) (history : List Happening) (w : World) (call : Call)
    (s : Session) : Prop where
  /-- The call can be made. -/
  possible : ∃ h w', Step w h w' ∧ h.Starts call
  /-- Through a session that is over nothing is sent, and the call fails for that reason. -/
  refused : ¬ s.HeldBy w.client → ∀ h w', Step w h w' → h.Starts call →
    requests (h :: history) = requests history ∧
      h = .refused call (call.failure (.ofClient .notAuthenticated))
  /-- Through the session that the client is logged in under one request is sent: the envelope of the call,
  at the address of its port and of no other. If the session wrote it, it has the session's ids at its
  head. -/
  held : s.HeldBy w.client → ∀ h w', Step w h w' → h.Starts call →
    ∃ e sequence url, call.message? sequence = some e ∧
      requests (h :: history) = ⟨e.port, url, e.toJson⟩ :: requests history ∧
      config.UrlOf e.port url ∧ (∀ p, config.UrlOf p url → p = e.port) ∧
      (s.Builds e → e.HeadedBy s.info)

variable {config : Config} {history : List Happening} {w : World} {call : Call} {s : Session}

/-- What happens as a call starts. -/
def Started.happening (call : Call) : Started → Happening
  | .ended ending => .refused call ending
  | .waiting sending => .sent call sending

theorem Step.exists_start {h : Happening} {w' : World} (hstep : Step w h w') (hstarts : h.Starts call) :
    ∃ sequence, h = ((call.start sequence w.client).value.2).happening call := by
  cases hstep with
  | @send _ call sequence _ _ hstart =>
    obtain rfl := hstarts
    exact ⟨sequence, by rw [hstart]; rfl⟩
  | @refuse _ call sequence _ _ hstart =>
    obtain rfl := hstarts
    exact ⟨sequence, by rw [hstart]; rfl⟩
  | answer hwaiting hfinish => cases hstarts

/-- Any call may be made at any time through a session that was handed out. -/
theorem World.exists_starts (hissued : ∀ s ∈ call.session?, s.info ∈ w.issued) :
    ∃ h w', Step w h w' ∧ h.Starts call := by
  obtain ⟨⟨c, started⟩, hstart⟩ : ∃ r, (call.start 0 w.client).value = r := ⟨_, rfl⟩
  cases started with
  | ended ending => exact ⟨_, _, Step.refuse hissued hstart, rfl⟩
  | waiting sending => exact ⟨_, _, Step.send hissued hstart, rfl⟩

/-- **What calls through a session send**, at any time of any run: one request as long as the client is
logged in under its id, and nothing otherwise. -/
theorem Run.sendsWhileHeld (hrun : Run config history w) (hs : call.session? = some s)
    (hissued : s.info ∈ w.issued) : SendsWhileHeld config history w call s where
  possible := by
    refine World.exists_starts ?_
    rw [hs]
    rintro t ⟨⟩
    exact hissued
  refused hover h w' hstep hstarts := by
    obtain ⟨sequence, rfl⟩ := hstep.exists_start hstarts
    rw [Call.value_start_of_not_heldBy hs hover]
    exact ⟨rfl, rfl⟩
  held hheld h w' hstep hstarts := by
    obtain ⟨sequence, rfl⟩ := hstep.exists_start hstarts
    obtain ⟨e, hmessage, hvalue⟩ := Call.value_start_of_heldBy hs hheld sequence
    have hconfig : w.client.config = config := by rw [hrun.client_eq]
    rw [hvalue, hconfig]
    have hurl : config.UrlOf e.port (config.url e.port) := Config.urlOf_iff.2 rfl
    exact ⟨e, sequence, _, hmessage, rfl, hurl, fun p hp => hp.port_eq hurl,
      fun hbuilds => hbuilds.headedBy⟩

/-- Of two sessions the newer one is the client's and the older one is over: a sign of life of the one is
sent, the logout of the other is not. -/
theorem sendsWhileHeld_replaced :
    ∃ history, Run .standard history replaced ∧
      SendsWhileHeld .standard history replaced (.heartbeat (adminSession "ss-02") 0)
        (adminSession "ss-02") ∧ (adminSession "ss-02").HeldBy replaced.client ∧
      SendsWhileHeld .standard history replaced (.logout (adminSession "ss-01"))
        (adminSession "ss-01") ∧ ¬ (adminSession "ss-01").HeldBy replaced.client := by
  obtain ⟨history, hrun⟩ := run_replaced
  have hnewer : SendsWhileHeld .standard history replaced (.heartbeat (adminSession "ss-02") 0)
      (adminSession "ss-02") := hrun.sendsWhileHeld rfl (by simp [replaced])
  have holder : SendsWhileHeld .standard history replaced (.logout (adminSession "ss-01"))
      (adminSession "ss-01") := hrun.sendsWhileHeld rfl (by simp [replaced])
  refine ⟨history, hrun, hnewer, ⟨_, rfl, rfl⟩, holder, ?_⟩
  rintro ⟨_, ⟨⟩, hssid⟩
  exact absurd hssid (by decide)

end SemanticClient
