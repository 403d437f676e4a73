import SemanticClient.Session.Call

/-!
# Runs of a client

A client and the sessions that it handed out are asked for one thing after another. A call that waits for
its answer stays open while other calls start and end, and answers arrive in any order. Sessions are kept
by whoever was given them, also beyond their end: a call may go through any session that was ever opened.

A history is a list of happenings, the latest first.

* `Step.client_eq`: a step leaves the client as it is, but for the login state that the happening sets.
* `Run.state_eq`: the login state is the one that was set last.
* `Run.state_eq_loggedIn_iff`: a session is the client's exactly as long as it is open (`Open`).
* `Run.login`: after any history, a login with a good answer opens a session.
-/

namespace SemanticClient

/-! ## Worlds and their steps -/

/-- A client and what its users hold. -/
structure World where
  client : Client
  /-- The calls whose answers are outstanding. -/
  waiting : List Call
  /-- The infos of all the sessions that were handed out. -/
  issued : List SessionInfo

/-- The world of a client before anything happens. -/
def World.init (config : Config) : World := ⟨.ofConfig config, [], []⟩

/-- What may happen to a call. -/
inductive Happening where
  /-- Its request is sent. -/
  | sent (call : Call) (sending : Sending)
  /-- It ends at once, with nothing sent. -/
  | refused (call : Call) (ending : Ending)
  /-- The answer to its request arrives and ends it. -/
  | answered (call : Call) (answer : Answer) (ending : Ending)

/-- The session that a call goes through. -/
def Call.session? : Call → Option Session
  | .login _ _ _ | .post _ | .commit _ _ => none
  | .sessionPost s _ | .sessionCommit s _ _ | .logout s => some s

/-- The info of the session that an ending hands out. -/
def Ending.opened? : Ending → Option SessionInfo
  | .login (.ok s) => some s.info
  | _ => none

/-- One thing happens. -/
inductive Step : World → Happening → World → Prop
  | send {w : World} {c : Client} {call : Call} {sequence : Fin 1001} {sending : Sending}
      (hissued : ∀ s ∈ call.session?, s.info ∈ w.issued)
      (hstart : (call.start sequence w.client).value = (c, .waiting sending)) :
      Step w (.sent call sending) ⟨c, call :: w.waiting, w.issued⟩
  | refuse {w : World} {c : Client} {call : Call} {sequence : Fin 1001} {ending : Ending}
      (hissued : ∀ s ∈ call.session?, s.info ∈ w.issued)
      (hstart : (call.start sequence w.client).value = (c, .ended ending)) :
      Step w (.refused call ending) ⟨c, w.waiting, w.issued⟩
  | answer {w : World} {c : Client} {call : Call} {before after : List Call} {answer : Answer}
      {ending : Ending} (hwaiting : w.waiting = before ++ call :: after)
      (hfinish : (call.finish w.client answer).value = (c, ending)) :
      Step w (.answered call answer ending) ⟨c, before ++ after, ending.opened?.toList ++ w.issued⟩

/-- The worlds that a history leads to. -/
inductive Run (config : Config) : List Happening → World → Prop
  | init : Run config [] (.init config)
  | step {history : List Happening} {w w' : World} {h : Happening} (hrun : Run config history w)
      (hstep : Step w h w') : Run config (h :: history) w'

/-! ## The login state -/

/-- The login state that a happening sets, if it sets one: a login as it starts and as it ends, and a
logout as it ends. -/
def Happening.sets? : Happening → Option LoginState
  | .sent (.login _ _ _) _ => some .loggingIn
  | .answered (.login _ _ _) _ (.login (.ok s)) => some (.loggedIn s.info)
  | .answered (.login _ _ _) _ _ => some .loggedOut
  | .refused (.logout _) _ | .answered (.logout _) _ _ => some .loggedOut
  | _ => none

/-- The client after a happening. -/
def Happening.apply (h : Happening) (c : Client) : Client :=
  { c with state := h.sets?.getD c.state }

/-! ## What calls do -/

/-- What is sent does not depend on what is logged. -/
theorem Client.value_send (c : Config) (e : Envelope) :
    (send c e).value = ⟨e.port, c.url e.port, e.toJson⟩ := by
  unfold send
  cases c.verbose with
  | true => rfl
  | false => rfl

/-- A login logs in whom the answer names. -/
theorem Client.value_finishLogin_of_ok {c : Client} {answer : Answer} {info : SessionInfo}
    (h : (receive c.config .session answer).value.bind sessionInfo = .ok info) (uid : String) :
    (c.finishLogin uid answer).value = ({ c with state := .loggedIn info }, .ok info) := by
  simp only [finishLogin, Traced.value_bind, h]
  rfl

/-- What a login ends with, whoever is logged in then. -/
theorem Client.value_finishLogin_snd (c : Client) (uid : String) (answer : Answer) :
    (c.finishLogin uid answer).value.2 = (receive c.config .session answer).value.bind sessionInfo := by
  simp only [finishLogin, Traced.value_bind]
  cases (receive c.config .session answer).value.bind sessionInfo with
  | ok info => rfl
  | error e => rfl

/-- **A session sends as long as it is the client's**, and refuses otherwise. -/
theorem Session.value_start (s : Session) (c : Client) (e : Envelope) :
    (s.start c e).value =
      if s.isCurrent c.state then .ok (Client.send c.config e).value
      else .error (.ofClient .notAuthenticated) := by
  unfold Session.start
  split
  · rfl
  · rfl

namespace Call

variable (sequence : Fin 1001) (c : Client) (s : Session) (e : Envelope) (k : Callbacks)

theorem value_start_login (uid password : String) (iv : Crypto.Block) :
    ((login uid password iv).start sequence c).value =
      ({ c with state := .loggingIn },
        .waiting (Client.send c.config (Client.loginEnvelope sequence uid password iv)).value) := rfl

theorem value_start_post :
    ((post e).start sequence c).value = (c, .waiting (Client.send c.config e).value) := rfl

theorem value_start_commit :
    ((commit e k).start sequence c).value = (c, .waiting (Client.send c.config e).value) := by
  simp only [start]
  cases k.missing with
  | true => rfl
  | false => rfl

theorem value_start_sessionPost :
    ((sessionPost s e).start sequence c).value =
      if s.isCurrent c.state then (c, .waiting (Client.send c.config e).value)
      else (c, .ended (.dispatch (.error (.ofClient .notAuthenticated)))) := by
  simp only [start, Traced.value_bind, Session.value_start]
  cases s.isCurrent c.state with
  | true => rfl
  | false => rfl

theorem value_start_sessionCommit :
    ((sessionCommit s e k).start sequence c).value =
      if s.isCurrent c.state then (c, .waiting (Client.send c.config e).value)
      else (c, .ended (.commit (k.run e.port (.error (.ofClient .notAuthenticated))).value)) := by
  have h := s.value_start c e
  simp only [start]
  cases hs : s.isCurrent c.state with
  | true =>
    rw [hs, if_pos rfl] at h
    cases k.missing with
    | true => simp only [if_true, Traced.value_bind, h]; rfl
    | false => simp only [if_true, Bool.false_eq_true, if_false, Traced.value_bind, h]; rfl
  | false =>
    rw [hs, if_neg Bool.false_ne_true] at h
    simp only [Bool.false_eq_true, if_false, Traced.value_bind, h]
    rfl

/-- A logout that is refused still leaves nobody logged in. -/
theorem value_start_logout :
    ((logout s).start sequence c).value =
      if s.isCurrent c.state then (c, .waiting (Client.send c.config (s.logout sequence)).value)
      else ({ c with state := .loggedOut },
        .ended (.dispatch (.error (.ofClient .notAuthenticated)))) := by
  simp only [start, Traced.value_bind, Session.value_start]
  cases s.isCurrent c.state with
  | true => rfl
  | false => rfl

variable {sequence c} {c' : Client} {call : Call}

/-- **What the start of a call does to the client** when its request is sent. -/
theorem eq_of_start_waiting {sending : Sending}
    (h : (call.start sequence c).value = (c', .waiting sending)) :
    c' = (Happening.sent call sending).apply c := by
  cases call with
  | login uid password iv =>
    rw [value_start_login] at h
    exact (congrArg Prod.fst h).symm
  | post e =>
    rw [value_start_post] at h
    exact (congrArg Prod.fst h).symm
  | commit e k =>
    rw [value_start_commit] at h
    exact (congrArg Prod.fst h).symm
  | sessionPost s e =>
    rw [value_start_sessionPost] at h
    split at h
    · exact (congrArg Prod.fst h).symm
    · cases h
  | sessionCommit s e k =>
    rw [value_start_sessionCommit] at h
    split at h
    · exact (congrArg Prod.fst h).symm
    · cases h
  | logout s =>
    rw [value_start_logout] at h
    split at h
    · exact (congrArg Prod.fst h).symm
    · cases h

/-- What it does when the call is refused. Only a call of a session can be. -/
theorem eq_of_start_ended {ending : Ending}
    (h : (call.start sequence c).value = (c', .ended ending)) :
    c' = (Happening.refused call ending).apply c ∧
      ∃ s ∈ call.session?, s.isCurrent c.state = false := by
  cases call with
  | login uid password iv =>
    rw [value_start_login] at h
    cases h
  | post e =>
    rw [value_start_post] at h
    cases h
  | commit e k =>
    rw [value_start_commit] at h
    cases h
  | sessionPost s e =>
    rw [value_start_sessionPost] at h
    split at h
    · cases h
    · rename_i hs
      exact ⟨(congrArg Prod.fst h).symm, s, rfl, Bool.not_eq_true _ ▸ hs⟩
  | sessionCommit s e k =>
    rw [value_start_sessionCommit] at h
    split at h
    · cases h
    · rename_i hs
      exact ⟨(congrArg Prod.fst h).symm, s, rfl, Bool.not_eq_true _ ▸ hs⟩
  | logout s =>
    rw [value_start_logout] at h
    split at h
    · cases h
    · rename_i hs
      exact ⟨(congrArg Prod.fst h).symm, s, rfl, Bool.not_eq_true _ ▸ hs⟩

/-- What the answer to a call does. -/
theorem eq_of_finish {answer : Answer} {ending : Ending}
    (h : (call.finish c answer).value = (c', ending)) :
    c' = (Happening.answered call answer ending).apply c := by
  cases call with
  | login uid password iv =>
    simp only [finish, Client.finishLogin, Traced.value_bind] at h
    split at h
    · cases h
      rfl
    · cases h
      rfl
  | post e => exact (congrArg Prod.fst h).symm
  | commit e k => exact (congrArg Prod.fst h).symm
  | sessionPost s e => exact (congrArg Prod.fst h).symm
  | sessionCommit s e k => exact (congrArg Prod.fst h).symm
  | logout s => exact (congrArg Prod.fst h).symm

end Call

/-- A login opens the session of a good answer. -/
theorem Call.finish_login {c : Client} {answer : Answer} {info : SessionInfo}
    (hgood : (Client.receive c.config .session answer).value.bind Client.sessionInfo = .ok info)
    (uid password : String) (iv : Crypto.Block) :
    ((login uid password iv).finish c answer).value =
      ({ c with state := .loggedIn info }, .login (.ok (.ofInfo info))) := by
  simp only [finish, Traced.value_bind, Client.value_finishLogin_of_ok hgood]
  rfl

theorem Call.value_finish_login_snd (c : Client) (uid password : String) (iv : Crypto.Block)
    (answer : Answer) :
    ((login uid password iv).finish c answer).value.2 =
      .login (((Client.receive c.config .session answer).value.bind Client.sessionInfo).map
        Session.ofInfo) := by
  rw [← c.value_finishLogin_snd uid answer]
  rfl

theorem Call.value_finish_logout (c : Client) (s : Session) (answer : Answer) :
    ((logout s).finish c answer).value =
      ({ c with state := .loggedOut }, .dispatch (Client.receive c.config .session answer).value) := rfl

/-! ## Steps and runs -/

/-- **A step leaves the client as it is**, but for the login state that the happening sets. -/
theorem Step.client_eq {w w' : World} {h : Happening} (hstep : Step w h w') :
    w'.client = h.apply w.client := by
  cases hstep with
  | send hissued hstart => exact Call.eq_of_start_waiting hstart
  | refuse hissued hstart => exact (Call.eq_of_start_ended hstart).1
  | answer hwaiting hfinish => exact Call.eq_of_finish hfinish

namespace Run

variable {config : Config} {history : List Happening} {w : World}

/-- The login state is the one that was set last. -/
theorem client_eq (hrun : Run config history w) :
    w.client = ⟨config, (history.findSome? Happening.sets?).getD .loggedOut⟩ := by
  induction hrun with
  | init => rfl
  | @step history w w' h _ hstep ih =>
    -- the latest happening decides, or else the history before it
    rw [hstep.client_eq, ih, Happening.apply, List.findSome?_cons]
    cases h.sets? with
    | none => rfl
    | some state => rfl

/-- **After any history a login with a good answer opens a session.** -/
theorem login (hrun : Run config history w) {answer : Answer} {info : SessionInfo}
    (hgood : (Client.receive config .session answer).value.bind Client.sessionInfo = .ok info)
    (uid password : String) (iv : Crypto.Block) :
    ∃ sending, Run config (.answered (.login uid password iv) answer (.login (.ok (.ofInfo info))) ::
      .sent (.login uid password iv) sending :: history)
      ⟨⟨config, .loggedIn info⟩, w.waiting, info :: w.issued⟩ := by
  have hconfig : w.client.config = config := by rw [hrun.client_eq]
  have hstart := Call.value_start_login 0 w.client uid password iv
  have hsend := hrun.step (Step.send (by simp [Call.session?]) hstart)
  rw [← hconfig] at hgood
  have hfinish := Call.finish_login (c := { w.client with state := .loggingIn }) hgood uid password iv
  have hanswer := hsend.step (Step.answer (List.nil_append _).symm hfinish)
  rw [hconfig] at hanswer
  exact ⟨_, hanswer⟩

end Run

/-- The session is open: a login was answered with it, and since then no login has started or ended and
no logout has ended. -/
def Open (history : List Happening) (info : SessionInfo) : Prop :=
  ∃ newer opening older, history = newer ++ opening :: older ∧
    opening.sets? = some (.loggedIn info) ∧ ∀ h ∈ newer, h.sets? = none

/-- **A session is the client's exactly as long as it is open.** -/
theorem Run.state_eq_loggedIn_iff {config : Config} {history : List Happening} {w : World}
    (hrun : Run config history w) (info : SessionInfo) :
    w.client.state = .loggedIn info ↔ Open history info := by
  have hiff : history.findSome? Happening.sets? = some (.loggedIn info) ↔ Open history info :=
    List.findSome?_eq_some_iff
  rw [hrun.client_eq, ← hiff]
  cases history.findSome? Happening.sets? with
  | none =>
    constructor
    · intro h
      cases h
    · intro h
      cases h
  | some state => exact ⟨congrArg some, Option.some.inj⟩

end SemanticClient
