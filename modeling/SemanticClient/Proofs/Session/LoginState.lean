import SemanticClient.Proofs.Session.Failure
import SemanticClient.Proofs.Session.Logout

/-!
# What the login state rests on

Logins overlap: each writes the login state as it starts and once more as it ends, and others write it in
between. Still the state never says more than what has happened. Somebody is logged in only if the answer
to a login named them, and a login is said to be on its way only while one is outstanding.

* `Client.login_eq_ok_iff`: which answers open a session.
* `Step.client_eq_of_posts`: posts, commits and signs of life leave the state alone.
* `Step.loginEnds`: what a login ends with, and the state that it leaves.
* `Run.loginState_justified`: the login state at any time of any run.
-/

namespace SemanticClient

/-! ## Answers that open sessions -/

/-- The info stands in the members of an object: the two ids as texts, and all the others as they are. -/
structure SessionInfo.ReadFrom (info : SessionInfo) (members : Keyed Json) : Prop where
  ssid : Keyed.get? members "ssid" = some (.string info.ssid)
  uid : Keyed.get? members "uid" = some (.string info.uid)
  extra : info.extra = members.filter fun m => m.1 != "ssid" && m.1 != "uid"

/-- The answer is a good response whose message is an object with the info. -/
def Answer.Opens (answer : Answer) (info : SessionInfo) : Prop :=
  ∃ r members, answer.Gives r ∧ r.code = .ok ∧ r.message = .object members ∧ info.ReadFrom members

theorem SessionInfo.ofJson?_eq_some_iff (message : Json) (info : SessionInfo) :
    ofJson? message = some info ↔ ∃ members, message = .object members ∧ info.ReadFrom members := by
  constructor
  · intro h
    cases message with
    | object members =>
      obtain ⟨v, hv, h⟩ := Option.bind_eq_some_iff.1 h
      obtain ⟨ssid, hssid, h⟩ := Option.bind_eq_some_iff.1 h
      obtain ⟨u, hu, h⟩ := Option.bind_eq_some_iff.1 h
      obtain ⟨uid, huid, h⟩ := Option.bind_eq_some_iff.1 h
      have hv' := (Json.string?_eq_some_iff v ssid).1 hssid
      have hu' := (Json.string?_eq_some_iff u uid).1 huid
      obtain rfl := Option.some.inj h
      exact ⟨members, rfl, hv' ▸ hv, hu' ▸ hu, rfl⟩
    | _ => cases h
  · rintro ⟨members, rfl, hssid, huid, hextra⟩
    obtain ⟨ssid, uid, extra⟩ := info
    obtain rfl : extra = _ := hextra
    simp only [ofJson?, hssid, huid, Json.string?, Option.bind_eq_bind, Option.bind_some]
    rfl

/-- **Which answers open a session**, and for whom. -/
theorem Client.login_eq_ok_iff (c : Config) (p : Port) (answer : Answer) (info : SessionInfo) :
    (receive c p answer).value.bind sessionInfo = .ok info ↔ answer.Opens info := by
  constructor
  · intro h
    cases houtcome : (receive c p answer).value with
    | error e =>
      rw [houtcome] at h
      cases h
    | ok r =>
      obtain ⟨hgives, hok⟩ := ((classifies_receive c p answer).good_iff r).1 houtcome
      rw [houtcome] at h
      have hread : SessionInfo.ofJson? r.message = some info := by
        change sessionInfo r = .ok info at h
        unfold sessionInfo at h
        split at h
        · rename_i hread
          rw [hread, Except.ok.inj h]
        · cases h
      obtain ⟨members, hmessage, hinfo⟩ := (SessionInfo.ofJson?_eq_some_iff _ _).1 hread
      exact ⟨r, members, hgives, hok, hmessage, hinfo⟩
  · rintro ⟨r, members, hgives, hok, hmessage, hinfo⟩
    have hread := (SessionInfo.ofJson?_eq_some_iff r.message info).2 ⟨members, hmessage, hinfo⟩
    rw [value_receive_of_gives c p hgives, if_pos hok]
    change sessionInfo r = .ok info
    rw [sessionInfo, hread]

/-- What a login ends with, and the login state that it leaves. -/
inductive LoginEnds (answer : Answer) : Ending → LoginState → Prop
  | opened {info : SessionInfo} (h : answer.Opens info) :
      LoginEnds answer (.login (.ok (.ofInfo info))) (.loggedIn info)
  | failed {e : DispatchError} (h : ∀ info, ¬ answer.Opens info) :
      LoginEnds answer (.login (.error e)) .loggedOut

theorem Call.loginEnds_finish (c : Client) (uid password : String) (iv : Crypto.Block)
    (answer : Answer) :
    LoginEnds answer ((login uid password iv).finish c answer).value.2
      ((login uid password iv).finish c answer).value.1.state := by
  cases hresult : (Client.receive c.config .session answer).value.bind Client.sessionInfo with
  | ok info =>
    rw [Call.finish_login hresult]
    exact .opened ((Client.login_eq_ok_iff c.config .session answer info).1 hresult)
  | error e =>
    have hvalue : ((login uid password iv).finish c answer).value =
        ({ c with state := .loggedOut }, .login (.error e)) := by
      simp only [finish, Client.finishLogin, Traced.value_bind, hresult]
      rfl
    rw [hvalue]
    refine .failed fun info hopens => ?_
    have hok := (Client.login_eq_ok_iff c.config .session answer info).2 hopens
    rw [hresult] at hok
    cases hok

/-! ## Steps -/

/-- The call of a happening. -/
def Happening.call : Happening → Call
  | .sent call _ | .refused call _ | .answered call _ _ => call

/-- The call is a post or a commit, through a session or not. A sign of life is a post of a session. -/
def Call.Posts : Call → Prop
  | .post _ | .commit _ _ | .sessionPost _ _ | .sessionCommit _ _ _ => True
  | .login _ _ _ | .logout _ => False

section Steps

variable {config : Config} {history : List Happening} {w w' : World} {h : Happening}

/-- **Posts, commits and signs of life leave the client alone**, however they end. -/
theorem Step.client_eq_of_posts (hstep : Step w h w') (hposts : h.call.Posts) : w'.client = w.client := by
  have hsets : h.sets? = none := by
    cases h with
    | sent call sending | refused call ending | answered call answer ending =>
      cases call with
      | login uid password iv => cases hposts
      | logout s => cases hposts
      | _ => rfl
  rw [hstep.client_eq, Happening.apply, hsets]
  rfl

/-- **What a login ends with**, whatever else is outstanding then. -/
theorem Step.loginEnds {call : Call} {answer : Answer} {ending : Ending}
    (hstep : Step w (.answered call answer ending) w') (hlogin : call.IsLogin) :
    LoginEnds answer ending w'.client.state := by
  obtain ⟨uid, password, iv, rfl⟩ := hlogin
  cases hstep with
  | answer hwaiting hfinish =>
    have hends := Call.loginEnds_finish w.client uid password iv answer
    rw [hfinish] at hends
    exact hends

/-- Any answer may come to a login, at once if nothing else happens. -/
theorem Run.answer_login (hrun : Run config history w) {call : Call} (hlogin : call.IsLogin)
    (answer : Answer) :
    ∃ sending ending w', Run config (.answered call answer ending :: .sent call sending :: history) w' ∧
      LoginEnds answer ending w'.client.state := by
  obtain ⟨uid, password, iv, rfl⟩ := hlogin
  have hstart := Call.value_start_login 0 w.client uid password iv
  have hsent := hrun.step (Step.send (by simp [Call.session?]) hstart)
  have hfinish := Prod.eta ((Call.login uid password iv).finish
    { w.client with state := .loggingIn } answer).value
  have hanswer := Step.answer
    (w := ⟨{ w.client with state := .loggingIn }, .login uid password iv :: w.waiting, w.issued⟩)
    (List.nil_append _).symm hfinish.symm
  exact ⟨_, _, _, hsent.step hanswer, hanswer.loginEnds ⟨uid, password, iv, rfl⟩⟩

/-- The end of a login always sets the state. -/
theorem Happening.sets?_answered_login {call : Call} (hlogin : call.IsLogin) (answer : Answer)
    (ending : Ending) :
    (∃ s, ending = .login (.ok s) ∧
      (Happening.answered call answer ending).sets? = some (.loggedIn s.info)) ∨
    (Happening.answered call answer ending).sets? = some .loggedOut := by
  obtain ⟨uid, password, iv, rfl⟩ := hlogin
  cases ending with
  | login result =>
    cases result with
    | ok s => exact .inl ⟨s, rfl, rfl⟩
    | error e => exact .inr rfl
  | _ => exact .inr rfl

theorem Happening.sets?_eq_loggedIn {info : SessionInfo} (hsets : h.sets? = some (.loggedIn info)) :
    ∃ call answer s, h = .answered call answer (.login (.ok s)) ∧ call.IsLogin ∧ s.info = info := by
  cases h with
  | sent call sending => cases call <;> cases hsets
  | refused call ending => cases call <;> cases hsets
  | answered call answer ending =>
    cases call with
    | login uid password iv =>
      have hlogin : (Call.login uid password iv).IsLogin := ⟨uid, password, iv, rfl⟩
      rcases sets?_answered_login hlogin answer ending with ⟨s, rfl, hopened⟩ | hclosed
      · cases hopened.symm.trans hsets
        exact ⟨_, answer, s, rfl, hlogin, rfl⟩
      · cases hclosed.symm.trans hsets
    | _ => cases hsets

theorem Happening.sets?_eq_loggingIn (hsets : h.sets? = some .loggingIn) :
    ∃ call sending, h = .sent call sending ∧ call.IsLogin := by
  cases h with
  | sent call sending =>
    cases call with
    | login uid password iv => exact ⟨_, sending, rfl, uid, password, iv, rfl⟩
    | _ => cases hsets
  | refused call ending => cases call <;> cases hsets
  | answered call answer ending =>
    cases call with
    | login uid password iv =>
      have hlogin : (Call.login uid password iv).IsLogin := ⟨uid, password, iv, rfl⟩
      rcases sets?_answered_login hlogin answer ending with ⟨s, -, hopened⟩ | hclosed
      · cases hopened.symm.trans hsets
      · cases hclosed.symm.trans hsets
    | _ => cases hsets

/-- Some login is outstanding. -/
def World.AwaitsLogin (w : World) : Prop := ∃ call ∈ w.waiting, call.IsLogin

/-- Only the end of a login can leave none outstanding. -/
theorem World.AwaitsLogin.step (hw : w.AwaitsLogin) (hstep : Step w h w') (hsets : h.sets? = none) :
    w'.AwaitsLogin := by
  obtain ⟨login, hmem, hlogin⟩ := hw
  cases hstep with
  | send hissued hstart => exact ⟨login, List.mem_cons_of_mem _ hmem, hlogin⟩
  | refuse hissued hstart => exact ⟨login, hmem, hlogin⟩
  | @answer c call before after answer ending hwaiting hfinish =>
    refine ⟨login, ?_, hlogin⟩
    rw [hwaiting, List.mem_append, List.mem_cons] at hmem
    rcases hmem with hbefore | rfl | hafter
    · exact List.mem_append_left _ hbefore
    · rcases Happening.sets?_answered_login hlogin answer ending with ⟨s, -, hopened⟩ | hclosed
      · cases hopened.symm.trans hsets
      · cases hclosed.symm.trans hsets
    · exact List.mem_append_right _ hafter

/-! ## Runs -/

/-- A login is on its way only while one is outstanding. -/
theorem Run.awaitsLogin (hrun : Run config history w) (hstate : w.client.state = .loggingIn) :
    w.AwaitsLogin := by
  induction hrun with
  | init => cases hstate
  | @step history w w' h hrun hstep ih =>
    rw [hstep.client_eq, Happening.apply] at hstate
    cases hsets : h.sets? with
    | none =>
      rw [hsets] at hstate
      exact (ih hstate).step hstep hsets
    | some state =>
      -- the state was set by this very happening, which is the start of a login
      rw [hsets] at hstate
      obtain rfl : state = .loggingIn := hstate
      obtain ⟨call, sending, rfl, hlogin⟩ := Happening.sets?_eq_loggingIn hsets
      cases hstep with
      | send hissued hstart => exact ⟨call, List.mem_cons_self, hlogin⟩

/-- Every happening of a run was a step of it. -/
theorem Run.exists_step {newer older : List Happening} (hrun : Run config (newer ++ h :: older) w) :
    ∃ w₁ w₂, Run config older w₁ ∧ Step w₁ h w₂ := by
  induction newer generalizing w with
  | nil =>
    cases hrun with
    | step hrun hstep => exact ⟨_, _, hrun, hstep⟩
  | cons h' newer ih =>
    cases hrun with
    | step hrun hstep => exact ih hrun

/-- Who is logged in was named by the answer to a login. -/
theorem Run.exists_opens (hrun : Run config history w) {info : SessionInfo}
    (hstate : w.client.state = .loggedIn info) :
    ∃ call answer ending, .answered call answer ending ∈ history ∧ call.IsLogin ∧ answer.Opens info := by
  obtain ⟨newer, opening, older, rfl, hsets, -⟩ := (hrun.state_eq_loggedIn_iff info).1 hstate
  obtain ⟨call, answer, s, rfl, hlogin, rfl⟩ := Happening.sets?_eq_loggedIn hsets
  obtain ⟨w₁, w₂, -, hstep⟩ := hrun.exists_step
  refine ⟨call, answer, _, List.mem_append_right _ List.mem_cons_self, hlogin, ?_⟩
  have hends := hstep.loginEnds hlogin
  generalize w₂.client.state = state at hends
  cases hends with
  | opened hopens => exact hopens

/-- What the login state of a world rests on, and what may become of it. -/
structure Justified (config : Config) (history : List Happening) (w : World) : Prop where
  /-- A login is on its way only while one that started has not ended. -/
  pending : w.client.state = .loggingIn → ∃ call ∈ w.waiting, call.IsLogin
  /-- Whoever is logged in was named by the answer to a login. -/
  opened : ∀ info, w.client.state = .loggedIn info →
    ∃ call answer ending, .answered call answer ending ∈ history ∧ call.IsLogin ∧ answer.Opens info
  /-- Neither the start nor the end of a post, a commit or a sign of life touches the state. -/
  kept : ∀ h w', Step w h w' → h.call.Posts → w'.client.state = w.client.state
  /-- A login that ends now, with others outstanding or not, decides the state by its answer. -/
  ended : ∀ call answer ending w', Step w (.answered call answer ending) w' → call.IsLogin →
    LoginEnds answer ending w'.client.state
  /-- A login that nothing overlaps does end, whatever is answered. -/
  alone : ∀ call answer, call.IsLogin → ∃ sending ending w',
    Run config (.answered call answer ending :: .sent call sending :: history) w' ∧
      LoginEnds answer ending w'.client.state

/-- **The login state at any time of any run** is justified by what has happened. -/
theorem Run.loginState_justified (hrun : Run config history w) : Justified config history w where
  pending := hrun.awaitsLogin
  opened _ := hrun.exists_opens
  kept _ _ hstep hposts := congrArg Client.state (hstep.client_eq_of_posts hposts)
  ended _ _ _ _ hstep := hstep.loginEnds
  alone _ answer hlogin := hrun.answer_login hlogin answer

end Steps

/-- Two logins were answered and a third one is outstanding. -/
theorem loginState_justified_overlapping :
    ∃ history w, Run .standard history w ∧ w.client.state = .loggingIn ∧
      Justified .standard history w := by
  obtain ⟨history, hrun⟩ := run_replaced
  have hstart := Call.value_start_login 0 replaced.client "admin" "pw" (Crypto.keyOf "pw")
  have hsent := hrun.step (Step.send (by simp [Call.session?]) hstart)
  exact ⟨_, _, hsent, rfl, hsent.loginState_justified⟩

end SemanticClient
