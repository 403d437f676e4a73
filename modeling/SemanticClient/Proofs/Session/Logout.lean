import SemanticClient.Proofs.Session.Outcome

/-!
# What a logout ends

A logout is meant to end its own session. A session that was replaced by a newer one refuses to post or
to commit, and its logout sends nothing either; the login state is set nevertheless. The same happens when
another login ends while the answer to a logout is outstanding.

* `Step.logout_endsOnly_iff`: a logout that ends leaves nobody logged in, so it ends only its own session
  exactly when no other session is open.
* `Step.refused_logout_endsOnly_iff`: a logout that sends nothing is harmless exactly when no session is
  open at all.
* `not_forall_logout_endsOnly`: a session that was replaced logs the newer one out.
-/

namespace SemanticClient

/-- A session is the client's if their session ids agree. -/
theorem Session.isCurrent_loggedIn_iff (s : Session) (info : SessionInfo) :
    s.isCurrent (.loggedIn info) = true ↔ info.ssid = s.info.ssid := beq_iff_eq

/-- The happening ends a logout of the session. -/
def Happening.EndsLogout (s : Session) : Happening → Prop
  | .refused (.logout t) _ | .answered (.logout t) _ _ => t = s
  | _ => False

/-- Between two worlds no session ends but the given one: whoever else is logged in stays so. -/
def EndsOnly (s : Session) (w w' : World) : Prop :=
  ∀ info, w.client.state = .loggedIn info → info.ssid ≠ s.info.ssid → w'.client.state = .loggedIn info

section Logout

variable {config : Config} {history : List Happening} {w w' : World} {h : Happening} {s : Session}

theorem Happening.EndsLogout.sets? (hends : h.EndsLogout s) : h.sets? = some .loggedOut := by
  cases h with
  | sent call sending => cases hends
  | refused call ending =>
    cases call with
    | logout t => rfl
    | _ => cases hends
  | answered call answer ending =>
    cases call with
    | logout t => rfl
    | _ => cases hends

/-- Nobody is logged in after a logout, whoever was before. -/
theorem Step.loggedOut_of_endsLogout (hstep : Step w h w') (hends : h.EndsLogout s) :
    w'.client.state = .loggedOut := by
  rw [hstep.client_eq, Happening.apply, hends.sets?]
  rfl

/-- A session that is the client's may log out; the request is sent and the client stays as it is. -/
theorem Step.send_logout (hissued : s.info ∈ w.issued) (hcurrent : s.isCurrent w.client.state = true) :
    ∃ sending, Step w (.sent (.logout s) sending) { w with waiting := .logout s :: w.waiting } := by
  have hstart := Call.value_start_logout 0 w.client s
  rw [hcurrent, if_pos rfl] at hstart
  refine ⟨_, Step.send ?_ hstart⟩
  rintro t ⟨⟩
  exact hissued

/-- A session that is over may be logged out as well; nothing is sent. -/
theorem Step.refuse_logout (hissued : s.info ∈ w.issued)
    (hcurrent : s.isCurrent w.client.state = false) :
    ∃ ending, Step w (.refused (.logout s) ending)
      { w with client := { w.client with state := .loggedOut } } := by
  have hstart := Call.value_start_logout 0 w.client s
  rw [hcurrent, if_neg Bool.false_ne_true] at hstart
  refine ⟨_, Step.refuse ?_ hstart⟩
  rintro t ⟨⟩
  exact hissued

/-- Any answer ends a logout. -/
theorem Step.answer_logout {before after : List Call}
    (hwaiting : w.waiting = before ++ .logout s :: after) (answer : Answer) :
    ∃ ending, Step w (.answered (.logout s) answer ending)
      { w with client := { w.client with state := .loggedOut }, waiting := before ++ after } :=
  ⟨_, Step.answer hwaiting (Call.value_finish_logout w.client s answer)⟩

/-- A world that nobody is logged in to has lost every session that was held before. -/
theorem endsOnly_iff_of_loggedOut (hout : w'.client.state = .loggedOut) :
    EndsOnly s w w' ↔ ∀ info, w.client.state = .loggedIn info → info.ssid = s.info.ssid := by
  constructor
  · intro honly info hin
    by_cases he : info.ssid = s.info.ssid
    · exact he
    · have hkept := honly info hin he
      rw [hout] at hkept
      cases hkept
  · intro hown info hin hne
    exact absurd (hown info hin) hne

/-- **What a logout ends.** After any history, with any calls outstanding, a logout that ends leaves
nobody logged in; it ends only its own session exactly when no session with another id is open. -/
theorem Step.logout_endsOnly_iff (hrun : Run config history w) (hstep : Step w h w')
    (hends : h.EndsLogout s) :
    w'.client.state = .loggedOut ∧
      (EndsOnly s w w' ↔ ∀ info, Open history info → info.ssid = s.info.ssid) := by
  have hout := hstep.loggedOut_of_endsLogout hends
  refine ⟨hout, ?_⟩
  rw [endsOnly_iff_of_loggedOut hout]
  simp only [hrun.state_eq_loggedIn_iff]

/-- **A logout that sends nothing** ends whatever session is open, since the open one is not its own. -/
theorem Step.refused_logout_endsOnly_iff {ending : Ending} (hrun : Run config history w)
    (hstep : Step w (.refused (.logout s) ending) w') :
    EndsOnly s w w' ↔ ∀ info, ¬ Open history info := by
  have hout := hstep.loggedOut_of_endsLogout rfl
  rw [endsOnly_iff_of_loggedOut hout]
  simp only [← hrun.state_eq_loggedIn_iff]
  cases hstep with
  | refuse hissued hstart =>
    obtain ⟨-, t, ht, hcurrent⟩ := Call.eq_of_start_ended hstart
    obtain rfl := Option.some.inj ht
    constructor
    · intro hown info hin
      rw [hin, (s.isCurrent_loggedIn_iff info).2 (hown info hin)] at hcurrent
      cases hcurrent
    · intro hnone info hin
      exact absurd hin (hnone info)

end Logout

/-! ## A session and the one that replaces it -/

/-- The session with an id. -/
def adminSession (ssid : String) : Session := .ofInfo ⟨ssid, "admin", []⟩

/-- A good answer to a login. -/
def welcome (ssid : String) : Answer :=
  .ok (.object [("code", .string "ok"),
    ("msg", .object [("ssid", .string ssid), ("uid", .string "admin")])])

theorem receive_welcome (ssid : String) :
    (Client.receive .standard .session (welcome ssid)).value.bind Client.sessionInfo =
      .ok (adminSession ssid).info := by
  have hgives : (welcome ssid).Gives
      ⟨.ok, none, .object [("ssid", .string ssid), ("uid", .string "admin")], none⟩ :=
    ⟨_, rfl, ⟨"ok", rfl, .inl rfl⟩, .inl rfl, rfl, .inl rfl⟩
  rw [Client.value_receive_of_gives .standard .session hgives, if_pos rfl]
  rfl

/-- The world after two logins, with both sessions kept. -/
def replaced : World :=
  ⟨⟨.standard, .loggedIn (adminSession "ss-02").info⟩, [],
    [(adminSession "ss-02").info, (adminSession "ss-01").info]⟩

theorem run_replaced : ∃ history, Run .standard history replaced := by
  have hinit : Run .standard [] (.init .standard) := .init
  obtain ⟨_, hfirst⟩ := hinit.login (receive_welcome "ss-01") "admin" "pw" (Crypto.keyOf "pw")
  obtain ⟨_, hsecond⟩ := hfirst.login (receive_welcome "ss-02") "admin" "pw" (Crypto.keyOf "pw")
  exact ⟨_, hsecond⟩

/-- The newer session ends only itself, even if its logout is not answered. -/
theorem logout_endsOnly_of_newer :
    ∃ history w h w', Run .standard history w ∧ Step w h w' ∧
      h.EndsLogout (adminSession "ss-02") ∧ w'.client.state = .loggedOut ∧
      EndsOnly (adminSession "ss-02") w w' := by
  obtain ⟨history, hrun⟩ := run_replaced
  obtain ⟨_, hsend⟩ := Step.send_logout (w := replaced) (s := adminSession "ss-02")
    (by simp [replaced]) (by decide)
  have hsent := hrun.step hsend
  obtain ⟨_, hanswer⟩ := Step.answer_logout
    (w := { replaced with waiting := [.logout (adminSession "ss-02")] }) (List.nil_append _).symm
    (.error .emptyResponse)
  obtain ⟨hout, hiff⟩ := Step.logout_endsOnly_iff hsent hanswer rfl
  refine ⟨_, _, _, _, hsent, hanswer, rfl, hout, hiff.2 ?_⟩
  intro info hopen
  have hin := (hsent.state_eq_loggedIn_iff info).2 hopen
  cases hin
  rfl

/-- **A session that was replaced logs the newer one out**, and sends nothing. -/
theorem not_forall_logout_endsOnly :
    ¬ ∀ (config : Config) (history : List Happening) (w w' : World) (h : Happening) (s : Session),
      Run config history w → Step w h w' → h.EndsLogout s → EndsOnly s w w' := by
  intro hall
  obtain ⟨history, hrun⟩ := run_replaced
  obtain ⟨_, hstep⟩ := Step.refuse_logout (w := replaced) (s := adminSession "ss-01")
    (by simp [replaced]) (by decide)
  have hkept := hall _ _ _ _ _ _ hrun hstep rfl _ rfl (by decide)
  cases hkept

end SemanticClient
