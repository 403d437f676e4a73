import SemanticClient.Proofs.Session.Outcome

/-!
# The codes of failures

A failure says by its code what went wrong, so the code for success has no place in it. Whatever a call is
and whatever is answered, one failure alone has it: a login whose answer is a good response that names no
session fails with the code of that response.

* `Classifies.code_ne_ok`: what becomes of an answer is never a failure with the code for success.
* `Call.not_start_failsWith_ok`: neither is a refusal.
* `Call.failsWith_ok_iff`: which failures have it.
* `Call.not_forall_not_failsWith_ok`: a login that is welcomed without a session fails with it.
-/

namespace SemanticClient

/-! ## Failures -/

/-- The failure that an ending returns, or hands to the callback for failures. -/
def Ending.failure? : Ending → Option DispatchError
  | .login (.error e) | .dispatch (.error e) | .commit (some (.error e)) => some e
  | _ => none

/-- The ending is a failure with a code. -/
def Ending.FailsWith (ending : Ending) (code : Code) : Prop :=
  ∃ e, ending.failure? = some e ∧ e.code = code

/-- The call ends at once, with a failure of a code. -/
def Started.FailsWith : Started → Code → Prop
  | .ended ending, code => ending.FailsWith code
  | .waiting _, _ => False

/-- The call is a login. -/
def Call.IsLogin (call : Call) : Prop := ∃ uid password iv, call = .login uid password iv

/-- The message is an object with a session id and a user id. -/
def Json.NamesSession (message : Json) : Prop :=
  ∃ members ssid uid, message = .object members ∧
    Keyed.get? members "ssid" = some (.string ssid) ∧ Keyed.get? members "uid" = some (.string uid)

variable {code : Code} {e : DispatchError}

theorem Ending.failsWith_login_iff {result : Except DispatchError Session} :
    (Ending.login result).FailsWith code ↔ ∃ e, result = .error e ∧ e.code = code := by
  unfold FailsWith
  cases result with
  | ok s => simp [failure?]
  | error e => simp [failure?]

theorem Ending.failsWith_dispatch_iff {outcome : Outcome} :
    (Ending.dispatch outcome).FailsWith code ↔ ∃ e, outcome = .error e ∧ e.code = code := by
  unfold FailsWith
  cases outcome with
  | ok r => simp [failure?]
  | error e => simp [failure?]

theorem Callbacks.value_run_ok (k : Callbacks) (p : Port) (r : Response) :
    (k.run p (.ok r)).value = if k.onOk then some (.ok r) else none := by
  rw [run]
  split
  · rfl
  · rfl

theorem Callbacks.value_run_error (k : Callbacks) (p : Port) (e : DispatchError) :
    (k.run p (.error e)).value = if k.onError then some (.error e) else none := by
  rw [run]
  split
  · rfl
  · rfl

/-- A callback is handed a failure only if that is the outcome. -/
theorem Callbacks.eq_error_of_value_run {k : Callbacks} {p : Port} {outcome : Outcome}
    (h : (k.run p outcome).value = some (.error e)) : outcome = .error e := by
  cases outcome with
  | ok r =>
    rw [value_run_ok] at h
    split at h
    · cases h
    · cases h
  | error e' =>
    rw [value_run_error] at h
    split at h
    · cases h
      rfl
    · cases h

theorem Ending.exists_of_failsWith_commit {callback : Option Callback}
    (h : (Ending.commit callback).FailsWith code) : ∃ e, callback = some (.error e) ∧ e.code = code := by
  obtain ⟨e, hfailure, hcode⟩ := h
  match callback with
  | some (.error e') =>
    cases hfailure
    exact ⟨e, rfl, hcode⟩
  | some (.ok r) => cases hfailure
  | none => cases hfailure

/-! ## Answers -/

/-- **What becomes of an answer** is never a failure with the code for success. -/
theorem Classifies.code_ne_ok {answer : Answer} (h : Classifies answer (.error e)) : e.code ≠ .ok := by
  obtain ⟨code, message, response⟩ := e
  cases response with
  | none =>
    obtain ⟨rfl, -⟩ := (h.lost_iff code).1 ⟨message, rfl⟩
    exact Code.noConfusion
  | some r =>
    obtain ⟨-, hne, rfl, -⟩ := (h.reported_iff code message r).1 rfl
    exact hne

theorem SessionInfo.isSome_ofJson?_iff (message : Json) :
    (ofJson? message).isSome ↔ message.NamesSession := by
  constructor
  · intro h
    obtain ⟨info, hinfo⟩ := Option.isSome_iff_exists.1 h
    cases message with
    | object members =>
      obtain ⟨v, hv, hinfo⟩ := Option.bind_eq_some_iff.1 hinfo
      obtain ⟨ssid, hssid, hinfo⟩ := Option.bind_eq_some_iff.1 hinfo
      obtain ⟨w, hw, hinfo⟩ := Option.bind_eq_some_iff.1 hinfo
      obtain ⟨uid, huid, -⟩ := Option.bind_eq_some_iff.1 hinfo
      rw [(Json.string?_eq_some_iff v ssid).1 hssid] at hv
      rw [(Json.string?_eq_some_iff w uid).1 huid] at hw
      exact ⟨members, ssid, uid, rfl, hv, hw⟩
    | _ => cases hinfo
  · rintro ⟨members, ssid, uid, rfl, hssid, huid⟩
    simp [ofJson?, hssid, huid, Json.string?]

namespace Client

variable (c : Config) (p : Port) (answer : Answer)

theorem value_receive_ne_error (hcode : e.code = .ok) : (receive c p answer).value ≠ .error e := by
  intro h
  have hclassified := classifies_receive c p answer
  rw [h] at hclassified
  exact hclassified.code_ne_ok hcode

/-- A response without a session is a failure with the code of the response. -/
theorem exists_sessionInfo_eq_error_iff (r : Response) :
    (∃ e, sessionInfo r = .error e ∧ e.code = code) ↔ r.code = code ∧ ¬ r.message.NamesSession := by
  rw [← SessionInfo.isSome_ofJson?_iff]
  unfold sessionInfo
  cases SessionInfo.ofJson? r.message with
  | none => simp
  | some info => simp

/-- **A login fails with the code for success** exactly when a good response names no session. -/
theorem login_fails_ok_iff :
    (∃ e, (receive c p answer).value.bind sessionInfo = .error e ∧ e.code = .ok) ↔
      ∃ r, answer.Gives r ∧ r.code = .ok ∧ ¬ r.message.NamesSession := by
  have hclassified := classifies_receive c p answer
  cases houtcome : (receive c p answer).value with
  | ok r =>
    -- the response is good, so its code is the one for success, and the failure takes it over
    obtain ⟨hr, hok⟩ := (hclassified.good_iff r).1 houtcome
    show (∃ e, sessionInfo r = .error e ∧ e.code = .ok) ↔ _
    rw [exists_sessionInfo_eq_error_iff]
    constructor
    · rintro ⟨-, hnone⟩
      exact ⟨r, hr, hok, hnone⟩
    · rintro ⟨r', hr', -, hnone⟩
      rw [← hr.unique hr'] at hnone
      exact ⟨hok, hnone⟩
  | error e =>
    constructor
    · rintro ⟨e', ⟨⟩, hcode⟩
      exact absurd houtcome (value_receive_ne_error c p answer hcode)
    · rintro ⟨r, hr, hok, -⟩
      have hgood := (hclassified.good_iff r).2 ⟨hr, hok⟩
      rw [houtcome] at hgood
      cases hgood

end Client

/-! ## Calls -/

namespace Call

/-- **A refusal** is a general failure. -/
theorem not_start_failsWith_ok (call : Call) (sequence : Fin 1001) (c : Client) :
    ¬ (call.start sequence c).value.2.FailsWith .ok := by
  -- only the calls of a session can be refused, and all of them are refused alike
  cases call with
  | login uid password iv => exact id
  | post e => exact id
  | commit e k =>
    rw [value_start_commit]
    exact id
  | sessionPost s e =>
    rw [value_start_sessionPost]
    split
    · exact id
    · intro h
      obtain ⟨_, ⟨⟩, hcode⟩ := Ending.failsWith_dispatch_iff.1 h
      cases hcode
  | sessionCommit s e k =>
    rw [value_start_sessionCommit]
    split
    · exact id
    · intro h
      obtain ⟨e', hcallback, hcode⟩ := Ending.exists_of_failsWith_commit h
      cases Callbacks.eq_error_of_value_run hcallback
      cases hcode
  | logout s =>
    rw [value_start_logout]
    split
    · exact id
    · intro h
      obtain ⟨_, ⟨⟩, hcode⟩ := Ending.failsWith_dispatch_iff.1 h
      cases hcode

variable (c : Client) (answer : Answer)

theorem finish_login_failsWith_ok_iff (uid password : String) (iv : Crypto.Block) :
    ((login uid password iv).finish c answer).value.2.FailsWith .ok ↔
      ∃ r, answer.Gives r ∧ r.code = .ok ∧ ¬ r.message.NamesSession := by
  rw [value_finish_login_snd, Ending.failsWith_login_iff,
    ← Client.login_fails_ok_iff c.config .session answer]
  cases (Client.receive c.config .session answer).value.bind Client.sessionInfo with
  | ok info => simp [Except.map]
  | error e => simp [Except.map]

/-- What the answer to anything else than a login becomes has not the code for success. -/
theorem not_finish_failsWith_ok {call : Call} (h : ¬ call.IsLogin) :
    ¬ (call.finish c answer).value.2.FailsWith .ok := by
  intro hfails
  cases call with
  | login uid password iv => exact h ⟨uid, password, iv, rfl⟩
  | post e | sessionPost s e | logout s =>
    obtain ⟨e, houtcome, hcode⟩ := Ending.failsWith_dispatch_iff.1 hfails
    exact Client.value_receive_ne_error c.config _ answer hcode houtcome
  | commit e k | sessionCommit s e k =>
    obtain ⟨e, hcallback, hcode⟩ := Ending.exists_of_failsWith_commit hfails
    exact Client.value_receive_ne_error c.config _ answer hcode
      (Callbacks.eq_error_of_value_run hcallback)

theorem finish_failsWith_ok_iff (call : Call) :
    (call.finish c answer).value.2.FailsWith .ok ↔
      call.IsLogin ∧ ∃ r, answer.Gives r ∧ r.code = .ok ∧ ¬ r.message.NamesSession := by
  by_cases hlogin : call.IsLogin
  · obtain ⟨uid, password, iv, rfl⟩ := hlogin
    rw [finish_login_failsWith_ok_iff]
    exact ⟨fun h => ⟨⟨uid, password, iv, rfl⟩, h⟩, And.right⟩
  · exact iff_of_false (not_finish_failsWith_ok c answer hlogin) fun h => hlogin h.1

/-- **Which failures have the code for success.** A call that ends at once never does. A call that is
answered does exactly if it is a login and the answer is a good response that names no session. -/
theorem failsWith_ok_iff (call : Call) (sequence : Fin 1001) (c c' : Client) (answer : Answer) :
    ¬ (call.start sequence c).value.2.FailsWith .ok ∧
      ((call.finish c' answer).value.2.FailsWith .ok ↔
        call.IsLogin ∧ ∃ r, answer.Gives r ∧ r.code = .ok ∧ ¬ r.message.NamesSession) :=
  ⟨call.not_start_failsWith_ok sequence c, finish_failsWith_ok_iff c' answer call⟩

/-- A good response that greets the user and names no session. -/
def greeting : Answer := .ok (.object [("code", .string "ok"), ("msg", .string "welcome")])

theorem greeting_gives : greeting.Gives ⟨.ok, none, .string "welcome", none⟩ :=
  ⟨_, rfl, ⟨"ok", rfl, .inl rfl⟩, .inl rfl, rfl, .inl rfl⟩

/-- **A login that is welcomed without a session** fails with the code for success. -/
theorem not_forall_not_failsWith_ok :
    ¬ ∀ (call : Call) (sequence : Fin 1001) (c c' : Client) (answer : Answer),
      ¬ (call.start sequence c).value.2.FailsWith .ok ∧
        ¬ (call.finish c' answer).value.2.FailsWith .ok := by
  intro hnever
  let client : Client := .ofConfig .standard
  obtain ⟨-, hfinish⟩ :=
    hnever (.login "admin" "pw" (Crypto.keyOf "pw")) 0 client client greeting
  rw [finish_login_failsWith_ok_iff] at hfinish
  refine hfinish ⟨_, greeting_gives, rfl, ?_⟩
  rintro ⟨_, _, _, ⟨⟩, -⟩

end Call
end SemanticClient
