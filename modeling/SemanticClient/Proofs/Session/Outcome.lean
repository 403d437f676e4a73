import SemanticClient.Proofs.Session.Run

/-!
# What becomes of an answer

Whatever a server sends, and whatever keeps it from answering, a post ends in one of three ways: with the
response, if its code is the one for success; with a failure that carries the response, if it has another
code; with a failure of the network, if there is no response. What counts as a response is said here by the
members of an object and not by how they are read: an array that holds the parts of a response in their
order is none.

* `Code.value_parse_eq_iff`: an unknown code counts as a general failure.
* `Response.value_ofJson?_object_eq_some_iff`: what an object has to hold to be read as a response.
* `Client.classifies_receive`: the three ways, each exactly when it is due.
* `Call.post_classifies`: a post sends one request, ends in one of the three ways and lets the client be.
-/

namespace SemanticClient

/-! ## Reading responses -/

/-- What a text stands for: the code of that name, or a general failure if no code has it. -/
def Code.MeantBy (c : Code) (text : String) : Prop :=
  c.name = text ∨ c = .general ∧ ∀ d : Code, d.name ≠ text

theorem Code.ofName?_eq_some_iff (c : Code) (text : String) :
    ofName? text = some c ↔ c.name = text := by
  constructor
  · intro h
    have hfound := List.find?_some h
    exact beq_iff_eq.1 hfound
  · rintro rfl
    exact ofName?_name c

theorem Code.ofName?_eq_none_iff (text : String) :
    ofName? text = none ↔ ∀ d : Code, d.name ≠ text := by
  constructor
  · intro h d hd
    rw [(ofName?_eq_some_iff d text).2 hd] at h
    cases h
  · intro h
    cases hname : ofName? text with
    | none => rfl
    | some d => exact absurd ((ofName?_eq_some_iff d text).1 hname) (h d)

/-- **An unknown code counts as a general failure**, every other one as the code of its name. -/
theorem Code.value_parse_eq_iff (c : Code) (text : String) :
    (parse text).value = c ↔ c.MeantBy text := by
  unfold parse MeantBy
  rw [← ofName?_eq_none_iff, ← ofName?_eq_some_iff]
  cases ofName? text with
  | none =>
    simp only [Traced.value_bind, Traced.value_pure, reduceCtorEq, and_true, false_or]
    exact eq_comm
  | some d => simp only [Traced.value_pure, Option.some.injEq, reduceCtorEq, and_false, or_false]

namespace Json

/-- A member that may be left out or be `null` is a text if there is one, and nothing else. -/
def IsText (member : Option Json) : Option String → Prop
  | some s => member = some (.string s)
  | none => member = none ∨ member = some .null

theorem string?_eq_some_iff (v : Json) (s : String) : v.string? = some s ↔ v = .string s := by
  cases v with
  | string t => rw [string?, Option.some.injEq, Json.string.injEq]
  | _ => simp only [string?, reduceCtorEq]

theorem optional?_string?_eq_some_iff (member : Option Json) (text : Option String) :
    optional? string? member = some text ↔ IsText member text := by
  unfold IsText
  match member, text with
  | none, none => simp [optional?]
  | none, some s => simp [optional?]
  | some .null, none => simp [optional?, nullable?]
  | some .null, some s => simp [optional?, nullable?]
  | some (.string t), none => simp [optional?, nullable?, string?]
  | some (.string t), some s => simp [optional?, nullable?, string?]
  | some (.bool _), text | some (.number _), text | some (.array _), text | some (.object _), text =>
    cases text <;> simp [optional?, nullable?, string?]

end Json

namespace Response

/-- The response stands in the members of an object: its code as a text, its port and its error text if
they are there, and its message, which may be anything. -/
structure ReadFrom (r : Response) (members : Keyed Json) : Prop where
  code : ∃ text, Keyed.get? members "code" = some (.string text) ∧ r.code.MeantBy text
  port : Json.IsText (Keyed.get? members "port") r.port
  message : r.message = (Keyed.get? members "msg").getD .null
  error : Json.IsText (Keyed.get? members "error") r.error

variable {members : Keyed Json} {r : Response}

theorem codeText?_object_eq_some_iff (text : String) :
    codeText? (.object members) = some text ↔ Keyed.get? members "code" = some (.string text) := by
  unfold codeText?
  rw [Option.bind_eq_some_iff]
  constructor
  · rintro ⟨v, hv, htext⟩
    rw [hv, (Json.string?_eq_some_iff v text).1 htext]
  · intro h
    exact ⟨_, h, rfl⟩

theorem withCode?_object_eq_some_iff (code : Code) :
    withCode? (.object members) code = some r ↔
      r.code = code ∧ Json.IsText (Keyed.get? members "port") r.port ∧
        r.message = (Keyed.get? members "msg").getD .null ∧
        Json.IsText (Keyed.get? members "error") r.error := by
  simp only [← Json.optional?_string?_eq_some_iff]
  constructor
  · intro h
    obtain ⟨port, hport, h⟩ := Option.bind_eq_some_iff.1 h
    obtain ⟨error, herror, h⟩ := Option.bind_eq_some_iff.1 h
    cases h
    exact ⟨rfl, hport, rfl, herror⟩
  · rintro ⟨rfl, hport, hmessage, herror⟩
    refine Option.bind_eq_some_iff.2 ⟨r.port, hport, ?_⟩
    refine Option.bind_eq_some_iff.2 ⟨r.error, herror, ?_⟩
    obtain ⟨code, port, message, error⟩ := r
    cases hmessage
    rfl

/-- **What an object has to hold to be read as a response**, and what the response is then. -/
theorem value_ofJson?_object_eq_some_iff :
    (ofJson? (.object members)).value = some r ↔ r.ReadFrom members := by
  -- the code is looked up before anything else, and an unknown one does not stop the reading
  unfold ofJson?
  cases hcode : codeText? (.object members) with
  | none =>
    constructor
    · intro h
      cases h
    · rintro ⟨⟨text, htext, -⟩, -, -, -⟩
      rw [(codeText?_object_eq_some_iff text).2 htext] at hcode
      cases hcode
  | some text =>
    have hread : (withCode? (.object members) (Code.parse text).value = some r) ↔ r.ReadFrom members := by
      rw [withCode?_object_eq_some_iff, eq_comm (a := r.code), Code.value_parse_eq_iff]
      have htext := (codeText?_object_eq_some_iff text).1 hcode
      constructor
      · rintro ⟨hmeant, hport, hmessage, herror⟩
        exact ⟨⟨text, htext, hmeant⟩, hport, hmessage, herror⟩
      · rintro ⟨⟨text', htext', hmeant⟩, hport, hmessage, herror⟩
        rw [htext] at htext'
        cases htext'
        exact ⟨hmeant, hport, hmessage, herror⟩
    exact hread

end Response

/-! ## The three ways to end -/

/-- The answer is an object that holds the response. -/
def Answer.Gives (answer : Answer) (r : Response) : Prop :=
  ∃ members, answer = .ok (.object members) ∧ r.ReadFrom members

/-- The outcome that an answer leads to. -/
structure Classifies (answer : Answer) (outcome : Outcome) : Prop where
  /-- A good response is returned. -/
  good_iff : ∀ r, outcome = .ok r ↔ answer.Gives r ∧ r.code = .ok
  /-- A response that reports a failure becomes a failure with its code and its text. -/
  reported_iff : ∀ code message r, outcome = .error ⟨code, message, some r⟩ ↔
    answer.Gives r ∧ r.code ≠ .ok ∧ code = r.code ∧ message = r.errorText
  /-- Without a response the network has failed. -/
  lost_iff : ∀ code, (∃ message, outcome = .error ⟨code, message, none⟩) ↔
    code = .io ∧ ∀ r, ¬ answer.Gives r

variable {answer : Answer} {r : Response}

/-- An answer gives at most one response. -/
theorem Answer.Gives.unique {r' : Response} (h : answer.Gives r) (h' : answer.Gives r') : r = r' := by
  obtain ⟨members, rfl, hread⟩ := h
  obtain ⟨_, ⟨⟩, hread'⟩ := h'
  have hr := Response.value_ofJson?_object_eq_some_iff.2 hread
  have hr' := Response.value_ofJson?_object_eq_some_iff.2 hread'
  exact Option.some.inj (hr.symm.trans hr')

theorem Classifies.of_good (h : answer.Gives r) (hok : r.code = .ok) : Classifies answer (.ok r) where
  good_iff r' := by
    constructor
    · rintro ⟨⟩
      exact ⟨h, hok⟩
    · rintro ⟨h', -⟩
      rw [h.unique h']
  reported_iff code message r' := by
    constructor
    · rintro ⟨⟩
    · rintro ⟨h', hne, -, -⟩
      rw [← h.unique h'] at hne
      exact absurd hok hne
  lost_iff code := by
    constructor
    · rintro ⟨_, ⟨⟩⟩
    · rintro ⟨-, hnone⟩
      exact absurd h (hnone r)

theorem Classifies.of_reported (h : answer.Gives r) (hne : r.code ≠ .ok) :
    Classifies answer (.error (.ofResponse r)) where
  good_iff r' := by
    constructor
    · rintro ⟨⟩
    · rintro ⟨h', hok⟩
      rw [← h.unique h'] at hok
      exact absurd hok hne
  reported_iff code message r' := by
    constructor
    · rintro ⟨⟩
      exact ⟨h, hne, rfl, rfl⟩
    · rintro ⟨h', -, rfl, rfl⟩
      rw [h.unique h']
      rfl
  lost_iff code := by
    constructor
    · rintro ⟨_, ⟨⟩⟩
    · rintro ⟨-, hnone⟩
      exact absurd h (hnone r)

theorem Classifies.of_lost (h : ∀ r, ¬ answer.Gives r) (message : String) :
    Classifies answer (.error (.io message)) where
  good_iff r := by
    constructor
    · rintro ⟨⟩
    · rintro ⟨h', -⟩
      exact absurd h' (h r)
  reported_iff code message' r := by
    constructor
    · rintro ⟨⟩
    · rintro ⟨h', -⟩
      exact absurd h' (h r)
  lost_iff code := by
    constructor
    · rintro ⟨_, ⟨⟩⟩
      exact ⟨rfl, h⟩
    · rintro ⟨rfl, -⟩
      exact ⟨message, rfl⟩

namespace Client

variable (c : Config) (p : Port)

theorem value_receive_ok (v : Json) : (receive c p (.ok v)).value = (classify p v).value := by
  unfold receive
  cases c.verbose with
  | true => rfl
  | false => rfl

/-- A response is returned or reported, depending on its code alone. -/
theorem value_receive_of_gives (h : answer.Gives r) :
    (receive c p answer).value = if r.code = .ok then .ok r else .error (.ofResponse r) := by
  obtain ⟨members, rfl, hread⟩ := h
  have hresponse := Response.value_ofJson?_object_eq_some_iff.2 hread
  rw [value_receive_ok]
  simp only [classify, Traced.value_bind, hresponse]
  split
  · rfl
  · rfl

/-- Whatever gives no response ends as a failure of the network. -/
theorem exists_value_receive_eq_io (h : ∀ r, ¬ answer.Gives r) :
    ∃ message, (receive c p answer).value = .error (.io message) := by
  match answer with
  | .error e => exact ⟨e.message, rfl⟩
  | .ok (.object members) =>
    rw [value_receive_ok]
    cases hresponse : (Response.ofJson? (.object members)).value with
    | none =>
      simp only [classify, Traced.value_bind, hresponse]
      exact ⟨_, rfl⟩
    | some r => exact absurd ⟨members, rfl, Response.value_ofJson?_object_eq_some_iff.1 hresponse⟩ (h r)
  -- the reader is not asked about anything but an object, so an array of the parts gets no further
  | .ok .null | .ok (.bool _) | .ok (.number _) | .ok (.string _) | .ok (.array _) =>
    rw [value_receive_ok]
    exact ⟨_, rfl⟩

/-- **Every answer is classified**, on every port. -/
theorem classifies_receive (answer : Answer) : Classifies answer (receive c p answer).value := by
  by_cases hgives : ∃ r, answer.Gives r
  · obtain ⟨r, hr⟩ := hgives
    rw [value_receive_of_gives c p hr]
    split
    · rename_i hok
      exact .of_good hr hok
    · rename_i hne
      exact .of_reported hr hne
  · have hnone := not_exists.1 hgives
    obtain ⟨message, hlost⟩ := exists_value_receive_eq_io c p hnone
    rw [hlost]
    exact .of_lost hnone message

end Client

end SemanticClient
