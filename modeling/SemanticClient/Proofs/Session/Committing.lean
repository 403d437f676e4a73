import Mathlib.Data.List.Forall2
import SemanticClient.Proofs.Session.Failure

/-!
# Commits

A commit hands the outcome of a dispatch to callbacks, where a post returns it. That is all there is to
tell them apart: a commit asks the session in the same way, sends the same request and leaves the same
client. Of the two callbacks one is run at most, with what the post would have returned.

* `Callbacks.takes_run`: which callback is run.
* `Call.postedAs_start`, `Call.postedAs_finish`: the halves of a commit and of its post.
* `Run.posting`: in any history all commits may be posts.
* `Call.commit_sameDispatch`: a commit and a post of a session, and what the callbacks get.
-/

namespace SemanticClient

/-! ## Callbacks -/

/-- A callback takes an outcome: the one that the outcome is for, if it is given. -/
structure Callbacks.Takes (k : Callbacks) (outcome : Outcome) (callback : Option Callback) : Prop where
  ok_iff : ∀ r, callback = some (.ok r) ↔ outcome = .ok r ∧ k.onOk = true
  error_iff : ∀ e, callback = some (.error e) ↔ outcome = .error e ∧ k.onError = true

/-- **The callback that is run** takes the outcome. -/
theorem Callbacks.takes_run (k : Callbacks) (p : Port) (outcome : Outcome) :
    k.Takes outcome (k.run p outcome).value := by
  cases outcome with
  | ok r =>
    rw [value_run_ok]
    constructor
    · intro r'
      rw [Option.ite_none_right_eq_some, and_comm]
      simp
    · intro e
      simp
  | error e =>
    rw [value_run_error]
    constructor
    · intro r
      simp
    · intro e'
      rw [Option.ite_none_right_eq_some, and_comm]
      simp

/-! ## Commits and their posts -/

/-- The callbacks of a commit. -/
def Call.callbacks? : Call → Option Callbacks
  | .commit _ k | .sessionCommit _ _ k => some k
  | .login _ _ _ | .post _ | .sessionPost _ _ | .logout _ => none

/-- The same call with what a commit hands to callbacks returned instead. -/
def Call.posting : Call → Call
  | .commit e _ => .post e
  | .sessionCommit s e _ => .sessionPost s e
  | call => call

/-- What a commit with callbacks ends with, beside what its post ends with: a callback takes the outcome. -/
inductive Ending.Commits (k : Callbacks) : Ending → Ending → Prop
  | takes {outcome : Outcome} {callback : Option Callback} (h : k.Takes outcome callback) :
    Commits k (.commit callback) (.dispatch outcome)

/-- What a call ends with, beside what it ends with if it posts. -/
def Ending.PostedAs (call : Call) (ending posted : Ending) : Prop :=
  match call.callbacks? with
  | some k => ending.Commits k posted
  | none => posted = ending

/-- How a call starts, beside how it starts if it posts: both end, or both wait for the answer to the
same request. -/
inductive Started.PostedAs (call : Call) : Started → Started → Prop
  | ended {ending posted : Ending} (h : ending.PostedAs call posted) :
    PostedAs call (.ended ending) (.ended posted)
  | waiting (sending : Sending) : PostedAs call (.waiting sending) (.waiting sending)

theorem Started.postedAs_self {call : Call} (h : call.callbacks? = none) (started : Started) :
    started.PostedAs call started := by
  cases started with
  | ended ending => exact .ended (by rw [Ending.PostedAs, h])
  | waiting sending => exact .waiting sending

namespace Call

variable (call : Call) (s : Session) (e : Envelope) (k : Callbacks)
variable (sequence : Fin 1001) (c : Client) (answer : Answer)

theorem session?_posting : call.posting.session? = call.session? := by
  cases call with
  | _ => rfl

/-- **The first half of a commit** is that of its post: it leaves the same client and sends the same
request, and where the post is refused a callback takes the refusal. -/
theorem postedAs_start :
    (call.posting.start sequence c).value.1 = (call.start sequence c).value.1 ∧
      (call.start sequence c).value.2.PostedAs call (call.posting.start sequence c).value.2 := by
  cases call with
  | commit e k =>
    rw [value_start_commit]
    exact ⟨rfl, .waiting _⟩
  | sessionCommit s e k =>
    rw [posting, value_start_sessionCommit, value_start_sessionPost]
    split
    · exact ⟨rfl, .waiting _⟩
    · exact ⟨rfl, .ended (.takes (k.takes_run e.port _))⟩
  | login uid password iv => exact ⟨rfl, Started.postedAs_self rfl _⟩
  | post e => exact ⟨rfl, Started.postedAs_self rfl _⟩
  | sessionPost s e => exact ⟨rfl, Started.postedAs_self rfl _⟩
  | logout s => exact ⟨rfl, Started.postedAs_self rfl _⟩

/-- **The second half of a commit** leaves the client that the second half of its post leaves, and a
callback takes what the post returns. -/
theorem postedAs_finish :
    (call.posting.finish c answer).value.1 = (call.finish c answer).value.1 ∧
      (call.finish c answer).value.2.PostedAs call (call.posting.finish c answer).value.2 := by
  cases call with
  | commit e k => exact ⟨rfl, .takes (k.takes_run e.port _)⟩
  | sessionCommit s e k => exact ⟨rfl, .takes (k.takes_run e.port _)⟩
  | login uid password iv => exact ⟨rfl, rfl⟩
  | post e => exact ⟨rfl, rfl⟩
  | sessionPost s e => exact ⟨rfl, rfl⟩
  | logout s => exact ⟨rfl, rfl⟩

theorem exists_postedAs_start {call : Call} {sequence : Fin 1001} {c c' : Client} {started : Started}
    (h : (call.start sequence c).value = (c', started)) :
    ∃ posted, (call.posting.start sequence c).value = (c', posted) ∧ started.PostedAs call posted := by
  obtain ⟨hclient, hposted⟩ := call.postedAs_start sequence c
  rw [h] at hclient hposted
  exact ⟨(call.posting.start sequence c).value.2, Prod.ext hclient rfl, hposted⟩

theorem exists_postedAs_finish {call : Call} {c c' : Client} {answer : Answer} {ending : Ending}
    (h : (call.finish c answer).value = (c', ending)) :
    ∃ posted, (call.posting.finish c answer).value = (c', posted) ∧ ending.PostedAs call posted := by
  obtain ⟨hclient, hposted⟩ := call.postedAs_finish c answer
  rw [h] at hclient hposted
  exact ⟨(call.posting.finish c answer).value.2, Prod.ext hclient rfl, hposted⟩

end Call

/-! ## Histories -/

/-- A happening, beside what happens if the call posts. -/
inductive Happening.PostedAs : Happening → Happening → Prop
  | sent (call : Call) (sending : Sending) : PostedAs (.sent call sending) (.sent call.posting sending)
  | refused {call : Call} {ending posted : Ending} (h : ending.PostedAs call posted) :
    PostedAs (.refused call ending) (.refused call.posting posted)
  | answered {call : Call} {ending posted : Ending} (answer : Answer) (h : ending.PostedAs call posted) :
    PostedAs (.answered call answer ending) (.answered call.posting answer posted)

/-- The same world with a post waiting for each commit. -/
def World.posting (w : World) : World := { w with waiting := w.waiting.map Call.posting }

/-- A commit opens no session, and neither does its post. -/
theorem Ending.PostedAs.opened?_eq {call : Call} {ending posted : Ending}
    (h : ending.PostedAs call posted) : posted.opened? = ending.opened? := by
  unfold PostedAs at h
  split at h
  · cases h with
    | takes _ => rfl
  · rw [h]

/-- **A step of commits is a step of posts.** -/
theorem Step.posting {w w' : World} {h : Happening} (hstep : Step w h w') :
    ∃ h', h.PostedAs h' ∧ Step w.posting h' w'.posting := by
  cases hstep with
  | @send c call sequence sending hissued hstart =>
    obtain ⟨posted, hstart', hposted⟩ := Call.exists_postedAs_start hstart
    rw [← call.session?_posting] at hissued
    cases hposted with
    | waiting sending => exact ⟨_, .sent call sending, .send hissued hstart'⟩
  | @refuse c call sequence ending hissued hstart =>
    obtain ⟨posted, hstart', hposted⟩ := Call.exists_postedAs_start hstart
    rw [← call.session?_posting] at hissued
    cases hposted with
    | ended hending => exact ⟨_, .refused hending, .refuse hissued hstart'⟩
  | @answer c call before after answer ending hwaiting hfinish =>
    obtain ⟨posted, hfinish', hposted⟩ := Call.exists_postedAs_finish hfinish
    have hposting : w.posting.waiting =
        before.map Call.posting ++ call.posting :: after.map Call.posting := by
      rw [World.posting, hwaiting, List.map_append, List.map_cons]
    have hstep := Step.answer (w := w.posting) hposting hfinish'
    rw [hposted.opened?_eq, ← List.map_append] at hstep
    exact ⟨_, .answered answer hposted, hstep⟩

/-- **In any history all commits may be posts.** The same client is left, the same sessions are handed
out, and happening by happening the same requests are sent; where a commit ends, its post returns what
the callback takes. -/
theorem Run.posting {config : Config} {history : List Happening} {w : World}
    (hrun : Run config history w) :
    ∃ posted, List.Forall₂ Happening.PostedAs history posted ∧ Run config posted w.posting := by
  induction hrun with
  | init => exact ⟨[], .nil, .init⟩
  | step _ hstep ih =>
    obtain ⟨posted, hposted, hrun'⟩ := ih
    obtain ⟨h', hh', hstep'⟩ := hstep.posting
    exact ⟨h' :: posted, .cons hh' hposted, hrun'.step hstep'⟩

/-! ## A commit of a session -/

namespace Call

theorem value_run_of_ended {call : Call} {sequence : Fin 1001} {c c' : Client} {ending : Ending}
    (h : (call.start sequence c).value = (c', .ended ending)) (answer : Answer) :
    (call.run sequence answer c).value = (c', ending, none) := by
  simp only [run, Traced.value_bind, h]
  rfl

theorem value_run_of_waiting {call : Call} {sequence : Fin 1001} {c c' : Client} {sending : Sending}
    (h : (call.start sequence c).value = (c', .waiting sending)) (answer : Answer) :
    (call.run sequence answer c).value =
      ((call.finish c' answer).value.1, (call.finish c' answer).value.2, some sending) := by
  simp only [run, Traced.value_bind, h]
  rfl

/-- **A commit of a session and a post of it are the same dispatch.** Whoever is logged in and whatever
would be answered, the two leave the same client and send the same request or none, and of the callbacks
the one that the post's outcome is for gets it, if that one is given. Each half does its part of this,
whatever other calls do between them. -/
theorem commit_sameDispatch (s : Session) (e : Envelope) (k : Callbacks) :
    (∀ sequence answer c, ∃ c' outcome callback sent,
      (run sequence answer c (.sessionPost s e)).value = (c', .dispatch outcome, sent) ∧
      (run sequence answer c (.sessionCommit s e k)).value = (c', .commit callback, sent) ∧
      k.Takes outcome callback) ∧
    (∀ sequence c,
      (start sequence c (.sessionPost s e)).value.1 = (start sequence c (.sessionCommit s e k)).value.1 ∧
      (start sequence c (.sessionCommit s e k)).value.2.PostedAs (.sessionCommit s e k)
        (start sequence c (.sessionPost s e)).value.2) ∧
    ∀ c answer, ∃ c' outcome callback,
      (finish c answer (.sessionPost s e)).value = (c', .dispatch outcome) ∧
      (finish c answer (.sessionCommit s e k)).value = (c', .commit callback) ∧
      k.Takes outcome callback := by
  refine ⟨fun sequence answer c => ?_, (sessionCommit s e k).postedAs_start, fun c answer => ?_⟩
  · have hpost := value_start_sessionPost sequence c s e
    have hcommit := value_start_sessionCommit sequence c s e k
    cases hs : s.isCurrent c.state with
    | true =>
      rw [hs, if_pos rfl] at hpost hcommit
      exact ⟨c, _, _, _, value_run_of_waiting hpost answer, value_run_of_waiting hcommit answer,
        k.takes_run e.port _⟩
    | false =>
      rw [hs, if_neg Bool.false_ne_true] at hpost hcommit
      exact ⟨c, _, _, _, value_run_of_ended hpost answer, value_run_of_ended hcommit answer,
        k.takes_run e.port _⟩
  · exact ⟨c, _, _, rfl, rfl, k.takes_run e.port _⟩

end Call
end SemanticClient
