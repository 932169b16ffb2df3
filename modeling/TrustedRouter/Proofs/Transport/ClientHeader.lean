import TrustedRouter.Proofs.Telemetry.Header
import TrustedRouter.Proofs.Transport.HeaderLayers
import TrustedRouter.Proofs.Transport.TwoRuns

/-!
# `TrustedRouter.Proofs.Transport.ClientHeader`: the header of every attempt

`Reached` are the states the retry loop comes to before a turn, with any answers, failures
and delays so far. `reached_between` says that the recorder then has one record an attempt: a
turn that goes on to another attempt has recorded its own. The one turn that records nothing
is one whose headers could not be assembled, and that failure is never retried.

With the recorder's side (`Proofs.Telemetry.Header`) this settles the header of every attempt
of every call (`clientHeader_wellFormed`). The turns of a run of the loop, dropped or not,
all begin in such a state (`reached_of_turn`), so the requests of a whole run carry these
headers and no other (`course_clientHeader`).
-/

set_option autoImplicit false

namespace TrustedRouter.Proofs.Transport

open TrustedRouter.Transport
open TrustedRouter.Telemetry (Host hostEnum)
open TrustedRouter.Proofs.Telemetry.Header
open TrustedRouter.Proofs.Telemetry.Recorder
open Rust.Str (bytes)
open Whatwg (Url)

/-! ## The states before a turn -/

/-- The loop of a recorded call can be in this state before a turn. -/
inductive Reached (env : Environment) (call : Call) (candidates : List Url) :
    LoopState → Prop where
  | start : Reached env call candidates
      { attempt := 0, cursor := .new candidates.length, recorder := some [] }
  | next {state next : LoopState} (url : Url) {delay : Nat}
      (hstate : Reached env call candidates state)
      (hurl : candidates[state.cursor.index]? = some url)
      (hstep : (step env call state url).2 = .sleeps delay next) :
      Reached env call candidates next

section
variable {env : Environment} {call : Call} {observer : Observer} {standing : Standing}
  {seen : List Seen} {host : Host}

/-! ## A turn that goes on -/

/-- A failure of `send_once` is recorded, unless it is one of the configuration. Such a failure is
not retried, so that its attempt is never spoken of in a header. -/
theorem noted_of_send_error {recorder : Recorder} {attempt : Nat} {url : Url} {error : Error}
    (h : Logged observer recorder (Attempting standing seen host none))
    (herror : (sendOnce env call attempt url recorder).result = .error error)
    (hretry : retryableTransport error = true) :
    Logged observer (sendOnce env call attempt url recorder).recorder
      (Attempting standing seen host (some false)) := by
  have hrecord : ∀ failure, Logged observer (recorder.call (.record failure false false))
      (Attempting standing seen host (some false)) := by
    intro failure
    exact h.call _ fun state now hstate => attempting_record hstate rfl now failure false false
  unfold sendOnce at herror ⊢
  dsimp only at herror ⊢
  split at herror
  · rename_i other hheaders
    cases herror
    -- Headers that do not assemble are a mistake that is not retried.
    obtain ⟨detail, rfl⟩ := requestHeaders_error hheaders
    cases hretry
  · split at herror
    · exact hrecord _
    · split at herror
      · cases herror
      · exact hrecord _

/-- A response is not recorded by `send_once`, but by the `match` that follows it. -/
theorem begun_of_send_ok {recorder : Recorder} {attempt : Nat} {url : Url} {response : Response}
    (h : (sendOnce env call attempt url recorder).result = .ok response) :
    (sendOnce env call attempt url recorder).recorder = recorder := by
  unfold sendOnce at h ⊢
  dsimp only at h ⊢
  split at h
  · cases h
  · split at h
    · cases h
    · split at h
      · rfl
      · cases h

/-- A failure that may be retried has its record, with a response or without one. -/
theorem noted_of_disposes {recorder after : Recorder} {attempt : Nat} {url : Url}
    {disposition : FailureDisposition}
    (h : Logged observer recorder (Attempting standing seen host none))
    (hjudge : judge env (sendOnce env call attempt url recorder).result
      (sendOnce env call attempt url recorder).recorder = (.disposes disposition, after))
    (hretry : disposition.retry = true) :
    Logged observer after (Attempting standing seen host (some false)) := by
  cases hresult : (sendOnce env call attempt url recorder).result with
  | error error =>
      rw [hresult] at hjudge
      cases hjudge
      exact noted_of_send_error h hresult hretry
  | ok response =>
      rw [begun_of_send_ok hresult, hresult] at hjudge
      have hresponse : Logged observer
          (recorder.call (.onResponse response.status response.headers))
          (Attempting standing seen host (some false)) :=
        h.call _ fun state now hstate =>
          hstate.onResponse observer.untilHttpDate now response.status response.headers none
      simp only [judge] at hjudge
      split at hjudge
      · cases hjudge
      split at hjudge
      · cases hjudge
        exact hresponse.call _ fun state now hstate => hstate.onResponseBodyComplete now _
      · -- The body of the failure could not be read.
        rename_i failure _
        split at hjudge
        · cases hjudge
          exact hresponse.call _ fun state now hstate =>
            attempting_record hstate rfl now failure true false
        · cases hjudge

/-- A turn that goes on has recorded its attempt, and counts it. -/
theorem noted_of_sleeps {state next : LoopState} {url : Url} {delay : Nat}
    (h : Logged observer (begunOf state url) (Attempting standing seen host none))
    (hstep : (step env call state url).2 = .sleeps delay next) :
    next.attempt = state.attempt + 1 ∧
      ∃ moved, Logged observer next.recorder (Attempting standing seen host (some moved)) := by
  simp only [step] at hstep
  split at hstep
  · cases hstep
  · rename_i disposition recorder hjudge
    unfold applyPolicy at hstep
    split at hstep
    · cases hstep
    · rename_i hgoes
      simp only [Bool.or_eq_true, not_or, Bool.not_eq_true', Bool.not_eq_false] at hgoes
      have hnoted := noted_of_disposes h hjudge hgoes.1.2
      -- A move is noted on top of the record of the failure.
      have hafter : ∀ moved : Bool, Logged observer
          (if moved then recorder.call .onMoved else recorder)
          (Attempting standing seen host (some moved)) := by
        intro moved
        cases moved with
        | false => exact hnoted
        | true => exact hnoted.call .onMoved fun state now hstate => hstate.onMoved
      cases hstep
      exact ⟨rfl, _, hafter _⟩

/-- Before every turn the recorder has one record an attempt. -/
theorem reached_between {candidates : List Url} {state : LoopState} (observer : Observer)
    (h : Reached env call candidates state) :
    ∃ seen, seen.length = state.attempt ∧
      Logged observer state.recorder (Between (standingOf (.new observer.spec)) seen) := by
  induction h with
  | start => exact ⟨[], rfl, [], rfl, between_new observer.spec⟩
  | next url _ _ hstep ih =>
      obtain ⟨seen, hlength, hbetween⟩ := ih
      have hbegun := hbetween.call (.beginAttempt url) fun recorder now hready =>
        hready.beginAttempt observer.backend now url
      obtain ⟨hattempt, moved, hooks, hlog, hnoted⟩ := noted_of_sleeps hbegun hstep
      refine ⟨_, ?_, hooks, hlog, hnoted.between⟩
      rw [List.length_append, hlength, hattempt]
      rfl

end

/-! ## Every attempt -/

/-- The header of attempt `i` is withheld exactly past attempt 99 and on a custom host, and is
otherwise well formed. -/
theorem clientHeader_wellFormed (env : Environment) (call : Call) (observer : Observer)
    (candidates : List Url) (state : LoopState) (url : Url)
    (hreached : Reached (env.watchedBy observer) call candidates state) :
    (Option.bind (begunOf state url) (env.watchedBy observer).headerValue = none ↔
      99 < state.attempt ∨ hostEnum observer.backend url = .custom) ∧
    ∀ text, Option.bind (begunOf state url) (env.watchedBy observer).headerValue = some text →
      IsHeader state.attempt text := by
  obtain ⟨seen, hlength, hooks, hlog, hbetween⟩ := reached_between observer hreached
  have hbegun := hbetween.beginAttempt observer.backend (observer.clock hooks.length) url
  have hheader : Option.bind (begunOf state url) (env.watchedBy observer).headerValue =
      ((observer.replay hooks).beginAttempt observer.backend (observer.clock hooks.length)
        url).headerValue := by
    show Option.bind (Recorder.call state.recorder _) _ = _
    rw [hlog]
    exact congrArg Telemetry.RequestRecorder.headerValue
      (replay_concat observer hooks (.beginAttempt url))
  rw [hheader, ← hlength]
  exact header_of_attempting hbegun

/-- The state of the keyed POST before its second attempt: the first was reset. -/
def resetState : LoopState where
  attempt := 1
  cursor := { index := 1, len := 2 }
  recorder := some
    [.beginAttempt
       { scheme := "https"
         host := some "api.trustedrouter.com"
         path := .segments ["v1", "chat", "completions"] },
     .record (.transport { message := "connection reset", isTimeout := false }) false false,
     .onMoved]

/-- The second attempt goes to the first alias, and says what became of the first. -/
theorem clientHeader_wellFormed_reset :
    Reached (resetOnce.watchedBy chatObserver) keyedPost chatCandidates resetState ∧
    IsHeader 1 "v=1;a=1;po=transport_error;pc=reset;ph=apex;pm=0;sm=0;s=0;fo=1" := by
  have hreached :
      Reached (resetOnce.watchedBy chatObserver) keyedPost chatCandidates resetState :=
    .next _ .start rfl rfl
  refine ⟨hreached, ?_⟩
  exact (clientHeader_wellFormed resetOnce keyedPost chatObserver chatCandidates resetState
    { scheme := "https"
      host := some "api.allyrouter.com"
      path := .segments ["v1", "chat", "completions"] } hreached).2 _ (by decide +kernel)

/-! ## Whole runs -/

/-- Turn `i` of a run from a reached state begins `i` attempts later, in a reached state. -/
theorem reached_of_turn {env : Environment} {call : Call} {drops : Nat → Option Await}
    {candidates : List Url} {fuel i : Nat} {state : LoopState} {turn : Turn}
    (hreached : Reached env call candidates state)
    (hturn : (runUntil env call drops candidates fuel state).turns[i]? = some turn) :
    ∃ begin, Reached env call candidates begin ∧ begin.attempt = state.attempt + i ∧
      turn.request = (sentOf env call begin turn.url).request := by
  induction fuel generalizing state i with
  | zero => simp [runUntil] at hturn
  | succ fuel ih =>
      rw [runUntil] at hturn
      cases hurl : candidates[state.cursor.index]? with
      | none => simp [hurl] at hturn
      | some url =>
          rw [hurl] at hturn
          dsimp only at hturn
          have hturned := stepUntil_turned env call (drops state.attempt) state url
          have hgoes := @step_of_goes env call (drops state.attempt) state
          -- The first turn begins in the state itself.
          have hfirst : (stepUntil env call (drops state.attempt) state url).1.url = url ∧
              (stepUntil env call (drops state.attempt) state url).1.request =
                (sentOf env call state url).request := by
            refine ⟨?_, request_stepUntil env call _ state url⟩
            generalize stepUntil env call (drops state.attempt) state url = turned at hturned
            cases hturned <;> rfl
          rcases hstep : stepUntil env call (drops state.attempt) state url with
            ⟨first, ending | next⟩
          · rw [hstep] at hturn hfirst
            cases i with
            | zero =>
                cases hturn
                obtain ⟨rfl, hrequest⟩ := hfirst
                exact ⟨state, hreached, rfl, hrequest⟩
            | succ i => simp at hturn
          · rw [hstep] at hturn hfirst
            cases i with
            | zero =>
                cases hturn
                obtain ⟨rfl, hrequest⟩ := hfirst
                exact ⟨state, hreached, rfl, hrequest⟩
            | succ i =>
                obtain ⟨attempt, delay, hloop⟩ := hgoes (congrArg Prod.snd hstep)
                have hnext := hreached.next url hurl (congrArg Prod.snd hloop)
                obtain ⟨begin, hbegin, hattempt, hrequest⟩ := ih hnext hturn
                obtain ⟨-, -, -, hcount, -, -⟩ := step_sleeps hloop
                refine ⟨begin, hbegin, ?_, hrequest⟩
                omega

/-- The requests of a recorded call: attempt `i` carries one header of its own, unless it is
past attempt 99 or on a custom host. -/
theorem course_clientHeader (env : Environment) (call : Call) (observer : Observer)
    (drops : Nat → Option Await) (candidates : List Url) {i : Nat} {turn : Turn}
    {request : Request}
    (hturn : (executeUntil (env.watchedBy observer) call drops candidates).turns[i]? = some turn)
    (hrequest : turn.request = some request) :
    if 99 < i ∨ hostEnum observer.backend turn.url = .custom then
      request.headers.getAll "x-tr-client" = []
    else ∃ text, request.headers.getAll "x-tr-client" = [bytes text] ∧ IsHeader i text := by
  obtain ⟨state, hreached, hattempt, hsent⟩ := reached_of_turn .start hturn
  rw [Nat.zero_add] at hattempt
  have hvalues := TwoRuns.getAll_sendOnce (hsent.symm.trans hrequest)
  obtain ⟨hnone, hsome⟩ :=
    clientHeader_wellFormed env call observer candidates state turn.url hreached
  rw [hattempt] at hnone hsome
  rw [hvalues]
  cases hheader : Option.bind (begunOf state turn.url) (env.watchedBy observer).headerValue with
  | none =>
      rw [if_pos (hnone.mp hheader)]
      rfl
  | some text =>
      rw [if_neg fun hwithheld => by cases hheader.symm.trans (hnone.mpr hwithheld)]
      refine ⟨text, ?_, hsome text hheader⟩
      obtain ⟨hooks, -, hvalue⟩ := Option.bind_eq_some_iff.mp hheader
      rw [Option.bind_some, parseValue_headerValue hvalue]
      rfl

end TrustedRouter.Proofs.Transport
