import TrustedRouter.Proofs.Telemetry.Recorder
import TrustedRouter.Proofs.Transport.Headers
import TrustedRouter.Proofs.Transport.Turns

/-!
# `TrustedRouter.Proofs.Transport.Recorded`: telemetry agrees with the engine

The engine and its recorder are followed side by side, one lemma a stage of a turn:
`afterSend`, `afterJudge`, `afterPolicy`. Each says what the stage leaves in the recorder, in
terms of the attempts that were seen. `turnTracked` puts them together for a turn that can be
dropped at each of its awaits, and `runTracked` is the loop, by induction on the fuel.

Two things carry the argument. A hook that overwrites a record keeps its place and its host, and
clears the moved bit only before the cursor moves. And the recorder of a dropped future still is
in the attempt that was under way, which it reports as aborted, with the moved bit it has.
-/

set_option autoImplicit false

namespace TrustedRouter.Proofs.Transport

open TrustedRouter.Transport
open TrustedRouter.Telemetry (AttemptRecord CounterKey CounterRow ErrorClass Host Report
  RequestRecorder hostEnum finalizeHeader)
open TrustedRouter.Proofs.Telemetry.Recorder
open Rust.Str (bytes)
open Rust.Result
open Whatwg (Url Backend)

/-! ## The log and its recorder -/

/-- A log is replayed from its first hook on, so that the last hook is applied last, at the time
of its place in the log. -/
theorem replay_concat (observer : Observer) (hooks : List Hook) (hook : Hook) :
    observer.replay (hooks ++ [hook]) =
      observer.apply (observer.clock hooks.length) (observer.replay hooks) hook := by
  simp only [Observer.replay, List.zipIdx_append, List.foldl_append, List.zipIdx_cons,
    List.zipIdx_nil, List.foldl_cons, List.foldl_nil, Nat.zero_add]

/-- The log of a recorded call, and what its recorder is like. -/
def Logged (observer : Observer) (recorder : Recorder) (p : RequestRecorder → Prop) : Prop :=
  ∃ hooks, recorder = some hooks ∧ p (observer.replay hooks)

/-- A hook on the log is the hook on its recorder. -/
theorem Logged.call {observer : Observer} {recorder : Recorder} {p q : RequestRecorder → Prop}
    (h : Logged observer recorder p) (hook : Hook)
    (hhook : ∀ state now, p state → q (observer.apply now state hook)) :
    Logged observer (recorder.call hook) q := by
  obtain ⟨hooks, rfl, hp⟩ := h
  refine ⟨hooks ++ [hook], rfl, ?_⟩
  rw [replay_concat]
  exact hhook _ _ hp

/-- What a turn amounts to for the recorder. -/
def seenOf (lib : Backend) (turn : Turn) : Seen := ⟨hostEnum lib turn.url, turn.moved⟩

section
variable {env : Environment} {call : Call} {observer : Observer} {seen : List Seen}
  {host : Host}

/-- A failure that is recorded: the attempt is noted as one that has not moved. A deadline is
recorded as a read timeout, and any other failure by its class. -/
theorem attempting_record {standing : Standing} {noted : Option Bool}
    {recorder : RequestRecorder} (h : Attempting standing seen host noted recorder)
    (hnoted : noted.getD false = false) (now : Nat) (failure : AttemptFailure)
    (responseOpened bodyStarted : Bool) :
    Attempting standing seen host (some false)
      (failure.record observer.classify now responseOpened bodyStarted recorder) := by
  cases failure with
  | deadline => exact h.onTransportError hnoted now .readTimeout true responseOpened bodyStarted
  | transport error =>
      exact h.onTransportError hnoted now (observer.classify error) error.isTimeout
        responseOpened bodyStarted

/-! ## One turn -/

/-- The header of a request agrees with what was seen before it. -/
def HeaderAgrees (seen : List Seen) (request : Option Request) : Prop :=
  ∀ sent value, request = some sent → value ∈ sent.headers.getAll "x-tr-client" →
    ∃ fields text, value = bytes text ∧ finalizeHeader fields = some text ∧
      FieldsAgree seen fields

/-- The reserved header holds the recorder's value or nothing. -/
theorem mem_enforce {headers : Http.HeaderMap} {telemetry : Option String} {value : Rust.Bytes}
    (h : value ∈ (enforceReservedTelemetryHeader headers telemetry).getAll "x-tr-client") :
    ∃ text, telemetry = some text ∧ value = bytes text := by
  rw [getAll_enforce, Option.mem_toList] at h
  obtain ⟨text, htelemetry, htext⟩ := Option.bind_eq_some_iff.mp h
  refine ⟨text, htelemetry, ?_⟩
  unfold Http.parseValue at htext
  split at htext
  · cases htext
    rfl
  · cases htext

/-- What `send_once` leaves of the attempt in the recorder. -/
def AfterSend (observer : Observer) (seen : List Seen) (host : Host) (sent : Sent) : Prop :=
  HeaderAgrees seen sent.request ∧
    match sent.result with
    | .ok _ => Logged observer sent.recorder (InFlight seen host none)
    | .error _ => Logged observer sent.recorder (InFlight seen host (some false))

/-- `send_once` on an attempt that has begun. A failure is recorded before it is returned, and a
response is left for the `match` that follows. The headers have to assemble, since otherwise
`send_once` returns without a record. -/
theorem afterSend {recorder : Recorder}
    (henv : env.headerValue = fun hooks => (observer.replay hooks).headerValue)
    (hheaders : ∃ headers,
      requestHeaders env.userAgent call.client call.options none = .ok headers)
    (h : Logged observer recorder (InFlight seen host none)) (attempt : Nat) (url : Url) :
    AfterSend observer seen host (sendOnce env call attempt url recorder) := by
  have hrecord : ∀ failure, Logged observer (recorder.call (.record failure false false))
      (InFlight seen host (some false)) := by
    intro failure
    exact h.call _ fun state now hstate => attempting_record hstate rfl now failure false false
  obtain ⟨headers, hassembled⟩ :=
    requestHeaders_total hheaders (Option.bind recorder env.headerValue)
  -- What the request carries was computed from the hooks called before it was sent.
  have hagrees : ∀ request : Request, HeaderAgrees seen (some
      { request with
        headers := enforceReservedTelemetryHeader request.headers
          (Option.bind recorder env.headerValue) }) := by
    intro request sent value hsent hvalue
    cases hsent
    obtain ⟨text, htelemetry, hbytes⟩ := mem_enforce hvalue
    obtain ⟨hooks, rfl, hflight⟩ := h
    rw [Option.bind_some, henv] at htelemetry
    obtain ⟨fields, hfields, hfieldsAgree⟩ := hflight.headerValue htelemetry
    exact ⟨fields, text, hbytes, hfields, hfieldsAgree⟩
  unfold sendOnce
  dsimp only
  rw [hassembled]
  dsimp only
  split
  · refine ⟨?_, hrecord _⟩
    intro sent value hsent
    cases hsent
  · rename_i request _
    split
    · exact ⟨hagrees request, h⟩
    · exact ⟨hagrees request, hrecord _⟩

/-- What the `match` on the result leaves of the attempt in the recorder. -/
def AfterJudge (observer : Observer) (seen : List Seen) (host : Host) :
    Judgement × Recorder → Prop
  | (.returns (.ok _), recorder) => Logged observer recorder (Opened seen host)
  | (.returns (.error _), recorder) =>
      Logged observer recorder (Settled (seen ++ [⟨host, false⟩]))
  | (.disposes _, recorder) => Logged observer recorder (InFlight seen host (some false))

/-- The `match` on the result. A success hands on a recorder whose call is open, and a failure
that is final has been reported. Any other failure is recorded, and left for the policy. -/
theorem afterJudge {sent : Sent} (h : AfterSend observer seen host sent) :
    AfterJudge observer seen host (judge env sent.result sent.recorder) := by
  obtain ⟨-, hsent⟩ := h
  cases hresult : sent.result with
  | error error =>
      rw [hresult] at hsent
      exact hsent
  | ok response =>
      rw [hresult] at hsent
      have hresponse : Logged observer
          (sent.recorder.call (.onResponse response.status response.headers))
          (InFlight seen host (some false)) :=
        hsent.call _ fun state now hstate =>
          hstate.onResponse observer.untilHttpDate now response.status response.headers none
      simp only [judge]
      split
      · rename_i hsuccess
        rw [Response.isSuccess, Bool.and_eq_true, decide_eq_true_eq, decide_eq_true_eq] at hsuccess
        exact hsent.call _ fun state now hstate =>
          hstate.opened observer.untilHttpDate now (by omega) response.headers none
      split
      · exact hresponse.call _ fun state now hstate => hstate.onResponseBodyComplete now _
      · -- The body of the failure could not be read.
        rename_i failure _
        have hfailed : Logged observer
            ((sent.recorder.call (.onResponse response.status response.headers)).call
              (.record failure true false)) (InFlight seen host (some false)) :=
          hresponse.call _ fun state now hstate =>
            attempting_record hstate rfl now failure true false
        split
        · exact hfailed
        · exact hfailed.call _ fun state now hstate => hstate.finish now false

/-- What a whole turn leaves of the attempt in the recorder. The cursor was at `index`. -/
def AfterTurn (observer : Observer) (seen : List Seen) (host : Host) (index : Nat) :
    Next → Prop
  | .returns (.ok _) recorder => Logged observer recorder (Opened seen host)
  | .returns (.error _) recorder =>
      Logged observer recorder (Settled (seen ++ [⟨host, false⟩]))
  | .sleeps _ next =>
      Logged observer next.recorder (InFlight seen host (some (index < next.cursor.index)))

/-- The cursor moves forward when it says so, and stays otherwise. -/
theorem advance_moved (cursor : CandidateCursor) :
    cursor.advance.2 = decide (cursor.index < cursor.advance.1.index) := by
  unfold CandidateCursor.advance
  split <;> simp

/-- The policy of a turn: it finishes the call, or goes on after a sleep. The moved bit of the
record is set exactly when the cursor moved. -/
theorem afterPolicy {state : LoopState} {recorder : Recorder}
    {disposition : FailureDisposition}
    (h : Logged observer recorder (InFlight seen host (some false))) :
    AfterTurn observer seen host state.cursor.index
      (applyPolicy env call state disposition recorder) := by
  unfold applyPolicy
  split
  · exact h.call _ fun state now hstate => hstate.finish now _
  · -- The hook is called just when the cursor moved on.
    have hmoved : (if disposition.failover then state.cursor.advance
          else (state.cursor, false)).2 =
        decide (state.cursor.index < (if disposition.failover then state.cursor.advance
          else (state.cursor, false)).1.index) := by
      split
      · exact advance_moved state.cursor
      · simp
    dsimp only [AfterTurn]
    rw [← hmoved]
    generalize (if disposition.failover then state.cursor.advance
      else (state.cursor, false)).2 = moved
    cases moved with
    | false => exact h
    | true => exact h.call _ fun state now hstate => hstate.onMoved

/-- A whole turn, from the three stages of it. -/
theorem afterTurn {state : LoopState} {url : Url}
    (henv : env.headerValue = fun hooks => (observer.replay hooks).headerValue)
    (hheaders : ∃ headers,
      requestHeaders env.userAgent call.client call.options none = .ok headers)
    (h : Logged observer (state.recorder.call (.beginAttempt url)) (InFlight seen host none)) :
    AfterTurn observer seen host state.cursor.index (step env call state url).2 := by
  have hjudge := @afterJudge env observer seen host _
    (afterSend henv hheaders h state.attempt url)
  simp only [step]
  rcases hjudged : judge env
      (sendOnce env call state.attempt url (state.recorder.call (.beginAttempt url))).result
      (sendOnce env call state.attempt url
        (state.recorder.call (.beginAttempt url))).recorder with ⟨judgement, recorder⟩
  rw [hjudged] at hjudge
  cases judgement with
  | returns result => cases result <;> exact hjudge
  | disposes disposition => exact afterPolicy hjudge

/-! ## A turn that can be dropped -/

/-- What the end of a run leaves of its last attempt in the recorder. -/
def AfterEnding (observer : Observer) (seen : List Seen) (last : Seen) : Ending → Prop
  | .returned (.ok _) recorder =>
      Logged observer recorder (Opened seen last.host) ∧ last.moved = false
  | .returned (.error _) recorder => Logged observer recorder (Settled (seen ++ [last]))
  | .dropped recorder => ∃ noted : Option Bool,
      Logged observer recorder (InFlight seen last.host noted) ∧ noted.getD false = last.moved

/-- What a turn that can be dropped does. -/
structure TurnTracked (observer : Observer) (seen : List Seen) (index : Nat) (url : Url)
    (turned : Turn × (Ending ⊕ LoopState)) : Prop where
  candidate : turned.1.candidate = index
  url : turned.1.url = url
  header : HeaderAgrees seen turned.1.request
  ends : ∀ ending, turned.2 = .inl ending →
    AfterEnding observer seen (seenOf observer.backend turned.1) ending
  goes : ∀ next, turned.2 = .inr next → turned.1.after = next.cursor.index ∧
    Logged observer next.recorder (Ready (seen ++ [seenOf observer.backend turned.1]))

/-- A turn that can be dropped at each of its awaits. A drop while it sends or reads leaves the
attempt where it is. A drop in the sleep comes after the cursor moved, and the record has the
moved bit by then. -/
theorem turnTracked {drop : Option Await} {state : LoopState} {url : Url}
    (henv : env.headerValue = fun hooks => (observer.replay hooks).headerValue)
    (hheaders : ∃ headers,
      requestHeaders env.userAgent call.client call.options none = .ok headers)
    (h : Logged observer state.recorder (Ready seen)) :
    TurnTracked observer seen state.cursor.index url
      (stepUntil env call drop state url) := by
  have hbegun : Logged observer (begunOf state url)
      (InFlight seen (hostEnum observer.backend url) none) :=
    h.call _ fun recorder now hready => hready.beginAttempt observer.backend now url
  have hsent := afterSend henv hheaders hbegun state.attempt url
  have hturn := afterTurn henv hheaders hbegun
  -- A turn that ends where it is, without a move.
  have hends : ∀ ending, AfterEnding observer seen ⟨hostEnum observer.backend url, false⟩ ending →
      TurnTracked observer seen state.cursor.index url
        (turnAt env call state url state.cursor.index, .inl ending) := by
    intro ending hending
    refine ⟨rfl, rfl, hsent.1, fun other hother => ?_, fun next hnext => nomatch hnext⟩
    cases hother
    have hstays : (turnAt env call state url state.cursor.index).moved = false :=
      decide_eq_false (Nat.lt_irrefl _)
    rw [seenOf, hstays]
    exact hending
  have hturned := stepUntil_turned env call drop state url
  generalize stepUntil env call drop state url = turned at hturned ⊢
  cases hturned with
  | sending _ _ => exact hends _ ⟨none, hbegun, rfl⟩
  | @draining response _ hresult _ =>
      refine hends _ ⟨some false, ?_, rfl⟩
      have hresponse := hsent.2
      rw [hresult] at hresponse
      exact hresponse.call _ fun recorder now hstate =>
        hstate.onResponse observer.untilHttpDate now response.status response.headers none
  | @returned result recorder _ hstep =>
      rw [hstep] at hturn
      refine hends _ ?_
      cases result with
      | ok response => exact ⟨hturn, rfl⟩
      | error error => exact hturn
  | slept _ hstep _ =>
      rw [hstep] at hturn
      refine ⟨rfl, rfl, hsent.1, fun ending hending => ?_, nofun⟩
      cases hending
      exact ⟨_, hturn, rfl⟩
  | went _ hstep _ =>
      rw [hstep] at hturn
      refine ⟨rfl, rfl, hsent.1, fun ending hending => ?_, fun other hother => ?_⟩
      · cases hending
      · cases hother
        obtain ⟨hooks, hrecorder, hflight⟩ := hturn
        exact ⟨rfl, hooks, hrecorder, hflight.between⟩

/-! ## The end of the call -/

/-- Whatever the entry point does, the call is reported once: it completes an open call, a dropped
future reports on its own, and a failure has been reported already. -/
theorem settle_settled {last : Seen} {ending : Ending}
    (h : AfterEnding observer seen last ending) (entry : Entry) (now : Nat) :
    ∃ recorder, observer.settle entry now ending = some recorder ∧
      Settled (seen ++ [last]) recorder := by
  cases ending with
  | dropped recorder =>
      obtain ⟨noted, ⟨hooks, rfl, hflight⟩, hmoved⟩ := h
      have hdropped := hflight.drop now
      rw [hmoved] at hdropped
      exact ⟨_, rfl, hdropped⟩
  | returned result recorder =>
      cases result with
      | error error =>
          obtain ⟨hooks, rfl, hsettled⟩ := h
          exact ⟨_, rfl, hsettled.drop now⟩
      | ok response =>
          obtain ⟨⟨hooks, rfl, hopened⟩, hmoved⟩ := h
          have hflight := hopened.toAttempting
          have hlast : (⟨last.host, false⟩ : Seen) = last := by rw [← hmoved]
          -- However the body is read, the stream keeps the attempt or settles it.
          have hstreaming : Streaming seen last.host
              (observer.complete entry response hooks.length (observer.replay hooks)) := by
            unfold Observer.complete
            split
            · exact .inl hflight
            · split
              · exact .inr (hflight.finish _ false)
              · exact .inr ((attempting_record hflight rfl _ _ true false).finish _ false)
            · exact Streaming.run (.inl hflight) observer.clock hooks.length _
          have hdropped := hstreaming.drop now
          rw [hlast] at hdropped
          exact ⟨_, rfl, hdropped⟩

/-! ## The whole run -/

/-- What a run does, from a state with a recorder that has seen some attempts before. -/
structure RunTracked (observer : Observer) (candidates : List Url) (seen : List Seen)
    (index : Nat) (course : Course) : Prop where
  ends : ∃ ending before last, course.ending = some ending ∧
    seen ++ course.turns.map (seenOf observer.backend) = before ++ [last] ∧
    AfterEnding observer before last ending
  first : ∃ turn rest, course.turns = turn :: rest ∧ turn.candidate = index
  targets : ∀ turn ∈ course.turns, candidates[turn.candidate]? = some turn.url
  follows : ∀ i a b, course.turns[i]? = some a → course.turns[i + 1]? = some b →
    b.candidate = a.after
  headers : ∀ i turn, course.turns[i]? = some turn →
    HeaderAgrees (seen ++ (course.turns.take i).map (seenOf observer.backend)) turn.request

/-- The loop from any state within its bounds. -/
theorem runTracked {drops : Nat → Option Await} {candidates : List Url} (fuel : Nat)
    {state : LoopState}
    (henv : env.headerValue = fun hooks => (observer.replay hooks).headerValue)
    (hheaders : ∃ headers,
      requestHeaders env.userAgent call.client call.options none = .ok headers)
    (hwithin : Within call candidates fuel state)
    (h : Logged observer state.recorder (Ready seen)) :
    RunTracked observer candidates seen state.cursor.index
      (runUntil env call drops candidates fuel state) := by
  induction fuel generalizing state seen with
  | zero => exact absurd hwithin not_within_zero
  | succ fuel ih =>
      have hindex := hwithin.index
      have hurl : candidates[state.cursor.index]? = some candidates[state.cursor.index] :=
        List.getElem?_eq_getElem hindex
      have hturn := @turnTracked env call observer seen (drops state.attempt) state
        candidates[state.cursor.index] henv hheaders h
      simp only [runUntil, hurl]
      rcases hstep : stepUntil env call (drops state.attempt) state
        candidates[state.cursor.index] with ⟨turn, ending | next⟩
      · rw [hstep] at hturn
        refine ⟨⟨ending, seen, seenOf observer.backend turn, rfl, rfl, hturn.ends ending rfl⟩,
          ⟨turn, [], rfl, hturn.candidate⟩, ?_, ?_, ?_⟩
        · intro other hother
          rw [List.mem_singleton.mp hother, hturn.candidate, hturn.url, hurl]
        · intro i a b _ hb
          cases i <;> cases hb
        · intro i other hother
          cases i with
          | zero =>
              cases hother
              rw [List.take_zero, List.map_nil, List.append_nil]
              exact hturn.header
          | succ i => cases hother
      · rw [hstep] at hturn
        obtain ⟨hafter, hready⟩ := hturn.goes next rfl
        -- The rest of the run has seen one turn more.
        have hrest := ih (hwithin.next (congrArg Prod.snd hstep)) hready
        obtain ⟨second, others, hturns, hsecond⟩ := hrest.first
        refine ⟨?_, ⟨turn, _, rfl, hturn.candidate⟩, ?_, ?_, ?_⟩
        · obtain ⟨ending, before, last, hending, hsplit, hafterEnding⟩ := hrest.ends
          rw [List.append_assoc] at hsplit
          exact ⟨ending, before, last, hending, hsplit, hafterEnding⟩
        · intro other hother
          rcases List.mem_cons.mp hother with rfl | hother
          · rw [hturn.candidate, hturn.url, hurl]
          · exact hrest.targets other hother
        · intro i a b ha hb
          cases i with
          | zero =>
              cases ha
              rw [List.getElem?_cons_succ, hturns] at hb
              cases hb
              rw [hsecond, hafter]
          | succ i => exact hrest.follows i a b ha hb
        · intro i other hother
          cases i with
          | zero =>
              cases hother
              rw [List.take_zero, List.map_nil, List.append_nil]
              exact hturn.header
          | succ i =>
              have hheader := hrest.headers i other hother
              rw [List.append_assoc] at hheader
              exact hheader

/-- The loop of a recorded call, from its first turn. -/
theorem executeUntil_tracked (env : Environment) {call : Call} {candidates : List Url}
    (hcandidates : candidates ≠ []) (hmethod : call.method = .get ∨ call.method = .post)
    (hheaders : ∃ headers,
      requestHeaders env.userAgent call.client call.options none = .ok headers)
    (path : String) (streaming : Bool) (classify : ReqwestError → ErrorClass)
    (clock : Nat → Nat) (drops : Nat → Option Await) :
    RunTracked (env.observer call path streaming classify clock) candidates [] 0
      (executeUntil (env.watchedBy (env.observer call path streaming classify clock)) call drops
        candidates) :=
  @runTracked (env.watchedBy (env.observer call path streaming classify clock)) call
    (env.observer call path streaming classify clock) [] drops candidates
    (call.client.maxRetries + 1)
    { attempt := 0, cursor := .new candidates.length, recorder := some [] }
    rfl hheaders (within_start call hcandidates (some [])) ⟨[], rfl, ready_new hmethod⟩

/-! ## Calls that are answered -/

/-- A turn that returns a success has assembled its headers. -/
theorem step_answered {state : LoopState} {url : Url} {response : Response}
    {recorder : Recorder} (h : (step env call state url).2 = .returns (.ok response) recorder) :
    ∃ headers, requestHeaders env.userAgent call.client call.options none = .ok headers := by
  cases hassembled : requestHeaders env.userAgent call.client call.options
      (Option.bind (state.recorder.call (.beginAttempt url)) env.headerValue) with
  | ok headers => exact requestHeaders_total ⟨headers, hassembled⟩ none
  | error error =>
      -- The policy has no success to return.
      simp only [step, sendOnce, hassembled, judge, applyPolicy] at h
      split at h <;> cases h

/-- A run that returns a success had a candidate, and headers to send. -/
theorem runUntil_answered {drops : Nat → Option Await} {candidates : List Url} {fuel : Nat}
    {state : LoopState} {response : Response} {recorder : Recorder}
    (h : (runUntil env call drops candidates fuel state).ending =
      some (.returned (.ok response) recorder)) :
    candidates ≠ [] ∧
      ∃ headers, requestHeaders env.userAgent call.client call.options none = .ok headers := by
  induction fuel generalizing state with
  | zero => cases h
  | succ fuel ih =>
      simp only [runUntil] at h
      cases hurl : candidates[state.cursor.index]? with
      | none =>
          rw [hurl] at h
          cases h
      | some url =>
          rw [hurl] at h
          dsimp only at h
          rcases hstep : stepUntil env call (drops state.attempt) state url with
            ⟨turn, ending | next⟩
          · rw [hstep] at h
            cases h
            refine ⟨?_, step_answered (step_of_returned (congrArg Prod.snd hstep))⟩
            rintro rfl
            cases hurl
          · rw [hstep] at h
            -- A turn that goes on does not answer; the answer is the rest's.
            exact ih h

/-- The recorder that a recorded call hands to its entry point with a success. -/
theorem executeUntil_opened (env : Environment) {call : Call} {candidates : List Url}
    (hmethod : call.method = .get ∨ call.method = .post)
    {path : String} {streaming : Bool} {classify : ReqwestError → ErrorClass}
    {clock : Nat → Nat} {drops : Nat → Option Await} {response : Response}
    {recorder : Recorder}
    (h : (executeUntil (env.watchedBy (env.observer call path streaming classify clock)) call
      drops candidates).ending = some (.returned (.ok response) recorder)) :
    ∃ seen host,
      Logged (env.observer call path streaming classify clock) recorder (Opened seen host) := by
  obtain ⟨hcandidates, hheaders⟩ := runUntil_answered h
  obtain ⟨ending, before, last, hending, -, hafter⟩ :=
    (executeUntil_tracked env hcandidates hmethod hheaders path streaming classify clock
      drops).ends
  rw [h] at hending
  cases hending
  exact ⟨before, last.host, hafter.1⟩

/-- A run that nothing drops is one of the loop, with the same attempts and the same result. -/
theorem runUntil_eq_runLoop (env : Environment) (call : Call) (candidates : List Url)
    (fuel : Nat) (state : LoopState) :
    (runUntil env call (fun _ => none) candidates fuel state).turns.map
        (fun turn => (turn.candidate, turn.url, turn.request)) =
      (runLoop env call candidates fuel state).attempts.map
        (fun attempt => (attempt.candidate, attempt.url, attempt.request)) ∧
    (runUntil env call (fun _ => none) candidates fuel state).ending =
      (runLoop env call candidates fuel state).result.map
        (fun result => .returned result.1 result.2) := by
  induction fuel generalizing state with
  | zero => exact ⟨rfl, rfl⟩
  | succ fuel ih =>
      simp only [runUntil, runLoop]
      cases candidates[state.cursor.index]? with
      | none => exact ⟨rfl, rfl⟩
      | some url =>
          -- The turn's request is that of `send_once`, whatever became of it.
          have hrequest : (step env call state url).1.request =
              (sendOnce env call state.attempt url
                (state.recorder.call (.beginAttempt url))).request := by
            simp only [step]
            split <;> rfl
          obtain ⟨hcandidate, htarget⟩ := step_attempt env call state url
          rcases hstep : step env call state url with ⟨attempt, result | ⟨delay, next⟩⟩
          all_goals
            rw [hstep] at hrequest hcandidate htarget
            dsimp only at hrequest hcandidate htarget
            simp only [stepUntil, hstep, reduceCtorEq, false_and, if_false, List.map_cons,
              List.map_nil, hrequest, hcandidate, htarget]
          · exact ⟨trivial, rfl⟩
          · obtain ⟨hturns, hending⟩ := ih next
            exact ⟨by rw [hturns], hending⟩

/-! ## The report of a call -/

/-- A report agrees with what the engine did in its turns. -/
structure TelemetryAgrees (lib : Backend) (turns : List Turn) (report : Report) : Prop where
  /-- One record an attempt that began. -/
  count : report.event.attempts.length = turns.length
  records : ∀ (i : Nat) (record : AttemptRecord), report.event.attempts[i]? = some record →
    ∃ turn : Turn, turns[i]? = some turn ∧ record.index = i ∧ record.host = hostEnum lib turn.url ∧
      (record.moved = true ↔ turn.candidate < turn.after)
  failover : report.event.failoverUsed = true ↔
    ∃ record ∈ report.event.attempts, record.moved = true
  /-- The header of an attempt names the attempt, the host of the one before it, and whether
  the cursor has moved. -/
  headers : ∀ (i : Nat) (turn : Turn) (request : Request) (value : Rust.Bytes),
    turns[i]? = some turn → turn.request = some request →
    value ∈ request.headers.getAll "x-tr-client" → ∃ fields text, value = bytes text ∧
      finalizeHeader fields = some text ∧ fields.lookup "a" = some (toString i) ∧
      ∀ j, i = j + 1 → ∃ previous : AttemptRecord, report.event.attempts[j]? = some previous ∧
        fields.lookup "ph" = some previous.host.asStr ∧
        fields.lookup "fo" = some (if (turns.take i).any Turn.moved then "1" else "0")
  /-- One row for the call and one an attempt. -/
  counters : ∃ (request : CounterKey × CounterRow) (rows : List (CounterKey × CounterRow)),
    report.counters = request :: rows ∧
    request.1.level = .request ∧ request.2.attempts = report.event.attempts.length ∧
    rows.length = report.event.attempts.length ∧
    ∀ (i : Nat) (record : AttemptRecord) (row : CounterKey × CounterRow),
      report.event.attempts[i]? = some record → rows[i]? = some row →
      row.1.level = .attempt ∧ row.1.host = record.host ∧ row.1.outcome = record.outcome ∧
        row.2.failoverUsed = record.moved.toNat

/-- A turn moved in what the recorder saw exactly when the cursor did. -/
theorem any_moved (lib : Backend) (turns : List Turn) :
    (turns.map (seenOf lib)).any Seen.moved = turns.any Turn.moved :=
  List.any_map

section
variable {lib : Backend} {turns : List Turn} {report : Report}

/-- There is one record a turn, since the records are those of what was seen. -/
theorem count_of_reports (h : Reports (turns.map (seenOf lib)) report) :
    report.event.attempts.length = turns.length := by
  rw [h.attempts.length, List.length_map]

/-- The record of an attempt has the place, the host and the move of its turn. -/
theorem turn_of_record (h : Reports (turns.map (seenOf lib)) report) {i : Nat}
    {record : AttemptRecord} (hget : report.event.attempts[i]? = some record) :
    ∃ turn : Turn, turns[i]? = some turn ∧ record.index = i ∧
      record.host = hostEnum lib turn.url ∧ record.moved = turn.moved := by
  obtain ⟨hindex, hseen⟩ := h.attempts.record hget
  rw [List.getElem?_map] at hseen
  obtain ⟨turn, hturn, hboth⟩ := Option.map_eq_some_iff.mp hseen
  have hhost := congrArg Seen.host hboth
  have hmoved := congrArg Seen.moved hboth
  exact ⟨turn, hturn, hindex, hhost.symm, hmoved.symm⟩

/-- The call is reported as failed over if and only if a record says that it moved. -/
theorem failover_of_reports (h : Reports (turns.map (seenOf lib)) report) :
    report.event.failoverUsed = true ↔
      ∃ record ∈ report.event.attempts, record.moved = true := by
  have hcount := count_of_reports h
  rw [h.failover, any_moved, List.any_eq_true]
  constructor
  · rintro ⟨turn, hmem, hmoved⟩
    obtain ⟨i, hi, rfl⟩ := List.mem_iff_getElem.mp hmem
    have hlt : i < report.event.attempts.length := by omega
    obtain ⟨other, hother, -, -, hsame⟩ := turn_of_record h (List.getElem?_eq_getElem hlt)
    rw [List.getElem?_eq_getElem hi] at hother
    cases hother
    exact ⟨_, List.getElem_mem hlt, hsame.trans hmoved⟩
  · rintro ⟨record, hmem, hmoved⟩
    obtain ⟨i, hi, rfl⟩ := List.mem_iff_getElem.mp hmem
    obtain ⟨turn, hturn, -, -, hsame⟩ := turn_of_record h (List.getElem?_eq_getElem hi)
    exact ⟨turn, List.mem_of_getElem? hturn, hsame.symm.trans hmoved⟩

/-- The fields of a header are about the turns before it, and these are in the report. -/
theorem header_of_reports (h : Reports (turns.map (seenOf lib)) report) {i : Nat} {turn : Turn}
    (hturn : turns[i]? = some turn)
    (hheader : HeaderAgrees ((turns.take i).map (seenOf lib)) turn.request) {request : Request}
    {value : Rust.Bytes} (hrequest : turn.request = some request)
    (hvalue : value ∈ request.headers.getAll "x-tr-client") :
    ∃ fields text, value = bytes text ∧
      finalizeHeader fields = some text ∧ fields.lookup "a" = some (toString i) ∧
      ∀ j, i = j + 1 → ∃ previous : AttemptRecord, report.event.attempts[j]? = some previous ∧
        fields.lookup "ph" = some previous.host.asStr ∧
        fields.lookup "fo" = some (if (turns.take i).any Turn.moved then "1" else "0") := by
  have hcount := count_of_reports h
  obtain ⟨hi, -⟩ := List.getElem?_eq_some_iff.mp hturn
  have hlength : (turns.take i).length = i := List.length_take_of_le (Nat.le_of_lt hi)
  obtain ⟨fields, text, hbytes, hfinal, hfields⟩ := hheader request value hrequest hvalue
  have hindex := hfields.index
  rw [List.length_map, hlength] at hindex
  refine ⟨fields, text, hbytes, hfinal, hindex, ?_⟩
  rintro j rfl
  have hj : j < report.event.attempts.length := by omega
  obtain ⟨before, hbefore, -, hhost, -⟩ := turn_of_record h (List.getElem?_eq_getElem hj)
  refine ⟨_, List.getElem?_eq_getElem hj, ?_, ?_⟩
  · rw [hhost]
    refine hfields.previous (seenOf lib before) ?_
    -- The last of the turns before this one is the one just before it.
    rw [List.getLast?_eq_getElem?, List.length_map, hlength, Nat.add_sub_cancel,
      List.getElem?_map, List.getElem?_take_of_lt (show j < j + 1 by omega), hbefore]
    rfl
  · rw [← any_moved lib]
    refine hfields.failover ?_
    intro hnil
    have hzero := congrArg List.length hnil
    rw [List.length_map, hlength] at hzero
    cases hzero

/-- What was seen in the turns is what the engine did in them. -/
theorem telemetryAgrees_of_reports (h : Reports (turns.map (seenOf lib)) report)
    (hheaders : ∀ i turn, turns[i]? = some turn →
      HeaderAgrees ((turns.take i).map (seenOf lib)) turn.request) :
    TelemetryAgrees lib turns report where
  count := count_of_reports h
  records := by
    intro i record hget
    obtain ⟨turn, hturn, hindex, hhost, hmoved⟩ := turn_of_record h hget
    refine ⟨turn, hturn, hindex, hhost, ?_⟩
    rw [hmoved]
    exact decide_eq_true_iff
  failover := failover_of_reports h
  headers := fun i turn _ _ hturn hrequest hvalue =>
    header_of_reports h hturn (hheaders i turn hturn) hrequest hvalue
  counters := by
    obtain ⟨request, rows, hcounters, hlevel, hattempts, hrows⟩ := h.counters
    refine ⟨request, rows, hcounters, hlevel, ?_, ?_, ?_⟩
    · rw [hattempts, List.length_map, count_of_reports h]
    · have hlength := congrArg List.length hrows
      rwa [List.length_map, List.length_map] at hlength
    · intro i record row hget hrow
      have hcounted := congrArg (fun list => list[i]?) hrows
      simp only [List.getElem?_map, hget, hrow, Option.map_some, Option.some.injEq, counted,
        Prod.mk.injEq] at hcounted
      exact hcounted

end

/-- Telemetry of a recorded GET or POST call agrees with what the engine did, on any candidate
list, for any answers, and wherever the future is dropped. The sink is called once, with a
report that agrees with the turns of the loop. -/
theorem telemetry_agrees (env : Environment) (call : Call) (path : String) (streaming : Bool)
    (classify : ReqwestError → ErrorClass) (clock : Nat → Nat)
    (drops : Nat → Option Await) (candidates : List Url) (entry : Entry) (now : Nat)
    (hcandidates : candidates ≠ []) (hmethod : call.method = .get ∨ call.method = .post)
    (hheaders : ∃ headers,
      requestHeaders env.userAgent call.client call.options none = .ok headers) :
    let observer := env.observer call path streaming classify clock
    let course := executeUntil (env.watchedBy observer) call drops candidates
    ∃ ending recorder report, course.ending = some ending ∧
      observer.settle entry now ending = some recorder ∧ recorder.reported = [report] ∧
      (∀ turn ∈ course.turns, candidates[turn.candidate]? = some turn.url) ∧
      (∀ i a b, course.turns[i]? = some a → course.turns[i + 1]? = some b →
        b.candidate = a.after) ∧
      TelemetryAgrees env.backend course.turns report := by
  intro observer course
  have htracked : RunTracked observer candidates [] 0 course :=
    executeUntil_tracked env hcandidates hmethod hheaders path streaming classify clock drops
  obtain ⟨ending, before, last, hending, hsplit, hafter⟩ := htracked.ends
  obtain ⟨recorder, hrecorder, hsettled⟩ := settle_settled hafter entry now
  rw [← hsplit] at hsettled
  obtain ⟨report, hreported, hreports⟩ := hsettled.reported
  refine ⟨ending, recorder, report, hending, hrecorder, hreported, htracked.targets,
    htracked.follows, ?_⟩
  exact telemetryAgrees_of_reports hreports htracked.headers

end

/-- The chat route on the default host and on its first alias. -/
def chatCandidates : List Url :=
  [{ scheme := "https"
     host := some "api.trustedrouter.com"
     path := .segments ["v1", "chat", "completions"] },
   { scheme := "https"
     host := some "api.allyrouter.com"
     path := .segments ["v1", "chat", "completions"] }]

/-- The recorder of the keyed POST, with a clock that ticks at every hook. -/
def chatObserver : Observer :=
  resetOnce.observer keyedPost "/chat/completions" false (fun _ => .reset) id

/-- The keyed POST, reset on the first host and answered on the second. -/
def chatCourse : Course :=
  executeUntil (resetOnce.watchedBy chatObserver) keyedPost (fun _ => none) chatCandidates

/-- The call fails over once, and is reported so. -/
theorem telemetry_agrees_sample :
    chatCourse.turns.map Turn.moved = [true, false] ∧
    ∃ ending recorder report, chatCourse.ending = some ending ∧
      chatObserver.settle (.requestBytes false) 9 ending = some recorder ∧
      recorder.reported = [report] ∧
      (∀ turn ∈ chatCourse.turns, chatCandidates[turn.candidate]? = some turn.url) ∧
      (∀ i a b, chatCourse.turns[i]? = some a → chatCourse.turns[i + 1]? = some b →
        b.candidate = a.after) ∧
      TelemetryAgrees plainBackend chatCourse.turns report := by
  refine ⟨by decide +kernel, ?_⟩
  exact telemetry_agrees resetOnce keyedPost "/chat/completions" false (fun _ => .reset) id
    (fun _ => none) chatCandidates (.requestBytes false) 9 (List.cons_ne_nil _ _) (.inr rfl)
    ⟨_, rfl⟩

example : chatCourse.turns.map
      (fun turn => turn.request.map fun request => request.headers.getAll "x-tr-client") =
    [some [bytes "v=1;a=0;s=0"],
      some [bytes "v=1;a=1;po=transport_error;pc=reset;ph=apex;pm=0;sm=0;s=0;fo=1"]] := by
  decide +kernel

end TrustedRouter.Proofs.Transport
