import TrustedRouter.Proofs.Transport.Recorded
import TrustedRouter.Sse.Recorded

/-!
# `TrustedRouter.Proofs.Sse.Recorded`: who ends a recorded stream

A stream that is polled to its end has made a call for each event it read, and then at most one
more, its `closing` call (`calls_recorded`). Where the wire ends, fails or is not a text,
`parse_sse` makes it. Where a validator leaves its loop after a last frame, the validator does.
Where `parse_json_event` rejects an event nobody does: the validator returns without `complete`
and `parse_sse` is not polled again. The recorder is dropped in the attempt, and reports the
call as aborted.
-/

set_option autoImplicit false

namespace TrustedRouter.Proofs.Sse

open TrustedRouter.Sse
open TrustedRouter.Transport
open TrustedRouter.Telemetry (AttemptOutcome AttemptRecord ErrorClass Host RequestRecorder
  StreamCall StreamRecorder)
open TrustedRouter.Proofs.Telemetry.Recorder
open TrustedRouter.Proofs.Transport
open Serde (Value Reader)
open Whatwg (Url)

/-! ## The four validators are walks -/

section
variable (read : Reader) (items : List WireItem)

/-- The parsed chat validator is a walk over its frames. -/
theorem validateChatStream_eq_walk :
    validateChatStream read items = walk (chatFrame read) endedBeforeDone items := by
  induction items with
  | nil => rfl
  | cons item rest ih =>
      cases item with
      | error error => rfl
      | ok event =>
          rw [validateChatStream, walk]
          cases hdone : isDoneFrame event with
          | true => simp [chatFrame, hdone]
          | false =>
              cases hparse : parseJsonEvent read event.data with
              | ok value => simp [chatFrame, hdone, hparse, ih]
              | error error => simp [chatFrame, hdone, hparse]

/-- So is the parsed Responses validator. -/
theorem validateResponsesStream_eq_walk :
    validateResponsesStream read items = walk (responsesFrame read) endedBeforeTerminal items := by
  induction items with
  | nil => rfl
  | cons item rest ih =>
      cases item with
      | error error => rfl
      | ok event =>
          rw [validateResponsesStream, walk]
          cases hdone : isDoneFrame event with
          | true => simp [responsesFrame, hdone]
          | false =>
              cases hparse : parseJsonEvent read event.data with
              | error error => simp [responsesFrame, hdone, hparse]
              | ok value =>
                  cases hterminal : isTerminal (eventName event value) with
                  | true => simp [responsesFrame, hdone, hparse, hterminal]
                  | false => simp [responsesFrame, hdone, hparse, hterminal, ih]

/-- So is the raw chat validator. -/
theorem validateRawChatStream_eq_walk :
    validateRawChatStream read items = walk (rawChatFrame read) endedBeforeDone items := by
  induction items with
  | nil => rfl
  | cons item rest ih =>
      cases item with
      | error error => rfl
      | ok event =>
          rw [validateRawChatStream, walk]
          cases hdone : isDoneFrame event with
          | true => simp [rawChatFrame, hdone]
          | false =>
              cases hparse : parseJsonEvent read event.data with
              | ok value => simp [rawChatFrame, hdone, hparse, ih]
              | error error => simp [rawChatFrame, hdone, hparse]

/-- So is the raw Responses validator. -/
theorem validateRawResponsesStream_eq_walk :
    validateRawResponsesStream read items =
      walk (rawResponsesFrame read) endedBeforeTerminal items := by
  induction items with
  | nil => rfl
  | cons item rest ih =>
      cases item with
      | error error => rfl
      | ok event =>
          rw [validateRawResponsesStream, walk]
          cases hdone : isDoneFrame event with
          | true => simp [rawResponsesFrame, hdone]
          | false =>
              cases hparse : parseJsonEvent read event.data with
              | error error => simp [rawResponsesFrame, hdone, hparse]
              | ok value =>
                  cases hterminal : isTerminal (eventName event value) with
                  | true => simp [rawResponsesFrame, hdone, hparse, hterminal]
                  | false => simp [rawResponsesFrame, hdone, hparse, hterminal, ih]

end

/-! ## The run of a stream and its recorder -/

section
variable {ω : Type} {frame : SseEvent → Frame ω}

/-- The consumer of a recorded stream sees what the validator surfaces on the wire. -/
theorem items_recorded (ended : Error) (classify : ReqwestError → ErrorClass)
    (source : List SourceItem) :
    (recorded frame ended classify source).filterMap Beat.item? =
      surfaced (walk frame ended (parseSse source)) := by
  -- Of the beats of an action, the item is the part that the consumer sees.
  have hactions : ∀ actions : List (Action ω),
      (actions.map Beat.ofAction).filterMap Beat.item? = surfaced actions := by
    intro actions
    rw [List.filterMap_map, surfaced]
    congr 1
    funext action
    cases action <;> rfl
  induction source with
  | nil => rfl
  | cons item rest ih =>
      cases item with
      | error error => rfl
      | ok event =>
          rw [recorded, parseSse, walk]
          cases hframe : frame (sseEvent event) with
          | leaves actions => exact hactions actions
          | passes item => exact congrArg (.ok item :: ·) ih
          | rejected error => rfl

end

/-- Each of the four recorded streams shows its consumer what the validator shows. -/
theorem promptStream_items (read : Reader) (classify : ReqwestError → ErrorClass)
    (source : List SourceItem) :
    (recorded (chatFrame read) endedBeforeDone classify source).filterMap Beat.item? =
        surfaced (validateChatStream read (parseSse source)) ∧
      (recorded (responsesFrame read) endedBeforeTerminal classify source).filterMap
          Beat.item? =
        surfaced (validateResponsesStream read (parseSse source)) ∧
      (recorded (rawChatFrame read) endedBeforeDone classify source).filterMap Beat.item? =
        surfaced (validateRawChatStream read (parseSse source)) ∧
      (recorded (rawResponsesFrame read) endedBeforeTerminal classify source).filterMap
          Beat.item? =
        surfaced (validateRawResponsesStream read (parseSse source)) := by
  rw [validateChatStream_eq_walk, validateResponsesStream_eq_walk, validateRawChatStream_eq_walk,
    validateRawResponsesStream_eq_walk]
  exact ⟨items_recorded endedBeforeDone classify source,
    items_recorded endedBeforeTerminal classify source,
    items_recorded endedBeforeDone classify source,
    items_recorded endedBeforeTerminal classify source⟩

/-! ## The calls of a stream -/

section
variable {ω : Type} {frame : SseEvent → Frame ω}

/-- The validator completes the recorder once when it leaves its loop. -/
def CompletesOnce (frame : SseEvent → Frame ω) : Prop :=
  ∀ event actions, frame event = .leaves actions →
    (actions.map Beat.ofAction).filterMap Beat.call? = [.onComplete]

/-- A frame of a chat stream completes the stream at its end only. -/
theorem completesOnce_chatFrame (read : Reader) : CompletesOnce (chatFrame read) := by
  intro event actions h
  unfold chatFrame at h
  split at h
  · cases h
    rfl
  · split at h <;> cases h

/-- So does one of a raw chat stream. -/
theorem completesOnce_rawChatFrame (read : Reader) : CompletesOnce (rawChatFrame read) := by
  intro event actions h
  unfold rawChatFrame at h
  split at h
  · cases h
    rfl
  · split at h <;> cases h

/-- So does one of a Responses stream, at a terminal and at the last frame. -/
theorem completesOnce_responsesFrame (read : Reader) :
    CompletesOnce (responsesFrame read) := by
  intro event actions h
  unfold responsesFrame at h
  split at h
  · cases h
    rfl
  · split at h
    · cases h
    · dsimp only at h
      split at h <;> cases h
      rfl

/-- So does one of a raw Responses stream. -/
theorem completesOnce_rawResponsesFrame (read : Reader) :
    CompletesOnce (rawResponsesFrame read) := by
  intro event actions h
  unfold rawResponsesFrame at h
  split at h
  · cases h
    rfl
  · split at h
    · cases h
    · split at h <;> cases h
      rfl

/-- The last call of a stream on its recorder, if it makes one. -/
def closing (frame : SseEvent → Frame ω) (classify : ReqwestError → ErrorClass) :
    List SourceItem → Option StreamCall
  | [] => some .onComplete
  | .error error :: _ => some (error.call classify)
  | .ok event :: rest =>
      match frame (sseEvent event) with
      | .leaves _ => some .onComplete
      | .passes _ => closing frame classify rest
      | .rejected _ => none

/-- A stream calls its recorder once an event, and once more to close it, if anything closes it. -/
theorem calls_recorded (hframe : CompletesOnce frame) (ended : Error)
    (classify : ReqwestError → ErrorClass) (source : List SourceItem) :
    ∃ count, (recorded frame ended classify source).filterMap Beat.call? =
      List.replicate count .onEvent ++ (closing frame classify source).toList := by
  induction source with
  | nil => exact ⟨0, rfl⟩
  | cons item rest ih =>
      cases item with
      | error error => exact ⟨0, rfl⟩
      | ok event =>
          rw [recorded, closing]
          cases hevent : frame (sseEvent event) with
          | leaves actions =>
              have hcalls := hframe (sseEvent event) actions hevent
              exact ⟨1, congrArg (List.cons StreamCall.onEvent) hcalls⟩
          | passes item =>
              obtain ⟨count, hcalls⟩ := ih
              exact ⟨count + 1, congrArg (List.cons StreamCall.onEvent) hcalls⟩
          | rejected error => exact ⟨1, rfl⟩

/-- Only an event that is rejected leaves a stream without its closing call. -/
theorem closing_eq_none_iff {classify : ReqwestError → ErrorClass} {source : List SourceItem} :
    closing frame classify source = none ↔ readsRejected frame source = true := by
  induction source with
  | nil => simp [closing, readsRejected]
  | cons item rest ih =>
      cases item with
      | error error => simp [closing, readsRejected]
      | ok event =>
          rw [closing, readsRejected]
          cases frame (sseEvent event) with
          | leaves actions => simp
          | passes item => exact ih
          | rejected error => simp

/-- An event does not close a stream by itself. -/
theorem closing_ne_onEvent {classify : ReqwestError → ErrorClass} {source : List SourceItem} :
    closing frame classify source ≠ some .onEvent := by
  induction source with
  | nil => exact fun h => nomatch h
  | cons item rest ih =>
      cases item with
      | error error => cases error <;> exact fun h => nomatch h
      | ok event =>
          rw [closing]
          cases frame (sseEvent event) with
          | leaves actions => exact fun h => nomatch h
          | passes item => exact ih
          | rejected error => exact fun h => nomatch h

/-! ## The outcome of a stream -/

/-- The report of a call whose stream made these calls on its recorder: aborted if an event was
rejected, and otherwise the outcome of the response unless the wire failed. -/
structure StreamEnds (rejected : Bool) (calls : List StreamCall) (outcome : AttemptOutcome) :
    Prop where
  aborted : outcome = .aborted ↔ rejected = true
  kept : rejected = false →
    (∀ errorClass timedOut, .onWireFailure errorClass timedOut ∉ calls) → outcome = .ok

variable {seen : List Seen} {host : Host} {recorder : RequestRecorder}

/-- A stream that is polled to its end, on the recorder of the response that opened it. Without a
closing call the recorder is settled by its drop, as aborted. -/
theorem opened_recorded (h : Opened seen host recorder) (hframe : CompletesOnce frame)
    (ended : Error) (classify : ReqwestError → ErrorClass) (source : List SourceItem)
    (clock : Nat → Nat) (start now : Nat) :
    ∃ outcome, StreamEnds (readsRejected frame source)
        ((recorded frame ended classify source).filterMap Beat.call?) outcome ∧
      Concluded outcome
        ((StreamRecorder.run clock start (.new recorder)
          ((recorded frame ended classify source).filterMap Beat.call?)).recorder.drop now) := by
  obtain ⟨count, hcalls⟩ := calls_recorded hframe ended classify source
  rw [hcalls, run_append]
  have hevents : Opened seen host (StreamRecorder.run clock start (.new recorder)
      (List.replicate count .onEvent)).recorder :=
    Opened.events h clock start count
  have hnone := @closing_eq_none_iff ω frame classify source
  cases hclosing : closing frame classify source with
  | none =>
      -- Nobody closes it, and the recorder is dropped in the attempt.
      have hrejected := hnone.mp hclosing
      refine ⟨.aborted, ⟨iff_of_true rfl hrejected, fun hread => ?_⟩,
        hevents.toAttempting.aborted now⟩
      rw [hrejected] at hread
      cases hread
  | some call =>
      have hread : readsRejected frame source ≠ true := by
        intro hrejected
        rw [hnone.mpr hrejected] at hclosing
        cases hclosing
      cases call with
      | onEvent => exact absurd hclosing closing_ne_onEvent
      | onComplete =>
          refine ⟨.ok, ⟨iff_of_false AttemptOutcome.noConfusion hread, fun _ _ => rfl⟩, ?_⟩
          exact (hevents.toAttempting.concluded hevents.outcome _).drop now
      | onWireFailure errorClass timedOut =>
          obtain ⟨outcome, hne, hconcluded⟩ :=
            hevents.toAttempting.failed (clock (start + count)) errorClass timedOut
              (StreamRecorder.run clock start (.new recorder)
                (List.replicate count .onEvent)).bodyStarted
          refine ⟨outcome, ⟨iff_of_false hne hread, fun _ hwire => ?_⟩, ?_⟩
          · exact absurd (List.mem_append_right _ (List.mem_singleton_self _))
              (hwire errorClass timedOut)
          · rw [List.length_replicate]
            exact hconcluded.drop now

end

/-- The four prompt streams, each on the recorder of the response that opened it. -/
theorem opened_promptStream {seen : List Seen} {host : Host} {recorder : RequestRecorder}
    (h : Opened seen host recorder) (read : Reader) (classify : ReqwestError → ErrorClass)
    (stream : PromptStream) (source : List SourceItem) (clock : Nat → Nat) (start now : Nat) :
    ∃ outcome, StreamEnds (stream.readsRejected read source)
        (stream.calls read classify source) outcome ∧
      Concluded outcome
        ((StreamRecorder.run clock start (.new recorder)
          (stream.calls read classify source)).recorder.drop now) := by
  cases stream with
  | chat =>
      exact opened_recorded h (completesOnce_chatFrame read) endedBeforeDone classify source
        clock start now
  | responses =>
      exact opened_recorded h (completesOnce_responsesFrame read) endedBeforeTerminal classify
        source clock start now
  | rawChat =>
      exact opened_recorded h (completesOnce_rawChatFrame read) endedBeforeDone classify source
        clock start now
  | rawResponses =>
      exact opened_recorded h (completesOnce_rawResponsesFrame read) endedBeforeTerminal classify
        source clock start now

/-- A prompt stream that was opened by a POST and is polled to its end. Its one report is not an
abort, and keeps the outcome of the response that opened it unless the wire failed, exactly when
the stream reads no event that `parse_json_event` rejects. -/
theorem stream_outcome (env : Environment) (call : Call) (path : String)
    (classify : ReqwestError → ErrorClass) (clock : Nat → Nat) (drops : Nat → Option Await)
    (candidates : List Url) (response : Response) (recorder : Recorder) (read : Reader)
    (stream : PromptStream) (source : List SourceItem) (now : Nat)
    (hmethod : call.method = .post)
    (hopened : (executeUntil (env.watchedBy (env.observer call path true classify clock)) call
      drops candidates).ending = some (.returned (.ok response) recorder)) :
    (∃ settled report,
      (env.observer call path true classify clock).settle
        (.openStream (stream.calls read classify source)) now
        (.returned (.ok response) recorder) = some settled ∧
      settled.reported = [report] ∧ report.event.finalOutcome ≠ .outcome .aborted ∧
      ((∀ errorClass timedOut,
          .onWireFailure errorClass timedOut ∉ stream.calls read classify source) →
        report.event.finalOutcome = .outcome .ok ∧
        report.event.attempts.getLast?.map AttemptRecord.outcome = some .ok)) ↔
      stream.readsRejected read source = false := by
  obtain ⟨seen, host, hooks, rfl, hstate⟩ := executeUntil_opened env (.inr hmethod) hopened
  obtain ⟨outcome, hends, hconcluded⟩ := opened_promptStream hstate read classify stream source
    clock hooks.length now
  obtain ⟨report, hreported, hfinal, hlast⟩ := hconcluded.reported
  constructor
  · rintro ⟨settled, other, hsettled, hother, hnot, -⟩
    cases hsettled
    -- The call is reported once, so the two reports are the same.
    obtain rfl : other = report := List.singleton_inj.mp (hother.symm.trans hreported)
    rw [← Bool.not_eq_true]
    intro hrejected
    rw [hends.aborted.mpr hrejected] at hfinal
    exact hnot hfinal
  · intro hread
    refine ⟨_, report, rfl, hreported, ?_, ?_⟩
    · intro haborted
      rw [hfinal] at haborted
      cases haborted
      rw [hends.aborted.mp rfl] at hread
      cases hread
    · intro hwire
      obtain rfl := hends.kept hread hwire
      exact ⟨hfinal, hlast⟩

/-- The recorder of the keyed POST when it opens a stream. -/
def streamObserver : Observer :=
  resetOnce.observer keyedPost "/chat/completions" true (fun _ => .reset) id

/-- The keyed POST opens a stream on the second host. -/
def streamCourse : Course :=
  executeUntil (resetOnce.watchedBy streamObserver) keyedPost (fun _ => none) chatCandidates

/-- A JSON reader on an empty object and on one that is cut short. -/
def readObject : Reader := fun data =>
  if data = Rust.Str.bytes "\x7b\x7d" then .ok (.object [], [])
  else .error "EOF while parsing an object at line 1 column 1"

/-- An event of a stream that names none. -/
def message (data : String) : SourceItem := .ok { event := "message", data, id := "" }

/-- A chat stream with one chunk and the last frame keeps the outcome of its response. -/
theorem stream_outcome_sample :
    PromptStream.chat.readsRejected readObject [message "\x7b\x7d", message "[DONE]"] = false ∧
    ∃ response recorder settled report,
      streamCourse.ending = some (.returned (.ok response) recorder) ∧
      streamObserver.settle (.openStream (PromptStream.chat.calls readObject (fun _ => .reset)
        [message "\x7b\x7d", message "[DONE]"])) 9 (.returned (.ok response) recorder) =
          some settled ∧
      settled.reported = [report] ∧ report.event.finalOutcome = .outcome .ok := by
  have hread : PromptStream.chat.readsRejected readObject
      [message "\x7b\x7d", message "[DONE]"] = false := by decide +kernel
  have hopened : ∃ response recorder,
      streamCourse.ending = some (.returned (.ok response) recorder) := ⟨_, _, rfl⟩
  -- Two events and the end, so that no call of the stream is a transport error.
  have hcalls : PromptStream.chat.calls readObject (fun _ => .reset)
      [message "\x7b\x7d", message "[DONE]"] = [.onEvent, .onEvent, .onComplete] := by
    decide +kernel
  refine ⟨hread, ?_⟩
  obtain ⟨response, recorder, hopened⟩ := hopened
  obtain ⟨settled, report, hsettled, hreported, -, hkept⟩ :=
    (stream_outcome resetOnce keyedPost "/chat/completions" (fun _ => .reset) id (fun _ => none)
      chatCandidates response recorder readObject .chat
      [message "\x7b\x7d", message "[DONE]"] 9 rfl hopened).mpr hread
  refine ⟨response, recorder, settled, report, hopened, hsettled, hreported, (hkept ?_).1⟩
  intro errorClass timedOut hmem
  rw [hcalls] at hmem
  simp at hmem

/-- A chat stream whose first event is cut short. The consumer gets the error and then the end
of the stream, and the call is reported as aborted. -/
theorem stream_rejected_aborted :
    surfaced (validateChatStream readObject (parseSse [message "\x7b"])) =
      [.error (.serialization
        "invalid SSE JSON: EOF while parsing an object at line 1 column 1")] ∧
    (streamCourse.ending.bind (streamObserver.settle (.openStream
        (PromptStream.chat.calls readObject (fun _ => .reset) [message "\x7b"])) 9)).map
      (fun recorder => recorder.reported.map fun report => report.event.finalOutcome) =
        some [.outcome .aborted] := by
  refine ⟨rfl, ?_⟩
  decide +kernel

end TrustedRouter.Proofs.Sse
