import TrustedRouter.Telemetry.Wire
import TrustedRouter.Transport.Policy
import TrustedRouter.Transport.Routing

/-!
# `TrustedRouter.Telemetry.Recorder`: one logical call, as the hooks see it

`RequestRecorder` and `StreamRecorder` of `crates/trusted-router/src/telemetry.rs`. The engine
calls a hook at each point of the retry loop, and the recorder rebuilds the history of the call
from them: one `AttemptRecord` an attempt, overwritten in place as more is known of it. `finish`
derives the event and the counter increments and hands them to the sink.

An `Instant` is a number of nanoseconds, and a hook that reads the clock takes the reading. The
sink is the list of what it was handed. `Drop` is the function `drop`.
-/

set_option autoImplicit false

namespace TrustedRouter.Telemetry

open Rust.Duration
open Rust.Str
open Http (HeaderMap Method toStr)
open Whatwg (Url Backend)
open Transport (aliasApiBaseUrls defaultApiBaseUrl parseRetryAfter semanticRequestRoute)

/-! ## Vocabularies -/

/-- Hard byte ceiling for the assembled header. -/
def maxHeaderBytes : Nat := 160

/-- Regional gateway hostnames. -/
def regionHosts : List (String × Host) :=
  [("api-us-central1.quillrouter.com", .usCentral1), ("api-us-east4.quillrouter.com", .usEast4),
    ("api-europe-west4.quillrouter.com", .europeWest4)]

/-- `constant_host`. -/
def constantHost (lib : Backend) (constant : String) : Option String :=
  (Whatwg.parse lib constant).toOption.bind fun url => url.host.map toAsciiLowercase

/-- `trustedrouter_domain`. -/
def trustedrouterDomain (host : String) : Bool :=
  host == "trustedrouter.com" || endsWith host ".trustedrouter.com"

/-- `host_enum`. -/
def hostEnum (lib : Backend) (url : Url) : Host :=
  match url.host with
  | none => .custom
  | some host =>
      let host := toAsciiLowercase host
      if some host = constantHost lib defaultApiBaseUrl then .apex
      else if some host = aliasApiBaseUrls[0]?.bind (constantHost lib) then .ally
      else if some host = aliasApiBaseUrls[1]?.bind (constantHost lib) then .uptime
      else
        match regionHosts.find? fun region => region.1 = host with
        | some region => region.2
        | none =>
            if url.scheme == "https" && trustedrouterDomain host then .control else .custom

/-- `endpoint_enum`. -/
def endpointEnum (lib : Backend) (path : String) : Endpoint :=
  let clean := String.ofList (path.toList.takeWhile fun c => c != '?' && c != '#')
  let route := semanticRequestRoute lib clean
  if route = "/chat/completions" then .chatCompletions
  else if route = "/messages" then .messages
  else if route = "/responses" then .responses
  else if route = "/embeddings" then .embeddings
  else
    let group :=
      [("/images", Endpoint.images), ("/videos", .videos), ("/models", .models),
        ("/fusion", .fusion)].find? fun group =>
          route = group.1 || startsWith route (group.1 ++ "/")
    match group with
    | some group => group.2
    | none => .inferenceOther

/-- `latency_bucket`. -/
def latencyBucket (ms : Nat) : LatencyBucket :=
  let bounds :=
    [(100, LatencyBucket.lt100), (200, .lt200), (400, .lt400), (800, .lt800), (1600, .lt1600),
      (3200, .lt3200), (6400, .lt6400), (12800, .lt12800), (25600, .lt25600),
      (51200, .lt51200), (102400, .lt102400)]
  match bounds.find? fun bound => ms < bound.1 with
  | some bound => bound.2
  | none => .ge102400

/-- `status_class`. -/
def statusClass (status : Option Nat) : HttpStatusClass :=
  match status with
  | none => .none
  | some status =>
      if 200 ≤ status && status ≤ 299 then .success
      else if status = 429 then .rateLimited
      else if 400 ≤ status && status ≤ 499 then .clientError
      else if 500 ≤ status && status ≤ 599 then .serverError
      else .none

/-- `timeout_floor_met`. -/
def timeoutFloorMet (phase : TimeoutPhase) (configuredMs : Option Nat) : Bool :=
  match configuredMs with
  | none => false
  | some configuredMs =>
      match phase with
      | .connect => 10000 ≤ configuredMs
      | .firstByte => 60000 ≤ configuredMs
      | .idle => 30000 ≤ configuredMs
      | .none => false
      | .total => false

/-- `phase_for_class`. -/
def phaseForClass : ErrorClass → TimeoutPhase
  | .connectTimeout => .connect
  | .readTimeout => .firstByte
  | .writeTimeout => .firstByte
  | _ => .none

/-- `duration_ms`. -/
def durationMs (start stop : Nat) : Nat := min (asMillis (stop - start)) maxDurationMs

/-- `valid_value`. -/
def validValue (value : String) : Bool :=
  !isEmpty value && len value ≤ 24 &&
    value.toList.all fun c => ('a' ≤ c && c ≤ 'z') || ('0' ≤ c && c ≤ '9') || c == '_'

/-- `finalize_header`. -/
def finalizeHeader (values : List (String × String)) : Option String :=
  if !values.all fun field => validValue field.2 then none
  else
    let header := String.intercalate ";" (values.map fun field => field.1 ++ "=" ++ field.2)
    if maxHeaderBytes < len header then none else some header

/-- `header_str`. -/
def headerStr (headers : HeaderMap) (name : String) : Option String :=
  (headers.get name).bind toStr

/-! ## The recorder -/

/-- Everything a recorder knows before the first attempt. -/
structure RecorderSpec where
  endpoint : Endpoint
  method : Method
  streaming : Bool
  providerPinned : Bool
  model : Option String
  configuredTimeout : Option Nat

/-- What the sink is handed for one call. -/
structure Report where
  event : RequestEvent
  counters : List (CounterKey × CounterRow)

/-- Records one logical inference call across the retry loop. -/
structure RequestRecorder where
  endpoint : Endpoint
  method : Method
  recordable : Bool
  streaming : Bool
  providerPinned : Bool
  model : Option String
  configuredTimeout : Option Nat
  attempts : List AttemptRecord
  failoverUsed : Bool
  ttftMs : Option Nat
  firstStarted : Option Nat
  attemptStarted : Option Nat
  currentHost : Option Host
  currentIndex : Option Nat
  finished : Bool
  /-- What the sink was handed. -/
  reported : List Report

namespace RequestRecorder

/-- `RequestRecorder::new`. -/
def new (spec : RecorderSpec) : RequestRecorder where
  endpoint := spec.endpoint
  method := spec.method
  recordable := spec.method == .get || spec.method == .post
  streaming := spec.streaming
  providerPinned := spec.providerPinned
  model := spec.model.filter validModel
  configuredTimeout := spec.configuredTimeout.filter fun value => value != 0
  attempts := []
  failoverUsed := false
  ttftMs := none
  firstStarted := none
  attemptStarted := none
  currentHost := none
  currentIndex := none
  finished := false
  reported := []

/-- `begin_attempt`. -/
def beginAttempt (lib : Backend) (now : Nat) (url : Url) (recorder : RequestRecorder) :
    RequestRecorder :=
  { recorder with
    firstStarted := recorder.firstStarted.or (some now)
    attemptStarted := some now
    currentHost := some (hostEnum lib url)
    currentIndex := some recorder.attempts.length }

/-- The words of the previous attempt's outcome and error class in the header. There is none
for an attempt that did not fail, or was abandoned. -/
def previousWords (previous : AttemptRecord) : String × String :=
  match previous.outcome with
  | .ok => ("none", "none")
  | .aborted => ("none", "none")
  | outcome => (outcome.asStr, (previous.errorClass.map ErrorClass.asStr).getD "none")

/-- The fields of the header of attempt `index` on the previous attempt. -/
def previousFields (recorder : RequestRecorder) (previous : AttemptRecord) (started : Nat) :
    List (String × String) :=
  [("po", (previousWords previous).1), ("pc", (previousWords previous).2),
    ("ph", previous.host.asStr), ("pm", toString previous.elapsedMs),
    ("sm", toString (durationMs (recorder.firstStarted.getD started) started))]

/-- The fields of the header, in order. -/
def headerFields (recorder : RequestRecorder) : Option (List (String × String)) :=
  recorder.currentIndex.bind fun index =>
    recorder.currentHost.bind fun host =>
      if 99 < index || host = .custom then none
      else
        let first := [("v", "1"), ("a", toString index)]
        let streaming := [("s", if recorder.streaming then "1" else "0")]
        if 0 < index then
          recorder.attempts.getLast?.bind fun previous =>
            recorder.attemptStarted.map fun started =>
              first ++ recorder.previousFields previous started ++ streaming ++
                [("fo", if recorder.failoverUsed then "1" else "0")]
        else some (first ++ streaming)

/-- `header_value`. -/
def headerValue (recorder : RequestRecorder) : Option String :=
  recorder.headerFields.bind finalizeHeader

/-- `store_attempt`. -/
def storeAttempt (record : AttemptRecord) (recorder : RequestRecorder) : RequestRecorder :=
  { recorder with
    attempts :=
      if record.index < recorder.attempts.length then recorder.attempts.set record.index record
      else recorder.attempts ++ [record] }

/-- `in_flight`. -/
def inFlight (recorder : RequestRecorder) : Option (Nat × Host × Nat) :=
  recorder.attemptStarted.bind fun started =>
    recorder.currentHost.bind fun host =>
      recorder.currentIndex.map fun index => (started, host, index)

/-- The `x-should-retry` header, as a response has it. -/
def observedShouldRetry (headers : HeaderMap) : ShouldRetry :=
  let verdict := (headerStr headers "x-should-retry").map fun value =>
    toAsciiLowercase (trim value)
  if verdict = some "true" then .true
  else if verdict = some "false" then .false
  else .absent

/-- `on_response`. The engine has no error source at this point. -/
def onResponse (untilHttpDate : String → Option Nat) (now status : Nat) (headers : HeaderMap)
    (errorSource : Option ErrorSource) (recorder : RequestRecorder) : RequestRecorder :=
  match recorder.inFlight with
  | none => recorder
  | some (started, host, index) =>
      let elapsedMs := durationMs started now
      recorder.storeAttempt
        { index
          host
          outcome := if status < 400 then .ok else .httpError
          httpStatus := some status
          errorClass := none
          errorSource
          shouldRetry := observedShouldRetry headers
          retryAfterMs := (parseRetryAfter untilHttpDate headers).map fun delay =>
            min (asMillis delay) maxDurationMs
          elapsedMs
          ttfbMs := some elapsedMs
          requestId := (headerStr headers "x-request-id").filter validRequestId
          moved := false
          phase := .none }

/-- `on_response_body_complete`. -/
def onResponseBodyComplete (now : Nat) (errorSource : Option ErrorSource)
    (recorder : RequestRecorder) : RequestRecorder :=
  match recorder.inFlight with
  | none => recorder
  | some (started, _, index) =>
      { recorder with
        attempts := recorder.attempts.modify index fun record =>
          { record with elapsedMs := durationMs started now, errorSource } }

/-- The outcome, class and phase of a transport failure. -/
def failureFacts (errorClass : ErrorClass) (timedOut bodyStarted : Bool) :
    AttemptOutcome × ErrorClass × TimeoutPhase :=
  if timedOut then
    if bodyStarted then
      (.timeout, if errorClass = .readTimeout then .streamStalled else errorClass, .idle)
    else (.timeout, errorClass, phaseForClass errorClass)
  else if bodyStarted then (.streamBroken, errorClass, phaseForClass errorClass)
  else (.transportError, errorClass, phaseForClass errorClass)

/-- `on_transport_error`. -/
def onTransportError (now : Nat) (errorClass : ErrorClass)
    (timedOut responseOpened bodyStarted : Bool) (recorder : RequestRecorder) :
    RequestRecorder :=
  match recorder.inFlight with
  | none => recorder
  | some (started, host, index) =>
      let (outcome, errorClass, phase) := failureFacts errorClass timedOut bodyStarted
      let previous := recorder.attempts[index]?
      let opened := previous.filter fun _ => responseOpened
      recorder.storeAttempt
        { index
          host
          outcome
          httpStatus := opened.bind AttemptRecord.httpStatus
          errorClass := some errorClass
          errorSource := previous.bind AttemptRecord.errorSource
          shouldRetry := (previous.map AttemptRecord.shouldRetry).getD .absent
          retryAfterMs := previous.bind AttemptRecord.retryAfterMs
          elapsedMs := durationMs started now
          ttfbMs := opened.bind AttemptRecord.ttfbMs
          requestId := previous.bind AttemptRecord.requestId
          moved := false
          phase }

/-- `on_moved`. -/
def onMoved (recorder : RequestRecorder) : RequestRecorder :=
  match recorder.attempts.getLast? with
  | none => recorder
  | some last =>
      { recorder with
        attempts := recorder.attempts.dropLast ++ [{ last with moved := true }]
        failoverUsed := true }

/-- `on_first_event`. -/
def onFirstEvent (now : Nat) (recorder : RequestRecorder) : RequestRecorder :=
  { recorder with
    ttftMs := recorder.ttftMs.or (recorder.firstStarted.map fun started => durationMs started now) }

/-- `on_aborted`. -/
def onAborted (now : Nat) (recorder : RequestRecorder) : RequestRecorder :=
  match recorder.inFlight with
  | none => recorder
  | some (started, host, index) =>
      let previous := recorder.attempts[index]?
      recorder.storeAttempt
        { index
          host
          outcome := .aborted
          httpStatus := previous.bind AttemptRecord.httpStatus
          errorClass := previous.bind AttemptRecord.errorClass
          errorSource := previous.bind AttemptRecord.errorSource
          shouldRetry := (previous.map AttemptRecord.shouldRetry).getD .absent
          retryAfterMs := previous.bind AttemptRecord.retryAfterMs
          elapsedMs := durationMs started now
          ttfbMs := previous.bind AttemptRecord.ttfbMs
          requestId := previous.bind AttemptRecord.requestId
          moved := previous.any AttemptRecord.moved
          phase := (previous.map AttemptRecord.phase).getD .none }

/-- `configured_timeout_ms`. -/
def configuredTimeoutMs (recorder : RequestRecorder) (phase : TimeoutPhase) : Option Nat :=
  match phase with
  | .none => none
  | .total => none
  | _ => recorder.configuredTimeout.map fun deadline =>
      max 1 (min (asMillis deadline) maxDurationMs)

/-- The event of a finished call. -/
def event (recorder : RequestRecorder) (exhausted : Bool) (totalMs : Nat)
    (last : AttemptRecord) : RequestEvent where
  endpoint := recorder.endpoint
  method := recorder.method
  streaming := recorder.streaming
  providerPinned := recorder.providerPinned
  model := recorder.model
  attempts := recorder.attempts
  finalOutcome :=
    if exhausted && 1 < recorder.attempts.length && last.outcome != .ok then .exhausted
    else .outcome last.outcome
  finalHttpStatus := last.httpStatus
  totalMs
  ttftMs := recorder.ttftMs
  failoverUsed := recorder.failoverUsed
  timeoutPhase := last.phase
  configuredTimeoutMs := recorder.configuredTimeoutMs last.phase

/-- The counter of a finished call. -/
def requestCounter (recorder : RequestRecorder) (totalMs : Nat) (last : AttemptRecord) :
    CounterKey × CounterRow :=
  ({ level := .request
     endpoint := recorder.endpoint
     streaming := recorder.streaming
     host := last.host
     outcome := last.outcome
     errorClass := recorder.attempts.findSome? AttemptRecord.errorClass
     httpStatusClass := statusClass last.httpStatus
     timeoutPhase := last.phase
     timeoutFloorMet := timeoutFloorMet last.phase (recorder.configuredTimeoutMs last.phase)
     providerPinned := recorder.providerPinned },
   { requests := 1
     attempts := recorder.attempts.length
     failoverUsed := recorder.failoverUsed.toNat
     firstAttemptSuccess := (recorder.attempts.head?.any fun first => first.outcome == .ok).toNat
     totalMsHist := [(latencyBucket totalMs, 1)]
     firstEventMsHist :=
       match recorder.ttftMs.or last.ttfbMs with
       | some firstEventMs => [(latencyBucket firstEventMs, 1)]
       | none => [] })

/-- The counter of one attempt. -/
def attemptCounter (recorder : RequestRecorder) (attempt : AttemptRecord) :
    CounterKey × CounterRow :=
  ({ level := .attempt
     endpoint := recorder.endpoint
     streaming := recorder.streaming
     host := attempt.host
     outcome := attempt.outcome
     errorClass := attempt.errorClass
     httpStatusClass := statusClass attempt.httpStatus
     timeoutPhase := attempt.phase
     timeoutFloorMet := timeoutFloorMet attempt.phase (recorder.configuredTimeoutMs attempt.phase)
     providerPinned := recorder.providerPinned },
   { requests := 1, attempts := 1, failoverUsed := attempt.moved.toNat })

/-- `finish`. -/
def finish (now : Nat) (exhausted : Bool) (recorder : RequestRecorder) : RequestRecorder :=
  if recorder.finished then recorder
  else
    let recorder := { recorder with finished := true }
    match recorder.firstStarted, recorder.attempts.getLast? with
    | some firstStarted, some last =>
        if !recorder.recordable then recorder
        else
          let totalMs := durationMs firstStarted now
          { recorder with
            reported := recorder.reported ++
              [{ event := recorder.event exhausted totalMs last
                 counters :=
                   recorder.requestCounter totalMs last ::
                     recorder.attempts.map recorder.attemptCounter }] }
    | _, _ => recorder

/-- `Drop for RequestRecorder`. -/
def drop (now : Nat) (recorder : RequestRecorder) : RequestRecorder :=
  if recorder.finished then recorder else (recorder.onAborted now).finish now false

end RequestRecorder

/-! ## Open streams -/

/-- The recorder of an open stream, shared by the wire layer and the validators. -/
structure StreamRecorder where
  recorder : RequestRecorder
  bodyStarted : Bool

/-- What the layers of a stream call on its recorder. -/
inductive StreamCall where
  | onEvent
  | onWireFailure (errorClass : ErrorClass) (timedOut : Bool)
  | onComplete
  deriving DecidableEq, Repr

/-- `StreamRecorder::new`. -/
def StreamRecorder.new (recorder : RequestRecorder) : StreamRecorder where
  recorder := recorder
  bodyStarted := false

/-- `on_event`, `on_wire_failure` and `on_complete`. -/
def StreamRecorder.call (now : Nat) (state : StreamRecorder) : StreamCall → StreamRecorder
  | .onEvent =>
      if state.bodyStarted then state
      else { recorder := state.recorder.onFirstEvent now, bodyStarted := true }
  | .onWireFailure errorClass timedOut =>
      { state with
        recorder :=
          (state.recorder.onTransportError now errorClass timedOut true state.bodyStarted).finish
            now false }
  | .onComplete => { state with recorder := state.recorder.finish now false }

/-- The calls of a stream, where the clock is read from its `n`th reading on. -/
def StreamRecorder.run (clock : Nat → Nat) :
    Nat → StreamRecorder → List StreamCall → StreamRecorder
  | _, state, [] => state
  | n, state, call :: rest => StreamRecorder.run clock (n + 1) (state.call (clock n) call) rest

end TrustedRouter.Telemetry
