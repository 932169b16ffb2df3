import TrustedRouter.Lib.BTreeMap
import TrustedRouter.Lib.MachineInt
import TrustedRouter.Telemetry

/-!
# `TrustedRouter.Telemetry.Wire`: the closed beacon schema

`crates/trusted-router/src/telemetry/wire.rs`: the records of one batch as they are
serialised, how a finished call and a counter row become one, and how increments merge. A
record has only the words of the vocabularies, counts clamped to their bounds, and a model
and request ids that passed their grammar.

A sample rate is a finite `f64`, kept as the rational number it is.
-/

set_option autoImplicit false

namespace TrustedRouter.Telemetry

open Rust

/-- Durations are bounded to one hour. -/
def maxDurationMs : Nat := 3600000

/-- Ages are bounded to one day. -/
def maxAgeMs : Nat := 86400000

/-- Counts are bounded to ten million a row. -/
def maxCount : Nat := 10000000

/-- The cap on the attempts carried by one event. -/
def maxWireAttempts : Nat := 16

/-- `TELEMETRY_SCHEMA_VERSION`. -/
def telemetrySchemaVersion : Nat := 1

/-- Why an event was kept. -/
inductive SampleReason where
  | failure | retried | slow | random
  deriving DecidableEq, Repr

/-- `SampleReason::as_str`. -/
def SampleReason.asStr : SampleReason → String
  | .failure => "failure"
  | .retried => "retried"
  | .slow => "slow"
  | .random => "random"

/-- The identity of the process. -/
structure SdkIdentity where
  name : String
  version : String
  lang : String
  runtime : String
  os : String
  arch : String
  deriving DecidableEq, Repr

/-- `bounded`. -/
def bounded (value minimum maximum : Nat) : Nat := max minimum (min value maximum)

/-- `bounded_optional`. -/
def boundedOptional (value : Option Nat) (minimum maximum : Nat) : Option Nat :=
  value.filter fun value => minimum ≤ value && value ≤ maximum

/-- `ClientAttempt` on the wire. -/
structure WireAttempt where
  index : Nat
  host : String
  outcome : String
  httpStatus : Option Nat
  errorClass : Option String
  errorSource : Option String
  retryAfterMs : Option Nat
  elapsedMs : Nat
  ttfbMs : Option Nat
  requestId : Option String
  moved : Bool
  shouldRetry : Option Bool
  deriving DecidableEq, Repr

/-- `WireAttempt::from_record`. -/
def WireAttempt.fromRecord (record : AttemptRecord) : WireAttempt where
  index := bounded record.index 0 99
  host := record.host.asStr
  outcome := record.outcome.asStr
  httpStatus := record.httpStatus.filter fun status => 100 ≤ status && status ≤ 599
  errorClass := record.errorClass.map ErrorClass.asStr
  errorSource := record.errorSource.map ErrorSource.asStr
  retryAfterMs := boundedOptional record.retryAfterMs 0 maxDurationMs
  elapsedMs := bounded record.elapsedMs 0 maxDurationMs
  ttfbMs := boundedOptional record.ttfbMs 0 maxDurationMs
  requestId := record.requestId.filter validRequestId
  moved := record.moved
  shouldRetry :=
    match record.shouldRetry with
    | .true => some true
    | .false => some false
    | .absent => none

/-- `ClientRequestEvent` on the wire. -/
structure WireEvent where
  ageMs : Nat
  plane : String
  endpoint : String
  method : String
  streaming : Bool
  providerPinned : Bool
  model : Option String
  attempts : List WireAttempt
  finalOutcome : String
  finalHttpStatus : Option Nat
  totalMs : Nat
  ttftMs : Option Nat
  failoverUsed : Bool
  timeoutPhase : String
  configuredTimeoutMs : Option Nat
  sampleRate : Rat
  sampleReason : String
  deriving DecidableEq, Repr

/-- The methods the schema can carry. -/
def wireMethod : Http.Method → Option String
  | .get => some "GET"
  | .post => some "POST"
  | _ => none

/-- `WireEvent::from_event`: `none` when the schema cannot carry the call. -/
def WireEvent.fromEvent (event : RequestEvent) (reason : SampleReason) (rate : Rat) :
    Option WireEvent :=
  let attempts := (event.attempts.take maxWireAttempts).map WireAttempt.fromRecord
  if attempts.isEmpty || !(0 < rate && rate ≤ 1) then none
  else
    (wireMethod event.method).map fun method =>
      { ageMs := 0
        plane := "inference"
        endpoint := event.endpoint.asStr
        method
        streaming := event.streaming
        providerPinned := event.providerPinned
        model := event.model.filter validModel
        attempts
        finalOutcome := event.finalOutcome.asStr
        finalHttpStatus :=
          event.finalHttpStatus.filter fun status => 100 ≤ status && status ≤ 599
        totalMs := bounded event.totalMs 0 maxDurationMs
        ttftMs := boundedOptional event.ttftMs 0 maxDurationMs
        failoverUsed := event.failoverUsed
        timeoutPhase := event.timeoutPhase.asStr
        configuredTimeoutMs := boundedOptional event.configuredTimeoutMs 1 maxDurationMs
        sampleRate := rate
        sampleReason := reason.asStr }

/-- `WireEvent::aged`: the same event with its age recomputed for a flush. -/
def WireEvent.aged (event : WireEvent) (ageMs : Nat) : WireEvent :=
  { event with ageMs := bounded ageMs 0 maxAgeMs }

/-- `wire_histogram`: keyed by the words of the buckets, in the order of the words. -/
def wireHistogram (histogram : Histogram) : List (String × Nat) :=
  histogram.foldl
    (fun map entry =>
      Rust.BTreeMap.upsert (fun a b => decide (a < b)) entry.1.asStr
        (fun _ => bounded entry.2 0 maxCount) map)
    []

/-- `ClientMinuteCounter` on the wire. -/
structure WireCounter where
  windowStartAgeMs : Nat
  level : String
  endpoint : String
  streaming : Bool
  host : String
  outcome : String
  errorClass : Option String
  httpStatusClass : String
  timeoutPhase : String
  timeoutFloorMet : Bool
  providerPinned : Bool
  requests : Nat
  attempts : Nat
  failoverUsed : Nat
  firstAttemptSuccess : Nat
  totalMsHist : List (String × Nat)
  firstEventMsHist : List (String × Nat)
  deriving DecidableEq, Repr

/-- `WireCounter::from_row`. -/
def WireCounter.fromRow (key : CounterKey) (row : CounterRow) (windowAgeMs : Nat) :
    WireCounter where
  windowStartAgeMs := bounded windowAgeMs 0 maxAgeMs
  level := key.level.asStr
  endpoint := key.endpoint.asStr
  streaming := key.streaming
  host := key.host.asStr
  outcome := key.outcome.asStr
  errorClass := key.errorClass.map ErrorClass.asStr
  httpStatusClass := key.httpStatusClass.asStr
  timeoutPhase := key.timeoutPhase.asStr
  timeoutFloorMet := key.timeoutFloorMet
  providerPinned := key.providerPinned
  requests := bounded row.requests 1 maxCount
  attempts := bounded row.attempts 0 maxCount
  failoverUsed := bounded row.failoverUsed 0 maxCount
  firstAttemptSuccess := bounded row.firstAttemptSuccess 0 maxCount
  totalMsHist := wireHistogram row.totalMsHist
  firstEventMsHist := wireHistogram row.firstEventMsHist

/-- `ClientEventsBatch` on the wire. -/
structure WireBatch where
  schemaVersion : Nat
  batchId : String
  instanceId : String
  seq : Nat
  sentAtMs : Nat
  sdk : SdkIdentity
  synthetic : Bool
  droppedSinceLast : Nat
  events : List WireEvent
  counters : List WireCounter
  deriving DecidableEq, Repr

/-- `WireBatch::new`. The wall clock is an argument. -/
def WireBatch.new (batchId instanceId : String) (seq : Nat) (sdk : SdkIdentity)
    (sentAtMs : Nat) : WireBatch where
  schemaVersion := telemetrySchemaVersion
  batchId := batchId
  instanceId := instanceId
  seq := seq
  sentAtMs := sentAtMs
  sdk := sdk
  synthetic := false
  droppedSinceLast := 0
  events := []
  counters := []

/-- `merge_histogram`. -/
def mergeHistogram (target source : Histogram) : Histogram :=
  source.foldl
    (fun map entry =>
      Rust.BTreeMap.upsert (fun a b => compare a b == .lt) entry.1
        (fun present => U64.saturatingAdd (present.getD 0) (bounded entry.2 0 maxCount)) map)
    target

/-- `merge_counter_increment`. -/
def mergeCounterIncrement (target increment : CounterRow) : CounterRow where
  requests := U64.saturatingAdd target.requests (bounded increment.requests 0 maxCount)
  attempts := U64.saturatingAdd target.attempts (bounded increment.attempts 0 maxCount)
  failoverUsed :=
    U64.saturatingAdd target.failoverUsed (bounded increment.failoverUsed 0 maxCount)
  firstAttemptSuccess :=
    U64.saturatingAdd target.firstAttemptSuccess
      (bounded increment.firstAttemptSuccess 0 maxCount)
  totalMsHist := mergeHistogram target.totalMsHist increment.totalMsHist
  firstEventMsHist := mergeHistogram target.firstEventMsHist increment.firstEventMsHist

end TrustedRouter.Telemetry
