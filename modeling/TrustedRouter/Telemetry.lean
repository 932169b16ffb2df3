import TrustedRouter.Lib.HeaderMap

/-!
# `TrustedRouter.Telemetry`: what a finished call is reported as

The vocabularies and records of `crates/trusted-router/src/telemetry.rs`. Every word that
reaches the wire is a constructor of one of these types, and `asStr` spells it.

A `RequestEvent` is one logical call with its attempts. A `CounterKey` is everything of a
counter row but its counts, and a `CounterRow` is the counts, also as the increment that a
single call contributes. A `BTreeMap` of counts is the list of its entries in key order.
-/

set_option autoImplicit false

namespace TrustedRouter.Telemetry

open Http (Method)
open Rust.Str

/-- Closed host vocabulary. -/
inductive Host where
  | apex | ally | uptime | usCentral1 | usEast4 | europeWest4 | control | custom
  deriving DecidableEq, Repr

/-- `Host::as_str`. -/
def Host.asStr : Host → String
  | .apex => "apex"
  | .ally => "ally"
  | .uptime => "uptime"
  | .usCentral1 => "us_central1"
  | .usEast4 => "us_east4"
  | .europeWest4 => "europe_west4"
  | .control => "control"
  | .custom => "custom"

/-- Per-attempt outcomes. -/
inductive AttemptOutcome where
  | ok | httpError | transportError | timeout | streamBroken | aborted
  deriving DecidableEq, Repr

/-- `AttemptOutcome::as_str`. -/
def AttemptOutcome.asStr : AttemptOutcome → String
  | .ok => "ok"
  | .httpError => "http_error"
  | .transportError => "transport_error"
  | .timeout => "timeout"
  | .streamBroken => "stream_broken"
  | .aborted => "aborted"

/-- Final outcome of a logical call: the last attempt's outcome, or retries ran out. -/
inductive FinalOutcome where
  | outcome (last : AttemptOutcome)
  | exhausted
  deriving DecidableEq, Repr

/-- `FinalOutcome::as_str`. -/
def FinalOutcome.asStr : FinalOutcome → String
  | .outcome last => last.asStr
  | .exhausted => "exhausted"

/-- `FinalOutcome::is_ok`. -/
def FinalOutcome.isOk (outcome : FinalOutcome) : Bool := outcome == .outcome .ok

/-- Transport-error classes. -/
inductive ErrorClass where
  | dns | tls | connectRefused | connectTimeout | connectError | readTimeout | writeTimeout
  | poolTimeout | protocolError | reset | ioError | proxyError | streamStalled | unknown
  deriving DecidableEq, Repr

/-- `ErrorClass::as_str`. -/
def ErrorClass.asStr : ErrorClass → String
  | .dns => "dns"
  | .tls => "tls"
  | .connectRefused => "connect_refused"
  | .connectTimeout => "connect_timeout"
  | .connectError => "connect_error"
  | .readTimeout => "read_timeout"
  | .writeTimeout => "write_timeout"
  | .poolTimeout => "pool_timeout"
  | .protocolError => "protocol_error"
  | .reset => "reset"
  | .ioError => "io_error"
  | .proxyError => "proxy_error"
  | .streamStalled => "stream_stalled"
  | .unknown => "unknown"

/-- Closed endpoint vocabulary. -/
inductive Endpoint where
  | chatCompletions | messages | responses | embeddings | images | videos | models | fusion
  | controlOther | inferenceOther
  deriving DecidableEq, Repr

/-- `Endpoint::as_str`. -/
def Endpoint.asStr : Endpoint → String
  | .chatCompletions => "chat_completions"
  | .messages => "messages"
  | .responses => "responses"
  | .embeddings => "embeddings"
  | .images => "images"
  | .videos => "videos"
  | .models => "models"
  | .fusion => "fusion"
  | .controlOther => "control_other"
  | .inferenceOther => "inference_other"

/-- Closed timeout-phase vocabulary. -/
inductive TimeoutPhase where
  | none | connect | firstByte | idle | total
  deriving DecidableEq, Repr

/-- `TimeoutPhase::as_str`. -/
def TimeoutPhase.asStr : TimeoutPhase → String
  | .none => "none"
  | .connect => "connect"
  | .firstByte => "first_byte"
  | .idle => "idle"
  | .total => "total"

/-- Closed HTTP status class vocabulary. -/
inductive HttpStatusClass where
  | none | success | clientError | rateLimited | serverError
  deriving DecidableEq, Repr

/-- `HttpStatusClass::as_str`. -/
def HttpStatusClass.asStr : HttpStatusClass → String
  | .none => "none"
  | .success => "2xx"
  | .clientError => "4xx"
  | .rateLimited => "429"
  | .serverError => "5xx"

/-- Closed latency-bucket vocabulary, in the order of the buckets. -/
inductive LatencyBucket where
  | lt100 | lt200 | lt400 | lt800 | lt1600 | lt3200 | lt6400 | lt12800 | lt25600 | lt51200
  | lt102400 | ge102400
  deriving DecidableEq, Repr, Ord

/-- `LatencyBucket::as_str`. -/
def LatencyBucket.asStr : LatencyBucket → String
  | .lt100 => "lt100"
  | .lt200 => "lt200"
  | .lt400 => "lt400"
  | .lt800 => "lt800"
  | .lt1600 => "lt1600"
  | .lt3200 => "lt3200"
  | .lt6400 => "lt6400"
  | .lt12800 => "lt12800"
  | .lt25600 => "lt25600"
  | .lt51200 => "lt51200"
  | .lt102400 => "lt102400"
  | .ge102400 => "ge102400"

/-- Where an error response said it came from. -/
inductive ErrorSource where
  | router | provider | unknown
  deriving DecidableEq, Repr

/-- `ErrorSource::as_str`. -/
def ErrorSource.asStr : ErrorSource → String
  | .router => "router"
  | .provider => "provider"
  | .unknown => "unknown"

/-- `ErrorSource::parse`. -/
def ErrorSource.parse (value : Option String) : Option ErrorSource :=
  value.bind fun value =>
    if value = "router" then some .router
    else if value = "provider" then some .provider
    else if value = "unknown" then some .unknown
    else none

/-- The `x-should-retry` verdict as observed on a response. -/
inductive ShouldRetry where
  | true | false | absent
  deriving DecidableEq, Repr

/-- Counter level: one row an attempt, or one row a logical call. -/
inductive Level where
  | attempt | request
  deriving DecidableEq, Repr

/-- `Level::as_str`. -/
def Level.asStr : Level → String
  | .attempt => "attempt"
  | .request => "request"

/-- `valid_model`. -/
def validModel (model : String) : Bool :=
  !isEmpty model && len model ≤ 128 &&
    model.toList.all fun c => isAsciiAlphanumeric c || "._:/~@-".toList.contains c

/-- `valid_request_id`: `rlog_` and 32 lowercase hex digits. -/
def validRequestId (value : String) : Bool :=
  startsWith value "rlog_" &&
    (let digits := value.toList.drop 5
     digits.length == 32 && digits.all fun c => c.isDigit || ('a' ≤ c && c ≤ 'f'))

/-- One attempt's facts, as the retry loop observed them. -/
structure AttemptRecord where
  index : Nat
  host : Host
  outcome : AttemptOutcome
  httpStatus : Option Nat
  errorClass : Option ErrorClass
  errorSource : Option ErrorSource
  shouldRetry : ShouldRetry
  retryAfterMs : Option Nat
  elapsedMs : Nat
  ttfbMs : Option Nat
  requestId : Option String
  moved : Bool
  phase : TimeoutPhase
  deriving DecidableEq, Repr

/-- One logical call's facts as handed to the sink. -/
structure RequestEvent where
  endpoint : Endpoint
  method : Method
  streaming : Bool
  providerPinned : Bool
  model : Option String
  attempts : List AttemptRecord
  finalOutcome : FinalOutcome
  finalHttpStatus : Option Nat
  totalMs : Nat
  ttftMs : Option Nat
  failoverUsed : Bool
  timeoutPhase : TimeoutPhase
  configuredTimeoutMs : Option Nat
  deriving DecidableEq, Repr

/-- The ten-field counter key: everything but the counts and histograms. -/
structure CounterKey where
  level : Level
  endpoint : Endpoint
  streaming : Bool
  host : Host
  outcome : AttemptOutcome
  errorClass : Option ErrorClass
  httpStatusClass : HttpStatusClass
  timeoutPhase : TimeoutPhase
  timeoutFloorMet : Bool
  providerPinned : Bool
  deriving DecidableEq, Repr

/-- `BTreeMap<LatencyBucket, u64>`. -/
abbrev Histogram := List (LatencyBucket × Nat)

/-- The counts and histograms of one counter row, also used as the increment a single call
contributes. -/
structure CounterRow where
  requests : Nat := 0
  attempts : Nat := 0
  failoverUsed : Nat := 0
  firstAttemptSuccess : Nat := 0
  totalMsHist : Histogram := []
  firstEventMsHist : Histogram := []
  deriving DecidableEq, Repr

end TrustedRouter.Telemetry
