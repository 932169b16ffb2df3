import TrustedRouter.Error
import TrustedRouter.Lib.Duration
import TrustedRouter.Lib.HeaderMap

/-!
# `TrustedRouter.Transport.Policy`: retry and failover decisions

`crates/trusted-router/src/transport/policy.rs`. `FailureDisposition` is the decision the
engine acts on after a failed attempt: `retry` says whether another attempt may happen and
`failover` says where.

The date form of `retry-after` needs a clock and a date parser. `untilHttpDate` stands for
both: the time from now until a date, if the text is a date in the future.
-/

set_option autoImplicit false

namespace TrustedRouter.Transport

open Rust.Str
open Rust.Duration
open Http (HeaderMap toStr)
open Serde (Value)

/-- The canonical decision for one failed attempt. -/
structure FailureDisposition where
  error : Error
  retry : Bool
  failover : Bool
  retryAfter : Option Nat

/-- `should_retry_verdict`: what the server says in `x-should-retry`, if it says it. -/
def shouldRetryVerdict (headers : HeaderMap) : Option Bool :=
  ((headers.get "x-should-retry").bind toStr).bind fun value =>
    let verdict := toAsciiLowercase (trim value)
    if verdict = "true" then some true
    else if verdict = "false" then some false
    else none

/-- `retryable_status`. -/
def retryableStatus (status : Nat) (headers : HeaderMap) : Bool :=
  match shouldRetryVerdict headers with
  | some verdict => verdict
  | none => status == 429 || 500 ≤ status

/-- `retryable_transport`. -/
def retryableTransport : Error → Bool
  | .transport _ => true
  | .timeout _ => true
  | _ => false

/-- `failoverable_status`. -/
def failoverableStatus (status : Nat) (headers : HeaderMap) : Bool :=
  if shouldRetryVerdict headers = some false then false
  else 502 ≤ status && status ≤ 504

/-- Ceiling on a server-supplied `retry-after` floor. -/
def maxRetryAfter : Nat := fromSecs 60

/-- `parse_retry_after`: `retry-after-ms` first, then seconds, then a date. -/
def parseRetryAfter (untilHttpDate : String → Option Nat) (headers : HeaderMap) :
    Option Nat :=
  let millis := ((headers.get "retry-after-ms").bind toStr).bind fun raw =>
    parseU64 (trim raw)
  match millis with
  | some millis => some (min (fromMillis millis) maxRetryAfter)
  | none =>
      ((headers.get "retry-after").bind toStr).bind fun value =>
        match parseU64 (trim value) with
        | some seconds => some (min (fromSecs seconds) maxRetryAfter)
        | none => (untilHttpDate value).map (min · maxRetryAfter)

/-- The upper bound of the jitter before attempt `attempt + 1`, in milliseconds. -/
def backoffCeilingMs (attempt : Nat) : Nat := min (500 * 2 ^ min attempt 6) 30000

/-- `retry_delay`, for a jitter drawn from `0..=backoffCeilingMs attempt`. -/
def retryDelay (retryAfter : Option Nat) (jitterMs : Nat) : Nat :=
  max (min (retryAfter.getD 0) maxRetryAfter) (fromMillis jitterMs)

namespace FailureDisposition

/-- Decision for a non-2xx HTTP response. -/
def fromHttp (untilHttpDate : String → Option Nat) (status : Nat) (headers : HeaderMap)
    (payload : Option Value) : FailureDisposition :=
  let retryAfter := parseRetryAfter untilHttpDate headers
  { error := classifyApiError status payload retryAfter
    retry := retryableStatus status headers
    failover := failoverableStatus status headers
    retryAfter }

/-- Decision for a failure without an HTTP response. -/
def fromTransport (error : Error) : FailureDisposition :=
  { error
    retry := retryableTransport error
    failover := true
    retryAfter := none }

end FailureDisposition

end TrustedRouter.Transport
