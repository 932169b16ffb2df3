import TrustedRouter.Telemetry.Recorder
import TrustedRouter.Transport.Engine

/-!
# `TrustedRouter.Transport.Recorded`: a call, its recorder and its end

The engine keeps the log of the hooks it called. An `Observer` replays the log on a
`RequestRecorder`, and in an environment that it `watches` the header of an attempt is the one
its recorder has at that point.

`runUntil` is the loop of `Client::execute` with a future that can be dropped where the loop
awaits: while a request is sent, while the body of a failure is read, and in the backoff. Where
nothing is dropped it is `runLoop`. A `Turn` is one attempt that began, with the cursor before
and after it. `settle` is what happens to the recorder then: the entry point, `request_bytes`
or `open_stream`, ends the call, and the recorder is dropped.
-/

set_option autoImplicit false

namespace TrustedRouter.Transport

open Telemetry (ErrorClass RecorderSpec Report RequestRecorder StreamCall StreamRecorder
  endpointEnum)
open Serde (Value)
open Whatwg (Url Backend)

/-! ## The recorder behind the log -/

/-- The recorder that `request_recorder` builds for a call. -/
def recorderSpec (lib : Backend) (call : Call) (path : String) (streaming : Bool) :
    RecorderSpec where
  endpoint := endpointEnum lib path
  method := call.method
  streaming := streaming
  providerPinned :=
    ((((call.body.bind (Value.get · "provider")).bind Value.asObject).bind
      fun provider => provider.get "allow_fallbacks").bind Value.asBool) == some false
  model := (call.body.bind (Value.get · "model")).bind Value.asStr
  configuredTimeout := call.options.timeout.or call.client.timeout

/-- A recorder and what it reads: the clock at its `n`th hook, and the class of a typed
transport error, which is `classify_transport_error`. -/
structure Observer where
  spec : RecorderSpec
  backend : Backend
  untilHttpDate : String → Option Nat
  classify : ReqwestError → ErrorClass
  clock : Nat → Nat

/-- The observer of a recorded call. -/
def Environment.observer (env : Environment) (call : Call) (path : String) (streaming : Bool)
    (classify : ReqwestError → ErrorClass) (clock : Nat → Nat) : Observer where
  spec := recorderSpec env.backend call path streaming
  backend := env.backend
  untilHttpDate := env.untilHttpDate
  classify := classify
  clock := clock

/-- `AttemptFailure::record`. -/
def AttemptFailure.record (classify : ReqwestError → ErrorClass) (now : Nat)
    (responseOpened bodyStarted : Bool) (recorder : RequestRecorder) :
    AttemptFailure → RequestRecorder
  | .deadline => recorder.onTransportError now .readTimeout true responseOpened bodyStarted
  | .transport error =>
      recorder.onTransportError now (classify error) error.isTimeout responseOpened bodyStarted

/-- One hook of the log on the recorder. -/
def Observer.apply (observer : Observer) (now : Nat) (recorder : RequestRecorder) :
    Hook → RequestRecorder
  | .beginAttempt url => recorder.beginAttempt observer.backend now url
  | .onResponse status headers =>
      recorder.onResponse observer.untilHttpDate now status headers none
  | .onResponseBodyComplete source => recorder.onResponseBodyComplete now source
  | .record failure responseOpened bodyStarted =>
      failure.record observer.classify now responseOpened bodyStarted recorder
  | .onMoved => recorder.onMoved
  | .finish exhausted => recorder.finish now exhausted

/-- The recorder after the hooks of a log. -/
def Observer.replay (observer : Observer) (hooks : List Hook) : RequestRecorder :=
  hooks.zipIdx.foldl
    (fun recorder entry => observer.apply (observer.clock entry.2) recorder entry.1)
    (.new observer.spec)

/-- The environment in which the header of an attempt comes from the recorder. -/
def Environment.watchedBy (env : Environment) (observer : Observer) : Environment :=
  { env with headerValue := fun hooks => (observer.replay hooks).headerValue }

/-! ## A loop that can be dropped -/

/-- Where a turn awaits. -/
inductive Await where
  /-- The request is on its way. -/
  | send
  /-- The body of a failure is read. -/
  | drain
  /-- The backoff before the next attempt. -/
  | sleep
  deriving DecidableEq, Repr

/-- One attempt that began: the candidate it targeted, the request if one went out, and where
the cursor stood when the turn ended. -/
structure Turn where
  candidate : Nat
  url : Url
  request : Option Request
  after : Nat

/-- The cursor advanced in a turn. -/
def Turn.moved (turn : Turn) : Bool := turn.candidate < turn.after

/-- How a run ends: it returns, or its future is dropped. -/
inductive Ending where
  | returned (result : Except Error Response) (recorder : Recorder)
  | dropped (recorder : Recorder)

section
variable (env : Environment) (call : Call)

/-- One turn of the loop whose future may be dropped at an await, if it gets there. What is
left is the end of the run, or the state of the next turn. -/
def stepUntil (drop : Option Await) (state : LoopState) (url : Url) :
    Turn × (Ending ⊕ LoopState) :=
  let begun := state.recorder.call (.beginAttempt url)
  let sent := sendOnce env call state.attempt url begun
  let turn := fun after =>
    { candidate := state.cursor.index, url, request := sent.request, after : Turn }
  let goes :=
    match (step env call state url).2 with
    | .returns result recorder => (turn state.cursor.index, .inl (.returned result recorder))
    | .sleeps _ next =>
        (turn next.cursor.index,
          if drop = some .sleep then .inl (.dropped next.recorder) else .inr next)
  if drop = some .send ∧ sent.request.isSome then
    (turn state.cursor.index, .inl (.dropped begun))
  else
    match drop, sent.result with
    | some .drain, .ok response =>
        -- The body of a success is not read here.
        if response.isSuccess then goes
        else
          (turn state.cursor.index, .inl (.dropped
            (sent.recorder.call (.onResponse response.status response.headers))))
    | _, _ => goes

/-- A run of a loop that can be dropped. -/
structure Course where
  turns : List Turn
  ending : Option Ending

/-- The loop, where `drops n` says whether and where the future is dropped in attempt `n`. -/
def runUntil (drops : Nat → Option Await) (candidates : List Url) :
    (fuel : Nat) → LoopState → Course
  | 0, _ => { turns := [], ending := none }
  | fuel + 1, state =>
      match candidates[state.cursor.index]? with
      | none => { turns := [], ending := none }
      | some url =>
          match stepUntil env call (drops state.attempt) state url with
          | (turn, .inl ending) => { turns := [turn], ending := some ending }
          | (turn, .inr next) =>
              let course := runUntil drops candidates fuel next
              { course with turns := turn :: course.turns }

/-- The loop of one recorded call, on a candidate list. -/
def executeUntil (drops : Nat → Option Await) (candidates : List Url) : Course :=
  runUntil env call drops candidates (call.client.maxRetries + 1)
    { attempt := 0, cursor := .new candidates.length, recorder := some [] }

end

/-! ## The end of a call -/

/-- How the entry point ends a call whose response was a success. -/
inductive Entry where
  /-- `request_bytes`, with whether its future is dropped while it reads the body. -/
  | requestBytes (dropped : Bool)
  /-- `open_stream`, with what the layers of the stream call before its last handle is
  dropped. -/
  | openStream (calls : List StreamCall)

/-- What an entry point does with the recorder of a success. -/
def Observer.complete (observer : Observer) (entry : Entry) (response : Response) (start : Nat)
    (recorder : RequestRecorder) : RequestRecorder :=
  match entry with
  | .requestBytes true => recorder
  | .requestBytes false =>
      match response.body with
      | .ok _ => recorder.finish (observer.clock start) false
      | .error failure =>
          (failure.record observer.classify (observer.clock start) true false recorder).finish
            (observer.clock (start + 1)) false
  | .openStream calls =>
      (StreamRecorder.run observer.clock start (.new recorder) calls).recorder

/-- The recorder of a run after its call has ended and it is dropped. -/
def Observer.settle (observer : Observer) (entry : Entry) (now : Nat) :
    Ending → Option RequestRecorder
  | .returned (.ok response) recorder =>
      Option.map (fun hooks =>
        (observer.complete entry response hooks.length (observer.replay hooks)).drop now) recorder
  | .returned (.error _) recorder =>
      Option.map (fun hooks => (observer.replay hooks).drop now) recorder
  | .dropped recorder => Option.map (fun hooks => (observer.replay hooks).drop now) recorder

end TrustedRouter.Transport
