import TrustedRouter.Telemetry
import TrustedRouter.Transport.Headers
import TrustedRouter.Transport.Policy
import TrustedRouter.Transport.Routing

/-!
# `TrustedRouter.Transport.Engine`: the retry and failover loop

`crates/trusted-router/src/transport/engine.rs`. `step` is one turn of the loop in
`Client::execute` and `runLoop` is the loop. A run is kept with its trace: one `Attempt` a
turn, with the candidate it targeted, the request that went out and what came back.

The loop of the source has no counter of its own. `runLoop` takes fuel, and a run that
needs more than it was given has no result. So has one that indexes past the candidate
list, where the source would panic.

The recorder is write-only to the engine but for one header value. It stands here as the
log of the hooks that were called on it, and `headerValue` reads that log.

The network is a parameter: `send` answers each attempt. So are `reqwest`'s own additions
to a request.
-/

set_option autoImplicit false

namespace TrustedRouter.Transport

open Rust (Bytes)
open Rust.Str
open Rust.Result
open Telemetry (ErrorSource)
open Http (HeaderMap Method)
open Serde (Value Reader)
open Whatwg (Url Backend)

/-- What the SDK reads of a `reqwest::Error`. -/
structure ReqwestError where
  message : String
  isTimeout : Bool

/-- A send or body-read failure with its typed cause intact. -/
inductive AttemptFailure where
  | deadline
  | transport (error : ReqwestError)

/-- `map_reqwest_error`. -/
def mapReqwestError (error : ReqwestError) : Error :=
  if error.isTimeout then .timeout error.message else .transport error.message

/-- `AttemptFailure::into_error`. -/
def AttemptFailure.intoError (deadlineMessage : String) : AttemptFailure → Error
  | .deadline => .timeout deadlineMessage
  | .transport error => mapReqwestError error

/-- A request as it leaves the SDK. -/
structure Request where
  method : Method
  url : Url
  headers : HeaderMap
  body : Option Bytes

/-- A response: its head, and what reading its body under the deadline gives. -/
structure Response where
  status : Nat
  headers : HeaderMap
  body : Except AttemptFailure Bytes

/-- `StatusCode::is_success`. -/
def Response.isSuccess (response : Response) : Bool :=
  200 ≤ response.status && response.status ≤ 299

/-- `error_source_of`. -/
def errorSourceOf (payload : Option Value) : Option ErrorSource :=
  payload.bind fun payload =>
    ErrorSource.parse
      ((((payload.get "error").bind (Value.get · "source")).or (payload.get "source")).bind
        Value.asStr)

/-- A call of the engine on the recorder. -/
inductive Hook where
  | beginAttempt (url : Url)
  | onResponse (status : Nat) (headers : HeaderMap)
  | onResponseBodyComplete (source : Option ErrorSource)
  | record (failure : AttemptFailure) (responseOpened bodyStarted : Bool)
  | onMoved
  | finish (exhausted : Bool)

/-- The recorder of a call, if it is recorded: the hooks called so far. -/
abbrev Recorder := Option (List Hook)

/-- Calls a hook on the recorder, if there is one. -/
def Recorder.call (recorder : Recorder) (hook : Hook) : Recorder :=
  Option.map (· ++ [hook]) recorder

/-- `reqwest`'s part of a request: the header of URL credentials, the JSON serializer, and
the error of a URL without a host. -/
structure Reqwest where
  basicAuth : (username password : String) → Option Bytes
  toVec : Value → Bytes
  badUrl : Url → ReqwestError

/-- `RequestBuilder`: credentials of the URL become a header, the given headers replace
theirs, and a JSON body sets its content type if nothing else did. -/
def Reqwest.build (reqwest : Reqwest) (method : Method) (url : Url) (headers : HeaderMap)
    (body : Option Value) : Except ReqwestError Request :=
  if url.host.isNone then .error (reqwest.badUrl url)
  else
    let credentials : HeaderMap :=
      match reqwest.basicAuth url.username url.password with
      | some value => HeaderMap.insert [] "authorization" value
      | none => []
    let headers := credentials.extend headers
    .ok
      { method
        url := { url with username := "", password := "" }
        headers :=
          if body.isSome && !headers.containsKey "content-type" then
            headers.insert "content-type" (bytes "application/json")
          else headers
        body := body.map reqwest.toVec }

/-- Everything the engine runs in. -/
structure Environment where
  backend : Backend
  reqwest : Reqwest
  read : Reader
  userAgent : String
  untilHttpDate : String → Option Nat
  /-- `RequestRecorder::header_value`, from the hooks so far. -/
  headerValue : List Hook → Option String
  /-- The answer to the request of attempt `n`. -/
  send : Nat → Request → Except AttemptFailure Response
  /-- The jitter drawn after attempt `n`, in milliseconds. -/
  jitter : Nat → Nat

/-- The arguments of `Client::execute` that every attempt shares. -/
structure Call where
  client : Client
  method : Method
  body : Option Value
  options : CallOptions

/-- `request_replay_safe`. -/
def requestReplaySafe (method : Method) (options : CallOptions) : Bool :=
  [Method.get, .head, .options, .trace].contains method ||
    options.idempotencyKey.any (fun key => !isEmpty key)

/-- Saturating cursor over the candidate list. -/
structure CandidateCursor where
  index : Nat
  len : Nat

/-- `CandidateCursor::new`. -/
def CandidateCursor.new (len : Nat) : CandidateCursor := { index := 0, len }

/-- `CandidateCursor::advance`, with whether the index moved. -/
def CandidateCursor.advance (cursor : CandidateCursor) : CandidateCursor × Bool :=
  if cursor.index + 1 < cursor.len then ({ cursor with index := cursor.index + 1 }, true)
  else (cursor, false)

section
variable (env : Environment) (call : Call)

/-- What `send_once` leaves behind: the request, if one went out, the recorder, and the
result. -/
structure Sent where
  request : Option Request
  recorder : Recorder
  result : Except Error Response

/-- `send_once`. -/
def sendOnce (attempt : Nat) (url : Url) (recorder : Recorder) : Sent :=
  let telemetry := Option.bind recorder env.headerValue
  match requestHeaders env.userAgent call.client call.options telemetry with
  | .error error => { request := none, recorder, result := .error error }
  | .ok headers =>
      match env.reqwest.build call.method url headers call.body with
      | .error error =>
          { request := none
            recorder := recorder.call (.record (.transport error) false false)
            result := .error (mapReqwestError error) }
      | .ok request =>
          let request :=
            { request with headers := enforceReservedTelemetryHeader request.headers telemetry }
          match env.send attempt request with
          | .ok response => { request := some request, recorder, result := .ok response }
          | .error failure =>
              { request := some request
                recorder := recorder.call (.record failure false false)
                result := .error (failure.intoError "response headers deadline exceeded") }

/-- What one attempt leads to before the retry policy is applied: the call returns, or the
failure has a disposition. -/
inductive Judgement where
  | returns (result : Except Error Response)
  | disposes (disposition : FailureDisposition)

/-- The `match` on the result of `send_once`. -/
def judge (result : Except Error Response) (recorder : Recorder) : Judgement × Recorder :=
  match result with
  | .error error => (.disposes (.fromTransport error), recorder)
  | .ok response =>
      let recorder := recorder.call (.onResponse response.status response.headers)
      if response.isSuccess then (.returns (.ok response), recorder)
      else
        match response.body with
        | .ok bytes =>
            let payload := (Serde.fromSlice env.read bytes).toOption
            (.disposes (.fromHttp env.untilHttpDate response.status response.headers payload),
              recorder.call (.onResponseBodyComplete (errorSourceOf payload)))
        | .error failure =>
            let recorder := recorder.call (.record failure true false)
            let disposition :=
              FailureDisposition.fromHttp env.untilHttpDate response.status response.headers none
            if disposition.retry then (.disposes disposition, recorder)
            else
              (.returns (.error (failure.intoError "response body deadline exceeded")),
                recorder.call (.finish false))

/-- The variables of the loop. -/
structure LoopState where
  attempt : Nat
  cursor : CandidateCursor
  recorder : Recorder

/-- One entry of the trace. -/
structure Attempt where
  candidate : Nat
  url : Url
  request : Option Request
  result : Except Error Response

/-- What a turn of the loop ends in. -/
inductive Next where
  | returns (result : Except Error Response) (recorder : Recorder)
  | sleeps (delay : Nat) (state : LoopState)

/-- The policy part of a turn: the ceiling, the cursor and the backoff. -/
def applyPolicy (state : LoopState) (disposition : FailureDisposition) (recorder : Recorder) :
    Next :=
  if call.client.maxRetries ≤ state.attempt || !disposition.retry ||
      !requestReplaySafe call.method call.options then
    .returns (.error disposition.error)
      (recorder.call (.finish (0 < state.attempt && disposition.retry)))
  else
    let (cursor, moved) :=
      if disposition.failover then state.cursor.advance else (state.cursor, false)
    .sleeps (retryDelay disposition.retryAfter (env.jitter state.attempt))
      { attempt := state.attempt + 1
        cursor
        recorder := if moved then recorder.call .onMoved else recorder }

/-- One turn of the loop, on the URL it targets. -/
def step (state : LoopState) (url : Url) : Attempt × Next :=
  let sent := sendOnce env call state.attempt url
    (state.recorder.call (.beginAttempt url))
  let attempt : Attempt :=
    { candidate := state.cursor.index, url, request := sent.request, result := sent.result }
  match judge env sent.result sent.recorder with
  | (.returns result, recorder) => (attempt, .returns result recorder)
  | (.disposes disposition, recorder) =>
      (attempt, applyPolicy env call state disposition recorder)

/-- A run of the loop: its trace, and its result if it returned. -/
structure Run where
  attempts : List Attempt
  result : Option (Except Error Response × Recorder)

/-- The loop. -/
def runLoop (candidates : List Url) : (fuel : Nat) → LoopState → Run
  | 0, _ => { attempts := [], result := none }
  | fuel + 1, state =>
      match candidates[state.cursor.index]? with
      | none => { attempts := [], result := none }
      | some url =>
          match step env call state url with
          | (attempt, .returns result recorder) =>
              { attempts := [attempt], result := some (result, recorder) }
          | (attempt, .sleeps _ next) =>
              let run := runLoop candidates fuel next
              { run with attempts := attempt :: run.attempts }

/-- The loop of one call, on a candidate list. `max_retries + 1` turns are enough. -/
def executeOn (recorder : Recorder) (candidates : List Url) : Run :=
  runLoop env call candidates (call.client.maxRetries + 1)
    { attempt := 0, cursor := .new candidates.length, recorder }

end

/-- `tracked_inference_path`. -/
def trackedInferencePath (path : String) : Bool :=
  let route := semanticRoute (String.ofList (path.toList.takeWhile fun c => c != '?' && c != '#'))
  let excluded := fun name => endsWith route name || containsStr route (name ++ "/")
  !excluded "/attestation" && !excluded "/internal/gateway/authorize"

/-- `request_recorder`: whether the call is recorded. -/
def requestRecorder (client : Client) (plane : Plane) (resolvedPath : String) : Recorder :=
  if !client.telemetry || plane != .inference || !trackedInferencePath resolvedPath then none
  else some []

/-- `Client::execute`. -/
def execute (env : Environment) (call : Call) (plane : Plane) (path : String) :
    Except Error Run := do
  let candidates ← planeUrls env.backend call.client plane path
  let resolvedPath := (candidates.head?.map Url.pathString).getD path
  pure (executeOn env call (requestRecorder call.client plane resolvedPath) candidates)

end TrustedRouter.Transport
