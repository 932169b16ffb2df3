import TrustedRouter.Sse.Wire
import TrustedRouter.Transport.Recorded

/-!
# `TrustedRouter.Sse.Recorded`: a validated stream and its recorder

`parse_sse` and the validator above it share one recorder. A validator pulls one item at a time,
and `parse_sse` calls its hooks as it gets there, so the two are one run. `recorded` is that run
for a consumer that polls until the stream returns `None`: the calls on the recorder and the
items, in order.

The validators differ in what they make of one event. This is a `Frame`, and `walk` is the loop
around it. Each of the four loops of `TrustedRouter.Sse` is a `walk`.
-/

set_option autoImplicit false

namespace TrustedRouter.Sse

open Serde (Value Reader)
open Telemetry (ErrorClass StreamCall)
open Transport (ReqwestError)

/-! ## One event -/

/-- What a validator makes of an event. -/
inductive Frame (ω : Type) where
  /-- The last one: what it does then, and the loop is left. -/
  | leaves (actions : List (Action ω))
  /-- It is passed on. -/
  | passes (item : ω)
  /-- `parse_json_event` rejects it, and the stream ends with the error. -/
  | rejected (error : Error)

section
variable (read : Reader)

/-- An event of `validate_chat_stream`. -/
def chatFrame (event : SseEvent) : Frame Value :=
  if isDoneFrame event then .leaves [.completes]
  else
    match parseJsonEvent read event.data with
    | .ok value => .passes value
    | .error error => .rejected error

/-- An event of `validate_responses_stream`. -/
def responsesFrame (event : SseEvent) : Frame ResponseEvent :=
  if isDoneFrame event then .leaves [.completes]
  else
    match parseJsonEvent read event.data with
    | .error error => .rejected error
    | .ok value =>
        let item : ResponseEvent := { event := eventName event value, data := value }
        if isTerminal item.event then .leaves [.yields (.ok item), .completes]
        else .passes item

/-- An event of `validate_raw_chat_stream`. -/
def rawChatFrame (event : SseEvent) : Frame SseEvent :=
  if isDoneFrame event then .leaves [.completes, .yields (.ok event)]
  else
    match parseJsonEvent read event.data with
    | .ok _ => .passes event
    | .error error => .rejected error

/-- An event of `validate_raw_responses_stream`. -/
def rawResponsesFrame (event : SseEvent) : Frame SseEvent :=
  if isDoneFrame event then .leaves [.completes, .yields (.ok event)]
  else
    match parseJsonEvent read event.data with
    | .error error => .rejected error
    | .ok value =>
        if isTerminal (eventName event value) then .leaves [.yields (.ok event), .completes]
        else .passes event

end

/-! ## The loops -/

section
variable {ω : Type} (frame : SseEvent → Frame ω) (ended : Error)

/-- The loop of a validator. -/
def walk : List WireItem → List (Action ω)
  | [] => [.yields (.error ended)]
  | .error error :: _ => [.yields (.error error)]
  | .ok event :: rest =>
      match frame event with
      | .leaves actions => actions
      | .passes item => .yields (.ok item) :: walk rest
      | .rejected error => [.yields (.error error)]

/-- What happens on a recorded stream: a call on the recorder, or an item for the consumer. -/
inductive Beat (ω : Type) where
  | calls (call : StreamCall)
  | yields (item : Except Error ω)

/-- A validator's `complete` is a call on the recorder. -/
def Beat.ofAction : Action ω → Beat ω
  | .yields item => .yields item
  | .completes => .calls .onComplete

/-- The call on the recorder, if it is one. -/
def Beat.call? : Beat ω → Option StreamCall
  | .calls call => some call
  | .yields _ => none

/-- The item for the consumer, if it is one. -/
def Beat.item? : Beat ω → Option (Except Error ω)
  | .calls _ => none
  | .yields item => some item

/-- What `parse_sse` calls on the recorder for a failure of the decoder. -/
def SourceError.call (classify : ReqwestError → ErrorClass) : SourceError → StreamCall
  | .idleTimeout => .onWireFailure .readTimeout true
  | .transport error => .onWireFailure (classify error) error.isTimeout
  | .decoder _ => .onComplete

/-- A validator on `parse_sse`, polled to its end. A validator that returns leaves `parse_sse`
where it is: the rest of its loop does not run. -/
def recorded (classify : ReqwestError → ErrorClass) : List SourceItem → List (Beat ω)
  | [] => [.calls .onComplete, .yields (.error ended)]
  | .error error :: _ => [.calls (error.call classify), .yields (.error error.intoError)]
  | .ok event :: rest =>
      .calls .onEvent ::
        match frame (sseEvent event) with
        | .leaves actions => actions.map .ofAction
        | .passes item => .yields (.ok item) :: recorded classify rest
        | .rejected error => [.yields (.error error)]

/-- The stream reads an event that `parse_json_event` rejects. -/
def readsRejected : List SourceItem → Bool
  | .ok event :: rest =>
      match frame (sseEvent event) with
      | .leaves _ => false
      | .passes _ => readsRejected rest
      | .rejected _ => true
  | _ => false

end

/-! ## The four prompt streams -/

/-- The validated prompt streams. -/
inductive PromptStream where
  | chat
  | responses
  | rawChat
  | rawResponses
  deriving DecidableEq, Repr

/-- What a prompt stream calls on its recorder. -/
def PromptStream.calls (read : Reader) (classify : ReqwestError → ErrorClass)
    (stream : PromptStream) (source : List SourceItem) : List StreamCall :=
  match stream with
  | .chat => (recorded (chatFrame read) endedBeforeDone classify source).filterMap Beat.call?
  | .responses =>
      (recorded (responsesFrame read) endedBeforeTerminal classify source).filterMap Beat.call?
  | .rawChat =>
      (recorded (rawChatFrame read) endedBeforeDone classify source).filterMap Beat.call?
  | .rawResponses =>
      (recorded (rawResponsesFrame read) endedBeforeTerminal classify source).filterMap Beat.call?

/-- A prompt stream reads an event that `parse_json_event` rejects. -/
def PromptStream.readsRejected (read : Reader) (stream : PromptStream)
    (source : List SourceItem) : Bool :=
  match stream with
  | .chat => Sse.readsRejected (chatFrame read) source
  | .responses => Sse.readsRejected (responsesFrame read) source
  | .rawChat => Sse.readsRejected (rawChatFrame read) source
  | .rawResponses => Sse.readsRejected (rawResponsesFrame read) source

end TrustedRouter.Sse
