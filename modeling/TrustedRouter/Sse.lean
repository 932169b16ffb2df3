import TrustedRouter.Error
import TrustedRouter.Lib.Result

/-!
# `TrustedRouter.Sse`: the prompt-stream validators

`crates/trusted-router/src/sse.rs`. A validator reads a stream of decoded events, which can
hold a wire error, and drives a consumer and a telemetry recorder. What it does is a list
of `Action`s in order: an item it yields, or a call of `complete` on the recorder.
`surfaced` is the part the consumer sees.

The four validators keep the four loops of the source. An empty list is the end of the
wire, where the loop is left with `terminated` still false.

`serde_json`'s parser is the parameter `read`.
-/

set_option autoImplicit false

namespace TrustedRouter.Sse

open Rust.Str
open Rust.Result
open Serde (Value Reader)

/-- Parsed server-sent event. -/
structure SseEvent where
  event : Option String
  data : String
  id : Option String
  deriving DecidableEq, Repr

/-- One Responses API lifecycle event. -/
structure ResponseEvent where
  event : String
  data : Value

/-- One item of a decoded wire: an event or the error that ended it. -/
abbrev WireItem := Except Error SseEvent

/-- What a validator does: yield an item, or complete the recorder. -/
inductive Action (ω : Type) where
  | yields (item : Except Error ω)
  | completes

/-- The item an action shows to the consumer. -/
def Action.item? {ω : Type} : Action ω → Option (Except Error ω)
  | .yields item => some item
  | .completes => none

/-- What the consumer of a validator sees. -/
def surfaced {ω : Type} (actions : List (Action ω)) : List (Except Error ω) :=
  actions.filterMap Action.item?

/-- The status of an error payload: 502 when it gives none. -/
def errorStatus (error : Value) : Except Error Nat :=
  match error.get "status" with
  | none => .ok 502
  | some status =>
      okOr (status.asU64.filter fun status => 100 ≤ status && status ≤ 599)
        (.serialization "SSE error status must be an HTTP status integer")

/-- `parse_json_event`. -/
def parseJsonEvent (read : Reader) (data : String) : Except Error Value := do
  let value ← mapErr (fun error => .serialization ("invalid SSE JSON: " ++ error))
    (Serde.fromSlice read (bytes data))
  ensure value.isObject (.serialization "SSE event must be an object")
  ensure ((value.get "type").all Value.isString)
    (.serialization "SSE type must be a string")
  match value.get "error" with
  | none => pure value
  | some error =>
      ensure error.isObject (.serialization "SSE error must be an object")
      let status ← errorStatus error
      throw (classifyApiError status (some value) none)

/-- The `[DONE]` test of every validator. -/
def isDoneFrame (event : SseEvent) : Bool := trim event.data == "[DONE]"

/-- The effective name of a Responses event: its own name unless that is empty or
`message`, then the `type` member, then `message`. -/
def eventName (event : SseEvent) (value : Value) : String :=
  ((event.event.filter fun name => !isEmpty name && name != "message").or
    ((value.get "type").bind Value.asStr)).getD "message"

/-- The Responses events that end a stream. -/
def isTerminal (name : String) : Bool :=
  ["response.completed", "response.failed", "response.incomplete", "error"].contains name

/-- The error of a chat stream that ends early. -/
def endedBeforeDone : Error := .transport "SSE stream ended before [DONE]"

/-- The error of a Responses stream that ends early. -/
def endedBeforeTerminal : Error := .transport "SSE stream ended before a terminal event"

/-- `text_delta`. -/
def textDelta (value : Value) : Except Error (Option String) :=
  match value.get "choices" with
  | none => .ok none
  | some choices => do
      let choices ← okOr choices.asArray (.serialization "choices must be an array")
      match choices.head? with
      | none => pure none
      | some choice => do
          let choice ← okOr choice.asObject (.serialization "choice must be an object")
          match choice.get "delta" with
          | none => pure none
          | some delta => do
              let delta ← okOr delta.asObject (.serialization "delta must be an object")
              match delta.get "content" with
              | none => pure none
              | some .null => pure none
              | some (.string text) => pure (some text)
              | some _ => throw (.serialization "delta content must be a string or null")

section
variable (read : Reader)

/-- `validate_chat_stream`. -/
def validateChatStream : List WireItem → List (Action Value)
  | [] => [.yields (.error endedBeforeDone)]
  | .error error :: _ => [.yields (.error error)]
  | .ok event :: rest =>
      if isDoneFrame event then [.completes]
      else
        match parseJsonEvent read event.data with
        | .ok value => .yields (.ok value) :: validateChatStream rest
        | .error error => [.yields (.error error)]

/-- `validate_responses_stream`. -/
def validateResponsesStream : List WireItem → List (Action ResponseEvent)
  | [] => [.yields (.error endedBeforeTerminal)]
  | .error error :: _ => [.yields (.error error)]
  | .ok event :: rest =>
      if isDoneFrame event then [.completes]
      else
        match parseJsonEvent read event.data with
        | .error error => [.yields (.error error)]
        | .ok value =>
            let name := eventName event value
            .yields (.ok { event := name, data := value }) ::
              if isTerminal name then [.completes] else validateResponsesStream rest

/-- `validate_raw_chat_stream`. -/
def validateRawChatStream : List WireItem → List (Action SseEvent)
  | [] => [.yields (.error endedBeforeDone)]
  | .error error :: _ => [.yields (.error error)]
  | .ok event :: rest =>
      if isDoneFrame event then [.completes, .yields (.ok event)]
      else
        match parseJsonEvent read event.data with
        | .ok _ => .yields (.ok event) :: validateRawChatStream rest
        | .error error => [.yields (.error error)]

/-- `validate_raw_responses_stream`. -/
def validateRawResponsesStream : List WireItem → List (Action SseEvent)
  | [] => [.yields (.error endedBeforeTerminal)]
  | .error error :: _ => [.yields (.error error)]
  | .ok event :: rest =>
      if isDoneFrame event then [.completes, .yields (.ok event)]
      else
        match parseJsonEvent read event.data with
        | .error error => [.yields (.error error)]
        | .ok value =>
            .yields (.ok event) ::
              if isTerminal (eventName event value) then [.completes]
              else validateRawResponsesStream rest

end

/-- What `chat_completions_text` makes of one item of the validated stream. -/
def textItem : Except Error Value → Option (Except Error String)
  | .error error => some (.error error)
  | .ok value =>
      match textDelta value with
      | .ok text => text.map .ok
      | .error error => some (.error error)

/-- `chat_completions_text`, on the events of its response. -/
def chatCompletionsText (read : Reader) (stream : List WireItem) : List (Except Error String) :=
  (surfaced (validateChatStream read stream)).filterMap textItem

/-- The text that the consumer of a chat stream is shown. -/
def visibleText (read : Reader) (stream : List WireItem) : List String :=
  (chatCompletionsText read stream).filterMap Except.toOption

end TrustedRouter.Sse
