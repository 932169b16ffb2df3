import TrustedRouter.Lib.EventSource
import TrustedRouter.Sse
import TrustedRouter.Transport.Engine

/-!
# `TrustedRouter.Sse.Wire`: decoding the wire of a stream

`parse_sse` of `crates/trusted-router/src/sse.rs`. The decoder is `eventsource-stream` over the
body of a response. It yields events until the body ends, and one error where the body fails,
stalls or is not a text.
-/

set_option autoImplicit false

namespace TrustedRouter.Sse

open Rust (Bytes)
open Rust.Result
open Transport (ReqwestError mapReqwestError)

/-- `EventStreamError` over `SseWireError`: how the decoder can fail. -/
inductive SourceError where
  | idleTimeout
  | transport (error : ReqwestError)
  | decoder (text : String)

/-- The error `parse_sse` yields for a failure of the decoder. -/
def SourceError.intoError : SourceError → Error
  | .idleTimeout => .timeout "SSE stream idle deadline exceeded"
  | .transport error => mapReqwestError error
  | .decoder text => .transport ("invalid SSE stream: " ++ text)

/-- One item of the decoder. -/
abbrev SourceItem := Except SourceError EventSource.Event

/-- The event `parse_sse` yields for an event of the decoder. -/
def sseEvent (event : EventSource.Event) : SseEvent where
  event := some event.event
  data := event.data
  id := some event.id

/-- What `parse_sse` yields. It stops after an error. -/
def parseSse : List SourceItem → List WireItem
  | [] => []
  | .ok event :: rest => .ok (sseEvent event) :: parseSse rest
  | .error error :: _ => [.error error.intoError]

/-- The decoder on a body that arrives whole. `explain` is its message for bytes that are not
UTF-8. -/
def sourceOf (explain : Bytes → String) (wire : Bytes) : List SourceItem :=
  (EventSource.items wire).map (mapErr fun line => .decoder (explain line))

end TrustedRouter.Sse
