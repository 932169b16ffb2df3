import TrustedRouter.Sse
import TrustedRouter.Transport.Routing

/-!
# `TrustedRouter.Sse.Raw`: raw streams and their validation

`validated_raw_sse` of `crates/trusted-router/src/sse.rs`. It picks a validator by two routes:
that of the path the caller asked for, and that of the URL the response came from.
-/

set_option autoImplicit false

namespace TrustedRouter.Sse

open Serde (Reader)
open Whatwg (Url Backend)
open TrustedRouter.Transport (semanticRoute semanticRequestRoute semanticRouteRelativeToBase)

/-- The prompt endpoints with a protocol of their own. -/
inductive PromptStreamKind where
  | chat
  | responses
  deriving DecidableEq, Repr

/-- `prompt_stream_kind`. -/
def promptStreamKind (route : String) : Option PromptStreamKind :=
  if route = "/chat/completions" then some .chat
  else if route = "/responses" then some .responses
  else none

/-- `response_prompt_stream_kind`. -/
def responsePromptStreamKind (client : Client) (responseUrl : Url) : Option PromptStreamKind :=
  ((client.apiBaseUrls.filterMap fun base =>
    semanticRouteRelativeToBase base.url responseUrl).findSome? promptStreamKind).or
      (promptStreamKind (semanticRoute responseUrl.pathString))

/-- The strict validator of a kind. -/
def strictValidator (read : Reader) : PromptStreamKind → List WireItem → List (Action SseEvent)
  | .chat => validateRawChatStream read
  | .responses => validateRawResponsesStream read

/-- `validated_raw_sse`, on the events of a response that came from `responseUrl`. -/
def validatedRawSse (lib : Backend) (read : Reader) (client : Client) (path : String)
    (responseUrl : Url) (stream : List WireItem) : List (Action SseEvent) :=
  let intendedKind := promptStreamKind (semanticRequestRoute lib path)
  let finalKind := responsePromptStreamKind client responseUrl
  match intendedKind.or finalKind with
  | some kind => strictValidator read kind stream
  | none => stream.map .yields

end TrustedRouter.Sse
