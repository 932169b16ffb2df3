import TrustedRouter.Lib.Json

/-!
# `TrustedRouter.Error`: the typed errors of the SDK

`crates/trusted-router/src/error.rs`. `classifyApiError` reads the fields of an API
failure from the `error` object of its payload first and from the top level second.
-/

set_option autoImplicit false

namespace TrustedRouter

open Serde (Value)

/-- HTTP/API error classification. -/
inductive ErrorKind where
  | badRequest
  | authentication
  | permissionDenied
  | notFound
  | rateLimit
  | endpointNotSupported
  | internal
  | transport
  | timeout
  | serialization
  | invalidConfiguration
  | attestation
  | oAuth
  deriving DecidableEq, Repr

/-- Structured API failure. `retryAfter` is in nanoseconds. -/
structure ApiError where
  statusCode : Nat
  message : String
  payload : Option Value
  retryAfter : Option Nat
  layer : Option String
  source : Option String
  provider : Option String
  requestId : Option String

/-- Error returned by the SDK. -/
inductive Error where
  | api (kind : ErrorKind) (error : ApiError)
  | transport (message : String)
  | timeout (message : String)
  | serialization (message : String)
  | invalidConfiguration (message : String)
  | attestation (message : String)
  | oAuth (message : String)

/-- A kind under `{:?}`. -/
def ErrorKind.debug : ErrorKind → String
  | .badRequest => "BadRequest"
  | .authentication => "Authentication"
  | .permissionDenied => "PermissionDenied"
  | .notFound => "NotFound"
  | .rateLimit => "RateLimit"
  | .endpointNotSupported => "EndpointNotSupported"
  | .internal => "Internal"
  | .transport => "Transport"
  | .timeout => "Timeout"
  | .serialization => "Serialization"
  | .invalidConfiguration => "InvalidConfiguration"
  | .attestation => "Attestation"
  | .oAuth => "OAuth"

namespace Error

/-- The stable error classification. -/
def kind : Error → ErrorKind
  | .api kind _ => kind
  | .transport _ => .transport
  | .timeout _ => .timeout
  | .serialization _ => .serialization
  | .invalidConfiguration _ => .invalidConfiguration
  | .attestation _ => .attestation
  | .oAuth _ => .oAuth

/-- `Display`. An API error prints its message only. -/
def display : Error → String
  | .api kind error => kind.debug ++ ": " ++ error.message
  | .transport message => "TrustedRouter endpoint unavailable: " ++ message
  | .timeout message => "TrustedRouter request timed out: " ++ message
  | .serialization message => "TrustedRouter JSON error: " ++ message
  | .invalidConfiguration message => "Invalid TrustedRouter configuration: " ++ message
  | .attestation message => "TrustedRouter attestation verification failed: " ++ message
  | .oAuth message => "TrustedRouter OAuth error: " ++ message

/-- `status_code`. -/
def statusCode : Error → Option Nat
  | .api _ error => some error.statusCode
  | _ => none

end Error

/-- The `error` object of a payload. -/
def errorObject (payload : Value) : Option Serde.Map :=
  (payload.get "error").bind Value.asObject

/-- A member of the `error` object. -/
private def errorMember (payload : Option Value) (name : String) : Option Value :=
  (payload.bind errorObject).bind (Serde.Map.get · name)

/-- A member of the payload itself. -/
private def topMember (payload : Option Value) (name : String) : Option Value :=
  payload.bind (Value.get · name)

/-- The kind of an HTTP status. -/
def kindOfStatus (statusCode : Nat) : ErrorKind :=
  if statusCode = 401 then .authentication
  else if statusCode = 403 then .permissionDenied
  else if statusCode = 404 then .notFound
  else if statusCode = 429 then .rateLimit
  else if statusCode = 501 then .endpointNotSupported
  else if 400 ≤ statusCode ∧ statusCode ≤ 499 then .badRequest
  else .internal

/-- Classifies an API failure. The message reads a string member of `error` and falls
back to a string member of the payload. The other fields take the member of `error` when
it is there, whatever its type, and only then the member of the payload. -/
def classifyApiError (statusCode : Nat) (payload : Option Value)
    (retryAfter : Option Nat) : Error :=
  let message :=
    (((errorMember payload "message").bind Value.asStr).or
      ((topMember payload "message").bind Value.asStr)).getD "TrustedRouter error"
  let stringField := fun name =>
    ((errorMember payload name).or (topMember payload name)).bind Value.asStr
  .api (kindOfStatus statusCode)
    { statusCode
      message
      payload
      retryAfter
      layer := stringField "layer"
      source := stringField "source"
      provider := stringField "provider"
      requestId := stringField "request_id" }

end TrustedRouter
