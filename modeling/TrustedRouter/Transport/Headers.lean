import TrustedRouter.Client
import TrustedRouter.Lib.HeaderMap
import TrustedRouter.Lib.Result

/-!
# `TrustedRouter.Transport.Headers`: the headers of one attempt

`crates/trusted-router/src/transport/headers.rs`. `requestHeaders` layers the client's
headers, the call's headers and the fields the SDK owns. `telemetry` is the value of the
recorder for this attempt, when it has one.
-/

set_option autoImplicit false

namespace TrustedRouter.Transport

open Rust.Str
open Rust.Result
open Http (HeaderMap)

/-- `parse_header_name`. -/
def parseHeaderName (value : String) : Except Error String :=
  mapErr (fun error => .invalidConfiguration ("invalid header name: " ++ error))
    (Http.parseName value)

/-- `parse_header_value`. -/
def parseHeaderValue (value : String) : Except Error Rust.Bytes :=
  mapErr (fun error => .invalidConfiguration ("invalid header value: " ++ error))
    (Http.parseValue value)

/-- One layer of caller headers. The reserved telemetry header is dropped before it is
parsed. -/
def parseLayer : List (String × String) → HeaderMap → Except Error HeaderMap
  | [], parsed => .ok parsed
  | (name, value) :: rest, parsed =>
      if eqIgnoreAsciiCase name "x-tr-client" then parseLayer rest parsed
      else do
        let name ← parseHeaderName name
        let value ← parseHeaderValue value
        parseLayer rest (parsed.append name value)

/-- `enforce_reserved_telemetry_header`: a value that does not parse is skipped. -/
def enforceReservedTelemetryHeader (headers : HeaderMap) (telemetry : Option String) :
    HeaderMap :=
  let headers := headers.remove "x-tr-client"
  match telemetry.bind fun value => (Http.parseValue value).toOption with
  | some value => headers.insert "x-tr-client" value
  | none => headers

/-- A credential slot: an option on the call or the client clears what callers put there,
and an option that is not empty fills it. -/
def setOwned (headers : HeaderMap) (name : String) (value : Option String)
    (format : String → String) : Except Error HeaderMap :=
  let headers := if value.isSome then headers.remove name else headers
  match value.filter (fun value => !isEmpty value) with
  | none => .ok headers
  | some value => do
      let value ← parseHeaderValue (format value)
      pure (headers.insert name value)

/-- `request_headers`. -/
def requestHeaders (userAgent : String) (client : Client) (options : CallOptions)
    (telemetry : Option String) : Except Error HeaderMap := do
  let clientLayer ← parseLayer client.headers []
  let callLayer ← parseLayer options.headers []
  let headers := HeaderMap.extend (HeaderMap.extend [] clientLayer) callLayer
  let headers := enforceReservedTelemetryHeader headers telemetry
  let agent ← parseHeaderValue userAgent
  let headers := headers.insert "user-agent" agent
  let headers ← setOwned headers "authorization" (options.apiKey.or client.apiKey)
    ("Bearer " ++ ·)
  let headers ← setOwned headers "x-trustedrouter-workspace"
    (options.workspaceId.or client.workspaceId) id
  match options.idempotencyKey.filter (fun value => !isEmpty value) with
  | none => pure headers
  | some key => do
      let key ← parseHeaderValue key
      pure (headers.insert "idempotency-key" key)

/-- `ensure_idempotency_key`, for a freshly minted identifier. -/
def ensureIdempotencyKey (uuid : String) (options : CallOptions) : CallOptions :=
  if options.idempotencyKey.isNone then
    { options with idempotencyKey := some ("tr-req-" ++ uuid) }
  else options

end TrustedRouter.Transport
