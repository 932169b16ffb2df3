import TrustedRouter.Transport.Engine

/-!
# `TrustedRouter.Transport`: the entry points over the engine

`crates/trusted-router/src/transport/mod.rs`. A credential-free call runs the same engine as
any other, on a clone of the client from which everything that identifies the caller was taken.
-/

set_option autoImplicit false

namespace TrustedRouter.Transport

open Rust.Str
open Http (HeaderMap)

/-- `credential_header`. -/
def credentialHeader (name : String) : Bool :=
  ["authorization", "proxy-authorization", "cookie", "cookie2", "x-api-key",
    "x-trustedrouter-workspace", "idempotency-key", "x-tr-client"].contains
      (toAsciiLowercase name)

/-- `headers.retain(|name, _| !credential_header(name))`. -/
def retainUncredentialed (headers : List (String × String)) : List (String × String) :=
  headers.filter fun entry => !credentialHeader entry.1

/-- `Client::credential_free_clone`. -/
def credentialFreeClone (client : Client) : Client :=
  { client with
    apiKey := none
    workspaceId := none
    telemetry := false
    headers := retainUncredentialed client.headers }

/-- The options that `credential_free_plane_bytes` hands on. -/
def credentialFreeOptions (options : CallOptions) : CallOptions :=
  { options with
    apiKey := some ""
    workspaceId := some ""
    headers := retainUncredentialed options.headers }

/-- `credential_free_plane_bytes`: the call that is made of a given one. -/
def credentialFreeCall (call : Call) : Call :=
  { call with
    client := credentialFreeClone call.client
    options := credentialFreeOptions call.options }

/-- The headers of an attempt of that call, with its recorder if it has one. -/
def credentialFreeHeaders (env : Environment) (call : Call) (plane : Plane)
    (resolvedPath : String) : Except Error HeaderMap :=
  let call := credentialFreeCall call
  requestHeaders env.userAgent call.client call.options
    (Option.bind (requestRecorder call.client plane resolvedPath) env.headerValue)

end TrustedRouter.Transport
