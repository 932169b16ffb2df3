import TrustedRouter.Broadcast
import TrustedRouter.Lib.Form
import TrustedRouter.Transport

/-!
# `TrustedRouter.Endpoints`: metadata, attestation and public documents

Methods of `crates/trusted-router/src/client.rs` that put caller's text into a URL, and
`credential_free_json` of `transport/mod.rs` behind the two that take a whole URL. Query
parameters go through `query_path`, which serializes them on a URL of its own. The attestation
endpoint is beside the base path, so its path steps out of a trailing `/v1/`.
-/

set_option autoImplicit false

namespace TrustedRouter

open Rust (Bytes)
open Rust.Str
open Rust.Result
open Serde (Value)
open Transport (Call Request Response Environment AttemptFailure credentialFreeCall
  ensureIdempotencyKey mapReqwestError)
open Whatwg (Url Backend)

/-! ## Query parameters -/

/-- `query_path`. The path that the source sets on its URL is not read again. -/
def queryPath (lib : Backend) (path : String) (pairs : List (String × String)) :
    Except Error String := do
  let url ← mapErr Error.invalidConfiguration (Whatwg.parse lib "https://sdk.invalid")
  let url := pairs.foldl (fun url pair => url.appendPair pair.1 pair.2) url
  pure (url.query.elim path fun query => path ++ "?" ++ query)

/-- Filters of the model catalog. -/
structure ModelFilters where
  openWeights : Option Bool := none
  providerJurisdiction : Option String := none
  providerRegion : Option String := none

/-- The parameters that `models` pushes. -/
def ModelFilters.query (filters : ModelFilters) : List (String × String) :=
  (filters.openWeights.map fun value => ("open_weights", toString value)).toList ++
    (filters.providerJurisdiction.map fun value => ("provider[jurisdiction]", value)).toList ++
    (filters.providerRegion.map fun value => ("provider[region]", value)).toList

/-- `Client::models`. -/
def models (lib : Backend) (client : Client) (filters : ModelFilters) :
    Except Error Requested := do
  let path ← queryPath lib "/models" filters.query
  pure { plane := .control, path, call := { client, method := .get, body := none, options := {} } }

/-- `Client::activity`, for the entries of a `BTreeMap`. -/
def activity (lib : Backend) (client : Client) (query : List (String × String))
    (options : CallOptions) : Except Error Requested := do
  let path ← queryPath lib "/activity" query
  pure { plane := .control, path, call := { client, method := .get, body := none, options } }

/-! ## Attestation -/

/-- Where the attestation endpoint is from the base. -/
def attestationRoot (client : Client) : String :=
  if endsWith client.apiBaseUrl.url.pathString "/v1/" then "/../attestation" else "/attestation"

/-- `Client::attestation`, up to the credential-free call it makes. -/
def attestation (lib : Backend) (client : Client) (nonceHex : Option String) :
    Except Error Requested := do
  let root := attestationRoot client
  let path ←
    match nonceHex.filter (!isEmpty ·) with
    | some nonce => queryPath lib root [("nonce", nonce)]
    | none => pure root
  let call : Call :=
    { client
      method := .get
      body := none
      options := { apiKey := some "", workspaceId := some "" } }
  pure { plane := .inference, path, call := credentialFreeCall call }

/-! ## Broadcast tests -/

/-- `Client::test_broadcast_destination`, for a freshly minted identifier. -/
def testBroadcastDestination (client : Client) (uuid id : String) (options : CallOptions) :
    Except Error Requested := do
  let stem ← resourcePath "/broadcast/destinations" id
  let call : Call :=
    { client, method := .post, body := none, options := ensureIdempotencyKey uuid options }
  pure { plane := .control, path := stem ++ "/test", call }

/-! ## Public documents -/

/-- Public status JSON document. -/
def defaultStatusUrl : String := "https://status.trustedrouter.com/status.json"

/-- The guard on the URL of a public document. -/
def isPublicUrl (url : Url) : Bool :=
  url.scheme == "https" || url.host == some "127.0.0.1" || url.host == some "localhost"

/-- What `credential_free_json` leaves behind: the request, if one went out, and the result. -/
structure Fetched (α : Type) where
  request : Option Request
  result : Except Error α

/-- The part of `credential_free_json` after the response headers. -/
def readPublic {α : Type} (env : Environment) (parse : Bytes → Except String α)
    (response : Response) : Except Error α := do
  let bytes ← mapErr (·.intoError "public metadata response body deadline exceeded") response.body
  if !response.isSuccess then
    .error (classifyApiError response.status (Serde.fromSlice env.read bytes).toOption none)
  else mapErr Error.serialization (parse bytes)

/-- `credential_free_json`. The client gives nothing but its timeout, which is part of how the
environment answers. -/
def credentialFreeJson {α : Type} (env : Environment) (parse : Bytes → Except String α)
    (target : String) : Fetched α :=
  match Whatwg.parse env.backend target with
  | .error error =>
      { request := none
        result := .error (.invalidConfiguration ("invalid public URL: " ++ error)) }
  | .ok url =>
      if !isPublicUrl url then
        { request := none
          result := .error (.invalidConfiguration "public metadata URL must use HTTPS") }
      else
        match env.reqwest.build .get url [("user-agent", bytes env.userAgent)] none with
        | .error error => { request := none, result := .error (mapReqwestError error) }
        | .ok request =>
            match env.send 0 request with
            | .error failure =>
                { request := some request
                  result := .error
                    (failure.intoError "public metadata response headers deadline exceeded") }
            | .ok response =>
                { request := some request, result := readPublic env parse response }

/-- `Client::status`. -/
def status (env : Environment) (url : Option String) : Fetched Value :=
  credentialFreeJson env (Serde.fromSlice env.read) (url.getD defaultStatusUrl)

end TrustedRouter
