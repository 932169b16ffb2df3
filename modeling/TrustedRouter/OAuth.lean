import TrustedRouter.Client
import TrustedRouter.Lib.Form

/-!
# `TrustedRouter.OAuth`: the authorization URL and the loopback listener

`crates/trusted-router/src/oauth.rs`. `oauthAuthorizeUrl` puts the state into the query of the
callback URL and the callback URL into the query of the authorization URL. `OAuthLoopback.bind`
parses a callback URL from the configured path, and keeps the path as it was configured for the
check that `validateCallback` makes when the callback comes in.

The listener is what it gives: the port it was bound to, and the bytes of the one read that
`wait` makes. A `BTreeMap` that is collected from pairs has the last value of each name.
-/

set_option autoImplicit false

namespace TrustedRouter

open Rust (Bytes)
open Rust.Str
open Rust.Result
open Whatwg (Url Backend)

/-- Default loopback port. -/
def defaultOAuthLoopbackPort : Nat := 3000

/-! ## The authorization URL -/

/-- Options used to build an OAuth authorization URL. -/
structure OAuthAuthorizeOptions where
  callbackUrl : String
  codeChallenge : String
  codeChallengeMethod : Option String := none
  keyLabel : Option String := none
  limit : Option String := none
  usageLimitType : Option String := none
  expiresAt : Option String := none
  spawnAgent : Option String := none
  spawnCloud : Option String := none
  state : Option String := none

/-- `append_option`. -/
def appendOption (url : Url) (name : String) (value : Option String) : Url :=
  match value.filter (!isEmpty ·) with
  | some value => url.appendPair name value
  | none => url

/-- The callback URL with the state in its own query. -/
def callbackWithState (callback : Url) (state : Option String) : Url :=
  match state with
  | some state => callback.appendPair "state" state
  | none => callback

/-- `Client::oauth_authorize_url`. -/
def oauthAuthorizeUrl (lib : Backend) (client : Client) (options : OAuthAuthorizeOptions) :
    Except Error Url := do
  ensure (!isEmpty options.callbackUrl) (.oAuth "callback_url is required")
  let callback ← mapErr (fun error => .oAuth ("invalid callback URL: " ++ error))
    (Whatwg.parse lib options.callbackUrl)
  let callback := callbackWithState callback options.state
  let method := options.codeChallengeMethod.or
    (if isEmpty options.codeChallenge then none else some "S256")
  ensure (!(method.isSome && isEmpty options.codeChallenge))
    (.oAuth "code_challenge is required when a challenge method is set")
  let authorize ← mapErr Error.oAuth (Whatwg.join lib client.controlBaseUrl.url "auth")
  let authorize := authorize.appendPair "callback_url" callback.asStr
  let authorize :=
    if isEmpty options.codeChallenge then authorize
    else authorize.appendPair "code_challenge" options.codeChallenge
  let authorize := appendOption authorize "code_challenge_method" method
  let authorize := appendOption authorize "key_label" options.keyLabel
  let authorize := appendOption authorize "limit" options.limit
  let authorize := appendOption authorize "usage_limit_type" options.usageLimitType
  let authorize := appendOption authorize "expires_at" options.expiresAt
  let authorize := appendOption authorize "spawn_agent" options.spawnAgent
  pure (appendOption authorize "spawn_cloud" options.spawnCloud)

/-! ## The loopback listener -/

/-- What the listener takes from outside: the URL parser's backend, the decoder for bytes that
are not UTF-8, and the text of the error for them. -/
structure OAuthLibrary where
  backend : Backend
  lossy : Bytes → String
  utf8Error : Bytes → String

/-- Captured loopback OAuth callback. -/
structure OAuthCallback where
  code : String
  state : Option String
  deriving DecidableEq, Repr

/-- Localhost OAuth callback listener settings. -/
structure OAuthLoopbackOptions where
  port : Nat := defaultOAuthLoopbackPort
  path : String := "/callback"
  expectedState : Option String := none

/-- A bound listener: `localAddr` is its own port. -/
structure TcpListener where
  localAddr : Except String Nat

/-- One-shot localhost OAuth callback listener. -/
structure OAuthLoopback where
  callbackUrl : Url
  path : String
  expectedState : Option String

/-- The configured path, with a slash in front. -/
def OAuthLoopbackOptions.rootedPath (options : OAuthLoopbackOptions) : String :=
  if startsWith options.path "/" then options.path else "/" ++ options.path

/-- `OAuthLoopback::bind`, where `listen` binds a port of the loopback address. -/
def OAuthLoopback.bind (lib : OAuthLibrary) (listen : Nat → Except String TcpListener)
    (options : OAuthLoopbackOptions) : Except Error OAuthLoopback := do
  let listener ← mapErr (fun error => .oAuth ("cannot bind OAuth loopback: " ++ error))
    (listen options.port)
  let port ← mapErr Error.oAuth listener.localAddr
  let callbackUrl ← mapErr Error.oAuth
    (Whatwg.parse lib.backend ("http://localhost:" ++ toString port ++ options.rootedPath))
  pure { callbackUrl, path := options.rootedPath, expectedState := options.expectedState }

/-- The value of a name among the pairs of a query: the last one. -/
def param (pairs : List (String × String)) (name : String) : Option String :=
  pairs.reverse.lookup name

/-- `validate_callback`. -/
def validateCallback (lib : OAuthLibrary) (url : Url) (path : String)
    (expectedState : Option String) : Except Error OAuthCallback := do
  ensure (url.pathString == path) (.oAuth "unexpected callback path")
  let params := url.queryPairs lib.lossy
  match param params "error" with
  | some error => .error (.oAuth ("authorization denied: " ++ error))
  | none =>
      let code ← okOr ((param params "code").filter (!isEmpty ·))
        (.oAuth "callback is missing code")
      let state := param params "state"
      ensure (expectedState.all fun expected => state == some expected)
        (.oAuth "state mismatch (possible CSRF)")
      pure { code, state }

/-- The target of a request, from the bytes that were read. -/
def requestTarget (lib : OAuthLibrary) (received : Bytes) : Except Error String := do
  let text ← okOr (fromUtf8 received) (.oAuth (lib.utf8Error received))
  let line ← okOr (firstLine text) (.oAuth "empty OAuth callback")
  okOr (splitWhitespace line)[1]? (.oAuth "malformed OAuth callback")

/-- The page that answers a callback. -/
def callbackResponse (accepted : Bool) : String :=
  let (status, heading) :=
    if accepted then ("200 OK", "Signed in with TrustedRouter")
    else ("400 Bad Request", "TrustedRouter sign in failed")
  let body := "<!doctype html><title>" ++ heading ++ "</title><h1>" ++ heading ++
    "</h1><p>You can close this tab.</p>"
  "HTTP/1.1 " ++ status ++ "\r\nContent-Type: text/html; charset=utf-8\r\nContent-Length: " ++
    toString (len body) ++ "\r\nConnection: close\r\n\r\n" ++ body

/-- What `wait` returns, and what it wrote to the socket. -/
structure Waited where
  result : Except Error OAuthCallback
  response : Option String

/-- The length of the buffer that a request is read into. -/
def readBufferLen : Nat := 16 * 1024

/-- `OAuthLoopback::wait`, on the bytes that have arrived on the connection it accepted, or the
error of accepting or reading. It reads once, so that what does not fit into the buffer is not
seen. -/
def OAuthLoopback.wait (lib : OAuthLibrary) (loopback : OAuthLoopback)
    (arrived : Except String Bytes) : Waited :=
  let parsed : Except Error Url := do
    let arrived ← mapErr Error.oAuth arrived
    let target ← requestTarget lib (arrived.take readBufferLen)
    mapErr Error.oAuth (Whatwg.parse lib.backend ("http://localhost" ++ target))
  match parsed with
  | .error error => { result := .error error, response := none }
  | .ok url =>
      let result := validateCallback lib url loopback.path loopback.expectedState
      { result, response := some (callbackResponse result.isOk) }

end TrustedRouter
