import TrustedRouter.Error
import TrustedRouter.Lib.Url

/-!
# `TrustedRouter.Client`: the client and its call options

The part of `crates/trusted-router/src/client.rs` that the transport reads. A `BaseUrl`
carries what `parse_base_url` guarantees of a configured base: an HTTP(S) scheme, a host,
and a path that ends in a slash. A `Client` carries what its builder guarantees of the
candidate list: no candidate has a scheme or credentials that the primary base has not.

A `BTreeMap<String, String>` is the list of its entries in iteration order.
-/

set_option autoImplicit false

namespace TrustedRouter

open Whatwg (Url Path)

/-- API plane selected for a request. -/
inductive Plane where
  | inference
  | control
  deriving DecidableEq, Repr

/-- Per-call transport overrides. `timeout` is in nanoseconds. -/
structure CallOptions where
  apiKey : Option String := none
  workspaceId : Option String := none
  idempotencyKey : Option String := none
  timeout : Option Nat := none
  headers : List (String × String) := []

/-- The path ends in a slash. -/
def endsWithSlash : Path → Bool
  | .segments list => list.getLast?.all (· == "")
  | .text value => value.toList.getLast? == some '/'

/-- `set_path` with a slash appended, where there is none. -/
def withTrailingSlash (path : Path) : Path :=
  if endsWithSlash path then path
  else
    match path with
    | .segments list => .segments (list ++ [""])
    | .text value => .text (value ++ "/")

/-- A base URL ends in a slash once it has been normalised. -/
theorem endsWithSlash_withTrailingSlash (path : Path) :
    endsWithSlash (withTrailingSlash path) = true := by
  unfold withTrailingSlash
  split
  · assumption
  · cases path <;> simp [endsWithSlash]

/-- A configured base URL. -/
structure BaseUrl where
  url : Url
  http : url.scheme = "http" ∨ url.scheme = "https"
  host : url.host.isSome = true
  slash : endsWithSlash url.path = true

/-- The scheme of a base is special. A base carries the proof that it is `http` or `https`. -/
theorem BaseUrl.isSpecial (base : BaseUrl) : Whatwg.isSpecial base.url.scheme = true := by
  rcases base.http with h | h <;> rw [h] <;> decide

/-- Two bases with one scheme and one set of URL credentials. -/
structure BaseUrl.SameAccess (a b : BaseUrl) : Prop where
  scheme : a.url.scheme = b.url.scheme
  username : a.url.username = b.url.username
  password : a.url.password = b.url.password

/-- Asynchronous client: the fields the transport reads. -/
structure Client where
  apiKey : Option String := none
  apiBaseUrl : BaseUrl
  /-- Inference candidates: `apiBaseUrl` first, then the alias domains. -/
  apiBaseUrls : List BaseUrl
  controlBaseUrl : BaseUrl
  workspaceId : Option String := none
  timeout : Option Nat := none
  maxRetries : Nat := 2
  telemetry : Bool := false
  headers : List (String × String) := []
  /-- The candidates differ from the primary base in their host only. -/
  sameAccess : ∀ base ∈ apiBaseUrls, base.SameAccess apiBaseUrl

end TrustedRouter
