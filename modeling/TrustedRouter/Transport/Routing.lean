import TrustedRouter.Client
import TrustedRouter.Lib.Result

/-!
# `TrustedRouter.Transport.Routing`: the candidate URLs of a call

`crates/trusted-router/src/transport/routing.rs`. `planeUrls` builds the candidate list of
one logical call. `parseBaseUrl` is the only way a base gets into a client, and
`ClientBuilder.build` the only way a candidate list does. `sameAccess_candidateBases` is
the invariant the built client carries.
-/

set_option autoImplicit false

namespace TrustedRouter.Transport

open Rust.Str
open Rust.Result
open Whatwg (Url Backend)

/-- Attested inference API base URL. -/
def defaultApiBaseUrl : String := "https://api.trustedrouter.com/v1"

/-- Exact aliases of the default, on separate domains. -/
def aliasApiBaseUrls : List String :=
  ["https://api.allyrouter.com/v1", "https://api.uptimerouter.com/v1"]

section
variable (lib : Backend)

/-- The guard on a caller's path. -/
def isRootRelative (path : String) : Bool :=
  startsWith path "/" && !startsWith path "//" && !containsChar path '\\'

/-- The candidate of one base: the path without its leading slashes, joined onto it. -/
def joinBase (base : BaseUrl) (path : String) : Except Error Url :=
  mapErr Error.invalidConfiguration (Whatwg.join lib base.url (trimStartMatches '/' path))

/-- `relative_url`. -/
def relativeUrl (client : Client) (plane : Plane) (path : String) : Except Error Url := do
  ensure (isRootRelative path)
    (.invalidConfiguration "API path must be a root-relative path")
  let base :=
    match plane with
    | .inference => client.apiBaseUrl
    | .control => client.controlBaseUrl
  joinBase lib base path

/-- `plane_urls`. -/
def planeUrls (client : Client) (plane : Plane) (path : String) :
    Except Error (List Url) :=
  match plane with
  | .control => do
      let url ← relativeUrl lib client plane path
      pure [url]
  | .inference => do
      ensure (isRootRelative path)
        (.invalidConfiguration "API path must be a root-relative path")
      client.apiBaseUrls.mapM fun base => joinBase lib base path

/-- `parse_base_url`. -/
def parseBaseUrl (value name : String) : Except Error BaseUrl :=
  match Whatwg.parse lib value with
  | .error error =>
      .error (.invalidConfiguration ("invalid " ++ name ++ " base URL: " ++ error))
  | .ok url =>
      if h : (url.scheme = "http" ∨ url.scheme = "https") ∧ url.host.isSome = true then
        .ok
          { url := { url with path := withTrailingSlash url.path }
            http := h.1
            host := h.2
            slash := endsWithSlash_withTrailingSlash url.path }
      else
        .error (.invalidConfiguration (name ++ " base URL must be an HTTP(S) origin"))

/-- `inference_base_urls`: the aliases follow the default base only. -/
def inferenceBaseUrls (primary : BaseUrl) : List BaseUrl :=
  match parseBaseUrl lib defaultApiBaseUrl "inference" with
  | .error _ => [primary]
  | .ok default =>
      if default.url = primary.url then
        primary :: aliasApiBaseUrls.filterMap fun value =>
          (parseBaseUrl lib value "inference").toOption
      else [primary]

/-- The inference candidates of a builder. -/
def candidateBases (regionalFailover : Bool) (primary : BaseUrl) : List BaseUrl :=
  if regionalFailover then inferenceBaseUrls lib primary else [primary]

end

/-! ## Building a client -/

section
variable {lib : Backend}

/-- A base is the URL of its text, with a slash at the end of its path. -/
theorem parseBaseUrl_eq_ok {value name : String} {base : BaseUrl}
    (h : parseBaseUrl lib value name = .ok base) :
    ∃ url, Whatwg.parse lib value = .ok url ∧
      base.url = { url with path := withTrailingSlash url.path } := by
  unfold parseBaseUrl at h
  split at h
  · cases h
  · rename_i url hparse
    split at h
    · cases h
      exact ⟨url, hparse, rfl⟩
    · cases h

/-- A base without credentials, on HTTPS. -/
def IsPlainHttps (base : BaseUrl) : Prop :=
  base.url.scheme = "https" ∧ base.url.username = "" ∧ base.url.password = ""

/-- A text whose authority has no `@` parses to a base without credentials, whatever the host
parser makes of its host. -/
theorem isPlainHttps_of_parse {value name : String} {base : BaseUrl} (input : List Char)
    (hvalue : Whatwg.parse lib value = Whatwg.parseAuthority lib "https" input)
    (hat : (Whatwg.splitAtSign (input.takeWhile (!Whatwg.endsAuthority ·))).1 = none)
    (h : parseBaseUrl lib value name = .ok base) : IsPlainHttps base := by
  obtain ⟨url, hparse, hbase⟩ := parseBaseUrl_eq_ok h
  rw [hvalue] at hparse
  simp only [Whatwg.parseAuthority, hat, bind_eq_ok, exists_unit, ensure_eq_ok] at hparse
  obtain ⟨-, host, -, port, -, hurl⟩ := hparse
  cases hurl
  rw [IsPlainHttps, hbase]
  exact ⟨rfl, rfl, rfl⟩

/-- The default base has no credentials, by the text of the constant. -/
theorem isPlainHttps_default {base : BaseUrl}
    (h : parseBaseUrl lib defaultApiBaseUrl "inference" = .ok base) : IsPlainHttps base :=
  isPlainHttps_of_parse "api.trustedrouter.com/v1".toList rfl (by decide) h

/-- Nor has any of the regional aliases. Each is a constant, so the authority is computed. -/
theorem isPlainHttps_alias {value : String} (hmem : value ∈ aliasApiBaseUrls)
    {base : BaseUrl} (h : parseBaseUrl lib value "inference" = .ok base) :
    IsPlainHttps base := by
  rcases List.mem_cons.mp hmem with rfl | hmem
  · exact isPlainHttps_of_parse "api.allyrouter.com/v1".toList rfl (by decide) h
  · rw [List.mem_singleton.mp hmem] at h
    exact isPlainHttps_of_parse "api.uptimerouter.com/v1".toList rfl (by decide) h

/-- Two such bases agree in their scheme and have no credentials. -/
theorem IsPlainHttps.sameAccess {a b : BaseUrl} (ha : IsPlainHttps a)
    (hb : IsPlainHttps b) : a.SameAccess b :=
  ⟨ha.1.trans hb.1.symm, ha.2.1.trans hb.2.1.symm, ha.2.2.trans hb.2.2.symm⟩

/-- A candidate is the primary base, or an alias that parses. Aliases follow only a primary base
with the URL of the default one. -/
theorem mem_candidateBases {regionalFailover : Bool} {primary base : BaseUrl}
    (h : base ∈ candidateBases lib regionalFailover primary) :
    base = primary ∨
      ∃ default value, parseBaseUrl lib defaultApiBaseUrl "inference" = .ok default ∧
        default.url = primary.url ∧ value ∈ aliasApiBaseUrls ∧
        parseBaseUrl lib value "inference" = .ok base := by
  unfold candidateBases at h
  split at h
  · unfold inferenceBaseUrls at h
    split at h
    · exact .inl (List.mem_singleton.mp h)
    · rename_i default hdefault
      split at h
      · rename_i hsame
        rcases List.mem_cons.mp h with hself | halias
        · exact .inl hself
        · obtain ⟨value, hvalue, hparse⟩ := List.mem_filterMap.mp halias
          refine .inr ⟨default, value, hdefault, hsame, hvalue, ?_⟩
          -- An alias that does not parse is left out of the list.
          cases hresult : parseBaseUrl lib value "inference" with
          | error error =>
              rw [hresult] at hparse
              cases hparse
          | ok alternative =>
              rw [hresult] at hparse
              cases hparse
              rfl
      · exact .inl (List.mem_singleton.mp h)
  · exact .inl (List.mem_singleton.mp h)

/-- Aliases join only a default primary, so no candidate adds a scheme or credentials. For any
other primary the primary is the only candidate. -/
theorem sameAccess_candidateBases {regionalFailover : Bool} {primary base : BaseUrl}
    (h : base ∈ candidateBases lib regionalFailover primary) : base.SameAccess primary := by
  rcases mem_candidateBases h with rfl | ⟨default, value, hdefault, hsame, hvalue, hparse⟩
  · exact ⟨rfl, rfl, rfl⟩
  · have hplain : IsPlainHttps primary := by
      unfold IsPlainHttps
      rw [← hsame]
      exact isPlainHttps_default hdefault
    exact (isPlainHttps_alias hvalue hparse).sameAccess hplain

end

/-- Builder of a `Client`. `telemetry` is the resolved setting. -/
structure ClientBuilder where
  apiKey : Option String := none
  apiBaseUrl : String := defaultApiBaseUrl
  controlBaseUrl : String := "https://trustedrouter.com/v1"
  workspaceId : Option String := none
  timeout : Option Nat := some (120 * 1000000000)
  maxRetries : Nat := 2
  regionalFailover : Bool := true
  telemetry : Bool := false
  headers : List (String × String) := []

/-- `ClientBuilder::build`. -/
def ClientBuilder.build (lib : Backend) (builder : ClientBuilder) : Except Error Client := do
  let apiBaseUrl ← parseBaseUrl lib builder.apiBaseUrl "inference"
  let controlBaseUrl ← parseBaseUrl lib builder.controlBaseUrl "control"
  pure
    { apiKey := builder.apiKey
      apiBaseUrl
      apiBaseUrls := candidateBases lib builder.regionalFailover apiBaseUrl
      controlBaseUrl
      workspaceId := builder.workspaceId
      timeout := builder.timeout
      maxRetries := builder.maxRetries
      telemetry := builder.telemetry
      headers := builder.headers
      sameAccess := fun _ => sameAccess_candidateBases }

/-- The value of a hexadecimal digit. -/
def hexValue (b : UInt8) : Option Nat :=
  let n := b.toNat
  if 48 ≤ n ∧ n ≤ 57 then some (n - 48)
  else if 97 ≤ n ∧ n ≤ 102 then some (n - 87)
  else if 65 ≤ n ∧ n ≤ 70 then some (n - 55)
  else none

/-- `percent_decode_ascii`: malformed escapes stay, and every byte becomes the character of
its own number. -/
def percentDecodeAscii : List UInt8 → List Char
  | [] => []
  | 37 :: high :: low :: rest =>
      match hexValue high, hexValue low with
      | some h, some l => Char.ofNat (h * 16 + l) :: percentDecodeAscii rest
      | _, _ => '%' :: percentDecodeAscii (high :: low :: rest)
  | b :: rest => Char.ofNat b.toNat :: percentDecodeAscii rest

/-- Drops a separator that follows another one. -/
def collapseSlashes : List Char → List Char
  | '/' :: '/' :: rest => collapseSlashes ('/' :: rest)
  | c :: rest => c :: collapseSlashes rest
  | [] => []

/-- Drops a separator at the end, unless it is the whole route. -/
def dropTrailingSlash (route : List Char) : List Char :=
  match route.reverse with
  | '/' :: before :: rest => (before :: rest).reverse
  | _ => route

/-- `semantic_route`. -/
def semanticRoute (path : String) : String :=
  let decoded := (percentDecodeAscii (bytes path)).map Char.toLower
  String.ofList (dropTrailingSlash (collapseSlashes decoded))

/-- `semantic_request_route`: the route of a path on a root of its own. -/
def semanticRequestRoute (lib : Backend) (path : String) : String :=
  match Whatwg.parse lib "https://sdk.invalid/" with
  | .error _ => semanticRoute path
  | .ok root =>
      match Whatwg.join lib root (trimStartMatches '/' path) with
      | .error _ => semanticRoute path
      | .ok resolved => semanticRoute resolved.pathString

/-- The route of a response path relative to that of a base. -/
def relativeRoute (basePath responsePath : String) : Option String :=
  if basePath == "/" then some responsePath
  else if responsePath == basePath then some "/"
  else (stripPrefixStr responsePath (basePath ++ "/")).map ("/" ++ ·)

/-- `semantic_route_relative_to_base`. -/
def semanticRouteRelativeToBase (base response : Url) : Option String :=
  if base.origin ≠ response.origin then none
  else relativeRoute (semanticRoute base.pathString) (semanticRoute response.pathString)

end TrustedRouter.Transport
