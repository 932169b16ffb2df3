import TrustedRouter.Transport.Routing

/-!
# `TrustedRouter.Proofs.Transport.Routing`: where a candidate can point

`planeUrls_eq_ok` reads a candidate list back: the path passed the guard, and every
candidate is the join of the trimmed path onto its own base, in order.

The guard looks at the path as the caller wrote it. The join sees it without its leading
slashes. So a path can pass the guard and still spell out a URL of its own, as
`/https://host/` does. `planeUrls_confined_iff` is the exact condition under which every
candidate stays on the origin of its base.
-/

set_option autoImplicit false

namespace TrustedRouter.Proofs.Transport

open TrustedRouter.Transport
open Rust.Str
open Rust.Result
open Whatwg (Url Backend KeepsOrigin SpellsMalformed IsDirectory)

/-- The configured bases of a plane, in preference order. -/
def planeBases (client : Client) : Plane → List BaseUrl
  | .control => [client.controlBaseUrl]
  | .inference => client.apiBaseUrls

/-- The reference that is joined onto a base. -/
def pathReference (path : String) : String := trimStartMatches '/' path

/-- Both planes make one check and then join the path onto each of their bases. -/
theorem planeUrls_eq (lib : Backend) (client : Client) (plane : Plane) (path : String) :
    planeUrls lib client plane path = (do
      ensure (isRootRelative path)
        (.invalidConfiguration "API path must be a root-relative path")
      (planeBases client plane).mapM fun base => joinBase lib base path) := by
  cases plane with
  | inference => rfl
  | control =>
      simp only [planeUrls, relativeUrl, planeBases, List.mapM_cons, List.mapM_nil,
        bind_assoc, pure_bind]

/-- A candidate list, read back: the path passed the guard, and the candidates are the joins, one
a base and in order. -/
theorem planeUrls_eq_ok {lib : Backend} {client : Client} {plane : Plane} {path : String}
    {urls : List Url} :
    planeUrls lib client plane path = .ok urls ↔
      isRootRelative path = true ∧
        List.Forall₂ (fun base url => Whatwg.join lib base.url (pathReference path) = .ok url)
          (planeBases client plane) urls := by
  simp only [planeUrls_eq, bind_eq_ok, exists_unit, ensure_eq_ok, mapM_eq_ok, joinBase,
    mapErr_eq_ok]
  rfl

/-- Without a candidate list, the guard rejected the path or a base has no candidate. -/
theorem exists_of_planeUrls_eq_error {lib : Backend} {client : Client} {plane : Plane}
    {path : String} {error : Error} (h : planeUrls lib client plane path = .error error) :
    isRootRelative path = false ∨
      ∃ base ∈ planeBases client plane, SpellsMalformed lib base.url (pathReference path) := by
  simp only [planeUrls_eq, bind_eq_error, ensure_eq_error] at h
  rcases h with ⟨hguard, -⟩ | ⟨_, -, hjoin⟩
  · exact .inl hguard
  · obtain ⟨base, hmem, hbase⟩ := exists_mem_of_mapM_eq_error hjoin
    refine .inr ⟨base, hmem, Whatwg.join_error_iff.mp ?_⟩
    cases hresult : Whatwg.join lib base.url (pathReference path) with
    | error error => exact ⟨error, rfl⟩
    | ok url =>
        rw [joinBase, show trimStartMatches '/' path = pathReference path from rfl,
          hresult] at hbase
        cases hbase

/-- Each candidate has the origin of the base it was built from. -/
def OnOwnOrigin (bases : List BaseUrl) (urls : List Url) : Prop :=
  List.Forall₂ (fun base url => url.origin = base.url.origin) bases urls

/-- Candidates stay on their origins exactly when the reference keeps the origin of every base. -/
theorem onOwnOrigin_iff {lib : Backend} {bases : List BaseUrl} {urls : List Url}
    {reference : String}
    (h : List.Forall₂ (fun base url => Whatwg.join lib base.url reference = .ok url)
      bases urls) :
    OnOwnOrigin bases urls ↔ ∀ base ∈ bases, KeepsOrigin lib base.url reference := by
  induction h with
  | nil => simp [OnOwnOrigin]
  | @cons base url bases urls hjoin _ ih =>
      rw [OnOwnOrigin, List.forall₂_cons, Whatwg.join_origin base.isSpecial hjoin,
        List.forall_mem_cons]
      exact and_congr_right fun _ => ih

/-- Every candidate stays on the origin of its own base, one candidate a base and in order,
exactly when one of these holds: the guard rejects the path; the path spells out something that
does not parse against some base; or the path, without its leading slashes, keeps the
origin of every base. -/
theorem planeUrls_confined_iff (lib : Backend) (client : Client) (plane : Plane)
    (path : String) :
    (∀ urls, planeUrls lib client plane path = .ok urls →
      OnOwnOrigin (planeBases client plane) urls) ↔
    (isRootRelative path = false ∨
      (∃ base ∈ planeBases client plane,
        SpellsMalformed lib base.url (pathReference path)) ∨
      ∀ base ∈ planeBases client plane, KeepsOrigin lib base.url (pathReference path)) := by
  constructor
  · intro hconfined
    cases hurls : planeUrls lib client plane path with
    | error error =>
        rcases exists_of_planeUrls_eq_error hurls with hguard | hmalformed
        · exact Or.inl hguard
        · exact Or.inr (Or.inl hmalformed)
    | ok urls =>
        have hjoins := (planeUrls_eq_ok.mp hurls).2
        have hkeeps := (onOwnOrigin_iff hjoins).mp (hconfined urls hurls)
        exact Or.inr (Or.inr hkeeps)
  · intro hcondition urls hurls
    obtain ⟨hguard, hjoins⟩ := planeUrls_eq_ok.mp hurls
    rcases hcondition with hrejected | ⟨base, hmem, hmalformed⟩ | hkeeps
    · rw [hguard] at hrejected
      cases hrejected
    · -- A base without a candidate contradicts the list that was returned.
      obtain ⟨error, herror⟩ := Whatwg.join_error_iff.mpr hmalformed
      obtain ⟨url, -, hurl⟩ := exists_mem_of_forall₂ hjoins hmem
      rw [herror] at hurl
      cases hurl
    · exact (onOwnOrigin_iff hjoins).mpr hkeeps

/-! ## The paths of the bases -/

/-- The path of a URL has segments, as that of every URL with a special scheme. -/
def HasSegments (url : Url) : Prop := ∃ segments, url.path = .segments segments

/-- The path of a base names a directory: `parse_base_url` has put a slash at its end. -/
theorem isDirectory_of_base {base : BaseUrl} (h : HasSegments base.url) :
    ∃ segments, IsDirectory base.url segments := by
  obtain ⟨list, hlist⟩ := h
  have hslash := base.slash
  rw [hlist, endsWithSlash] at hslash
  rcases List.eq_nil_or_concat list with rfl | ⟨segments, last, rfl⟩
  · exact ⟨[], ⟨.inr ⟨hlist, rfl⟩⟩⟩
  · rw [List.concat_eq_append, List.getLast?_concat, Option.all_some, beq_iff_eq] at hslash
    rw [List.concat_eq_append, hslash] at hlist
    exact ⟨segments, ⟨.inl hlist⟩⟩

/-- The path of a parsed base has the segments of some text, and a slash at the end. A base is an
HTTP or HTTPS URL, and these have no opaque path. -/
theorem parseBaseUrl_path {lib : Backend} {value name : String} {base : BaseUrl}
    (h : parseBaseUrl lib value name = .ok base) :
    ∃ input, base.url.path = withTrailingSlash (.segments (Whatwg.parsePath [] input)) := by
  obtain ⟨url, hparse, hbase⟩ := parseBaseUrl_eq_ok h
  rw [hbase]
  rw [Whatwg.parse] at hparse
  split at hparse
  · cases hparse
  · split at hparse
    · simp only [Whatwg.parseAuthority, bind_eq_ok, exists_unit] at hparse
      obtain ⟨-, host, -, port, -, hurl⟩ := hparse
      cases hurl
      exact ⟨_, rfl⟩
    · -- A URL of another scheme is no base.
      rename_i hspecial
      have hscheme : base.url.scheme = url.scheme := by rw [hbase]
      rw [← lib.parseOther_scheme hparse, ← hscheme, base.isSpecial] at hspecial
      exact absurd rfl hspecial

/-- Every base that was parsed has segments. -/
theorem parseBaseUrl_hasSegments {lib : Backend} {value name : String} {base : BaseUrl}
    (h : parseBaseUrl lib value name = .ok base) : HasSegments base.url := by
  obtain ⟨input, hpath⟩ := parseBaseUrl_path h
  rw [withTrailingSlash] at hpath
  split at hpath
  · exact ⟨_, hpath⟩
  · exact ⟨_, hpath⟩

/-! ## Instances -/

/-- A backend for plain domain names, which the host parser returns as they are. It knows no
other scheme. -/
def plainBackend : Backend where
  parseHost := .ok
  parseOther _ _ := .error "unsupported scheme"
  parseOther_scheme h := Whatwg.scheme_of_error h

/-- The default control base. -/
def defaultControlBase : BaseUrl where
  url :=
    { scheme := "https"
      host := some "trustedrouter.com"
      path := .segments ["v1", ""] }
  http := .inr rfl
  host := rfl
  slash := by decide

/-- A client with the default control base. -/
def defaultClient : Client where
  apiBaseUrl := defaultControlBase
  apiBaseUrls := [defaultControlBase]
  controlBaseUrl := defaultControlBase
  sameAccess base hbase := by rw [List.mem_singleton.mp hbase]; exact ⟨rfl, rfl, rfl⟩

/-- The path `/https://attacker.test/steal` passes the guard, and its one candidate is on
the origin the path names. -/
theorem planeUrls_leaves_origin :
    ∃ url, planeUrls plainBackend defaultClient .control "/https://attacker.test/steal" =
        .ok [url] ∧
      url.origin = { scheme := "https", host := some "attacker.test", port := some 443 } ∧
      ¬ OnOwnOrigin (planeBases defaultClient .control) [url] := by
  refine ⟨{ scheme := "https", host := some "attacker.test", path := .segments ["steal"] },
    rfl, rfl, ?_⟩
  intro h
  rcases h with _ | ⟨horigin, -⟩
  exact absurd horigin (by decide)

end TrustedRouter.Proofs.Transport
