import TrustedRouter.Endpoints
import TrustedRouter.Lib.UrlReference
import TrustedRouter.Proofs.Transport.Broadcast

/-!
# `TrustedRouter.Proofs.Transport.Endpoints`: what a caller's text becomes in a URL

Every path that the methods of `Endpoints` build is a relative reference, with a query of
serialized parameters or without one. `planeUrls_reference` is the candidate list of such a path:
one URL a base, with the segments of the reference pushed onto its own. The three results follow.

* Query parameters arrive as they were given, whatever they are.
* The attestation endpoint of a candidate is beside its `/v1/`, on its own origin.
* A test of a destination goes to the destination that a fetch goes to, unless the id ends in a
  blank.
-/

set_option autoImplicit false

namespace TrustedRouter.Proofs.Transport

open TrustedRouter.Transport
open Rust (Bytes)
open Rust.Str
open Rust.Result
open Whatwg (Url Backend IsDirectory IsPathReference reference slashed isSlash isDot isDoubleDot
  isSingleDot isTabOrNewline cleanEnd endsPath percentEncode inPathSet pushSegments isNormal)
open FormUrlencoded (IsQueryText)

/-! ## Paths that are references -/

/-- The URL of a reference below a base. -/
def referenceUrl (path : List Char) (query : Option String) (base : BaseUrl) : Url :=
  { base.url with
    path := .segments
      (pushSegments base.url.pathSegments.dropLast (splitWhere isSlash path))
    query
    fragment := none }

/-- The query of a reference: text that the parser leaves alone, without a backslash. -/
def IsReferenceQuery (query : Option String) : Prop :=
  ∀ text, query = some text → IsQueryText text ∧ '\\' ∉ text.toList

section
variable {path : List Char} {query : Option String}

/-- A reference has a backslash only in its path or in its query. -/
theorem backslash_not_mem_reference (hpath : '\\' ∉ path) (hquery : IsReferenceQuery query) :
    '\\' ∉ reference path query := by
  intro hmem
  rcases List.mem_append.mp hmem with hmem | hmem
  · exact hpath hmem
  · cases query with
    | none => cases hmem
    | some text =>
        rcases List.mem_cons.mp hmem with hmem | hmem
        · exact absurd hmem (by decide)
        · exact (hquery text rfl).2 hmem

/-- A slash and a reference pass the guard, and the reference is what is joined. -/
theorem rooted_reference (hpath : IsPathReference path) (hback : '\\' ∉ path)
    (hquery : IsReferenceQuery query) :
    isRootRelative (String.ofList ('/' :: reference path query)) = true ∧
      pathReference (String.ofList ('/' :: reference path query)) =
        String.ofList (reference path query) := by
  have hcontains : containsChar (String.ofList ('/' :: reference path query)) '\\' = false := by
    rw [containsChar, String.toList_ofList, List.contains_eq_mem, decide_eq_false_iff_not]
    intro hmem
    rcases List.mem_cons.mp hmem with hmem | hmem
    · exact absurd hmem (by decide)
    · exact backslash_not_mem_reference hback hquery hmem
  -- The path does not start with a slash, so that only the one in front of it is trimmed.
  obtain ⟨c, rest, rfl⟩ := List.exists_cons_of_ne_nil hpath.ne_nil
  have hslash : isSlash c = false := hpath.no_slash c rfl
  simp only [isSlash, Bool.or_eq_false_iff] at hslash
  have hne : c ≠ '/' := beq_eq_false_iff_ne.mp hslash.1
  constructor
  · have hone : "/".toList = ['/'] := rfl
    have htwo : "//".toList = ['/', '/'] := rfl
    rw [isRootRelative, hcontains]
    simp only [startsWith, String.toList_ofList, reference, hone, htwo, List.cons_append]
    simp [List.isPrefixOf, hne.symm]
  · rw [pathReference, trimStartMatches, String.toList_ofList, reference, List.cons_append,
      List.dropWhile_cons, if_pos (by decide), List.dropWhile_cons, hslash.1]
    rfl

/-- The candidates of a reference: one a base, in order. A reference has no scheme and no host of
its own, so that its join cannot fail and stays below the base. -/
theorem planeUrls_reference (lib : Backend) {client : Client} {plane : Plane}
    (hbases : ∀ base ∈ planeBases client plane, HasSegments base.url)
    (hpath : IsPathReference path) (hback : '\\' ∉ path) (hquery : IsReferenceQuery query) :
    planeUrls lib client plane (String.ofList ('/' :: reference path query)) =
      .ok ((planeBases client plane).map (referenceUrl path query)) := by
  obtain ⟨hroot, hreference⟩ := rooted_reference hpath hback hquery
  refine planeUrls_eq_ok.mpr ⟨hroot, ?_⟩
  rw [hreference, List.forall₂_map_right_iff, List.forall₂_same]
  intro base hbase
  obtain ⟨segments, hdirectory⟩ := isDirectory_of_base (hbases base hbase)
  rw [Whatwg.join_reference hpath (fun text htext => (hquery text htext).1) lib hdirectory,
    referenceUrl, hdirectory.dropLast]

end

/-! ## The path of `query_path` -/

/-- Parameters bring no backslash into a query: `append_pair` writes one as an escape. -/
theorem backslash_not_mem_appendPairs {url : Url} {params : List (String × String)}
    (h : '\\' ∉ (url.query.getD "").toList) :
    '\\' ∉ ((url.appendPairs params).query.getD "").toList := by
  induction params generalizing url with
  | nil => exact h
  | cons pair rest ih =>
      exact ih (FormUrlencoded.backslash_not_mem_appendPair h pair.1 pair.2)

/-- The URL that `query_path` works on has no query, so that the parameters are all of the query
it ends with. -/
theorem query_scratch {lib : Backend} {url : Url}
    (h : Whatwg.parse lib "https://sdk.invalid" = .ok url) : url.query = none := by
  have hparse : Whatwg.parse lib "https://sdk.invalid" =
      Whatwg.parseAuthority lib "https" "sdk.invalid".toList := rfl
  rw [hparse] at h
  simp only [Whatwg.parseAuthority, bind_eq_ok, exists_unit] at h
  obtain ⟨-, host, -, port, -, hurl⟩ := h
  cases hurl
  rfl

/-- What `query_path` returns: the path, and behind it a query that reads as the parameters. -/
theorem queryPath_eq_ok {lib : Backend} {path result : String} {pairs : List (String × String)}
    (h : queryPath lib path pairs = .ok result) (lossy : Bytes → String) :
    ∃ query, IsReferenceQuery query ∧ result = String.ofList (reference path.toList query) ∧
      FormUrlencoded.parse lossy (bytes (query.getD "")) = pairs := by
  simp only [queryPath, bind_eq_ok, mapErr_eq_ok] at h
  obtain ⟨url, hurl, hresult⟩ := h
  have hnone := query_scratch hurl
  cases hresult
  change ∃ query, _ ∧ (url.appendPairs pairs).query.elim _ _ = _ ∧ _
  refine ⟨(url.appendPairs pairs).query, ?_, ?_, ?_⟩
  · intro text htext
    have hback := @backslash_not_mem_appendPairs url pairs
      (by rw [hnone]; exact List.not_mem_nil)
    rw [htext] at hback
    refine ⟨?_, hback⟩
    cases pairs with
    | nil =>
        rw [Url.appendPairs, List.foldl_nil, hnone] at htext
        cases htext
    | cons pair rest =>
        obtain ⟨query, hquery, hisText⟩ := @Whatwg.exists_query_appendPairs url (pair :: rest)
          (List.cons_ne_nil _ _) (by rw [hnone]; exact fun c hc => absurd hc List.not_mem_nil)
        rw [htext] at hquery
        cases hquery
        exact hisText
  · cases hquery : (url.appendPairs pairs).query with
    | none => rw [reference, Option.elim_none, Option.elim_none, List.append_nil,
        String.ofList_toList]
    | some query =>
        rw [reference, Option.elim_some, Option.elim_some, String.ofList_append,
          String.ofList_toList]
        show _ ++ "?" ++ query = _ ++ String.ofList (['?'] ++ query.toList)
        rw [String.ofList_append, String.ofList_toList, String.append_assoc]
  · -- The scratch address has no query of its own: what is read back is what was appended.
    have hpairs := Whatwg.queryPairs_appendPairs lossy url pairs
    rw [Url.queryPairs, Url.queryPairs, hnone] at hpairs
    exact hpairs

/-! ## Query parameters arrive -/

/-- A name of an endpoint directly below a base: one segment that the parser leaves alone. -/
structure IsEndpoint (name : String) : Prop where
  ne_empty : name ≠ ""
  normal : isNormal name.toList = true
  no_scheme : ∀ query, Whatwg.splitScheme (reference name.toList query) = none

section
variable {name : String} (h : IsEndpoint name)
include h

/-- The name of an endpoint is a reference by itself. -/
theorem IsEndpoint.isPathReference : IsPathReference name.toList := by
  have hchars := Whatwg.isPathChar_of_isNormal h.normal
  have hne : name.toList ≠ [] := fun hnil => h.ne_empty (String.toList_eq_nil_iff.mp hnil)
  refine ⟨hne, ?_, ?_, ?_, h.no_scheme⟩
  · intro c hc
    exact Whatwg.isSlash_of_isNormal h.normal c (List.mem_of_mem_head? hc)
  · intro c hc
    have hrange := Whatwg.toNat_of_isPathChar (hchars c hc)
    simp only [Whatwg.isC0OrSpace, decide_eq_false_iff_not]
    omega
  · intro c hc
    exact Whatwg.endsPath_of_isPathChar (hchars c hc)

/-- A normal segment has no backslash, which the parser would read as a separator. -/
theorem IsEndpoint.backslash : '\\' ∉ name.toList := by
  intro hmem
  exact absurd (Whatwg.isSlash_of_isNormal h.normal _ hmem) (by decide)

/-- Its URL: the name behind the path of the base. -/
theorem IsEndpoint.pathString {base : BaseUrl} (hbase : HasSegments base.url)
    (query : Option String) :
    (referenceUrl name.toList query base).pathString = base.url.pathString ++ name := by
  obtain ⟨segments, hdirectory⟩ := isDirectory_of_base hbase
  have hsplit : splitWhere isSlash name.toList = [name.toList] :=
    splitWhere_of_forall (Whatwg.isSlash_of_isNormal h.normal)
  obtain ⟨hdouble, hsingle⟩ := Whatwg.not_dot_of_isNormal h.normal
  have hpath : (referenceUrl name.toList query base).path = .segments (segments ++ [name]) := by
    show Whatwg.Path.segments _ = _
    rw [hdirectory.dropLast, hsplit, pushSegments, hdouble, hsingle,
      Whatwg.percentEncode_of_isNormal h.normal, String.ofList_toList]
    rfl
  rw [pathString_below hdirectory hpath]
  show _ ++ (name ++ "") = _
  rw [String.append_empty]

end

/-- A URL that carries a caller's parameters to an endpoint below a base. -/
structure CarriesQuery (lossy : Bytes → String) (base url : Url) (name : String)
    (pairs : List (String × String)) : Prop where
  origin : url.origin = base.origin
  path : url.pathString = base.pathString ++ name
  fragment : url.fragment = none
  pairs : url.queryPairs lossy = pairs

/-- The one candidate of `query_path` on the control plane: below the control base, with the
parameters in its query as they were given. -/
theorem planeUrls_queryPath {lib : Backend} {client : Client}
    (hbase : HasSegments client.controlBaseUrl.url) {name path : String} (hname : IsEndpoint name)
    {pairs : List (String × String)} (h : queryPath lib ("/" ++ name) pairs = .ok path)
    (lossy : Bytes → String) :
    ∃ url, planeUrls lib client .control path = .ok [url] ∧
      CarriesQuery lossy client.controlBaseUrl.url url name pairs := by
  obtain ⟨query, hquery, rfl, hpairs⟩ := queryPath_eq_ok h lossy
  have hroot : reference ("/" ++ name).toList query = '/' :: reference name.toList query := by
    rw [reference, String.toList_append]
    rfl
  have hbases : ∀ base ∈ planeBases client .control, HasSegments base.url := by
    intro base hmem
    rw [List.mem_singleton.mp hmem]
    exact hbase
  rw [hroot, planeUrls_reference lib hbases hname.isPathReference hname.backslash hquery]
  exact ⟨referenceUrl name.toList query client.controlBaseUrl, rfl,
    { origin := rfl, path := hname.pathString hbase query, fragment := rfl, pairs := hpairs }⟩

/-- The name of the models endpoint. -/
theorem isEndpoint_models : IsEndpoint "models" :=
  ⟨by decide, by decide, fun query => by cases query <;> rfl⟩

/-- The name of the activity endpoint. -/
theorem isEndpoint_activity : IsEndpoint "activity" :=
  ⟨by decide, by decide, fun query => by cases query <;> rfl⟩

/-- The parameters of a metadata call arrive as they were given. Whatever characters a filter or
an entry of the query has, the call goes to its endpoint below the control base, and a server that
reads the query finds exactly these names and values, in this order. -/
theorem query_parameters_arrive {lib : Backend} {client : Client}
    (hbase : HasSegments client.controlBaseUrl.url) (lossy : Bytes → String) :
    (∀ filters requested, models lib client filters = .ok requested →
      ∃ url, planeUrls lib client requested.plane requested.path = .ok [url] ∧
        CarriesQuery lossy client.controlBaseUrl.url url "models" filters.query) ∧
    ∀ query options requested, activity lib client query options = .ok requested →
      ∃ url, planeUrls lib client requested.plane requested.path = .ok [url] ∧
        CarriesQuery lossy client.controlBaseUrl.url url "activity" query := by
  constructor
  · intro filters requested h
    simp only [models, bind_eq_ok] at h
    obtain ⟨path, hpath, hrequested⟩ := h
    cases hrequested
    exact planeUrls_queryPath hbase isEndpoint_models hpath lossy
  · intro query options requested h
    simp only [activity, bind_eq_ok] at h
    obtain ⟨path, hpath, hrequested⟩ := h
    cases hrequested
    exact planeUrls_queryPath hbase isEndpoint_activity hpath lossy

/-- A value with the separators of a URL in it is still one value. -/
theorem query_parameters_arrive_separators :
    ∃ requested url,
      activity plainBackend defaultClient [("a&b", "x=y#z?\\")] {} = .ok requested ∧
      planeUrls plainBackend defaultClient requested.plane requested.path = .ok [url] ∧
      CarriesQuery (fun _ => "") defaultControlBase.url url "activity" [("a&b", "x=y#z?\\")] := by
  obtain ⟨url, hurl, hcarries⟩ := (@query_parameters_arrive plainBackend defaultClient ⟨_, rfl⟩
    fun _ => "").2 [("a&b", "x=y#z?\\")] {} _ rfl
  exact ⟨_, url, rfl, hurl, hcarries⟩

/-! ## The attestation endpoint -/

/-- The segments of a parsed base are normal: no dot segments, and only characters that the parser
leaves alone. -/
theorem parseBaseUrl_isNormal {lib : Backend} {value name : String} {base : BaseUrl}
    (h : parseBaseUrl lib value name = .ok base) :
    ∀ segment ∈ base.url.pathSegments, isNormal segment.toList = true := by
  obtain ⟨input, hpath⟩ := parseBaseUrl_path h
  have hall := Whatwg.parsePath_isNormal input
  rw [withTrailingSlash] at hpath
  split at hpath
  · simpa only [Url.pathSegments, hpath] using hall
  · -- The slash that is added is an empty segment, which is normal.
    simp only [Url.pathSegments, hpath]
    intro segment hmem
    rcases List.mem_append.mp hmem with hmem | hmem
    · exact hall segment hmem
    · rw [List.mem_singleton.mp hmem]
      decide

/-- A base that the attestation path can be resolved against: a directory of segments without
slashes. -/
structure IsNormalBase (base : BaseUrl) (segments : List String) : Prop where
  directory : IsDirectory base.url segments
  no_slash : ∀ segment ∈ segments, '/' ∉ segment.toList

/-- Every base that was parsed can have the attestation path resolved against it. -/
theorem parseBaseUrl_isNormalBase {lib : Backend} {value name : String} {base : BaseUrl}
    (h : parseBaseUrl lib value name = .ok base) : ∃ segments, IsNormalBase base segments := by
  obtain ⟨segments, hdirectory⟩ := isDirectory_of_base (parseBaseUrl_hasSegments h)
  refine ⟨segments, hdirectory, ?_⟩
  intro segment hmem hslash
  have hin : segment ∈ base.url.pathSegments := by
    rw [← hdirectory.dropLast] at hmem
    exact List.mem_of_mem_dropLast hmem
  exact absurd (Whatwg.isSlash_of_isNormal (parseBaseUrl_isNormal h segment hin) _ hslash)
    (by decide)

/-- The word behind the last slash. -/
theorem takeWhile_reverse_slash (front : List Char) {word : List Char} (h : '/' ∉ word) :
    (front ++ '/' :: word).reverse.takeWhile (· != '/') = word.reverse := by
  have hword : ∀ c ∈ word.reverse, (c != '/') = true := by
    intro c hc
    rw [bne_iff_ne]
    rintro rfl
    exact h (List.mem_reverse.mp hc)
  rw [List.reverse_append, List.reverse_cons, List.append_assoc,
    List.takeWhile_append_of_pos hword]
  show word.reverse ++ [] = _
  rw [List.append_nil]

/-- A directory ends in a word between slashes exactly when that is its last segment: neither word
has a slash, so both are what stands between the last two. -/
theorem eq_of_suffix {word last front : List Char} (hword : '/' ∉ word) (hlast : '/' ∉ last)
    (h : '/' :: (word ++ ['/']) <:+ front ++ '/' :: (last ++ ['/'])) : word = last := by
  obtain ⟨before, hbefore⟩ := h
  have hsame : before ++ '/' :: word ++ ['/'] = front ++ '/' :: last ++ ['/'] := by
    simpa using hbefore
  have htake := congrArg (fun l => l.reverse.takeWhile (· != '/'))
    (List.append_cancel_right hsame)
  rw [takeWhile_reverse_slash before hword, takeWhile_reverse_slash front hlast] at htake
  exact List.reverse_injective htake

/-- The path ends in `/v1/` exactly when the last segment of the directory is `v1`. The source
asks for the text, and the resolution of `..` removes the segment. -/
theorem endsWith_v1_iff {base : BaseUrl} {segments : List String}
    (h : IsNormalBase base segments) :
    endsWith base.url.pathString "/v1/" = true ↔ ∃ before, segments = before ++ ["v1"] := by
  rw [h.directory.pathString]
  constructor
  · intro hends
    rcases List.eq_nil_or_concat segments with rfl | ⟨before, last, rfl⟩
    · exact absurd hends (by decide)
    · rw [List.concat_eq_append] at hends ⊢
      have hlast : '/' ∉ last.toList := by
        refine h.no_slash last ?_
        rw [List.concat_eq_append]
        exact List.mem_append_right _ List.mem_cons_self
      have htext : (slashed (before ++ [last]) ++ "/").toList =
          (slashed before).toList ++ '/' :: (last.toList ++ ['/']) := by
        rw [Whatwg.slashed_append, String.toList_append, String.toList_append]
        show (slashed before).toList ++ ("/" ++ last ++ "").toList ++ ['/'] = _
        rw [String.append_empty, String.toList_append, List.append_assoc]
        rfl
      -- The last segment has no slash, so that the suffix is the whole of it.
      have hsuffix := List.isSuffixOf_iff_suffix.mp hends
      rw [htext] at hsuffix
      have hword : ['v', '1'] = last.toList := eq_of_suffix (by decide) hlast hsuffix
      refine ⟨before, ?_⟩
      rw [show last = "v1" from String.toList_inj.mp hword.symm]
  · rintro ⟨before, rfl⟩
    refine endsWith_iff.mpr ⟨slashed before, ?_⟩
    rw [Whatwg.slashed_append, String.append_assoc]
    rfl

/-- The root of an API: the path of its base without a `v1/` at the end. -/
def apiRoot (path : String) : String :=
  if endsWith path "/v1/" then String.ofList (path.toList.take (path.toList.length - 3)) else path

/-- The attestation path from a base, as a reference. -/
def attestationReference (v1 : Bool) : List Char :=
  if v1 then "../attestation".toList else "attestation".toList

/-- The attestation path is a reference in both of its forms. -/
theorem isPathReference_attestation (v1 : Bool) :
    IsPathReference (attestationReference v1) ∧ '\\' ∉ attestationReference v1 := by
  cases v1 with
  | false =>
      have hendpoint : IsEndpoint "attestation" :=
        ⟨by decide, by decide, fun query => by cases query <;> rfl⟩
      exact ⟨hendpoint.isPathReference, hendpoint.backslash⟩
  | true =>
      refine ⟨⟨by decide, ?_, List.all_iff_forall_prop.mp (by decide),
        List.all_iff_forall_prop.mp (by decide), fun query => by cases query <;> rfl⟩, by decide⟩
      intro c hc
      cases hc
      decide

/-- It resolves to the endpoint at the root of the API: the two dots remove the `v1` of the base,
where there is one. -/
theorem pathString_attestation {base : BaseUrl} {segments : List String}
    (h : IsNormalBase base segments) (query : Option String) :
    (referenceUrl (attestationReference (endsWith base.url.pathString "/v1/")) query
      base).pathString = apiRoot base.url.pathString ++ "attestation" := by
  by_cases hends : endsWith base.url.pathString "/v1/" = true
  · rw [hends, apiRoot, if_pos hends]
    obtain ⟨before, rfl⟩ := (endsWith_v1_iff h).mp hends
    have hpath : (referenceUrl (attestationReference true) query base).path =
        .segments (before ++ ["attestation"]) := by
      show Whatwg.Path.segments (pushSegments base.url.pathSegments.dropLast
        ["..".toList, "attestation".toList]) = _
      rw [h.directory.dropLast]
      -- The two dots pop `v1`.
      show Whatwg.Path.segments (Whatwg.popSegment (before ++ ["v1"]) ++ ["attestation"]) = _
      rw [Whatwg.popSegment_concat (by decide)]
    have hbase : base.url.pathString.toList = (slashed before).toList ++ "/v1/".toList := by
      rw [h.directory.pathString, Whatwg.slashed_append, String.append_assoc,
        String.toList_append]
      rfl
    have hroot : (slashed before).toList ++ ['/'] =
        ((slashed before).toList ++ "/v1/".toList).take
          (((slashed before).toList ++ "/v1/".toList).length - 3) := by
      rw [List.length_append, show "/v1/".toList.length = 4 from rfl, Nat.add_sub_assoc (by omega),
        List.take_length_add_append]
      rfl
    rw [Whatwg.pathString_segments hpath (List.append_ne_nil_of_right_ne_nil _
      (List.cons_ne_nil _ _)), Whatwg.slashed_append, hbase, ← hroot, String.ofList_append,
      String.ofList_toList, String.append_assoc]
    rfl
  · rw [Bool.eq_false_iff.mpr hends, apiRoot, if_neg hends]
    have hendpoint : IsEndpoint "attestation" :=
      ⟨by decide, by decide, fun query => by cases query <;> rfl⟩
    have hsegments : HasSegments base.url := by
      rcases h.directory.path with hpath | ⟨hpath, -⟩
      · exact ⟨_, hpath⟩
      · exact ⟨_, hpath⟩
    exact hendpoint.pathString hsegments query

/-- A text of the SDK's own whose path is `v1` parses to a base with that path. -/
theorem path_of_constant {lib : Backend} {value name : String} {base : BaseUrl}
    (hvalue : value ∈ defaultApiBaseUrl :: aliasApiBaseUrls)
    (h : parseBaseUrl lib value name = .ok base) :
    base.url.path = .segments ["v1", ""] := by
  -- The three constants are read up to their authority; their hosts are the library's to parse.
  have hauthority : ∃ input, Whatwg.parse lib value = Whatwg.parseAuthority lib "https" input ∧
      Whatwg.parsePath []
        (if ((input.dropWhile (!Whatwg.endsAuthority ·)).head?.map isSlash).getD false then
          (input.dropWhile (!Whatwg.endsAuthority ·)).drop 1
        else input.dropWhile (!Whatwg.endsAuthority ·)) = ["v1"] := by
    simp only [aliasApiBaseUrls, List.mem_cons, List.not_mem_nil, or_false] at hvalue
    rcases hvalue with rfl | rfl | rfl
    · exact ⟨"api.trustedrouter.com/v1".toList, rfl, by decide⟩
    · exact ⟨"api.allyrouter.com/v1".toList, rfl, by decide⟩
    · exact ⟨"api.uptimerouter.com/v1".toList, rfl, by decide⟩
  obtain ⟨input, hinput, hpath⟩ := hauthority
  obtain ⟨url, hparse, hbase⟩ := parseBaseUrl_eq_ok h
  rw [hinput] at hparse
  simp only [Whatwg.parseAuthority, bind_eq_ok, exists_unit] at hparse
  obtain ⟨-, host, -, port, -, hurl⟩ := hparse
  cases hurl
  rw [hbase]
  show withTrailingSlash (.segments (Whatwg.parsePath [] _)) = _
  rw [hpath]
  decide

/-- The candidates of a builder step out of `v1` together: an alias stands only behind the
default base, and all of them have its path. -/
theorem candidateBases_alike {lib : Backend} {value name : String} {primary base : BaseUrl}
    {regionalFailover : Bool} (hprimary : parseBaseUrl lib value name = .ok primary)
    (hmem : base ∈ candidateBases lib regionalFailover primary) :
    (∃ segments, IsNormalBase base segments) ∧
      endsWith base.url.pathString "/v1/" = endsWith primary.url.pathString "/v1/" := by
  rcases mem_candidateBases hmem with rfl | ⟨default, other, hdefault, hsame, halias, hparsed⟩
  · exact ⟨parseBaseUrl_isNormalBase hprimary, rfl⟩
  · have hpath := path_of_constant (List.mem_cons_of_mem _ halias) hparsed
    have hdefaultPath := path_of_constant List.mem_cons_self hdefault
    rw [hsame] at hdefaultPath
    refine ⟨parseBaseUrl_isNormalBase hparsed, ?_⟩
    rw [Url.pathString, Url.pathString, hpath, hdefaultPath]

/-- A URL of the attestation endpoint at the root of an API, with a nonce or without. -/
structure AtApiRoot (lossy : Bytes → String) (base url : Url) (nonce : Option String) : Prop where
  origin : url.origin = base.origin
  path : url.pathString = apiRoot base.pathString ++ "attestation"
  fragment : url.fragment = none
  nonce : url.queryPairs lossy =
    (nonce.filter (!isEmpty ·)).toList.map fun value => ("nonce", value)

/-- The path that `attestation` hands on is a reference, with the nonce in its query. -/
theorem attestation_eq_ok {lib : Backend} {client : Client} {nonce : Option String}
    {requested : Requested} (h : attestation lib client nonce = .ok requested)
    (lossy : Bytes → String) :
    requested.plane = .inference ∧ requested.call.client.apiBaseUrls = client.apiBaseUrls ∧
      ∃ query, IsReferenceQuery query ∧
        requested.path = String.ofList ('/' :: reference
          (attestationReference (endsWith client.apiBaseUrl.url.pathString "/v1/")) query) ∧
        FormUrlencoded.parse lossy (bytes (query.getD "")) =
          (nonce.filter (!isEmpty ·)).toList.map fun value => ("nonce", value) := by
  -- An empty nonce is no nonce: both leave the address without a query.
  have hroot : (attestationRoot client).toList =
      '/' :: attestationReference (endsWith client.apiBaseUrl.url.pathString "/v1/") := by
    unfold attestationRoot attestationReference
    split <;> rfl
  cases hnonce : nonce.filter (!isEmpty ·) with
  | none =>
      simp only [attestation, hnonce, pure_bind] at h
      cases h
      refine ⟨rfl, rfl, none, fun text htext => absurd htext.symm (Option.some_ne_none text), ?_,
        rfl⟩
      rw [reference, Option.elim_none, List.append_nil, ← hroot, String.ofList_toList]
  | some value =>
      simp only [attestation, hnonce, bind_eq_ok] at h
      obtain ⟨path, hpath, hrequested⟩ := h
      cases hrequested
      obtain ⟨query, hquery, rfl, hpairs⟩ := queryPath_eq_ok hpath lossy
      refine ⟨rfl, rfl, query, hquery, ?_, hpairs⟩
      rw [hroot]
      rfl

/-- Attestation evidence is fetched from the root of the API, at every candidate of every client
that was built: on the origin of that candidate, beside its `v1` and not below it, with the nonce
as the one parameter, whatever its characters. -/
theorem attestation_at_api_root {lib : Backend} {builder : ClientBuilder} {client : Client}
    (hbuild : builder.build lib = .ok client) (lossy : Bytes → String) {nonce : Option String}
    {requested : Requested} (h : attestation lib client nonce = .ok requested) :
    ∃ urls, planeUrls lib requested.call.client requested.plane requested.path = .ok urls ∧
      List.Forall₂ (fun base url => AtApiRoot lossy base.url url nonce) client.apiBaseUrls
        urls := by
  simp only [ClientBuilder.build, bind_eq_ok] at hbuild
  obtain ⟨primary, hprimary, control, -, hclient⟩ := hbuild
  cases hclient
  obtain ⟨hplane, hbases, query, hquery, hpath, hpairs⟩ := attestation_eq_ok h lossy
  dsimp only at hbases hpath ⊢
  have halike : ∀ base ∈ candidateBases lib builder.regionalFailover primary,
      (∃ segments, IsNormalBase base segments) ∧
        endsWith base.url.pathString "/v1/" = endsWith primary.url.pathString "/v1/" :=
    fun base hmem => candidateBases_alike hprimary hmem
  obtain ⟨hreference, hback⟩ :=
    isPathReference_attestation (endsWith primary.url.pathString "/v1/")
  have hsegments : ∀ base ∈ planeBases requested.call.client .inference, HasSegments base.url := by
    intro base hmem
    rw [planeBases, hbases] at hmem
    obtain ⟨⟨segments, hnormal⟩, -⟩ := halike base hmem
    rcases hnormal.directory.path with hpath | ⟨hpath, -⟩
    · exact ⟨_, hpath⟩
    · exact ⟨_, hpath⟩
  -- The reference is chosen by the primary base and joined to each of them.
  rw [hplane, hpath, planeUrls_reference lib hsegments hreference hback hquery, planeBases, hbases]
  refine ⟨_, rfl, ?_⟩
  rw [List.forall₂_map_right_iff, List.forall₂_same]
  intro base hmem
  obtain ⟨⟨segments, hnormal⟩, hends⟩ := halike base hmem
  rw [← hends]
  exact
    { origin := rfl
      path := pathString_attestation hnormal query
      fragment := rfl
      nonce := hpairs }

/-- The builder of a client, without its aliases. -/
def pinnedBuilder : ClientBuilder where
  regionalFailover := false

/-- The evidence of the default base, with a nonce. -/
theorem attestation_at_api_root_default :
    ∃ requested client url, pinnedBuilder.build plainBackend = .ok client ∧
      attestation plainBackend client (some "00ff") = .ok requested ∧
      planeUrls plainBackend requested.call.client requested.plane requested.path = .ok [url] ∧
      AtApiRoot (fun _ => "") client.apiBaseUrl.url url (some "00ff") ∧
      url.pathString = "/attestation" := by
  obtain ⟨urls, hurls, hroot⟩ := @attestation_at_api_root plainBackend pinnedBuilder _ rfl
    (fun _ => "") (some "00ff") _ rfl
  rcases hroot with _ | ⟨hurl, hrest⟩
  cases hrest
  refine ⟨_, _, _, rfl, rfl, hurls, hurl, ?_⟩
  rw [hurl.path]
  decide

/-! ## Testing a destination -/

/-- An id in the middle of a path: tabs and newlines are taken out, and blanks stay. -/
def middleSegment (id : String) : List Char := id.toList.filter (!isTabOrNewline ·)

/-- Before text without blanks only tabs and newlines are cleaned. Blanks are taken off the end of
the input, and the end is that text. -/
theorem cleanEnd_append_of_not_blank (input : List Char) {tail : List Char} (hne : tail ≠ [])
    (htail : ∀ c ∈ tail, Whatwg.isC0OrSpace c = false) :
    cleanEnd (input ++ tail) = input.filter (!isTabOrNewline ·) ++ tail := by
  obtain ⟨c, rest, hrest⟩ := List.exists_cons_of_ne_nil (List.reverse_ne_nil_iff.mpr hne)
  have hc : Whatwg.isC0OrSpace c = false := by
    refine htail c (List.mem_reverse.mp ?_)
    rw [hrest]
    exact List.mem_cons_self
  have hdrop : (tail.reverse ++ input.reverse).dropWhile Whatwg.isC0OrSpace =
      tail.reverse ++ input.reverse := by
    rw [hrest, List.cons_append, List.dropWhile_cons, hc]
    rfl
  rw [cleanEnd, List.reverse_append, hdrop, List.reverse_append, List.reverse_reverse,
    List.reverse_reverse, List.filter_append, Whatwg.filter_of_not_blank htail]

/-- At the end of a path more is cleaned than in the middle, and only behind it: the blanks after
the id, but for tabs and newlines. -/
theorem middleSegment_eq (id : String) :
    ∃ blanks, middleSegment id = cleanEnd id.toList ++ blanks := by
  have hsplit : id.toList = (id.toList.reverse.dropWhile Whatwg.isC0OrSpace).reverse ++
      (id.toList.reverse.takeWhile Whatwg.isC0OrSpace).reverse := by
    rw [← List.reverse_append, List.takeWhile_append_dropWhile, List.reverse_reverse]
  refine ⟨((id.toList.reverse.takeWhile Whatwg.isC0OrSpace).reverse).filter
    (!isTabOrNewline ·), ?_⟩
  rw [middleSegment, cleanEnd, ← List.filter_append, ← hsplit]

/-- The URL of a test below a directory. -/
def testUrl (base : Url) (segments : List String) (segment : List Char) : Url :=
  { base with
    path := .segments (pushSegments segments
      ["broadcast".toList, "destinations".toList, segment, "test".toList])
    query := none
    fragment := none }

/-- The characters of the path of a test, with the leading slash split off and the id between its
two fixed parts. -/
theorem toList_test (id : String) : ("/broadcast/destinations/" ++ id ++ "/test").toList =
    '/' :: ("broadcast/destinations/".toList ++ (id.toList ++ "/test".toList)) := by
  rw [String.toList_append, toList_destination, List.cons_append, List.append_assoc]

/-- The path of a test passes the guard of the router, for an id without a backslash. -/
theorem isRootRelative_test {id : String} (hback : '\\' ∉ id.toList) :
    isRootRelative ("/broadcast/destinations/" ++ id ++ "/test") = true := by
  have hcontains : containsChar ("/broadcast/destinations/" ++ id ++ "/test") '\\' = false := by
    rw [containsChar, List.contains_eq_mem, decide_eq_false_iff_not, toList_test]
    intro hmem
    rcases List.mem_cons.mp hmem with hmem | hmem
    · exact absurd hmem (by decide)
    rcases List.mem_append.mp hmem with hmem | hmem
    · exact absurd hmem (by decide)
    rcases List.mem_append.mp hmem with hmem | hmem
    · exact hback hmem
    · exact absurd hmem (by decide)
  rw [isRootRelative, hcontains, startsWith, startsWith, toList_test]
  rfl

/-- The reference of a test, once it is cleaned. -/
theorem clean_test (id : String) :
    Whatwg.clean ("broadcast/destinations/".toList ++ (id.toList ++ "/test".toList)) =
      "broadcast/destinations/".toList ++ (middleSegment id ++ "/test".toList) := by
  rw [Whatwg.clean_append (by decide) (List.all_iff_forall_prop.mp (by decide)),
    cleanEnd_append_of_not_blank _ (by decide) (List.all_iff_forall_prop.mp (by decide))]
  rfl

/-- The id ends neither the path nor its segment, also with the blanks that stay in the middle of
a path. -/
theorem middleSegment_plain {id : String} (hid : IsResourceId id) (hback : '\\' ∉ id.toList) :
    ∀ c ∈ middleSegment id, endsPath c = false ∧ isSlash c = false := by
  intro c hc
  have hmem := (List.mem_filter.mp hc).1
  simp only [endsPath, isSlash, Bool.or_eq_false_iff, beq_eq_false_iff_ne]
  refine ⟨⟨?_, ?_⟩, ?_, ?_⟩ <;> rintro rfl
  · exact hid.no_query hmem
  · exact hid.no_fragment hmem
  · exact hid.no_slash hmem
  · exact hback hmem

/-- The reference of a test is all path: neither its fixed parts nor the id ends it. -/
theorem endsPath_test {segment : List Char}
    (h : ∀ c ∈ segment, endsPath c = false ∧ isSlash c = false) :
    ∀ c ∈ "broadcast/destinations/".toList ++ (segment ++ "/test".toList),
      endsPath c = false := by
  intro c hc
  rcases List.mem_append.mp hc with hc | hc
  · exact (List.all_iff_forall_prop.mp (by decide) :
      ∀ c ∈ "broadcast/destinations/".toList, endsPath c = false) c hc
  rcases List.mem_append.mp hc with hc | hc
  · exact (h c hc).1
  · exact (List.all_iff_forall_prop.mp (by decide) :
      ∀ c ∈ "/test".toList, endsPath c = false) c hc

/-- The reference of a test has four segments, and the id is the third of them. -/
theorem splitWhere_test {segment : List Char}
    (h : ∀ c ∈ segment, endsPath c = false ∧ isSlash c = false) :
    splitWhere isSlash ("broadcast/destinations/".toList ++ (segment ++ "/test".toList)) =
      ["broadcast".toList, "destinations".toList, segment, "test".toList] := by
  show splitWhere isSlash ("broadcast".toList ++ '/' ::
    ("destinations".toList ++ '/' :: (segment ++ '/' :: "test".toList))) = _
  rw [splitWhere_append (List.all_iff_forall_prop.mp (by decide)) (by decide),
    splitWhere_append (List.all_iff_forall_prop.mp (by decide)) (by decide),
    splitWhere_append (fun c hc => (h c hc).2) (by decide)]
  rfl

/-- The URL of a test of an id that passes both checks, on the one base of the control plane. -/
theorem planeUrls_test (lib : Backend) {client : Client} {id : String} (hid : IsResourceId id)
    (hback : '\\' ∉ id.toList) {segments : List String}
    (hbase : IsDirectory client.controlBaseUrl.url segments) :
    planeUrls lib client .control ("/broadcast/destinations/" ++ id ++ "/test") =
      .ok [testUrl client.controlBaseUrl.url segments (middleSegment id)] := by
  have hreference : pathReference ("/broadcast/destinations/" ++ id ++ "/test") =
      String.ofList ("broadcast/destinations/".toList ++ (id.toList ++ "/test".toList)) := by
    rw [pathReference, trimStartMatches, toList_test]
    rfl
  refine planeUrls_eq_ok.mpr ⟨isRootRelative_test hback, .cons ?_ .nil⟩
  rw [hreference]
  have hmiddle := middleSegment_plain hid hback
  have hclean := clean_test id
  rw [← @String.toList_ofList ("broadcast/destinations/".toList ++ (id.toList ++ "/test".toList))]
    at hclean
  -- Inside the path the id keeps the blanks at its end, which the address parser would trim.
  have hjoin : Whatwg.join lib client.controlBaseUrl.url
      (String.ofList ("broadcast/destinations/".toList ++ (id.toList ++ "/test".toList))) =
      .ok { client.controlBaseUrl.url with
            path := .segments (pushSegments segments (splitWhere isSlash
              ("broadcast/destinations/".toList ++ (middleSegment id ++ "/test".toList))))
            query := none
            fragment := none } :=
    Whatwg.join_path lib hbase hclean (by decide) rfl (endsPath_test hmiddle)
  rw [hjoin, splitWhere_test hmiddle]
  rfl

/-- The segments of the URL, by what the id is. -/
theorem pushSegments_test (segments : List String) (segment : List Char) :
    pushSegments segments
        ["broadcast".toList, "destinations".toList, segment, "test".toList] =
      if isDoubleDot segment then segments ++ ["broadcast", "test"]
      else if isSingleDot segment then segments ++ ["broadcast", "destinations", "test"]
      else segments ++ ["broadcast", "destinations", percentEncode inPathSet segment, "test"] := by
  have hpushed : pushSegments segments
      ["broadcast".toList, "destinations".toList, segment, "test".toList] =
      pushSegments (segments ++ ["broadcast"] ++ ["destinations"]) [segment, "test".toList] := rfl
  rw [hpushed, pushSegments]
  split
  · -- Two dots take `destinations` off again, and one dot adds nothing.
    rw [Whatwg.popSegment_concat (by decide)]
    show segments ++ ["broadcast"] ++ ["test"] = _
    rw [List.append_assoc]
    rfl
  · split
    · show segments ++ ["broadcast"] ++ ["destinations"] ++ ["test"] = _
      rw [List.append_assoc, List.append_assoc]
      rfl
    · show segments ++ ["broadcast"] ++ ["destinations"] ++ [percentEncode inPathSet segment] ++
        ["test"] = _
      rw [List.append_assoc, List.append_assoc, List.append_assoc]
      rfl

/-- What is behind the path of the base, for a fetch and for a test. -/
def addedByFetch (segment : List Char) : String :=
  if isDoubleDot segment then "broadcast/"
  else if isSingleDot segment then "broadcast/destinations/"
  else "broadcast/destinations/" ++ percentEncode inPathSet segment

@[inherit_doc addedByFetch]
def addedByTest (segment : List Char) : String :=
  if isDoubleDot segment then "broadcast/test"
  else if isSingleDot segment then "broadcast/destinations/test"
  else "broadcast/destinations/" ++ percentEncode inPathSet segment ++ "/test"

/-- The path of the URL of a fetch, by what the id is: two dots take `destinations` away, one dot
is dropped, and anything else is encoded. -/
theorem pathString_fetch {base : Url} {segments : List String} (hbase : IsDirectory base segments)
    (segment : List Char) : (destinationUrl base segments segment).pathString =
      base.pathString ++ addedByFetch segment := by
  have hpath : (destinationUrl base segments segment).path = .segments
      (pushSegments segments ["broadcast".toList, "destinations".toList, segment]) := rfl
  rw [pushSegments_destination] at hpath
  by_cases hdouble : isDoubleDot segment = true
  · rw [if_pos hdouble] at hpath
    rw [pathString_below hbase hpath, addedByFetch, if_pos hdouble]
    rfl
  · by_cases hsingle : isSingleDot segment = true
    · rw [if_neg hdouble, if_pos hsingle] at hpath
      rw [pathString_below hbase hpath, addedByFetch, if_neg hdouble, if_pos hsingle]
      rfl
    · rw [if_neg hdouble, if_neg hsingle] at hpath
      rw [pathString_below hbase hpath, slashed_destination, addedByFetch, if_neg hdouble,
        if_neg hsingle]

/-- The path of the URL of a test, by what the id is. -/
theorem pathString_test {base : Url} {segments : List String} (hbase : IsDirectory base segments)
    (segment : List Char) : (testUrl base segments segment).pathString =
      base.pathString ++ addedByTest segment := by
  have hpath : (testUrl base segments segment).path = .segments (pushSegments segments
      ["broadcast".toList, "destinations".toList, segment, "test".toList]) := rfl
  rw [pushSegments_test] at hpath
  by_cases hdouble : isDoubleDot segment = true
  · rw [if_pos hdouble] at hpath
    rw [pathString_below hbase hpath, addedByTest, if_pos hdouble]
    rfl
  · by_cases hsingle : isSingleDot segment = true
    · rw [if_neg hdouble, if_pos hsingle] at hpath
      rw [pathString_below hbase hpath, addedByTest, if_neg hdouble, if_pos hsingle]
      rfl
    · rw [if_neg hdouble, if_neg hsingle] at hpath
      rw [pathString_below hbase hpath, addedByTest, if_neg hdouble, if_neg hsingle]
      show _ ++ ("broadcast" ++ ("/" ++ "destinations" ++ ("/" ++ percentEncode inPathSet segment ++
        ("/" ++ "test" ++ "")))) = _
      rw [show "broadcast/destinations/" = "broadcast" ++ "/" ++ "destinations" ++ "/" from rfl,
        show "/test" = "/" ++ "test" from rfl]
      simp only [String.append_empty, String.append_assoc]

/-- What a fetch adds, for a dot segment and for any other. -/
theorem addedByFetch_cases (segment : List Char) :
    (isDot segment = true ∧ (addedByFetch segment = "broadcast/" ∨
      isSingleDot segment = true ∧ addedByFetch segment = "broadcast/destinations/")) ∨
    (isDot segment = false ∧
      addedByFetch segment = "broadcast/destinations/" ++ percentEncode inPathSet segment) := by
  by_cases hdouble : isDoubleDot segment = true
  · exact .inl ⟨by rw [isDot, hdouble, Bool.or_true], .inl (by rw [addedByFetch, if_pos hdouble])⟩
  by_cases hsingle : isSingleDot segment = true
  · refine .inl ⟨by rw [isDot, hsingle, Bool.true_or], .inr ⟨hsingle, ?_⟩⟩
    rw [addedByFetch, if_neg hdouble, if_pos hsingle]
  · refine .inr ⟨?_, by rw [addedByFetch, if_neg hdouble, if_neg hsingle]⟩
    rw [isDot, Bool.eq_false_iff.mpr hdouble, Bool.eq_false_iff.mpr hsingle]
    rfl

/-- What a test adds, for a dot segment and for any other. -/
theorem addedByTest_cases (segment : List Char) :
    (isDot segment = true ∧ (addedByTest segment = "broadcast/test" ∨
      addedByTest segment = "broadcast/destinations/test")) ∨
    (isDot segment = false ∧ addedByTest segment =
      "broadcast/destinations/" ++ percentEncode inPathSet segment ++ "/test") := by
  by_cases hdouble : isDoubleDot segment = true
  · exact .inl ⟨by rw [isDot, hdouble, Bool.or_true], .inl (by rw [addedByTest, if_pos hdouble])⟩
  by_cases hsingle : isSingleDot segment = true
  · refine .inl ⟨by rw [isDot, hsingle, Bool.true_or], .inr ?_⟩
    rw [addedByTest, if_neg hdouble, if_pos hsingle]
  · refine .inr ⟨?_, by rw [addedByTest, if_neg hdouble, if_neg hsingle]⟩
    rw [isDot, Bool.eq_false_iff.mpr hdouble, Bool.eq_false_iff.mpr hsingle]
    rfl

/-- The lengths of the constant parts tell the cases apart: with two dots the path added is
shorter than the fixed part of any other. -/
theorem length_addedByFetch (segment : List Char) :
    (addedByFetch segment ++ "/test").length = 15 ∨
      28 ≤ (addedByFetch segment ++ "/test").length := by
  rw [String.length_append, show "/test".length = 5 from rfl]
  rcases addedByFetch_cases segment with ⟨-, hadded | ⟨-, hadded⟩⟩ | ⟨-, hadded⟩
  · rw [hadded]
    exact .inl rfl
  · rw [hadded]
    exact .inr (le_refl 28)
  · rw [hadded, String.length_append, show "broadcast/destinations/".length = 23 from rfl]
    exact .inr (by omega)

/-- Encoding goes character by character. -/
theorem percentEncode_append (a b : List Char) :
    percentEncode inPathSet (a ++ b) = percentEncode inPathSet a ++ percentEncode inPathSet b := by
  rw [percentEncode, percentEncode, percentEncode, List.flatMap_append, String.ofList_append]

/-- Blanks that are encoded are not lost: no character is encoded as nothing. -/
theorem percentEncode_append_eq_iff {segment blanks : List Char} :
    percentEncode inPathSet (segment ++ blanks) = percentEncode inPathSet segment ↔
      segment ++ blanks = segment := by
  constructor
  · intro heq
    rw [percentEncode_append] at heq
    have hempty : percentEncode inPathSet blanks = "" := String.append_eq_left_iff.mp heq
    have hnil : blanks = [] := by
      by_contra hne
      exact Whatwg.percentEncode_ne_empty hne hempty
    rw [hnil, List.append_nil]
  · intro heq
    rw [heq]

/-- A test is a fetch with `/test` behind it exactly when the segments are the same one, and no
dot segment. A dot segment leaves a slash at the end of a fetch, so that `/test` behind it makes
two of them. -/
theorem addedByTest_eq_iff {segment blanks : List Char} :
    addedByTest (segment ++ blanks) = addedByFetch segment ++ "/test" ↔
      segment ++ blanks = segment ∧ isDot segment = false := by
  have hlength := length_addedByFetch segment
  rcases addedByTest_cases (segment ++ blanks) with ⟨hdot, hadded⟩ | ⟨-, hadded⟩
  · -- A dot segment takes `destinations` or itself away.
    refine iff_of_false ?_ ?_
    · intro heq
      rw [← heq] at hlength
      rcases hadded with hadded | hadded <;> rw [hadded] at hlength <;> revert hlength <;> decide
    · rintro ⟨hsame, hnot⟩
      rw [hsame, hnot] at hdot
      cases hdot
  · rw [hadded, String.append_left_inj]
    rcases addedByFetch_cases segment with ⟨hdot, hfetch⟩ | ⟨hdot, hfetch⟩
    · refine iff_of_false ?_ (by rw [hdot]; simp)
      intro heq
      rcases hfetch with hfetch | ⟨hsingle, hfetch⟩
      · have hshort := congrArg String.length (heq.trans hfetch)
        rw [String.length_append, show "broadcast/destinations/".length = 23 from rfl,
          show "broadcast/".length = 10 from rfl] at hshort
        omega
      · -- A single dot in front of blanks is not lost by encoding it.
        have hempty := String.append_eq_left_iff.mp (heq.trans hfetch)
        refine Whatwg.percentEncode_ne_empty ?_ hempty
        rintro hnil
        rw [(List.append_eq_nil_iff.mp hnil).1] at hsingle
        revert hsingle
        decide
    · rw [hfetch, String.append_right_inj, percentEncode_append_eq_iff, hdot]
      simp

/-- A fetch and a test of one id name the same destination exactly when cleaning takes nothing off
the end of the id that it leaves in the middle, and the id is no dot segment. -/
theorem test_same_destination_iff {lib : Backend} {client : Client}
    (hbase : HasSegments client.controlBaseUrl.url) {uuid id : String} {options : CallOptions}
    {fetched tested : Requested} {fetchUrl testUrl : Url}
    (hfetched : broadcastDestination client id options = .ok fetched)
    (htested : testBroadcastDestination client uuid id options = .ok tested)
    (hfetchUrl : planeUrls lib client fetched.plane fetched.path = .ok [fetchUrl])
    (htestUrl : planeUrls lib client tested.plane tested.path = .ok [testUrl]) :
    testUrl.pathString = fetchUrl.pathString ++ "/test" ↔
      middleSegment id = cleanEnd id.toList ∧ isDot (cleanEnd id.toList) = false := by
  obtain ⟨hid, hplane, hpath⟩ := @Operation.request_eq_ok .fetch client uuid id options _ hfetched
  obtain ⟨segments, hdirectory⟩ := isDirectory_of_base hbase
  simp only [testBroadcastDestination, bind_eq_ok, resourcePath_eq_ok] at htested
  obtain ⟨stem, ⟨-, rfl⟩, hrequested⟩ := htested
  cases hrequested
  rw [hplane, hpath] at hfetchUrl
  -- The address of the destination was built, so its path passed the check of the source.
  have hback : '\\' ∉ id.toList := by
    have hguard := (planeUrls_eq_ok.mp hfetchUrl).1
    rw [isRootRelative_destination] at hguard
    simpa [containsChar] using hguard
  have hfetch : planeUrls lib client .control ("/broadcast/destinations/" ++ id) =
      .ok [destinationUrl client.controlBaseUrl.url segments (cleanEnd id.toList)] := by
    refine planeUrls_eq_ok.mpr ⟨(planeUrls_eq_ok.mp hfetchUrl).1, .cons ?_ .nil⟩
    rw [pathReference_destination]
    exact join_destination hid hback lib hdirectory
  have htest := planeUrls_test lib hid hback hdirectory
  rw [hfetch] at hfetchUrl
  have htestPath : planeUrls lib client .control ("/broadcast/destinations/" ++ id ++ "/test") =
      .ok [testUrl] := htestUrl
  rw [htest] at htestPath
  cases hfetchUrl
  cases htestPath
  obtain ⟨blanks, hblanks⟩ := middleSegment_eq id
  rw [pathString_test hdirectory, pathString_fetch hdirectory, String.append_assoc,
    String.append_right_inj, hblanks]
  exact addedByTest_eq_iff

/-- A fetch of an id with a blank at its end is one of the id without it. A test of the same id is
one of another destination. -/
theorem test_other_destination :
    ∃ fetched tested fetchUrl testUrl,
      broadcastDestination defaultClient "dest " {} = .ok fetched ∧
      testBroadcastDestination defaultClient "uuid" "dest " {} = .ok tested ∧
      planeUrls plainBackend defaultClient fetched.plane fetched.path = .ok [fetchUrl] ∧
      planeUrls plainBackend defaultClient tested.plane tested.path = .ok [testUrl] ∧
      testUrl.pathString ≠ fetchUrl.pathString ++ "/test" := by
  refine ⟨_, _, _, _, rfl, rfl, rfl, rfl, ?_⟩
  intro hsame
  have hmiddle := ((@test_same_destination_iff plainBackend defaultClient ⟨_, rfl⟩ "uuid" "dest " {}
    _ _ _ _ rfl rfl rfl rfl).mp hsame).1
  revert hmiddle
  decide

end TrustedRouter.Proofs.Transport
