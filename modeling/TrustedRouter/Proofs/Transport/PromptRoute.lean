import TrustedRouter.Proofs.Transport.SemanticRoute
import TrustedRouter.Sse.Raw

/-!
# `TrustedRouter.Proofs.Transport.PromptRoute`: the route a prompt was meant for

`validated_raw_sse` takes the intended route from a dummy root, and the engine sends the URL
that the same path has on a configured base. A reference leaves a part of the path of its base and
adds the same to it whatever the base (`Whatwg.join_kept`), so the intended route is that of the
wire relative to what was left: `relativeRoute_keptPath`.

A path keeps its validator through any redirect exactly when what it leaves of the base has the
route of the base. One that stays below leaves all of it. One that climbs out of the base and back
into it, as `/../v1/chat/completions` does, has one route on the wire and another before it is
sent.
-/

set_option autoImplicit false

namespace TrustedRouter.Proofs.Transport

open TrustedRouter.Transport
open TrustedRouter.Sse (PromptStreamKind promptStreamKind validatedRawSse strictValidator
  responsePromptStreamKind WireItem)
open Rust.Str
open Rust.Result
open Serde (Reader)
open Whatwg (Url Backend StaysBelow IsDirectory classify slashed)

/-! ## The bases of a client -/

/-- All candidates of a client that was built have segments: the base of the caller was parsed,
and the aliases are the SDK's own texts. -/
theorem build_hasSegments {lib : Backend} {builder : ClientBuilder} {client : Client}
    (h : builder.build lib = .ok client) : ∀ base ∈ client.apiBaseUrls, HasSegments base.url := by
  simp only [ClientBuilder.build, bind_eq_ok] at h
  obtain ⟨primary, hprimary, control, -, hclient⟩ := h
  cases hclient
  intro base hbase
  rcases mem_candidateBases hbase with rfl | ⟨_, _, -, -, -, hparsed⟩
  · exact parseBaseUrl_hasSegments hprimary
  · exact parseBaseUrl_hasSegments hparsed

/-! ## The intended route -/

/-- The dummy root parses as an HTTPS URL, and its path is the root. -/
theorem parse_dummyRoot {lib : Backend} {host : String}
    (h : lib.parseHost "sdk.invalid" = .ok host) :
    ∃ root, Whatwg.parse lib "https://sdk.invalid/" = .ok root ∧ root.scheme = "https" ∧
      IsDirectory root [] := by
  refine ⟨{ scheme := "https", host := some host, path := .segments [""] }, ?_, rfl, ⟨.inl rfl⟩⟩
  have hauthority : Whatwg.parse lib "https://sdk.invalid/" =
      Whatwg.parseAuthority lib "https" "sdk.invalid/".toList := rfl
  rw [hauthority]
  simp only [Whatwg.parseAuthority, bind_eq_ok, exists_unit, ensure_eq_ok]
  exact ⟨by decide, host, h, none, rfl, rfl⟩

/-- The directory a reference is resolved in: what it leaves of the path of its base. -/
def keptPath (base : Url) (input : String) : String :=
  slashed ((classify base.scheme input).kept base.pathSegments.dropLast) ++ "/"

/-- A path of segments starts with a slash, also when there are no segments in front of the
rest. -/
theorem startsWith_slashed (segments : List String) (rest : String) :
    startsWith (slashed segments ++ "/" ++ rest) "/" = true := by
  rw [startsWith_iff]
  cases segments with
  | nil => exact ⟨rest, by rw [slashed, List.foldr_nil, String.empty_append]⟩
  | cons segment segments =>
      refine ⟨segment ++ slashed segments ++ "/" ++ rest, ?_⟩
      show "/" ++ segment ++ slashed segments ++ "/" ++ rest = _
      simp only [String.append_assoc]

/-- The path of a base starts with a slash, since it is one of segments. -/
theorem startsWith_base {base : BaseUrl} (h : HasSegments base.url) :
    startsWith base.url.pathString "/" = true := by
  obtain ⟨segments, hdirectory⟩ := isDirectory_of_base h
  have hstarts := startsWith_slashed segments ""
  rwa [String.append_empty, ← hdirectory.pathString] at hstarts

section
variable {lib : Backend} {host path : String} {base : BaseUrl} {url : Url}

/-- The intended route is that of the wire, relative to what the reference leaves of the base. It
must be read alike on the base and on the dummy root, which is an HTTPS URL: on an HTTP base a
reference with a scheme is not. -/
theorem relativeRoute_keptPath (hhost : lib.parseHost "sdk.invalid" = .ok host)
    (hbase : HasSegments base.url)
    (hread : classify base.url.scheme (pathReference path) =
      classify "https" (pathReference path))
    (hjoin : Whatwg.join lib base.url (pathReference path) = .ok url)
    (horigin : url.origin = base.url.origin) :
    startsWith url.pathString "/" = true ∧
      relativeRoute (semanticRoute (keptPath base.url (pathReference path)))
        (semanticRoute url.pathString) = some (semanticRequestRoute lib path) := by
  obtain ⟨root, hroot, hscheme, hrootDirectory⟩ := parse_dummyRoot hhost
  obtain ⟨segments, hdirectory⟩ := isDirectory_of_base hbase
  have hspecial : Whatwg.isSpecial base.url.scheme = true := by
    rcases base.http with hhttp | hhttps
    · rw [hhttp]
      rfl
    · rw [hhttps]
      rfl
  rw [← hscheme] at hread
  -- One reference is joined to the base and to the dummy root, and adds the same to both.
  obtain ⟨added, resolved, hresolved, hwire, hdummy⟩ :=
    Whatwg.join_kept hdirectory hrootDirectory hspecial hread hjoin horigin
  have hintended : semanticRequestRoute lib path = semanticRoute ("/" ++ added) := by
    rw [Whatwg.Reference.kept_nil, slashed, List.foldr_nil, String.empty_append] at hdummy
    rw [pathReference] at hresolved
    simp only [semanticRequestRoute, hroot, hresolved, hdummy]
  refine ⟨hwire ▸ startsWith_slashed _ _, ?_⟩
  rw [hwire, keptPath, hdirectory.dropLast, relativeRoute_append, hintended]

end

/-- The two prompt routes, and their kinds. -/
theorem promptStreamKind_cases {route : String} {kind : PromptStreamKind}
    (h : promptStreamKind route = some kind) :
    (route = "/chat/completions" ∧ kind = .chat) ∨ (route = "/responses" ∧ kind = .responses) := by
  unfold promptStreamKind at h
  split at h
  · rename_i hchat
    exact .inl ⟨hchat, (Option.some.inj h).symm⟩
  · split at h
    · rename_i hresponses
      exact .inr ⟨hresponses, (Option.some.inj h).symm⟩
    · cases h

/-- A prompt kind has one route, so that two routes of one kind are the same. -/
theorem promptStreamKind_injective {route route' : String} {kind : PromptStreamKind}
    (h : promptStreamKind route = some kind) (h' : promptStreamKind route' = some kind) :
    route = route' := by
  rcases promptStreamKind_cases h with ⟨hroute, rfl⟩ | ⟨hroute, rfl⟩
  · rcases promptStreamKind_cases h' with ⟨hroute', -⟩ | ⟨-, hkind⟩
    · rw [hroute, hroute']
    · cases hkind
  · rcases promptStreamKind_cases h' with ⟨-, hkind⟩ | ⟨hroute', -⟩
    · cases hkind
    · rw [hroute, hroute']

/-- A route that is not the root fixes the base that it is relative to. -/
theorem eq_of_relativeRoute {base base' below route : String} (hbase : startsWith base "/" = true)
    (hbase' : startsWith base' "/" = true)
    (hbelow : ∃ last, below = "/" ++ last ∧ last.toList.getLast? ≠ some '/')
    (hroute : route ≠ "/") (h : relativeRoute base below = some route)
    (h' : relativeRoute base' below = some route) : base = base' := by
  -- Either base ends where the route starts, so that both are the same text.
  have hsplit : ∀ {base : String}, startsWith base "/" = true →
      relativeRoute base below = some route →
        below = (if base = "/" then "" else base) ++ route := by
    intro base hstarts h
    rcases (relativeRoute_eq_some hstarts hbelow).mp h with ⟨-, hroot, -⟩ | ⟨-, -, hsplit⟩
    · exact absurd hroot hroute
    · exact hsplit
  have hsame : (if base = "/" then "" else base) = if base' = "/" then "" else base' := by
    have hlists := congrArg String.toList ((hsplit hbase h).symm.trans (hsplit hbase' h'))
    rw [String.toList_append, String.toList_append] at hlists
    exact String.toList_inj.mp (List.append_cancel_right hlists)
  split at hsame
  · rename_i hroot
    split at hsame
    · rename_i hroot'
      rw [hroot, hroot']
    · exact absurd hsame.symm (ne_empty_of_startsWith_slash hbase')
  · split at hsame
    · exact absurd hsame (ne_empty_of_startsWith_slash hbase)
    · exact hsame

/-- The intended route is a prompt route with the one on the wire exactly when what the reference
leaves of the base has the route of the base. -/
theorem intended_iff {lib : Backend} {host path : String} {base : BaseUrl} {url : Url}
    (hhost : lib.parseHost "sdk.invalid" = .ok host) (hbase : HasSegments base.url)
    (hread : classify base.url.scheme (pathReference path) =
      classify "https" (pathReference path))
    (hjoin : Whatwg.join lib base.url (pathReference path) = .ok url) {route : String}
    (hroute : semanticRouteRelativeToBase base.url url = some route) {kind : PromptStreamKind}
    (hkind : promptStreamKind route = some kind) :
    promptStreamKind (semanticRequestRoute lib path) = some kind ↔
      semanticRoute (keptPath base.url (pathReference path)) =
        semanticRoute base.url.pathString := by
  -- A request to another origin has no route below the base.
  have horigin : url.origin = base.url.origin := by
    by_contra hother
    rw [semanticRouteRelativeToBase_of_ne hother] at hroute
    cases hroute
  rw [semanticRouteRelativeToBase_of_eq horigin] at hroute
  obtain ⟨hslash, hkept⟩ := relativeRoute_keptPath hhost hbase hread hjoin horigin
  constructor
  · intro hintended
    rw [promptStreamKind_injective hintended hkind] at hkept
    have hroot : route ≠ "/" := by
      rintro rfl
      cases hkind
    have hstarts := startsWith_slashed
      ((classify base.url.scheme (pathReference path)).kept base.url.pathSegments.dropLast) ""
    rw [String.append_empty] at hstarts
    exact eq_of_relativeRoute (startsWith_semanticRoute hstarts)
      (startsWith_semanticRoute (startsWith_base hbase)) (semanticRoute_form hslash) hroot hkept
      hroute
  · intro hsame
    rw [hsame, hroute, Option.some.injEq] at hkept
    rw [← hkept, hkind]

/-! ## Every attempt of a call -/

/-- An attempt of a call on the inference plane, and the base that its URL was joined onto. -/
structure SentFrom (env : Environment) (call : Call) (path : String) (attempt : Attempt)
    (base : BaseUrl) : Prop where
  attempted : ∃ run, execute env call .inference path = .ok run ∧ attempt ∈ run.attempts
  candidate : call.client.apiBaseUrls[attempt.candidate]? = some base

/-- Every attempt is sent to the join of the path onto the base at its index. -/
theorem SentFrom.join {env : Environment} {call : Call} {path : String} {attempt : Attempt}
    {base : BaseUrl} (h : SentFrom env call path attempt base) :
    Whatwg.join env.backend base.url (pathReference path) = .ok attempt.url := by
  obtain ⟨⟨run, hrun, hattempt⟩, hbase⟩ := h
  simp only [execute, bind_eq_ok, planeUrls_eq_ok] at hrun
  obtain ⟨candidates, ⟨-, hjoins⟩, hresult⟩ := hrun
  cases hresult
  have hlisted : candidates[attempt.candidate]? = some attempt.url := by
    by_cases hempty : candidates = []
    · rw [hempty] at hattempt
      cases hattempt
    · exact (executeOn_runFrom env call _ hempty).listed attempt hattempt
  obtain ⟨hi, rfl⟩ := List.getElem?_eq_some_iff.mp hbase
  obtain ⟨hj, hurl⟩ := List.getElem?_eq_some_iff.mp hlisted
  have hget := hjoins.get hi hj
  rw [← hurl]
  exact hget

/-! ## Which validator a redirect leaves -/

/-- The root of another host. -/
def otherRoot : Url :=
  { scheme := "https", host := some "capture.test", path := .segments [""] }

/-- Relative to any base, the root has no route below it: it is at the base, or it has no
route. -/
theorem relativeRoute_root {base route : String} (h : relativeRoute base "/" = some route) :
    route = "/" := by
  unfold relativeRoute at h
  split at h
  · cases h
    rfl
  split at h
  · cases h
    rfl
  · obtain ⟨rest, hrest, rfl⟩ := Option.map_eq_some_iff.mp h
    have hempty : "/".toList.drop (base ++ "/").toList.length = [] := by
      rw [List.drop_eq_nil_iff, String.toList_append, List.length_append]
      exact Nat.le_add_left _ _
    unfold stripPrefixStr at hrest
    split at hrest
    · rw [hempty] at hrest
      cases hrest
      rfl
    · cases hrest

/-- A response that came from there is of no prompt kind. -/
theorem responsePromptStreamKind_otherRoot (client : Client) :
    responsePromptStreamKind client otherRoot = none := by
  have hroute : semanticRoute otherRoot.pathString = "/" := by decide
  have hnone : (client.apiBaseUrls.filterMap fun base =>
      semanticRouteRelativeToBase base.url otherRoot).findSome? promptStreamKind = none := by
    rw [List.findSome?_eq_none_iff]
    intro route hmem
    obtain ⟨base, -, hbase⟩ := List.mem_filterMap.mp hmem
    unfold semanticRouteRelativeToBase at hbase
    split at hbase
    · cases hbase
    · rw [hroute] at hbase
      rw [relativeRoute_root hbase]
      decide
  rw [responsePromptStreamKind, hnone, hroute]
  decide

/-- The two strict validators differ on an empty stream, since each has an error of its own for a
stream that ends too soon. -/
theorem strictValidator_nil_injective {read : Reader} {first second : PromptStreamKind}
    (h : strictValidator read first [] = strictValidator read second []) : first = second := by
  have hended : Sse.endedBeforeDone ≠ Sse.endedBeforeTerminal := by
    intro hsame
    exact absurd (Error.transport.inj hsame) (by decide)
  cases first <;> cases second
  · rfl
  · exact absurd (Except.error.inj (Sse.Action.yields.inj (List.head_eq_of_cons_eq h))) hended
  · exact absurd (Except.error.inj (Sse.Action.yields.inj (List.head_eq_of_cons_eq h))).symm hended
  · rfl

/-- An empty stream from there tells which validator there is, if any: the response has no route,
so that only the path is left to decide. -/
theorem validatedRawSse_nil (lib : Backend) (read : Reader) (client : Client) (path : String)
    {kind : PromptStreamKind}
    (h : validatedRawSse lib read client path otherRoot [] = strictValidator read kind []) :
    promptStreamKind (semanticRequestRoute lib path) = some kind := by
  simp only [validatedRawSse, responsePromptStreamKind_otherRoot, Option.or_none] at h
  cases hintended : promptStreamKind (semanticRequestRoute lib path) with
  | none =>
      rw [hintended] at h
      cases kind <;> cases h
  | some intended =>
      rw [hintended] at h
      exact congrArg some (strictValidator_nil_injective h)

/-- A path has the strict validator of a kind, wherever the response comes from, exactly when it
names a route of this kind by itself. A request that goes to a prompt route of its base does so
exactly when what its path leaves of the base has the route of the base, provided the path is
read alike on the base and on the dummy root. A path that stays below its base always does. -/
theorem validatedRawSse_strict_iff (env : Environment) (call : Call) (path : String) :
    (∀ kind, (∀ responseUrl stream,
        validatedRawSse env.backend env.read call.client path responseUrl stream =
          strictValidator env.read kind stream) ↔
      promptStreamKind (semanticRequestRoute env.backend path) = some kind) ∧
    ∀ {host : String} {attempt : Attempt} {base : BaseUrl} {route : String}
      {kind : PromptStreamKind}, env.backend.parseHost "sdk.invalid" = .ok host →
      HasSegments base.url → SentFrom env call path attempt base →
      semanticRouteRelativeToBase base.url attempt.url = some route →
      promptStreamKind route = some kind →
      (classify base.url.scheme (pathReference path) = classify "https" (pathReference path) →
        (promptStreamKind (semanticRequestRoute env.backend path) = some kind ↔
          semanticRoute (keptPath base.url (pathReference path)) =
            semanticRoute base.url.pathString)) ∧
      (StaysBelow (pathReference path) →
        promptStreamKind (semanticRequestRoute env.backend path) = some kind) := by
  refine ⟨fun kind => ⟨?_, ?_⟩, ?_⟩
  · intro hstrict
    exact validatedRawSse_nil _ _ _ _ (hstrict otherRoot [])
  · intro hintended responseUrl stream
    simp only [validatedRawSse, hintended, Option.some_or]
  · intro host attempt base route kind hhost hbase hsent hroute hkind
    refine ⟨fun hread => intended_iff hhost hbase hread hsent.join hroute hkind, fun hbelow => ?_⟩
    -- Without a scheme the path is read alike on every base, and all of the base is left.
    have hread := (Whatwg.classify_of_staysBelow hbelow base.url.scheme).trans
      (Whatwg.classify_of_staysBelow hbelow "https").symm
    refine (intended_iff hhost hbase hread hsent.join hroute hkind).mpr ?_
    obtain ⟨segments, hdirectory⟩ := isDirectory_of_base hbase
    rw [keptPath, Whatwg.kept_of_staysBelow hbelow, hdirectory.dropLast, ← hdirectory.pathString]

/-- Where a redirect took the request. -/
def captureUrl : Url :=
  { scheme := "https", host := some "capture.test", path := .segments ["capture"] }

/-- An event that is not JSON. -/
def notJson : Sse.SseEvent := { event := some "message", data := "\x7bnot-json\x7d", id := some "" }

/-- The environment of the request. What comes back from there is not JSON. -/
def redirected : Environment :=
  { resetOnce with read := fun _ => .error "key must be a string at line 1 column 2" }

/-- The first attempt of the keyed POST on a path that joins. -/
theorem exists_first_attempt {path : String} {url : Url}
    (hguard : isRootRelative path = true)
    (hjoin : Whatwg.join plainBackend defaultControlBase.url (pathReference path) = .ok url) :
    ∃ attempt, SentFrom redirected keyedPost path attempt defaultControlBase ∧
      attempt.url = url := by
  have hurls : planeUrls plainBackend defaultClient .inference path = .ok [url] :=
    planeUrls_eq_ok.mpr ⟨hguard, .cons hjoin .nil⟩
  -- A run has a first attempt, at candidate 0.
  obtain ⟨first, rest, hattempts, hfirst, -⟩ := (executeOn_runFrom redirected keyedPost
    (requestRecorder keyedPost.client .inference url.pathString) (List.cons_ne_nil url [])).first
  have hmem : first ∈ (executeOn redirected keyedPost
      (requestRecorder keyedPost.client .inference url.pathString) [url]).attempts := by
    rw [hattempts]
    exact List.mem_cons_self
  have hrun : execute redirected keyedPost .inference path = .ok (executeOn redirected keyedPost
      (requestRecorder keyedPost.client .inference url.pathString) [url]) := by
    simp only [execute, bind_eq_ok]
    exact ⟨[url], hurls, rfl⟩
  have hbase : keyedPost.client.apiBaseUrls[first.candidate]? = some defaultControlBase := by
    rw [hfirst]
    rfl
  have hsent : SentFrom redirected keyedPost path first defaultControlBase :=
    ⟨⟨_, hrun, hmem⟩, hbase⟩
  exact ⟨first, hsent, Except.ok.inj (hsent.join.symm.trans hjoin)⟩

/-- A path with a dot segment keeps its validator. One that climbs out of the base and back in
leaves less than the base, and names no chat route by itself. -/
theorem validatedRawSse_strict_dotted :
    validatedRawSse plainBackend redirected.read defaultClient "/x/../chat/completions" captureUrl
        [.ok notJson] =
      strictValidator redirected.read .chat [.ok notJson] ∧
    promptStreamKind (semanticRequestRoute plainBackend "/../v1/chat/completions") ≠
      some .chat := by
  have hsegments : HasSegments defaultControlBase.url := ⟨_, rfl⟩
  have hchat : promptStreamKind "/chat/completions" = some .chat := rfl
  constructor
  · have hbelow : StaysBelow (pathReference "/x/../chat/completions") := by
      refine ⟨by decide, ?_, by decide⟩
      intro c rest hclean
      have hhead : (Whatwg.clean (pathReference "/x/../chat/completions").toList).head? =
          some 'x' := by decide
      rw [hclean] at hhead
      cases hhead
      decide
    obtain ⟨attempt, hsent, hurl⟩ := exists_first_attempt
      (show isRootRelative "/x/../chat/completions" = true by decide) rfl
    have hroute : semanticRouteRelativeToBase defaultControlBase.url attempt.url =
        some "/chat/completions" := by
      rw [hurl]
      rfl
    obtain ⟨hstrict, hpaths⟩ :=
      validatedRawSse_strict_iff redirected keyedPost "/x/../chat/completions"
    have hintended := (hpaths rfl hsegments hsent hroute hchat).2 hbelow
    exact (hstrict .chat).mpr hintended captureUrl [.ok notJson]
  · obtain ⟨attempt, hsent, hurl⟩ := exists_first_attempt
      (show isRootRelative "/../v1/chat/completions" = true by decide) rfl
    have hroute : semanticRouteRelativeToBase defaultControlBase.url attempt.url =
        some "/chat/completions" := by
      rw [hurl]
      rfl
    obtain ⟨-, hpaths⟩ :=
      validatedRawSse_strict_iff redirected keyedPost "/../v1/chat/completions"
    intro hintended
    have hsame := ((hpaths rfl hsegments hsent hroute hchat).1 rfl).mp hintended
    -- The `..` has left the base, and what it kept is not the base.
    exact absurd hsame (by decide)

/-- The path `/../v1/chat/completions` is sent to the chat route of its base, and a redirect
takes its validator away. -/
theorem validatedRawSse_downgraded :
    (∃ attempt, SentFrom redirected keyedPost "/../v1/chat/completions" attempt
        defaultControlBase ∧
      semanticRouteRelativeToBase defaultControlBase.url attempt.url =
        some "/chat/completions") ∧
    validatedRawSse plainBackend redirected.read defaultClient "/../v1/chat/completions" captureUrl
        [.ok notJson] = [.yields (.ok notJson)] ∧
    strictValidator redirected.read .chat [.ok notJson] =
      [.yields (.error
        (.serialization "invalid SSE JSON: key must be a string at line 1 column 2"))] := by
  refine ⟨?_, rfl, rfl⟩
  obtain ⟨attempt, hsent, hurl⟩ := exists_first_attempt
    (show isRootRelative "/../v1/chat/completions" = true by decide) rfl
  refine ⟨attempt, hsent, ?_⟩
  rw [hurl]
  rfl

end TrustedRouter.Proofs.Transport
