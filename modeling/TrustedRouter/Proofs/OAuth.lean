import TrustedRouter.OAuth
import TrustedRouter.Proofs.Transport.Routing

/-!
# `TrustedRouter.Proofs.OAuth`: does the listener accept its own callback URL?

`OAuthLoopback::bind` hands out the parsed URL of a path and checks a callback against the path
itself. `bind_spec` says what the URL is, and `pathString_eq_iff` that its path is the configured
one exactly when that path is plain: printable ASCII that the parser does not encode, without
dot segments, a query or a fragment.

The callback comes in as a request. `requestTarget_request` finds its target in the bytes that
were read, and `IsSettled.parse_target` reads the target back as the path and the query it was
made of. `callback_accepted_iff` puts the two together, for a request that fits into the buffer
of the listener. Of a longer one the listener sees only the start, which can cut the code or the
state.
-/

set_option autoImplicit false

namespace TrustedRouter.Proofs

open Rust (Bytes)
open Rust.Str
open Rust.Result
open Whatwg (Url Backend parsePath parseQuery cleanEnd isPlain isNormal isPathChar endsPath
  slashSeparated isC0OrSpace)
open FormUrlencoded (IsQueryText)

/-! ## The callback URL -/

/-- The configured path after its first slash. -/
def belowRoot (options : OAuthLoopbackOptions) : List Char := options.rootedPath.toList.drop 1

/-- `bind` puts a slash before a path that has none. -/
theorem toList_rootedPath (options : OAuthLoopbackOptions) :
    options.rootedPath.toList = '/' :: belowRoot options := by
  have hstarts : ∃ rest, options.rootedPath = "/" ++ rest := by
    unfold OAuthLoopbackOptions.rootedPath
    split
    · rename_i hslash
      exact startsWith_iff.mp hslash
    · exact ⟨options.path, rfl⟩
  obtain ⟨rest, hrest⟩ := hstarts
  rw [belowRoot, hrest, String.toList_append]
  rfl

/-- What `bind` guarantees of the listener it returns. -/
structure IsBound (lib : OAuthLibrary) (options : OAuthLoopbackOptions)
    (loopback : OAuthLoopback) : Prop where
  path : loopback.path = options.rootedPath
  expected : loopback.expectedState = options.expectedState
  host : ∃ host, lib.backend.parseHost "localhost" = .ok host
  segments : loopback.callbackUrl.path = .segments (parsePath [] (cleanEnd (belowRoot options)))
  query : loopback.callbackUrl.query = parseQuery ('/' :: cleanEnd (belowRoot options))

/-- A digit stands in the authority of the callback URL, and nothing is cleaned from it. -/
theorem isAuthorityChar_port {port : Nat} : ∀ c ∈ ("localhost:" ++ toString port).toList,
    Whatwg.isAuthorityChar c = true ∧ isC0OrSpace c = false := by
  intro c hc
  rw [String.toList_append] at hc
  rcases List.mem_append.mp hc with hname | hdigit
  · have hall : ∀ c ∈ "localhost:".toList,
        Whatwg.isAuthorityChar c = true ∧ isC0OrSpace c = false :=
      List.all_iff_forall_prop.mp (by decide)
    exact hall c hname
  · exact Whatwg.isAuthorityChar_of_isDigit (isDigit_of_mem_toString hdigit)

/-- What a successful `bind` establishes. The path and the query of the callback URL are those the
parser makes of the configured path, and the host `localhost` can be read, which `wait` relies on
later. -/
theorem bind_spec {lib : OAuthLibrary} {listen : Nat → Except String TcpListener}
    {options : OAuthLoopbackOptions} {loopback : OAuthLoopback}
    (h : OAuthLoopback.bind lib listen options = .ok loopback) : IsBound lib options loopback := by
  simp only [OAuthLoopback.bind, bind_eq_ok, mapErr_eq_ok] at h
  obtain ⟨listener, -, port, -, callback, hparse, hloopback⟩ := h
  cases hloopback
  have hclean : cleanEnd ("localhost:" ++ toString port ++ options.rootedPath).toList =
      ("localhost:" ++ toString port).toList ++ '/' :: cleanEnd (belowRoot options) := by
    rw [String.toList_append, toList_rootedPath,
      Whatwg.cleanEnd_append fun c hc => (isAuthorityChar_port c hc).2,
      Whatwg.cleanEnd_cons (by decide)]
  have htext : "http://localhost:" ++ toString port ++ options.rootedPath =
      "http" ++ "://" ++ ("localhost:" ++ toString port ++ options.rootedPath) := by
    rw [← String.append_assoc, ← String.append_assoc]
    rfl
  -- The callback URL is an HTTP one, so that its text is an authority and a path.
  have hauthority : Whatwg.parse lib.backend
      ("http://localhost:" ++ toString port ++ options.rootedPath) =
      Whatwg.parseAuthority lib.backend "http"
        (("localhost:" ++ toString port).toList ++ '/' :: cleanEnd (belowRoot options)) := by
    rw [htext, Whatwg.parse_special lib.backend (by decide) (fun _ => rfl)
      (List.all_iff_forall_prop.mp (by decide)),
      hclean]
    intro c hc
    rw [hclean, String.toList_append] at hc
    cases hc
    decide
  rw [hauthority, Whatwg.parseAuthority_root_eq_ok
    fun c hc => (isAuthorityChar_port c hc).1] at hparse
  obtain ⟨-, host, hhost, _, -, hcallback⟩ := hparse
  -- The port of the listener stands behind the host, and is no part of it.
  have hlocalhost : (Whatwg.splitPort false ("localhost:" ++ toString port).toList).1 =
      "localhost".toList := by
    rw [String.toList_append]
    rfl
  rw [hlocalhost, String.ofList_toList] at hhost
  refine ⟨rfl, rfl, ⟨host, hhost⟩, ?_, ?_⟩
  · rw [hcallback]
  · rw [hcallback]

/-- The path of the callback URL is the configured one exactly when that one is plain. The
listener compares with the configured text later, and this is where the two can part. -/
theorem IsBound.pathString_eq_iff {lib : OAuthLibrary} {options : OAuthLoopbackOptions}
    {loopback : OAuthLoopback} (h : IsBound lib options loopback) :
    loopback.callbackUrl.pathString = loopback.path ↔ isPlain (belowRoot options) = true := by
  rw [← String.toList_inj, Whatwg.toList_pathString h.segments, h.path, toList_rootedPath,
    List.cons_inj_right, Whatwg.slashSeparated_parsePath_iff]

/-! ## The request -/

/-- The path and the query of a URL. -/
def callbackTarget (url : Url) : String := url.pathString ++ url.query.elim "" ("?" ++ ·)

/-- A request for a target. -/
def requestText (method target rest : String) : String := method ++ " " ++ target ++ " " ++ rest

/-- A printable ASCII character. -/
def isPrintable (c : Char) : Bool := 0x20 < c.toNat && c.toNat ≤ 0x7E

section
variable {c : Char}

/-- Printable characters are neither blanks nor line ends, so they stay in one word of the request
line. -/
theorem isPrintable_spec (h : isPrintable c = true) :
    isWhitespace c = false ∧ isC0OrSpace c = false ∧ (c != '\n') = true := by
  have hascii : c.toNat < 128 := by
    simp only [isPrintable, Bool.and_eq_true, decide_eq_true_eq] at h
    omega
  exact forall_ascii (P := fun c => isPrintable c = true →
    isWhitespace c = false ∧ isC0OrSpace c = false ∧ (c != '\n') = true) (by decide +kernel)
    hascii h

/-- The characters of a parsed path are printable. -/
theorem isPrintable_of_isPathChar (h : isPathChar c = true) : isPrintable c = true := by
  have hrange := Whatwg.toNat_of_isPathChar h
  simpa only [isPrintable, Bool.and_eq_true, decide_eq_true_eq] using hrange

/-- So are those of a query that the parser leaves alone. -/
theorem isPrintable_of_not_inQuerySet (h : Whatwg.inQuerySet c = false) :
    isPrintable c = true := by
  have hrange := Whatwg.toNat_of_not_inQuerySet h
  simpa only [isPrintable, Bool.and_eq_true, decide_eq_true_eq] using hrange

end

/-- A URL whose path and query the parser leaves as they are. -/
structure IsSettled (url : Url) (segments : List String) (query : String) : Prop where
  path : url.path = .segments segments
  ne_nil : segments ≠ []
  normal : ∀ segment ∈ segments, isNormal segment.toList = true
  has_query : url.query = some query
  text : IsQueryText query

section
variable {url : Url} {segments : List String} {query : String}
  (h : IsSettled url segments query)
include h

/-- The request target of a URL: its path and its query. -/
theorem IsSettled.toList_target :
    (callbackTarget url).toList = '/' :: (slashSeparated segments ++ '?' :: query.toList) := by
  rw [callbackTarget, h.has_query, String.toList_append, Whatwg.toList_pathString h.path]
  show _ ++ ("?" ++ query).toList = _
  rw [String.toList_append]
  rfl

/-- The target has no blank, so it is the second word of the request line as a whole. -/
theorem IsSettled.isPrintable_target : ∀ c ∈ (callbackTarget url).toList, isPrintable c = true := by
  intro c hc
  rw [h.toList_target] at hc
  rcases List.mem_cons.mp hc with rfl | hc
  · decide
  rcases List.mem_append.mp hc with hc | hc
  · rcases Whatwg.isPathChar_of_mem_slashSeparated h.normal hc with rfl | hchar
    · decide
    · exact isPrintable_of_isPathChar hchar
  · rcases List.mem_cons.mp hc with rfl | hc
    · decide
    · exact isPrintable_of_not_inQuerySet (h.text c hc)

/-- The target is read back as the path and the query it was made of. -/
theorem IsSettled.parse_target {lib : Backend} {host : String}
    (hhost : lib.parseHost "localhost" = .ok host) :
    ∃ request, Whatwg.parse lib ("http://localhost" ++ callbackTarget url) = .ok request ∧
      request.path = url.path ∧ request.query = url.query := by
  have hblank : ∀ c ∈ ("localhost" ++ callbackTarget url).toList, isC0OrSpace c = false := by
    intro c hc
    rw [String.toList_append] at hc
    rcases List.mem_append.mp hc with hc | hc
    · have hall : ∀ c ∈ "localhost".toList, isC0OrSpace c = false :=
        List.all_iff_forall_prop.mp (by decide)
      exact hall c hc
    · exact (isPrintable_spec (h.isPrintable_target c hc)).2.1
  -- The target starts with a slash, so that the authority before it is `localhost`.
  have hauthority : Whatwg.parse lib ("http://localhost" ++ callbackTarget url) =
      Whatwg.parseAuthority lib "http"
        ("localhost".toList ++ '/' :: (slashSeparated segments ++ '?' :: query.toList)) := by
    have htext : "http://localhost" ++ callbackTarget url =
        "http" ++ "://" ++ ("localhost" ++ callbackTarget url) := by
      rw [← String.append_assoc]
      rfl
    rw [htext, Whatwg.parse_special lib (by decide) (fun _ => rfl)
      (List.all_iff_forall_prop.mp (by decide)),
      Whatwg.cleanEnd_of_not_blank hblank, String.toList_append, h.toList_target]
    intro c hc
    rw [Whatwg.cleanEnd_of_not_blank hblank, String.toList_append] at hc
    cases hc
    decide
  have hlocalhost : Whatwg.splitPort false "localhost".toList = ("localhost".toList, none) := rfl
  have hrequest := @Whatwg.parseAuthority_root_eq_ok lib "http" "localhost".toList
    (slashSeparated segments ++ '?' :: query.toList) _
    (List.all_iff_forall_prop.mp (by decide)) |>.mpr
    ⟨by rw [hlocalhost]; rfl, host, by rw [hlocalhost, String.ofList_toList]; exact hhost, none,
      by rw [hlocalhost]; rfl, rfl⟩
  refine ⟨_, hauthority.trans hrequest, ?_, ?_⟩
  · -- The path was parsed once before, and its segments are normal, so they are parsed to
    -- themselves.
    show Whatwg.Path.segments (parsePath [] (slashSeparated segments ++ '?' :: query.toList)) = _
    rw [Whatwg.parsePath_slashSeparated h.ne_nil h.normal, h.path]
    intro c hc
    cases hc
    decide
  · rw [h.has_query]
    have hpath : ∀ c ∈ '/' :: slashSeparated segments, endsPath c = false :=
      List.forall_mem_cons.mpr ⟨by decide, Whatwg.endsPath_slashSeparated h.normal⟩
    exact Whatwg.parseQuery_append hpath h.text

/-- The target is what `wait` finds in the bytes of a request, whatever the method is and whatever
comes after the target. -/
theorem IsSettled.requestTarget_request (lib : OAuthLibrary) {method : String}
    (hmethod : method ≠ "") (hword : ∀ c ∈ method.toList, isWhitespace c = false)
    (rest : String) :
    requestTarget lib (bytes (requestText method (callbackTarget url) rest)) =
      .ok (callbackTarget url) := by
  have htarget : callbackTarget url ≠ "" := by
    intro hempty
    have hlist := h.toList_target
    rw [hempty] at hlist
    cases hlist
  have hprintable : ∀ c ∈ (callbackTarget url).toList,
      isWhitespace c = false ∧ (c != '\n') = true := fun c hc =>
    ⟨(isPrintable_spec (h.isPrintable_target c hc)).1,
      (isPrintable_spec (h.isPrintable_target c hc)).2.2⟩
  have hfront : ∀ c ∈ (method ++ " " ++ callbackTarget url).toList, (c != '\n') = true := by
    intro c hc
    rw [String.toList_append, String.toList_append] at hc
    rcases List.mem_append.mp hc with hc | hc
    · rcases List.mem_append.mp hc with hc | hc
      · rw [bne_iff_ne]
        rintro rfl
        exact absurd (hword _ hc) (by decide)
      · rw [List.mem_singleton.mp hc]
        decide
    · exact (hprintable c hc).2
  -- The line ends after the target, so its first two words are those of the text.
  obtain ⟨more, hline⟩ := firstLine_append hfront rest
  simp only [requestTarget, requestText, bind_eq_ok, okOr_eq_ok, fromUtf8_eq_some]
  refine ⟨_, rfl, _, hline, ?_⟩
  rw [splitWhitespace_words hmethod htarget hword fun c hc => (hprintable c hc).1]
  rfl

end

/-! ## The check of a callback -/

section
variable {lib : OAuthLibrary} {url : Url} {path : String} {expected : Option String}

/-- A callback that was accepted, read back: its path, no `error`, a code that is not empty, and
the state, which is compared only when one is expected. -/
theorem validateCallback_eq_ok {callback : OAuthCallback} :
    validateCallback lib url path expected = .ok callback ↔
      url.pathString = path ∧ param (url.queryPairs lib.lossy) "error" = none ∧
      param (url.queryPairs lib.lossy) "code" = some callback.code ∧ callback.code ≠ "" ∧
      param (url.queryPairs lib.lossy) "state" = callback.state ∧
      ∀ state, expected = some state → callback.state = some state := by
  have hstates : (expected.all fun state => param (url.queryPairs lib.lossy) "state" == some state)
      = true ↔ ∀ state, expected = some state →
        param (url.queryPairs lib.lossy) "state" = some state := by
    cases expected <;> simp
  simp only [validateCallback, bind_eq_ok, exists_unit, ensure_eq_ok, beq_iff_eq]
  refine and_congr_right fun _ => ?_
  cases param (url.queryPairs lib.lossy) "error" with
  | some error =>
      -- The server denied the authorization.
      constructor
      · intro h
        cases h
      · rintro ⟨h, -⟩
        cases h
  | none =>
      simp only [bind_eq_ok, exists_unit, ensure_eq_ok, okOr_eq_ok, Option.filter_eq_some_iff,
        Bool.not_eq_true', isEmpty_eq_false_iff, hstates]
      constructor
      · rintro ⟨code, ⟨hcode, hne⟩, hstate, hcallback⟩
        cases hcallback
        exact ⟨trivial, hcode, hne, rfl, hstate⟩
      · rintro ⟨-, hcode, hne, hstate, hexpected⟩
        refine ⟨callback.code, ⟨hcode, hne⟩, fun state h => hstate.trans (hexpected state h), ?_⟩
        rw [hstate]
        rfl

/-- A request with another state than the expected one is not accepted. -/
theorem validateCallback_ne_ok {state : String}
    (h : param (url.queryPairs lib.lossy) "state" ≠ some state) (callback : OAuthCallback) :
    validateCallback lib url path (some state) ≠ .ok callback := by
  intro haccepted
  obtain ⟨-, -, -, -, hstate, hexpected⟩ := validateCallback_eq_ok.mp haccepted
  exact h (hstate.trans (hexpected state rfl))

end

/-! ## The callback of the flow -/

/-- The callback URL with parameters is read back from a request. -/
theorem IsBound.isSettled {lib : OAuthLibrary} {options : OAuthLoopbackOptions}
    {loopback : OAuthLoopback} (h : IsBound lib options loopback)
    {params : List (String × String)} (hne : params ≠ []) :
    ∃ segments query, IsSettled (loopback.callbackUrl.appendPairs params) segments query := by
  have htext : IsQueryText (loopback.callbackUrl.query.getD "") := by
    rw [h.query]
    cases hquery : parseQuery ('/' :: cleanEnd (belowRoot options)) with
    | none => exact fun c hc => nomatch hc
    | some query => exact Whatwg.isQueryText_parseQuery hquery
  obtain ⟨query, hquery, htext⟩ := Whatwg.exists_query_appendPairs hne htext
  exact ⟨_, query,
    { path := (Whatwg.path_appendPairs _ _).trans h.segments
      ne_nil := Whatwg.parsePath_ne_nil _ _
      normal := Whatwg.parsePath_isNormal _
      has_query := hquery
      text := htext }⟩

/-- A plain path leaves no query in the callback URL. -/
theorem IsBound.queryPairs_of_isPlain {lib : OAuthLibrary} {options : OAuthLoopbackOptions}
    {loopback : OAuthLoopback} (h : IsBound lib options loopback)
    (hplain : isPlain (belowRoot options) = true) :
    loopback.callbackUrl.queryPairs lib.lossy = [] := by
  have hends : ∀ c ∈ '/' :: cleanEnd (belowRoot options), endsPath c = false := by
    refine List.forall_mem_cons.mpr ⟨by decide, fun c hc => ?_⟩
    exact Whatwg.endsPath_of_isPlain hplain c (Whatwg.mem_of_mem_cleanEnd hc)
  rw [Url.queryPairs, h.query, Whatwg.parseQuery_of_forall hends]
  rfl

/-! ## What the authorization URL says -/

section
variable {lossy : Bytes → String} {url : Url} {name other : String}

/-- A parameter that is appended is the one that is found: `param` takes the last pair of a
name. -/
theorem param_appendPair (value : String) :
    param ((url.appendPair name value).queryPairs lossy) name = some value := by
  rw [Whatwg.queryPairs_appendPair, param, List.reverse_append, List.reverse_singleton,
    List.singleton_append, List.lookup_cons, beq_self_eq_true]

/-- A parameter of another name is found as before. -/
theorem param_appendPair_of_ne (hne : other ≠ name) (value : String) :
    param ((url.appendPair name value).queryPairs lossy) other =
      param (url.queryPairs lossy) other := by
  rw [Whatwg.queryPairs_appendPair, param, List.reverse_append, List.reverse_singleton,
    List.singleton_append, List.lookup_cons, beq_eq_false_iff_ne.mpr hne]
  rfl

/-- The same for a parameter that may be absent. -/
theorem param_appendOption_of_ne (hne : other ≠ name) (value : Option String) :
    param ((appendOption url name value).queryPairs lossy) other =
      param (url.queryPairs lossy) other := by
  unfold appendOption
  split
  · exact param_appendPair_of_ne hne _
  · rfl

end

/-- The authorization URL hands the server the callback URL with the state in its query. -/
theorem oauthAuthorizeUrl_callback {lib : Backend} {client : Client}
    {options : OAuthAuthorizeOptions} {url : Url}
    (h : oauthAuthorizeUrl lib client options = .ok url) (lossy : Bytes → String) :
    ∃ callback, Whatwg.parse lib options.callbackUrl = .ok callback ∧
      param (url.queryPairs lossy) "callback_url" =
        some (callbackWithState callback options.state).asStr := by
  simp only [oauthAuthorizeUrl, bind_eq_ok, exists_unit, ensure_eq_ok, mapErr_eq_ok] at h
  obtain ⟨-, callback, hcallback, -, authorize, -, hurl⟩ := h
  cases hurl
  refine ⟨callback, hcallback, ?_⟩
  -- The parameters behind it have other names.
  repeat rw [param_appendOption_of_ne (by decide)]
  split
  · exact param_appendPair _
  · rw [param_appendPair_of_ne (by decide)]
    exact param_appendPair _

/-! ## Is it accepted? -/

/-- `wait` checks the URL of the target that it finds in its buffer. -/
theorem wait_result {lib : OAuthLibrary} {loopback : OAuthLoopback} {arrived : Bytes}
    {target : String} {url : Url}
    (htarget : requestTarget lib (arrived.take readBufferLen) = .ok target)
    (hparse : Whatwg.parse lib.backend ("http://localhost" ++ target) = .ok url) :
    (loopback.wait lib (.ok arrived)).result =
      validateCallback lib url loopback.path loopback.expectedState := by
  have hparsed : (do
      let arrived ← mapErr Error.oAuth (.ok arrived)
      let target ← requestTarget lib (arrived.take readBufferLen)
      mapErr Error.oAuth (Whatwg.parse lib.backend ("http://localhost" ++ target))) =
      Except.ok url := by
    simp only [bind_eq_ok, mapErr_eq_ok]
    exact ⟨arrived, rfl, target, htarget, hparse⟩
  rw [OAuthLoopback.wait, hparsed]

/-- What `wait` makes of a request for the callback URL with parameters that fits into its buffer:
it checks a URL with the path of the callback URL and with the parameters behind its pairs. -/
theorem IsBound.wait_callback {lib : OAuthLibrary} {options : OAuthLoopbackOptions}
    {loopback : OAuthLoopback} (h : IsBound lib options loopback)
    {params : List (String × String)} (hne : params ≠ []) {method : String}
    (hmethod : method ≠ "") (hword : ∀ c ∈ method.toList, isWhitespace c = false)
    {rest : String}
    (hfits : (bytes (requestText method
      (callbackTarget (loopback.callbackUrl.appendPairs params)) rest)).length ≤ readBufferLen) :
    ∃ request : Url,
      (loopback.wait lib (.ok (bytes (requestText method
        (callbackTarget (loopback.callbackUrl.appendPairs params)) rest)))).result =
          validateCallback lib request loopback.path loopback.expectedState ∧
      request.pathString = loopback.callbackUrl.pathString ∧
      request.queryPairs lib.lossy = loopback.callbackUrl.queryPairs lib.lossy ++ params := by
  obtain ⟨segments, query, hsettled⟩ := h.isSettled hne
  obtain ⟨host, hhost⟩ := h.host
  obtain ⟨request, hparse, hpath, hquery⟩ := hsettled.parse_target hhost
  have htarget := hsettled.requestTarget_request lib hmethod hword rest
  rw [← List.take_of_length_le hfits] at htarget
  refine ⟨request, wait_result htarget hparse, ?_, ?_⟩
  · rw [Url.pathString, Url.pathString, hpath, Whatwg.path_appendPairs]
  · rw [← Whatwg.queryPairs_appendPairs, Url.queryPairs, Url.queryPairs, hquery]

/-- A listener accepts a request for its own callback URL, with the code and the expected state
added to the query in either order, exactly when the configured path is plain. The request has to
fit into the buffer of the listener, which reads once. `validate_callback` never accepts a URL
with another state. -/
theorem callback_accepted_iff {lib : OAuthLibrary} {listen : Nat → Except String TcpListener}
    {options : OAuthLoopbackOptions} {loopback : OAuthLoopback}
    (hbind : OAuthLoopback.bind lib listen options = .ok loopback) {code state : String}
    (hcode : code ≠ "") (hstate : options.expectedState = some state)
    {params : List (String × String)} (hparams : params.Perm [("state", state), ("code", code)])
    {method : String} (hmethod : method ≠ "")
    (hword : ∀ c ∈ method.toList, isWhitespace c = false) {rest : String}
    (hfits : (bytes (requestText method
      (callbackTarget (loopback.callbackUrl.appendPairs params)) rest)).length ≤ readBufferLen) :
    ((loopback.wait lib (.ok (bytes (requestText method
        (callbackTarget (loopback.callbackUrl.appendPairs params)) rest)))).result =
          .ok { code, state := some state } ↔
      isPlain (belowRoot options) = true) ∧
    ∀ url, param (url.queryPairs lib.lossy) "state" ≠ some state → ∀ callback,
      validateCallback lib url loopback.path loopback.expectedState ≠ .ok callback := by
  have hbound := bind_spec hbind
  have hexpected : loopback.expectedState = some state := hbound.expected.trans hstate
  have hne : params ≠ [] := by
    rintro rfl
    cases hparams.length_eq
  obtain ⟨request, hresult, hpath, hpairs⟩ := hbound.wait_callback hne hmethod hword hfits
  refine ⟨?_, fun url hother callback => ?_⟩
  · rw [hresult, ← hbound.pathString_eq_iff]
    constructor
    · -- The path of the request is compared as text with the path of the options.
      intro haccepted
      rw [← hpath]
      exact (validateCallback_eq_ok.mp haccepted).1
    · -- The parameters come in either order. There are no others, since a plain path has no
      -- query.
      intro hplain
      have hnone := hbound.queryPairs_of_isPlain (hbound.pathString_eq_iff.mp hplain)
      rw [hnone, List.nil_append] at hpairs
      rw [validateCallback_eq_ok, hpath, hpairs, hexpected]
      refine ⟨hplain, ?_, ?_, hcode, ?_, fun other hother => hother⟩ <;>
        rcases List.perm_pair.mp hparams with rfl | rfl <;> rfl
  · rw [hexpected]
    exact validateCallback_ne_ok hother callback

/-! ## Instances -/

/-- A library for plain domain names, where all text is UTF-8. -/
def plainLibrary : OAuthLibrary where
  backend := Transport.plainBackend
  lossy _ := ""
  utf8Error _ := ""

/-- A network that binds every port. -/
def listening (port : Nat) : Except String TcpListener := .ok { localAddr := .ok port }

/-- A listener on port 3000: the path it was configured with, and the segments that it hands
out. -/
def boundTo (path : String) (segments : List String) : OAuthLoopback where
  callbackUrl :=
    { scheme := "http", host := some "localhost", port := some 3000, path := .segments segments }
  path
  expectedState := some "expected"

/-- The default path is accepted. -/
theorem callback_accepted_default :
    OAuthLoopback.bind plainLibrary listening { expectedState := some "expected" } =
      .ok (boundTo "/callback" ["callback"]) ∧
    ((boundTo "/callback" ["callback"]).wait plainLibrary (.ok (bytes (requestText "GET"
      (callbackTarget ((boundTo "/callback" ["callback"]).callbackUrl.appendPairs
        [("state", "expected"), ("code", "code-123")])) "HTTP/1.1\r\n\r\n")))).result =
      .ok { code := "code-123", state := some "expected" } := by
  have hbind : OAuthLoopback.bind plainLibrary listening { expectedState := some "expected" } =
      .ok (boundTo "/callback" ["callback"]) := rfl
  refine ⟨hbind, ?_⟩
  exact (callback_accepted_iff hbind (by decide) rfl (List.Perm.refl _) (by decide)
    (List.all_iff_forall_prop.mp (by decide)) (by decide)).1.mpr (by decide)

/-- A path with a space is bound and advertised as `/call%20back`, and the request for that is
refused. -/
theorem callback_refused_blank :
    OAuthLoopback.bind plainLibrary listening
        { path := "/call back", expectedState := some "expected" } =
      .ok (boundTo "/call back" ["call%20back"]) ∧
    ((boundTo "/call back" ["call%20back"]).wait plainLibrary (.ok (bytes (requestText "GET"
      (callbackTarget ((boundTo "/call back" ["call%20back"]).callbackUrl.appendPairs
        [("state", "expected"), ("code", "code-123")])) "HTTP/1.1\r\n\r\n")))).result =
      .error (.oAuth "unexpected callback path") := by
  have hbind : OAuthLoopback.bind plainLibrary listening
      { path := "/call back", expectedState := some "expected" } =
      .ok (boundTo "/call back" ["call%20back"]) := rfl
  refine ⟨hbind, ?_⟩
  obtain ⟨request, hresult, hpath, -⟩ := @IsBound.wait_callback _ _ _ (bind_spec hbind)
    [("state", "expected"), ("code", "code-123")] (List.cons_ne_nil _ _) "GET" (by decide)
    (List.all_iff_forall_prop.mp (by decide)) "HTTP/1.1\r\n\r\n" (by decide)
  have hother : (request.pathString == "/call back") = false := by
    rw [hpath]
    decide
  rw [hresult]
  show validateCallback plainLibrary request "/call back" (some "expected") = _
  rw [validateCallback, hother]
  rfl

end TrustedRouter.Proofs
