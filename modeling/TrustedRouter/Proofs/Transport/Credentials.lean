import TrustedRouter.Lib.BTreeMap
import TrustedRouter.Proofs.Transport.Engine
import TrustedRouter.Proofs.Transport.Headers
import TrustedRouter.Transport

/-!
# `TrustedRouter.Proofs.Transport.Credentials`: calls without credentials

Two runs of the header assembly of a credential-free call, by callers that differ in their
credentials only, end alike, and no credential is in what they send. `SameButCredentials` is
the relation between the two: the entries of all other names are the same. The filters of the
clone and of the options keep exactly those entries, so everything after them is the same.

A header map of a caller is a `BTreeMap`, and two of those with the same entries are the same
list.
-/

set_option autoImplicit false

namespace TrustedRouter.Proofs.Transport

open TrustedRouter.Transport
open Rust.Str
open Rust.Result
open Rust.BTreeMap (Ordered)
open Http (HeaderMap)

/-- The names of the headers that identify a caller. -/
def credentialNames : List String :=
  ["authorization", "proxy-authorization", "cookie", "cookie2", "x-api-key",
    "x-trustedrouter-workspace", "x-tr-client"]

/-- A name equals, in any letter case, that of a header which a credential-free call drops. -/
def IsCredential (name : String) : Prop :=
  ∃ reserved ∈ "idempotency-key" :: credentialNames, eqIgnoreAsciiCase name reserved = true

/-- Two header maps of a caller have the same entries but for credentials. -/
structure SameButCredentials (a b : List (String × String)) : Prop where
  left : Ordered a
  right : Ordered b
  entries : ∀ name value, ¬ IsCredential name → ((name, value) ∈ a ↔ (name, value) ∈ b)

/-- Every name on the list is in lower case, so that a comparison with the lowercase form of a
header name is one without regard to case. -/
theorem toAsciiLowercase_reserved :
    ∀ reserved ∈ "idempotency-key" :: credentialNames, toAsciiLowercase reserved = reserved := by
  decide

/-- The filter drops exactly the credentials. -/
theorem credentialHeader_iff {name : String} :
    credentialHeader name = true ↔ IsCredential name := by
  have hlist : ∀ reserved : String,
      reserved ∈ ["authorization", "proxy-authorization", "cookie", "cookie2", "x-api-key",
        "x-trustedrouter-workspace", "idempotency-key", "x-tr-client"] ↔
      reserved ∈ "idempotency-key" :: credentialNames := by
    intro reserved
    simp only [credentialNames, List.mem_cons, List.not_mem_nil, or_false]
    tauto
  rw [credentialHeader, List.contains_iff_mem, hlist]
  constructor
  · intro hmem
    refine ⟨_, hmem, eqIgnoreAsciiCase_iff.mpr ?_⟩
    rw [toAsciiLowercase_reserved _ hmem]
  · rintro ⟨reserved, hmem, heq⟩
    rwa [eqIgnoreAsciiCase_iff.mp heq, toAsciiLowercase_reserved _ hmem]

/-- The filter keeps exactly the entries that are no credentials, each with its value. -/
theorem mem_retainUncredentialed {headers : List (String × String)} {entry : String × String} :
    entry ∈ retainUncredentialed headers ↔ entry ∈ headers ∧ ¬ IsCredential entry.1 := by
  rw [retainUncredentialed, List.mem_filter, Bool.not_eq_true', ← Bool.not_eq_true,
    credentialHeader_iff]

/-- What the filter keeps does not depend on credentials. Two callers that differ in nothing else
are left with the same headers, in the same order. -/
theorem retainUncredentialed_eq {a b : List (String × String)} (h : SameButCredentials a b) :
    retainUncredentialed a = retainUncredentialed b := by
  have hleft : Ordered (retainUncredentialed a) := h.left.filter _
  have hright : Ordered (retainUncredentialed b) := h.right.filter _
  refine hleft.eq_of_mem_iff hright ?_
  rintro ⟨name, value⟩
  rw [mem_retainUncredentialed, mem_retainUncredentialed]
  constructor
  · rintro ⟨hmem, hname⟩
    exact ⟨(h.entries name value hname).mp hmem, hname⟩
  · rintro ⟨hmem, hname⟩
    exact ⟨(h.entries name value hname).mpr hmem, hname⟩

/-! ## What is not in the map -/

/-- A retained layer holds no credential. -/
theorem getAll_retained {headers : List (String × String)} {layer : HeaderMap}
    (h : parseLayer (retainUncredentialed headers) [] = .ok layer) {name : String}
    (hname : name ∈ "idempotency-key" :: credentialNames) : layer.getAll name = [] := by
  have hvalues := getAll_parseLayer h name
  have hnone : valuesOf (withoutReserved (retainUncredentialed headers)) name = [] := by
    rw [valuesOf, List.map_eq_nil_iff, List.filter_eq_nil_iff]
    intro entry hentry hspells
    have hretained := (List.mem_filter.mp hentry).1
    exact (mem_retainUncredentialed.mp hretained).2 ⟨name, hname, hspells⟩
  rwa [hnone, toAsciiLowercase_reserved name hname, HeaderMap.getAll_nil, List.nil_append]
    at hvalues

/-- An empty option clears its slot and fills nothing. This is how a credential-free call takes
away what the client would have put there. -/
theorem setOwned_empty (headers : HeaderMap) (name : String) (format : String → String) :
    setOwned headers name (some "") format = .ok (headers.remove name) := rfl

/-- A name that was absent stays absent when another is removed. -/
theorem getAll_remove_eq_nil {headers : HeaderMap} {name : String}
    (h : headers.getAll name = []) (other : String) :
    (headers.remove other).getAll name = [] := by
  by_cases hname : name = other
  · rw [hname, HeaderMap.getAll_remove_self]
  · rw [HeaderMap.getAll_remove_of_ne _ hname, h]

/-- A credential-free call is not recorded: the clone has its telemetry turned off. -/
theorem requestRecorder_credentialFree (client : Client) (plane : Plane) (path : String) :
    requestRecorder (credentialFreeClone client) plane path = none := rfl

/-- No credential is in the headers of a credential-free call: the caller's are filtered out, and
the slots of the client are cleared. -/
theorem getAll_credentialFreeHeaders {env : Environment} {call : Call} {plane : Plane}
    {resolvedPath : String} {headers : HeaderMap}
    (h : credentialFreeHeaders env call plane resolvedPath = .ok headers) {name : String}
    (hname : name ∈ credentialNames) : headers.getAll name = [] := by
  have hreserved := List.mem_cons_of_mem "idempotency-key" hname
  have hkey : name ≠ "idempotency-key" := by
    rintro rfl
    exact absurd hname (by decide)
  have hagent : name ≠ "user-agent" := by
    rintro rfl
    exact absurd hname (by decide)
  simp only [credentialFreeHeaders, credentialFreeCall, requestRecorder_credentialFree,
    requestHeaders, bind_eq_ok] at h
  obtain ⟨clientLayer, hclient, callLayer, hcall, agent, -, withKey, hauthorized,
    withWorkspace, hscoped, h⟩ := h
  -- The two layers hold none, and the reserved header is removed and not set again.
  have hlayers : ((HeaderMap.extend [] clientLayer).extend callLayer).getAll name = [] := by
    rw [HeaderMap.getAll_extend, HeaderMap.getAll_extend, getAll_retained hclient hreserved,
      getAll_retained hcall hreserved, if_pos rfl, if_pos rfl, HeaderMap.getAll_nil]
  have henforced := getAll_remove_eq_nil hlayers "x-tr-client"
  have hagent := (HeaderMap.getAll_insert_of_ne _ agent hagent).trans henforced
  -- The two options are empty, so both slots are cleared.
  cases (setOwned_empty _ _ _).symm.trans hauthorized
  cases (setOwned_empty _ _ _).symm.trans hscoped
  have hcleared := getAll_remove_eq_nil (getAll_remove_eq_nil hagent "authorization")
    "x-trustedrouter-workspace"
  split at h
  · cases h
    exact hcleared
  · simp only [bind_eq_ok] at h
    obtain ⟨key, -, hresult⟩ := h
    cases hresult
    exact (HeaderMap.getAll_insert_of_ne _ key hkey).trans hcleared

/-- Credential-free calls of two callers that differ in their keys, workspaces and credential
headers assemble the same headers, or fail alike, and no credential is among them. -/
theorem credentialFreeHeaders_eq (env : Environment) {call call' : Call} (plane : Plane)
    (resolvedPath : String)
    (hclient : SameButCredentials call.client.headers call'.client.headers)
    (hoptions : SameButCredentials call.options.headers call'.options.headers)
    (hkey : call.options.idempotencyKey = call'.options.idempotencyKey) :
    credentialFreeHeaders env call plane resolvedPath =
        credentialFreeHeaders env call' plane resolvedPath ∧
      ∀ headers, credentialFreeHeaders env call plane resolvedPath = .ok headers →
        ∀ name ∈ credentialNames, headers.getAll name = [] := by
  constructor
  · simp only [credentialFreeHeaders, credentialFreeCall, requestRecorder_credentialFree]
    simp only [requestHeaders, credentialFreeClone, credentialFreeOptions,
      retainUncredentialed_eq hclient, retainUncredentialed_eq hoptions, hkey]
  · intro headers h name hname
    exact getAll_credentialFreeHeaders h hname

/-- A call by someone with no credentials. -/
def anonymousCall : Call where
  client := { defaultClient with headers := [("x-app", "demo")] }
  method := .get
  body := none
  options := {}

/-- The same call by someone with a key, a workspace, and credentials of their own. -/
def knownCall : Call where
  client :=
    { defaultClient with
      apiKey := some "sk-tr-v1-secret"
      headers := [("Authorization", "Basic c2VjcmV0"), ("x-app", "demo")] }
  method := .get
  body := none
  options := { workspaceId := some "ws-1", headers := [("COOKIE", "session=1")] }

/-- The two calls assemble the same headers, and they are those of the anonymous one. -/
theorem credentialFreeHeaders_eq_known :
    credentialFreeHeaders resetOnce knownCall .inference "/v1/attestation" =
        credentialFreeHeaders resetOnce anonymousCall .inference "/v1/attestation" ∧
      credentialFreeHeaders resetOnce knownCall .inference "/v1/attestation" =
        .ok [("x-app", bytes "demo"), ("user-agent", bytes "trusted-router-rust")] := by
  have hclient : SameButCredentials knownCall.client.headers anonymousCall.client.headers := by
    refine ⟨by simp only [Ordered, knownCall]; decide, List.pairwise_singleton _ _, ?_⟩
    intro name value hname
    refine ⟨?_, List.mem_cons_of_mem _⟩
    rintro (_ | ⟨_, hmem⟩)
    · exact absurd ⟨"authorization", by decide, by decide⟩ hname
    · exact hmem
  have hoptions : SameButCredentials knownCall.options.headers anonymousCall.options.headers := by
    refine ⟨List.pairwise_singleton _ _, List.Pairwise.nil, ?_⟩
    intro name value hname
    refine ⟨?_, fun hmem => nomatch hmem⟩
    rintro (_ | ⟨_, hmem⟩)
    · exact absurd ⟨"cookie", by decide, by decide⟩ hname
    · exact hmem
  exact ⟨(credentialFreeHeaders_eq resetOnce .inference "/v1/attestation" hclient hoptions rfl).1,
    rfl⟩

end TrustedRouter.Proofs.Transport
