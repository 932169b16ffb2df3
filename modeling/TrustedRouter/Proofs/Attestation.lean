import TrustedRouter.Attestation

/-!
# `TrustedRouter.Proofs.Attestation`: what an accepted token has passed

`checkToken_ok` and `checkChannel_ok` read the two halves of a successful `verifyClaims`
backwards. Together they give `Accepted`, the facts that hold in both modes, and the block
of checks that the mode adds: `LiveChecked` for a live channel and `DocumentChecked` for a
document. Every result below uses these structures and none of them unfolds `verifyClaims`
again.

`Lists` is the meaning of a nonce claim. A claim lists a string when it is that string or
an array that holds it. `lists_of_mem_stringList` connects it to `stringList`.

The image pins are derived three times in the source: in `pins_image_identity`, in
`policy_from_trust_release` and in `verify_claims`. `hasPin_iff` shows that the first
agrees with the third, and `policyFromTrustRelease_ok` gives the sets that the second
builds.
-/

set_option autoImplicit false

namespace TrustedRouter.Proofs.Attestation

open TrustedRouter.Attestation
open Rust (Bytes)
open Rust.Str
open Rust.Result
open Serde (Value)

/-! ## Nonce claims -/

/-- A claim lists `s`: it is the string `s`, or an array with the element `s`. -/
def Lists (value : Value) (s : String) : Prop :=
  value = .string s ∨ ∃ values, value = .array values ∧ Value.string s ∈ values

/-- The array case of `stringList`: every result is the text of an element. -/
theorem mem_of_mapM_asStr {error : Error} {values : List Value} {list : List String}
    {s : String}
    (h : values.mapM (fun value => okOr value.asStr error) = .ok list) (hs : s ∈ list) :
    Value.string s ∈ values := by
  have hforall := mapM_eq_ok.mp h
  clear h
  induction hforall with
  | nil => cases hs
  | cons hhead _ ih =>
      rcases List.mem_cons.mp hs with rfl | hs
      · rw [Value.asStr_eq_some.mp (okOr_eq_ok.mp hhead)]
        exact List.mem_cons_self
      · exact List.mem_cons_of_mem _ (ih hs)

/-- `stringList` returns only strings that the claim lists. -/
theorem lists_of_mem_stringList {value : Value} {list : List String} {s : String}
    (h : stringList value = .ok list) (hs : s ∈ list) : Lists value s := by
  cases value with
  | null => cases h; cases hs
  | string text =>
      cases h
      rw [List.mem_singleton.mp hs]
      exact .inl rfl
  | array values => exact .inr ⟨values, rfl, mem_of_mapM_asStr h hs⟩
  | bool _ => cases h
  | number _ => cases h
  | object _ => cases h

/-- The claim a live channel reads its nonces from. -/
def nonceClaim (claims : Value) : Value :=
  ((claims.get "eat_nonce").or (claims.get "nonces")).getD .null

/-- A search that succeeds in the strings of a claim finds a listed one. -/
theorem exists_lists_of_any {value : Value} {list : List String} {p : String → Bool}
    (h : stringList value = .ok list) (hany : list.any p = true) :
    ∃ s, Lists value s ∧ p s = true := by
  obtain ⟨s, hs, hp⟩ := List.any_eq_true.mp hany
  exact ⟨s, lists_of_mem_stringList h hs, hp⟩

/-! ## Image pins -/

/-- The token field at `path` is one of the non-empty accepted values. -/
def PinnedTo (claims : Value) (path accepted : List String) : Prop :=
  ∃ value ∈ accepted, value ≠ "" ∧ claims.pointer path = some (.string value)

/-- `pins_image_identity` asks for a non-empty value of the very set that `verify_claims` checks.
Each of the two functions chooses between the set and the single pin on its own. -/
theorem hasPin_iff {single : Option String} {set : List String} :
    AttestationPolicy.hasPin single set = true ↔
      ∃ value ∈ AttestationPolicy.acceptedSet single set, value ≠ "" := by
  unfold AttestationPolicy.hasPin AttestationPolicy.acceptedSet
  split
  · cases single <;> simp [isEmpty]
  · simp [isEmpty]

/-- A policy pins an image exactly when one of its two accepted sets has a non-empty
value. -/
theorem pinsImageIdentity_iff {policy : AttestationPolicy} :
    policy.pinsImageIdentity = true ↔
      (∃ value ∈ policy.acceptedImageDigests, value ≠ "") ∨
        ∃ value ∈ policy.acceptedImageReferences, value ≠ "" := by
  rw [AttestationPolicy.pinsImageIdentity, Bool.or_eq_true, hasPin_iff, hasPin_iff]
  rfl

/-- A claim that reads as a non-empty string is that string. -/
theorem pointer_of_optionalClaimString {claims : Value} {path : List String}
    {value : String} (h : optionalClaimString claims path = .ok value) (hne : value ≠ "") :
    claims.pointer path = some (.string value) := by
  unfold optionalClaimString at h
  split at h
  · cases h
    exact absurd rfl hne
  · rename_i text hp
    cases h
    exact hp
  · cases h

/-- `require_one_of` on a list that is not empty pins the field it was read from. On an empty list
it passes every value, which is why the hypothesis is there. -/
theorem pinnedTo_of_requireOneOf {claims : Value} {path accepted : List String}
    {field value : String} {u : Unit}
    (hvalue : optionalClaimString claims path = .ok value)
    (h : requireOneOf field value accepted = .ok u) (hne : accepted ≠ []) :
    PinnedTo claims path accepted := by
  have hcond := ensure_eq_ok.mp h
  rw [Bool.or_eq_true, List.isEmpty_iff, List.any_eq_true] at hcond
  obtain ⟨pin, hmem, hpin⟩ := hcond.resolve_left hne
  rw [Bool.and_eq_true, Bool.not_eq_true', isEmpty_eq_false_iff, safeEq_iff] at hpin
  obtain ⟨hpin, rfl⟩ := hpin
  exact ⟨value, hmem, hpin, pointer_of_optionalClaimString hvalue hpin⟩

/-- The reference tokens of the image digest claim. -/
def imageDigestPath : List String := ["submods", "container", "image_digest"]

/-- The reference tokens of the image reference claim. -/
def imageReferencePath : List String := ["submods", "container", "image_reference"]

/-! ## The checks of `verify_claims` -/

/-- The checks both modes make. -/
structure Accepted (claims : Value) (policy : AttestationPolicy) : Prop where
  /-- Without the escape hatch, `dbgstat` is the required text up to ASCII case. -/
  debugDisabled : policy.allowDebug = false →
    ∃ status, claims.get "dbgstat" = some (.string status) ∧
      toAsciiLowercase status = "disabled-since-boot"
  swname : claims.get "swname" = some (.string "CONFIDENTIAL_SPACE")
  secboot : claims.get "secboot" = some (.bool true)
  hwmodel : ∃ hardware ∈ ["GCP_AMD_SEV", "GCP_AMD_SEV_ES", "GCP_INTEL_TDX"],
    claims.get "hwmodel" = some (.string hardware)
  pinsImage : policy.pinsImageIdentity = true
  digestPinned : policy.acceptedImageDigests ≠ [] →
    PinnedTo claims imageDigestPath policy.acceptedImageDigests
  referencePinned : policy.acceptedImageReferences ≠ [] →
    PinnedTo claims imageReferencePath policy.acceptedImageReferences

/-- The checks of a live channel, against the nonces the token lists. -/
structure LiveChecked (sha256 : Bytes → Bytes) (claims : Value)
    (options : AttestationVerificationOptions) (r : GatewayAttestation) : Prop where
  binding : r.binding = bindingOf options
  nonce : ∀ nonce, options.nonceHex = some nonce → Lists (nonceClaim claims) nonce
  exporter : ∀ exporter, options.tlsExporter = some exporter →
    exporter.length = exporterLength ∧
      (∃ nonce, options.nonceHex = some nonce ∧ toAsciiLowercase nonce ≠ hex exporter) ∧
        ∃ value, Lists (nonceClaim claims) value ∧ toAsciiLowercase value = hex exporter
  /-- The reported hash stands in a labelled claim, or is the hash of the supplied
  certificate and one of the nonces. -/
  committed : labelledCert claims = some r.certSha256 ∨
    ∃ value, Lists (nonceClaim claims) value ∧ toAsciiLowercase value = r.certSha256
  certificate : ∀ certificate, options.tlsCertificateDer = some certificate →
    r.certSha256 = hex (sha256 certificate)
  pin : ∀ pin, options.policy.expectedCertSha256 = some pin → pin ≠ "" → r.certSha256 = pin

/-- The checks of a document: only `eat_nonce` itself can hold the nonce. -/
structure DocumentChecked (claims : Value) (options : AttestationVerificationOptions)
    (r : GatewayAttestation) : Prop where
  binding : r.binding = .none
  certSha256 : r.certSha256 = ""
  nonce : ∀ nonce, options.nonceHex = some nonce →
    ∃ eatNonce, claims.get "eat_nonce" = some eatNonce ∧
      ∃ value, Lists eatNonce value ∧ toAsciiLowercase value = toAsciiLowercase nonce

/-- A string claim that `and_then(Value::as_str)` reads is that string. -/
theorem get_of_bind_asStr {claims : Value} {name text : String}
    (h : (claims.get name).bind Value.asStr = some text) :
    claims.get name = some (.string text) := by
  obtain ⟨value, hget, hvalue⟩ := Option.bind_eq_some_iff.mp h
  rw [hget, Value.asStr_eq_some.mp hvalue]

/-- The first half of `verify_claims`, read backwards: what holds of a token that passes it, in
either mode. -/
theorem checkToken_ok {claims : Value} {options : AttestationVerificationOptions}
    {mode : AttestationBindingMode} {token : CheckedToken}
    (h : checkToken claims options mode = .ok token) :
    Accepted claims options.policy ∧ tokenNonces claims = .ok token.nonces ∧
      requireNonce claims token.nonces mode options.nonceHex = .ok () := by
  simp only [checkToken, bind_eq_ok, exists_unit, ensure_eq_ok, okOr_eq_ok] at h
  obtain ⟨hdebug, hswname, hsecboot, hhardware, digest, hdigest, reference, hreference,
    expiresAt, -, issuer, -, hpins, hdigestPin, hreferencePin, nonces, hnonces, hnonce,
    htoken⟩ := h
  cases htoken
  refine ⟨?_, hnonces, hnonce⟩
  refine
    { debugDisabled := ?_
      swname := get_of_bind_asStr (beq_iff_eq.mp hswname)
      secboot := ?_
      hwmodel := ?_
      pinsImage := hpins
      digestPinned := pinnedTo_of_requireOneOf hdigest hdigestPin
      referencePinned := pinnedTo_of_requireOneOf hreference hreferencePin }
  · intro hproduction
    rw [hproduction, Bool.false_or, Option.any_eq_true] at hdebug
    obtain ⟨status, hstatus, heq⟩ := hdebug
    exact ⟨status, get_of_bind_asStr hstatus, eqIgnoreAsciiCase_iff.mp heq⟩
  · obtain ⟨value, hget, hvalue⟩ := Option.bind_eq_some_iff.mp (beq_iff_eq.mp hsecboot)
    rw [hget, Value.asBool_eq_some.mp hvalue]
  · -- The default of an absent claim is the empty string, which is no supported model.
    cases hmodel : (claims.get "hwmodel").bind Value.asStr with
    | none => rw [hmodel] at hhardware; exact absurd hhardware (by decide)
    | some hardware =>
        rw [hmodel] at hhardware
        exact ⟨hardware, List.contains_iff_mem.mp hhardware, get_of_bind_asStr hmodel⟩

/-- A token that commits to a hash does so by a labelled claim or by a nonce. -/
theorem committedCert_eq_some {claims : Value} {nonces : List String}
    {actualCert : Option String} {cert : String} (hnonces : tokenNonces claims = .ok nonces)
    (h : committedCert claims nonces actualCert = some cert) :
    labelledCert claims = some cert ∨
      ∃ value, Lists (nonceClaim claims) value ∧ toAsciiLowercase value = cert := by
  unfold committedCert at h
  cases hlabelled : labelledCert claims with
  | some labelled =>
      rw [hlabelled] at h
      exact .inl h
  | none =>
      rw [hlabelled, Option.none_or] at h
      obtain ⟨actual, -, hactual⟩ := Option.bind_eq_some_iff.mp h
      split at hactual
      · rename_i hany
        cases hactual
        obtain ⟨value, hlists, heq⟩ := exists_lists_of_any hnonces hany
        exact .inr ⟨value, hlists, safeEq_iff.mp heq⟩
      · cases hactual

/-- The exporter check, read backwards: the length, a nonce of the caller that is not the exporter
itself, and an entry of the nonces that is. -/
theorem requireExporter_ok {claims : Value} {nonces : List String}
    {options : AttestationVerificationOptions} {u : Unit} {exporter : Bytes}
    (hnonces : tokenNonces claims = .ok nonces)
    (h : requireExporter nonces options = .ok u)
    (hexporter : options.tlsExporter = some exporter) :
    exporter.length = exporterLength ∧
      (∃ nonce, options.nonceHex = some nonce ∧ toAsciiLowercase nonce ≠ hex exporter) ∧
        ∃ value, Lists (nonceClaim claims) value ∧ toAsciiLowercase value = hex exporter := by
  simp only [requireExporter, hexporter, bind_eq_ok, exists_unit, okOr_eq_ok,
    ensure_eq_ok] at h
  obtain ⟨hlength, nonce, hnonce, hdiffers, hbound⟩ := h
  obtain ⟨value, hlists, heq⟩ := exists_lists_of_any hnonces hbound
  refine ⟨beq_iff_eq.mp hlength, ⟨nonce, hnonce, ?_⟩, value, hlists, safeEq_iff.mp heq⟩
  intro hsame
  rw [safeEq_iff.mpr hsame] at hdiffers
  cases hdiffers

/-- A pin that is not empty is the value it was compared with. -/
theorem requireEqual_ok {field actual pin : String} {expected : Option String} {u : Unit}
    (h : requireEqual field actual expected = .ok u) (hpin : expected = some pin)
    (hne : pin ≠ "") : actual = pin := by
  have hfilter : expected.filter (fun value => !isEmpty value) = some pin := by
    rw [hpin, Option.filter_some, isEmpty_eq_false_iff.mpr hne]
    rfl
  rw [requireEqual, hfilter] at h
  exact safeEq_iff.mp (ensure_eq_ok.mp h)

/-- The second half of `verify_claims`, read backwards. It returns the hash that the attestation
will report, so each check in it is about that hash. -/
theorem checkChannel_ok {sha256 : Bytes → Bytes} {claims : Value} {nonces : List String}
    {options : AttestationVerificationOptions} {cert : String}
    (hnonces : tokenNonces claims = .ok nonces)
    (h : checkChannel sha256 claims nonces options = .ok cert) :
    requireExporter nonces options = .ok () ∧
      (labelledCert claims = some cert ∨
        ∃ value, Lists (nonceClaim claims) value ∧ toAsciiLowercase value = cert) ∧
      (∀ certificate, options.tlsCertificateDer = some certificate →
        cert = hex (sha256 certificate)) ∧
      ∀ pin, options.policy.expectedCertSha256 = some pin → pin ≠ "" → cert = pin := by
  simp only [checkChannel, bind_eq_ok, exists_unit, ensure_eq_ok, okOr_eq_ok] at h
  obtain ⟨hexporter, committed, hcommitted, -, hmatches, hpin, hcert⟩ := h
  cases hcert
  refine ⟨hexporter, committedCert_eq_some hnonces hcommitted, ?_, ?_⟩
  · intro certificate hcertificate
    rw [hcertificate] at hmatches
    exact (safeEq_iff.mp hmatches).symm
  · intro pin hsome hne
    exact requireEqual_ok hpin hsome hne

/-- The nonce of a live channel stands in the claim as it was given. Unlike in a document, the
comparison is exact here. -/
theorem requireNonce_live_ok {claims : Value} {nonces : List String} {nonce : String}
    {u : Unit} (hnonces : tokenNonces claims = .ok nonces)
    (h : requireNonce claims nonces .liveChannel (some nonce) = .ok u) :
    Lists (nonceClaim claims) nonce := by
  simp only [requireNonce, pure_bind, ensure_eq_ok] at h
  obtain ⟨value, hlists, heq⟩ := exists_lists_of_any hnonces h
  rw [safeEq_iff.mp heq] at hlists
  exact hlists

/-- The nonce of a document stands in `eat_nonce`, up to ASCII case. -/
theorem requireNonce_document_ok {claims : Value} {nonces : List String} {nonce : String}
    {u : Unit} (h : requireNonce claims nonces .document (some nonce) = .ok u) :
    ∃ eatNonce, claims.get "eat_nonce" = some eatNonce ∧
      ∃ value, Lists eatNonce value ∧ toAsciiLowercase value = toAsciiLowercase nonce := by
  simp only [requireNonce, bind_eq_ok, ensure_eq_ok] at h
  obtain ⟨eatNonces, heatNonces, _, hpresent, hany⟩ := h
  cases hpresent
  cases heat : claims.get "eat_nonce" with
  | none =>
      -- An absent claim lists nothing, so the search above cannot have succeeded.
      rw [heat] at heatNonces
      cases heatNonces
      cases hany
  | some eatNonce =>
      rw [heat] at heatNonces
      obtain ⟨value, hlists, heq⟩ := exists_lists_of_any heatNonces hany
      exact ⟨eatNonce, rfl, value, hlists, safeEq_iff.mp heq⟩

/-- A token accepted in either mode has passed the common checks. -/
theorem accepted_of_verifyClaims {sha256 : Bytes → Bytes} {claims : Value}
    {options : AttestationVerificationOptions} {mode : AttestationBindingMode}
    {r : GatewayAttestation} (h : verifyClaims sha256 claims options mode = .ok r) :
    Accepted claims options.policy := by
  obtain ⟨token, htoken, -⟩ := bind_eq_ok.mp h
  exact (checkToken_ok htoken).1

/-- A token accepted on a live channel has passed the channel checks. -/
theorem liveChecked_of_verifyClaims {sha256 : Bytes → Bytes} {claims : Value}
    {options : AttestationVerificationOptions} {r : GatewayAttestation}
    (h : verifyClaims sha256 claims options .liveChannel = .ok r) :
    LiveChecked sha256 claims options r := by
  simp only [verifyClaims, bind_eq_ok] at h
  obtain ⟨token, htoken, cert, hchannel, _, hbound, hresult⟩ := h
  cases hbound
  cases hresult
  obtain ⟨-, hnonces, hnonce⟩ := checkToken_ok htoken
  obtain ⟨hexporter, hcommitted, hcertificate, hpin⟩ := checkChannel_ok hnonces hchannel
  exact
    { binding := rfl
      nonce := fun nonce hsome => requireNonce_live_ok hnonces (hsome ▸ hnonce)
      exporter := fun _ hsome => requireExporter_ok hnonces hexporter hsome
      committed := hcommitted
      certificate := hcertificate
      pin := hpin }

/-- A token accepted as a document binds nothing: the report says so, and its hash is empty. -/
theorem documentChecked_of_verifyClaims {sha256 : Bytes → Bytes} {claims : Value}
    {options : AttestationVerificationOptions} {r : GatewayAttestation}
    (h : verifyClaims sha256 claims options .document = .ok r) :
    DocumentChecked claims options r := by
  simp only [verifyClaims, bind_eq_ok] at h
  obtain ⟨token, htoken, _, hbound, hresult⟩ := h
  cases hbound
  cases hresult
  obtain ⟨-, -, hnonce⟩ := checkToken_ok htoken
  exact
    { binding := rfl
      certSha256 := rfl
      nonce := fun nonce hsome => requireNonce_document_ok (hsome ▸ hnonce) }

/-! ## Image identity -/

/-- An accepted token is pinned by its digest or by its reference. -/
theorem Accepted.identified {claims : Value} {policy : AttestationPolicy}
    (h : Accepted claims policy) :
    PinnedTo claims imageDigestPath policy.acceptedImageDigests ∨
      PinnedTo claims imageReferencePath policy.acceptedImageReferences := by
  rcases pinsImageIdentity_iff.mp h.pinsImage with ⟨value, hmem, -⟩ | ⟨value, hmem, -⟩
  · exact .inl (h.digestPinned (List.ne_nil_of_mem hmem))
  · exact .inr (h.referencePinned (List.ne_nil_of_mem hmem))

/-- What a release publishes for one image field: the transition set when it is not empty,
and the single value otherwise. -/
def published (single : String) (set : List String) : List String :=
  if set = [] then [single] else set

/-- The digests a release publishes. -/
def publishedDigests (release : TrustRelease) : List String :=
  published release.imageDigest release.acceptedImageDigests

/-- The references a release publishes. -/
def publishedReferences (release : TrustRelease) : List String :=
  published release.imageReference release.acceptedImageReferences

/-- The accepted set that `policy_from_trust_release` gives a field has the published values of
that field, empty ones apart. The set is filled from the single value when the release lists none,
and both spellings publish the same. -/
theorem mem_acceptedSet_iff_published {single value : String} {set : List String}
    (hne : value ≠ "") :
    value ∈ AttestationPolicy.acceptedSet (nonempty single)
        (if set.isEmpty then (nonempty single).toList else set) ↔
      value ∈ published single set := by
  cases set with
  | cons head tail => simp [AttestationPolicy.acceptedSet, published]
  | nil =>
      by_cases hsingle : single = ""
      · subst hsingle
        simp [AttestationPolicy.acceptedSet, published, nonempty, isEmpty, hne]
      · simp [AttestationPolicy.acceptedSet, published, nonempty, isEmpty, hsingle]

/-- A pin to the accepted set is a pin to a published value. -/
theorem PinnedTo.published {claims : Value} {path : List String} {single : String}
    {set : List String}
    (h : PinnedTo claims path (AttestationPolicy.acceptedSet (nonempty single)
      (if set.isEmpty then (nonempty single).toList else set))) :
    PinnedTo claims path (published single set) := by
  obtain ⟨value, hmem, hne, hclaim⟩ := h
  exact ⟨value, (mem_acceptedSet_iff_published hne).mp hmem, hne, hclaim⟩

/-- A policy built from a release is a production policy, and a pin it makes is a pin to a
value the release publishes. -/
theorem policyFromTrustRelease_ok {release : TrustRelease} {cert : Option String}
    {policy : AttestationPolicy} (h : policyFromTrustRelease release cert = .ok policy) :
    policy.allowDebug = false ∧
      (∀ claims path, PinnedTo claims path policy.acceptedImageDigests →
        PinnedTo claims path (publishedDigests release)) ∧
      ∀ claims path, PinnedTo claims path policy.acceptedImageReferences →
        PinnedTo claims path (publishedReferences release) := by
  simp only [policyFromTrustRelease, bind_eq_ok, exists_unit, ensure_eq_ok] at h
  obtain ⟨-, hpolicy⟩ := h
  cases hpolicy
  exact ⟨rfl, fun _ _ hpin => hpin.published, fun _ _ hpin => hpin.published⟩

/-- A release that publishes no value but the empty one gets no policy. -/
theorem policyFromTrustRelease_error {release : TrustRelease} {cert : Option String}
    (hdigests : ∀ value ∈ publishedDigests release, value = "")
    (hreferences : ∀ value ∈ publishedReferences release, value = "") :
    ∃ message, policyFromTrustRelease release cert = .error (.attestation message) := by
  cases h : policyFromTrustRelease release cert with
  | error error =>
      simp only [policyFromTrustRelease, bind_eq_error, ensure_eq_error] at h
      rcases h with ⟨-, rfl⟩ | ⟨_, -, hpure⟩
      · exact ⟨_, rfl⟩
      · cases hpure
  | ok policy =>
      simp only [policyFromTrustRelease, bind_eq_ok, exists_unit, ensure_eq_ok] at h
      obtain ⟨hpins, -⟩ := h
      rcases pinsImageIdentity_iff.mp hpins with ⟨value, hmem, hne⟩ | ⟨value, hmem, hne⟩
      · exact absurd (hdigests value ((mem_acceptedSet_iff_published hne).mp hmem)) hne
      · exact absurd (hreferences value ((mem_acceptedSet_iff_published hne).mp hmem)) hne

/-- Image identity is sound. An accepted token is pinned by a non-empty value of an
accepted set, and by every accepted set that is not empty. Its platform claims have the
required values. Under a policy built from a release the pinned value is one the release
publishes and the token is not a debug one. A release without a non-empty value gets no
policy. The debug state is compared without case, and so it is stated here. -/
theorem verifyClaims_image_identity (sha256 : Bytes → Bytes) (claims : Value)
    (options : AttestationVerificationOptions) (mode : AttestationBindingMode)
    (release : TrustRelease) (cert : Option String) :
    (∀ r, verifyClaims sha256 claims options mode = .ok r →
      Accepted claims options.policy ∧
        (PinnedTo claims imageDigestPath options.policy.acceptedImageDigests ∨
          PinnedTo claims imageReferencePath options.policy.acceptedImageReferences)) ∧
    (∀ r, policyFromTrustRelease release cert = .ok options.policy →
      verifyClaims sha256 claims options mode = .ok r →
        (PinnedTo claims imageDigestPath (publishedDigests release) ∨
          PinnedTo claims imageReferencePath (publishedReferences release)) ∧
        ∃ status, claims.get "dbgstat" = some (.string status) ∧
          toAsciiLowercase status = "disabled-since-boot") ∧
    ((∀ value ∈ publishedDigests release, value = "") →
      (∀ value ∈ publishedReferences release, value = "") →
        ∃ message, policyFromTrustRelease release cert = .error (.attestation message)) := by
  refine ⟨?_, ?_, policyFromTrustRelease_error⟩
  · intro r h
    have haccepted := accepted_of_verifyClaims h
    exact ⟨haccepted, haccepted.identified⟩
  · -- The policy of a release accepts what the release publishes, and nothing else.
    intro r hrelease h
    have haccepted := accepted_of_verifyClaims h
    obtain ⟨hproduction, hdigests, hreferences⟩ := policyFromTrustRelease_ok hrelease
    refine ⟨?_, haccepted.debugDisabled hproduction⟩
    exact haccepted.identified.imp (hdigests claims _) (hreferences claims _)

/-- A production token of one image with the given debug state and nonces. -/
def sampleClaims (dbgstat : String) (nonces : List String) : Value :=
  .object
    [ ("dbgstat", .string dbgstat),
      ("eat_nonce", .array (nonces.map .string)),
      ("exp", .number (.posInt 1756227600)),
      ("hwmodel", .string "GCP_AMD_SEV"),
      ("iss", .string gcpIssuer),
      ("secboot", .bool true),
      ("submods", .object [("container", .object [("image_digest", .string "sha256:ab")])]),
      ("swname", .string "CONFIDENTIAL_SPACE") ]

/-- A release that publishes the digest of `sampleClaims`. -/
def sampleRelease : TrustRelease := { imageDigest := "sha256:ab" }

/-- The policy that `policyFromTrustRelease` builds from `sampleRelease`. -/
def samplePolicy : AttestationPolicy :=
  { expectedImageDigest := some "sha256:ab", expectedImageDigests := ["sha256:ab"] }

/-- The policy of `sampleRelease` accepts the token of its image, and a release with empty
strings only is refused. -/
theorem verifyClaims_image_identity_sample :
    (PinnedTo (sampleClaims "disabled-since-boot" []) imageDigestPath ["sha256:ab"] ∨
      PinnedTo (sampleClaims "disabled-since-boot" []) imageReferencePath [""]) ∧
    ∃ message, policyFromTrustRelease { acceptedImageDigests := ["", ""] } none =
      .error (.attestation message) := by
  refine ⟨?_, ?_⟩
  · exact ((verifyClaims_image_identity (fun _ => []) (sampleClaims "disabled-since-boot" [])
      { policy := samplePolicy } .document sampleRelease none).2.1 _ rfl rfl).1
  · exact (verifyClaims_image_identity (fun _ => []) .null { policy := samplePolicy }
      .document { acceptedImageDigests := ["", ""] } none).2.2 (by decide) (by decide)

/-- A production policy accepts a token whose debug state is not the exact text
`disabled-since-boot`, only the same text in another case. -/
theorem verifyClaims_accepts_uppercase_dbgstat :
    ¬ ∀ (sha256 : Bytes → Bytes) (claims : Value) (options : AttestationVerificationOptions)
        (mode : AttestationBindingMode) (r : GatewayAttestation),
        verifyClaims sha256 claims options mode = .ok r → options.policy.allowDebug = false →
          claims.get "dbgstat" = some (.string "disabled-since-boot") := by
  intro hexact
  have h := hexact (fun _ => []) (sampleClaims "DISABLED-SINCE-BOOT" [])
    { policy := samplePolicy } .document _ rfl rfl
  simp [sampleClaims, Value.get, Value.asObject, Serde.Map.get] at h

/-! ## Connection binding -/

/-- The token commits to a certificate hash by a labelled claim, up to ASCII case. -/
def CommitsByLabel (claims : Value) (cert : String) : Prop :=
  ∃ label ∈ ["tls_cert_sha256", "workload_tls_cert_sha256"], ∃ value,
    claims.get label = some (.string value) ∧ toAsciiLowercase value = cert

/-- The token commits to a hash by an entry of its nonces, up to ASCII case. -/
def CommitsByNonce (claims : Value) (hash : String) : Prop :=
  ∃ value, Lists (nonceClaim claims) value ∧ toAsciiLowercase value = hash

/-- The hash that `verify_claims` reads from a labelled claim stands in one of the two claims with a
label. -/
theorem commitsByLabel_of_labelledCert {claims : Value} {cert : String}
    (h : labelledCert claims = some cert) : CommitsByLabel claims cert := by
  obtain ⟨value, hvalue, rfl⟩ := Option.map_eq_some_iff.mp h
  obtain ⟨claim, hclaim, htext⟩ := Option.bind_eq_some_iff.mp hvalue
  rw [Value.asStr_eq_some.mp htext] at hclaim
  rcases Option.or_eq_some_iff.mp hclaim with hfirst | ⟨-, hsecond⟩
  · exact ⟨_, List.mem_cons_self, value, hfirst, rfl⟩
  · exact ⟨_, List.mem_cons_of_mem _ List.mem_cons_self, value, hsecond, rfl⟩

/-- What `TlsExporter` reports. -/
def ExporterBound (claims : Value) (options : AttestationVerificationOptions) : Prop :=
  ∃ exporter nonce, options.tlsExporter = some exporter ∧ exporter.length = exporterLength ∧
    options.nonceHex = some nonce ∧ Lists (nonceClaim claims) nonce ∧
      CommitsByNonce claims (hex exporter) ∧
        toAsciiLowercase nonce ≠ toAsciiLowercase (hex exporter)

/-- What `TlsCert` reports. -/
def CertBound (sha256 : Bytes → Bytes) (claims : Value)
    (options : AttestationVerificationOptions) (r : GatewayAttestation) : Prop :=
  ∃ certificate, options.tlsCertificateDer = some certificate ∧ options.tlsExporter = none ∧
    r.certSha256 = hex (sha256 certificate) ∧
      (CommitsByLabel claims r.certSha256 ∨ CommitsByNonce claims r.certSha256)

/-- `TlsExporter` is reported exactly when an exporter was supplied, whatever else was. -/
theorem bindingOf_eq_tlsExporter {options : AttestationVerificationOptions} :
    bindingOf options = .tlsExporter ↔ ∃ exporter, options.tlsExporter = some exporter := by
  rw [bindingOf, ← Option.isSome_iff_exists]
  split
  · simp [*]
  · split <;> simp [*]

/-- `TlsCert` is reported exactly when a certificate and no exporter was supplied. -/
theorem bindingOf_eq_tlsCert {options : AttestationVerificationOptions} :
    bindingOf options = .tlsCert ↔
      options.tlsExporter = none ∧
        ∃ certificate, options.tlsCertificateDer = some certificate := by
  rw [bindingOf, ← Option.isSome_iff_exists, ← Option.not_isSome_iff_eq_none]
  split
  · simp [*]
  · split <;> simp [*]

/-- A live check that reports `TlsExporter` has checked the exporter. -/
theorem LiveChecked.exporterBound {sha256 : Bytes → Bytes} {claims : Value}
    {options : AttestationVerificationOptions} {r : GatewayAttestation}
    (h : LiveChecked sha256 claims options r) (hbinding : r.binding = .tlsExporter) :
    ExporterBound claims options := by
  obtain ⟨exporter, hexporter⟩ := bindingOf_eq_tlsExporter.mp (h.binding.symm.trans hbinding)
  obtain ⟨hlength, ⟨nonce, hnonce, hdiffers⟩, hcommits⟩ := h.exporter exporter hexporter
  rw [← toAsciiLowercase_hex exporter] at hdiffers
  exact ⟨exporter, nonce, hexporter, hlength, hnonce, h.nonce nonce hnonce, hcommits,
    hdiffers⟩

/-- A live check that reports `TlsCert` has compared the certificate that was supplied, and there
was no exporter to report in its place. -/
theorem LiveChecked.certBound {sha256 : Bytes → Bytes} {claims : Value}
    {options : AttestationVerificationOptions} {r : GatewayAttestation}
    (h : LiveChecked sha256 claims options r) (hbinding : r.binding = .tlsCert) :
    CertBound sha256 claims options r := by
  obtain ⟨hexporter, certificate, hcertificate⟩ :=
    bindingOf_eq_tlsCert.mp (h.binding.symm.trans hbinding)
  refine ⟨certificate, hcertificate, hexporter, h.certificate certificate hcertificate, ?_⟩
  exact h.committed.imp commitsByLabel_of_labelledCert id

/-- A reported binding is never stronger than what was checked. On a live channel each
level reports its own evidence, and a supplied certificate and a pin always equal the
reported hash. A document binds nothing, and its nonce stands in `eat_nonce` itself. -/
theorem verifyClaims_binding_sound {sha256 : Bytes → Bytes} {claims : Value}
    {options : AttestationVerificationOptions} {mode : AttestationBindingMode}
    {r : GatewayAttestation} (h : verifyClaims sha256 claims options mode = .ok r) :
    (mode = .liveChannel →
      (r.binding = .tlsExporter → ExporterBound claims options) ∧
      (r.binding = .tlsCert → CertBound sha256 claims options r) ∧
      (∀ certificate, options.tlsCertificateDer = some certificate →
        r.certSha256 = hex (sha256 certificate)) ∧
      ∀ pin, options.policy.expectedCertSha256 = some pin → pin ≠ "" → r.certSha256 = pin) ∧
    (mode = .document →
      r.binding = .none ∧ r.certSha256 = "" ∧
      ∀ nonce, options.nonceHex = some nonce →
        ∃ eatNonce, claims.get "eat_nonce" = some eatNonce ∧
          ∃ value, Lists eatNonce value ∧
            toAsciiLowercase value = toAsciiLowercase nonce) := by
  refine ⟨?_, ?_⟩
  · -- A live channel reports its own evidence.
    rintro rfl
    have hlive := liveChecked_of_verifyClaims h
    exact ⟨hlive.exporterBound, hlive.certBound, hlive.certificate, hlive.pin⟩
  · rintro rfl
    have hdocument := documentChecked_of_verifyClaims h
    exact ⟨hdocument.binding, hdocument.certSha256, hdocument.nonce⟩

/-- The SHA-256 of the empty byte string. -/
def sha256Empty : Bytes :=
  [ 0xe3, 0xb0, 0xc4, 0x42, 0x98, 0xfc, 0x1c, 0x14, 0x9a, 0xfb, 0xf4, 0xc8, 0x99, 0x6f,
    0xb9, 0x24, 0x27, 0xae, 0x41, 0xe4, 0x64, 0x9b, 0x93, 0x4c, 0xa4, 0x95, 0x99, 0x1b,
    0x78, 0x52, 0xb8, 0x55 ]

/-- A live channel with a nonce, an exporter and a certificate. -/
def sampleChannel : AttestationVerificationOptions :=
  { policy := samplePolicy
    nonceHex := some "00112233445566778899aabbccddeeff"
    tlsCertificateDer := some []
    tlsExporter := some (List.replicate 32 7) }

/-- `verify_claims` accepts the channel on a token that lists all three values, and the
exporter is then bound. -/
theorem verifyClaims_binding_sound_sample :
    let claims := sampleClaims "disabled-since-boot"
      ["00112233445566778899aabbccddeeff", hex (List.replicate 32 7), hex sha256Empty]
    ExporterBound claims sampleChannel := by
  have h : ∃ r, verifyClaims (fun _ => sha256Empty) (sampleClaims "disabled-since-boot"
      ["00112233445566778899aabbccddeeff", hex (List.replicate 32 7), hex sha256Empty])
      sampleChannel .liveChannel = .ok r ∧ r.binding = .tlsExporter := ⟨_, rfl, rfl⟩
  obtain ⟨r, hok, hbinding⟩ := h
  exact ((verifyClaims_binding_sound hok).1 rfl).1 hbinding

end TrustedRouter.Proofs.Attestation
