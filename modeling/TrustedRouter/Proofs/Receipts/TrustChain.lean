import TrustedRouter.Proofs.Attestation
import TrustedRouter.Proofs.Receipts.AgeAndPin
import TrustedRouter.Receipts.Online

/-!
# `TrustedRouter.Proofs.Receipts.TrustChain`: what a verified receipt rests on

`verify_receipt` follows a chain of three links. The receipt is signed by the key in its header.
A Google-signed token commits to that key. The token names an image that the trust release
publishes. `verifyReceipt_trust_chain` is the whole chain, from the two fixed URLs to the
payload. `AttestedKey` is the part between the key and the URLs.

The network has no other way in. `verifyReceipt_steered` says when two networks can make a
difference: they answer differently at one of the two fixed URLs, and everything in the receipt
that needs no network has been checked before either of them is asked.
-/

set_option autoImplicit false

namespace TrustedRouter.Proofs.Receipts

open TrustedRouter.Receipts
open TrustedRouter.Proofs.Attestation
open Rust (Bytes)
open Rust.Str
open Rust.Result
open Serde (Value)
open TrustedRouter.Attestation (TrustRelease JwtLibrary AttestationVerificationOptions
  AttestationPolicy policyFromTrustRelease verifyReceiptKeyAttestation verifiedJwtClaims
  findJwk gcpJwksUrl gcpIssuer)

variable {decoders : Decoders} {network : Network} {lib : Library}

/-! ## The two documents that are fetched -/

/-- The network answers a URL with a success status and a body that decodes to `value`. -/
def Serves {α : Type} (network : Network) (url : String) (parse : Bytes → Except String α)
    (value : α) : Prop :=
  ∃ reply, network.get url = .ok reply ∧ reply.isSuccess = true ∧ reply.json parse = .ok value

/-- A key set is returned when it is served, with a success status. -/
theorem fetchJwks_eq_ok {url : String} {jwks : Value} :
    fetchJwks decoders network url = .ok jwks ↔ Serves network url decoders.readJson jwks := by
  simp only [fetchJwks, bind_eq_ok, exists_unit, ensure_eq_ok, mapErr_eq_ok, Serves]

/-- So is a release. -/
theorem fetchTrustRelease_eq_ok {url : String} {release : TrustRelease} :
    fetchTrustRelease decoders network url = .ok release ↔
      Serves network url decoders.readRelease release := by
  simp only [fetchTrustRelease, bind_eq_ok, exists_unit, ensure_eq_ok, mapErr_eq_ok, Serves]

/-- The audience of the policy that a release gives. -/
def releaseAudience (release : TrustRelease) : String :=
  if isEmpty release.attestationAudience then "quill-cloud" else release.attestationAudience

/-- An RSA key of the fetched set accepts the document as a token of Google's for an audience,
and `token` is what it says. -/
def GoogleSigned (decoders : Decoders) (network : Network) (document : Bytes)
    (audience : String) (token : Value) : Prop :=
  ∃ text header kid jwks key modulus exponent decodingKey,
    fromUtf8 document = some text ∧
      decoders.jwt.decodeHeader (trim text) = .ok header ∧
      header.alg = .rs256 ∧ header.kid = some kid ∧
      Serves network gcpJwksUrl decoders.readJson jwks ∧ findJwk jwks kid = some key ∧
      key.get "kty" = some (.string "RSA") ∧ key.get "n" = some (.string modulus) ∧
      key.get "e" = some (.string exponent) ∧
      decoders.jwt.fromRsaComponents modulus exponent = .ok decodingKey ∧
      decoders.jwt.decode (trim text) decodingKey gcpIssuer audience = .ok token

/-- A token is returned only when a key of the fetched set accepts it. `hjwks` and `hurl` say that
the set is fetched from Google and not handed in. -/
theorem googleSigned_of_verifiedJwtClaims {document : Bytes}
    {options : AttestationVerificationOptions} {token : Value}
    (hjwks : options.jwks = none) (hurl : options.jwksUrl = some gcpJwksUrl)
    (h : verifiedJwtClaims (onlineJwt decoders network) document options = .ok token) :
    GoogleSigned decoders network document options.policy.audience token := by
  simp only [verifiedJwtClaims, hjwks, hurl, bind_eq_ok, exists_unit, ensure_eq_ok, okOr_eq_ok,
    mapErr_eq_ok, beq_iff_eq, Option.getD_some] at h
  obtain ⟨text, htext, -, header, hheader, halg, kid, hkid, jwks, hfetch, key, hkey, hkty,
    modulus, hmodulus, exponent, hexponent, decodingKey, hcomponents, hdecode⟩ := h
  exact ⟨text, header, kid, jwks, key, modulus, exponent, decodingKey, htext, hheader, halg,
    hkid, fetchJwks_eq_ok.mp hfetch, hkey, get_of_bind_asStr hkty, get_of_bind_asStr hmodulus,
    get_of_bind_asStr hexponent, hcomponents, hdecode⟩

/-! ## The attested key -/

/-- A document attests a receipt key: the release that is served at its fixed URL publishes the
image, and a token of Google's for that image lists the commitment to the key. -/
structure AttestedKey (decoders : Decoders) (network : Network) (lib : Library)
    (publicKey : Array32) (document : Bytes) (release : TrustRelease) (token : Value) :
    Prop where
  served : Serves network defaultTrustReleaseUrl decoders.readRelease release
  signed : GoogleSigned decoders network document (releaseAudience release) token
  production : ∃ status, token.get "dbgstat" = some (.string status) ∧
    toAsciiLowercase status = "disabled-since-boot"
  swname : token.get "swname" = some (.string "CONFIDENTIAL_SPACE")
  secboot : token.get "secboot" = some (.bool true)
  hwmodel : ∃ hardware ∈ ["GCP_AMD_SEV", "GCP_AMD_SEV_ES", "GCP_INTEL_TDX"],
    token.get "hwmodel" = some (.string hardware)
  image : PinnedTo token imageDigestPath (publishedDigests release) ∨
    PinnedTo token imageReferencePath (publishedReferences release)
  commits : ∃ eatNonce value, token.get "eat_nonce" = some eatNonce ∧ Lists eatNonce value ∧
    toAsciiLowercase value =
      hex (lib.sha256 (bytes "inference-receipt-key-v1\x00" ++ publicKey.toBytes)).toBytes

/-- The audience of a policy is that of its release, or the default when the release has none. -/
theorem policyFromTrustRelease_audience {release : TrustRelease} {cert : Option String}
    {policy : AttestationPolicy} (h : policyFromTrustRelease release cert = .ok policy) :
    policy.audience = releaseAudience release := by
  simp only [policyFromTrustRelease, bind_eq_ok, exists_unit, ensure_eq_ok] at h
  obtain ⟨-, hpolicy⟩ := h
  cases hpolicy
  rfl

/-- The shipped check of a document accepts only one that attests the key. -/
theorem attestedKey_of_verifyGcpAttestation {publicKey : Array32} {document : Bytes}
    (h : verifyGcpAttestation decoders network lib document (keyCommitment lib publicKey) =
      .ok ()) :
    ∃ release token, AttestedKey decoders network lib publicKey document release token := by
  simp only [verifyGcpAttestation, receiptVerificationMaterialUrls, verifyReceiptKeyAttestation,
    bind_eq_ok, exists_unit, ensure_eq_ok, mapErr_eq_ok] at h
  obtain ⟨-, release, hrelease, policy, hpolicy, -, token, htoken, verified, hverified, -⟩ := h
  have hsigned := googleSigned_of_verifiedJwtClaims rfl rfl htoken
  rw [policyFromTrustRelease_audience hpolicy] at hsigned
  -- A policy built from a release is a production policy over published values.
  obtain ⟨hproduction, hdigests, hreferences⟩ := policyFromTrustRelease_ok hpolicy
  have haccepted := accepted_of_verifyClaims hverified
  have hdocument := documentChecked_of_verifyClaims hverified
  obtain ⟨eatNonce, heat, value, hlists, hvalue⟩ := hdocument.nonce _ rfl
  rw [toAsciiLowercase_hex] at hvalue
  exact ⟨release, token,
    { served := fetchTrustRelease_eq_ok.mp hrelease
      signed := hsigned
      production := haccepted.debugDisabled hproduction
      swname := haccepted.swname
      secboot := haccepted.secboot
      hwmodel := haccepted.hwmodel
      image := haccepted.identified.imp (hdigests token _) (hreferences token _)
      commits := ⟨eatNonce, value, heat, hlists, hvalue⟩ }⟩

/-! ## From the receipt to the document -/

/-- Where the document of a receipt comes from: the signed header of a flattened receipt, or the
caller of a compact one, who is held to the digest in the signed claims. -/
def DocumentOf (lib : Library) (options : ReceiptVerificationOptions) (envelope : JwsEnvelope)
    (header : ParsedHeader) (pin : Option String) (document : Bytes) : Prop :=
  (envelope.flattened = true ∧
    ∃ att, header.value.get "att" = some (.string att) ∧ document = bytes att) ∨
  (envelope.flattened = false ∧ options.attestation = some document ∧
    ∃ encoded, pin = some encoded ∧
      lib.decode encoded = some (lib.sha256 document).toBytes)

/-- The status `Verified` stands for a document of the receipt that the check accepted. -/
theorem Attests.documentOf {options : ReceiptVerificationOptions} {verifyGcp : VerifyGcp}
    {envelope : JwsEnvelope} {header : ParsedHeader} {pin : Option String}
    (h : Attests lib options verifyGcp envelope header pin .verified) :
    ∃ document, DocumentOf lib options envelope header pin document ∧
      verifyGcp document (keyCommitment lib header.publicKey) = .ok () := by
  cases h with
  | embedded hflattened _ hatt _ _ haccepted =>
      exact ⟨_, .inl ⟨hflattened, _, hatt, rfl⟩, haccepted⟩
  | pinned hcompact hsupplied hpin hdigest haccepted =>
      exact ⟨_, .inr ⟨hcompact, hsupplied, _, hpin, hdigest⟩, haccepted⟩

/-- A receipt with the status `Verified` is signed by the key of its header, and a document of
it was accepted with the commitment to that key. -/
theorem verified_document {receipt : Bytes} {expectedIssuer : String}
    {options : ReceiptVerificationOptions} {verifyGcp : VerifyGcp} {claims : ReceiptClaims}
    (h : verifyReceiptWith lib receipt expectedIssuer options verifyGcp = .ok claims)
    (hstatus : claims.attestationStatus = .verified) :
    ∃ envelope header payload document,
      Opens lib receipt envelope ∧ Identifies lib envelope header ∧
        Signs lib envelope header.publicKey payload ∧
        DocumentOf lib options envelope header claims.attSha256 document ∧
        verifyGcp document (keyCommitment lib header.publicKey) = .ok () := by
  obtain ⟨origin, envelope, header, payload, members, hpasses⟩ := verifyReceiptWith_eq_ok.mp h
  have hattests := attestationStatus_attests hpasses.status
  rw [hstatus] at hattests
  obtain ⟨document, hdocument, haccepted⟩ := hattests.documentOf
  exact ⟨envelope, header, payload, document, (parseEnvelope_opens hpasses.opens).1,
    parseHeader_identifies hpasses.identifies, verifySignature_signs hpasses.signs, hdocument,
    haccepted⟩

/-- The chain behind a verified receipt. The payload is signed by the key of the header. A
document of the receipt attests that key: a token signed by a key of Google's set, for a
production workload whose image the trust release publishes, lists the commitment to it. Release
and key set are the ones served at their fixed URLs. -/
theorem verifyReceipt_trust_chain {receipt : Bytes} {expectedIssuer : String}
    {options : ReceiptVerificationOptions} {claims : ReceiptClaims}
    (h : verifyReceipt decoders network lib receipt expectedIssuer options = .ok claims)
    (hstatus : claims.attestationStatus = .verified) :
    ∃ envelope header payload document release token,
      Opens lib receipt envelope ∧ Identifies lib envelope header ∧
        Signs lib envelope header.publicKey payload ∧
        DocumentOf lib options envelope header claims.attSha256 document ∧
        AttestedKey decoders network lib header.publicKey document release token := by
  obtain ⟨envelope, header, payload, document, hopens, hidentifies, hsigns, hdocument,
    haccepted⟩ := verified_document h hstatus
  obtain ⟨release, token, hattested⟩ := attestedKey_of_verifyGcpAttestation haccepted
  exact ⟨envelope, header, payload, document, release, token, hopens, hidentifies, hsigns,
    hdocument, hattested⟩

/-! ## A chain -/

/-- A token for the key of a flattened receipt, under the release of one image. -/
def chainToken : Value :=
  sampleClaims "disabled-since-boot" [hex (digestOf agedCommitment).toBytes]

/-- The trust release of the chain, as it is served. -/
def releaseJson : String := "\x7b\"image_digest\":\"sha256:ab\"\x7d"

/-- The key set of the chain, as it is served. -/
def jwksJson : String :=
  "\x7b\"keys\":[\x7b\"e\":\"AQAB\",\"kid\":\"k\",\"kty\":\"RSA\",\"n\":\"AA\"\x7d]\x7d"

/-- The crates on the documents of this chain. Each of them knows its own document, and refuses
every other one. -/
def chainDecoders : Decoders where
  jwt :=
    { utf8Error := fun _ => "invalid utf-8 sequence"
      DecodingKey := Unit
      decodeHeader := fun token =>
        if token = "fake.jwt.token" then .ok { alg := .rs256, kid := some "k" }
        else .error "InvalidToken"
      fromRsaComponents := fun modulus exponent =>
        if modulus = "AA" ∧ exponent = "AQAB" then .ok () else .error "InvalidRsaKey"
      decode := fun token _ issuer audience =>
        if token = "fake.jwt.token" ∧ issuer = gcpIssuer ∧ audience = "quill-cloud" then
          .ok chainToken
        else .error "InvalidToken"
      fetchJwks := fun _ => .error (.attestation "not used") }
  displayStatus := toString
  readJson := fun body =>
    if body = bytes jwksJson then
      .ok (.object [("keys", .array [.object [("e", .string "AQAB"), ("kid", .string "k"),
        ("kty", .string "RSA"), ("n", .string "AA")]])])
    else .error "expected value at line 1 column 1"
  readRelease := fun body =>
    if body = bytes releaseJson then .ok sampleRelease
    else .error "expected value at line 1 column 1"

/-- A network that serves the release at the one URL and the key set at the other. -/
def chainNetwork : Network where
  build := .ok ()
  get := fun url =>
    if url = defaultTrustReleaseUrl then .ok { status := 200, body := .ok (bytes releaseJson) }
    else if url = gcpJwksUrl then .ok { status := 200, body := .ok (bytes jwksJson) }
    else .error "not found"

/-- The document of the chain is accepted, by evaluation. -/
theorem verifyGcpAttestation_chain :
    verifyGcpAttestation chainDecoders chainNetwork agedLibrary (bytes "fake.jwt.token")
      (digestOf agedCommitment) = .ok () := by
  rfl

/-- A status stays when the check of documents accepts no less: the check is made at one place,
and nothing else depends on it. -/
theorem attestationStatus_mono {envelope : JwsEnvelope} {header : ParsedHeader}
    {supplied : Option Bytes} {pin : Option String} {require : Bool}
    {status : ReceiptAttestationStatus} {f g : Bytes → ReceiptResult Unit}
    (hfg : ∀ document, f document = .ok () → g document = .ok ())
    (h : attestationStatus lib envelope header supplied pin require f = .ok status) :
    attestationStatus lib envelope header supplied pin require g = .ok status := by
  unfold attestationStatus at h ⊢
  split at h
  · rename_i hflattened
    rw [if_pos hflattened]
    simp only [flattenedStatus, bind_eq_ok, exists_unit] at h ⊢
    obtain ⟨hkind, document, hdocument, hsupplied, haccepted, hresult⟩ := h
    exact ⟨hkind, document, hdocument, hsupplied, hfg _ haccepted, hresult⟩
  · rename_i hcompact
    rw [if_neg hcompact]
    cases supplied with
    | none => exact h
    | some document =>
        simp only [compactStatus, bind_eq_ok, exists_unit] at h ⊢
        obtain ⟨encoded, hpin, digest, hdigest, hequal, haccepted, hresult⟩ := h
        exact ⟨encoded, hpin, digest, hdigest, hequal, hfg _ haccepted, hresult⟩

/-- The commitment to the key of the flattened receipt. -/
theorem keyCommitment_aged : keyCommitment agedLibrary agedKey = digestOf agedCommitment := by
  have hlength : (keyCommitmentDomain ++ agedKey.toBytes).length = 57 := by
    rw [List.length_append, agedKey.length_toBytes]
    decide
  have hattestation : keyCommitmentDomain ++ agedKey.toBytes ≠ bytes "attestation" :=
    ne_of_len_ne (by rw [hlength]; decide)
  have htoken : keyCommitmentDomain ++ agedKey.toBytes ≠ bytes "fake.jwt.token" :=
    ne_of_len_ne (by rw [hlength]; decide)
  simp only [keyCommitment, agedLibrary, agedLibraryOf, if_neg hattestation, if_neg htoken,
    hlength, Nat.reduceEqDiff, if_false]

/-- The flattened receipt verifies on this network. -/
theorem verifyReceipt_chain :
    verifyReceipt chainDecoders chainNetwork agedLibrary (agedReceipt true)
      "https://api.trustedrouter.com" (agedOptions true) = .ok agedClaims := by
  obtain ⟨origin, envelope, header, payload, members, hpasses⟩ :=
    verifyReceiptWith_eq_ok.mp (verifyReceiptWith_aged true)
  obtain rfl := Except.ok.inj ((parseEnvelope_aged true).symm.trans hpasses.opens)
  obtain rfl := Except.ok.inj ((parseHeader_aged true).symm.trans hpasses.identifies)
  refine verifyReceiptWith_eq_ok.mpr ⟨origin, _, _, payload, members,
    { hpasses with status := attestationStatus_mono ?_ hpasses.status }⟩
  intro document haccepted
  have hdocument : document = bytes (agedDocument true) := by
    by_contra hother
    simp only [agedVerifier, if_neg hother] at haccepted
    cases haccepted
  rw [hdocument, keyCommitment_aged]
  exact verifyGcpAttestation_chain

/-- All links of the chain hold of the flattened receipt. -/
theorem verifyReceipt_trust_chain_aged :
    ∃ envelope header payload document release token,
      Opens agedLibrary (agedReceipt true) envelope ∧ Identifies agedLibrary envelope header ∧
        Signs agedLibrary envelope header.publicKey payload ∧
        DocumentOf agedLibrary (agedOptions true) envelope header agedClaims.attSha256 document ∧
        AttestedKey chainDecoders chainNetwork agedLibrary header.publicKey document release
          token :=
  verifyReceipt_trust_chain verifyReceipt_chain rfl

/-! ## What the network can change -/

/-- A verifier of documents that accepts every one. -/
def acceptAll : VerifyGcp := fun _ _ => .ok ()

/-- Two checks of documents give different statuses only when they differ on a document. -/
theorem attestationStatus_ne {envelope : JwsEnvelope} {header : ParsedHeader}
    {supplied : Option Bytes} {pin : Option String} {require : Bool}
    {f g : Bytes → ReceiptResult Unit}
    (h : ¬ attestationStatus lib envelope header supplied pin require f =
      attestationStatus lib envelope header supplied pin require g) :
    (∃ document, f document ≠ g document) ∧
      attestationStatus lib envelope header supplied pin require (fun _ => .ok ()) =
        .ok .verified := by
  unfold attestationStatus at h ⊢
  split at h
  · rename_i hflattened
    rw [if_pos hflattened]
    -- The two runs differ only in the call of the verifier, so all checks before it passed.
    simp only [flattenedStatus, bind_ne_bind, exists_unit, ensure_eq_ok, okOr_eq_ok] at h
    obtain ⟨hkind, document, hdocument, hsupplied, hne⟩ := h
    refine ⟨⟨bytes document, fun hsame => hne (by rw [hsame])⟩, ?_⟩
    simp only [flattenedStatus, bind_eq_ok, exists_unit, ensure_eq_ok, okOr_eq_ok]
    exact ⟨hkind, document, hdocument, hsupplied, trivial, rfl⟩
  · rename_i hcompact
    rw [if_neg hcompact]
    cases supplied with
    -- Without a document the verifier is not called.
    | none => exact absurd rfl h
    | some document =>
        simp only [compactStatus, bind_ne_bind, exists_unit, ensure_eq_ok, okOr_eq_ok] at h
        obtain ⟨encoded, hpin, digest, hdigest, hequal, hne⟩ := h
        refine ⟨⟨document, fun hsame => hne (by rw [hsame])⟩, ?_⟩
        simp only [compactStatus, bind_eq_ok, exists_unit, ensure_eq_ok, okOr_eq_ok]
        exact ⟨encoded, hpin, digest, hdigest, hequal, trivial, rfl⟩

/-- Two checks of documents give different verdicts on a receipt only when they differ on a
document, and when the receipt passes everything else. -/
theorem verifyReceiptWith_ne {receipt : Bytes} {expectedIssuer : String}
    {options : ReceiptVerificationOptions} {f g : VerifyGcp}
    (h : ¬ verifyReceiptWith lib receipt expectedIssuer options f =
      verifyReceiptWith lib receipt expectedIssuer options g) :
    (∃ document commitment, f document commitment ≠ g document commitment) ∧
      ∃ claims, verifyReceiptWith lib receipt expectedIssuer options acceptAll = .ok claims ∧
        claims.attestationStatus = .verified := by
  simp only [verifyReceiptWith, bind_ne_bind, exists_unit] at h
  obtain ⟨hbindings, origin, horigin, envelope, henvelope, header, hheader, payload, hpayload,
    value, hvalue, members, hmembers, rv, hrv, iss, hiss, iat, hiat, htime, jti, hjti, gen, hgen,
    route, hroute, model, hmodel, pin, hpin, nonce, hnonce, upstream, hupstream, req, hreq, resp,
    hresp, hne⟩ := h
  -- The last link of the chain is the same on both sides, so the statuses themselves differ.
  obtain ⟨⟨document, hdocument⟩, hverified⟩ :=
    attestationStatus_ne fun hsame => hne (by rw [hsame])
  refine ⟨⟨document, _, hdocument⟩,
    { rv, iss, iat, jti, gen, nonce, route, req, resp, model, upstream, attSha256 := pin
      attestationStatus := .verified }, ?_, rfl⟩
  simp only [verifyReceiptWith, bind_eq_ok, exists_unit]
  exact ⟨hbindings, origin, horigin, envelope, henvelope, header, hheader, payload, hpayload,
    value, hvalue, members, hmembers, rv, hrv, iss, hiss, iat, hiat, htime, jti, hjti, gen, hgen,
    route, hroute, model, hmodel, pin, hpin, nonce, hnonce, upstream, hupstream, req, hreq, resp,
    hresp, .verified, hverified, rfl⟩

/-- What the verifier can see of a network: whether the HTTP client could be built, and the answers
at the two fixed URLs. -/
def materialAnswers (network : Network) :
    Except String Unit × Except String Reply × Except String Reply :=
  (network.build, network.get defaultTrustReleaseUrl, network.get gcpJwksUrl)

/-- The check of a document reads a network at the two fixed URLs only, and asks it for a client
first. -/
theorem verifyGcpAttestation_congr {first second : Network}
    (h : materialAnswers first = materialAnswers second) :
    verifyGcpAttestation decoders first lib = verifyGcpAttestation decoders second lib := by
  simp only [materialAnswers, Prod.mk.injEq] at h
  obtain ⟨hbuild, hrelease, hjwks⟩ := h
  funext document commitment
  have hrelease : fetchTrustRelease decoders first defaultTrustReleaseUrl =
      fetchTrustRelease decoders second defaultTrustReleaseUrl := by
    rw [fetchTrustRelease, fetchTrustRelease, hrelease]
  have hjwks : fetchJwks decoders first gcpJwksUrl = fetchJwks decoders second gcpJwksUrl := by
    rw [fetchJwks, fetchJwks, hjwks]
  simp only [verifyGcpAttestation, receiptVerificationMaterialUrls, hbuild, hrelease,
    verifyReceiptKeyAttestation, verifiedJwtClaims, onlineJwt, Option.getD_some, hjwks]

/-- Two networks make a difference to the verdict on a receipt only at the two fixed URLs, or by
the building of the client, whatever the receipt says, and only after its signature and its claims
have passed. -/
theorem verifyReceipt_steered {first second : Network} {receipt : Bytes} {expectedIssuer : String}
    {options : ReceiptVerificationOptions}
    (h : verifyReceipt decoders first lib receipt expectedIssuer options ≠
      verifyReceipt decoders second lib receipt expectedIssuer options) :
    materialAnswers first ≠ materialAnswers second ∧
      ∃ claims, verifyReceiptWith lib receipt expectedIssuer options acceptAll = .ok claims ∧
        claims.attestationStatus = .verified := by
  obtain ⟨⟨document, commitment, hdiffers⟩, hpasses⟩ := verifyReceiptWith_ne h
  refine ⟨?_, hpasses⟩
  intro hsame
  exact hdiffers (by rw [verifyGcpAttestation_congr hsame])

/-- A network that answers nothing. -/
def downNetwork : Network where
  build := .ok ()
  get := fun _ => .error "unreachable"

/-- The chain is verified on one network and not on the other. -/
theorem verifyReceipt_steered_aged :
    materialAnswers chainNetwork ≠ materialAnswers downNetwork ∧
      ∃ claims, verifyReceiptWith agedLibrary (agedReceipt true) "https://api.trustedrouter.com"
          (agedOptions true) acceptAll = .ok claims ∧
        claims.attestationStatus = .verified := by
  have hdown : verifyReceipt chainDecoders downNetwork agedLibrary (agedReceipt true)
      "https://api.trustedrouter.com" (agedOptions true) ≠ .ok agedClaims := by
    intro hok
    obtain ⟨_, _, _, _, -, -, -, -, haccepted⟩ := verified_document hok rfl
    cases haccepted
  refine @verifyReceipt_steered chainDecoders _ _ _ _ _ _ ?_
  rw [verifyReceipt_chain]
  exact hdown.symm

end TrustedRouter.Proofs.Receipts
