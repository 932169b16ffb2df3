import TrustedRouter.Proofs.Receipts.Claims
import TrustedRouter.Proofs.Receipts.Envelope

/-!
# `TrustedRouter.Proofs.Receipts.Soundness`: no way around a check

`verify_receipt_with` makes about twenty checks in a row. `Verified` says what all of them
together establish about a receipt, the caller's options and the claims that are returned.
`verifyReceiptWith_verified` is the fail-closed property: there is no receipt, no setting of
the options and no answer of the attestation verifier for which claims are returned and one
of these facts is missing.

Every fact is about one signed payload. `Signs` ties it to the key, `Carries` says that each
returned claim is the member of that name in it, and the digests and the attestation are
checked against claims that were read from it.
-/

set_option autoImplicit false

namespace TrustedRouter.Proofs.Receipts

open Rust (Bytes)
open Rust.Str
open Rust.Result
open Serde (Raw Value)
open TrustedRouter.Receipts

variable {lib : Library}

/-! ## Traffic bindings -/

/-- The caller gave the request and one form of the response. -/
structure TrafficGiven (options : ReceiptVerificationOptions) : Prop where
  request : options.requestBody.isSome = true
  response : options.responseBody.isSome = true ∨ options.responseStream.isSome = true

/-- With `require_bindings` set, the first check of the verifier passes only when the request and
some form of the response were given. It does not say that one form only was given: that is
checked with the response, much later. -/
theorem requireTrafficBindings_eq_ok {options : ReceiptVerificationOptions}
    (h : requireTrafficBindings options = .ok ()) (hrequire : options.requireBindings = true) :
    TrafficGiven options := by
  simp only [requireTrafficBindings, hrequire, Bool.not_true, Bool.false_eq_true, if_false,
    bind_eq_ok, exists_unit, ensure_eq_ok, Bool.not_eq_true', Option.isNone_eq_false_iff,
    Bool.and_eq_false_iff] at h
  exact ⟨h.2.1, h.2.2⟩

/-- Exactly one of the two forms of the response. -/
def ExactlyOneResponse (options : ReceiptVerificationOptions) : Prop :=
  (options.responseBody.isSome = true ∧ options.responseStream = none) ∨
    (options.responseBody = none ∧ options.responseStream.isSome = true)

/-- At least one form of the response was given, by the first check, and not both, by the check of
the response. Together this is exactly one. -/
theorem TrafficGiven.exactlyOne {options : ReceiptVerificationOptions}
    (h : TrafficGiven options)
    (hnot : options.responseBody = none ∨ options.responseStream = none) :
    ExactlyOneResponse options := by
  rcases hnot with hbody | hstream
  · rcases h.response with hsome | hsome
    · rw [hbody] at hsome
      cases hsome
    · exact .inr ⟨hbody, hsome⟩
  · rcases h.response with hsome | hsome
    · exact .inl ⟨hsome, hstream⟩
    · rw [hstream] at hsome
      cases hsome

/-! ## Attestation -/

/-- How an attestation status came about. The evidence is a document on which the verifier
of documents succeeded with the commitment to the receipt's key: the caller's document under
the pin of a compact receipt, or the one embedded in a flattened receipt. Only a compact
receipt can go without, when the caller gave no document and does not require one. -/
inductive Attests (lib : Library) (options : ReceiptVerificationOptions)
    (verifyGcp : VerifyGcp) (envelope : JwsEnvelope) (header : ParsedHeader)
    (pin : Option String) : ReceiptAttestationStatus → Prop where
  | unverified
      (compact : envelope.flattened = false)
      (not_supplied : options.attestation = none)
      (not_required : options.requireAttestation = false) :
      Attests lib options verifyGcp envelope header pin .unverifiedByThisSdk
  | pinned {document : Bytes} {encoded : String}
      (compact : envelope.flattened = false)
      (supplied : options.attestation = some document)
      (pin_eq : pin = some encoded)
      (digest : lib.decode encoded = some (lib.sha256 document).toBytes)
      (accepted : verifyGcp document (keyCommitment lib header.publicKey) = .ok ()) :
      Attests lib options verifyGcp envelope header pin .verified
  | embedded {document : String}
      (flattened : envelope.flattened = true)
      (kind : header.value.get "att_kind" = some (.string "gcp-cs-jwt"))
      (att : header.value.get "att" = some (.string document))
      (ne_empty : document ≠ "")
      (supplied : ∀ given, options.attestation = some given → given = bytes document)
      (accepted : verifyGcp (bytes document) (keyCommitment lib header.publicKey) = .ok ()) :
      Attests lib options verifyGcp envelope header pin .verified

/-- The source tells three failures apart: no text, the kind of another cloud, and a kind it does
not know. Past all three, `att_kind` is the one kind that is supported. -/
theorem checkAttKind_eq_ok {header : Serde.Map} (h : checkAttKind lib header = .ok ()) :
    header.get "att_kind" = some (.string "gcp-cs-jwt") := by
  simp only [checkAttKind] at h
  split at h
  · cases h
  · rename_i text htext
    split at h
    · rename_i hkind
      rw [get_bind_asStr] at htext
      rw [htext, hkind]
    · -- Another cloud's kind and an unknown one end in different texts, both errors.
      split at h <;> cases h

/-- Each status is reached in one of the ways `Attests` lists. The branches are those of the
source: on the form of the receipt first, and for a compact receipt on whether the caller gave a
document. -/
theorem attestationStatus_attests {options : ReceiptVerificationOptions}
    {verifyGcp : VerifyGcp} {envelope : JwsEnvelope} {header : ParsedHeader}
    {pin : Option String} {status : ReceiptAttestationStatus}
    (h : attestationStatus lib envelope header options.attestation pin
      options.requireAttestation
      (fun attestation => verifyGcp attestation (keyCommitment lib header.publicKey)) =
        .ok status) :
    Attests lib options verifyGcp envelope header pin status := by
  unfold attestationStatus at h
  split at h
  · -- A flattened receipt carries its document in the header.
    rename_i hflattened
    simp only [flattenedStatus, bind_eq_ok, exists_unit, ensure_eq_ok, okOr_eq_ok,
      nonempty_eq_some, Bool.not_eq_true', Option.any_eq_false, Bool.not_eq_false',
      safeEqual_iff] at h
    obtain ⟨hkind, document, ⟨hatt, hne⟩, hsupplied, haccepted, hresult⟩ := h
    cases hresult
    exact .embedded hflattened (checkAttKind_eq_ok hkind) hatt hne hsupplied haccepted
  · -- A compact receipt is pinned to a document that the caller brings, or goes without.
    rename_i hcompact
    have hcompact : envelope.flattened = false := Bool.not_eq_true _ ▸ hcompact
    cases hsupplied : options.attestation with
    | none =>
        simp only [compactStatus, hsupplied, bind_eq_ok, exists_unit, ensure_eq_ok,
          Bool.not_eq_true'] at h
        obtain ⟨hrequire, hresult⟩ := h
        cases hresult
        exact .unverified hcompact hsupplied hrequire
    | some document =>
        simp only [compactStatus, hsupplied, bind_eq_ok, exists_unit, ensure_eq_ok, okOr_eq_ok,
          decodeB64_eq_ok, safeEqual_iff] at h
        obtain ⟨encoded, hpin, digest, ⟨-, hdigest⟩, rfl, haccepted, hresult⟩ := h
        cases hresult
        exact .pinned hcompact hsupplied hpin hdigest haccepted

/-! ## The verifier -/

/-- Each returned claim is the member of that name in the payload. -/
structure Carries (members : Serde.Map) (claims : ReceiptClaims) : Prop where
  rv : (members.get "rv").bind Value.asI64 = some claims.rv
  iss : members.get "iss" = some (.string claims.iss)
  iat : (members.get "iat").bind Value.asI64 = some claims.iat
  jti : members.get "jti" = some (.string claims.jti)
  gen : members.get "gen" = claims.gen.map Value.string
  nonce : members.get "nonce" = claims.nonce.map Value.string
  route : members.get "route" = some (.string claims.route)
  attSha256 : members.get "att_sha256" = claims.attSha256.map Value.string
  model : ∃ record, members.get "model" = some (.object record) ∧
    CarriesModel record claims.model
  upstream : ∃ record, members.get "upstream" = some (.object record) ∧
    CarriesUpstream record claims.upstream
  req : ∃ record, members.get "req" = some (.object record) ∧ CarriesHash record claims.req
  resp : ∃ record, members.get "resp" = some (.object record) ∧
    CarriesHash record claims.resp

/-- The issuer of the claims and the caller's pin have one canonical form. -/
def SameIssuer (lib : Library) (iss expectedIssuer : String) : Prop :=
  ∃ origin, canonicalHttpsOrigin lib iss "iss claim" = .ok origin ∧
    canonicalHttpsOrigin lib expectedIssuer "expected_issuer" = .ok origin

/-- Everything the verifier checks. `envelope`, `header`, `payload` and `members` are the
parts of the receipt, the key, the signed bytes and the JSON object those are. -/
structure Verified (lib : Library) (receipt : Bytes) (expectedIssuer : String)
    (options : ReceiptVerificationOptions) (verifyGcp : VerifyGcp) (claims : ReceiptClaims)
    (envelope : JwsEnvelope) (header : ParsedHeader) (payload : Bytes)
    (members : Serde.Map) (now : Int) : Prop where
  bindings : options.requireBindings = true →
    options.requestBody.isSome = true ∧ ExactlyOneResponse options
  opens : Opens lib receipt envelope
  nonempty : NonemptyParts envelope
  identifies : Identifies lib envelope header
  signs : Signs lib envelope header.publicKey payload
  json : loadJson lib payload "receipt claims" = .ok (.object members)
  version : claims.rv = 1
  carries : Carries members claims
  issuer : SameIssuer lib claims.iss expectedIssuer
  timely : Timely lib options claims.iat now
  route : claims.route = "chat.completions" ∨ claims.route = "responses"
  pin : ∀ encoded, claims.attSha256 = some encoded →
    ∃ digest, lib.decode encoded = some digest ∧ digest.length = 32
  pin_of_compact : envelope.flattened = false → claims.attSha256.isSome = true
  nonce : ∀ expected, options.expectedNonce = some expected → claims.nonce = some expected
  nonce_text : ∀ s, claims.nonce = some s → NonceText s
  upstream : UpstreamHolds claims.iat claims.upstream
  req : DigestHolds lib false claims.req
  request : ∀ body, options.requestBody = some body →
    lib.decode claims.req.hash = some (lib.sha256 body).toBytes
  resp : DigestHolds lib true claims.resp
  response : ResponseBound lib options envelope.flattenedValue claims.resp
  attests : Attests lib options verifyGcp envelope header claims.attSha256
    claims.attestationStatus

/-- Claims are returned only when every check has passed. `verifyReceiptWith_eq_ok` turns the
twenty nested results into one fact for each check, and each of these is read through the lemma of
that check. The moment `now` is an output: it is the caller's, or the one the clock gave. -/
theorem verifyReceiptWith_verified {receipt : Bytes} {expectedIssuer : String}
    {options : ReceiptVerificationOptions} {verifyGcp : VerifyGcp} {claims : ReceiptClaims}
    (h : verifyReceiptWith lib receipt expectedIssuer options verifyGcp = .ok claims) :
    ∃ envelope header payload members now,
      Verified lib receipt expectedIssuer options verifyGcp claims envelope header payload
        members now := by
  obtain ⟨origin, envelope, header, payload, members, h⟩ := verifyReceiptWith_eq_ok.mp h
  -- One specification for each check of the verifier, in the order in which the source makes
  -- them.
  obtain ⟨hopens, hnonempty⟩ := parseEnvelope_opens h.opens
  obtain ⟨hversion, hrv⟩ := checkVersion_eq_ok h.rv
  obtain ⟨hiss, horigin⟩ := checkIssuer_eq_ok h.iss
  obtain ⟨now, htimely⟩ := checkTime_timely h.time
  obtain ⟨hroute, hallowed⟩ := checkRoute_eq_ok h.route
  obtain ⟨hpin, hdigest, hcompact⟩ := checkAttSha256_eq_ok h.pin
  obtain ⟨hnonce, htext, hmatch⟩ := checkNonce_eq_ok h.nonce
  obtain ⟨hcarriesUpstream, hholds⟩ := upstreamClaims_eq_ok h.upstream
  obtain ⟨hcarriesReq, hreq, hrequest⟩ := checkRequest_eq_ok h.req
  obtain ⟨hcarriesResp, hresp, hresponse⟩ := checkResponse_eq_ok h.resp
  refine ⟨envelope, header, payload, members, now, ?_⟩
  exact
    -- Required bindings ask for one form of the response, and `not_both` excludes the second.
    { bindings := fun hrequire =>
        have hgiven := requireTrafficBindings_eq_ok h.bindings hrequire
        ⟨hgiven.request, hgiven.exactlyOne hresponse.not_both⟩
      opens := hopens
      nonempty := hnonempty
      identifies := parseHeader_identifies h.identifies
      signs := verifySignature_signs h.signs
      json := h.json
      version := hversion
      carries :=
        { rv := hrv, iss := hiss, iat := integer_eq_ok.mp h.iat
          jti := (requiredString_eq_ok.mp h.jti).1, gen := (optionalString_eq_ok.mp h.gen).1
          nonce := hnonce, route := hroute, attSha256 := hpin
          model := modelClaims_eq_ok h.model, upstream := hcarriesUpstream
          req := hcarriesReq, resp := hcarriesResp }
      issuer := ⟨origin, horigin, h.issuer⟩
      timely := htimely
      route := hallowed
      pin := hdigest
      pin_of_compact := hcompact
      nonce := hmatch
      nonce_text := htext
      upstream := hholds
      req := hreq
      request := hrequest
      resp := hresp
      response := hresponse
      attests := attestationStatus_attests h.status }

/-! ## A receipt of the test suite

The compact receipt under `tests/fixtures/receipts`, with its request and response. The
crates answer as they do on it: base64url is decoded, the four digests and the signature are
those of the fixture. -/

/-- The six bits of a base64url character. -/
def sextet (c : Char) : Option Nat :=
  let n := c.toNat
  if 65 ≤ n ∧ n ≤ 90 then some (n - 65)
  else if 97 ≤ n ∧ n ≤ 122 then some (n - 71)
  else if 48 ≤ n ∧ n ≤ 57 then some (n + 4)
  else if n = 45 then some 62
  else if n = 95 then some 63
  else none

/-- Four sextets are three bytes. The unused bits of a shorter last group are zero. -/
def decodeSextets : List Nat → Option Bytes
  | [] => some []
  | [_] => none
  | [a, b] => if b % 16 = 0 then some [.ofNat (4 * a + b / 16)] else none
  | [a, b, c] =>
      if c % 4 = 0 then some [.ofNat (4 * a + b / 16), .ofNat (16 * (b % 16) + c / 4)]
      else none
  | a :: b :: c :: d :: rest =>
      (decodeSextets rest).map fun bytes =>
        .ofNat (4 * a + b / 16) :: .ofNat (16 * (b % 16) + c / 4) ::
          .ofNat (64 * (c % 4) + d) :: bytes

/-- Base64url without padding. -/
def decodeChars (chars : List Char) : Option Bytes := (chars.mapM sextet).bind decodeSextets

/-- The protected header of the receipt. -/
def headerPart : String :=
  "eyJhbGciOiJFZERTQSIsInR5cCI6ImluZmVyZW5jZS1yZWNlaXB0K2p3cyIsImtpZCI6Im5lSkdqR2NVMi1BTEFaOGhWVktpWnNDYl9rQ0lBZkY5OXB5cnhSLVc5eTAiLCJqd2siOnsia3R5IjoiT0tQIiwiY3J2IjoiRWQyNTUxOSIsIngiOiJvYWJrMklYT2poSUZBckFaQ0J2VEd5U0NDNndGcDhqelpJWXJ0VEdXUEkwIn19"

/-- The payload of the receipt. -/
def payloadPart : String :=
  "eyJydiI6MSwiaXNzIjoiaHR0cHM6Ly9hcGkudHJ1c3RlZHJvdXRlci5jb20iLCJpYXQiOjE3NTYyMjQwMDAsImp0aSI6ImNoYXRjbXBsLWZpeHR1cmUxIiwiZ2VuIjoiZ2VuX2ZpeHR1cmUxIiwibm9uY2UiOiJmaXh0dXJlX25vbmNlXzEiLCJyb3V0ZSI6ImNoYXQuY29tcGxldGlvbnMiLCJyZXEiOnsiYWxnIjoic2hhMjU2IiwiaGFzaCI6Ik1RcEo4OFR2SUQtc2E5czN4ZS1nZS1nYkFPMHBOcEJHLV84ejBiaEVBSkkiLCJvZiI6ImJvZHkifSwicmVzcCI6eyJhbGciOiJzaGEyNTYiLCJoYXNoIjoiLXpTNjBMRjdNa21xMlp3RTRYOWVZemlXR2dMZTNVNzRJaVg5UUd6Y3FmZyIsIm9mIjoiYm9keSJ9LCJtb2RlbCI6eyJyZXF1ZXN0ZWQiOiJ0cnVzdGVkcm91dGVyL2F1dG8iLCJzZWxlY3RlZCI6Im9wZW5haS9ncHQtNG8tbWluaSIsInByb3ZpZGVyIjoib3BlbmFpIiwiZW5kcG9pbnQiOiJvcGVuYWkvZ3B0LTRvLW1pbmlAb3BlbmFpL3ByZXBhaWQifSwidXBzdHJlYW0iOnsidGllciI6InRscy13ZWJwa2kifSwiYXR0X3NoYTI1NiI6IkltTGNjTGs1Z2NDNWMwQi1HLU0yUXJ1QnhSb0hGTE1BVTcyVm1GMHMwMVUifQ"

/-- The signature of the receipt. -/
def signaturePart : String :=
  "TvnwWclZ3jKfCOqjVSHJ7iPJI5t4SyZgTaSN3NU6Ggpkvasej8NNOReS7ZAzhGGUTOM-iIR4CjNGNFUUdQrDDw"

/-- The protected header, decoded. -/
def headerJson : String :=
  "\x7b\"alg\":\"EdDSA\",\"typ\":\"inference-receipt+jws\",\"kid\":\"neJGjGcU2-ALAZ8hVVKiZsCb_kCIAfF99pyrxR-W9y0\",\"jwk\":\x7b\"kty\":\"OKP\",\"crv\":\"Ed25519\",\"x\":\"oabk2IXOjhIFArAZCBvTGySCC6wFp8jzZIYrtTGWPI0\"\x7d\x7d"

/-- The payload, decoded. -/
def payloadJson : String :=
  "\x7b\"rv\":1,\"iss\":\"https://api.trustedrouter.com\",\"iat\":1756224000,\"jti\":\"chatcmpl-fixture1\",\"gen\":\"gen_fixture1\",\"nonce\":\"fixture_nonce_1\",\"route\":\"chat.completions\",\"req\":\x7b\"alg\":\"sha256\",\"hash\":\"MQpJ88TvID-sa9s3xe-ge-gbAO0pNpBG-_8z0bhEAJI\",\"of\":\"body\"\x7d,\"resp\":\x7b\"alg\":\"sha256\",\"hash\":\"-zS60LF7Mkmq2ZwE4X9eYziWGgLe3U74IiX9QGzcqfg\",\"of\":\"body\"\x7d,\"model\":\x7b\"requested\":\"trustedrouter/auto\",\"selected\":\"openai/gpt-4o-mini\",\"provider\":\"openai\",\"endpoint\":\"openai/gpt-4o-mini@openai/prepaid\"\x7d,\"upstream\":\x7b\"tier\":\"tls-webpki\"\x7d,\"att_sha256\":\"ImLccLk5gcC5c0B-G-M2QruBxRoHFLMAU72VmF0s01U\"\x7d"

/-- The request body. -/
def requestText : String :=
  "\x7b\"model\":\"trustedrouter/auto\",\"messages\":[\x7b\"role\":\"user\",\"content\":\"parity fixture prompt\"\x7d]\x7d"

/-- The response body. -/
def responseText : String :=
  "\x7b\"id\":\"chatcmpl-fixture1\",\"object\":\"chat.completion\",\"model\":\"openai/gpt-4o-mini\",\"choices\":[\x7b\"index\":0,\"message\":\x7b\"role\":\"assistant\",\"content\":\"parity fixture completion\"\x7d,\"finish_reason\":\"stop\"\x7d]\x7d"

/-- The `kid` of the header: the encoded digest of the key. -/
def keyId : String := "neJGjGcU2-ALAZ8hVVKiZsCb_kCIAfF99pyrxR-W9y0"

/-- The encoded public key. -/
def keyText : String := "oabk2IXOjhIFArAZCBvTGySCC6wFp8jzZIYrtTGWPI0"

/-- The encoded digest of the request body. -/
def requestHash : String := "MQpJ88TvID-sa9s3xe-ge-gbAO0pNpBG-_8z0bhEAJI"

/-- The encoded digest of the response body. -/
def responseHash : String := "-zS60LF7Mkmq2ZwE4X9eYziWGgLe3U74IiX9QGzcqfg"

/-- The encoded digest of the attestation document. -/
def pinHash : String := "ImLccLk5gcC5c0B-G-M2QruBxRoHFLMAU72VmF0s01U"

/-- What the protected header says. -/
def headerRaw : Raw :=
  .object
    [("alg", .string "EdDSA"), ("typ", .string "inference-receipt+jws"), ("kid", .string keyId),
     ("jwk", .object
       [("kty", .string "OKP"), ("crv", .string "Ed25519"), ("x", .string keyText)])]

/-- What the payload says. -/
def payloadRaw : Raw :=
  .object
    [("rv", .number (.posInt 1)), ("iss", .string "https://api.trustedrouter.com"),
     ("iat", .number (.posInt 1756224000)), ("jti", .string "chatcmpl-fixture1"),
     ("gen", .string "gen_fixture1"), ("nonce", .string "fixture_nonce_1"),
     ("route", .string "chat.completions"),
     ("req", .object
       [("alg", .string "sha256"), ("hash", .string requestHash), ("of", .string "body")]),
     ("resp", .object
       [("alg", .string "sha256"), ("hash", .string responseHash), ("of", .string "body")]),
     ("model", .object
       [("requested", .string "trustedrouter/auto"),
        ("selected", .string "openai/gpt-4o-mini"), ("provider", .string "openai"),
        ("endpoint", .string "openai/gpt-4o-mini@openai/prepaid")]),
     ("upstream", .object [("tier", .string "tls-webpki")]),
     ("att_sha256", .string pinHash)]

/-- The digest that a text encodes. -/
def digestOf (text : String) : Array32 :=
  ((decodeChars text.toList).bind toArray32).getD ⟨List.replicate 32 0, rfl⟩

/-- The crates, as they answer on this receipt. -/
def fixtureLibrary : Library where
  sha256 data :=
    if data = bytes requestText then digestOf requestHash
    else if data = bytes responseText then digestOf responseHash
    else digestOf keyId
  encode data := if decodeChars keyId.toList = some data then keyId else ""
  decode text := decodeChars text.toList
  fromBytes _ := .ok ()
  verifyStrict key message signature :=
    decide (decodeChars keyText.toList = some key.toBytes ∧
      message = bytes (headerPart ++ "." ++ payloadPart) ∧
      decodeChars signaturePart.toList = some signature)
  parseUrl := Whatwg.parse
    { parseHost := fun host => .ok (toAsciiLowercase host)
      parseOther := fun _ _ => .error "invalid"
      parseOther_scheme := nofun }
  read data :=
    if data = bytes headerJson then .ok (headerRaw, [])
    else if data = bytes payloadJson then .ok (payloadRaw, [])
    else .error "expected value"
  place _ := " at line 1 column 1"
  clock := .ok 1756224060
  print _ := ""
  debug text := "\"" ++ text ++ "\""

/-- The options of the fixture. -/
def fixtureOptions : ReceiptVerificationOptions where
  requestBody := some (bytes requestText)
  responseBody := some (bytes responseText)
  expectedNonce := some "fixture_nonce_1"
  maxAgeSeconds := some 60
  now := some 1756224060
  requireAttestation := false

/-- The claims of the fixture. -/
def fixtureClaims : ReceiptClaims where
  rv := 1
  iss := "https://api.trustedrouter.com"
  iat := 1756224000
  jti := "chatcmpl-fixture1"
  gen := some "gen_fixture1"
  nonce := some "fixture_nonce_1"
  route := "chat.completions"
  req :=
    { alg := "sha256", hash := requestHash, of := "body", events := none }
  resp :=
    { alg := "sha256", hash := responseHash, of := "body", events := none }
  model :=
    { requested := "trustedrouter/auto", selected := "openai/gpt-4o-mini"
      provider := "openai", endpoint := "openai/gpt-4o-mini@openai/prepaid" }
  upstream :=
    { tier := "tls-webpki", policy := none, verifiedAt := none
      verificationExpiresAt := none, certSha256 := none }
  attSha256 := some pinHash
  attestationStatus := .unverifiedByThisSdk

/-- The receipt of the fixture. -/
def fixtureReceipt : String := headerPart ++ "." ++ payloadPart ++ "." ++ signaturePart

/-- The characters of a base64url text, checked by computation. -/
def isTextChars (l : List Char) : Bool :=
  let encoded := l.flatMap String.utf8EncodeChar
  !l.isEmpty && encoded.all isBase64Url && encoded.length % 4 != 1

/-- The texts of the fixture are long, so that they are base64url is computed on their characters
and carried over to the string. -/
theorem base64UrlText_ofList {l : List Char} (h : isTextChars l = true) :
    Base64UrlText (String.ofList l) := by
  simp only [isTextChars, Bool.and_eq_true, Bool.not_eq_true', List.isEmpty_eq_false_iff,
    bne_iff_ne] at h
  obtain ⟨⟨hne, hall⟩, hmod⟩ := h
  refine ⟨?_, ?_, ?_⟩
  · intro hempty
    have hnil := congrArg String.toList hempty
    rw [String.toList_ofList] at hnil
    exact hne hnil
  · rw [bytes_ofList]
    exact List.all_eq_true.mp hall
  · rw [len_eq_length, bytes_ofList]
    exact hmod

/-- Decoding by computation: the characters of the text give the bytes of another text. The texts
are lists of characters, so that the kernel can compute with them. -/
theorem decodes_ofList {l m : List Char}
    (h : decodeChars l = some (m.flatMap String.utf8EncodeChar)) :
    fixtureLibrary.decode (String.ofList l) = some (bytes (String.ofList m)) := by
  show decodeChars (String.ofList l).toList = _
  rw [String.toList_ofList, bytes_ofList, h]

/-- Bytes differ from those of a text when they differ from its encoded characters. -/
theorem ne_bytes_ofList {b : Bytes} {l : List Char}
    (h : b ≠ l.flatMap String.utf8EncodeChar) : b ≠ bytes (String.ofList l) := by
  rw [bytes_ofList]
  exact h

/-- Two texts have different bytes when their encoded characters differ. -/
theorem bytes_ofList_ne {l m : List Char}
    (h : l.flatMap String.utf8EncodeChar ≠ m.flatMap String.utf8EncodeChar) :
    bytes (String.ofList l) ≠ bytes (String.ofList m) := by
  rw [bytes_ofList l]
  exact ne_bytes_ofList h

/-- The parts of the receipt. -/
def fixtureEnvelope : JwsEnvelope where
  protectedHeader := headerPart
  payload := payloadPart
  signature := signaturePart
  flattened := false
  flattenedValue := none

/-- The public key of the receipt. -/
def fixtureKey : Array32 := digestOf keyText

/-- What the signature decodes to. -/
def signatureBytes : Bytes := (decodeChars signaturePart.toList).getD []

/-- The JSON Web Key of the header. -/
def jwkMembers : Serde.Map :=
  [("crv", .string "Ed25519"), ("kty", .string "OKP"), ("x", .string keyText)]

/-- The members of the header, in the order of a map. -/
def headerMembers : Serde.Map :=
  [("alg", .string "EdDSA"), ("jwk", .object jwkMembers), ("kid", .string keyId),
   ("typ", .string "inference-receipt+jws")]

/-- The members of the payload, in the order of a map. -/
def payloadMembers : Serde.Map :=
  match strictValue fixtureLibrary payloadRaw with
  | .ok (.object members) => members
  | _ => []

/-- A text that decodes to 32 bytes encodes the digest that is read from it. The length matters,
because `digestOf` falls back to zeros on any other text. -/
theorem decode_digestOf {hash : String}
    (h : ((decodeChars hash.toList).bind toArray32).isSome = true) :
    fixtureLibrary.decode hash = some (digestOf hash).toBytes := by
  obtain ⟨digest, hdigest⟩ := Option.isSome_iff_exists.mp h
  obtain ⟨decoded, hdecoded, harray⟩ := Option.bind_eq_some_iff.mp hdigest
  show decodeChars hash.toList = _
  rw [digestOf, hdigest, hdecoded, toArray32_eq_some.mp harray]
  rfl

/-- A text and what it decodes to, the form of `decodeB64_eq_ok`. -/
def Encodes (text : String) (decoded : Bytes) : Prop :=
  Base64UrlText text ∧ fixtureLibrary.decode text = some decoded

/-- What is computed about the texts of the fixture. -/
structure FixtureFacts : Prop where
  header : Encodes headerPart (bytes headerJson)
  payload : Encodes payloadPart (bytes payloadJson)
  signature : Encodes signaturePart signatureBytes
  key : Encodes keyText fixtureKey.toBytes
  request : Encodes requestHash (digestOf requestHash).toBytes
  response : Encodes responseHash (digestOf responseHash).toBytes
  pin : Encodes pinHash (digestOf pinHash).toBytes
  kid : Encodes keyId (digestOf keyId).toBytes
  signature_length : signatureBytes.length = 64
  payloadJson_ne : bytes payloadJson ≠ bytes headerJson
  responseText_ne : bytes responseText ≠ bytes requestText
  key_ne_request : fixtureKey.toBytes ≠ bytes requestText
  key_ne_response : fixtureKey.toBytes ≠ bytes responseText

-- The recursion limit is for the characters of the payload.
set_option maxRecDepth 20000 in
/-- The computations of the fixture, made once. Every lemma below uses them by name and does not
unfold a text again. -/
theorem fixtureFacts : FixtureFacts where
  header := ⟨base64UrlText_ofList (by decide +kernel), decodes_ofList (by decide +kernel)⟩
  payload := ⟨base64UrlText_ofList (by decide +kernel), decodes_ofList (by decide +kernel)⟩
  signature :=
    ⟨base64UrlText_ofList (by decide +kernel),
      show decodeChars signaturePart.toList = some signatureBytes by decide +kernel⟩
  key := ⟨base64UrlText_ofList (by decide +kernel), decode_digestOf (by decide +kernel)⟩
  request := ⟨base64UrlText_ofList (by decide +kernel), decode_digestOf (by decide +kernel)⟩
  response := ⟨base64UrlText_ofList (by decide +kernel), decode_digestOf (by decide +kernel)⟩
  pin := ⟨base64UrlText_ofList (by decide +kernel), decode_digestOf (by decide +kernel)⟩
  kid := ⟨base64UrlText_ofList (by decide +kernel), decode_digestOf (by decide +kernel)⟩
  signature_length := by decide +kernel
  payloadJson_ne := bytes_ofList_ne (by decide +kernel)
  responseText_ne := bytes_ofList_ne (by decide +kernel)
  key_ne_request := ne_bytes_ofList (by decide +kernel)
  key_ne_response := ne_bytes_ofList (by decide +kernel)

/-- The header loads to its members. The parser gives them in the order of the text, and the map
has them sorted by name. -/
theorem headerJson_loads :
    loadJson fixtureLibrary (bytes headerJson) "protected header" =
      .ok (.object headerMembers) := by
  refine loadJson_eq_ok.mpr ⟨headerRaw, [], ?_, rfl, rfl⟩
  simp only [fixtureLibrary, if_true]

/-- The payload loads to its members. It is read in the second place of the table, so that it is
not the header has to be known. -/
theorem payloadJson_loads :
    loadJson fixtureLibrary (bytes payloadJson) "receipt claims" =
      .ok (.object payloadMembers) := by
  refine loadJson_eq_ok.mpr ⟨payloadRaw, [], ?_, rfl, rfl⟩
  simp only [fixtureLibrary, if_neg fixtureFacts.payloadJson_ne, if_true]

/-- The `kid` of the header is the encoded digest of the key, as `parse_header` requires. -/
theorem kid_fixture :
    fixtureLibrary.encode (fixtureLibrary.sha256 fixtureKey.toBytes).toBytes = keyId := by
  have hsha : fixtureLibrary.sha256 fixtureKey.toBytes = digestOf keyId := by
    simp only [fixtureLibrary, if_neg fixtureFacts.key_ne_request,
      if_neg fixtureFacts.key_ne_response]
  have hkid : decodeChars keyId.toList = some (digestOf keyId).toBytes := fixtureFacts.kid.2
  rw [hsha]
  simp only [fixtureLibrary, if_pos hkid]

/-- The header of the fixture identifies the key of the fixture. Each component of the term is one
check of `parse_header`, in its order. -/
theorem parseHeader_fixture :
    parseHeader fixtureLibrary fixtureEnvelope = .ok ⟨headerMembers, fixtureKey⟩ := by
  simp only [parseHeader, bind_eq_ok, exists_unit, ensure_eq_ok, okOr_eq_ok, mapErr_eq_ok,
    decodeB64_eq_ok, Value.asObject_eq_some, beq_iff_eq, Bool.and_eq_true, Bool.not_eq_true',
    get_bind_asStr, get_bind_asObject, containsKey_eq_false, toArray32_eq_some,
    Option.any_eq_true, safeEqual_bytes_iff]
  exact ⟨bytes headerJson, fixtureFacts.header, _, headerJson_loads,
    headerMembers, rfl, rfl, rfl, jwkMembers, rfl, ⟨⟨rfl, rfl⟩, rfl⟩, keyText, rfl,
    fixtureKey.toBytes, fixtureFacts.key, fixtureKey, rfl,
    ⟨keyId, rfl, kid_fixture.symm⟩, rfl⟩

/-- The signature of the fixture verifies under that key, and the payload is what was signed. -/
theorem verifySignature_fixture :
    verifySignature fixtureLibrary fixtureEnvelope fixtureKey = .ok (bytes payloadJson) := by
  have hverifies : fixtureLibrary.verifyStrict fixtureKey
      (bytes (headerPart ++ "." ++ payloadPart)) signatureBytes = true := by
    simp only [fixtureLibrary, decide_eq_true_eq, true_and]
    exact ⟨fixtureFacts.key.2, fixtureFacts.signature.2⟩
  simp only [verifySignature, bind_eq_ok, exists_unit, ensure_eq_ok, mapErr_eq_ok,
    decodeB64_eq_ok, beq_iff_eq]
  exact ⟨bytes payloadJson, fixtureFacts.payload, signatureBytes,
    fixtureFacts.signature, fixtureFacts.signature_length, rfl, hverifies, rfl⟩

/-- A digest record of the payload. -/
def bodyRecord (hash : String) : Serde.Map :=
  [("alg", .string "sha256"), ("hash", .string hash), ("of", .string "body")]

/-- The claims of such a record. -/
def bodyClaims (hash : String) : ReceiptHashClaims :=
  { alg := "sha256", hash, of := "body", events := none }

/-- A digest record over a body gives its claims, for the request and for the response, in any
library that decodes its hash. -/
theorem digestClaim_body {lib : Library} {hash name : String} {response : Bool}
    {digest : Array32}
    (hencodes : Base64UrlText hash ∧ lib.decode hash = some digest.toBytes) :
    digestClaim lib (bodyRecord hash) name response = .ok (bodyClaims hash) := by
  simp only [digestClaim, bind_eq_ok, exists_unit, ensure_eq_ok, okOr_eq_ok, hashBytes_eq_ok,
    beq_iff_eq, get_bind_asStr]
  exact ⟨rfl, hash, rfl, digest.toBytes, hencodes, digest.length_toBytes, rfl, none,
    rfl, rfl⟩

/-- The request body of the fixture has the digest that the receipt claims. -/
theorem checkRequest_fixture :
    checkRequest fixtureLibrary payloadMembers fixtureOptions = .ok (bodyClaims requestHash) := by
  have hsha : fixtureLibrary.sha256 (bytes requestText) = digestOf requestHash := by
    simp only [fixtureLibrary, if_true]
  simp only [checkRequest, bind_eq_ok, requiredObject_eq_ok]
  refine ⟨bodyRecord requestHash, rfl, bodyClaims requestHash,
    digestClaim_body fixtureFacts.request, ?_⟩
  simp only [fixtureOptions, bind_eq_ok, exists_unit, ensure_eq_ok, hashBytes_eq_ok,
    safeEqual_iff, hsha]
  exact ⟨_, fixtureFacts.request, rfl, rfl⟩

/-- The response body has its digest too. There is no stream, so that the flattened receipt is not
looked at. -/
theorem checkResponse_fixture :
    checkResponse fixtureLibrary payloadMembers fixtureOptions none =
      .ok (bodyClaims responseHash) := by
  have hsha : fixtureLibrary.sha256 (bytes responseText) = digestOf responseHash := by
    simp only [fixtureLibrary, if_neg fixtureFacts.responseText_ne, if_true]
  simp only [checkResponse, bind_eq_ok, exists_unit, ensure_eq_ok, requiredObject_eq_ok,
    hashBytes_eq_ok]
  refine ⟨bodyRecord responseHash, rfl, bodyClaims responseHash,
    digestClaim_body fixtureFacts.response, rfl, _,
    fixtureFacts.response, ?_, rfl⟩
  simp only [checkTraffic, fixtureOptions, checkBody, bind_eq_ok, exists_unit, ensure_eq_ok,
    beq_iff_eq, safeEqual_iff, hsha]
  exact ⟨rfl, trivial⟩

/-- The pin is the encoding of 32 bytes. -/
theorem checkPin_fixture : checkPin fixtureLibrary (some pinHash) = .ok () := by
  simp only [checkPin, bind_eq_ok, mapErr_eq_ok, decodeB64_eq_ok, ensure_eq_ok, beq_iff_eq]
  exact ⟨_, fixtureFacts.pin, (digestOf pinHash).length_toBytes⟩

/-- A compact receipt has to carry a pin, and this one does. -/
theorem checkAttSha256_fixture :
    checkAttSha256 fixtureLibrary payloadMembers false = .ok (some pinHash) := by
  simp only [checkAttSha256, bind_eq_ok, exists_unit, ensure_eq_ok, optionalString_eq_ok]
  refine ⟨some pinHash, ⟨rfl, ?_⟩, checkPin_fixture, rfl, rfl⟩
  rintro s ⟨⟩
  exact fixtureFacts.pin.1.ne_empty

/-- No document is looked at. -/
def noVerifier : VerifyGcp := fun _ _ => .error (.attestation "not called")

/-- The receipt of the test suite verifies. Nothing about the attestation is required, so that its
status is that it was not verified here. -/
theorem verifyReceiptWith_fixture :
    verifyReceiptWith fixtureLibrary (bytes fixtureReceipt) "https://api.trustedrouter.com"
      fixtureOptions noVerifier = .ok fixtureClaims := by
  refine verifyReceiptWith_eq_ok.mpr ⟨"https://api.trustedrouter.com", fixtureEnvelope,
    ⟨headerMembers, fixtureKey⟩, bytes payloadJson, payloadMembers, ?_⟩
  exact
    { bindings := rfl
      issuer := rfl
      opens := parseEnvelope_compact fixtureFacts.header.1 fixtureFacts.payload.1
        fixtureFacts.signature.1
      identifies := parseHeader_fixture
      signs := verifySignature_fixture
      json := payloadJson_loads
      rv := rfl
      iss := rfl
      iat := rfl
      time := rfl
      jti := requiredString_eq_ok.mpr ⟨rfl, by decide⟩
      gen := optionalString_eq_ok.mpr ⟨rfl, by rintro s ⟨⟩; decide⟩
      route := rfl
      model := rfl
      pin := checkAttSha256_fixture
      nonce := rfl
      upstream := rfl
      req := checkRequest_fixture
      resp := checkResponse_fixture
      status := rfl }

/-- All the facts of `Verified` hold of the receipt of the test suite, each of them from the check
of its own. -/
theorem verifyReceiptWith_verified_fixture :
    ∃ envelope header payload members now,
      Verified fixtureLibrary (bytes fixtureReceipt) "https://api.trustedrouter.com"
        fixtureOptions noVerifier fixtureClaims envelope header payload members now :=
  verifyReceiptWith_verified verifyReceiptWith_fixture

end TrustedRouter.Proofs.Receipts
