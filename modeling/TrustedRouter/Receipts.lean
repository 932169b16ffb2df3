import TrustedRouter.Lib.MachineInt
import TrustedRouter.Receipts.Stream

/-!
# `TrustedRouter.Receipts`: verification of inference receipts

`crates/trusted-router/src/receipts.rs`. A receipt is a JWS in compact or flattened form.
`parseEnvelope` finds its three parts, `parseHeader` the public key, and `verifySignature`
the payload. `verifyReceiptWith` then checks the claims in the payload against the caller's
options, in the order of the source. Its stretches have names of their own: `checkVersion`,
`checkIssuer`, `checkTime`, `modelClaims`, `checkAttSha256`, `checkNonce`, `upstreamClaims`,
`checkRequest` and `checkResponse`.

The caller's verifier of attestation documents, `verify_gcp`, is a parameter.
-/

set_option autoImplicit false

namespace TrustedRouter.Receipts

open Rust (Bytes I64.saturatingAdd I64.checkedSub)
open Rust.Str
open Rust.Result
open Serde (Value)

/-! ## Inputs and results -/

/-- `ReceiptVerificationOptions`. -/
structure ReceiptVerificationOptions where
  requestBody : Option Bytes := none
  responseBody : Option Bytes := none
  responseStream : Option Bytes := none
  expectedNonce : Option String := none
  maxAgeSeconds : Option Nat := none
  now : Option Int64 := none
  attestation : Option Bytes := none
  requireAttestation : Bool := true
  requireBindings : Bool := true

/-- `ReceiptHashClaims`. -/
structure ReceiptHashClaims where
  alg : String
  hash : String
  of : String
  events : Option Nat
  deriving DecidableEq, Repr

/-- `ReceiptModelClaims`. -/
structure ReceiptModelClaims where
  requested : String
  selected : String
  provider : String
  endpoint : String
  deriving DecidableEq, Repr

/-- `ReceiptUpstreamClaims`. -/
structure ReceiptUpstreamClaims where
  tier : String
  policy : Option String
  verifiedAt : Option Int
  verificationExpiresAt : Option Int
  certSha256 : Option String
  deriving DecidableEq, Repr

/-- `ReceiptAttestationStatus`. -/
inductive ReceiptAttestationStatus where
  | verified
  | unverifiedByThisSdk
  deriving DecidableEq, Repr

/-- `ReceiptClaims`. -/
structure ReceiptClaims where
  rv : Int
  iss : String
  iat : Int
  jti : String
  gen : Option String
  nonce : Option String
  route : String
  req : ReceiptHashClaims
  resp : ReceiptHashClaims
  model : ReceiptModelClaims
  upstream : ReceiptUpstreamClaims
  attSha256 : Option String
  attestationStatus : ReceiptAttestationStatus
  deriving DecidableEq, Repr

/-- `JwsEnvelope`. -/
structure JwsEnvelope where
  protectedHeader : String
  payload : String
  signature : String
  flattened : Bool
  flattenedValue : Option Value

/-- `ParsedHeader`. -/
structure ParsedHeader where
  value : Serde.Map
  publicKey : Array32

/-- The verifier of attestation documents, from a document and a key commitment. -/
abbrev VerifyGcp := Bytes → Array32 → ReceiptResult Unit

/-- `RECEIPT_TYPE`. -/
def receiptType : String := "inference-receipt+jws"

/-- `KEY_COMMITMENT_DOMAIN`. -/
def keyCommitmentDomain : Bytes := bytes "inference-receipt-key-v1\x00"

section
variable (lib : Library)

/-! ## Envelope, header and signature -/

/-- `flattened_envelope`. -/
def flattenedEnvelope (value : Value) : ReceiptResult JwsEnvelope := do
  let object ← okOr value.asObject
    (.structural "JWS structure check failed: flattened JWS must be a JSON object")
  ensure (!object.containsKey "header") (.structural
    "JWS structure check failed: unprotected flattened headers are not allowed")
  let field := fun name =>
    ((object.get name).bind Value.asStr).filter (fun value => !isEmpty value)
  match field "protected", field "payload", field "signature" with
  | some protectedHeader, some payload, some signature =>
      pure { protectedHeader, payload, signature, flattened := true,
             flattenedValue := some value }
  | _, _, _ =>
      .error (.structural ("JWS structure check failed: flattened JWS requires non-empty " ++
        "string protected, payload, and signature members"))

/-- `parse_envelope`. -/
def parseEnvelope (receipt : Bytes) : ReceiptResult JwsEnvelope := do
  ensure (isAscii receipt)
    (.structural "JWS structure check failed: receipt bytes must be ASCII")
  -- The default is not reached: ASCII was checked.
  let text := trim ((fromUtf8 receipt).getD "")
  if startsWith text "\x7b" then
    let value ← loadJson lib (bytes text) "JWS structure"
    flattenedEnvelope value
  else
    let parts := split '.' text
    let error := .structural ("JWS structure check failed: compact JWS must have 3 " ++
      "non-empty segments, got " ++ toString parts.length)
    match parts with
    | [protectedHeader, payload, signature] =>
        ensure (!parts.any isEmpty) error
        pure { protectedHeader, payload, signature, flattened := false,
               flattenedValue := none }
    | _ => .error error

/-- `[u8; 32]` from a `Vec<u8>`. -/
def toArray32 (value : Bytes) : Option Array32 :=
  if h : value.length = 32 then some ⟨value, h⟩ else none

/-- `parse_header`. -/
def parseHeader (envelope : JwsEnvelope) : ReceiptResult ParsedHeader := do
  let raw ← decodeB64 lib envelope.protectedHeader "protected header"
  let value ← loadJson lib raw "protected header"
  let header ← okOr value.asObject
    (.header "protected header check failed: header must be a JSON object")
  ensure ((header.get "alg").bind Value.asStr == some "EdDSA")
    (.header ("protected header alg check failed: expected 'EdDSA', got " ++
      displayValue lib (header.get "alg")))
  ensure ((header.get "typ").bind Value.asStr == some receiptType)
    (.header ("protected header typ check failed: expected " ++ lib.debug receiptType ++
      ", got " ++ displayValue lib (header.get "typ")))
  let jwk ← okOr ((header.get "jwk").bind Value.asObject)
    (.header "protected header jwk check failed: jwk must be an object")
  ensure ((jwk.get "kty").bind Value.asStr == some "OKP" &&
      (jwk.get "crv").bind Value.asStr == some "Ed25519" && !jwk.containsKey "d")
    (.header "protected header jwk check failed: expected a public OKP/Ed25519 JWK")
  let x ← okOr ((jwk.get "x").bind Value.asStr)
    (.header "protected header jwk.x check failed: x must be a string")
  let decoded ← mapErr (fun error => .header error.display)
    (decodeB64 lib x "protected header jwk.x")
  let publicKey ← okOr (toArray32 decoded)
    (.header ("protected header jwk.x check failed: Ed25519 public key is " ++
      toString decoded.length ++ " bytes, expected 32"))
  let expectedKid := lib.encode (lib.sha256 publicKey.toBytes).toBytes
  ensure (((header.get "kid").bind Value.asStr).any
      fun value => safeEqual (bytes value) (bytes expectedKid))
    (.header "protected header kid check failed: kid does not equal b64url(sha256(jwk.x))")
  pure { value := header, publicKey }

/-- `format!("{}.{}", envelope.protected, envelope.payload)`, as bytes. -/
def signingInput (envelope : JwsEnvelope) : Bytes :=
  bytes (envelope.protectedHeader ++ "." ++ envelope.payload)

/-- `verify_signature`: the payload that the signature covers. -/
def verifySignature (envelope : JwsEnvelope) (publicKey : Array32) : ReceiptResult Bytes := do
  let payload ← decodeB64 lib envelope.payload "JWS payload"
  let signature ← mapErr (fun error => .signature error.display)
    (decodeB64 lib envelope.signature "JWS signature")
  ensure (signature.length == 64)
    (.signature "Ed25519 signature check failed: signature must be 64 bytes")
  mapErr (fun error =>
      .signature ("Ed25519 signature check failed: invalid public key: " ++ error))
    (lib.fromBytes publicKey)
  ensure (lib.verifyStrict publicKey (signingInput envelope) signature)
    (.signature "Ed25519 signature check failed")
  pure payload

/-! ## Issuer -/

/-- The spelling of an origin that `canonical_https_origin` returns. -/
def canonicalOrigin (parsed : Whatwg.Url) : String :=
  let host := parsed.host.getD ""
  match parsed.port with
  | none => "https://" ++ host
  | some port => "https://" ++ host ++ ":" ++ toString port

/-- `canonical_https_origin`. The host of a parsed URL is its serialisation, which is what
the three arms of the source print. An empty password is none. -/
def canonicalHttpsOrigin (value check : String) : ReceiptResult String := do
  ensure (!isEmpty value)
    (.issuer (check ++ " check failed: required HTTPS origin is missing"))
  let parsed ← mapErr (fun _ => .issuer (check ++ " check failed: invalid HTTPS origin"))
    (lib.parseUrl value)
  ensure (parsed.scheme == "https")
    (.issuer (check ++ " check failed: issuer origin must use https"))
  ensure (parsed.host.isSome && isEmpty parsed.username && isEmpty parsed.password &&
      parsed.pathString == "/" && parsed.query.isNone && parsed.fragment.isNone)
    (.issuer (check ++
      " check failed: expected an origin with no path, query, or fragment"))
  let canonical := canonicalOrigin parsed
  let normalizedInput := toAsciiLowercase ((stripSuffixChar value '/').getD value)
  let canonicalInput := toAsciiLowercase canonical
  let explicitDefaultPort := canonicalInput ++ ":443"
  ensure (normalizedInput == canonicalInput ||
      (parsed.port.isNone && normalizedInput == explicitDefaultPort))
    (.issuer (check ++ " check failed: invalid HTTPS origin"))
  pure canonical

/-- The version check of `verify_receipt_with`. -/
def checkVersion (claims : Serde.Map) : ReceiptResult Int := do
  let rv := (claims.get "rv").bind Value.asI64
  ensure (rv == some 1) (.claims ("rv claim check failed: expected integer 1, got " ++
    displayValue lib (claims.get "rv")))
  pure (rv.getD 0)

/-- The issuer check of `verify_receipt_with`, on the canonical form of the caller's pin. -/
def checkIssuer (claims : Serde.Map) (canonicalExpectedIssuer : String) :
    ReceiptResult String := do
  let iss ← requiredString claims "iss" "claims"
  let canonicalIssuer ← canonicalHttpsOrigin lib iss "iss claim"
  ensure (safeEqual (bytes canonicalIssuer) (bytes canonicalExpectedIssuer))
    (.issuer ("iss claim check failed: expected " ++ lib.debug canonicalExpectedIssuer ++
      ", got " ++ lib.debug canonicalIssuer))
  pure iss

/-! ## Time -/

/-- The current time of `verify_receipt_with`: the caller's, or the clock's if it fits. -/
def currentTime (options : ReceiptVerificationOptions) : ReceiptResult Int :=
  match options.now with
  | some value => pure value.toInt
  | none => do
      let seconds ← mapErr .time lib.clock
      ensure (decide (seconds.toNat < 2 ^ 63))
        (.time "current Unix time does not fit in i64")
      pure seconds.toNat

/-- The age of a receipt: absent when the subtraction overflows or is negative. -/
def receiptAge (now iat : Int) : Option Nat :=
  (I64.checkedSub now iat).bind fun value => if 0 ≤ value then some value.toNat else none

/-- The checks of `verify_receipt_with` on the issue time. -/
def checkTime (options : ReceiptVerificationOptions) (iat : Int) : ReceiptResult Unit := do
  let now ← currentTime lib options
  ensure (decide (iat ≤ I64.saturatingAdd now 60))
    (.time ("iat future-skew check failed: iat=" ++ toString iat ++
      " is more than 60 seconds after now=" ++ toString now))
  match options.maxAgeSeconds with
  | none => pure ()
  | some maxAge =>
      let age := receiptAge now iat
      ensure (!age.any (fun value => decide (maxAge < value)))
        (.time ("iat max-age check failed: receipt age " ++ toString (age.getD 0) ++
          "s exceeds " ++ toString maxAge ++ "s"))

/-! ## Route, model, pin and nonce -/

/-- The route check of `verify_receipt_with`. -/
def checkRoute (claims : Serde.Map) : ReceiptResult String := do
  let route ← requiredString claims "route" "claims"
  ensure (route == "chat.completions" || route == "responses")
    (.claims ("route claim check failed: unsupported route " ++ lib.debug route))
  pure route

/-- The model claims. -/
def modelClaims (claims : Serde.Map) : ReceiptResult ReceiptModelClaims := do
  let model ← requiredObject claims "model" .claims
  let requested ← requiredString model "requested" "model"
  let selected ← requiredString model "selected" "model"
  let provider ← requiredString model "provider" "model"
  let endpoint ← requiredString model "endpoint" "model"
  pure { requested, selected, provider, endpoint }

/-- An attestation pin is the encoding of a 32-byte digest. -/
def checkPin (attSha256 : Option String) : ReceiptResult Unit :=
  match attSha256 with
  | none => pure ()
  | some encoded => do
      let decoded ← mapErr (fun error => .claims error.display)
        (decodeB64 lib encoded "att_sha256 claim")
      ensure (decoded.length == 32)
        (.claims "att_sha256 claim check failed: SHA-256 digest must be 32 bytes")

/-- The attestation pin of `verify_receipt_with`, which a compact receipt must have. -/
def checkAttSha256 (claims : Serde.Map) (flattened : Bool) :
    ReceiptResult (Option String) := do
  let attSha256 ← optionalString claims "att_sha256" "claims"
  checkPin lib attSha256
  ensure (flattened || attSha256.isSome) (.claims
    "att_sha256 claim check failed: compact receipts must pin an attestation document")
  pure attSha256

/-- A string or its absence under `{:?}`. -/
def debugOption (value : Option String) : String :=
  match value with
  | none => "None"
  | some value => "Some(" ++ lib.debug value ++ ")"

/-- The nonce check of `verify_receipt_with`. -/
def checkNonce (claims : Serde.Map) (expectedNonce : Option String) :
    ReceiptResult (Option String) := do
  let nonce ← optionalNonce claims
  match expectedNonce with
  | none => pure nonce
  | some expected =>
      ensure (nonce.any fun actual => safeEqual (bytes actual) (bytes expected))
        (.nonce ("nonce match check failed: expected " ++ lib.debug expected ++ ", got " ++
          debugOption lib nonce))
      pure nonce

/-! ## Upstream -/

/-- The verification window of the upstream: both ends for a TEE, none for plain TLS. -/
def upstreamWindow (upstream : Serde.Map) (iat : Int) :
    ReceiptResult (Option Int × Option Int) :=
  let tier := (upstream.get "tier").bind Value.asStr
  if tier = some "tee-verified" then do
    let verifiedAt ← integer (upstream.get "verified_at") "upstream.verified_at" .upstream
    let expiresAt ← integer (upstream.get "verification_expires_at")
      "upstream.verification_expires_at" .upstream
    ensure (decide (verifiedAt ≤ iat) && decide (iat < expiresAt))
      (.upstream ("tee-verified window check failed: expected verified_at <= iat < " ++
        "verification_expires_at"))
    pure (some verifiedAt, some expiresAt)
  else if tier = some "tls-webpki" then pure (none, none)
  else
    .error (.upstream ("upstream.tier check failed: unsupported tier " ++
      displayValue lib (upstream.get "tier")))

/-- The upstream claims. -/
def upstreamClaims (claims : Serde.Map) (iat : Int) :
    ReceiptResult ReceiptUpstreamClaims := do
  let upstream ← requiredObject claims "upstream" .upstream
  let tier := (upstream.get "tier").bind Value.asStr
  let (verifiedAt, verificationExpiresAt) ← upstreamWindow lib upstream iat
  let policy ← optionalString upstream "policy" "upstream"
  ensure (!(tier == some "tee-verified" && policy.isNone)) (.upstream
    "upstream.policy check failed: tee-verified receipts require a policy")
  let certSha256 ← optionalString upstream "cert_sha256" "upstream"
  pure { tier := tier.getD "", policy, verifiedAt, verificationExpiresAt, certSha256 }

/-! ## Digests -/

/-- The domains of a stream digest. -/
def isSseDomain (domain : String) : Bool := domain == "sse-data-v1" || domain == "sse-events-v1"

/-- The `events` member of a digest record. -/
def eventsClaim (record : Serde.Map) (name : String) (response : Bool) (domain : String) :
    ReceiptResult (Option Nat) :=
  let misplaced := .error (.hash (name ++
    ".events check failed: body receipts must omit events"))
  match record.get "events" with
  | none =>
      if domain = "body" then pure none
      else if response then pure none
      else misplaced
  | some value =>
      if domain = "body" then
        match value with
        | .null => pure none
        | _ => misplaced
      else if response then do
        let events ← okOr value.asU64 (.hash (name ++
          ".events check failed: value must be a non-negative integer"))
        pure (some events)
      else misplaced

/-- `digest_claim`. -/
def digestClaim (record : Serde.Map) (name : String) (response : Bool) :
    ReceiptResult ReceiptHashClaims := do
  ensure ((record.get "alg").bind Value.asStr == some "sha256")
    (.hash (name ++ ".alg check failed: expected 'sha256', got " ++
      displayValue lib (record.get "alg")))
  let encoded ← okOr ((record.get "hash").bind Value.asStr)
    (.hash (name ++ ".hash check failed: required string is missing"))
  let digest ← hashBytes lib encoded (name ++ ".hash")
  ensure (digest.length == 32)
    (.hash (name ++ ".hash check failed: SHA-256 digest must be 32 bytes"))
  let domain := ((record.get "of").bind Value.asStr).getD ""
  ensure (domain == "body" || (response && isSseDomain domain))
    (.hash (name ++ ".of check failed: unsupported hash domain " ++
      displayValue lib (record.get "of")))
  let events ← eventsClaim record name response domain
  pure { alg := "sha256", hash := encoded, of := domain, events }

/-- The request digest, checked against the caller's request body. -/
def checkRequest (claims : Serde.Map) (options : ReceiptVerificationOptions) :
    ReceiptResult ReceiptHashClaims := do
  let record ← requiredObject claims "req" .hash
  let req ← digestClaim lib record "req" false
  match options.requestBody with
  | none => pure req
  | some body =>
      let expected ← hashBytes lib req.hash "req.hash"
      ensure (safeEqual (lib.sha256 body).toBytes expected)
        (.hash "request body hash check failed: req.hash does not match")
      pure req

/-- The response digest against a body. -/
def checkBody (resp : ReceiptHashClaims) (expected body : Bytes) : ReceiptResult Unit := do
  ensure (resp.of == "body") (.hash ("response body hash check failed: resp.of is " ++
    lib.debug resp.of ++ ", expected 'body'"))
  ensure (safeEqual (lib.sha256 body).toBytes expected)
    (.hash "response body hash check failed: resp.hash does not match")

/-- The response digest and event count against a captured stream. -/
def checkStream (resp : ReceiptHashClaims) (expected stream : Bytes)
    (flattenedValue : Option Value) : ReceiptResult Unit := do
  ensure (isSseDomain resp.of) (.hash ("response stream hash check failed: resp.of is " ++
    lib.debug resp.of ++ ", expected an SSE domain"))
  let (actual, events) ← streamDigest lib stream resp.of flattenedValue
  ensure (safeEqual actual.toBytes expected)
    (.hash "response stream hash check failed: resp.hash does not match")
  ensure (!resp.events.any (· != events))
    (.hash ("response stream events check failed: counted " ++ toString events ++
      ", receipt claims " ++ toString (resp.events.getD 0)))

/-- The response digest against what the caller has of the response. -/
def checkTraffic (options : ReceiptVerificationOptions) (resp : ReceiptHashClaims)
    (expected : Bytes) (flattenedValue : Option Value) : ReceiptResult Unit :=
  match options.responseBody, options.responseStream with
  | some body, _ => checkBody lib resp expected body
  | none, some stream => checkStream lib resp expected stream flattenedValue
  | none, none => pure ()

/-- The response digest, checked against the caller's response. -/
def checkResponse (claims : Serde.Map) (options : ReceiptVerificationOptions)
    (flattenedValue : Option Value) : ReceiptResult ReceiptHashClaims := do
  let record ← requiredObject claims "resp" .hash
  let resp ← digestClaim lib record "resp" true
  ensure (!(options.responseBody.isSome && options.responseStream.isSome))
    (.hash ("response hash check failed: provide response_body or response_stream, " ++
      "not both"))
  let expected ← hashBytes lib resp.hash "resp.hash"
  checkTraffic lib options resp expected flattenedValue
  pure resp

/-! ## Bindings and attestation -/

/-- `require_traffic_bindings`. -/
def requireTrafficBindings (options : ReceiptVerificationOptions) : ReceiptResult Unit :=
  if !options.requireBindings then .ok ()
  else do
    let missingRequest := options.requestBody.isNone
    let missingResponse := options.responseBody.isNone && options.responseStream.isNone
    ensure (!(missingRequest && missingResponse))
      (.missingBinding ("receipt binding check failed: missing request_body and " ++
        "response_body or response_stream"))
    ensure (!missingRequest)
      (.missingBinding "receipt binding check failed: missing request_body")
    ensure (!missingResponse) (.missingBinding
      "receipt binding check failed: missing response_body or response_stream")

/-- `key_commitment`. -/
def keyCommitment (publicKey : Array32) : Array32 :=
  lib.sha256 (keyCommitmentDomain ++ publicKey.toBytes)

/-- `attestation_status` of a compact receipt: the evidence is the caller's, pinned by the
claim. -/
def compactStatus (suppliedAttestation : Option Bytes) (attSha256 : Option String)
    (requireAttestation : Bool) (verifyGcp : Bytes → ReceiptResult Unit) :
    ReceiptResult ReceiptAttestationStatus :=
  match suppliedAttestation with
  | none => do
      ensure (!requireAttestation) (.missingAttestation
        ("attestation check failed: compact receipts omit attestation evidence; obtain " ++
          "the pinned document or explicitly set require_attestation to false"))
      pure .unverifiedByThisSdk
  | some attestation => do
      let encodedDigest ← okOr attSha256 (.missingAttestation
        "attestation check failed: compact receipt has no att_sha256 claim")
      let expectedDigest ← decodeB64 lib encodedDigest "att_sha256 claim"
      ensure (safeEqual (lib.sha256 attestation).toBytes expectedDigest) (.attestation
        "att_sha256 check failed: supplied attestation does not match the compact receipt")
      verifyGcp attestation
      pure .verified

/-- The `att_kind` check of `attestation_status`. -/
def checkAttKind (header : Serde.Map) : ReceiptResult Unit :=
  let kind := header.get "att_kind"
  match kind.bind Value.asStr with
  | none =>
      .error (.missingAttestation
        "attestation check failed: flattened receipt has no att_kind")
  | some text =>
      if text = "gcp-cs-jwt" then .ok ()
      else if text = "aws-nitro-cose" ∨ text = "azure-maa-jwt" then
        .error (.unsupportedAttestation ("attestation kind check failed: " ++
          displayValue lib kind ++ " is not supported by this SDK"))
      else
        .error (.unsupportedAttestation
          ("attestation kind check failed: unsupported att_kind " ++ displayValue lib kind))

/-- `attestation_status` of a flattened receipt: the evidence is embedded in the header. -/
def flattenedStatus (header : Serde.Map) (suppliedAttestation : Option Bytes)
    (verifyGcp : Bytes → ReceiptResult Unit) : ReceiptResult ReceiptAttestationStatus := do
  checkAttKind lib header
  let embeddedAttestation ← okOr
    (((header.get "att").bind Value.asStr).filter (fun value => !isEmpty value))
    (.missingAttestation "attestation check failed: flattened receipt has no embedded att")
  ensure (!suppliedAttestation.any
      fun supplied => !safeEqual supplied (bytes embeddedAttestation))
    (.attestation ("attestation check failed: supplied attestation does not match the " ++
      "flattened receipt's embedded attestation"))
  verifyGcp (bytes embeddedAttestation)
  pure .verified

/-- `attestation_status`. -/
def attestationStatus (envelope : JwsEnvelope) (header : ParsedHeader)
    (suppliedAttestation : Option Bytes) (attSha256 : Option String)
    (requireAttestation : Bool) (verifyGcp : Bytes → ReceiptResult Unit) :
    ReceiptResult ReceiptAttestationStatus :=
  if envelope.flattened then
    flattenedStatus lib header.value suppliedAttestation verifyGcp
  else compactStatus lib suppliedAttestation attSha256 requireAttestation verifyGcp

/-! ## Verification -/

/-- `verify_receipt_with`. -/
def verifyReceiptWith (receipt : Bytes) (expectedIssuer : String)
    (options : ReceiptVerificationOptions) (verifyGcp : VerifyGcp) :
    ReceiptResult ReceiptClaims := do
  requireTrafficBindings options
  let canonicalExpectedIssuer ← canonicalHttpsOrigin lib expectedIssuer "expected_issuer"
  let envelope ← parseEnvelope lib receipt
  let header ← parseHeader lib envelope
  let payloadBytes ← verifySignature lib envelope header.publicKey
  let payload ← loadJson lib payloadBytes "receipt claims"
  let claims ← okOr payload.asObject
    (.claims "rv claim check failed: receipt claims must be a JSON object")
  let rv ← checkVersion lib claims
  let iss ← checkIssuer lib claims canonicalExpectedIssuer
  let iat ← integer (claims.get "iat") "iat claim" .time
  checkTime lib options iat
  let jti ← requiredString claims "jti" "claims"
  let gen ← optionalString claims "gen" "claims"
  let route ← checkRoute lib claims
  let model ← modelClaims claims
  let attSha256 ← checkAttSha256 lib claims envelope.flattened
  let nonce ← checkNonce lib claims options.expectedNonce
  let upstream ← upstreamClaims lib claims iat
  let req ← checkRequest lib claims options
  let resp ← checkResponse lib claims options envelope.flattenedValue
  let attestationStatus ← attestationStatus lib envelope header options.attestation
    attSha256 options.requireAttestation
    (fun attestation => verifyGcp attestation (keyCommitment lib header.publicKey))
  pure { rv, iss, iat, jti, gen, nonce, route, req, resp, model, upstream, attSha256,
         attestationStatus }

end

end TrustedRouter.Receipts
