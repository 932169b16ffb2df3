import TrustedRouter.Error
import TrustedRouter.Lib.Result

/-!
# `TrustedRouter.Attestation`: Confidential Space attestation

`crates/trusted-router/src/attestation.rs`. `verifiedJwtClaims` picks the signing key of a
token and lets the JWT library check the signature, issuer, audience and expiry.
`verifyClaims` is everything the SDK checks on the claims after that, in the order of the
source. It is cut in two where the source returns early for a document: `checkToken` is
what both modes check and `checkChannel` is what a live channel adds.

SHA-256, the JWT library and the fetch of the key set are parameters.
-/

set_option autoImplicit false

namespace TrustedRouter.Attestation

open Rust (Bytes)
open Rust.Str
open Rust.Result
open Serde (Value)

/-- Required TLS exporter length. -/
def exporterLength : Nat := 32

/-- What a verified attestation proves about the caller's connection, weakest first. -/
inductive AttestationBinding where
  | none
  | tlsCert
  | tlsExporter
  deriving DecidableEq, Repr

/-- Pinned workload values that a gateway attestation must match. -/
structure AttestationPolicy where
  audience : String := "quill-cloud"
  expectedCertSha256 : Option String := .none
  expectedImageDigest : Option String := .none
  expectedImageDigests : List String := []
  expectedImageReference : Option String := .none
  expectedImageReferences : List String := []
  allowDebug : Bool := false

namespace AttestationPolicy

/-- A pin that is there and not empty: the set decides when it is not empty, and the
single value otherwise. -/
def hasPin (single : Option String) (set : List String) : Bool :=
  if set.isEmpty then single.any (fun value => !isEmpty value)
  else set.any (fun value => !isEmpty value)

/-- Whether the policy constrains which workload image is acceptable. -/
def pinsImageIdentity (policy : AttestationPolicy) : Bool :=
  hasPin policy.expectedImageDigest policy.expectedImageDigests ||
    hasPin policy.expectedImageReference policy.expectedImageReferences

/-- The values `verify_claims` accepts: the transition set, or the single pin when the set
is empty. -/
def acceptedSet (single : Option String) (set : List String) : List String :=
  if set.isEmpty then single.toList else set

/-- The digests `verify_claims` accepts. -/
def acceptedImageDigests (policy : AttestationPolicy) : List String :=
  acceptedSet policy.expectedImageDigest policy.expectedImageDigests

/-- The references `verify_claims` accepts. -/
def acceptedImageReferences (policy : AttestationPolicy) : List String :=
  acceptedSet policy.expectedImageReference policy.expectedImageReferences

end AttestationPolicy

/-- The signed public release metadata the policy is built from. -/
structure TrustRelease where
  imageReference : String := ""
  acceptedImageReferences : List String := []
  imageDigest : String := ""
  acceptedImageDigests : List String := []
  attestationAudience : String := ""

/-- `nonempty`. -/
def nonempty (value : String) : Option String :=
  if isEmpty value then .none else some value

/-- Builds a policy from a trust release, and refuses one that pins no image. -/
def policyFromTrustRelease (release : TrustRelease) (certSha256 : Option String) :
    Except Error AttestationPolicy := do
  let expectedImageDigests :=
    if release.acceptedImageDigests.isEmpty then (nonempty release.imageDigest).toList
    else release.acceptedImageDigests
  let expectedImageReferences :=
    if release.acceptedImageReferences.isEmpty then (nonempty release.imageReference).toList
    else release.acceptedImageReferences
  let policy : AttestationPolicy :=
    { audience :=
        if isEmpty release.attestationAudience then "quill-cloud"
        else release.attestationAudience
      expectedCertSha256 := certSha256
      expectedImageDigest := nonempty release.imageDigest
      expectedImageDigests
      expectedImageReference := nonempty release.imageReference
      expectedImageReferences
      allowDebug := false }
  ensure policy.pinsImageIdentity (.attestation
    ("trust release pins no image identity (none of image_digest, " ++
      "accepted_image_digests, image_reference, accepted_image_references); " ++
      "refusing to build a policy that would accept any Confidential Space workload"))
  pure policy

/-- Inputs for offline or live attestation verification. -/
structure AttestationVerificationOptions where
  policy : AttestationPolicy
  nonceHex : Option String := .none
  tlsCertificateDer : Option Bytes := .none
  tlsExporter : Option Bytes := .none
  jwks : Option Value := .none
  jwksUrl : Option String := .none

/-- Verified gateway attestation result. -/
structure GatewayAttestation where
  binding : AttestationBinding
  certSha256 : String
  imageDigest : String
  imageReference : String
  nonce : Option String
  expiresAt : Int
  issuer : String
  audience : String
  rawClaims : Value

/-- Whether the token is checked against a live connection or on its own. -/
inductive AttestationBindingMode where
  | liveChannel
  | document
  deriving DecidableEq, Repr

/-- `optional_claim_string`: an absent claim is the empty string, a claim of another type
is refused. The pointer is given as its reference tokens. -/
def optionalClaimString (claims : Value) (pointer : List String) : Except Error String :=
  match claims.pointer pointer with
  | .none => .ok ""
  | some (.string value) => .ok value
  | some _ => .error (.attestation
      ("/" ++ String.intercalate "/" pointer ++ " must be a string"))

/-- `string_list`: no value, one string, or an array of strings. -/
def stringList : Value → Except Error (List String)
  | .null => .ok []
  | .string value => .ok [value]
  | .array values => values.mapM fun value =>
      okOr value.asStr (.attestation "nonce must be a string")
  | _ => .error (.attestation "nonces must be a string or string array")

/-- `require_equal`: an absent or empty pin asks for nothing. -/
def requireEqual (field actual : String) (expected : Option String) : Except Error Unit :=
  match expected.filter (fun value => !isEmpty value) with
  | .none => .ok ()
  | some expected =>
      ensure (safeEq actual expected) (.attestation (field ++ " pin mismatch"))

/-- `require_one_of`: an empty list asks for nothing, and an empty entry never matches. -/
def requireOneOf (field actual : String) (expected : List String) : Except Error Unit :=
  ensure (expected.isEmpty ||
      expected.any (fun value => !isEmpty value && safeEq actual value))
    (.attestation (field ++ " pin mismatch"))

/-- The nonces a token carries: `eat_nonce`, or the legacy `nonces` when there is no
`eat_nonce` at all. -/
def tokenNonces (claims : Value) : Except Error (List String) :=
  stringList (((claims.get "eat_nonce").or (claims.get "nonces")).getD .null)

/-- The nonce check. A live channel compares exactly and reads either claim. A document
compares without case and reads `eat_nonce` only. -/
def requireNonce (claims : Value) (nonces : List String) (mode : AttestationBindingMode)
    (nonceHex : Option String) : Except Error Unit :=
  match nonceHex with
  | .none => .ok ()
  | some nonce => do
      let noncePresent ←
        match mode with
        | .liveChannel => pure (nonces.any (fun value => safeEq value nonce))
        | .document => do
            let eatNonces ← stringList ((claims.get "eat_nonce").getD .null)
            pure (eatNonces.any fun value =>
              safeEq (toAsciiLowercase value) (toAsciiLowercase nonce))
      ensure noncePresent (.attestation "nonce is not bound in JWT")

/-- The exporter check. -/
def requireExporter (nonces : List String) (options : AttestationVerificationOptions) :
    Except Error Unit :=
  match options.tlsExporter with
  | .none => .ok ()
  | some exporter => do
      ensure (exporter.length == exporterLength)
        (.attestation "TLS exporter must be 32 bytes")
      let nonce ← okOr options.nonceHex (.attestation "fresh nonce required with exporter")
      let exporterHex := hex exporter
      ensure (!safeEq (toAsciiLowercase nonce) exporterHex)
        (.attestation "fresh nonce must differ from TLS exporter")
      ensure (nonces.any fun value => safeEq (toAsciiLowercase value) exporterHex)
        (.attestation "TLS exporter is not bound in JWT")

/-- The certificate hash a labelled claim commits to, lowercased. The second label is
read only when the first is absent. -/
def labelledCert (claims : Value) : Option String :=
  (((claims.get "tls_cert_sha256").or (claims.get "workload_tls_cert_sha256")).bind
    Value.asStr).map toAsciiLowercase

/-- The certificate hash the token commits to: a labelled claim, or else the hash of the
supplied certificate when it is one of the nonces. -/
def committedCert (claims : Value) (nonces : List String) (actualCert : Option String) :
    Option String :=
  (labelledCert claims).or
    (actualCert.bind fun actual =>
      if nonces.any (fun nonce => safeEq (toAsciiLowercase nonce) actual) then some actual
      else .none)

/-- `is_sha256_hex`. -/
def isSha256Hex (value : String) : Bool :=
  len value == 64 && value.toList.all isAsciiHexdigit

/-- The binding that the supplied connection evidence amounts to. -/
def bindingOf (options : AttestationVerificationOptions) : AttestationBinding :=
  if options.tlsExporter.isSome then .tlsExporter
  else if options.tlsCertificateDer.isSome then .tlsCert
  else .none

/-- The error of a token without a certificate commitment names the way out when no
certificate was supplied. -/
def noCertMessage (options : AttestationVerificationOptions) : String :=
  if options.tlsCertificateDer.isSome then "JWT does not bind a TLS certificate"
  else "JWT does not bind a TLS certificate; pass tls_certificate_der from this " ++
    "connection, or use verify_gateway_attestation_document for document-only " ++
    "verification"

/-- What the first half of `verify_claims` has read from a token. -/
structure CheckedToken where
  imageDigest : String
  imageReference : String
  expiresAt : Int
  issuer : String
  nonces : List String

/-- The first half of `verify_claims`, up to the nonce check: what both modes check. -/
def checkToken (claims : Value) (options : AttestationVerificationOptions)
    (mode : AttestationBindingMode) : Except Error CheckedToken := do
  let policy := options.policy
  ensure (policy.allowDebug || ((claims.get "dbgstat").bind Value.asStr).any
      (fun value => eqIgnoreAsciiCase value "disabled-since-boot"))
    (.attestation "debug state must be disabled-since-boot")
  ensure ((claims.get "swname").bind Value.asStr == some "CONFIDENTIAL_SPACE")
    (.attestation "workload is not Confidential Space")
  ensure ((claims.get "secboot").bind Value.asBool == some true)
    (.attestation "Secure Boot is not attested")
  let hardware := ((claims.get "hwmodel").bind Value.asStr).getD ""
  ensure (["GCP_AMD_SEV", "GCP_AMD_SEV_ES", "GCP_INTEL_TDX"].contains hardware)
    (.attestation ("unsupported confidential hardware: " ++ hardware))
  let imageDigest ← optionalClaimString claims ["submods", "container", "image_digest"]
  let imageReference ← optionalClaimString claims ["submods", "container", "image_reference"]
  let expiresAt ← okOr ((claims.get "exp").bind Value.asI64)
    (.attestation "exp must be an integer")
  let issuer ← okOr ((claims.get "iss").bind Value.asStr)
    (.attestation "iss must be a string")
  ensure policy.pinsImageIdentity (.attestation
    ("attestation policy pins no image identity; refusing to verify against a " ++
      "policy that cannot distinguish the gateway from any other workload"))
  requireOneOf "image digest" imageDigest policy.acceptedImageDigests
  requireOneOf "image reference" imageReference policy.acceptedImageReferences
  let nonces ← tokenNonces claims
  requireNonce claims nonces mode options.nonceHex
  pure { imageDigest, imageReference, expiresAt, issuer, nonces }

/-- The second half of `verify_claims`, which only a live channel reaches: the exporter
and the certificate. It returns the certificate hash to report. -/
def checkChannel (sha256 : Bytes → Bytes) (claims : Value) (nonces : List String)
    (options : AttestationVerificationOptions) : Except Error String := do
  requireExporter nonces options
  let actualCert := options.tlsCertificateDer.map fun certificate => hex (sha256 certificate)
  let certSha256 ← okOr (committedCert claims nonces actualCert)
    (.attestation (noCertMessage options))
  ensure (isSha256Hex certSha256) (.attestation "invalid TLS certificate commitment")
  ensure (actualCert.all fun actual => safeEq actual certSha256)
    (.attestation "TLS certificate does not match JWT")
  requireEqual "TLS certificate" certSha256 options.policy.expectedCertSha256
  pure certSha256

/-- `verify_claims`. A document stops after the first half, with nothing bound. -/
def verifyClaims (sha256 : Bytes → Bytes) (claims : Value)
    (options : AttestationVerificationOptions) (mode : AttestationBindingMode) :
    Except Error GatewayAttestation := do
  let token ← checkToken claims options mode
  let (binding, certSha256) ←
    match mode with
    | .document => pure (.none, "")
    | .liveChannel => do
        let certSha256 ← checkChannel sha256 claims token.nonces options
        pure (bindingOf options, certSha256)
  pure
    { binding
      certSha256
      imageDigest := token.imageDigest
      imageReference := token.imageReference
      nonce := options.nonceHex
      expiresAt := token.expiresAt
      issuer := token.issuer
      audience := options.policy.audience
      rawClaims := claims }

/-- `is_fresh_nonce_hex`: 16 to 64 bytes as hex. -/
def isFreshNonceHex (nonce : String) : Bool :=
  32 ≤ len nonce && len nonce ≤ 128 && len nonce % 2 == 0 &&
    nonce.toList.all isAsciiHexdigit

/-- The entries `cert_sha256_candidates` walks: the labelled claims that are there, then
the entries of `eat_nonce`. -/
def candidateValues (claims : Value) : List Value :=
  (claims.get "tls_cert_sha256").toList ++ (claims.get "workload_tls_cert_sha256").toList ++
    match claims.get "eat_nonce" with
    | some (.array values) => values
    | some value => [value]
    | .none => []

/-- One entry of the walk: a hash-shaped string other than the nonce joins the list once,
lowercased. -/
def pushCandidate (nonce : String) (candidates : List String) (value : Value) : List String :=
  match value.asStr.filter isSha256Hex with
  | .none => candidates
  | some text =>
      let hex := toAsciiLowercase text
      if hex != nonce && !candidates.contains hex then candidates ++ [hex] else candidates

/-- `cert_sha256_candidates`. -/
def certSha256Candidates (claims : Value) (nonceHex : String) : List String :=
  (candidateValues claims).foldl (pushCandidate (toAsciiLowercase nonceHex)) []

/-- Issuer used by Google Confidential Space attestation JWTs. -/
def gcpIssuer : String := "https://confidentialcomputing.googleapis.com"

/-- Public Google JWKS for Confidential Space workload attestations. -/
def gcpJwksUrl : String :=
  "https://www.googleapis.com/service_accounts/v1/metadata/jwk/" ++
    "signer@confidentialspace-sign.iam.gserviceaccount.com"

/-- `jsonwebtoken::Algorithm`. -/
inductive Algorithm where
  | hs256 | hs384 | hs512
  | es256 | es384
  | rs256 | rs384 | rs512
  | ps256 | ps384 | ps512
  | edDSA
  deriving DecidableEq, Repr

/-- The members of a JWT header that the SDK reads. -/
structure JwtHeader where
  alg : Algorithm
  kid : Option String

/-- The JWT library and the key-set fetch. `decode` checks the signature, that `iss` and
`aud` are the given ones, and that the token has not expired. -/
structure JwtLibrary where
  /-- The message of a failed `str::from_utf8`. -/
  utf8Error : Bytes → String
  DecodingKey : Type
  decodeHeader : String → Except String JwtHeader
  fromRsaComponents : String → String → Except String DecodingKey
  decode : String → DecodingKey → (issuer audience : String) → Except String Value
  fetchJwks : String → Except Error Value

section EntryPoints
variable (sha256 : Bytes → Bytes) (jwt : JwtLibrary)

/-- The first key of a key set with the given `kid`. -/
def findJwk (jwks : Value) (kid : String) : Option Value :=
  ((jwks.get "keys").bind Value.asArray).bind fun keys =>
    keys.find? fun key => (key.get "kid").bind Value.asStr == some kid

/-- `verified_jwt_claims`. -/
def verifiedJwtClaims (document : Bytes) (options : AttestationVerificationOptions) :
    Except Error Value := do
  let text ← okOr (fromUtf8 document)
    (.attestation ("attestation is not ASCII JWT: " ++ jwt.utf8Error document))
  let token := trim text
  ensure ((split '.' token).length == 3) (.attestation "expected three JWT segments")
  let header ← mapErr (fun error => .attestation ("invalid JWT header: " ++ error))
    (jwt.decodeHeader token)
  ensure (header.alg == .rs256) (.attestation "expected RS256 JWT")
  let kid ← okOr header.kid (.attestation "JWT header is missing kid")
  let jwks ←
    match options.jwks with
    | some value => pure value
    | .none => jwt.fetchJwks (options.jwksUrl.getD gcpJwksUrl)
  let key ← okOr (findJwk jwks kid) (.attestation "no JWK matches JWT kid")
  ensure ((key.get "kty").bind Value.asStr == some "RSA")
    (.attestation "attestation JWK is not RSA")
  let modulus ← okOr ((key.get "n").bind Value.asStr)
    (.attestation "JWK is missing modulus")
  let exponent ← okOr ((key.get "e").bind Value.asStr)
    (.attestation "JWK is missing exponent")
  let decodingKey ← mapErr (fun error => .attestation ("malformed RSA JWK: " ++ error))
    (jwt.fromRsaComponents modulus exponent)
  mapErr (fun error => .attestation ("JWT verification failed: " ++ error))
    (jwt.decode token decodingKey gcpIssuer options.policy.audience)

/-- `verify_gateway_attestation`. -/
def verifyGatewayAttestation (document : Bytes) (options : AttestationVerificationOptions) :
    Except Error GatewayAttestation := do
  let claims ← verifiedJwtClaims jwt document options
  verifyClaims sha256 claims options .liveChannel

/-- Inputs for `verify_gateway_attestation_document`. -/
structure DocumentVerificationOptions where
  policy : AttestationPolicy
  nonceHex : String
  jwks : Option Value := .none
  jwksUrl : Option String := .none

/-- Result of `verify_gateway_attestation_document`: no certificate, only candidates. -/
structure GatewayAttestationDocument where
  binding : AttestationBinding
  certSha256Candidates : List String
  imageDigest : String
  imageReference : String
  nonce : String
  expiresAt : Int
  issuer : String
  audience : String
  rawClaims : Value

/-- `verify_gateway_attestation_document`. -/
def verifyGatewayAttestationDocument (document : Bytes)
    (options : DocumentVerificationOptions) : Except Error GatewayAttestationDocument := do
  ensure (isFreshNonceHex options.nonceHex) (.attestation
    "document verification requires a fresh nonce of 16 to 64 random bytes as hex")
  let options : AttestationVerificationOptions :=
    { policy := options.policy
      nonceHex := some options.nonceHex
      jwks := options.jwks
      jwksUrl := options.jwksUrl }
  let claims ← verifiedJwtClaims jwt document options
  let verified ← verifyClaims sha256 claims options .document
  let nonce := verified.nonce.getD ""
  pure
    { binding := .none
      certSha256Candidates := certSha256Candidates verified.rawClaims nonce
      imageDigest := verified.imageDigest
      imageReference := verified.imageReference
      nonce
      expiresAt := verified.expiresAt
      issuer := verified.issuer
      audience := verified.audience
      rawClaims := verified.rawClaims }

/-- `verify_receipt_key_attestation`. -/
def verifyReceiptKeyAttestation (document : Bytes)
    (options : AttestationVerificationOptions) : Except Error Unit := do
  ensure options.nonceHex.isSome (.attestation "receipt key commitment is required")
  let claims ← verifiedJwtClaims jwt document options
  let _ ← verifyClaims sha256 claims options .document
  pure ()

end EntryPoints

end TrustedRouter.Attestation
