import TrustedRouter.Attestation
import TrustedRouter.Receipts.Capture

/-!
# `TrustedRouter.Receipts.Online`: the verifier with its network

`crates/trusted-router/src/receipts.rs`, `verify_receipt` and `verify_gcp_attestation`, with
`fetch_jwks` of `attestation.rs`. `Receipts` leaves the check of an attestation document to its
caller. Here that check is the one the SDK ships: the trust release is fetched from one fixed
URL, the policy is built from it, the signing keys are fetched from another fixed URL, and the
document has to carry the commitment to the receipt key.

The network is a parameter, as are the printers of `reqwest` and the derived decoder of the
release. The client is built with redirects off, so a request is one exchange with one URL.
-/

set_option autoImplicit false

namespace TrustedRouter.Receipts

open Rust (Bytes)
open Rust.Str
open Rust.Result
open Serde (Value)
open Attestation (TrustRelease JwtLibrary AttestationVerificationOptions
  policyFromTrustRelease verifyReceiptKeyAttestation gcpJwksUrl)

/-- Public signed trust-release document. -/
def defaultTrustReleaseUrl : String := "https://trust.trustedrouter.com/trust/gcp-release.json"

/-- A response: its status, and the body or why it could not be read. -/
structure Reply where
  status : Nat
  body : Except String Bytes

/-- `StatusCode::is_success`. -/
def Reply.isSuccess (reply : Reply) : Bool := 200 ≤ reply.status && reply.status ≤ 299

/-- `Response::json`. -/
def Reply.json {α : Type} (reply : Reply) (parse : Bytes → Except String α) :
    Except String α := do
  let body ← reply.body
  parse body

/-- The HTTP client of the verifier. -/
structure Network where
  /-- `ClientBuilder::build`. -/
  build : Except String Unit
  /-- A `GET` that is sent without following redirects. -/
  get : String → Except String Reply

/-- The crates around the network. -/
structure Decoders where
  /-- The JWT library. Its key-set fetch is not used. -/
  jwt : JwtLibrary
  /-- A status under `{}`, with its reason. -/
  displayStatus : Nat → String
  /-- `serde_json::from_slice` into a value. -/
  readJson : Bytes → Except String Value
  /-- The derived `Deserialize` of `TrustRelease`. -/
  readRelease : Bytes → Except String TrustRelease

section
variable (decoders : Decoders) (network : Network)

/-- `fetch_jwks` with a supplied client. -/
def fetchJwks (url : String) : Except Error Value := do
  let response ← mapErr (fun error => .attestation ("JWKS fetch failed: " ++ error))
    (network.get url)
  ensure response.isSuccess (.attestation
    ("JWKS fetch returned HTTP " ++ decoders.displayStatus response.status))
  mapErr (fun error => .attestation ("invalid JWKS JSON: " ++ error))
    (response.json decoders.readJson)

/-- The JWT library with this network behind its key-set fetch. -/
def onlineJwt : JwtLibrary := { decoders.jwt with fetchJwks := fetchJwks decoders network }

/-- `receipt_verification_material_urls`. -/
def receiptVerificationMaterialUrls : String × String := (defaultTrustReleaseUrl, gcpJwksUrl)

/-- The first half of `verify_gcp_attestation`: the release from its URL. -/
def fetchTrustRelease (url : String) : ReceiptResult TrustRelease := do
  let response ← mapErr (fun error => .attestation ("trust release fetch failed: " ++ error))
    (network.get url)
  ensure response.isSuccess (.attestation
    ("trust release fetch returned HTTP " ++ decoders.displayStatus response.status))
  mapErr (fun error => .attestation ("invalid trust release JSON: " ++ error))
    (response.json decoders.readRelease)

variable (lib : Library)

/-- `verify_gcp_attestation`. -/
def verifyGcpAttestation : VerifyGcp := fun attestation commitment => do
  mapErr .attestation network.build
  let (trustReleaseUrl, jwksUrl) := receiptVerificationMaterialUrls
  let release ← fetchTrustRelease decoders network trustReleaseUrl
  let policy ← mapErr (fun error => .attestation error.display)
    (policyFromTrustRelease release none)
  let options : AttestationVerificationOptions :=
    { policy
      nonceHex := some (hex commitment.toBytes)
      jwksUrl := some jwksUrl }
  mapErr (fun error => .attestation ("GCP attestation check failed: " ++ error.display))
    (verifyReceiptKeyAttestation (fun data => (lib.sha256 data).toBytes)
      (onlineJwt decoders network) attestation options)

/-- `verify_receipt`. -/
def verifyReceipt (receipt : Bytes) (expectedIssuer : String)
    (options : ReceiptVerificationOptions) : ReceiptResult ReceiptClaims :=
  verifyReceiptWith lib receipt expectedIssuer options
    (verifyGcpAttestation decoders network lib)

/-- `ReceiptCapture::verify`. -/
def ReceiptCapture.verify (capture : ReceiptCapture) (expectedIssuer : String)
    (options : ReceiptVerificationOptions) : ReceiptResult ReceiptClaims :=
  capture.verifyWith lib expectedIssuer options (verifyGcpAttestation decoders network lib)

end

end TrustedRouter.Receipts
