import TrustedRouter.Lib.Json
import TrustedRouter.Lib.Result
import TrustedRouter.Lib.Url

/-!
# `TrustedRouter.Receipts.Basic`: errors, strict JSON and the claim readers

`crates/trusted-router/src/receipts.rs`, the parts every check of a receipt uses: the error
taxonomy, `load_json` with its duplicate-refusing visitor, `decode_b64`, and the functions
that read one member of an object.

What the code takes from other crates is in `Library`: SHA-256, base64url, Ed25519, the URL
parser, the JSON parser, the system clock, and the two printers its messages go through.
-/

set_option autoImplicit false

namespace TrustedRouter.Receipts

open Rust (Bytes)
open Rust.Str
open Rust.Result
open Serde (Raw Value)

/-- `[u8; 32]`: a SHA-256 digest or an Ed25519 public key. -/
structure Array32 where
  toBytes : Bytes
  length_toBytes : toBytes.length = 32
  deriving DecidableEq

/-- `ReceiptVerificationError`. -/
inductive ReceiptVerificationError where
  | structural (message : String)
  | header (message : String)
  | signature (message : String)
  | claims (message : String)
  | missingBinding (message : String)
  | issuer (message : String)
  | time (message : String)
  | nonce (message : String)
  | upstream (message : String)
  | hash (message : String)
  | attestation (message : String)
  | missingAttestation (message : String)
  | unsupportedAttestation (message : String)
  deriving DecidableEq, Repr

namespace ReceiptVerificationError

/-- What the message of an error starts with. Three kinds share one text. -/
def family : ReceiptVerificationError → String
  | structural _ => "structure"
  | header _ => "header"
  | signature _ => "signature"
  | claims _ => "claims"
  | missingBinding _ => "binding"
  | issuer _ => "issuer"
  | time _ => "time"
  | nonce _ => "nonce"
  | upstream _ => "upstream"
  | hash _ => "hash"
  | attestation _ => "attestation"
  | missingAttestation _ => "attestation"
  | unsupportedAttestation _ => "attestation"

/-- The text an error carries. -/
def message : ReceiptVerificationError → String
  | structural m | header m | signature m | claims m | missingBinding m | issuer m | time m
  | nonce m | upstream m | hash m | attestation m | missingAttestation m
  | unsupportedAttestation m => m

/-- `Display`. -/
def display (error : ReceiptVerificationError) : String :=
  "receipt " ++ error.family ++ " verification failed: " ++ error.message

end ReceiptVerificationError

/-- `ReceiptResult`. -/
abbrev ReceiptResult := Except ReceiptVerificationError

/-- The crates and the clock the verifier calls. -/
structure Library where
  /-- `Sha256::digest`. -/
  sha256 : Bytes → Array32
  /-- `URL_SAFE_NO_PAD.encode`. -/
  encode : Bytes → String
  /-- `URL_SAFE_NO_PAD.decode`. -/
  decode : String → Option Bytes
  /-- `VerifyingKey::from_bytes`: the bytes are a public key, or the message why not. -/
  fromBytes : Array32 → Except String Unit
  /-- `VerifyingKey::verify_strict`, on a key that `fromBytes` accepts. -/
  verifyStrict : (key : Array32) → (message signature : Bytes) → Bool
  /-- `url::Url::parse`. -/
  parseUrl : String → Except String Whatwg.Url
  /-- The parser behind `serde_json::Deserializer::from_slice`. -/
  read : Serde.Reader
  /-- Where `serde_json` says a visitor failed, as it stands after the visitor's text. -/
  place : Bytes → String
  /-- Seconds from the Unix epoch to `SystemTime::now()`, or the message of a clock before
  the epoch. -/
  clock : Except String UInt64
  /-- `Value::to_string`. -/
  print : Value → String
  /-- A string under `{:?}`. -/
  debug : String → String

section
variable (lib : Library)

/-! ## Strict JSON -/

mutual

/-- `StrictValueVisitor`: the value of a tree none of whose objects repeats a name. -/
def strictValue : Raw → Except String Value
  | .null => .ok .null
  | .bool b => .ok (.bool b)
  | .number n => .ok (.number n)
  | .string s => .ok (.string s)
  | .array values => do
      let values ← strictSeq values
      pure (.array values)
  | .object members => do
      let values ← strictMap members [] []
      pure (.object values)

/-- `visit_seq`. -/
def strictSeq : List Raw → Except String (List Value)
  | [] => .ok []
  | raw :: rest => do
      let value ← strictValue raw
      let values ← strictSeq rest
      pure (value :: values)

/-- `visit_map`, with the names seen and the members kept so far. -/
def strictMap : List (String × Raw) → List String → Serde.Map → Except String Serde.Map
  | [], _, values => .ok values
  | (key, raw) :: rest, seen, values => do
      ensure (!seen.contains key) ("duplicate JSON member " ++ lib.debug key)
      let value ← strictValue raw
      strictMap rest (key :: seen) (values.insert key value)

end

/-- The error of `load_json`. -/
def invalidJson (check error : String) : ReceiptVerificationError :=
  .structural (check ++ " check failed: invalid JSON: " ++ error)

/-- `load_json`. The visitor runs while the parser does. A text with a repeated name and a
syntax error after it fails here with the syntax error, and in the source with the name. -/
def loadJson (data : Bytes) (check : String) : ReceiptResult Value := do
  let (raw, rest) ← mapErr (invalidJson check) (lib.read data)
  let value ← mapErr (fun error => invalidJson check (error ++ lib.place data))
    (strictValue lib raw)
  mapErr (invalidJson check) (Serde.atEnd rest)
  pure value

/-! ## Base64url -/

/-- `byte.is_ascii_alphanumeric() || matches!(byte, b'_' | b'-')`. -/
def isBase64Url (byte : UInt8) : Bool :=
  (48 ≤ byte && byte ≤ 57) || (65 ≤ byte && byte ≤ 90) || (97 ≤ byte && byte ≤ 122) ||
    byte == 95 || byte == 45

/-- `decode_b64`. -/
def decodeB64 (value check : String) : ReceiptResult Bytes := do
  let error := .structural (check ++ " check failed: invalid base64url encoding")
  ensure (!(isEmpty value || len value % 4 == 1 || !(bytes value).all isBase64Url)) error
  okOr (lib.decode value) error

/-- `hash_bytes`. -/
def hashBytes (value check : String) : ReceiptResult Bytes :=
  mapErr (fun error => .hash error.display) (decodeB64 lib value check)

/-! ## Members of an object -/

/-- `display_value`. -/
def displayValue (value : Option Value) : String := (value.map lib.print).getD "missing"

end

/-- `required_object`. -/
def requiredObject (object : Serde.Map) (name : String)
    (error : String → ReceiptVerificationError) : ReceiptResult Serde.Map :=
  okOr ((object.get name).bind Value.asObject)
    (error (name ++ " claim check failed: required object is missing or invalid"))

/-- `required_string`. -/
def requiredString (object : Serde.Map) (name family : String) : ReceiptResult String :=
  okOr (((object.get name).bind Value.asStr).filter (fun value => !isEmpty value))
    (.claims (family ++ " " ++ name ++ " check failed: required string is missing or empty"))

/-- A member that may be absent and otherwise is a string with a property: `optional_string`
and `optional_nonce`. -/
def optionalText (object : Serde.Map) (name : String) (accepts : String → Bool)
    (error : ReceiptVerificationError) : ReceiptResult (Option String) :=
  match object.get name with
  | none => .ok none
  | some (.string value) => if accepts value then .ok (some value) else .error error
  | some _ => .error error

/-- `optional_string`. -/
def optionalString (object : Serde.Map) (name family : String) :
    ReceiptResult (Option String) :=
  optionalText object name (fun value => !isEmpty value)
    (.claims (family ++ " " ++ name ++ " check failed: value must be a non-empty string"))

/-- `optional_nonce`. -/
def optionalNonce (object : Serde.Map) : ReceiptResult (Option String) :=
  optionalText object "nonce"
    (fun value => 1 ≤ len value && len value ≤ 88 && (bytes value).all isBase64Url)
    (.nonce "nonce claim check failed: nonce must contain 1-88 base64url characters")

/-- `integer`. -/
def integer (value : Option Value) (check : String)
    (error : String → ReceiptVerificationError) : ReceiptResult Int :=
  okOr (value.bind Value.asI64) (error (check ++ " check failed: expected an integer"))

/-- `safe_equal`. -/
def safeEqual (left right : Bytes) : Bool := safeEqBytes left right

end TrustedRouter.Receipts
