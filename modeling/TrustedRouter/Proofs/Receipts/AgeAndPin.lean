import TrustedRouter.Proofs.Receipts.Accepted

/-!
# `TrustedRouter.Proofs.Receipts.AgeAndPin`: how old a receipt may be, and what it pins

`verify_receipt_with` takes the age of a receipt with a subtraction that is checked for overflow,
and an age that is not there passes. A receipt from the future has none, and neither has one
whose age does not fit in an `i64`. `verifyReceiptWith_age_iff` says which receipts the limit
holds for: those whose age fits, and those whose limit is beyond that.

The pin `att_sha256` is compared in a compact receipt only. `verified_pinned` says what the
document of a verified receipt is in either form.

Both are shown on one payload, signed with the key of the unit tests: issued at `i64::MIN`, with
a pin that the embedded document does not have.
-/

set_option autoImplicit false

namespace TrustedRouter.Proofs.Receipts

open Rust (Bytes I64.max I64.min I64.checkedSub)
open Rust.Str
open Rust.Result
open Serde (Raw Value)
open TrustedRouter.Receipts

variable {lib : Library}

/-! ## The age of a receipt -/

/-- The issue time in the payload of a receipt. -/
def signedIat (lib : Library) (receipt : Bytes) : Option Int :=
  (parseEnvelope lib receipt).toOption.bind fun envelope =>
    (lib.decode envelope.payload).bind fun payload =>
      (loadJson lib payload "receipt claims").toOption.bind fun value =>
        (value.get "iat").bind Value.asI64

/-- The issue time that is returned is that of the payload, under the signature. -/
theorem signedIat_eq {receipt : Bytes} {issuer : String} {options : ReceiptVerificationOptions}
    {verifyGcp : VerifyGcp} {claims : ReceiptClaims}
    (h : verifyReceiptWith lib receipt issuer options verifyGcp = .ok claims) :
    signedIat lib receipt = some claims.iat := by
  obtain ⟨_, _, _, _, _, h⟩ := verifyReceiptWith_eq_ok.mp h
  simp only [signedIat, h.opens, Except.toOption, Option.bind_some,
    (verifySignature_signs h.signs).decodes, h.json]
  exact integer_eq_ok.mp h.iat

/-- The age check passes: the age is not there, or it is within the limit. -/
def AgePasses (now iat : Int) (maxAge : Nat) : Prop :=
  ∀ age, receiptAge now iat = some age → age ≤ maxAge

/-- The limit adds one check to the others, on the same moment. -/
theorem checkTime_maxAge_iff {options : ReceiptVerificationOptions} {maxAge : Nat} {iat : Int} :
    checkTime lib { options with maxAgeSeconds := some maxAge } iat = .ok () ↔
      checkTime lib { options with maxAgeSeconds := none } iat = .ok () ∧
        ∀ now, currentTime lib options = .ok now → AgePasses now iat maxAge := by
  have hnow : ∀ limit : Option Nat,
      currentTime lib { options with maxAgeSeconds := limit } = currentTime lib options :=
    fun _ => rfl
  simp only [checkTime, hnow]
  cases hclock : currentTime lib options with
  | error error =>
      -- Without a clock both checks fail.
      refine iff_of_false ?_ ?_
      · intro h
        cases h
      · intro h
        cases h.1
  | ok now =>
      simp only [bind_eq_ok, exists_unit, ensure_eq_ok, Except.ok.injEq, exists_eq_left',
        Bool.not_eq_true', Option.any_eq_false, decide_eq_false_iff_not, Nat.not_lt,
        forall_eq', AgePasses]
      constructor
      · rintro ⟨hskew, hage⟩
        exact ⟨⟨hskew, rfl⟩, hage⟩
      · rintro ⟨⟨hskew, -⟩, hage⟩
        exact ⟨hskew, hage⟩

/-- A receipt verifies under a limit when it does without one and the age check passes. -/
theorem verifyReceiptWith_maxAge_iff {receipt : Bytes} {issuer : String}
    {options : ReceiptVerificationOptions} {verifyGcp : VerifyGcp} {maxAge : Nat}
    {claims : ReceiptClaims} :
    verifyReceiptWith lib receipt issuer { options with maxAgeSeconds := some maxAge }
        verifyGcp = .ok claims ↔
      verifyReceiptWith lib receipt issuer { options with maxAgeSeconds := none } verifyGcp =
          .ok claims ∧
        ∀ now, currentTime lib options = .ok now → AgePasses now claims.iat maxAge := by
  rw [verifyReceiptWith_eq_ok, verifyReceiptWith_eq_ok]
  constructor
  · rintro ⟨origin, envelope, header, payload, members, h⟩
    obtain ⟨htime, hage⟩ := checkTime_maxAge_iff.mp h.time
    exact ⟨⟨origin, envelope, header, payload, members, { h with time := htime }⟩, hage⟩
  · rintro ⟨⟨origin, envelope, header, payload, members, h⟩, hage⟩
    have htime := checkTime_maxAge_iff.mpr ⟨h.time, hage⟩
    exact ⟨origin, envelope, header, payload, members, { h with time := htime }⟩

/-- An age that does not fit in an `i64` passes: the subtraction is checked, and where it fails
there is no age to compare. -/
theorem agePasses_of_overflow {now iat : Int} {maxAge : Nat} (h : I64.max < now - iat) :
    AgePasses now iat maxAge := by
  intro age hage
  rw [receiptAge, I64.checkedSub, if_neg (by omega), Option.bind_none] at hage
  cases hage

/-- An age that fits is checked. A negative one is below every limit, and one that overflows `i64`
is not checked at all. -/
theorem le_of_agePasses {now iat : Int} {maxAge : Nat} (h : AgePasses now iat maxAge)
    (hfits : now - iat ≤ I64.max) : now - iat ≤ maxAge := by
  by_cases hnonneg : 0 ≤ now - iat
  · have hsub : I64.checkedSub now iat = some (now - iat) := by
      have hmin : I64.min = -2 ^ 63 := rfl
      rw [I64.checkedSub, if_pos ⟨by omega, hfits⟩]
    have hle := h _ (receiptAge_eq_some hsub hnonneg)
    omega
  · omega

/-- The limit holds for a receipt if and only if, in case it passes the other checks, its age fits
in an `i64` or is within the limit anyway. The right side is about the receipt without the limit,
so it can be asked before one is set. -/
theorem verifyReceiptWith_age_iff (lib : Library) (receipt : Bytes) (issuer : String)
    (options : ReceiptVerificationOptions) (verifyGcp : VerifyGcp) (maxAge : Nat) :
    (∀ now claims, currentTime lib options = .ok now →
        verifyReceiptWith lib receipt issuer { options with maxAgeSeconds := some maxAge }
          verifyGcp = .ok claims →
        now - claims.iat ≤ maxAge) ↔
      ∀ now iat, currentTime lib options = .ok now → signedIat lib receipt = some iat →
        (verifyReceiptWith lib receipt issuer { options with maxAgeSeconds := none }
          verifyGcp).isOk = true →
        now - iat ≤ max I64.max maxAge := by
  constructor
  · intro hlimit now iat hnow hiat hok
    cases hverifies : verifyReceiptWith lib receipt issuer { options with maxAgeSeconds := none }
        verifyGcp with
    | error error =>
        rw [hverifies] at hok
        cases hok
    | ok claims =>
        rw [signedIat_eq hverifies, Option.some.injEq] at hiat
        rw [← hiat]
        -- An age past `i64` is not computed, and so passes any limit.
        by_contra hlate
        have hage : AgePasses now claims.iat maxAge := agePasses_of_overflow (by omega)
        have haccepted := hlimit now claims hnow (verifyReceiptWith_maxAge_iff.mpr
          ⟨hverifies, fun other hother => by
            cases hnow.symm.trans hother
            exact hage⟩)
        omega
  · intro hfits now claims hnow haccepted
    obtain ⟨hverifies, hage⟩ := verifyReceiptWith_maxAge_iff.mp haccepted
    have hle := hfits now claims.iat hnow (signedIat_eq hverifies) (by rw [hverifies]; rfl)
    by_cases hmax : now - claims.iat ≤ I64.max
    · exact le_of_agePasses (hage now hnow) hmax
    · omega

/-! ## The pin -/

/-- The document that the verifier of documents accepted. For a compact receipt it has the
digest that the receipt pins. For a flattened receipt it is the one embedded in the signed
header, whatever the pin says. -/
theorem verified_pinned {receipt : Bytes} {issuer : String} {options : ReceiptVerificationOptions}
    {verifyGcp : VerifyGcp} {claims : ReceiptClaims} {pin : String}
    (h : verifyReceiptWith lib receipt issuer options verifyGcp = .ok claims)
    (hstatus : claims.attestationStatus = .verified) (hpin : claims.attSha256 = some pin) :
    ∃ envelope header document,
      parseEnvelope lib receipt = .ok envelope ∧ parseHeader lib envelope = .ok header ∧
      verifyGcp document (keyCommitment lib header.publicKey) = .ok () ∧
      (envelope.flattened = false →
        options.attestation = some document ∧
          lib.decode pin = some (lib.sha256 document).toBytes) ∧
      (envelope.flattened = true →
        ∃ att, header.value.get "att" = some (.string att) ∧ document = bytes att) := by
  obtain ⟨_, envelope, header, _, _, h⟩ := verifyReceiptWith_eq_ok.mp h
  have hattests := attestationStatus_attests h.status
  rw [hstatus, hpin] at hattests
  refine ⟨envelope, header, ?_⟩
  cases hattests with
  | @pinned document encoded hcompact hsupplied hencoded hdigest haccepted =>
      -- A compact receipt pins the document that the caller supplied.
      cases hencoded
      exact ⟨document, h.opens, h.identifies, haccepted, fun _ => ⟨hsupplied, hdigest⟩,
        fun hflattened => absurd (hcompact.symm.trans hflattened) Bool.false_ne_true⟩
  | @embedded att hflattened _ hatt _ _ haccepted =>
      -- A flattened receipt carries its document in the header.
      exact ⟨bytes att, h.opens, h.identifies, haccepted,
        fun hcompact => absurd (hcompact.symm.trans hflattened) Bool.false_ne_true,
        fun _ => ⟨att, hatt, rfl⟩⟩

/-! ## A receipt without an age

The payload says `i64::MIN` as its issue time and pins the digest of `attestation`. It is signed
with the key of the unit tests, once as a compact receipt and once as a flattened one with the
document `fake.jwt.token`. The crates answer as they do on these. -/

/-- The protected header. -/
def agedHeaderPart (flattened : Bool) : String :=
  if flattened then
    "eyJhbGciOiJFZERTQSIsImF0dCI6ImZha2Uuand0LnRva2VuIiwiYXR0X2tpbmQiOiJnY3AtY3Mtand0IiwiandrIjp7ImNydiI6IkVkMjU1MTkiLCJrdHkiOiJPS1AiLCJ4IjoiNmtwc1ktS2NVZ3EtOVZCN0V5N0YtWlZIZHE2LXZudVNRaDdxYVJSRzBpdyJ9LCJraWQiOiJfb0VzRXZPclRPYXNYYmFhdzFMNUJzc2JFZTlELXpQaVV1OV85VkltT0lrIiwidHlwIjoiaW5mZXJlbmNlLXJlY2VpcHQrandzIn0"
  else
    "eyJhbGciOiJFZERTQSIsImp3ayI6eyJjcnYiOiJFZDI1NTE5Iiwia3R5IjoiT0tQIiwieCI6IjZrcHNZLUtjVWdxLTlWQjdFeTdGLVpWSGRxNi12bnVTUWg3cWFSUkcwaXcifSwia2lkIjoiX29Fc0V2T3JUT2FzWGJhYXcxTDVCc3NiRWU5RC16UGlVdTlfOVZJbU9JayIsInR5cCI6ImluZmVyZW5jZS1yZWNlaXB0K2p3cyJ9"

/-- The payload. -/
def agedPayloadPart : String :=
  "eyJhdHRfc2hhMjU2IjoiZ1RxSm9wYVhQalZVWFBwMF9qNzlGeXA5R1VROGw4WWwxcG5wYzNJcHNLSSIsImlhdCI6LTkyMjMzNzIwMzY4NTQ3NzU4MDgsImlzcyI6Imh0dHBzOi8vYXBpLnRydXN0ZWRyb3V0ZXIuY29tIiwianRpIjoiY2hhdGNtcGwtdGVzdCIsIm1vZGVsIjp7ImVuZHBvaW50IjoiZW5kcG9pbnQiLCJwcm92aWRlciI6InByb3ZpZGVyIiwicmVxdWVzdGVkIjoicmVxdWVzdGVkIiwic2VsZWN0ZWQiOiJzZWxlY3RlZCJ9LCJyZXEiOnsiYWxnIjoic2hhMjU2IiwiaGFzaCI6IkgxaTVGRnNrMFFqWHJEaUljeml6NmpJcGd6dWNIa0dDVURRX2tIdjlFRWMiLCJvZiI6ImJvZHkifSwicmVzcCI6eyJhbGciOiJzaGEyNTYiLCJoYXNoIjoicWZTejBpcFNQOXJhUWNoY0YxUWx2TkZiTXJUTkQxVFpRenJNMVMxeGxhRSIsIm9mIjoiYm9keSJ9LCJyb3V0ZSI6ImNoYXQuY29tcGxldGlvbnMiLCJydiI6MSwidXBzdHJlYW0iOnsidGllciI6InRscy13ZWJwa2kifX0"

/-- The signature. -/
def agedSignaturePart (flattened : Bool) : String :=
  if flattened then
    "Fea3iculBtHp9Ob9e2naz6oyipdpUIJXb8fE44bAqdoUJIwxH275seNCVQerUL7JZkSumxmDDxtTzxJRko3QBg"
  else "xHrZqiwyg4HXAEZQFQ5deig1XT5L8BUNLfgeMSS4757oRzRTmz_K3e8OThGpErHvucBiv1MMJum4R_h9ndLXAQ"

/-- The protected header, decoded. -/
def agedHeaderJson (flattened : Bool) : String :=
  if flattened then
    "\x7b\"alg\":\"EdDSA\",\"att\":\"fake.jwt.token\",\"att_kind\":\"gcp-cs-jwt\",\"jwk\":\x7b\"crv\":\"Ed25519\",\"kty\":\"OKP\",\"x\":\"6kpsY-KcUgq-9VB7Ey7F-ZVHdq6-vnuSQh7qaRRG0iw\"\x7d,\"kid\":\"_oEsEvOrTOasXbaaw1L5BssbEe9D-zPiUu9_9VImOIk\",\"typ\":\"inference-receipt+jws\"\x7d"
  else
    "\x7b\"alg\":\"EdDSA\",\"jwk\":\x7b\"crv\":\"Ed25519\",\"kty\":\"OKP\",\"x\":\"6kpsY-KcUgq-9VB7Ey7F-ZVHdq6-vnuSQh7qaRRG0iw\"\x7d,\"kid\":\"_oEsEvOrTOasXbaaw1L5BssbEe9D-zPiUu9_9VImOIk\",\"typ\":\"inference-receipt+jws\"\x7d"

/-- The payload, decoded. -/
def agedPayloadJson : String :=
  "\x7b\"att_sha256\":\"gTqJopaXPjVUXPp0_j79Fyp9GUQ8l8Yl1pnpc3IpsKI\",\"iat\":-9223372036854775808,\"iss\":\"https://api.trustedrouter.com\",\"jti\":\"chatcmpl-test\",\"model\":\x7b\"endpoint\":\"endpoint\",\"provider\":\"provider\",\"requested\":\"requested\",\"selected\":\"selected\"\x7d,\"req\":\x7b\"alg\":\"sha256\",\"hash\":\"H1i5FFsk0QjXrDiIcziz6jIpgzucHkGCUDQ_kHv9EEc\",\"of\":\"body\"\x7d,\"resp\":\x7b\"alg\":\"sha256\",\"hash\":\"qfSz0ipSP9raQchcF1QlvNFbMrTND1TZQzrM1S1xlaE\",\"of\":\"body\"\x7d,\"route\":\"chat.completions\",\"rv\":1,\"upstream\":\x7b\"tier\":\"tls-webpki\"\x7d\x7d"

/-- The flattened receipt as a JSON text. -/
def agedFlattenedText : String :=
  "\x7b\"payload\":\"eyJhdHRfc2hhMjU2IjoiZ1RxSm9wYVhQalZVWFBwMF9qNzlGeXA5R1VROGw4WWwxcG5wYzNJcHNLSSIsImlhdCI6LTkyMjMzNzIwMzY4NTQ3NzU4MDgsImlzcyI6Imh0dHBzOi8vYXBpLnRydXN0ZWRyb3V0ZXIuY29tIiwianRpIjoiY2hhdGNtcGwtdGVzdCIsIm1vZGVsIjp7ImVuZHBvaW50IjoiZW5kcG9pbnQiLCJwcm92aWRlciI6InByb3ZpZGVyIiwicmVxdWVzdGVkIjoicmVxdWVzdGVkIiwic2VsZWN0ZWQiOiJzZWxlY3RlZCJ9LCJyZXEiOnsiYWxnIjoic2hhMjU2IiwiaGFzaCI6IkgxaTVGRnNrMFFqWHJEaUljeml6NmpJcGd6dWNIa0dDVURRX2tIdjlFRWMiLCJvZiI6ImJvZHkifSwicmVzcCI6eyJhbGciOiJzaGEyNTYiLCJoYXNoIjoicWZTejBpcFNQOXJhUWNoY0YxUWx2TkZiTXJUTkQxVFpRenJNMVMxeGxhRSIsIm9mIjoiYm9keSJ9LCJyb3V0ZSI6ImNoYXQuY29tcGxldGlvbnMiLCJydiI6MSwidXBzdHJlYW0iOnsidGllciI6InRscy13ZWJwa2kifX0\",\"protected\":\"eyJhbGciOiJFZERTQSIsImF0dCI6ImZha2Uuand0LnRva2VuIiwiYXR0X2tpbmQiOiJnY3AtY3Mtand0IiwiandrIjp7ImNydiI6IkVkMjU1MTkiLCJrdHkiOiJPS1AiLCJ4IjoiNmtwc1ktS2NVZ3EtOVZCN0V5N0YtWlZIZHE2LXZudVNRaDdxYVJSRzBpdyJ9LCJraWQiOiJfb0VzRXZPclRPYXNYYmFhdzFMNUJzc2JFZTlELXpQaVV1OV85VkltT0lrIiwidHlwIjoiaW5mZXJlbmNlLXJlY2VpcHQrandzIn0\",\"signature\":\"Fea3iculBtHp9Ob9e2naz6oyipdpUIJXb8fE44bAqdoUJIwxH275seNCVQerUL7JZkSumxmDDxtTzxJRko3QBg\"\x7d"

/-- The `kid` of the header. -/
def agedKeyId : String := "_oEsEvOrTOasXbaaw1L5BssbEe9D-zPiUu9_9VImOIk"

/-- The encoded public key. -/
def agedKeyText : String := "6kpsY-KcUgq-9VB7Ey7F-ZVHdq6-vnuSQh7qaRRG0iw"

/-- The encoded digest of `request`. -/
def agedRequestHash : String := "H1i5FFsk0QjXrDiIcziz6jIpgzucHkGCUDQ_kHv9EEc"

/-- The encoded digest of `response`. -/
def agedResponseHash : String := "qfSz0ipSP9raQchcF1QlvNFbMrTND1TZQzrM1S1xlaE"

/-- The encoded digest of `attestation`. -/
def agedPin : String := "gTqJopaXPjVUXPp0_j79Fyp9GUQ8l8Yl1pnpc3IpsKI"

/-- The encoded digest of `fake.jwt.token`. -/
def agedAttHash : String := "MOtKPrnmXqK5twv5OStoAMbttCsL1iqic3SiFXMqoeg"

/-- The encoded commitment to the key. -/
def agedCommitment : String := "8pbj7LuW4TaZqa0mcIfYc3na76I1V6W4NjLQU5rNw7Q"

/-- What the protected header says. -/
def agedHeaderRaw (flattened : Bool) : Raw :=
  .object
    ([("alg", .string "EdDSA")] ++
      (if flattened then
        [("att", .string "fake.jwt.token"), ("att_kind", .string "gcp-cs-jwt")]
      else []) ++
      [("jwk", .object [("crv", .string "Ed25519"), ("kty", .string "OKP"),
         ("x", .string agedKeyText)]),
       ("kid", .string agedKeyId), ("typ", .string "inference-receipt+jws")])

/-- The members of the header, in the order of a map. -/
def agedHeaderMembers (flattened : Bool) : Serde.Map :=
  match strictValue fixtureLibrary (agedHeaderRaw flattened) with
  | .ok (.object members) => members
  | _ => []

/-- What the payload says. -/
def agedPayloadRaw : Raw :=
  .object
    [("att_sha256", .string agedPin), ("iat", .number (.negInt Int64.minValue)),
     ("iss", .string "https://api.trustedrouter.com"), ("jti", .string "chatcmpl-test"),
     ("model", .object
       [("endpoint", .string "endpoint"), ("provider", .string "provider"),
        ("requested", .string "requested"), ("selected", .string "selected")]),
     ("req", .object
       [("alg", .string "sha256"), ("hash", .string agedRequestHash), ("of", .string "body")]),
     ("resp", .object
       [("alg", .string "sha256"), ("hash", .string agedResponseHash), ("of", .string "body")]),
     ("route", .string "chat.completions"), ("rv", .number (.posInt 1)),
     ("upstream", .object [("tier", .string "tls-webpki")])]

/-- The members of the payload, in the order of a map. -/
def agedPayloadMembers : Serde.Map :=
  match strictValue fixtureLibrary agedPayloadRaw with
  | .ok (.object members) => members
  | _ => []

/-- What the flattened receipt says. -/
def agedFlattenedRaw : Raw :=
  .object
    [("payload", .string agedPayloadPart), ("protected", .string (agedHeaderPart true)),
     ("signature", .string (agedSignaturePart true))]

/-- The flattened receipt, parsed. -/
def agedFlattenedValue : Value :=
  .object
    [("payload", .string agedPayloadPart), ("protected", .string (agedHeaderPart true)),
     ("signature", .string (agedSignaturePart true))]

/-- The JSON texts. -/
def agedTable : List (String × Raw) :=
  [(agedHeaderJson true, agedHeaderRaw true), (agedHeaderJson false, agedHeaderRaw false),
   (agedPayloadJson, agedPayloadRaw), (agedFlattenedText, agedFlattenedRaw)]

/-- The crates on these receipts, with the texts the parser knows. -/
def agedLibraryOf (table : List (String × Raw)) : Library :=
  { fixtureLibrary with
    sha256 := fun data =>
      if data = bytes "attestation" then digestOf agedPin
      else if data = bytes "fake.jwt.token" then digestOf agedAttHash
      else if data.length = 32 then digestOf agedKeyId
      else digestOf agedCommitment
    encode := fun data => if decodeChars agedKeyId.toList = some data then agedKeyId else ""
    verifyStrict := fun key message signature =>
      decide (decodeChars agedKeyText.toList = some key.toBytes) &&
        [true, false].any fun flattened =>
          decide (message = bytes (agedHeaderPart flattened ++ "." ++ agedPayloadPart) ∧
            decodeChars (agedSignaturePart flattened).toList = some signature)
    read := readTable table }

/-- The crates on these receipts. -/
def agedLibrary : Library := agedLibraryOf agedTable

/-- The public key. -/
def agedKey : Array32 := digestOf agedKeyText

/-- The parts of the receipt. -/
def agedEnvelope (flattened : Bool) : JwsEnvelope where
  protectedHeader := agedHeaderPart flattened
  payload := agedPayloadPart
  signature := agedSignaturePart flattened
  flattened
  flattenedValue := if flattened then some agedFlattenedValue else none

/-- The receipt. -/
def agedReceipt (flattened : Bool) : Bytes :=
  if flattened then bytes agedFlattenedText
  else
    bytes (agedHeaderPart false ++ "." ++ agedPayloadPart ++ "." ++ agedSignaturePart false)

/-- Braces around a text, checked by computation. -/
theorem braced_ofList {l : List Char} (hfirst : (l.flatMap String.utf8EncodeChar).head? = some 123)
    (hlast : (l.flatMap String.utf8EncodeChar).getLast? = some 125) :
    Braced (bytes (String.ofList l)) := by
  rw [bytes_ofList]
  exact ⟨hfirst, hlast⟩

/-- What is computed about the texts. -/
structure AgedFacts (flattened : Bool) : Prop where
  header : Encodes (agedHeaderPart flattened) (bytes (agedHeaderJson flattened))
  payload : Encodes agedPayloadPart (bytes agedPayloadJson)
  signature : ∃ decoded, Encodes (agedSignaturePart flattened) decoded ∧ decoded.length = 64
  key : Encodes agedKeyText agedKey.toBytes
  kid : Encodes agedKeyId (digestOf agedKeyId).toBytes
  request : Encodes agedRequestHash (digestOf agedRequestHash).toBytes
  response : Encodes agedResponseHash (digestOf agedResponseHash).toBytes
  pin : Encodes agedPin (digestOf agedPin).toBytes
  headerJson : Piece (agedHeaderJson flattened) (if flattened then 230 else 183)
  payloadJson : Piece agedPayloadJson 491
  text : Piece agedFlattenedText 1092
  braced : Braced (bytes agedFlattenedText)

-- The recursion limit is for the characters of the payload.
set_option maxRecDepth 20000 in
/-- What is computed about the texts of the two receipts, made once. -/
theorem agedFacts (flattened : Bool) : AgedFacts flattened where
  header := by
    cases flattened
    · exact ⟨base64UrlText_ofList (by decide +kernel), decodes_ofList (by decide +kernel)⟩
    · exact ⟨base64UrlText_ofList (by decide +kernel), decodes_ofList (by decide +kernel)⟩
  payload := ⟨base64UrlText_ofList (by decide +kernel), decodes_ofList (by decide +kernel)⟩
  signature := by
    refine ⟨(decodeChars (agedSignaturePart flattened).toList).getD [], ?_⟩
    cases flattened
    · exact ⟨⟨base64UrlText_ofList (by decide +kernel),
        show decodeChars (agedSignaturePart false).toList = some _ by decide +kernel⟩,
        by decide +kernel⟩
    · exact ⟨⟨base64UrlText_ofList (by decide +kernel),
        show decodeChars (agedSignaturePart true).toList = some _ by decide +kernel⟩,
        by decide +kernel⟩
  key := ⟨base64UrlText_ofList (by decide +kernel), decode_digestOf (by decide +kernel)⟩
  kid := ⟨base64UrlText_ofList (by decide +kernel), decode_digestOf (by decide +kernel)⟩
  request := ⟨base64UrlText_ofList (by decide +kernel), decode_digestOf (by decide +kernel)⟩
  response := ⟨base64UrlText_ofList (by decide +kernel), decode_digestOf (by decide +kernel)⟩
  pin := ⟨base64UrlText_ofList (by decide +kernel), decode_digestOf (by decide +kernel)⟩
  headerJson := by
    cases flattened
    · exact piece_ofList (by decide +kernel)
    · exact piece_ofList (by decide +kernel)
  payloadJson := piece_ofList (by decide +kernel)
  text := piece_ofList (by decide +kernel)
  braced := braced_ofList (by decide +kernel) (by decide +kernel)

/-- The lengths of the JSON texts, which tell them apart. -/
theorem agedTable_lens : (agedTable.map fun entry => len entry.1) = [230, 183, 491, 1092] := by
  simp only [agedTable, List.map_cons, List.map_nil, (agedFacts true).headerJson.len_eq,
    (agedFacts false).headerJson.len_eq, (agedFacts true).payloadJson.len_eq,
    (agedFacts true).text.len_eq, if_true, Bool.false_eq_true, if_false]

/-- The parser is the table, stated for rewriting. -/
theorem agedLibraryOf_read (table : List (String × Raw)) :
    (agedLibraryOf table).read = readTable table := rfl

/-- A text of the table and what is read from it, if the value is a strict one. -/
theorem aged_loads {text check : String} {raw : Raw} {value : Value}
    (hmem : (text, raw) ∈ agedTable) (hvalue : strictValue agedLibrary raw = .ok value) :
    loadJson agedLibrary (bytes text) check = .ok value := by
  have hlens : (agedTable.map fun entry => len entry.1).Nodup := by
    rw [agedTable_lens]
    decide
  have hread : agedLibrary.read (bytes text) = .ok (raw, []) := by
    rw [agedLibrary, agedLibraryOf_read]
    exact readTable_eq hlens hmem
  exact loadJson_eq_ok.mpr ⟨raw, [], hread, hvalue, rfl⟩

/-- Three members in the order of a map open as an envelope. -/
theorem flattenedEnvelope_sorted {header payload signature : String} (hheader : header ≠ "")
    (hpayload : payload ≠ "") (hsignature : signature ≠ "") :
    flattenedEnvelope (.object [("payload", .string payload), ("protected", .string header),
      ("signature", .string signature)]) =
      .ok { protectedHeader := header, payload, signature, flattened := true
            flattenedValue := some (.object [("payload", .string payload),
              ("protected", .string header), ("signature", .string signature)]) } :=
  flattenedEnvelope_members rfl rfl hheader rfl hpayload rfl hsignature

/-- Both receipts open, one in each form. -/
theorem parseEnvelope_aged (flattened : Bool) :
    parseEnvelope agedLibrary (agedReceipt flattened) = .ok (agedEnvelope flattened) := by
  cases flattened with
  | false =>
      obtain ⟨signature, hsignature, -⟩ := (agedFacts false).signature
      exact parseEnvelope_compact (agedFacts false).header.1 (agedFacts false).payload.1
        hsignature.1
  | true =>
      have hloads : loadJson agedLibrary (bytes agedFlattenedText) "JWS structure" =
          .ok agedFlattenedValue :=
        aged_loads (.tail _ (.tail _ (.tail _ (.head _)))) rfl
      obtain ⟨signature, hsignature, -⟩ := (agedFacts true).signature
      show parseEnvelope agedLibrary (bytes agedFlattenedText) = _
      rw [parseEnvelope_braced (agedFacts true).text.ascii (agedFacts true).braced, hloads,
        Except.bind, agedFlattenedValue]
      have hopens := flattenedEnvelope_sorted (agedFacts true).header.1.ne_empty
        (agedFacts true).payload.1.ne_empty hsignature.1.ne_empty
      exact hopens

/-- The library of these receipts decodes as that of the compact fixture does. -/
theorem encodes_aged {text : String} {decoded : Bytes} (h : Encodes text decoded) :
    Base64UrlText text ∧ agedLibrary.decode text = some decoded := h

/-- Both headers identify the key of the unit tests. -/
theorem parseHeader_aged (flattened : Bool) :
    parseHeader agedLibrary (agedEnvelope flattened) =
      .ok ⟨agedHeaderMembers flattened, agedKey⟩ := by
  have hfacts := agedFacts flattened
  have hkid : agedLibrary.encode (agedLibrary.sha256 agedKey.toBytes).toBytes = agedKeyId := by
    have hdecodes : decodeChars agedKeyId.toList = some (digestOf agedKeyId).toBytes :=
      hfacts.kid.2
    -- The hash of the library is a table, and the length of a key tells it from the documents.
    have hsha : agedLibrary.sha256 agedKey.toBytes = digestOf agedKeyId := by
      have hlength := agedKey.length_toBytes
      have hattestation : agedKey.toBytes ≠ bytes "attestation" :=
        ne_of_len_ne (by rw [hlength]; decide)
      have htoken : agedKey.toBytes ≠ bytes "fake.jwt.token" :=
        ne_of_len_ne (by rw [hlength]; decide)
      simp only [agedLibrary, agedLibraryOf, if_neg hattestation, if_neg htoken, if_pos hlength]
    rw [hsha]
    simp only [agedLibrary, agedLibraryOf, if_pos hdecodes]
  have hloads : loadJson agedLibrary (bytes (agedHeaderJson flattened)) "protected header" =
      .ok (.object (agedHeaderMembers flattened)) := by
    cases flattened
    · exact aged_loads (.tail _ (.head _)) rfl
    · exact aged_loads (.head _) rfl
  simp only [parseHeader, bind_eq_ok, exists_unit, ensure_eq_ok, okOr_eq_ok, mapErr_eq_ok,
    decodeB64_eq_ok, Value.asObject_eq_some, beq_iff_eq, Bool.and_eq_true, Bool.not_eq_true',
    get_bind_asStr, get_bind_asObject, containsKey_eq_false, toArray32_eq_some,
    Option.any_eq_true, safeEqual_bytes_iff]
  -- From here on each check of `parse_header` is one component.
  refine ⟨bytes (agedHeaderJson flattened), encodes_aged hfacts.header, _, hloads,
    agedHeaderMembers flattened, rfl, ?_⟩
  cases flattened
  all_goals
    exact ⟨rfl, rfl, _, rfl, ⟨⟨rfl, rfl⟩, rfl⟩, agedKeyText, rfl, agedKey.toBytes,
      encodes_aged hfacts.key, agedKey, rfl, ⟨agedKeyId, rfl, hkid.symm⟩, rfl⟩

/-- Both signatures verify over the same payload. -/
theorem verifySignature_aged (flattened : Bool) :
    verifySignature agedLibrary (agedEnvelope flattened) agedKey = .ok (bytes agedPayloadJson) := by
  have hfacts := agedFacts flattened
  obtain ⟨signature, hsignature, hlength⟩ := hfacts.signature
  have hverifies : agedLibrary.verifyStrict agedKey
      (bytes (agedHeaderPart flattened ++ "." ++ agedPayloadPart)) signature = true := by
    simp only [agedLibrary, agedLibraryOf, Bool.and_eq_true, decide_eq_true_eq, List.any_eq_true]
    refine ⟨hfacts.key.2, flattened, ?_, rfl, hsignature.2⟩
    cases flattened <;> decide
  simp only [verifySignature, bind_eq_ok, exists_unit, ensure_eq_ok, mapErr_eq_ok,
    decodeB64_eq_ok, beq_iff_eq]
  exact ⟨bytes agedPayloadJson, encodes_aged hfacts.payload, signature, encodes_aged hsignature,
    hlength, rfl, hverifies, rfl⟩

/-- The attestation document of the receipt. -/
def agedDocument (flattened : Bool) : String :=
  if flattened then "fake.jwt.token" else "attestation"

/-- A verifier of documents that accepts this one. -/
def agedVerifier (flattened : Bool) : VerifyGcp := fun document _ =>
  if document = bytes (agedDocument flattened) then .ok ()
  else .error (.attestation "unknown document")

/-- The options: one minute, no traffic, and the document for the compact receipt. -/
def agedOptions (flattened : Bool) : ReceiptVerificationOptions where
  maxAgeSeconds := some 60
  now := some 1756224060
  attestation := if flattened then none else some (bytes "attestation")
  requireBindings := false

/-- The claims. -/
def agedClaims : ReceiptClaims where
  rv := 1
  iss := "https://api.trustedrouter.com"
  iat := -9223372036854775808
  jti := "chatcmpl-test"
  gen := none
  nonce := none
  route := "chat.completions"
  req := bodyClaims agedRequestHash
  resp := bodyClaims agedResponseHash
  model :=
    { requested := "requested", selected := "selected", provider := "provider"
      endpoint := "endpoint" }
  upstream :=
    { tier := "tls-webpki", policy := none, verifiedAt := none
      verificationExpiresAt := none, certSha256 := none }
  attSha256 := some agedPin
  attestationStatus := .verified

/-- Both receipts pin a document, the flattened one too, which is not asked for it. -/
theorem checkAttSha256_aged (flattened : Bool) :
    checkAttSha256 agedLibrary agedPayloadMembers flattened = .ok (some agedPin) := by
  have hpin : checkPin agedLibrary (some agedPin) = .ok () := by
    simp only [checkPin, bind_eq_ok, mapErr_eq_ok, decodeB64_eq_ok, ensure_eq_ok, beq_iff_eq]
    exact ⟨_, encodes_aged (agedFacts true).pin, (digestOf agedPin).length_toBytes⟩
  simp only [checkAttSha256, bind_eq_ok, exists_unit, ensure_eq_ok, optionalString_eq_ok]
  refine ⟨some agedPin, ⟨rfl, ?_⟩, hpin, by cases flattened <;> rfl, rfl⟩
  rintro s ⟨⟩
  exact (agedFacts true).pin.1.ne_empty

/-- The request body has its digest. -/
theorem checkRequest_aged (flattened : Bool) :
    checkRequest agedLibrary agedPayloadMembers (agedOptions flattened) =
      .ok (bodyClaims agedRequestHash) := by
  simp only [checkRequest, bind_eq_ok, requiredObject_eq_ok]
  exact ⟨bodyRecord agedRequestHash, rfl, bodyClaims agedRequestHash,
    digestClaim_body (encodes_aged (agedFacts true).request), rfl⟩

/-- The response body has its digest, whichever form the receipt has. -/
theorem checkResponse_aged (flattened : Bool) (value : Option Value) :
    checkResponse agedLibrary agedPayloadMembers (agedOptions flattened) value =
      .ok (bodyClaims agedResponseHash) := by
  simp only [checkResponse, bind_eq_ok, exists_unit, ensure_eq_ok, requiredObject_eq_ok,
    hashBytes_eq_ok]
  exact ⟨bodyRecord agedResponseHash, rfl, bodyClaims agedResponseHash,
    digestClaim_body (encodes_aged (agedFacts true).response), rfl, _,
    encodes_aged (agedFacts true).response, rfl, rfl⟩

/-- Both receipts reach the status `Verified`: the compact one with the document it pins, the
flattened one with its own document. -/
theorem attestationStatus_aged (flattened : Bool) (commitment : Array32) :
    attestationStatus agedLibrary (agedEnvelope flattened)
      ⟨agedHeaderMembers flattened, agedKey⟩ (agedOptions flattened).attestation (some agedPin)
      true (fun document => agedVerifier flattened document commitment) = .ok .verified := by
  cases flattened with
  | true =>
      show flattenedStatus agedLibrary (agedHeaderMembers true) none
        (fun document => agedVerifier true document commitment) = _
      simp only [flattenedStatus, bind_eq_ok, exists_unit, ensure_eq_ok, okOr_eq_ok,
        nonempty_eq_some]
      exact ⟨rfl, "fake.jwt.token", ⟨rfl, by decide⟩, rfl, rfl, rfl⟩
  | false =>
      show compactStatus agedLibrary (some (bytes "attestation")) (some agedPin) true
        (fun document => agedVerifier false document commitment) = _
      simp only [compactStatus, bind_eq_ok, exists_unit, ensure_eq_ok, okOr_eq_ok,
        decodeB64_eq_ok, safeEqual_iff]
      exact ⟨agedPin, rfl, (digestOf agedPin).toBytes, encodes_aged (agedFacts true).pin, rfl,
        rfl, rfl⟩

/-- Both receipts verify, with the same claims, although only the compact one is given a
document. -/
theorem verifyReceiptWith_aged (flattened : Bool) :
    verifyReceiptWith agedLibrary (agedReceipt flattened) "https://api.trustedrouter.com"
      (agedOptions flattened) (agedVerifier flattened) = .ok agedClaims := by
  have hpayload : loadJson agedLibrary (bytes agedPayloadJson) "receipt claims" =
      .ok (.object agedPayloadMembers) := aged_loads (.tail _ (.tail _ (.head _))) rfl
  refine verifyReceiptWith_eq_ok.mpr ⟨"https://api.trustedrouter.com", agedEnvelope flattened,
    ⟨agedHeaderMembers flattened, agedKey⟩, bytes agedPayloadJson, agedPayloadMembers, ?_⟩
  exact
    { bindings := rfl
      issuer := rfl
      opens := parseEnvelope_aged flattened
      identifies := parseHeader_aged flattened
      signs := verifySignature_aged flattened
      json := hpayload
      rv := rfl
      iss := rfl
      iat := rfl
      time := rfl
      jti := requiredString_eq_ok.mpr ⟨rfl, by decide⟩
      gen := optionalString_eq_ok.mpr ⟨rfl, nofun⟩
      route := rfl
      model := rfl
      pin := checkAttSha256_aged flattened
      nonce := rfl
      upstream := rfl
      req := checkRequest_aged flattened
      resp := checkResponse_aged flattened _
      status := attestationStatus_aged flattened _ }

/-- A receipt that says it was issued at `i64::MIN` verifies under a limit of one minute,
1756224060 seconds after the epoch. -/
theorem aged_accepted :
    currentTime agedLibrary (agedOptions false) = .ok 1756224060 ∧
      (agedOptions false).maxAgeSeconds = some 60 ∧
      verifyReceiptWith agedLibrary (agedReceipt false) "https://api.trustedrouter.com"
        (agedOptions false) (agedVerifier false) = .ok agedClaims ∧
      ¬ ((1756224060 : Int) - agedClaims.iat ≤ 60) :=
  ⟨rfl, rfl, verifyReceiptWith_aged false, by decide⟩

/-- A flattened receipt is verified by a document that it does not pin. The verifier of documents
accepts one document only, and its digest is not the pin. -/
theorem aged_not_pinned :
    verifyReceiptWith agedLibrary (agedReceipt true) "https://api.trustedrouter.com"
        (agedOptions true) (agedVerifier true) = .ok agedClaims ∧
      agedClaims.attestationStatus = .verified ∧ agedClaims.attSha256 = some agedPin ∧
      ∀ document commitment, agedVerifier true document commitment = .ok () →
        agedLibrary.decode agedPin ≠ some (agedLibrary.sha256 document).toBytes := by
  refine ⟨verifyReceiptWith_aged true, rfl, rfl, ?_⟩
  intro document commitment haccepted
  have hdocument : document = bytes (agedDocument true) := by
    by_contra hother
    rw [agedVerifier, if_neg hother] at haccepted
    cases haccepted
  rw [show agedDocument true = "fake.jwt.token" from rfl] at hdocument
  have hne : bytes "fake.jwt.token" ≠ bytes "attestation" := by decide
  have hsha : agedLibrary.sha256 document = digestOf agedAttHash := by
    simp only [hdocument, agedLibrary, agedLibraryOf, if_neg hne, if_true]
  rw [hsha]
  decide +kernel

/-- The compact receipt is verified by the document that it pins. -/
theorem verified_pinned_aged :
    verifyReceiptWith agedLibrary (agedReceipt false) "https://api.trustedrouter.com"
        (agedOptions false) (agedVerifier false) = .ok agedClaims ∧
      ∃ envelope header document,
        parseEnvelope agedLibrary (agedReceipt false) = .ok envelope ∧
        parseHeader agedLibrary envelope = .ok header ∧
        agedVerifier false document (keyCommitment agedLibrary header.publicKey) = .ok () ∧
        (envelope.flattened = false →
          (agedOptions false).attestation = some document ∧
            agedLibrary.decode agedPin = some (agedLibrary.sha256 document).toBytes) ∧
        (envelope.flattened = true →
          ∃ att, header.value.get "att" = some (.string att) ∧ document = bytes att) :=
  ⟨verifyReceiptWith_aged false, verified_pinned (verifyReceiptWith_aged false) rfl rfl⟩

end TrustedRouter.Proofs.Receipts
