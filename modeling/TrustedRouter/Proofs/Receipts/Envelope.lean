import TrustedRouter.Proofs.Receipts.Readers

/-!
# `TrustedRouter.Proofs.Receipts.Envelope`: who signed what

What a receipt proves before any claim in it is read. `Opens` says where the three parts of
the envelope stand in the receipt. `Identifies` says that the header names a public key and
commits to it by its digest. `Signs` says that this key signed exactly the header and
payload parts, with the dot between them. `parseEnvelope_opens`, `parseHeader_identifies`
and `verifySignature_signs` derive the three from the success of the functions of
`receipts.rs` that check them. `parseEnvelope_compact` is the other direction for the compact
form: three base64url texts with dots between them open to those parts.
-/

set_option autoImplicit false

namespace TrustedRouter.Proofs.Receipts

open Rust (Bytes)
open Rust.Str
open Rust.Result
open Serde (Value)
open TrustedRouter.Receipts

variable {lib : Library}

/-- The parts of an envelope stand in the receipt: around the two dots of a compact JWS, or
as members of the JSON object that a flattened JWS is. -/
inductive Opens (lib : Library) (receipt : Bytes) (envelope : JwsEnvelope) : Prop where
  | compact {text : String}
      (text_bytes : bytes text = receipt)
      (parts : trim text =
        envelope.protectedHeader ++ "." ++ envelope.payload ++ "." ++ envelope.signature)
      (not_flattened : envelope.flattened = false)
      (no_value : envelope.flattenedValue = none)
  | flattened {text : String} {object : Serde.Map}
      (text_bytes : bytes text = receipt)
      (json : loadJson lib (bytes (trim text)) "JWS structure" = .ok (.object object))
      (no_header : object.get "header" = none)
      (protectedHeader : object.get "protected" = some (.string envelope.protectedHeader))
      (payload : object.get "payload" = some (.string envelope.payload))
      (signature : object.get "signature" = some (.string envelope.signature))
      (is_flattened : envelope.flattened = true)
      (value : envelope.flattenedValue = some (.object object))

/-- No part of the envelope is empty. -/
structure NonemptyParts (envelope : JwsEnvelope) : Prop where
  protectedHeader : envelope.protectedHeader ≠ ""
  payload : envelope.payload ≠ ""
  signature : envelope.signature ≠ ""

/-- The header is the JSON of the protected part. It carries a public Ed25519 key of 32
bytes, no private member, and the digest of the key as its name. -/
structure Identifies (lib : Library) (envelope : JwsEnvelope) (header : ParsedHeader) :
    Prop where
  json : ∃ raw, lib.decode envelope.protectedHeader = some raw ∧
    loadJson lib raw "protected header" = .ok (.object header.value)
  alg : header.value.get "alg" = some (.string "EdDSA")
  typ : header.value.get "typ" = some (.string receiptType)
  key : ∃ (jwk : Serde.Map) (x : String), header.value.get "jwk" = some (.object jwk) ∧
    jwk.get "kty" = some (.string "OKP") ∧ jwk.get "crv" = some (.string "Ed25519") ∧
    jwk.get "d" = none ∧ jwk.get "x" = some (.string x) ∧
    lib.decode x = some header.publicKey.toBytes
  kid : header.value.get "kid" =
    some (.string (lib.encode (lib.sha256 header.publicKey.toBytes).toBytes))

/-- The key signed the protected part, a dot and the payload part, and `payload` is what the
payload part decodes to. -/
structure Signs (lib : Library) (envelope : JwsEnvelope) (key : Array32) (payload : Bytes) :
    Prop where
  decodes : lib.decode envelope.payload = some payload
  valid : lib.fromBytes key = .ok ()
  verifies : ∃ signature, lib.decode envelope.signature = some signature ∧
    signature.length = 64 ∧
    lib.verifyStrict key
      (bytes envelope.protectedHeader ++ bytes "." ++ bytes envelope.payload) signature = true

/-! ## Envelope -/

/-- What `flattened_envelope` returns was read from the members of its object. An unprotected
`header` is refused: nothing in it would be signed. -/
theorem flattenedEnvelope_eq_ok {value : Value} {envelope : JwsEnvelope}
    (h : flattenedEnvelope value = .ok envelope) :
    NonemptyParts envelope ∧ envelope.flattened = true ∧
      envelope.flattenedValue = some value ∧
      ∃ object : Serde.Map, value = .object object ∧ object.get "header" = none ∧
        object.get "protected" = some (.string envelope.protectedHeader) ∧
        object.get "payload" = some (.string envelope.payload) ∧
        object.get "signature" = some (.string envelope.signature) := by
  simp only [flattenedEnvelope, bind_eq_ok, exists_unit, ensure_eq_ok, okOr_eq_ok,
    Bool.not_eq_true', containsKey_eq_false, Value.asObject_eq_some] at h
  obtain ⟨object, rfl, hheader, hfields⟩ := h
  split at hfields
  · rename_i hprotected hpayload hsignature
    rw [nonempty_eq_some] at hprotected hpayload hsignature
    cases hfields
    exact ⟨⟨hprotected.2, hpayload.2, hsignature.2⟩, rfl, rfl, object, rfl, hheader,
      hprotected.1, hpayload.1, hsignature.1⟩
  · cases hfields

/-- An object with the three members opens, whatever other members it has, as long as there is no
unprotected header. -/
theorem flattenedEnvelope_members {members : Serde.Map} {header payload signature : String}
    (hheader : members.get "header" = none)
    (hprotected : members.get "protected" = some (.string header)) (hprotected_ne : header ≠ "")
    (hpayload : members.get "payload" = some (.string payload)) (hpayload_ne : payload ≠ "")
    (hsignature : members.get "signature" = some (.string signature))
    (hsignature_ne : signature ≠ "") :
    flattenedEnvelope (.object members) =
      .ok { protectedHeader := header, payload, signature, flattened := true
            flattenedValue := some (.object members) } := by
  have hprotected := nonempty_eq_some.mpr ⟨hprotected, hprotected_ne⟩
  have hpayload := nonempty_eq_some.mpr ⟨hpayload, hpayload_ne⟩
  have hsignature := nonempty_eq_some.mpr ⟨hsignature, hsignature_ne⟩
  simp only [flattenedEnvelope, bind_eq_ok, exists_unit, okOr_eq_ok, ensure_eq_ok,
    Value.asObject_eq_some, Bool.not_eq_true', containsKey_eq_false]
  refine ⟨members, rfl, hheader, ?_⟩
  rw [hprotected, hpayload, hsignature]
  rfl

/-- The three segments of a text split at its dots, put together again. -/
theorem eq_of_split_dot {text a b c : String} (h : split '.' text = [a, b, c]) :
    text = a ++ "." ++ b ++ "." ++ c := by
  have hjoin := intercalate_split '.' text
  rw [h] at hjoin
  rw [← hjoin]
  simp only [String.intercalate_cons_cons, String.intercalate_singleton, String.append_assoc]
  rfl

/-- A parsed envelope has three nonempty parts that stand in the receipt, in one of the two
forms. -/
theorem parseEnvelope_opens {receipt : Bytes} {envelope : JwsEnvelope}
    (h : parseEnvelope lib receipt = .ok envelope) :
    Opens lib receipt envelope ∧ NonemptyParts envelope := by
  simp only [parseEnvelope, bind_eq_ok, exists_unit, ensure_eq_ok] at h
  obtain ⟨hascii, h⟩ := h
  obtain ⟨text, htext⟩ := exists_fromUtf8_of_isAscii hascii
  have hbytes := fromUtf8_eq_some.mp htext
  rw [htext, Option.getD_some] at h
  split at h
  · -- The flattened form: the text is a JSON object.
    rw [bind_eq_ok] at h
    obtain ⟨value, hjson, henvelope⟩ := h
    obtain ⟨hne, hflat, hvalue, object, rfl, hheader, hprotected, hpayload, hsignature⟩ :=
      flattenedEnvelope_eq_ok henvelope
    exact ⟨.flattened hbytes hjson hheader hprotected hpayload hsignature hflat hvalue, hne⟩
  · -- The compact form: the text has exactly three segments.
    split at h
    · rename_i a b c hparts
      rw [bind_eq_ok, exists_unit, ensure_eq_ok] at h
      obtain ⟨hnonempty, henvelope⟩ := h
      cases henvelope
      simp only [hparts, List.any_cons, List.any_nil, Bool.or_false,
        Bool.not_eq_true', Bool.or_eq_false_iff, isEmpty_eq_false_iff] at hnonempty
      obtain ⟨ha, hb, hc⟩ := hnonempty
      exact ⟨.compact hbytes (eq_of_split_dot hparts) rfl rfl, ⟨ha, hb, hc⟩⟩
    · cases h

/-! ## Header and signature -/

/-- A parsed header identifies its key: the fixed algorithm and type, an Ed25519 key, and a `kid`
that is the digest of that key. -/
theorem parseHeader_identifies {envelope : JwsEnvelope} {header : ParsedHeader}
    (h : parseHeader lib envelope = .ok header) : Identifies lib envelope header := by
  simp only [parseHeader, bind_eq_ok, exists_unit, ensure_eq_ok, okOr_eq_ok, mapErr_eq_ok,
    decodeB64_eq_ok, Value.asObject_eq_some, beq_iff_eq, Bool.and_eq_true, Bool.not_eq_true',
    get_bind_asStr, get_bind_asObject, containsKey_eq_false, toArray32_eq_some,
    Option.any_eq_true, safeEqual_bytes_iff] at h
  obtain ⟨raw, ⟨-, hraw⟩, value, hjson, members, rfl, halg, htyp, jwk, hjwk,
    ⟨⟨hkty, hcrv⟩, hd⟩, x, hx, decoded, ⟨-, hdecoded⟩, key, rfl, ⟨kid, hkid, rfl⟩, hheader⟩ := h
  cases hheader
  exact ⟨⟨raw, hraw, hjson⟩, halg, htyp,
    ⟨jwk, x, hjwk, hkty, hcrv, hd, hx, hdecoded⟩, hkid⟩

/-- The payload that is returned was signed: the signature is over the two encoded parts as they
stand in the receipt, and the payload is what the second decodes to. -/
theorem verifySignature_signs {envelope : JwsEnvelope} {key : Array32} {payload : Bytes}
    (h : verifySignature lib envelope key = .ok payload) :
    Signs lib envelope key payload := by
  simp only [verifySignature, bind_eq_ok, exists_unit, ensure_eq_ok, mapErr_eq_ok,
    decodeB64_eq_ok, beq_iff_eq, signingInput, bytes_append] at h
  obtain ⟨payload, ⟨-, hpayload⟩, signature, ⟨-, hsignature⟩, hlength, hvalid, hverifies,
    hresult⟩ := h
  cases hresult
  exact ⟨hpayload, hvalid, ⟨signature, hsignature, hlength, hverifies⟩⟩

/-! ## Compact receipts open -/

/-- The bytes of the alphabet lie between the hyphen and the letter z, and the dot is not among
them. -/
theorem range_of_isBase64Url {byte : UInt8} (h : isBase64Url byte = true) :
    45 ≤ byte.toNat ∧ byte.toNat ≤ 122 ∧ byte.toNat ≠ 46 := by
  simp only [isBase64Url, Bool.or_eq_true, Bool.and_eq_true, decide_eq_true_eq, beq_iff_eq,
    UInt8.le_iff_toNat_le, ← UInt8.toNat_inj, UInt8.toNat_ofNat] at h
  omega

/-- A character all of whose bytes are in the alphabet is one byte, since longer encodings have
bytes past ASCII. -/
theorem toNat_of_isBase64Url {c : Char}
    (h : ∀ byte ∈ String.utf8EncodeChar c, isBase64Url byte = true) :
    45 ≤ c.toNat ∧ c.toNat ≤ 122 ∧ c.toNat ≠ 46 := by
  show 45 ≤ c.val.toNat ∧ c.val.toNat ≤ 122 ∧ c.val.toNat ≠ 46
  simp only [String.utf8EncodeChar] at h
  split at h
  · have hrange := range_of_isBase64Url (h _ List.mem_cons_self)
    rw [UInt8.toNat_ofNat', Nat.mod_eq_of_lt (by omega)] at hrange
    exact hrange
  · -- A longer encoding starts with a byte above the alphabet.
    exfalso
    split at h
    · have hrange := range_of_isBase64Url (h _ List.mem_cons_self)
      rw [UInt8.toNat_ofNat'] at hrange
      omega
    · split at h
      · have hrange := range_of_isBase64Url (h _ List.mem_cons_self)
        rw [UInt8.toNat_ofNat'] at hrange
        omega
      · have hrange := range_of_isBase64Url (h _ List.mem_cons_self)
        rw [UInt8.toNat_ofNat'] at hrange
        omega

namespace Base64UrlText
variable {text : String}

/-- The characters of a base64url text. -/
theorem mem_toList (h : Base64UrlText text) {c : Char} (hc : c ∈ text.toList) :
    45 ≤ c.toNat ∧ c.toNat ≤ 122 ∧ c.toNat ≠ 46 := by
  apply toNat_of_isBase64Url
  intro byte hbyte
  apply h.alphabet
  rw [bytes_eq_flatMap]
  exact List.mem_flatMap.mpr ⟨c, hc, hbyte⟩

/-- Nothing is trimmed from a base64url text. -/
theorem not_whitespace (h : Base64UrlText text) {c : Char} (hc : c ∈ text.toList) :
    isWhitespace c = false := by
  have hrange := h.mem_toList hc
  simp [isWhitespace]
  omega

/-- It has no dot, so it is one segment of a compact receipt. -/
theorem not_dot (h : Base64UrlText text) {c : Char} (hc : c ∈ text.toList) :
    (c == '.') = false := by
  rw [beq_eq_false_iff_ne]
  rintro rfl
  exact (h.mem_toList hc).2.2 rfl

/-- It does not start as an object does. -/
theorem not_brace (h : Base64UrlText text) {c : Char} (hc : c ∈ text.toList) :
    c ≠ '\x7b' := by
  rintro rfl
  exact absurd (h.mem_toList hc).2.1 (by decide)

/-- It is ASCII. -/
theorem isAscii_bytes (h : Base64UrlText text) : isAscii (bytes text) = true := by
  rw [isAscii, List.all_eq_true]
  intro byte hbyte
  have hrange := range_of_isBase64Url (h.alphabet byte hbyte)
  rw [decide_eq_true_eq, UInt8.lt_iff_toNat_lt]
  show byte.toNat < 128
  omega

end Base64UrlText

/-- The characters of a compact receipt. -/
theorem toList_compact (a b c : String) :
    (a ++ "." ++ b ++ "." ++ c).toList = a.toList ++ '.' :: (b.toList ++ '.' :: c.toList) := by
  simp

/-- Three base64url texts with dots between them are a compact receipt with these parts. -/
theorem parseEnvelope_compact {a b c : String} (ha : Base64UrlText a) (hb : Base64UrlText b)
    (hc : Base64UrlText c) :
    parseEnvelope lib (bytes (a ++ "." ++ b ++ "." ++ c)) =
      .ok { protectedHeader := a, payload := b, signature := c, flattened := false
            flattenedValue := none } := by
  have hascii : isAscii (bytes (a ++ "." ++ b ++ "." ++ c)) = true := by
    have ha := ha.isAscii_bytes
    have hb := hb.isAscii_bytes
    have hc := hc.isAscii_bytes
    have hdot : isAscii (bytes ".") = true := by decide
    unfold isAscii at *
    simp only [bytes_append, List.all_append, ha, hb, hc, hdot, Bool.and_self]
  have htext : fromUtf8 (bytes (a ++ "." ++ b ++ "." ++ c)) =
      some (a ++ "." ++ b ++ "." ++ c) := fromUtf8_eq_some.mpr rfl
  -- No character of the parts is white space, a dot or a brace.
  have htrim : trim (a ++ "." ++ b ++ "." ++ c) = a ++ "." ++ b ++ "." ++ c := by
    apply trimMatches_eq_self
    intro d hd
    simp only [toList_compact, List.mem_append, List.mem_cons] at hd
    rcases hd with hd | rfl | hd | rfl | hd
    · exact ha.not_whitespace hd
    · rfl
    · exact hb.not_whitespace hd
    · rfl
    · exact hc.not_whitespace hd
  have hsplit : split '.' (a ++ "." ++ b ++ "." ++ c) = [a, b, c] := by
    rw [split, toList_compact, splitWhere_append (fun _ h => ha.not_dot h) rfl,
      splitWhere_append (fun _ h => hb.not_dot h) rfl,
      splitWhere_of_forall (fun _ h => hc.not_dot h)]
    simp
  have hbrace : startsWith (a ++ "." ++ b ++ "." ++ c) "\x7b" = false := by
    cases hchars : a.toList with
    | nil => exact absurd (String.toList_eq_nil_iff.mp hchars) ha.ne_empty
    | cons d rest =>
        have hne := ha.not_brace (hchars ▸ List.mem_cons_self : d ∈ a.toList)
        rw [startsWith, toList_compact, hchars]
        simp [List.isPrefixOf, Ne.symm hne]
  have hempty : ∀ {s}, Base64UrlText s → isEmpty s = false := fun h =>
    isEmpty_eq_false_iff.mpr h.ne_empty
  simp only [parseEnvelope, hascii, htext, Option.getD_some, htrim, hbrace, hsplit,
    List.any_cons, List.any_nil, hempty ha, hempty hb, hempty hc]
  rfl

/-- The text of a JSON object: it stands between braces. -/
structure Braced (text : Bytes) : Prop where
  first : text.head? = some 123
  last : text.getLast? = some 125

/-- An ASCII text between braces is read as a flattened receipt. -/
theorem parseEnvelope_braced {text : Bytes} (hascii : isAscii text = true) (h : Braced text) :
    parseEnvelope lib text = (loadJson lib text "JWS structure").bind flattenedEnvelope := by
  have htext : fromUtf8 text = some (String.ofList (text.map asciiChar)) :=
    fromUtf8_eq_some.mpr (bytes_ofList_asciiChar hascii)
  have hchars : (String.ofList (text.map asciiChar)).toList = text.map asciiChar :=
    String.toList_ofList
  have hfirst : (text.map asciiChar).head? = some '\x7b' := by
    rw [List.head?_map, h.first]
    decide
  -- A brace at each end leaves nothing to trim.
  have htrim : trim (String.ofList (text.map asciiChar)) = String.ofList (text.map asciiChar) := by
    apply trimMatches_of_ends
    · rw [hchars, hfirst]
      rintro c ⟨⟩
      decide
    · rw [hchars, List.getLast?_map, h.last]
      rintro c ⟨⟩
      decide
  have hstarts : startsWith (String.ofList (text.map asciiChar)) "\x7b" = true := by
    obtain ⟨rest, hrest⟩ := List.head?_eq_some_iff.mp hfirst
    rw [startsWith, hchars, hrest, List.isPrefixOf_iff_prefix]
    exact ⟨rest, rfl⟩
  simp only [parseEnvelope, hascii, htext, Option.getD_some, htrim, hstarts, if_true,
    bytes_ofList_asciiChar hascii]
  rfl

/-- A text that is not ASCII is no receipt. -/
theorem parseEnvelope_not_ascii {text : Bytes} (h : isAscii text = false) :
    parseEnvelope lib text =
      .error (.structural "JWS structure check failed: receipt bytes must be ASCII") := by
  rw [parseEnvelope, h]
  rfl

end TrustedRouter.Proofs.Receipts
