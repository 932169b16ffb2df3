import TrustedRouter.Receipts

/-!
# `TrustedRouter.Proofs.Receipts.Readers`: what a successful read says

The verifier of `receipts.rs` reads a receipt through a few small functions. Each has one
lemma here that says what its success means. A required member is there with the value
returned. An optional one is there exactly when a value is returned, so its member is
`value.map Value.string`. A base64url text that decodes is the library's decoding of it.
-/

set_option autoImplicit false

namespace TrustedRouter.Proofs.Receipts

open Rust (Bytes)
open Rust.Str
open Rust.Result
open Serde (Value)
open TrustedRouter.Receipts

/-! ## Members -/

section Members
variable {object : Serde.Map} {name : String}

/-- Reading a member as a string says that it is one. -/
theorem get_bind_asStr {s : String} :
    (object.get name).bind Value.asStr = some s ↔ object.get name = some (.string s) := by
  simp [Option.bind_eq_some_iff, Value.asStr_eq_some]

/-- Reading a member as an object says that it is one. -/
theorem get_bind_asObject {m : Serde.Map} :
    (object.get name).bind Value.asObject = some m ↔ object.get name = some (.object m) := by
  simp [Option.bind_eq_some_iff, Value.asObject_eq_some]

/-- A string member that is kept when it is not empty. -/
theorem nonempty_eq_some {s : String} :
    ((object.get name).bind Value.asStr).filter (fun value => !isEmpty value) = some s ↔
      object.get name = some (.string s) ∧ s ≠ "" := by
  rw [Option.filter_eq_some_iff, get_bind_asStr, Bool.not_eq_true', isEmpty_eq_false_iff]

/-- A name that is not contained has no member. -/
theorem containsKey_eq_false : object.containsKey name = false ↔ object.get name = none := by
  simp [Serde.Map.containsKey]

/-- A required string is the member of that name, and not empty. A missing member, another type
and an empty text are one error. -/
theorem requiredString_eq_ok {family s : String} :
    requiredString object name family = .ok s ↔
      object.get name = some (.string s) ∧ s ≠ "" := by
  rw [requiredString, okOr_eq_ok, nonempty_eq_some]

/-- A required object is the member of that name. -/
theorem requiredObject_eq_ok {error : String → ReceiptVerificationError} {m : Serde.Map} :
    requiredObject object name error = .ok m ↔ object.get name = some (.object m) := by
  rw [requiredObject, okOr_eq_ok, get_bind_asObject]

/-- An optional text is absent with its member, and otherwise an accepted string. A member of
another type is an error and not an absence, `null` included. -/
theorem optionalText_eq_ok {accepts : String → Bool} {error : ReceiptVerificationError}
    {value : Option String} :
    optionalText object name accepts error = .ok value ↔
      object.get name = value.map Value.string ∧ ∀ s, value = some s → accepts s = true := by
  unfold optionalText
  split
  · rename_i hget
    rw [hget]
    cases value <;> simp
  · rename_i text hget
    rw [hget]
    split
    · rename_i haccepts
      cases value with
      | none => simp
      | some s =>
          simp only [Except.ok.injEq, Option.some.injEq, Option.map_some, Value.string.injEq]
          constructor
          · rintro rfl; exact ⟨rfl, fun s hs => hs ▸ haccepts⟩
          · rintro ⟨h, -⟩; exact h
    · rename_i hrefuses
      cases value with
      | none => simp
      | some s =>
          simp only [reduceCtorEq, Option.map_some, Option.some.injEq, Value.string.injEq,
            false_iff]
          rintro ⟨rfl, haccepts⟩
          exact hrefuses (haccepts text rfl)
  · rename_i other hother hget
    rw [hget]
    cases value with
    | none => simp
    | some s =>
        simp only [reduceCtorEq, Option.map_some, Option.some.injEq, false_iff]
        rintro ⟨h, -⟩
        exact hother s h

/-- An optional string may be absent but not empty. -/
theorem optionalString_eq_ok {family : String} {value : Option String} :
    optionalString object name family = .ok value ↔
      object.get name = value.map Value.string ∧ ∀ s, value = some s → s ≠ "" := by
  rw [optionalString, optionalText_eq_ok]
  simp only [Bool.not_eq_true', isEmpty_eq_false_iff]

/-- An integer is a number in the range of `i64`. A float is not one, even with an integral
value. -/
theorem integer_eq_ok {value : Option Value} {check : String}
    {error : String → ReceiptVerificationError} {i : Int} :
    integer value check error = .ok i ↔ value.bind Value.asI64 = some i := by
  rw [integer, okOr_eq_ok]

end Members

/-! ## Encoded texts and JSON -/

section Encoded
variable {lib : Library}

/-- The texts `decode_b64` passes on to the decoder. -/
structure Base64UrlText (text : String) : Prop where
  ne_empty : text ≠ ""
  alphabet : ∀ byte ∈ bytes text, isBase64Url byte = true
  length_mod : len text % 4 ≠ 1

/-- Base64url is checked in two steps: the alphabet and the length here, the bits by the crate. -/
theorem decodeB64_eq_ok {text check : String} {decoded : Bytes} :
    decodeB64 lib text check = .ok decoded ↔
      Base64UrlText text ∧ lib.decode text = some decoded := by
  simp only [decodeB64, bind_eq_ok, exists_unit, ensure_eq_ok, okOr_eq_ok, Bool.not_eq_true',
    Bool.or_eq_false_iff, isEmpty_eq_false_iff, beq_eq_false_iff_ne, Bool.not_eq_false',
    List.all_eq_true]
  constructor
  · rintro ⟨⟨⟨hne, hmod⟩, hall⟩, hdecode⟩
    exact ⟨⟨hne, hall, hmod⟩, hdecode⟩
  · rintro ⟨⟨hne, hall, hmod⟩, hdecode⟩
    exact ⟨⟨⟨hne, hmod⟩, hall⟩, hdecode⟩

/-- Only whitespace may follow. -/
theorem atEnd_eq_ok {rest : Bytes} {u : Unit} :
    Serde.atEnd rest = .ok u ↔ rest.all Serde.isJsonWhitespace = true := by
  unfold Serde.atEnd
  split <;> simp_all

/-- A digest is decoded as any other base64url text. -/
theorem hashBytes_eq_ok {text check : String} {decoded : Bytes} :
    hashBytes lib text check = .ok decoded ↔
      Base64UrlText text ∧ lib.decode text = some decoded := by
  rw [hashBytes, mapErr_eq_ok, decodeB64_eq_ok]

/-- A text loads to a value when the parser reads a tree without repeated names off its
front, and only whitespace follows. -/
theorem loadJson_eq_ok {data : Bytes} {check : String} {value : Value} :
    loadJson lib data check = .ok value ↔
      ∃ raw rest, lib.read data = .ok (raw, rest) ∧ strictValue lib raw = .ok value ∧
        rest.all Serde.isJsonWhitespace = true := by
  simp only [loadJson, bind_eq_ok, exists_unit, mapErr_eq_ok]
  constructor
  · rintro ⟨⟨raw, rest⟩, hread, value, hstrict, hend, hresult⟩
    cases hresult
    exact ⟨raw, rest, hread, hstrict, atEnd_eq_ok.mp hend⟩
  · rintro ⟨raw, rest, hread, hstrict, hend⟩
    exact ⟨⟨raw, rest⟩, hread, value, hstrict, atEnd_eq_ok.mpr hend, rfl⟩

/-- The comparison in constant time is equality. -/
theorem safeEqual_iff {a b : Bytes} : safeEqual a b = true ↔ a = b := safeEqBytes_iff

/-- The comparison of two texts by their bytes. -/
theorem safeEqual_bytes_iff {a b : String} : safeEqual (bytes a) (bytes b) = true ↔ a = b := by
  rw [safeEqual_iff]
  constructor
  · intro h; exact bytes_injective h
  · rintro rfl; rfl

/-- Bytes are a key or a digest when there are 32 of them, and then they are its bytes. -/
theorem toArray32_eq_some {value : Bytes} {key : Array32} :
    toArray32 value = some key ↔ value = key.toBytes := by
  unfold toArray32
  obtain ⟨keyBytes, hkey⟩ := key
  split
  · simp
  · rename_i hlength
    simp only [reduceCtorEq, false_iff]
    rintro rfl
    exact hlength hkey

end Encoded

end TrustedRouter.Proofs.Receipts
