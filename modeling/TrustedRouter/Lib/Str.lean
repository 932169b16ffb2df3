import Mathlib

/-!
# `TrustedRouter.Lib.Str`: `str` and byte-string operations

Rust strings are UTF-8 byte sequences. A Lean `String` is one too, so a `&str` is a
`String`, its bytes are `bytes`, and its length in bytes is `len`. Operations that walk
characters are written over `String.toList`.

The comparison lemmas are the ones a verifier needs. `constantTimeEq_iff` and
`safeEq_iff` say that the two constant-time comparisons decide equality.
`eqIgnoreAsciiCase_iff` says that the case-insensitive one decides equality of the
lowercase forms, and `toAsciiLowercase_hex` that hexadecimal output is its own lowercase
form.
-/

set_option autoImplicit false

namespace Rust

/-- `[u8]`. -/
abbrev Bytes := List UInt8

namespace Str

/-- `str::as_bytes`. -/
def bytes (s : String) : Bytes := s.toByteArray.data.toList

/-- `str::from_utf8`. -/
def fromUtf8 (b : Bytes) : Option String := String.fromUTF8? ⟨b.toArray⟩

/-- `str::len`: the length in bytes. -/
def len (s : String) : Nat := s.utf8ByteSize

/-- `str::is_empty`. -/
def isEmpty (s : String) : Bool := s == ""

/-- `char::is_whitespace`: the Unicode `White_Space` property. -/
def isWhitespace (c : Char) : Bool :=
  let n := c.toNat
  (0x09 ≤ n && n ≤ 0x0D) || n == 0x20 || n == 0x85 || n == 0xA0 || n == 0x1680 ||
    (0x2000 ≤ n && n ≤ 0x200A) || n == 0x2028 || n == 0x2029 || n == 0x202F ||
    n == 0x205F || n == 0x3000

/-- `str::trim_matches` for a character predicate. -/
def trimMatches (p : Char → Bool) (s : String) : String :=
  String.ofList ((s.toList.dropWhile p).reverse.dropWhile p).reverse

/-- `str::trim`. -/
def trim (s : String) : String := trimMatches isWhitespace s

/-- `str::trim_start_matches` for one character. -/
def trimStartMatches (c : Char) (s : String) : String :=
  String.ofList (s.toList.dropWhile (· == c))

/-- `str::to_ascii_lowercase`. -/
def toAsciiLowercase (s : String) : String := String.ofList (s.toList.map Char.toLower)

/-- `str::eq_ignore_ascii_case`. -/
def eqIgnoreAsciiCase (a b : String) : Bool := toAsciiLowercase a == toAsciiLowercase b

/-- `str::starts_with`. -/
def startsWith (s pre : String) : Bool := pre.toList.isPrefixOf s.toList

/-- `str::strip_prefix` for a string. -/
def stripPrefixStr (s pre : String) : Option String :=
  if startsWith s pre then some (String.ofList (s.toList.drop pre.toList.length)) else none

/-- `str::ends_with`. -/
def endsWith (s suf : String) : Bool := suf.toList.isSuffixOf s.toList

/-- `str::contains` for a string. -/
def containsStr (s part : String) : Bool := s.toList.tails.any (part.toList.isPrefixOf ·)

/-- `str::parse::<u64>`: decimal digits with an optional plus sign, below `2 ^ 64`. -/
def parseU64 (s : String) : Option Nat :=
  let digits :=
    match s.toList with
    | '+' :: rest => rest
    | other => other
  let value := digits.foldl (fun acc c => 10 * acc + (c.toNat - 48)) 0
  if digits.isEmpty || !digits.all Char.isDigit || 2 ^ 64 ≤ value then none else some value

/-- `str::contains` for one character. -/
def containsChar (s : String) (c : Char) : Bool := s.toList.contains c

/-- `str::strip_suffix` for one character. -/
def stripSuffixChar (s : String) (c : Char) : Option String :=
  match s.toList.reverse with
  | [] => none
  | d :: rest => if d == c then some (String.ofList rest.reverse) else none

/-- The parts of a character list between the characters that satisfy `p`: always at least
one part. -/
def splitWhere (p : Char → Bool) : List Char → List (List Char)
  | [] => [[]]
  | d :: rest =>
      match splitWhere p rest with
      | [] => [[d]]
      | part :: parts => if p d then [] :: part :: parts else (d :: part) :: parts

/-- `str::split` for one character. -/
def split (c : Char) (s : String) : List String :=
  (splitWhere (· == c) s.toList).map String.ofList

/-- `str::split_whitespace`. -/
def splitWhitespace (s : String) : List String :=
  ((splitWhere isWhitespace s.toList).filter (!·.isEmpty)).map String.ofList

/-- `lines().next()`: the text before the first newline, and a carriage return before that
newline is no part of it. -/
def firstLine (s : String) : Option String :=
  let line := String.ofList (s.toList.takeWhile (· != '\n'))
  if isEmpty s then none
  else if containsChar s '\n' then some ((stripSuffixChar line '\r').getD line)
  else some line

/-- `u8::is_ascii_hexdigit`, on the character. -/
def isAsciiHexdigit (c : Char) : Bool :=
  c.isDigit || ('a' ≤ c && c ≤ 'f') || ('A' ≤ c && c ≤ 'F')

/-- `u8::is_ascii_alphanumeric`, on the character. -/
def isAsciiAlphanumeric (c : Char) : Bool := c.isAlphanum

/-- `[u8]::is_ascii`. -/
def isAscii (b : Bytes) : Bool := b.all (· < 128)

/-- One hexadecimal digit, lowercase. -/
def hexDigit (n : Nat) : Char :=
  if n < 10 then Char.ofNat (48 + n) else Char.ofNat (87 + n)

/-- Lowercase hexadecimal, two digits a byte (`{byte:02x}`). -/
def hex (value : Bytes) : String :=
  String.ofList (value.flatMap fun b => [hexDigit (b.toNat / 16), hexDigit (b.toNat % 16)])

/-- `constant_time_eq`: equality of byte strings. -/
def constantTimeEq (left right : Bytes) : Bool := left == right

/-- A guarded comparison: lengths first, then the constant-time comparison. -/
def safeEqBytes (left right : Bytes) : Bool :=
  left.length == right.length && constantTimeEq left right

/-- The same comparison on strings. -/
def safeEq (left right : String) : Bool :=
  len left == len right && constantTimeEq (bytes left) (bytes right)

/-- A string is determined by its bytes, because UTF-8 has one encoding for each character. -/
theorem bytes_injective {a b : String} (h : bytes a = bytes b) : a = b := by
  apply String.toByteArray_inj.mp
  apply ByteArray.ext
  exact Array.toList_inj.mp h

/-- The crate takes the same time on every pair of one length. -/
theorem constantTimeEq_iff {a b : Bytes} : constantTimeEq a b = true ↔ a = b := by
  simp [constantTimeEq]

/-- The guarded comparison of byte strings decides equality. The check of the lengths is there for
the time it takes and does not change the answer. -/
theorem safeEqBytes_iff {a b : Bytes} : safeEqBytes a b = true ↔ a = b := by
  simp only [safeEqBytes, Bool.and_eq_true, constantTimeEq_iff]
  constructor
  · rintro ⟨-, h⟩; exact h
  · rintro rfl; simp

/-- The guarded comparison of strings decides equality, since strings of the same bytes are the
same. -/
theorem safeEq_iff {a b : String} : safeEq a b = true ↔ a = b := by
  simp only [safeEq, Bool.and_eq_true, constantTimeEq_iff]
  constructor
  · rintro ⟨-, h⟩; exact bytes_injective h
  · rintro rfl; simp

/-- Texts that agree up to the case of ASCII letters are those with one lowercase form. -/
theorem eqIgnoreAsciiCase_iff {a b : String} :
    eqIgnoreAsciiCase a b = true ↔ toAsciiLowercase a = toAsciiLowercase b := by
  simp [eqIgnoreAsciiCase]

/-- A text starts with another when it is that text and more. -/
theorem startsWith_iff {s pre : String} : startsWith s pre = true ↔ ∃ rest, s = pre ++ rest := by
  rw [startsWith, List.isPrefixOf_iff_prefix]
  constructor
  · rintro ⟨rest, hrest⟩
    refine ⟨String.ofList rest, String.toList_inj.mp ?_⟩
    rw [String.toList_append, String.toList_ofList, hrest]
  · rintro ⟨rest, rfl⟩
    rw [String.toList_append]
    exact List.prefix_append _ _

/-- A text ends with another when it is something before that text. -/
theorem endsWith_iff {s suf : String} : endsWith s suf = true ↔ ∃ before, s = before ++ suf := by
  rw [endsWith, List.isSuffixOf_iff_suffix]
  constructor
  · rintro ⟨before, hbefore⟩
    refine ⟨String.ofList before, String.toList_inj.mp ?_⟩
    rw [String.toList_append, String.toList_ofList, hbefore]
  · rintro ⟨before, rfl⟩
    rw [String.toList_append]
    exact List.suffix_append _ _

/-- Whether a text has a short end is decided by what stands there. The length is needed: a longer
`suf` would reach into `a`. -/
theorem endsWith_append {a b suf : String} (hlen : suf.toList.length ≤ b.toList.length) :
    endsWith (a ++ b) suf = endsWith b suf := by
  rw [Bool.eq_iff_iff, endsWith, endsWith, List.isSuffixOf_iff_suffix, List.isSuffixOf_iff_suffix,
    String.toList_append]
  constructor
  · intro h
    exact List.suffix_of_suffix_length_le h (List.suffix_append _ _) hlen
  · intro h
    exact h.trans (List.suffix_append _ _)

/-- What is left of a text after its own start. -/
theorem stripPrefixStr_append (pre rest : String) :
    stripPrefixStr (pre ++ rest) pre = some rest := by
  rw [stripPrefixStr, if_pos (startsWith_iff.mpr ⟨rest, rfl⟩), String.toList_append,
    List.drop_left, String.ofList_toList]

/-- What is left of a text after its start. This is the way `strip_prefix` is read off an accepted
input: the whole text is known again. -/
theorem stripPrefixStr_eq_some {s pre rest : String} :
    stripPrefixStr s pre = some rest ↔ s = pre ++ rest := by
  constructor
  · intro h
    have hstarts : startsWith s pre = true := by
      by_contra hnot
      rw [stripPrefixStr, if_neg hnot] at h
      cases h
    obtain ⟨other, rfl⟩ := startsWith_iff.mp hstarts
    rw [stripPrefixStr_append] at h
    cases h
    rfl
  · rintro rfl
    exact stripPrefixStr_append pre rest

/-- The digits of `hexDigit` have no uppercase form, checked for all sixteen. -/
theorem hexDigit_toLower {n : Nat} (h : n < 16) : (hexDigit n).toLower = hexDigit n := by
  revert n
  decide

/-- Hexadecimal output is lowercase already. -/
theorem toAsciiLowercase_hex (value : Bytes) : toAsciiLowercase (hex value) = hex value := by
  have hdigits : ∀ b : UInt8, (hexDigit (b.toNat / 16)).toLower = hexDigit (b.toNat / 16) ∧
      (hexDigit (b.toNat % 16)).toLower = hexDigit (b.toNat % 16) := by
    intro b
    have := b.toNat_lt
    exact ⟨hexDigit_toLower (by omega), hexDigit_toLower (by omega)⟩
  simp only [toAsciiLowercase, hex, String.toList_ofList, List.map_flatMap, List.map_cons,
    List.map_nil, hdigits]

/-- The empty text is the only one without a byte. -/
theorem isEmpty_eq_false_iff {s : String} : isEmpty s = false ↔ s ≠ "" := by
  simp [isEmpty]

/-! ## ASCII case -/

/-- What holds of the characters below 128, one by one, holds of every ASCII character. The
hypothesis can be decided, and this is how facts about character classes are proved below. -/
theorem forall_ascii {P : Char → Prop} (h : ∀ n < 128, P (Char.ofNat n)) {c : Char}
    (hc : c.toNat < 128) : P c := by
  have hchar := h c.toNat hc
  rwa [Char.ofNat_toNat] at hchar

/-- `to_ascii_lowercase` on the code point of a character. With it a question about letters is one
about numbers. -/
theorem toNat_toLower (c : Char) :
    c.toLower.toNat = if 65 ≤ c.toNat ∧ c.toNat ≤ 90 then c.toNat + 32 else c.toNat := by
  have hiff : (c.val ≥ 'A'.val ∧ c.val ≤ 'Z'.val) ↔ 65 ≤ c.toNat ∧ c.toNat ≤ 90 := Iff.rfl
  unfold Char.toLower
  by_cases h : 65 ≤ c.toNat ∧ c.toNat ≤ 90
  · rw [if_pos h, dif_pos (hiff.mpr h)]
    have hval : c.val.toNat ≤ 90 := h.2
    show (c.val + ('a'.val - 'A'.val)).toNat = c.val.toNat + 32
    rw [UInt32.toNat_add]
    have h32 : ('a'.val - 'A'.val).toNat = 32 := rfl
    omega
  · rw [if_neg h, dif_neg (mt hiff.mp h)]

/-- A lowercase letter is not in the range that is moved. -/
theorem toLower_toLower (c : Char) : c.toLower.toLower = c.toLower := by
  apply Char.toNat_inj.mp
  simp only [toNat_toLower]
  split
  · rw [if_neg (by omega)]
  · rfl

/-- Lowercasing twice is lowercasing once, so a lowercase form can be compared with another. -/
theorem toAsciiLowercase_idem (s : String) :
    toAsciiLowercase (toAsciiLowercase s) = toAsciiLowercase s := by
  simp only [toAsciiLowercase, String.toList_ofList, List.map_map, Function.comp_def,
    toLower_toLower]

/-- Lowercase is taken character by character. -/
theorem toAsciiLowercase_append (a b : String) :
    toAsciiLowercase (a ++ b) = toAsciiLowercase a ++ toAsciiLowercase b := by
  rw [toAsciiLowercase, String.toList_append, List.map_append, String.ofList_append]
  rfl

/-- The hexadecimal digits as ranges of code points. -/
theorem isAsciiHexdigit_iff {c : Char} : isAsciiHexdigit c = true ↔
    48 ≤ c.toNat ∧ c.toNat ≤ 57 ∨ 97 ≤ c.toNat ∧ c.toNat ≤ 102 ∨
      65 ≤ c.toNat ∧ c.toNat ≤ 70 := by
  have hiff : ∀ lo hi : Char, (decide (lo ≤ c) && decide (c ≤ hi)) = true ↔
      lo.toNat ≤ c.toNat ∧ c.toNat ≤ hi.toNat := by
    intro lo hi
    rw [Bool.and_eq_true, decide_eq_true_eq, decide_eq_true_eq]
    rfl
  have hdigit : c.isDigit = true ↔ 48 ≤ c.toNat ∧ c.toNat ≤ 57 := by
    simp [Char.isDigit]
    rfl
  rw [isAsciiHexdigit, Bool.or_eq_true, Bool.or_eq_true, hiff, hiff, hdigit, or_assoc]
  rfl

/-- Both cases of a hexadecimal digit are one, so lowercasing does not change the answer. -/
theorem isAsciiHexdigit_toLower (c : Char) : isAsciiHexdigit c.toLower = isAsciiHexdigit c := by
  rw [Bool.eq_iff_iff, isAsciiHexdigit_iff, isAsciiHexdigit_iff, toNat_toLower]
  split <;> omega

/-! ## Bytes and text -/

/-- The bytes of two texts one after the other. -/
theorem bytes_append (a b : String) : bytes (a ++ b) = bytes a ++ bytes b := by
  simp [bytes, String.toByteArray_append]

/-- `from_utf8` inverts `as_bytes`, and accepts nothing else. -/
theorem fromUtf8_eq_some {b : Bytes} {s : String} : fromUtf8 b = some s ↔ bytes s = b := by
  unfold fromUtf8 String.fromUTF8?
  constructor
  · intro h
    split at h
    · cases h; simp [bytes, String.fromUTF8]
    · cases h
  · rintro rfl
    have harray : ByteArray.mk (bytes s).toArray = s.toByteArray := by simp [bytes]
    rw [dif_pos (harray ▸ s.isValidUTF8)]
    simp [String.fromUTF8, harray]

/-- The bytes of a text, character by character. Most facts about bytes below are facts about
`utf8EncodeChar` through this one. -/
theorem bytes_eq_flatMap (s : String) : bytes s = s.toList.flatMap String.utf8EncodeChar := by
  conv_lhs => rw [← String.ofList_toList (s := s)]
  rw [bytes, String.toByteArray_ofList, List.utf8Encode, List.data_toByteArray]

/-- The bytes of a literal, from its characters. On the right there is nothing left but lists,
which the kernel evaluates. -/
theorem bytes_ofList (l : List Char) :
    bytes (String.ofList l) = l.flatMap String.utf8EncodeChar := by
  rw [bytes_eq_flatMap, String.toList_ofList]

/-- `str::len` counts bytes. -/
theorem len_eq_length (s : String) : len s = (bytes s).length := by
  simp [len, bytes]

/-- An ASCII text has as many bytes as characters. -/
theorem len_of_ascii {s : String} (h : ∀ c ∈ s.toList, c.toNat < 128) :
    len s = s.toList.length := by
  rw [len_eq_length, bytes_eq_flatMap]
  generalize s.toList = chars at h
  induction chars with
  | nil => rfl
  | cons c rest ih =>
      obtain ⟨hc, hrest⟩ := List.forall_mem_cons.mp h
      have hone : String.utf8EncodeChar c = [c.val.toUInt8] := by
        have hlt : c.val.toNat < 128 := hc
        simp only [String.utf8EncodeChar]
        rw [if_pos (by omega)]
        rfl
      rw [List.flatMap_cons, hone, List.length_append, ih hrest, List.length_singleton,
        List.length_cons, Nat.add_comm]

/-- The character of an ASCII byte. -/
def asciiChar (b : UInt8) : Char := Char.ofNat b.toNat

/-- Every ASCII byte is the code point of a character. -/
theorem toNat_asciiChar {b : UInt8} (h : b < 128) : (asciiChar b).toNat = b.toNat := by
  have hlt : b.toNat < 128 := h
  have hvalid : b.toNat.isValidChar := .inl (by omega)
  simp [asciiChar, Char.toNat, Char.ofNat, hvalid, Char.ofNatAux]

/-- An ASCII character is encoded as its own code point. -/
theorem utf8EncodeChar_asciiChar {b : UInt8} (h : b < 128) :
    String.utf8EncodeChar (asciiChar b) = [b] := by
  have hlt : b.toNat < 128 := h
  have hval : (asciiChar b).val.toNat = b.toNat := toNat_asciiChar h
  simp only [String.utf8EncodeChar, hval]
  rw [if_pos (by omega), UInt8.ofNat_toNat]

/-- ASCII bytes, read as characters and encoded again, are the same. -/
theorem bytes_ofList_asciiChar {b : Bytes} (h : isAscii b = true) :
    bytes (String.ofList (b.map asciiChar)) = b := by
  rw [bytes, String.toByteArray_ofList]
  induction b with
  | nil => rfl
  | cons byte rest ih =>
      simp only [isAscii, List.all_cons, Bool.and_eq_true, decide_eq_true_eq] at h
      rw [List.map_cons, List.utf8Encode_cons, ByteArray.data_append, Array.toList_append,
        ih h.2]
      simp [List.utf8Encode, utf8EncodeChar_asciiChar h.1]

/-- ASCII bytes are the bytes of a text. -/
theorem exists_fromUtf8_of_isAscii {b : Bytes} (h : isAscii b = true) :
    ∃ s, fromUtf8 b = some s :=
  ⟨_, fromUtf8_eq_some.mpr (bytes_ofList_asciiChar h)⟩

/-- Bytes are UTF-8 when they are the encoding of some characters. -/
theorem fromUtf8_isSome_iff {b : Bytes} :
    (fromUtf8 b).isSome = true ↔ ∃ l : List Char, l.flatMap String.utf8EncodeChar = b := by
  rw [Option.isSome_iff_exists]
  constructor
  · rintro ⟨s, hs⟩
    exact ⟨s.toList, by rw [← bytes_eq_flatMap, fromUtf8_eq_some.mp hs]⟩
  · rintro ⟨l, hl⟩
    exact ⟨String.ofList l, fromUtf8_eq_some.mpr (by rw [bytes_ofList, hl])⟩

/-- An encoding that starts with an ASCII byte is that byte. -/
theorem utf8EncodeChar_of_ascii_head {c : Char} {b : UInt8} {rest : Bytes} (hb : b < 128)
    (h : String.utf8EncodeChar c = b :: rest) : rest = [] := by
  have hlt : b.toNat < 128 := hb
  simp only [String.utf8EncodeChar] at h
  split at h
  · cases h; rfl
  · -- A longer encoding starts with a byte of at least 192.
    exfalso
    repeat' split at h
    all_goals
      injection h with hfirst
      have hnat := congrArg UInt8.toNat hfirst
      simp at hnat
      omega

/-- An ASCII byte in front does not change whether bytes are UTF-8: it is a character of its own,
and no other encoding starts with it. -/
theorem fromUtf8_cons_isSome {b : UInt8} (hb : b < 128) (rest : Bytes) :
    (fromUtf8 (b :: rest)).isSome = (fromUtf8 rest).isSome := by
  rw [Bool.eq_iff_iff, fromUtf8_isSome_iff, fromUtf8_isSome_iff]
  constructor
  · rintro ⟨l, hl⟩
    cases l with
    | nil => cases hl
    | cons c l =>
        obtain ⟨byte, more, hc⟩ :=
          List.exists_cons_of_ne_nil (String.utf8EncodeChar_ne_nil (c := c))
        rw [List.flatMap_cons, hc, List.cons_append, List.cons.injEq] at hl
        obtain ⟨rfl, hrest⟩ := hl
        rw [utf8EncodeChar_of_ascii_head hb hc, List.nil_append] at hrest
        exact ⟨l, hrest⟩
  · rintro ⟨l, hl⟩
    exact ⟨asciiChar b :: l, by rw [List.flatMap_cons, utf8EncodeChar_asciiChar hb, hl]; rfl⟩

/-- The same for several ASCII bytes. -/
theorem fromUtf8_append_isSome {a : Bytes} (ha : isAscii a = true) (rest : Bytes) :
    (fromUtf8 (a ++ rest)).isSome = (fromUtf8 rest).isSome := by
  induction a with
  | nil => rfl
  | cons byte a ih =>
      simp only [isAscii, List.all_cons, Bool.and_eq_true, decide_eq_true_eq] at ha
      rw [List.cons_append, fromUtf8_cons_isSome ha.1, ih ha.2]

/-! ## Trimming and splitting -/

/-- A text without characters to trim stays as it is. -/
theorem trimMatches_eq_self {p : Char → Bool} {s : String}
    (h : ∀ c ∈ s.toList, p c = false) : trimMatches p s = s := by
  have hdrop : ∀ l : List Char, (∀ c ∈ l, p c = false) → l.dropWhile p = l := by
    intro l hl
    cases l with
    | nil => rfl
    | cons c rest =>
        rw [List.dropWhile_cons_of_neg]
        rw [hl c List.mem_cons_self]
        exact Bool.false_ne_true
  rw [trimMatches, hdrop _ h, hdrop, List.reverse_reverse, String.ofList_toList]
  intro c hc
  exact h c (List.mem_reverse.mp hc)

/-- A text with nothing to trim at its two ends stays as it is. -/
theorem trimMatches_of_ends {p : Char → Bool} {s : String}
    (hfirst : ∀ c, s.toList.head? = some c → p c = false)
    (hlast : ∀ c, s.toList.getLast? = some c → p c = false) : trimMatches p s = s := by
  have hdrop : ∀ l : List Char, (∀ c, l.head? = some c → p c = false) → l.dropWhile p = l := by
    intro l hl
    cases l with
    | nil => rfl
    | cons c rest =>
        rw [List.dropWhile_cons_of_neg]
        rw [hl c rfl]
        exact Bool.false_ne_true
  rw [trimMatches, hdrop _ hfirst, hdrop, List.reverse_reverse, String.ofList_toList]
  intro c hc
  rw [List.head?_reverse] at hc
  exact hlast c hc

/-- A text is what is trimmed at its two ends around what is left. Together with
`trimMatches_append` this says what `trim_matches` returns. -/
theorem exists_trimMatches_split (p : Char → Bool) (s : String) :
    ∃ before after : String, s = before ++ trimMatches p s ++ after ∧
      (∀ c ∈ before.toList, p c = true) ∧ ∀ c ∈ after.toList, p c = true := by
  have hfront := List.takeWhile_append_dropWhile (p := p) (l := s.toList)
  have hback := List.takeWhile_append_dropWhile (p := p) (l := (s.toList.dropWhile p).reverse)
  refine ⟨String.ofList (s.toList.takeWhile p),
    String.ofList ((s.toList.dropWhile p).reverse.takeWhile p).reverse, ?_, ?_, ?_⟩
  · rw [trimMatches, ← String.ofList_append, ← String.ofList_append, List.append_assoc,
      ← List.reverse_append, hback, List.reverse_reverse, hfront, String.ofList_toList]
  · intro c hc
    rw [String.toList_ofList] at hc
    exact List.all_eq_true.mp List.all_takeWhile c hc
  · intro c hc
    rw [String.toList_ofList, List.mem_reverse] at hc
    exact List.all_eq_true.mp List.all_takeWhile c hc

/-- Dropping stops where the second list starts, if all of the first is dropped and its start is
not. -/
theorem dropWhile_append_of_all {p : Char → Bool} {a b : List Char} (ha : ∀ c ∈ a, p c = true)
    (hb : ∀ c, b.head? = some c → p c = false) : (a ++ b).dropWhile p = b := by
  rw [List.dropWhile_append_of_pos ha]
  cases b with
  | nil => rfl
  | cons c b =>
      rw [List.dropWhile_cons_of_neg]
      rw [hb c rfl]
      exact Bool.false_ne_true

/-- Trimming takes off what stands around a text whose two ends are not trimmed. The text is not
empty: otherwise what stands before and after it would meet. -/
theorem trimMatches_append {p : Char → Bool} {before s after : String} (hne : s ≠ "")
    (hfirst : ∀ c, s.toList.head? = some c → p c = false)
    (hlast : ∀ c, s.toList.getLast? = some c → p c = false)
    (hbefore : ∀ c ∈ before.toList, p c = true) (hafter : ∀ c ∈ after.toList, p c = true) :
    trimMatches p (before ++ s ++ after) = s := by
  have hchars : s.toList ≠ [] := fun hnil => hne (String.toList_eq_nil_iff.mp hnil)
  have hfront : (before ++ s ++ after).toList.dropWhile p = s.toList ++ after.toList := by
    rw [String.append_assoc, String.toList_append, String.toList_append]
    refine dropWhile_append_of_all hbefore fun c hc => ?_
    obtain ⟨d, rest, hs⟩ := List.exists_cons_of_ne_nil hchars
    rw [hs] at hc hfirst
    exact hfirst c hc
  have hback : (s.toList ++ after.toList).reverse.dropWhile p = s.toList.reverse := by
    rw [List.reverse_append]
    refine dropWhile_append_of_all (fun c hc => hafter c (List.mem_reverse.mp hc)) fun c hc => ?_
    rw [List.head?_reverse] at hc
    exact hlast c hc
  rw [trimMatches, hfront, hback, List.reverse_reverse, String.ofList_toList]

/-- Trimming keeps a first character that is not trimmed. -/
theorem head_trimMatches {p : Char → Bool} {s : String} {c : Char}
    (h : s.toList.head? = some c) (hc : p c = false) :
    (trimMatches p s).toList.head? = some c := by
  obtain ⟨rest, hs⟩ := List.head?_eq_some_iff.mp h
  have hkeep : ∀ l : List Char, ∃ kept, (l ++ [c]).dropWhile p = kept ++ [c] := by
    intro l
    induction l with
    | nil => exact ⟨[], by simp [hc]⟩
    | cons d l ih =>
        by_cases hd : p d = true
        · rw [List.cons_append, List.dropWhile_cons_of_pos hd]
          exact ih
        · exact ⟨d :: l, List.dropWhile_cons_of_neg hd⟩
  obtain ⟨kept, hkept⟩ := hkeep rest.reverse
  rw [trimMatches, hs, List.dropWhile_cons_of_neg (by rw [hc]; exact Bool.false_ne_true),
    List.reverse_cons, hkept, String.toList_ofList, List.reverse_append]
  rfl

/-- There is always a part, the empty one for an empty list, as for `str::split`. -/
theorem splitWhere_ne_nil (p : Char → Bool) (l : List Char) : splitWhere p l ≠ [] := by
  cases l with
  | nil => exact List.cons_ne_nil _ _
  | cons c rest =>
      rw [splitWhere]
      split
      · exact List.cons_ne_nil _ _
      · split <;> exact List.cons_ne_nil _ _

/-- A list without a splitting character is one part, the list itself. -/
theorem splitWhere_of_forall {p : Char → Bool} {l : List Char}
    (h : ∀ c ∈ l, p c = false) : splitWhere p l = [l] := by
  induction l with
  | nil => rfl
  | cons c rest ih =>
      have hrest := ih fun d hd => h d (List.mem_cons_of_mem _ hd)
      rw [splitWhere, hrest]
      simp [h c List.mem_cons_self]

/-- The part before the first splitting character, and the parts of what comes after. -/
theorem splitWhere_append {p : Char → Bool} {l rest : List Char} {d : Char}
    (h : ∀ c ∈ l, p c = false) (hd : p d = true) :
    splitWhere p (l ++ d :: rest) = l :: splitWhere p rest := by
  induction l with
  | nil =>
      rw [List.nil_append, splitWhere]
      cases hparts : splitWhere p rest with
      | nil => exact absurd hparts (splitWhere_ne_nil p rest)
      | cons part parts => simp [hd]
  | cons c l ih =>
      have hl := ih fun e he => h e (List.mem_cons_of_mem _ he)
      rw [List.cons_append, splitWhere, hl]
      simp [h c List.mem_cons_self]

/-- No part has a splitting character, so a second split at the same characters finds nothing. -/
theorem not_of_mem_splitWhere {p : Char → Bool} {l part : List Char}
    (hpart : part ∈ splitWhere p l) : ∀ c ∈ part, p c = false := by
  induction l generalizing part with
  | nil =>
      intro c hc
      rw [List.mem_singleton.mp hpart] at hc
      cases hc
  | cons d rest ih =>
      rw [splitWhere] at hpart
      cases hparts : splitWhere p rest with
      | nil => exact absurd hparts (splitWhere_ne_nil p rest)
      | cons first parts =>
          rw [hparts] at hpart ih
          by_cases hd : p d = true
          · -- A splitting character ends an empty part of its own, and the parts behind it are as
            -- before.
            simp only [hd, if_true] at hpart
            rcases List.mem_cons.mp hpart with rfl | hpart
            · exact List.forall_mem_nil _
            · exact ih hpart
          · -- Any other character goes to the front of the first part.
            simp only [hd] at hpart
            rcases List.mem_cons.mp hpart with rfl | hpart
            · exact List.forall_mem_cons.mpr ⟨Bool.eq_false_iff.mpr hd, ih List.mem_cons_self⟩
            · exact ih (List.mem_cons_of_mem _ hpart)

/-- Parts without a splitting character, put together with one, are found again. -/
theorem splitWhere_intercalate {p : Char → Bool} {d : Char} (hd : p d = true)
    {parts : List (List Char)} (hne : parts ≠ [])
    (hparts : ∀ part ∈ parts, ∀ c ∈ part, p c = false) :
    splitWhere p ([d].intercalate parts) = parts := by
  induction parts with
  | nil => exact absurd rfl hne
  | cons part rest ih =>
      obtain ⟨hpart, hrest⟩ := List.forall_mem_cons.mp hparts
      cases rest with
      | nil =>
          rw [List.intercalate_singleton]
          exact splitWhere_of_forall hpart
      | cons next rest =>
          rw [List.intercalate_cons_cons, List.append_assoc, List.singleton_append,
            splitWhere_append hpart hd, ih (List.cons_ne_nil _ _) hrest]

/-- Splitting at one character loses nothing. For a class of characters it would: which of them
stood there is not kept. -/
theorem intercalate_splitWhere (c : Char) (l : List Char) :
    [c].intercalate (splitWhere (· == c) l) = l := by
  induction l with
  | nil => rfl
  | cons d rest ih =>
      rw [splitWhere]
      cases hparts : splitWhere (· == c) rest with
      | nil =>
          rw [hparts, List.intercalate_nil] at ih
          simp [← ih]
      | cons part parts =>
          rw [hparts] at ih
          by_cases hd : d = c
          · subst hd
            simp [← ih, List.intercalate]
          · simp [hd, ← ih]

/-- The parts of a split, put together again. -/
theorem intercalate_split (c : Char) (s : String) :
    (String.singleton c).intercalate (split c s) = s := by
  rw [← String.toList_inj, String.toList_intercalate, split, List.map_map]
  simp [intercalate_splitWhere]

/-- The first two words of a text. -/
theorem splitWhitespace_words {first second rest : String} (hfirst : first ≠ "")
    (hsecond : second ≠ "") (hfirstWord : ∀ c ∈ first.toList, isWhitespace c = false)
    (hsecondWord : ∀ c ∈ second.toList, isWhitespace c = false) :
    splitWhitespace (first ++ " " ++ second ++ " " ++ rest) =
      first :: second :: splitWhitespace rest := by
  have hword : ∀ {word : String}, word ≠ "" → (!word.toList.isEmpty) = true := by
    intro word hne
    rw [Bool.not_eq_true', List.isEmpty_eq_false_iff]
    exact fun hnil => hne (String.toList_eq_nil_iff.mp hnil)
  -- One word and the blank behind it. A word that is empty would be filtered out.
  have hstep : ∀ {word : String} (more : String), word ≠ "" →
      (∀ c ∈ word.toList, isWhitespace c = false) →
        splitWhitespace (word ++ " " ++ more) = word :: splitWhitespace more := by
    intro word more hne hchars
    have hlist : (word ++ " " ++ more).toList = word.toList ++ ' ' :: more.toList := by
      rw [String.toList_append, String.toList_append, List.append_assoc]
      rfl
    rw [splitWhitespace, hlist, splitWhere_append hchars (by decide), List.filter_cons,
      if_pos (hword hne), List.map_cons, String.ofList_toList]
    rfl
  have hassoc : first ++ " " ++ second ++ " " ++ rest =
      first ++ " " ++ (second ++ " " ++ rest) := by
    simp only [String.append_assoc]
  rw [hassoc, hstep _ hfirst hfirstWord, hstep _ hsecond hsecondWord]

/-- A carriage return at the end is taken from what follows a blank, if at all. -/
theorem exists_stripSuffixChar_append (front rest : String) :
    ∃ kept, (stripSuffixChar (front ++ " " ++ rest) '\r').getD (front ++ " " ++ rest) =
      front ++ " " ++ kept := by
  have hreverse : (front ++ " " ++ rest).toList.reverse =
      rest.toList.reverse ++ ' ' :: front.toList.reverse := by
    rw [String.toList_append, String.toList_append, List.reverse_append, List.reverse_append]
    rfl
  cases hrest : rest.toList.reverse with
  | nil =>
      refine ⟨rest, ?_⟩
      rw [stripSuffixChar, hreverse, hrest]
      rfl
  | cons last before =>
      rw [stripSuffixChar, hreverse, hrest, List.cons_append]
      dsimp only
      split
      · refine ⟨String.ofList before.reverse, ?_⟩
        rw [Option.getD_some, List.reverse_append, List.reverse_cons, List.reverse_reverse,
          String.ofList_append, String.ofList_append, String.ofList_toList]
      · exact ⟨rest, rfl⟩

/-- A line starts as its text does, up to a blank in the text. -/
theorem firstLine_append {front : String} (hfront : ∀ c ∈ front.toList, (c != '\n') = true)
    (rest : String) : ∃ more, firstLine (front ++ " " ++ rest) = some (front ++ " " ++ more) := by
  have htake : (front ++ " " ++ rest).toList.takeWhile (· != '\n') =
      (front ++ " ").toList ++ rest.toList.takeWhile (· != '\n') := by
    rw [String.toList_append, List.takeWhile_append_of_pos]
    intro c hc
    rw [String.toList_append] at hc
    rcases List.mem_append.mp hc with hc | hc
    · exact hfront c hc
    · rw [List.mem_singleton.mp hc]
      decide
  have hne : isEmpty (front ++ " " ++ rest) = false := by
    rw [isEmpty_eq_false_iff]
    intro hempty
    have hlength := congrArg String.length hempty
    rw [String.length_append, String.length_append] at hlength
    have hone : " ".length = 1 := rfl
    have hzero : "".length = 0 := rfl
    omega
  have hline : String.ofList ((front ++ " ").toList ++ rest.toList.takeWhile (· != '\n')) =
      front ++ " " ++ String.ofList (rest.toList.takeWhile (· != '\n')) := by
    rw [String.ofList_append, String.ofList_toList]
  -- A carriage return at the end of the line is stripped, and it stands behind the blank.
  simp only [firstLine, htake, hne, hline, Bool.false_eq_true, if_false]
  split
  · obtain ⟨kept, hkept⟩ := exists_stripSuffixChar_append front
      (String.ofList (rest.toList.takeWhile (· != '\n')))
    exact ⟨kept, congrArg some hkept⟩
  · exact ⟨_, rfl⟩

/-- The decimal digits of a number, and no sign. -/
theorem isDigit_of_mem_toString {n : Nat} {c : Char} (h : c ∈ (toString n).toList) :
    c.isDigit = true := by
  rw [Nat.toString_eq_ofList_toDigits, String.toList_ofList] at h
  exact Nat.isDigit_of_mem_toDigits (by decide) (by decide) h

/-- A number has at least one digit. -/
theorem toString_ne_empty (n : Nat) : toString n ≠ "" := by
  intro hempty
  rw [Nat.toString_eq_ofList_toDigits] at hempty
  have hpos := @Nat.length_toDigits_pos 10 n
  rw [← @String.toList_ofList (Nat.toDigits 10 n), hempty] at hpos
  cases hpos

/-- A number is determined by its digits. -/
theorem toString_injective {m n : Nat} (h : toString m = toString n) : m = n := by
  rw [Nat.toString_eq_ofList_toDigits, Nat.toString_eq_ofList_toDigits] at h
  have hdigits := congrArg (fun text : String => Nat.ofDigitChars 10 text.toList 0) h
  simpa only [String.toList_ofList, Nat.ofDigitChars_toDigits (show 1 < 10 by decide)
    (Nat.le_refl 10)] using hdigits

/-- Digits have no case, so a number written into a text survives lowercasing. -/
theorem toAsciiLowercase_toString (n : Nat) : toAsciiLowercase (toString n) = toString n := by
  rw [toAsciiLowercase]
  conv_rhs => rw [← String.ofList_toList (s := toString n)]
  congr 1
  refine (List.map_congr_left fun c hc => ?_).trans (List.map_id _)
  have hdigit := isDigit_of_mem_toString hc
  simp only [Char.isDigit, Bool.and_eq_true, decide_eq_true_eq] at hdigit
  have hle : c.toNat ≤ 57 := hdigit.2
  apply Char.toNat_inj.mp
  rw [toNat_toLower, if_neg (by omega)]
  rfl

end Str
end Rust
