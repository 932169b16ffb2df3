import TrustedRouter.Lib.Str

/-!
# `TrustedRouter.Lib.HeaderMap`: HTTP methods and header maps

The `http` crate's `Method` and its `HeaderMap`, a multimap from lowercase names to values. It
is kept as the list of its entries. Only `getAll` is observed of a map: what it holds under each
name, in order. The `getAll_..` lemmas say what every operation does to that.

`AgreeExcept name a b` is equality of two maps at every other name. Every operation keeps
it, whatever it does at `name` itself.
-/

set_option autoImplicit false

namespace Http

open Rust (Bytes)
open Rust.Str

/-- `http::Method`. -/
inductive Method where
  | get | post | put | delete | head | options | connect | patch | trace
  | extension (name : String)
  deriving DecidableEq, Repr

/-- `http::HeaderMap`. -/
abbrev HeaderMap := List (String × Bytes)

namespace HeaderMap

/-- `HeaderMap::get_all`: the values of a name, in order. -/
def getAll (headers : HeaderMap) (name : String) : List Bytes :=
  (headers.filter fun entry => entry.1 = name).map Prod.snd

/-- `HeaderMap::get`: the first value of a name. -/
def get (headers : HeaderMap) (name : String) : Option Bytes := (headers.getAll name).head?

/-- `HeaderMap::contains_key`. -/
def containsKey (headers : HeaderMap) (name : String) : Bool := (headers.get name).isSome

/-- `HeaderMap::remove`. -/
def remove (headers : HeaderMap) (name : String) : HeaderMap :=
  headers.filter fun entry => entry.1 ≠ name

/-- `HeaderMap::append`. -/
def append (headers : HeaderMap) (name : String) (value : Bytes) : HeaderMap :=
  headers ++ [(name, value)]

/-- `HeaderMap::insert`: the new value replaces all earlier ones of its name. -/
def insert (headers : HeaderMap) (name : String) (value : Bytes) : HeaderMap :=
  (headers.remove name).append name value

/-- `HeaderMap::extend`: each name of the second map replaces that name in the first, with
all its values. -/
def extend (headers other : HeaderMap) : HeaderMap :=
  (headers.filter fun entry => !other.any fun entry' => entry'.1 = entry.1) ++ other

/-- An empty map has no values. -/
theorem getAll_nil (name : String) : getAll [] name = [] := rfl

/-- A removed name has no values left, however many it had. -/
theorem getAll_remove_self (headers : HeaderMap) (name : String) :
    (headers.remove name).getAll name = [] := by
  simp only [getAll, remove, List.filter_filter, List.map_eq_nil_iff,
    List.filter_eq_nil_iff]
  intro entry _
  simp

/-- Removing a name is not seen at any other. -/
theorem getAll_remove_of_ne (headers : HeaderMap) {name other : String} (h : other ≠ name) :
    (headers.remove name).getAll other = headers.getAll other := by
  simp only [getAll, remove, List.filter_filter]
  congr 1
  apply List.filter_congr
  intro entry _
  by_cases hentry : entry.1 = other
  · simp [hentry, h]
  · simp [hentry]

/-- An appended value comes last among those of its name. -/
theorem getAll_append_self (headers : HeaderMap) (name : String) (value : Bytes) :
    (headers.append name value).getAll name = headers.getAll name ++ [value] := by
  simp [getAll, append]

/-- Appending is not seen at any other name. -/
theorem getAll_append_of_ne (headers : HeaderMap) {name other : String} (value : Bytes)
    (h : other ≠ name) : (headers.append name value).getAll other = headers.getAll other := by
  simp [getAll, append, Ne.symm h]

/-- An inserted name has exactly the inserted value. Earlier values of the name are gone, which is
how it differs from `append`. -/
theorem getAll_insert_self (headers : HeaderMap) (name : String) (value : Bytes) :
    (headers.insert name value).getAll name = [value] := by
  rw [insert, getAll_append_self, getAll_remove_self, List.nil_append]

/-- Inserting is not seen at any other name. -/
theorem getAll_insert_of_ne (headers : HeaderMap) {name other : String} (value : Bytes)
    (h : other ≠ name) : (headers.insert name value).getAll other = headers.getAll other := by
  rw [insert, getAll_append_of_ne _ _ h, getAll_remove_of_ne _ h]

/-- A name has no values when no entry has it. -/
theorem getAll_eq_nil_iff {headers : HeaderMap} {name : String} :
    headers.getAll name = [] ↔ ∀ entry ∈ headers, entry.1 ≠ name := by
  simp [getAll, List.filter_eq_nil_iff]

/-- A name of the second map wins, and any other keeps its values of the first. -/
theorem getAll_extend (headers other : HeaderMap) (name : String) :
    (headers.extend other).getAll name =
      if other.getAll name = [] then headers.getAll name else other.getAll name := by
  have hsplit : (headers.extend other).getAll name =
      getAll (headers.filter fun entry => !other.any fun entry' => entry'.1 = entry.1) name ++
        other.getAll name := by
    simp only [getAll, extend, List.filter_append, List.map_append]
  rw [hsplit]
  by_cases hother : other.getAll name = []
  · rw [if_pos hother, hother, List.append_nil]
    have habsent := getAll_eq_nil_iff.mp hother
    simp only [getAll, List.filter_filter]
    congr 1
    apply List.filter_congr
    intro entry _
    by_cases hentry : entry.1 = name
    · have hany : (other.any fun entry' => decide (entry'.1 = name)) = false := by
        rw [List.any_eq_false]
        intro entry' hmem
        simpa using habsent entry' hmem
      simp [hentry, hany]
    · simp [hentry]
  · -- The name is in the second map, so every entry of the first is filtered out.
    rw [if_neg hother]
    have hnone : getAll (headers.filter fun entry =>
        !other.any fun entry' => entry'.1 = entry.1) name = [] := by
      rw [getAll_eq_nil_iff]
      intro entry hentry hname
      rw [List.mem_filter, Bool.not_eq_true', List.any_eq_false] at hentry
      apply hother
      rw [getAll_eq_nil_iff]
      intro entry' hmem hname'
      exact hentry.2 entry' hmem (by simp [hname, hname'])
    rw [hnone, List.nil_append]

end HeaderMap

/-- Two maps hold the same values under every name but one. -/
def AgreeExcept (name : String) (a b : HeaderMap) : Prop :=
  ∀ other, other ≠ name → a.getAll other = b.getAll other

namespace AgreeExcept

/-- A map agrees with itself. -/
theorem refl (name : String) (a : HeaderMap) : AgreeExcept name a a := fun _ _ => rfl

/-- Agreement is passed on, which is how the steps that build a request are put together. -/
theorem trans {name : String} {a b c : HeaderMap} (hab : AgreeExcept name a b)
    (hbc : AgreeExcept name b c) : AgreeExcept name a c :=
  fun other h => (hab other h).trans (hbc other h)

/-- Agreement does not depend on the order of the two maps. -/
theorem symm {name : String} {a b : HeaderMap} (h : AgreeExcept name a b) :
    AgreeExcept name b a := fun other hne => (h other hne).symm

/-- Inserting one entry into both keeps agreement. This holds at the excepted name too, where both
have the new value afterwards. -/
theorem insert {name : String} {a b : HeaderMap} (h : AgreeExcept name a b)
    (key : String) (value : Bytes) :
    AgreeExcept name (a.insert key value) (b.insert key value) := by
  intro other hne
  by_cases hkey : other = key
  · subst hkey
    rw [HeaderMap.getAll_insert_self, HeaderMap.getAll_insert_self]
  · rw [HeaderMap.getAll_insert_of_ne _ _ hkey, HeaderMap.getAll_insert_of_ne _ _ hkey,
      h other hne]

/-- Removing one name from both keeps agreement. -/
theorem remove {name : String} {a b : HeaderMap} (h : AgreeExcept name a b)
    (key : String) : AgreeExcept name (a.remove key) (b.remove key) := by
  intro other hne
  by_cases hkey : other = key
  · subst hkey
    rw [HeaderMap.getAll_remove_self, HeaderMap.getAll_remove_self]
  · rw [HeaderMap.getAll_remove_of_ne _ hkey, HeaderMap.getAll_remove_of_ne _ hkey,
      h other hne]

/-- What happens at the name itself is not seen. -/
theorem insert_self (name : String) (a : HeaderMap) (value : Bytes) :
    AgreeExcept name (a.insert name value) a :=
  fun _ hne => HeaderMap.getAll_insert_of_ne a value hne

/-- Removing the excepted name is not seen either. -/
theorem remove_self (name : String) (a : HeaderMap) : AgreeExcept name (a.remove name) a :=
  fun _ hne => HeaderMap.getAll_remove_of_ne a hne

/-- Extending one map by two that agree keeps agreement. A name that the second map lacks is looked
up in `base`, which is the same on both sides. -/
theorem extend (base : HeaderMap) {name : String} {a b : HeaderMap}
    (h : AgreeExcept name a b) : AgreeExcept name (base.extend a) (base.extend b) := by
  intro other hne
  rw [HeaderMap.getAll_extend, HeaderMap.getAll_extend, h other hne]

end AgreeExcept

/-! ## Names and values -/

/-- A character of a header name. -/
def isTokenChar (c : Char) : Bool :=
  isAsciiAlphanumeric c ||
    ['!', '#', '$', '%', '&', '\x27', '*', '+', '-', '.', '^', '_', '\x60', '|', '~'].contains c

/-- `HeaderName::from_bytes`: a token, lowercased. -/
def parseName (value : String) : Except String String :=
  if !isEmpty value && len value < 65536 && value.toList.all isTokenChar then
    .ok (toAsciiLowercase value)
  else .error "invalid HTTP header name"

/-- `HeaderValue::from_str`: no control character but the tab. -/
def parseValue (value : String) : Except String Bytes :=
  if (bytes value).all fun b => (32 ≤ b && b != 127) || b == 9 then .ok (bytes value)
  else .error "failed to parse header value"

/-- `HeaderValue::to_str`: visible ASCII and tabs only. -/
def toStr (value : Bytes) : Option String :=
  if value.all fun b => (32 ≤ b && b < 127) || b == 9 then
    some (String.ofList (value.map fun b => Char.ofNat b.toNat))
  else none

/-- A byte that a header text can have. -/
def isVisible (b : UInt8) : Bool := (32 ≤ b && b < 127) || b == 9

/-- The bytes that `to_str` lets through, as a range: printable ASCII and the tab. -/
theorem isVisible_iff {b : UInt8} :
    isVisible b = true ↔ 32 ≤ b.toNat ∧ b.toNat < 127 ∨ b.toNat = 9 := by
  simp only [isVisible, Bool.or_eq_true, Bool.and_eq_true, decide_eq_true_eq, beq_iff_eq,
    UInt8.le_iff_toNat_le, UInt8.lt_iff_toNat_lt, ← UInt8.toNat_inj]
  rfl

/-- Such a byte is ASCII. -/
theorem lt_of_isVisible {b : UInt8} (h : isVisible b = true) : b < 128 := by
  rw [isVisible_iff] at h
  have hlt : b.toNat < 128 := by omega
  exact hlt

/-- A value of such bytes is ASCII, and so it is a text. -/
theorem isAscii_of_isVisible {value : Bytes} (h : value.all isVisible = true) :
    isAscii value = true :=
  List.all_eq_true.mpr fun b hb => decide_eq_true (lt_of_isVisible (List.all_eq_true.mp h b hb))

/-- `to_str` reads each byte as the character of that code point. -/
theorem toStr_eq (value : Bytes) :
    toStr value =
      if value.all isVisible then some (String.ofList (value.map asciiChar)) else none := rfl

/-- A text that `to_str` reads has the bytes of the value, all of them visible or tabs. A value
with another byte is not read, although it may be UTF-8. -/
theorem toStr_eq_some {value : Bytes} {text : String} :
    toStr value = some text ↔ value = bytes text ∧ (bytes text).all isVisible = true := by
  rw [toStr_eq]
  constructor
  · intro h
    split at h
    · rename_i hvalid
      cases h
      rw [bytes_ofList_asciiChar (isAscii_of_isVisible hvalid)]
      exact ⟨rfl, hvalid⟩
    · cases h
  · rintro ⟨rfl, hvalid⟩
    rw [if_pos hvalid, Option.some.injEq]
    exact bytes_injective (bytes_ofList_asciiChar (isAscii_of_isVisible hvalid))

end Http
