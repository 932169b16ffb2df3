import TrustedRouter.Lib.UrlPath

/-!
# `TrustedRouter.Lib.Form`: query parameters

The `application/x-www-form-urlencoded` format, as `Url::query_pairs` reads it and
`Url::query_pairs_mut` writes it. A byte is written as itself, as `+` or as an escape
(`serializeByte`). The reader splits at `&` and at the first `=`, undoes the plus signs, then
the escapes, and decodes the bytes that are left. What it makes of bytes that are not UTF-8 is
a parameter.

`parse_appendPair` is the round trip: a pair that is appended to a query is read as the last
one, and the pairs before it are read as they were. `isQueryText_appendPair` says that the
parser of URLs leaves such a query alone. `queryPairs_appendPairs` and
`exists_query_appendPairs` say the same of a URL and of any number of pairs.
-/

set_option autoImplicit false

namespace FormUrlencoded

open Rust (Bytes)
open Rust.Str

/-! ## Writing -/

/-- A byte that is written as it is. -/
def isUnchanged (b : UInt8) : Bool :=
  isAsciiAlphanumeric (asciiChar b) || [42, 45, 46, 95].contains b

/-- One hexadecimal digit, uppercase. -/
def upperHex (n : Nat) : UInt8 := UInt8.ofNat (if n < 10 then 48 + n else 55 + n)

/-- One byte: as it is, a plus sign for a space, or an escape. -/
def serializeByte (b : UInt8) : Bytes :=
  if isUnchanged b then [b]
  else if b == 32 then [43]
  else [37, upperHex (b.toNat / 16), upperHex (b.toNat % 16)]

/-- `form_urlencoded::byte_serialize`. -/
def byteSerialize (text : String) : String :=
  String.ofList (((bytes text).flatMap serializeByte).map asciiChar)

/-- A name and its value. -/
def serializePair (name value : String) : String :=
  byteSerialize name ++ "=" ++ byteSerialize value

/-- `Serializer::append_pair`, after a query that has been written. -/
def appendPair (query name value : String) : String :=
  (if isEmpty query then "" else query ++ "&") ++ serializePair name value

/-! ## Reading -/

/-- The value of a hexadecimal digit. -/
def toDigit (b : UInt8) : Option Nat :=
  if 48 ≤ b ∧ b ≤ 57 then some (b.toNat - 48)
  else if 65 ≤ b ∧ b ≤ 70 then some (b.toNat - 55)
  else if 97 ≤ b ∧ b ≤ 102 then some (b.toNat - 87)
  else none

/-- `percent_decode`: a percent sign without two digits after it stays. -/
def percentDecode : Bytes → Bytes
  | [] => []
  | 37 :: high :: low :: rest =>
      match toDigit high, toDigit low with
      | some h, some l => UInt8.ofNat (h * 16 + l) :: percentDecode rest
      | _, _ => 37 :: percentDecode (high :: low :: rest)
  | b :: rest => b :: percentDecode rest

/-- `replace_plus`. -/
def replacePlus (b : UInt8) : UInt8 := if b == 43 then 32 else b

/-- One name or value. `lossy` decodes what is not UTF-8. -/
def decode (lossy : Bytes → String) (input : Bytes) : String :=
  let decoded := percentDecode (input.map replacePlus)
  (fromUtf8 decoded).getD (lossy decoded)

/-- One pair: a name and the value after the first `=`. -/
def decodePair (lossy : Bytes → String) (sequence : Bytes) : String × String :=
  (decode lossy (sequence.takeWhile (· != 61)),
    decode lossy ((sequence.dropWhile (· != 61)).drop 1))

/-- `form_urlencoded::parse`. -/
def parse (lossy : Bytes → String) (input : Bytes) : List (String × String) :=
  ((input.splitOnP (· == 38)).filter (!·.isEmpty)).map (decodePair lossy)

/-! ## Bytes that are written -/

/-- What holds of the 256 bytes, one by one, holds of every byte. -/
theorem forall_byte {P : UInt8 → Prop} (h : ∀ n < 256, P (UInt8.ofNat n)) (b : UInt8) : P b := by
  have hbyte := h b.toNat b.toNat_lt
  rwa [UInt8.ofNat_toNat] at hbyte

/-- A byte that is written is ASCII, no separator of pairs or of a name and a value, and is
left alone by the URL parser in a query. -/
theorem serializeByte_plain (b : UInt8) : ∀ out ∈ serializeByte b,
    out < 128 ∧ (out == 38) = false ∧ (out == 61) = false ∧
      Whatwg.inQuerySet (asciiChar out) = false := by
  -- through `List.all`: `decide` on the inner quantifier would walk all of `UInt8`
  have hall : ∀ n < 256, (serializeByte (UInt8.ofNat n)).all (fun out =>
      decide (out < 128 ∧ (out == 38) = false ∧ (out == 61) = false ∧
        Whatwg.inQuerySet (asciiChar out) = false)) = true := by
    decide +kernel
  revert b
  exact forall_byte fun n hn => List.all_iff_forall_prop.mp (hall n hn)

/-- What is written is ASCII, so it is a text. -/
theorem isAscii_serialized (input : Bytes) : isAscii (input.flatMap serializeByte) = true := by
  rw [isAscii, List.all_eq_true]
  intro out hout
  obtain ⟨b, -, hb⟩ := List.mem_flatMap.mp hout
  exact decide_eq_true (serializeByte_plain b out hb).1

/-- The bytes of a serialized text are those of its bytes, one after the other. -/
theorem bytes_byteSerialize (text : String) :
    bytes (byteSerialize text) = (bytes text).flatMap serializeByte :=
  bytes_ofList_asciiChar (isAscii_serialized _)

/-- A serialized text has no separator, so it cannot be mistaken for two values. -/
theorem not_separator_byteSerialize {text : String} {out : UInt8}
    (h : out ∈ bytes (byteSerialize text)) : (out == 38) = false ∧ (out == 61) = false := by
  rw [bytes_byteSerialize] at h
  obtain ⟨b, -, hb⟩ := List.mem_flatMap.mp h
  have hplain := serializeByte_plain b out hb
  exact ⟨hplain.2.1, hplain.2.2.1⟩

/-! ## The round trip -/

/-- A byte other than the percent sign is read as itself. -/
theorem percentDecode_cons {b : UInt8} (h : b ≠ 37) (rest : Bytes) :
    percentDecode (b :: rest) = b :: percentDecode rest := by
  rw [percentDecode]
  rintro high low more rfl
  exact absurd rfl h

/-- A byte that is written as it is means itself. -/
theorem isUnchanged_spec (b : UInt8) : isUnchanged b = true → replacePlus b = b ∧ b ≠ 37 := by
  revert b
  exact forall_byte (by decide +kernel)

/-- The digits of an escape have the value of the byte, and reading pluses as blanks does not
touch them. -/
theorem toDigit_upperHex {n : Nat} (h : n < 16) :
    replacePlus (upperHex n) = upperHex n ∧ toDigit (upperHex n) = some n := by
  have hall : ∀ n < 16, replacePlus (upperHex n) = upperHex n ∧ toDigit (upperHex n) = some n := by
    decide
  exact hall n h

/-- A byte that was written is read back, whatever follows it. -/
theorem percentDecode_serializeByte (b : UInt8) (rest : Bytes) :
    percentDecode ((serializeByte b).map replacePlus ++ rest) = b :: percentDecode rest := by
  unfold serializeByte
  split
  · rename_i hsame
    obtain ⟨hplus, hpercent⟩ := isUnchanged_spec b hsame
    rw [List.map_singleton, hplus]
    exact percentDecode_cons hpercent rest
  split
  · -- A space was written as a plus sign.
    rename_i hspace
    rw [eq_of_beq hspace]
    exact percentDecode_cons (by decide) rest
  · have hb : b.toNat < 256 := b.toNat_lt
    obtain ⟨hhighPlus, hhigh⟩ := toDigit_upperHex (show b.toNat / 16 < 16 by omega)
    obtain ⟨hlowPlus, hlow⟩ := toDigit_upperHex (show b.toNat % 16 < 16 by omega)
    have hvalue : b.toNat / 16 * 16 + b.toNat % 16 = b.toNat := by omega
    simp only [List.map_cons, List.map_nil, hhighPlus, hlowPlus]
    show percentDecode (37 :: upperHex (b.toNat / 16) :: upperHex (b.toNat % 16) :: rest) = _
    rw [percentDecode, hhigh, hlow]
    show UInt8.ofNat (b.toNat / 16 * 16 + b.toNat % 16) :: _ = _
    rw [hvalue, UInt8.ofNat_toNat]

/-- The same for all bytes of a text, by induction. -/
theorem percentDecode_serialized (input : Bytes) :
    percentDecode ((input.flatMap serializeByte).map replacePlus) = input := by
  induction input with
  | nil => rfl
  | cons b rest ih =>
      rw [List.flatMap_cons, List.map_append, percentDecode_serializeByte, ih]

/-- A serialized text is decoded to itself. The lossy reading of invalid UTF-8 does not matter,
since the bytes are those of a text. -/
theorem decode_byteSerialize (lossy : Bytes → String) (text : String) :
    decode lossy (bytes (byteSerialize text)) = text := by
  have hdecoded := percentDecode_serialized (bytes text)
  rw [← bytes_byteSerialize] at hdecoded
  rw [decode, hdecoded, fromUtf8_eq_some.mpr rfl, Option.getD_some]

/-- A pair is its name, an equals sign and its value. -/
theorem bytes_serializePair (name value : String) : bytes (serializePair name value) =
    bytes (byteSerialize name) ++ 61 :: bytes (byteSerialize value) := by
  rw [serializePair, bytes_append, bytes_append, List.append_assoc]
  rfl

/-- A pair that was written is read back. The equals sign is the first one, because the name has
none after serialization. -/
theorem decodePair_serializePair (lossy : Bytes → String) (name value : String) :
    decodePair lossy (bytes (serializePair name value)) = (name, value) := by
  have hname : ∀ out ∈ bytes (byteSerialize name), (out != 61) = true := by
    intro out hout
    rw [bne, (not_separator_byteSerialize hout).2]
    rfl
  rw [decodePair, bytes_serializePair, List.takeWhile_append_of_pos hname,
    List.dropWhile_append_of_pos hname]
  show (decode lossy (bytes (byteSerialize name) ++ []), decode lossy (bytes (byteSerialize value)))
    = _
  rw [List.append_nil, decode_byteSerialize, decode_byteSerialize]

/-- A pair is one sequence of the query, since it has no ampersand. -/
theorem parse_serializePair (lossy : Bytes → String) (name value : String) :
    parse lossy (bytes (serializePair name value)) = [(name, value)] := by
  have hnone : ∀ out ∈ bytes (serializePair name value), (out == 38) = false := by
    intro out hout
    rw [bytes_serializePair] at hout
    rcases List.mem_append.mp hout with hname | hvalue
    · exact (not_separator_byteSerialize hname).1
    · rcases List.mem_cons.mp hvalue with rfl | hvalue
      · decide
      · exact (not_separator_byteSerialize hvalue).1
  have hne : (bytes (serializePair name value)).isEmpty = false := by
    rw [bytes_serializePair]
    cases bytes (byteSerialize name) <;> rfl
  rw [parse, List.splitOnP_eq_singleton hnone, List.filter_cons, hne]
  show [decodePair lossy (bytes (serializePair name value))] = _
  rw [decodePair_serializePair]

/-- A pair that is appended is read as the last one, and the pairs before it are read as they
were, even when the query was not written by this serializer. -/
theorem parse_appendPair (lossy : Bytes → String) (query name value : String) :
    parse lossy (bytes (appendPair query name value)) =
      parse lossy (bytes query) ++ [(name, value)] := by
  have hpair := parse_serializePair lossy name value
  unfold appendPair
  split
  · -- The first pair has no separator before it.
    rename_i hempty
    rw [eq_of_beq hempty, String.empty_append]
    exact hpair
  · rw [bytes_append, bytes_append, List.append_assoc]
    show parse lossy (bytes query ++ 38 :: bytes (serializePair name value)) = _
    rw [parse] at hpair ⊢
    rw [List.splitOnP_append_cons _ _ (by decide), List.filter_append, List.map_append, hpair]
    rfl

/-! ## Queries of URLs -/

/-- Text that the URL parser leaves alone in a query. -/
def IsQueryText (query : String) : Prop := ∀ c ∈ query.toList, Whatwg.inQuerySet c = false

/-- The URL parser leaves serialized text alone in a query. -/
theorem isQueryText_byteSerialize (text : String) : IsQueryText (byteSerialize text) := by
  intro c hc
  rw [byteSerialize, String.toList_ofList] at hc
  obtain ⟨out, hout, rfl⟩ := List.mem_map.mp hc
  obtain ⟨b, -, hb⟩ := List.mem_flatMap.mp hout
  exact (serializeByte_plain b out hb).2.2.2

/-- An appended pair keeps a query one that the URL parser leaves alone: the ampersand and the
equals sign are not escaped either. -/
theorem isQueryText_appendPair {query : String} (h : IsQueryText query) (name value : String) :
    IsQueryText (appendPair query name value) := by
  have happend : ∀ {a b : String}, IsQueryText a → IsQueryText b → IsQueryText (a ++ b) := by
    intro a b ha hb c hc
    rw [String.toList_append] at hc
    exact (List.mem_append.mp hc).elim (ha c) (hb c)
  have hsymbol : IsQueryText "&" ∧ IsQueryText "=" ∧ IsQueryText "" := by
    refine ⟨?_, ?_, ?_⟩ <;> exact List.all_iff_forall_prop.mp (by decide)
  have hpair : IsQueryText (serializePair name value) :=
    happend (happend (isQueryText_byteSerialize name) hsymbol.2.1) (isQueryText_byteSerialize value)
  refine happend ?_ hpair
  split
  · exact hsymbol.2.2
  · exact happend h hsymbol.1

end FormUrlencoded

namespace Whatwg

open Rust (Bytes)
open Rust.Str
open FormUrlencoded (IsQueryText)

/-- `Url::query_pairs`. -/
def Url.queryPairs (lossy : Bytes → String) (url : Url) : List (String × String) :=
  FormUrlencoded.parse lossy (bytes (url.query.getD ""))

/-- `query_pairs_mut().append_pair(name, value)`. -/
def Url.appendPair (url : Url) (name value : String) : Url :=
  { url with query := some (FormUrlencoded.appendPair (url.query.getD "") name value) }

/-- `Url::as_str`. -/
def Url.asStr (url : Url) : String :=
  let credentials :=
    if isEmpty url.username && isEmpty url.password then ""
    else url.username ++ (if isEmpty url.password then "" else ":" ++ url.password) ++ "@"
  let authority :=
    match url.host with
    | some host =>
        "//" ++ credentials ++ host ++ (url.port.elim "" fun port => ":" ++ toString port)
    | none => ""
  url.scheme ++ ":" ++ authority ++ url.pathString ++ (url.query.elim "" ("?" ++ ·)) ++
    (url.fragment.elim "" ("#" ++ ·))

/-- One appended pair is read back behind those that were there. -/
theorem queryPairs_appendPair (lossy : Bytes → String) (url : Url) (name value : String) :
    (url.appendPair name value).queryPairs lossy = url.queryPairs lossy ++ [(name, value)] :=
  FormUrlencoded.parse_appendPair lossy _ name value

/-- Parameters in the query of a URL, each behind the ones before. -/
def Url.appendPairs (url : Url) (params : List (String × String)) : Url :=
  params.foldl (fun url pair => url.appendPair pair.1 pair.2) url

/-- Parameters that are appended are read behind the pairs that were there, in their order. -/
theorem queryPairs_appendPairs (lossy : Bytes → String) (url : Url)
    (params : List (String × String)) :
    (url.appendPairs params).queryPairs lossy = url.queryPairs lossy ++ params := by
  induction params generalizing url with
  | nil => exact (List.append_nil _).symm
  | cons pair rest ih =>
      show ((url.appendPair pair.1 pair.2).appendPairs rest).queryPairs lossy = _
      rw [ih, queryPairs_appendPair, List.append_assoc]
      rfl

/-- Appending parameters leaves the path, whatever they are. -/
theorem path_appendPairs (url : Url) (params : List (String × String)) :
    (url.appendPairs params).path = url.path := by
  induction params generalizing url with
  | nil => rfl
  | cons pair rest ih => exact ih (url.appendPair pair.1 pair.2)

/-- After a parameter there is a query, and the parser leaves it alone if it did before. -/
theorem exists_query_appendPairs {url : Url} {params : List (String × String)}
    (hne : params ≠ []) (h : IsQueryText (url.query.getD "")) :
    ∃ query, (url.appendPairs params).query = some query ∧ IsQueryText query := by
  induction params generalizing url with
  | nil => exact absurd rfl hne
  | cons pair rest ih =>
      have hpair := FormUrlencoded.isQueryText_appendPair h pair.1 pair.2
      cases rest with
      | nil => exact ⟨_, rfl, hpair⟩
      | cons next rest => exact ih (List.cons_ne_nil _ _) hpair

/-- A query that was parsed is text that the parser leaves alone, because it has been escaped
already. -/
theorem isQueryText_parseQuery {input : List Char} {query : String}
    (h : parseQuery input = some query) : IsQueryText query := by
  unfold parseQuery at h
  split at h
  · cases h
    intro c hc
    rcases mem_percentEncode hc with hescape | ⟨-, hset⟩
    · exact forall_ascii (P := fun c => isEscapeChar c = true → inQuerySet c = false) (by decide)
        (toNat_of_isEscapeChar hescape) hescape
    · exact hset
  · cases h

/-- Text that the parser leaves alone is read back as it is, behind a path that does not end
earlier. -/
theorem parseQuery_append {path : List Char} (hpath : ∀ c ∈ path, endsPath c = false)
    {query : String} (hquery : IsQueryText query) :
    parseQuery (path ++ '?' :: query.toList) = some query := by
  have hdrop : (path ++ '?' :: query.toList).dropWhile (!endsPath ·) = '?' :: query.toList := by
    refine dropWhile_endsPath hpath fun c hc => ?_
    cases hc
    decide
  have hfragment : ∀ c ∈ query.toList, (c != '#') = true := by
    intro c hc
    rw [bne_iff_ne]
    rintro rfl
    exact absurd (hquery _ hc) (by decide)
  rw [parseQuery, hdrop]
  show some (percentEncode inQuerySet (query.toList.takeWhile (· != '#'))) = _
  rw [List.takeWhile_eq_self_iff.mpr hfragment, percentEncode_eq_self hquery, String.ofList_toList]

end Whatwg
