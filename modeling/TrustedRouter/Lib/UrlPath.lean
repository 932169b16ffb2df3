import TrustedRouter.Lib.Url

/-!
# `TrustedRouter.Lib.UrlPath`: what the path state leaves alone

The path state of the URL parser splits at slashes, resolves dot segments and percent-encodes
the rest. This file says what comes out of it, and what goes through it unchanged.

A percent-encoded text has no character of its set left, so encoding it again does nothing.
Encoding cannot make a dot segment either: the only escape that spells a dot is `%2E`, and a
dot is in no set (`isDot_percentEncode`). So every segment of a parsed path `isNormal`, and a
path made of such segments is read back as it is (`parsePath_slashSeparated`). `isPlain` is the
condition on a raw path under which the parser does not change it at all
(`slashSeparated_parsePath_iff`).
-/

set_option autoImplicit false

namespace Whatwg

open Rust.Str
open Rust.Result

/-! ## Percent-encoded text -/

/-- A character of an escape. -/
def isEscapeChar (c : Char) : Bool := c == '%' || c.isDigit || ('A' ≤ c && c ≤ 'F')

/-- Escapes are written in uppercase, and so are the digits that `isEscapeChar` allows. -/
theorem isEscapeChar_hexDigit {n : Nat} (h : n < 16) :
    isEscapeChar (hexDigit n).toUpper = true := by
  have hall : ∀ n < 16, isEscapeChar (hexDigit n).toUpper = true := by decide
  exact hall n h

/-- A byte is escaped as a percent sign and two digits. -/
theorem isEscapeChar_of_mem {b : UInt8} {c : Char} (h : c ∈ percentByte b) :
    isEscapeChar c = true := by
  have hb : b.toNat < 256 := b.toNat_lt
  simp only [percentByte, List.mem_cons, List.not_mem_nil, or_false] at h
  obtain rfl | rfl | rfl := h
  · decide
  · exact isEscapeChar_hexDigit (by omega)
  · exact isEscapeChar_hexDigit (by omega)

/-- Escapes are ASCII. -/
theorem toNat_of_isEscapeChar {c : Char} (h : isEscapeChar c = true) : c.toNat < 128 := by
  simp only [isEscapeChar, Bool.or_eq_true, beq_iff_eq, Bool.and_eq_true, decide_eq_true_eq,
    Char.isDigit] at h
  obtain (rfl | ⟨-, hdigit⟩) | ⟨-, hletter⟩ := h
  · decide
  · exact Nat.lt_of_le_of_lt (show c.toNat ≤ 57 from hdigit) (by decide)
  · exact Nat.lt_of_le_of_lt (show c.toNat ≤ 70 from hletter) (by decide)

section
variable {inSet : Char → Bool} {input : List Char}

/-- The encoding, character by character. -/
theorem toList_percentEncode (inSet : Char → Bool) (input : List Char) :
    (percentEncode inSet input).toList = input.flatMap fun c =>
      if inSet c then (String.utf8EncodeChar c).flatMap percentByte else [c] :=
  String.toList_ofList

/-- An encoded text is made of escapes and of the characters outside the set. -/
theorem mem_percentEncode {c : Char} (h : c ∈ (percentEncode inSet input).toList) :
    isEscapeChar c = true ∨ (c ∈ input ∧ inSet c = false) := by
  rw [toList_percentEncode] at h
  obtain ⟨d, hd, hc⟩ := List.mem_flatMap.mp h
  split at hc
  · obtain ⟨b, -, hb⟩ := List.mem_flatMap.mp hc
    exact .inl (isEscapeChar_of_mem hb)
  · rename_i hset
    obtain rfl := List.mem_singleton.mp hc
    exact .inr ⟨hd, Bool.eq_false_iff.mpr hset⟩

/-- Outside the set nothing changes. -/
theorem percentEncode_eq_self (h : ∀ c ∈ input, inSet c = false) :
    percentEncode inSet input = String.ofList input := by
  rw [percentEncode]
  congr 1
  induction input with
  | nil => rfl
  | cons c rest ih =>
      obtain ⟨hc, hrest⟩ := List.forall_mem_cons.mp h
      rw [List.flatMap_cons, hc, ih hrest]
      rfl

/-- No character is dropped: it is kept or becomes at least one escape. -/
theorem percentEncode_ne_empty (h : input ≠ []) : percentEncode inSet input ≠ "" := by
  obtain ⟨c, rest, rfl⟩ := List.exists_cons_of_ne_nil h
  intro hempty
  have hnil : (percentEncode inSet (c :: rest)).toList = [] := by rw [hempty]; rfl
  rw [toList_percentEncode, List.flatMap_cons, List.append_eq_nil_iff] at hnil
  have hfirst := hnil.1
  split at hfirst
  · -- A character has at least one byte, and a byte has an escape.
    obtain ⟨b, bs, hcons⟩ := List.exists_cons_of_ne_nil (@String.utf8EncodeChar_ne_nil c)
    rw [hcons, List.flatMap_cons] at hfirst
    cases hfirst
  · cases hfirst

end

/-! ## Dot segments -/

/-- A dot segment of either kind. -/
def isDot (segment : List Char) : Bool := isSingleDot segment || isDoubleDot segment

/-- In a dot segment every percent sign begins an escaped dot. -/
theorem escape_of_isDot {segment rest : List Char} (h : isDot segment = true)
    (hrest : '%' :: rest <:+ segment.map Char.toLower) : rest.take 2 = ['2', 'e'] := by
  have hspelled : String.ofList (segment.map Char.toLower) ∈
      [".", "%2e", "..", ".%2e", "%2e.", "%2e%2e"] := by
    simp only [isDot, isSingleDot, isDoubleDot, Bool.or_eq_true, List.contains_eq_mem,
      decide_eq_true_eq] at h
    simp only [List.mem_cons, List.not_mem_nil, or_false] at h ⊢
    tauto
  have hall : ∀ text ∈ [".", "%2e", "..", ".%2e", "%2e.", "%2e%2e"],
      ∀ tail ∈ text.toList.tails, tail.head? = some '%' → tail.tail.take 2 = ['2', 'e'] := by
    decide
  refine hall _ hspelled ('%' :: rest) ?_ rfl
  rw [String.toList_ofList]
  exact (List.mem_tails _ _).mpr hrest

/-- The one byte whose escape spells a dot, looked up among the 256. -/
theorem eq_dot_of_escape {b : UInt8}
    (h : ((percentByte b).map Char.toLower).tail = ['2', 'e']) : b = 46 := by
  have hall : ∀ n < 256, ((percentByte (UInt8.ofNat n)).map Char.toLower).tail = ['2', 'e'] →
      n = 46 := by
    decide +kernel
  have hb := hall b.toNat b.toNat_lt (by rwa [UInt8.ofNat_toNat])
  exact UInt8.toNat_inj.mp hb

/-- Only a dot has the byte of a dot first. -/
theorem eq_dot_of_utf8 {c : Char} {bs : List UInt8} (h : String.utf8EncodeChar c = 46 :: bs) :
    c = '.' := by
  have hbyte : ∀ {n : Nat}, UInt8.ofNat n = 46 → n % 256 = 46 := by
    intro n hn
    have htoNat := congrArg UInt8.toNat hn
    rwa [UInt8.toNat_ofNat'] at htoNat
  simp only [String.utf8EncodeChar] at h
  -- The first byte of a longer encoding is at least 192.
  split at h
  · rename_i hascii
    have hval := hbyte (List.cons.inj h).1
    exact Char.toNat_inj.mp (show c.val.toNat = 46 by omega)
  · split at h
    · have hval := hbyte (List.cons.inj h).1
      omega
    · split at h
      · have hval := hbyte (List.cons.inj h).1
        omega
      · have hval := hbyte (List.cons.inj h).1
        omega

/-- Encoding makes no dot segment: what reads as one had nothing to encode. An escape in it would
have to be that of a dot, and the dot is not in the set. -/
theorem isDot_percentEncode {inSet : Char → Bool} (hdot : inSet '.' = false)
    {segment : List Char} (h : isDot (percentEncode inSet segment).toList = true) :
    isDot segment = true := by
  suffices hplain : ∀ c ∈ segment, inSet c = false by
    rwa [percentEncode_eq_self hplain, String.toList_ofList] at h
  intro c hc
  refine Bool.eq_false_iff.mpr fun hset => ?_
  -- The escape of `c` stands in the encoded text, and would have to spell a dot.
  obtain ⟨before, after, rfl⟩ := List.append_of_mem hc
  obtain ⟨b, bs, hbytes⟩ := List.exists_cons_of_ne_nil (@String.utf8EncodeChar_ne_nil c)
  have htail : ∃ rest, (percentByte b ++ rest) <:+
      (percentEncode inSet (before ++ c :: after)).toList := by
    rw [toList_percentEncode, List.flatMap_append, List.flatMap_cons, if_pos hset, hbytes,
      List.flatMap_cons, List.append_assoc]
    exact ⟨_, List.suffix_append _ _⟩
  obtain ⟨rest, hsuffix⟩ := htail
  have hlower := hsuffix.map Char.toLower
  rw [List.map_append] at hlower
  have hescape : (((percentByte b).map Char.toLower).tail ++ rest.map Char.toLower).take 2 =
      ['2', 'e'] := escape_of_isDot h hlower
  have hb : b = 46 := eq_dot_of_escape hescape
  rw [hb] at hbytes
  rw [eq_dot_of_utf8 hbytes, hdot] at hset
  cases hset

/-! ## Query and fragment -/

/-- Up to a query or a fragment all of an input is its path. -/
theorem takeWhile_endsPath {path tail : List Char} (h : ∀ c ∈ path, endsPath c = false)
    (htail : ∀ c, tail.head? = some c → endsPath c = true) :
    (path ++ tail).takeWhile (!endsPath ·) = path := by
  have hin : ∀ c ∈ path, (!endsPath c) = true := fun c hc => by rw [h c hc]; rfl
  rw [List.takeWhile_append_of_pos hin]
  cases tail with
  | nil => exact List.append_nil _
  | cons c rest =>
      rw [List.takeWhile_cons, htail c rfl]
      exact List.append_nil _

/-- An input without `?` and `#` is a path to its end. -/
theorem parsePath_of_forall {input : List Char} (h : ∀ c ∈ input, endsPath c = false)
    (onto : List String) : parsePath onto input = pushSegments onto (splitWhere isSlash input) := by
  rw [parsePath, List.takeWhile_eq_self_iff.mpr fun c hc => by rw [h c hc]; rfl]

/-- The query starts where the path ends. -/
theorem dropWhile_endsPath {path tail : List Char} (h : ∀ c ∈ path, endsPath c = false)
    (htail : ∀ c, tail.head? = some c → endsPath c = true) :
    (path ++ tail).dropWhile (!endsPath ·) = tail :=
  dropWhile_append_of_all (fun c hc => by rw [h c hc]; rfl) fun c hc => by rw [htail c hc]; rfl

/-- Without a mark there is no query. -/
theorem parseQuery_of_forall {input : List Char} (h : ∀ c ∈ input, endsPath c = false) :
    parseQuery input = none := by
  rw [parseQuery, List.dropWhile_eq_nil_iff.mpr fun c hc => by rw [h c hc]; rfl]

/-- Without a mark there is no fragment. -/
theorem parseFragment_of_forall {input : List Char} (h : ∀ c ∈ input, endsPath c = false) :
    parseFragment input = none := by
  have hdrop : input.dropWhile (· != '#') = [] := by
    refine List.dropWhile_eq_nil_iff.mpr fun c hc => ?_
    rw [bne, (Bool.or_eq_false_iff.mp (h c hc)).2]
    rfl
  rw [parseFragment, hdrop]

/-! ## Segments of a parsed path -/

/-- A character that the path state neither encodes nor reads as a separator. -/
def isPathChar (c : Char) : Bool := !inPathSet c && !isSlash c

/-- The characters of an escape are not escaped again, so encoding twice is encoding once. -/
theorem isPathChar_escape {c : Char} (h : isEscapeChar c = true) : isPathChar c = true :=
  forall_ascii (P := fun c => isEscapeChar c = true → isPathChar c = true) (by decide)
    (toNat_of_isEscapeChar h) h

/-- A path character is printable ASCII: controls, the space and everything past `~` are in the
set that is escaped. -/
theorem toNat_of_isPathChar {c : Char} (h : isPathChar c = true) :
    0x20 < c.toNat ∧ c.toNat ≤ 0x7E := by
  simp only [isPathChar, inPathSet, inControlSet, Bool.and_eq_true, Bool.not_eq_true',
    Bool.or_eq_false_iff, decide_eq_false_iff_not] at h
  obtain ⟨⟨⟨hlow, hhigh⟩, hlist⟩, -⟩ := h
  have hspace : c.toNat ≠ 0x20 := by
    intro hc
    rw [Char.toNat_inj.mp (show c.toNat = ' '.toNat from hc)] at hlist
    revert hlist
    decide
  omega

/-- A character that the query set leaves alone is printable ASCII too. -/
theorem toNat_of_not_inQuerySet {c : Char} (h : inQuerySet c = false) :
    0x20 < c.toNat ∧ c.toNat ≤ 0x7E := by
  simp only [inQuerySet, inControlSet, Bool.or_eq_false_iff, decide_eq_false_iff_not] at h
  obtain ⟨⟨hlow, hhigh⟩, hlist⟩ := h
  have hspace : c.toNat ≠ 0x20 := by
    intro hc
    rw [Char.toNat_inj.mp (show c.toNat = ' '.toNat from hc)] at hlist
    revert hlist
    decide
  omega

/-- A path character does not end a path: `?` and `#` are both escaped in it. -/
theorem endsPath_of_isPathChar {c : Char} (h : isPathChar c = true) : endsPath c = false := by
  have hrange := (toNat_of_isPathChar h).2
  exact forall_ascii (P := fun c => isPathChar c = true → endsPath c = false) (by decide)
    (by omega) h

/-- A segment that the path state keeps as it is. -/
def isNormal (segment : List Char) : Bool := segment.all isPathChar && !isDot segment

section
variable {segment : List Char}

/-- The characters of a normal segment are path characters. -/
theorem isPathChar_of_isNormal (h : isNormal segment = true) : ∀ c ∈ segment, isPathChar c = true :=
  List.all_eq_true.mp (Bool.and_eq_true_iff.mp h).1

/-- A normal segment has no slash of either kind, so it is one segment when it is split. -/
theorem isSlash_of_isNormal (h : isNormal segment = true) : ∀ c ∈ segment, isSlash c = false := by
  intro c hc
  have hchar := isPathChar_of_isNormal h c hc
  simp only [isPathChar, Bool.and_eq_true, Bool.not_eq_true'] at hchar
  exact hchar.2

/-- A normal segment is no dot segment, so the path state appends it and removes nothing. -/
theorem not_dot_of_isNormal (h : isNormal segment = true) :
    isDoubleDot segment = false ∧ isSingleDot segment = false := by
  have hdot := (Bool.and_eq_true_iff.mp h).2
  simp only [isDot, Bool.not_eq_true', Bool.or_eq_false_iff] at hdot
  exact hdot.symm

/-- A normal segment has nothing left to encode. -/
theorem percentEncode_of_isNormal (h : isNormal segment = true) :
    percentEncode inPathSet segment = String.ofList segment := by
  refine percentEncode_eq_self fun c hc => ?_
  have hchar := isPathChar_of_isNormal h c hc
  simp only [isPathChar, Bool.and_eq_true, Bool.not_eq_true'] at hchar
  exact hchar.1

/-- What the path state appends is normal. The hypotheses are the cases in which it does append:
the segment was split at slashes and is no dot segment. -/
theorem isNormal_percentEncode (hslash : ∀ c ∈ segment, isSlash c = false)
    (hdouble : isDoubleDot segment = false) (hsingle : isSingleDot segment = false) :
    isNormal (percentEncode inPathSet segment).toList = true := by
  rw [isNormal, Bool.and_eq_true, List.all_eq_true, Bool.not_eq_true']
  refine ⟨fun c hc => ?_, Bool.eq_false_iff.mpr fun hdot => ?_⟩
  · rcases mem_percentEncode hc with hescape | ⟨hmem, hset⟩
    · exact isPathChar_escape hescape
    · simp only [isPathChar, hset, hslash c hmem]
      rfl
  · have hraw := isDot_percentEncode (by decide) hdot
    rw [isDot, hdouble, hsingle] at hraw
    cases hraw

end

/-- Every segment that the path state leaves is normal. The induction is on the segments still to
be read. A double dot removes a segment, which keeps the claim for the rest. -/
theorem pushSegments_isNormal {path : List String} {segments : List (List Char)}
    (hpath : ∀ segment ∈ path, isNormal segment.toList = true)
    (hslash : ∀ segment ∈ segments, ∀ c ∈ segment, isSlash c = false) :
    ∀ segment ∈ pushSegments path segments, isNormal segment.toList = true := by
  have hpush : ∀ {path : List String} {last : String},
      (∀ segment ∈ path, isNormal segment.toList = true) → isNormal last.toList = true →
        ∀ segment ∈ path ++ [last], isNormal segment.toList = true := by
    intro path last hpath hlast segment hmem
    rcases List.mem_append.mp hmem with hold | hnew
    · exact hpath segment hold
    · rw [List.mem_singleton.mp hnew]
      exact hlast
  -- Segments that are popped were normal, and so are those that stay.
  have hpop : ∀ {path : List String}, (∀ segment ∈ path, isNormal segment.toList = true) →
      ∀ segment ∈ popSegment path, isNormal segment.toList = true :=
    fun hpath segment hmem => hpath segment (mem_of_mem_popSegment hmem)
  induction segments generalizing path with
  | nil => exact hpath
  | cons segment rest ih =>
      obtain ⟨hfirst, hrest⟩ := List.forall_mem_cons.mp hslash
      cases rest with
      | nil =>
          simp only [pushSegments]
          split
          · -- Dots at the end leave an empty segment, which is normal.
            exact hpush (hpop hpath) (by decide)
          · rename_i hdouble
            split
            · exact hpush hpath (by decide)
            · rename_i hsingle
              exact hpush hpath (isNormal_percentEncode hfirst
                (Bool.eq_false_iff.mpr hdouble) (Bool.eq_false_iff.mpr hsingle))
      | cons next rest =>
          simp only [pushSegments]
          split
          · exact ih (hpop hpath) hrest
          · rename_i hdouble
            split
            · exact ih hpath hrest
            · rename_i hsingle
              exact ih (hpush hpath (isNormal_percentEncode hfirst
                (Bool.eq_false_iff.mpr hdouble) (Bool.eq_false_iff.mpr hsingle))) hrest

/-- Every segment of a parsed path is normal, whatever the input was. -/
theorem parsePath_isNormal (input : List Char) :
    ∀ segment ∈ parsePath [] input, isNormal segment.toList = true :=
  pushSegments_isNormal (List.forall_mem_nil _) fun _ hmem => not_of_mem_splitWhere hmem

/-- A special URL has at least one segment, the empty one of the root path. -/
theorem parsePath_ne_nil (onto : List String) (input : List Char) : parsePath onto input ≠ [] :=
  pushSegments_ne_nil onto (splitWhere_ne_nil isSlash _)

/-- Normal segments are appended as they are, none of them being encoded, skipped or climbing. -/
theorem pushSegments_of_isNormal {path segments : List String}
    (h : ∀ segment ∈ segments, isNormal segment.toList = true) :
    pushSegments path (segments.map String.toList) = path ++ segments := by
  induction segments generalizing path with
  | nil => exact (List.append_nil path).symm
  | cons segment rest ih =>
      obtain ⟨hfirst, hrest⟩ := List.forall_mem_cons.mp h
      obtain ⟨hdouble, hsingle⟩ := not_dot_of_isNormal hfirst
      have hself : percentEncode inPathSet segment.toList = segment := by
        rw [percentEncode_of_isNormal hfirst, String.ofList_toList]
      cases rest with
      | nil => simp only [List.map_cons, List.map_nil, pushSegments, hdouble, hsingle, hself]; rfl
      | cons next rest =>
          simp only [List.map_cons, pushSegments, hdouble, hsingle, hself]
          have happend : pushSegments (path ++ [segment]) ((next :: rest).map String.toList) =
              path ++ [segment] ++ next :: rest := ih hrest
          rw [List.append_assoc] at happend
          exact happend

/-- Segments with slashes between them. -/
def slashSeparated (segments : List String) : List Char :=
  ['/'].intercalate (segments.map String.toList)

/-- A slash stands between two segments. -/
theorem slashSeparated_cons_cons (segment next : String) (rest : List String) :
    slashSeparated (segment :: next :: rest) =
      segment.toList ++ '/' :: slashSeparated (next :: rest) := by
  rw [slashSeparated, List.map_cons, List.map_cons, List.intercalate_cons_cons, List.append_assoc]
  rfl

/-- The path of a URL with segments, as characters. -/
theorem toList_pathString {url : Url} {segments : List String} (h : url.path = .segments segments) :
    url.pathString.toList = '/' :: slashSeparated segments := by
  rw [Url.pathString, h]
  show ("/" ++ String.intercalate "/" segments).toList = _
  rw [String.toList_append, String.toList_intercalate]
  rfl

/-- A character of the path is a slash or stands in a segment. -/
theorem mem_slashSeparated {segments : List String} {c : Char} (h : c ∈ slashSeparated segments) :
    c = '/' ∨ ∃ segment ∈ segments, c ∈ segment.toList := by
  induction segments with
  | nil => cases h
  | cons segment rest ih =>
      cases rest with
      | nil =>
          rw [slashSeparated, List.map_singleton, List.intercalate_singleton] at h
          exact .inr ⟨segment, List.mem_cons_self, h⟩
      | cons next rest =>
          rw [slashSeparated_cons_cons] at h
          rcases List.mem_append.mp h with hfirst | hmore
          · exact .inr ⟨segment, List.mem_cons_self, hfirst⟩
          · rcases List.mem_cons.mp hmore with hslash | hrest
            · exact .inl hslash
            · obtain hslash | ⟨other, hmem, hc⟩ := ih hrest
              · exact .inl hslash
              · exact .inr ⟨other, List.mem_cons_of_mem _ hmem, hc⟩

/-- A character of a normal path is a slash between segments or a path character in one. -/
theorem isPathChar_of_mem_slashSeparated {segments : List String}
    (h : ∀ segment ∈ segments, isNormal segment.toList = true) {c : Char}
    (hc : c ∈ slashSeparated segments) : c = '/' ∨ isPathChar c = true := by
  obtain hslash | ⟨segment, hmem, hc⟩ := mem_slashSeparated hc
  · exact .inl hslash
  · exact .inr (isPathChar_of_isNormal (h segment hmem) c hc)

/-- Nothing in a normal path starts a query or a fragment, so the path is read to its end. -/
theorem endsPath_slashSeparated {segments : List String}
    (h : ∀ segment ∈ segments, isNormal segment.toList = true) :
    ∀ c ∈ slashSeparated segments, endsPath c = false := by
  intro c hc
  rcases isPathChar_of_mem_slashSeparated h hc with rfl | hchar
  · decide
  · exact endsPath_of_isPathChar hchar

/-- A path of normal segments is read back as it is, up to a query or a fragment. This is the
round trip for paths, and the list has to have a segment because a parsed path has one. -/
theorem parsePath_slashSeparated {segments : List String} (hne : segments ≠ [])
    (h : ∀ segment ∈ segments, isNormal segment.toList = true) {tail : List Char}
    (htail : ∀ c, tail.head? = some c → endsPath c = true) :
    parsePath [] (slashSeparated segments ++ tail) = segments := by
  have hpath := takeWhile_endsPath (endsPath_slashSeparated h) htail
  have hsplit : splitWhere isSlash (slashSeparated segments) = segments.map String.toList := by
    refine splitWhere_intercalate (by decide) (fun hnil => hne (List.map_eq_nil_iff.mp hnil)) ?_
    intro part hpart
    obtain ⟨segment, hmem, rfl⟩ := List.mem_map.mp hpart
    exact isSlash_of_isNormal (h segment hmem)
  rw [parsePath, hpath, hsplit, pushSegments_of_isNormal h, List.nil_append]

/-! ## Plain paths -/

/-- A path, after its first slash, that the parser does not change. -/
def isPlain (path : List Char) : Bool := (splitWhere (· == '/') path).all isNormal

/-- The parts of a path at its slashes, put together again. -/
theorem slashSeparated_splitWhere (path : List Char) :
    slashSeparated ((splitWhere (· == '/') path).map String.ofList) = path := by
  rw [slashSeparated, List.map_map]
  conv_rhs => rw [← intercalate_splitWhere '/' path]
  congr 1
  refine (List.map_congr_left fun part _ => ?_).trans (List.map_id _)
  exact String.toList_ofList

/-- The segments of a plain path are normal. -/
theorem isNormal_of_isPlain {path : List Char} (h : isPlain path = true) :
    ∀ segment ∈ (splitWhere (· == '/') path).map String.ofList,
      isNormal segment.toList = true := by
  intro segment hmem
  obtain ⟨part, hpart, rfl⟩ := List.mem_map.mp hmem
  rw [String.toList_ofList]
  exact List.all_eq_true.mp h part hpart

/-- A plain path has no query or fragment. -/
theorem endsPath_of_isPlain {path : List Char} (h : isPlain path = true) :
    ∀ c ∈ path, endsPath c = false := by
  have hends := endsPath_slashSeparated (isNormal_of_isPlain h)
  rwa [slashSeparated_splitWhere] at hends

/-- The parser gives a path back exactly when it is plain. From left to right the segments of the
result are normal, so their text is; the other direction is the round trip. -/
theorem slashSeparated_parsePath_iff (path : List Char) :
    slashSeparated (parsePath [] (cleanEnd path)) = path ↔ isPlain path = true := by
  constructor
  · intro h
    have hnormal := parsePath_isNormal (cleanEnd path)
    have hne := parsePath_ne_nil [] (cleanEnd path)
    generalize parsePath [] (cleanEnd path) = segments at h hnormal hne
    -- The segments of the result are normal, and they are the parts of the path.
    have hparts : splitWhere (· == '/') path = segments.map String.toList := by
      rw [← h]
      refine splitWhere_intercalate (by decide) (fun hnil => hne (List.map_eq_nil_iff.mp hnil)) ?_
      intro part hpart c hc
      obtain ⟨segment, hmem, rfl⟩ := List.mem_map.mp hpart
      have hslash := isSlash_of_isNormal (hnormal segment hmem) c hc
      exact (Bool.or_eq_false_iff.mp hslash).1
    rw [isPlain, hparts, List.all_map, List.all_eq_true]
    exact hnormal
  · intro h
    have hnormal := isNormal_of_isPlain h
    have hclean : cleanEnd path = path := by
      refine cleanEnd_of_not_blank fun c hc => ?_
      rw [← slashSeparated_splitWhere path] at hc
      rcases isPathChar_of_mem_slashSeparated hnormal hc with rfl | hchar
      · decide
      · have hrange := (toNat_of_isPathChar hchar).1
        rw [isC0OrSpace, decide_eq_false_iff_not]
        omega
    have hne : (splitWhere (· == '/') path).map String.ofList ≠ [] :=
      fun hnil => splitWhere_ne_nil _ _ (List.map_eq_nil_iff.mp hnil)
    have hread := @parsePath_slashSeparated _ hne hnormal [] (by simp)
    rw [List.append_nil, slashSeparated_splitWhere] at hread
    rw [hclean, hread, slashSeparated_splitWhere]

/-! ## Absolute texts -/

/-- A character of an authority without credentials. -/
def isAuthorityChar (c : Char) : Bool := !endsAuthority c && c != '@'

/-- A digit is part of an authority, and `cleanEnd` does not take it off. -/
theorem isAuthorityChar_of_isDigit {c : Char} (h : c.isDigit = true) :
    isAuthorityChar c = true ∧ isC0OrSpace c = false := by
  have hascii : c.toNat < 128 := by
    simp only [Char.isDigit, Bool.and_eq_true, decide_eq_true_eq] at h
    exact Nat.lt_of_le_of_lt (show c.toNat ≤ 57 from h.2) (by decide)
  exact forall_ascii (P := fun c => c.isDigit = true →
    isAuthorityChar c = true ∧ isC0OrSpace c = false) (by decide +kernel) hascii h

/-- Without an at sign there are no credentials. -/
theorem splitAtSign_of_forall {input : List Char} (h : ∀ c ∈ input, (c != '@') = true) :
    splitAtSign input = (none, input) := by
  have hnone : input.reverse.dropWhile (· != '@') = [] :=
    List.dropWhile_eq_nil_iff.mpr fun c hc => h c (List.mem_reverse.mp hc)
  rw [splitAtSign, hnone]

/-- A text with a special scheme is read from its authority on. The text after the two slashes
does not start with another one, which the parser would skip. The end of the text is cleaned, and
the scheme in front keeps its start. -/
theorem parse_special {scheme : String} (lib : Backend) (hspecial : isSpecial scheme = true)
    (hscheme : ∀ rest, splitScheme (scheme.toList ++ ':' :: rest) = some (scheme, rest))
    (hblank : ∀ c ∈ scheme.toList, isC0OrSpace c = false) {input : String}
    (hslash : ∀ c, (cleanEnd input.toList).head? = some c → isSlash c = false) :
    parse lib (scheme ++ "://" ++ input) = parseAuthority lib scheme (cleanEnd input.toList) := by
  have hclean : clean (scheme ++ "://" ++ input).toList =
      scheme.toList ++ ':' :: ('/' :: '/' :: cleanEnd input.toList) := by
    have hfront : ∀ c ∈ scheme.toList ++ "://".toList, isC0OrSpace c = false := by
      intro c hc
      rcases List.mem_append.mp hc with hc | hc
      · exact hblank c hc
      · -- through `List.all`: `decide` on the bounded quantifier would walk all of `Char`
        have hall : ∀ c ∈ "://".toList, isC0OrSpace c = false :=
          List.all_iff_forall_prop.mp (by decide)
        exact hall c hc
    rw [String.toList_append, String.toList_append,
      clean_append (List.append_ne_nil_of_right_ne_nil _ (by decide)) hfront, List.append_assoc]
    rfl
  have hdrop : ('/' :: '/' :: cleanEnd input.toList).dropWhile isSlash = cleanEnd input.toList :=
    dropWhile_append_of_all (a := ['/', '/']) (List.all_iff_forall_prop.mp (by decide)) hslash
  simp only [parse, hclean, hscheme, hspecial, if_true, hdrop]

/-- What an authority without credentials and the text after it are read as: the host and the port
from the authority, and the rest from what follows it. -/
theorem parseAuthority_eq_ok {lib : Backend} {scheme : String} {authority rest : List Char}
    {url : Url} (hchars : ∀ c ∈ authority, isAuthorityChar c = true)
    (hrest : ∀ c, rest.head? = some c → endsAuthority c = true) :
    parseAuthority lib scheme (authority ++ rest) = .ok url ↔
      (splitPort false authority).1.isEmpty = false ∧
      ∃ host, lib.parseHost (String.ofList (splitPort false authority).1) = .ok host ∧
        ∃ port, parsePort scheme (splitPort false authority).2 = .ok port ∧
          url =
            { scheme
              host := some host
              port
              path := .segments (parsePath []
                (if (rest.head?.map isSlash).getD false then rest.drop 1 else rest))
              query := parseQuery rest
              fragment := parseFragment rest } := by
  have hends : ∀ c ∈ authority, (!endsAuthority c) = true := fun c hc =>
    (Bool.and_eq_true_iff.mp (hchars c hc)).1
  have htake : (authority ++ rest).takeWhile (!endsAuthority ·) = authority := by
    rw [List.takeWhile_append_of_pos hends]
    cases rest with
    | nil => exact List.append_nil _
    | cons c rest =>
        rw [List.takeWhile_cons, hrest c rfl]
        exact List.append_nil _
  have hdrop : (authority ++ rest).dropWhile (!endsAuthority ·) = rest :=
    dropWhile_append_of_all hends fun c hc => by rw [hrest c hc]; rfl
  -- There are no credentials in such an authority.
  have hat := splitAtSign_of_forall fun c hc => (Bool.and_eq_true_iff.mp (hchars c hc)).2
  simp only [parseAuthority, htake, hdrop, hat, bind_eq_ok, exists_unit, ensure_eq_ok,
    Bool.not_eq_true']
  refine and_congr_right fun _ => exists_congr fun host => and_congr_right fun _ =>
    exists_congr fun port => and_congr_right fun _ => ?_
  constructor
  · intro h
    exact (Except.ok.inj h).symm
  · rintro rfl
    rfl

/-- The same where the text after the authority starts with a slash. -/
theorem parseAuthority_root_eq_ok {lib : Backend} {scheme : String} {authority path : List Char}
    {url : Url} (hchars : ∀ c ∈ authority, isAuthorityChar c = true) :
    parseAuthority lib scheme (authority ++ '/' :: path) = .ok url ↔
      (splitPort false authority).1.isEmpty = false ∧
      ∃ host, lib.parseHost (String.ofList (splitPort false authority).1) = .ok host ∧
        ∃ port, parsePort scheme (splitPort false authority).2 = .ok port ∧
          url =
            { scheme
              host := some host
              port
              path := .segments (parsePath [] path)
              query := parseQuery ('/' :: path)
              fragment := parseFragment ('/' :: path) } := by
  have hends : ∀ c, ('/' :: path).head? = some c → endsAuthority c = true := by
    intro c hc
    cases hc
    decide
  have hroot : (if (('/' :: path).head?.map isSlash).getD false then ('/' :: path).drop 1
      else '/' :: path) = path := rfl
  rw [parseAuthority_eq_ok hchars hends, hroot]

end Whatwg
