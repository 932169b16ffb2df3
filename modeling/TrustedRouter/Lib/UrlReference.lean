import TrustedRouter.Lib.Form

/-!
# `TrustedRouter.Lib.UrlReference`: relative references with a query

A reference that is a relative path, perhaps with a query of serialized parameters behind it.
`join_reference` is the URL it resolves to against a directory: the segments of the path are
pushed onto those of the directory, the query is taken as it is, and everything before the path
stays. `IsPathReference` is what the path needs for that. `join_path` is the case of a path that
still has to be cleaned.
-/

set_option autoImplicit false

namespace FormUrlencoded

open Rust (Bytes)
open Rust.Str

/-- A character of a query with a pair appended to it: one of the query, a separator, or one that
serializing wrote. -/
theorem mem_appendPair {query name value : String} {c : Char}
    (h : c ∈ (appendPair query name value).toList) :
    c ∈ query.toList ∨ c = '&' ∨ c = '=' ∨ ∃ b, ∃ out ∈ serializeByte b, asciiChar out = c := by
  have hserialized : ∀ text : String, c ∈ (byteSerialize text).toList →
      ∃ b, ∃ out ∈ serializeByte b, asciiChar out = c := by
    intro text hc
    rw [byteSerialize, String.toList_ofList] at hc
    obtain ⟨out, hout, rfl⟩ := List.mem_map.mp hc
    obtain ⟨b, -, hb⟩ := List.mem_flatMap.mp hout
    exact ⟨b, out, hb, rfl⟩
  -- Name and value are both serialized, and the equals sign stands between them.
  have hpair : c ∈ (serializePair name value).toList →
      c = '=' ∨ ∃ b, ∃ out ∈ serializeByte b, asciiChar out = c := by
    intro hc
    rw [serializePair, String.toList_append, String.toList_append, List.mem_append,
      List.mem_append] at hc
    rcases hc with (hname | hsymbol) | hvalue
    · exact .inr (hserialized name hname)
    · exact .inl (List.mem_singleton.mp hsymbol)
    · exact .inr (hserialized value hvalue)
  rw [appendPair, String.toList_append, List.mem_append] at h
  rcases h with hquery | h
  · -- An ampersand only follows a query that is there already.
    split at hquery
    · cases hquery
    · rw [String.toList_append, List.mem_append] at hquery
      rcases hquery with hquery | hsymbol
      · exact .inl hquery
      · exact .inr (.inl (List.mem_singleton.mp hsymbol))
  · exact .inr (.inr (hpair h))

/-- No byte is written as a backslash. -/
theorem asciiChar_serializeByte_ne (b : UInt8) : ∀ out ∈ serializeByte b,
    asciiChar out ≠ '\\' := by
  have hall : ∀ n < 256, (serializeByte (UInt8.ofNat n)).all (fun out =>
      decide (asciiChar out ≠ '\\')) = true := by
    decide +kernel
  revert b
  exact forall_byte fun n hn => List.all_iff_forall_prop.mp (hall n hn)

/-- A pair does not bring a backslash into a query. -/
theorem backslash_not_mem_appendPair {query : String} (h : '\\' ∉ query.toList)
    (name value : String) : '\\' ∉ (appendPair query name value).toList := by
  intro hmem
  rcases mem_appendPair hmem with hquery | hamp | heq | ⟨b, out, hout, hc⟩
  · exact h hquery
  · cases hamp
  · cases heq
  · exact asciiChar_serializeByte_ne b out hout hc

/-- The text of a query has no control and no blank. -/
theorem not_blank_of_isQueryText {query : String} (h : IsQueryText query) :
    ∀ c ∈ query.toList, Whatwg.isC0OrSpace c = false := by
  intro c hc
  have hrange := (Whatwg.toNat_of_not_inQuerySet (h c hc)).1
  simp only [Whatwg.isC0OrSpace, decide_eq_false_iff_not]
  omega

end FormUrlencoded

namespace Whatwg

open Rust.Str
open FormUrlencoded (IsQueryText not_blank_of_isQueryText)

/-- What an input resolves to that is a relative path once it is cleaned. The query and the
fragment of the base go, and its last segment is replaced. -/
theorem join_path (lib : Backend) {base : Url} {segments : List String} {input : String}
    {first : Char} {rest : List Char} (hbase : IsDirectory base segments)
    (hclean : clean input.toList = first :: rest) (hslash : isSlash first = false)
    (hscheme : splitScheme (first :: rest) = none)
    (hends : ∀ c ∈ first :: rest, endsPath c = false) :
    join lib base input =
      .ok { base with
            path := .segments (pushSegments segments (splitWhere isSlash (first :: rest)))
            query := none
            fragment := none } := by
  have hslashes : ((first :: rest).takeWhile isSlash).length < 2 := by
    rw [List.takeWhile_cons, hslash]
    exact Nat.zero_lt_two
  have hclass : classify base.scheme input = .relative (first :: rest) := by
    simp only [classify, hclean, classifyClean, hscheme, if_pos hslashes]
  have hend := hends first List.mem_cons_self
  simp only [endsPath, Bool.or_eq_false_iff] at hend
  rw [join, hclass]
  simp only [resolve, hend.1, hend.2, hslash, Bool.false_eq_true, if_false, hbase.dropLast]
  rw [parsePath_of_forall hends, parseQuery_of_forall hends, parseFragment_of_forall hends]

/-- A path, and a query behind a question mark if there is one. -/
def reference (path : List Char) (query : Option String) : List Char :=
  path ++ query.elim [] fun query => '?' :: query.toList

/-- A path that a reference can start with: it does not start with a slash or read as a scheme,
and nothing in it is cleaned away or ends it. -/
structure IsPathReference (path : List Char) : Prop where
  ne_nil : path ≠ []
  no_slash : ∀ c, path.head? = some c → isSlash c = false
  not_blank : ∀ c ∈ path, isC0OrSpace c = false
  no_end : ∀ c ∈ path, endsPath c = false
  no_scheme : ∀ query, splitScheme (reference path query) = none

section
variable {path : List Char} (hpath : IsPathReference path) {query : Option String}
  (hquery : ∀ text, query = some text → IsQueryText text)
include hpath hquery

/-- There is nothing to clean in a reference of path characters and query text. -/
theorem clean_reference : clean (reference path query) = reference path query := by
  rw [reference, clean_append hpath.ne_nil hpath.not_blank]
  cases query with
  | none => rfl
  | some text =>
      rw [Option.elim_some, cleanEnd_cons (by decide),
        cleanEnd_of_not_blank (not_blank_of_isQueryText (hquery text rfl))]

/-- Such a reference is relative to any base: it starts neither with a slash nor with a scheme. -/
theorem classify_reference (scheme : String) :
    classify scheme (String.ofList (reference path query)) = .relative (reference path query) := by
  have hslashes : ((reference path query).takeWhile isSlash).length < 2 := by
    obtain ⟨c, rest, rfl⟩ := List.exists_cons_of_ne_nil hpath.ne_nil
    rw [reference, List.cons_append, List.takeWhile_cons, hpath.no_slash c rfl]
    exact Nat.zero_lt_two
  simp only [classify, String.toList_ofList, clean_reference hpath hquery, classifyClean,
    hpath.no_scheme query, if_pos hslashes]

omit hpath in
/-- Query text has no `#`, so there is no fragment. -/
theorem no_fragment_reference (hends : ∀ c ∈ path, endsPath c = false) :
    parseFragment (reference path query) = none := by
  have hdrop : (reference path query).dropWhile (· != '#') = [] := by
    refine List.dropWhile_eq_nil_iff.mpr fun c hc => ?_
    rw [bne_iff_ne]
    rintro rfl
    rcases List.mem_append.mp hc with hc | hc
    · exact absurd (hends _ hc) (by decide)
    · cases query with
      | none => cases hc
      | some text =>
          rcases List.mem_cons.mp hc with hc | hc
          · exact absurd hc (by decide)
          · exact absurd (hquery text rfl _ hc) (by decide)
  rw [parseFragment, hdrop]

/-- What a reference resolves to, against a directory: its path below the directory, and its query
as it is. -/
theorem join_reference (lib : Backend) {base : Url} {segments : List String}
    (hbase : IsDirectory base segments) :
    join lib base (String.ofList (reference path query)) =
      .ok { base with
            path := .segments (pushSegments segments (splitWhere isSlash path))
            query
            fragment := none } := by
  have htail : ∀ c, (query.elim [] fun query => '?' :: query.toList).head? = some c →
      endsPath c = true := by
    intro c hc
    cases query with
    | none => cases hc
    | some text =>
        cases hc
        decide
  have hparsedPath : parsePath segments (reference path query) =
      pushSegments segments (splitWhere isSlash path) := by
    rw [parsePath, reference, takeWhile_endsPath hpath.no_end htail]
  have hparsedQuery : parseQuery (reference path query) = query := by
    cases query with
    | none =>
        rw [reference, Option.elim_none, List.append_nil]
        exact parseQuery_of_forall hpath.no_end
    | some text => exact parseQuery_append hpath.no_end (hquery text rfl)
  have hfragment := no_fragment_reference hquery hpath.no_end
  rw [join, classify_reference hpath hquery]
  show Except.ok (resolve base (reference path query)) = _
  -- The path is not empty and starts with neither a slash nor an end of the path.
  obtain ⟨c, rest, hcons⟩ := List.exists_cons_of_ne_nil hpath.ne_nil
  have hslash : isSlash c = false := hpath.no_slash c (by rw [hcons]; rfl)
  have hend : endsPath c = false := hpath.no_end c (by rw [hcons]; exact List.mem_cons_self)
  simp only [endsPath, Bool.or_eq_false_iff] at hend
  have hresolve : resolve base (reference path query) =
      { base with
        path := .segments (parsePath base.pathSegments.dropLast (reference path query))
        query := parseQuery (reference path query)
        fragment := parseFragment (reference path query) } := by
    rw [reference, hcons, List.cons_append]
    simp only [resolve, hend.1, hend.2, hslash, Bool.false_eq_true, if_false]
  rw [hresolve, hbase.dropLast, hparsedPath, hparsedQuery, hfragment]

end

end Whatwg
