import TrustedRouter.Proofs.Transport.Engine

/-!
# `TrustedRouter.Proofs.Transport.SemanticRoute`: one route for all spellings of a path

`semantic_route` decodes escapes, folds case, collapses separators and drops the one at the end.
Decoding and collapsing distribute over a slash, because a slash is never part of an escape, so
the route of a path below a base is made of the two parts: `relativeRoute_append`.
`semanticRouteRelativeToBase_exact` is the law for any two URLs.

`Respells` is the list of liberties a caller has in writing a path: letter case, escapes, more
separators. `semanticRoute_respells` says that none of them changes the route, nor therefore
whether telemetry covers the path.
-/

set_option autoImplicit false

namespace TrustedRouter.Proofs.Transport

open TrustedRouter.Transport
open Rust.Str
open Whatwg (Url)

/-! ## Routes of two paths, one after the other -/

/-- A byte that starts no escape stays. -/
theorem percentDecodeAscii_literal {b : UInt8} {rest : Rust.Bytes}
    (h : ∀ high low more, b = 37 → rest = high :: low :: more →
      hexValue high = none ∨ hexValue low = none) :
    percentDecodeAscii (b :: rest) = Char.ofNat b.toNat :: percentDecodeAscii rest := by
  by_cases hescape : ∃ high low more, b = 37 ∧ rest = high :: low :: more
  · obtain ⟨high, low, more, rfl, rfl⟩ := hescape
    rw [percentDecodeAscii]
    rcases h high low more rfl rfl with hnone | hnone
    · rw [hnone]
      rfl
    · rw [hnone]
      cases hexValue high <;> rfl
  · rw [percentDecodeAscii]
    rintro high low more rfl rfl
    exact hescape ⟨high, low, more, rfl, rfl⟩

/-- A slash is never part of an escape, so that decoding can be done on both sides of it. -/
theorem percentDecodeAscii_slash (before after : Rust.Bytes) :
    percentDecodeAscii (before ++ 47 :: after) =
      percentDecodeAscii before ++ '/' :: percentDecodeAscii after := by
  have hslash : hexValue 47 = none := by decide
  induction before using percentDecodeAscii.induct with
  | case1 => simp [percentDecodeAscii]
  | case2 high low rest h l hhigh hlow ih =>
      simp only [List.cons_append, percentDecodeAscii, hhigh, hlow, ih]
  | case3 high low rest hhex ih =>
      simp only [List.cons_append] at ih
      simp only [List.cons_append, percentDecodeAscii, ih]
  | case4 b rest hnot ih =>
      rw [List.cons_append, percentDecodeAscii_literal, ih, percentDecodeAscii]
      · rfl
      · exact hnot
      · intro high low more hpercent hmore
        -- An escape that takes in the slash has it as one of its two digits.
        match rest, hmore with
        | [], hmore =>
            cases hmore
            exact .inl hslash
        | [_], hmore =>
            cases hmore
            exact .inr hslash
        | first :: second :: rest, _ => exact absurd rfl (hnot first second rest hpercent)

/-- A character that is not the first of two separators stays. -/
theorem collapseSlashes_of_not {c : Char} {rest : List Char}
    (h : ∀ more, c = '/' → rest = '/' :: more → False) :
    collapseSlashes (c :: rest) = c :: collapseSlashes rest := by
  rw [collapseSlashes]
  exact h

/-- A character that is not the first of two separators stays, with the next one in sight. -/
theorem collapseSlashes_cons {c d : Char} (rest : List Char) (h : ¬ (c = '/' ∧ d = '/')) :
    collapseSlashes (c :: d :: rest) = c :: collapseSlashes (d :: rest) := by
  apply collapseSlashes_of_not
  rintro more rfl heq
  cases heq
  exact h ⟨rfl, rfl⟩

/-- Collapsing what comes before a slash does not depend on what comes after it. -/
theorem collapseSlashes_append (before : List Char) :
    ∃ kept, kept.getLast? ≠ some '/' ∧ ∀ after,
      collapseSlashes (before ++ '/' :: after) = kept ++ collapseSlashes ('/' :: after) := by
  induction before with
  | nil => exact ⟨[], nofun, fun after => rfl⟩
  | cons c rest ih =>
      obtain ⟨kept, hlast, hkept⟩ := ih
      obtain ⟨d, hhead⟩ : ∃ d, ∀ after, ∃ more, rest ++ '/' :: after = d :: more := by
        cases rest with
        | nil => exact ⟨'/', fun after => ⟨after, rfl⟩⟩
        | cons d rest => exact ⟨d, fun after => ⟨rest ++ '/' :: after, rfl⟩⟩
      by_cases hboth : c = '/' ∧ d = '/'
      · refine ⟨kept, hlast, fun after => ?_⟩
        obtain ⟨more, hmore⟩ := hhead after
        rw [← hkept, List.cons_append, hmore, hboth.1, hboth.2, collapseSlashes]
      · refine ⟨c :: kept, ?_, fun after => ?_⟩
        · cases kept with
          | cons first kept => rwa [List.getLast?_cons_cons]
          | nil =>
              -- Nothing is kept of the rest, so it starts with a slash, and `c` is none.
              obtain ⟨more, hmore⟩ := hhead []
              have hrest := hkept []
              rw [hmore] at hrest
              rw [List.getLast?_singleton, ne_eq, Option.some.injEq]
              rintro rfl
              have hd : d ≠ '/' := fun hd => hboth ⟨rfl, hd⟩
              rw [collapseSlashes] at hrest
              · exact hd (List.cons.inj hrest).1
              · rintro more rfl
                exact absurd rfl hd
        · obtain ⟨more, hmore⟩ := hhead after
          rw [List.cons_append, hmore, collapseSlashes_cons more hboth, ← hmore, hkept]
          rfl

/-- A route that starts with a slash keeps one, whatever number of slashes there was. -/
theorem collapseSlashes_slash (after : List Char) :
    ∃ rest, collapseSlashes ('/' :: after) = '/' :: rest := by
  induction after with
  | nil => exact ⟨[], rfl⟩
  | cons c after ih =>
      by_cases hslash : c = '/'
      · rw [hslash, collapseSlashes]
        exact ih
      · exact ⟨_, collapseSlashes_cons after fun h => hslash h.2⟩

/-- The separator at the end is dropped after anything. -/
theorem dropTrailingSlash_concat {route : List Char} (h : route ≠ []) :
    dropTrailingSlash (route ++ ['/']) = route := by
  obtain ⟨before, rest, hreverse⟩ := List.exists_cons_of_ne_nil (List.reverse_ne_nil_iff.mpr h)
  rw [dropTrailingSlash, List.reverse_append, hreverse]
  show (before :: rest).reverse = route
  rw [← hreverse, List.reverse_reverse]

/-- A route that does not end in a separator is left alone. -/
theorem dropTrailingSlash_of_ne {route : List Char} {c : Char} (h : c ≠ '/') :
    dropTrailingSlash (route ++ [c]) = route ++ [c] := by
  rw [dropTrailingSlash, List.reverse_concat]
  split
  · rename_i heq
    exact absurd (List.cons.inj heq).1 h
  · rfl

/-- What a route that starts with a slash becomes does not depend on what stands before it. -/
theorem dropTrailingSlash_append {kept rest : List Char} (hkept : kept ≠ [])
    (hrest : rest ≠ []) :
    ∃ last, dropTrailingSlash (kept ++ '/' :: rest) = kept ++ '/' :: last ∧
      dropTrailingSlash ('/' :: rest) = '/' :: last := by
  obtain ⟨last, c, rfl⟩ := (List.eq_nil_or_concat rest).resolve_left hrest
  by_cases hslash : c = '/'
  · refine ⟨last, ?_, ?_⟩
    · rw [hslash, List.concat_eq_append, ← List.cons_append, ← List.append_assoc]
      exact dropTrailingSlash_concat (List.append_ne_nil_of_left_ne_nil hkept _)
    · rw [hslash, List.concat_eq_append, ← List.cons_append]
      exact dropTrailingSlash_concat (List.cons_ne_nil _ _)
  · refine ⟨last ++ [c], ?_, ?_⟩
    · rw [List.concat_eq_append, ← List.cons_append, ← List.append_assoc]
      exact dropTrailingSlash_of_ne hslash
    · rw [List.concat_eq_append, ← List.cons_append]
      exact dropTrailingSlash_of_ne hslash

/-- The characters that a route is made of, before separators are looked at. -/
def decodedPath (path : String) : List Char := (percentDecodeAscii (bytes path)).map Char.toLower

/-- The route of a path, with its decoded characters by name. -/
theorem semanticRoute_eq (path : String) :
    semanticRoute path = String.ofList (dropTrailingSlash (collapseSlashes (decodedPath path))) :=
  rfl

/-- The decoded characters on both sides of a slash do not depend on each other. -/
theorem decodedPath_slash (before after : String) :
    decodedPath (before ++ "/" ++ after) = decodedPath before ++ '/' :: decodedPath after := by
  have hslash : bytes "/" = [47] := by decide
  have hlower : Char.toLower '/' = '/' := by decide
  rw [decodedPath, bytes_append, bytes_append, hslash, List.append_assoc, List.singleton_append,
    percentDecodeAscii_slash, List.map_append, List.map_cons, hlower]
  rfl

/-- A path below the root is decoded with its slash. -/
theorem decodedPath_root (added : String) :
    decodedPath ("/" ++ added) = '/' :: decodedPath added := by
  have hslash := decodedPath_slash "" added
  rwa [String.empty_append] at hslash

/-- What stands below a base has, relative to it, the route it has below the root. -/
theorem relativeRoute_append (base added : String) :
    relativeRoute (semanticRoute (base ++ "/")) (semanticRoute (base ++ "/" ++ added)) =
      some (semanticRoute ("/" ++ added)) := by
  have hbase : decodedPath (base ++ "/") = decodedPath base ++ ['/'] := by
    have hslash := decodedPath_slash base ""
    rwa [String.append_empty] at hslash
  obtain ⟨kept, hlast, hkept⟩ := collapseSlashes_append (decodedPath base)
  obtain ⟨rest, hrest⟩ := collapseSlashes_slash (decodedPath added)
  have hsingle : collapseSlashes ['/'] = ['/'] := rfl
  simp only [semanticRoute_eq, decodedPath_slash, hbase, decodedPath_root, hkept, hrest, hsingle]
  -- A base that collapses to the root leaves the route as it is.
  by_cases hempty : kept = []
  · rw [hempty]
    rfl
  rw [dropTrailingSlash_concat hempty]
  have hnotRoot : ¬ (String.ofList kept == "/") = true := by
    rw [beq_iff_eq]
    intro hroot
    rw [String.ofList_inj.mp (hroot.trans (show "/" = String.ofList ['/'] by rfl))] at hlast
    exact hlast rfl
  rw [relativeRoute, if_neg hnotRoot]
  -- Nothing but slashes was added, so the route is the base itself.
  by_cases hnone : rest = []
  · rw [hnone, dropTrailingSlash_concat hempty, if_pos (beq_self_eq_true _)]
    rfl
  obtain ⟨last, hresponse, hdummy⟩ := dropTrailingSlash_append hempty hnone
  have hdiffers : ¬ (String.ofList (kept ++ '/' :: last) == String.ofList kept) = true := by
    rw [beq_iff_eq, String.ofList_inj]
    intro heq
    have hlength := congrArg List.length heq
    rw [List.length_append, List.length_cons] at hlength
    omega
  rw [hresponse, hdummy, if_neg hdiffers]
  have hsplit : String.ofList (kept ++ '/' :: last) =
      String.ofList kept ++ "/" ++ String.ofList last := by
    rw [← List.singleton_append, String.ofList_append, String.ofList_append]
    exact String.append_assoc.symm
  rw [hsplit, stripPrefixStr_append, Option.map_some, ← List.singleton_append,
    String.ofList_append]

/-! ## The form of a route -/

/-- Collapsing keeps the first character. -/
theorem head?_collapseSlashes (l : List Char) : (collapseSlashes l).head? = l.head? := by
  induction l using collapseSlashes.induct with
  | case1 rest ih => rw [collapseSlashes, ih]; rfl
  | case2 c rest hnot => rw [collapseSlashes_of_not hnot]; rfl
  | case3 => rfl

/-- Of two separators in a row one is dropped, so that a collapsed route does not end in two. -/
theorem collapseSlashes_last {l init : List Char} (h : collapseSlashes l = init ++ ['/']) :
    init.getLast? ≠ some '/' := by
  induction l using collapseSlashes.induct generalizing init with
  | case1 rest ih =>
      rw [collapseSlashes] at h
      exact ih h
  | case2 c rest hnot ih =>
      rw [collapseSlashes_of_not hnot] at h
      cases init with
      | nil => exact nofun
      | cons first init =>
          rw [List.cons_append] at h
          obtain ⟨rfl, hrest⟩ := List.cons.inj h
          cases init with
          | cons second init =>
              rw [List.getLast?_cons_cons]
              exact ih hrest
          | nil =>
              -- What follows starts with a separator, so this is none.
              have hhead := head?_collapseSlashes rest
              rw [hrest] at hhead
              obtain ⟨more, rfl⟩ := List.head?_eq_some_iff.mp hhead.symm
              rw [List.getLast?_singleton, ne_eq, Option.some.injEq]
              rintro rfl
              exact hnot more rfl rfl
  | case3 => cases init <;> cases h

/-- A path that starts with a slash has a route that does, and that ends with another one only
if it is the whole route. -/
theorem semanticRoute_form {path : String} (h : startsWith path "/" = true) :
    ∃ last, semanticRoute path = "/" ++ last ∧ last.toList.getLast? ≠ some '/' := by
  obtain ⟨added, rfl⟩ := startsWith_iff.mp h
  have hcons : ∀ last, String.ofList ('/' :: last) = "/" ++ String.ofList last := by
    intro last
    rw [← List.singleton_append, String.ofList_append]
  obtain ⟨rest, hrest⟩ := collapseSlashes_slash (decodedPath added)
  rw [semanticRoute_eq, decodedPath_root, hrest]
  rcases List.eq_nil_or_concat rest with rfl | ⟨last, c, rfl⟩
  · exact ⟨"", rfl, nofun⟩
  · rw [List.concat_eq_append, ← List.cons_append]
    by_cases hslash : c = '/'
    · refine ⟨String.ofList last, ?_, ?_⟩
      · rw [hslash, dropTrailingSlash_concat (List.cons_ne_nil _ _), hcons]
      · rw [hslash, List.concat_eq_append, ← List.cons_append] at hrest
        rw [String.toList_ofList]
        intro hlast
        -- Slashes were collapsed, so that below the last one there is no other.
        apply collapseSlashes_last hrest
        rw [List.getLast?_cons, hlast]
        rfl
    · refine ⟨String.ofList (last ++ [c]), ?_, ?_⟩
      · rw [dropTrailingSlash_of_ne hslash, List.cons_append, hcons]
      · rw [String.toList_ofList, List.getLast?_concat, ne_eq, Option.some.injEq]
        exact hslash

/-! ## Routes relative to a base -/

/-- The route of a base, with the root read as nothing. -/
def basePrefix (base : Url) : String :=
  if semanticRoute base.pathString = "/" then "" else semanticRoute base.pathString

/-- A text after which nothing is added. -/
theorem eq_empty_of_append_eq {a b : String} (h : a ++ b = a) : b = "" := by
  have hlists := congrArg String.toList h
  rw [String.toList_append, List.append_right_eq_self] at hlists
  exact String.toList_inj.mp hlists

/-- The route below a prefix, case by case: at the prefix itself it is the root, and else what
follows it. -/
theorem relativeRoute_eq_some {route below r : String} (hroute : startsWith route "/" = true)
    (hbelow : ∃ last, below = "/" ++ last ∧ last.toList.getLast? ≠ some '/') :
    relativeRoute route below = some r ↔
      (route ≠ "/" ∧ r = "/" ∧ below = route) ∨
        ((route = "/" ∨ r ≠ "/") ∧ startsWith r "/" = true ∧
          below = (if route = "/" then "" else route) ++ r) := by
  obtain ⟨last, hbelow, hlast⟩ := hbelow
  unfold relativeRoute
  by_cases hroot : route = "/"
  · have hstarts : startsWith below "/" = true := startsWith_iff.mpr ⟨last, hbelow⟩
    simp only [hroot, beq_self_eq_true, if_true, ne_eq, not_true, false_and, false_or, true_or,
      true_and, String.empty_append, Option.some.injEq]
    constructor
    · rintro rfl
      exact ⟨hstarts, rfl⟩
    · rintro ⟨-, rfl⟩
      rfl
  · rw [if_neg (by rw [beq_iff_eq]; exact hroot)]
    simp only [hroot, ne_eq, not_false_eq_true, true_and, false_or, if_false]
    by_cases hsame : below = route
    · rw [if_pos (by rw [beq_iff_eq]; exact hsame), Option.some.injEq]
      constructor
      · rintro rfl
        exact .inl ⟨rfl, hsame⟩
      · rintro (⟨rfl, -⟩ | ⟨-, hstarts, hsplit⟩)
        · rfl
        · -- Nothing follows the prefix, and a route is not nothing.
          rw [eq_empty_of_append_eq (hsplit.symm.trans hsame)] at hstarts
          cases hstarts
    · rw [if_neg (by rw [beq_iff_eq]; exact hsame), Option.map_eq_some_iff]
      simp only [stripPrefixStr_eq_some, hsame, and_false, false_or]
      constructor
      · rintro ⟨rest, hsplit, rfl⟩
        refine ⟨?_, startsWith_iff.mpr ⟨rest, rfl⟩, by rw [hsplit, String.append_assoc]⟩
        intro hrest
        -- The route would end with a separator, which only the root does.
        rw [eq_empty_of_append_eq hrest, String.append_empty] at hsplit
        obtain ⟨more, rfl⟩ := startsWith_iff.mp hroute
        have hlists : '/' :: last.toList = '/' :: (more.toList ++ ['/']) := by
          have hlists := congrArg String.toList (hbelow.symm.trans hsplit)
          rwa [String.toList_append, String.toList_append, String.toList_append] at hlists
        rw [(List.cons.inj hlists).2] at hlast
        exact hlast List.getLast?_concat
      · rintro ⟨-, hstarts, hsplit⟩
        obtain ⟨rest, rfl⟩ := startsWith_iff.mp hstarts
        exact ⟨rest, by rw [hsplit, String.append_assoc], rfl⟩

/-- A route that starts with a separator is not empty. -/
theorem ne_empty_of_startsWith_slash {route : String} (h : startsWith route "/" = true) :
    route ≠ "" := by
  rintro rfl
  cases h

/-- The route of a path starts with a separator. -/
theorem startsWith_semanticRoute {path : String} (h : startsWith path "/" = true) :
    startsWith (semanticRoute path) "/" = true := by
  obtain ⟨last, hlast, -⟩ := semanticRoute_form h
  exact startsWith_iff.mpr ⟨last, hlast⟩

/-- Only the root is read as nothing. -/
theorem basePrefix_eq_empty_iff {base : Url} (h : startsWith base.pathString "/" = true) :
    basePrefix base = "" ↔ semanticRoute base.pathString = "/" := by
  unfold basePrefix
  split
  · rename_i hroot
    exact iff_of_true rfl hroot
  · rename_i hnot
    exact iff_of_false (ne_empty_of_startsWith_slash (startsWith_semanticRoute h)) hnot

/-- A response of another origin has no route below the base. -/
theorem semanticRouteRelativeToBase_of_ne {base response : Url}
    (h : response.origin ≠ base.origin) : semanticRouteRelativeToBase base response = none := by
  rw [semanticRouteRelativeToBase, if_pos fun hsame => h hsame.symm]

/-- The route of a response of the same origin. -/
theorem semanticRouteRelativeToBase_of_eq {base response : Url}
    (h : response.origin = base.origin) :
    semanticRouteRelativeToBase base response =
      relativeRoute (semanticRoute base.pathString) (semanticRoute response.pathString) := by
  rw [semanticRouteRelativeToBase, if_neg fun hother => hother h.symm]

/-- The two ways in which a response of the same origin has a route: it is at the base, or what
follows the base is the route. -/
theorem semanticRouteRelativeToBase_eq_some {base response : Url}
    (horigin : response.origin = base.origin) (hbase : startsWith base.pathString "/" = true)
    (hresponse : startsWith response.pathString "/" = true) (r : String) :
    semanticRouteRelativeToBase base response = some r ↔
      (basePrefix base ≠ "" ∧ r = "/" ∧ semanticRoute response.pathString = basePrefix base) ∨
      ((basePrefix base = "" ∨ r ≠ "/") ∧ startsWith r "/" = true ∧
        semanticRoute response.pathString = basePrefix base ++ r) := by
  rw [semanticRouteRelativeToBase_of_eq horigin,
    relativeRoute_eq_some (startsWith_semanticRoute hbase) (semanticRoute_form hresponse)]
  simp only [ne_eq, basePrefix_eq_empty_iff hbase]
  refine or_congr (and_congr_right fun hnot => ?_) Iff.rfl
  rw [basePrefix, if_neg hnot]

/-- Relative to a base, a response at the base path and more has the route of what is more. A
response has the route `/` below a base that is not the root if and only if it is at the base,
another route if and only if it is at the base followed by that route, and none otherwise. The
path of an HTTP URL starts with a slash. -/
theorem semanticRouteRelativeToBase_exact (base : BaseUrl) (response : Url)
    (hstarts : startsWith base.url.pathString "/" = true)
    (hends : endsWith base.url.pathString "/" = true)
    (hresponse : response.origin = base.url.origin →
      startsWith response.pathString "/" = true) :
    (∀ added, response.origin = base.url.origin →
      response.pathString = base.url.pathString ++ added →
      semanticRouteRelativeToBase base.url response = some (semanticRoute ("/" ++ added))) ∧
    (basePrefix base.url ≠ "" →
      (semanticRouteRelativeToBase base.url response = some "/" ↔
        response.origin = base.url.origin ∧
          semanticRoute response.pathString = basePrefix base.url)) ∧
    (∀ r, basePrefix base.url = "" ∨ r ≠ "/" →
      (semanticRouteRelativeToBase base.url response = some r ↔
        response.origin = base.url.origin ∧ startsWith r "/" = true ∧
          semanticRoute response.pathString = basePrefix base.url ++ r)) ∧
    (semanticRouteRelativeToBase base.url response = none ↔
      response.origin ≠ base.url.origin ∨
        (semanticRoute response.pathString ≠ basePrefix base.url ∧
          ∀ r, basePrefix base.url = "" ∨ r ≠ "/" → startsWith r "/" = true →
            semanticRoute response.pathString ≠ basePrefix base.url ++ r)) := by
  by_cases horigin : response.origin = base.url.origin
  swap
  · simp only [semanticRouteRelativeToBase_of_ne horigin, horigin, reduceCtorEq, false_and,
      false_implies, implies_true, ne_eq, not_false_eq_true, true_or, and_self]
  have hslash := hresponse horigin
  have hsome := semanticRouteRelativeToBase_eq_some horigin hstarts hslash
  refine ⟨?_, ?_, ?_, ?_⟩
  · intro added _ hpath
    obtain ⟨before, hbefore⟩ := endsWith_iff.mp hends
    rw [semanticRouteRelativeToBase_of_eq horigin, hpath, hbefore]
    exact relativeRoute_append before added
  · intro hbelow
    simp only [hsome, horigin, hbelow, ne_eq, not_false_eq_true, true_and, not_true, or_self,
      false_and, or_false]
  · intro r hr
    rw [hsome]
    constructor
    · rintro (⟨hbelow, rfl, -⟩ | ⟨-, hr, hsplit⟩)
      · exact absurd rfl (hr.resolve_left hbelow)
      · exact ⟨horigin, hr, hsplit⟩
    · rintro ⟨-, hstarts, hsplit⟩
      exact .inr ⟨hr, hstarts, hsplit⟩
  · rw [Option.eq_none_iff_forall_ne_some]
    simp only [ne_eq, hsome, not_or, horigin, not_true, false_or]
    constructor
    · intro hnone
      refine ⟨?_, fun r hr hstarts hsplit => (hnone r).2 ⟨hr, hstarts, hsplit⟩⟩
      intro hat
      -- A response at the base has the route `/`: the prefix it equals is a route, not nothing.
      have hnonempty := ne_empty_of_startsWith_slash (startsWith_semanticRoute hslash)
      rw [hat] at hnonempty
      exact (hnone "/").1 ⟨hnonempty, rfl, hat⟩
    · rintro ⟨hat, hsplit⟩ r
      exact ⟨fun h => hat h.2.2, fun h => hsplit r h.1 h.2.1 h.2.2⟩

/-- The default base. -/
def publicBase : BaseUrl where
  url :=
    { scheme := "https", host := some "api.trustedrouter.com", path := .segments ["v1", ""] }
  http := .inr rfl
  host := rfl
  slash := rfl

/-- A response below it, with one segment spelled otherwise. -/
def publicResponse : Url :=
  { scheme := "https", host := some "api.trustedrouter.com"
    path := .segments ["%761", "Chat", "completions"] }

/-- A response of the default base is on the chat route. -/
theorem semanticRouteRelativeToBase_public :
    semanticRouteRelativeToBase publicBase.url publicResponse = some "/chat/completions" := by
  have hexact := semanticRouteRelativeToBase_exact publicBase publicResponse (by decide)
    (by decide) (by decide)
  exact (hexact.2.2.1 "/chat/completions" (.inr (by decide))).mpr ⟨rfl, by decide, by decide⟩

/-! ## Other spellings of a path -/

/-- A letter in the other case. -/
def OtherCase (b other : UInt8) : Prop :=
  (65 ≤ b.toNat ∧ b.toNat ≤ 90 ∧ other.toNat = b.toNat + 32) ∨
    (97 ≤ b.toNat ∧ b.toNat ≤ 122 ∧ b.toNat = other.toNat + 32)

/-- The ways to write a byte: itself or the other case of a letter, as it is or escaped, with
hexadecimal digits of either case. -/
inductive Spells (b : UInt8) : Rust.Bytes → Prop
  | raw {c : UInt8} (hcase : c = b ∨ OtherCase b c) : Spells b [c]
  | escaped {c high low : UInt8} {h l : Nat} (hcase : c = b ∨ OtherCase b c)
      (hhigh : hexValue high = some h) (hlow : hexValue low = some l)
      (hvalue : c.toNat = h * 16 + l) : Spells b [37, high, low]

/-- Separators, raw or escaped, and how many there are. -/
inductive Separators : Nat → Rust.Bytes → Prop
  | none : Separators 0 []
  | raw {n : Nat} {rest : Rust.Bytes} (h : Separators n rest) : Separators (n + 1) (47 :: rest)
  | escaped {n : Nat} {rest : Rust.Bytes} {low : UInt8} (hlow : low = 70 ∨ low = 102)
      (h : Separators n rest) : Separators (n + 1) (37 :: 50 :: low :: rest)

/-- A path and another spelling of it: each byte in some way, one or more separators for each
one, and any number of separators at the end. -/
inductive Respells : Rust.Bytes → Rust.Bytes → Prop
  | done {n : Nat} {separators : Rust.Bytes} (h : Separators n separators) :
      Respells [] separators
  | byte {b : UInt8} {spelled rest more : Rust.Bytes} (hb : b ≠ 47) (h : Spells b spelled)
      (hrest : Respells rest more) : Respells (b :: rest) (spelled ++ more)
  | slash {n : Nat} {separators rest more : Rust.Bytes} (h : Separators (n + 1) separators)
      (hrest : Respells rest more) : Respells (47 :: rest) (separators ++ more)

/-- The characters of a path, and those of another spelling: more separators where there is one
and at the end. -/
inductive Stretches : List Char → List Char → Prop
  | done (n : Nat) : Stretches [] (List.replicate n '/')
  | char {c : Char} {chars more : List Char} (hc : c ≠ '/') (h : Stretches chars more) :
      Stretches (c :: chars) (c :: more)
  | slash (n : Nat) {chars more : List Char} (h : Stretches chars more) :
      Stretches ('/' :: chars) (List.replicate (n + 1) '/' ++ more)

/-- The case of a letter is folded away. -/
theorem toLower_of_otherCase {b c : UInt8} (h : c = b ∨ OtherCase b c) :
    (Char.ofNat c.toNat).toLower = (Char.ofNat b.toNat).toLower := by
  have hletters : ∀ n < 91, 65 ≤ n →
      (Char.ofNat n).toLower = (Char.ofNat (n + 32)).toLower := by decide
  rcases h with rfl | ⟨hlow, hhigh, hother⟩ | ⟨hlow, hhigh, hother⟩
  · rfl
  · rw [hother]
    exact (hletters _ (by omega) hlow).symm
  · rw [hother]
    exact hletters _ (by omega) (by omega)

/-- A byte that is no percent sign is decoded as it is. -/
theorem percentDecodeAscii_raw {b : UInt8} (h : b ≠ 37) (rest : Rust.Bytes) :
    percentDecodeAscii (b :: rest) = Char.ofNat b.toNat :: percentDecodeAscii rest :=
  percentDecodeAscii_literal fun _ _ _ hpercent => absurd hpercent h

/-- An escape is decoded to the character of its number. -/
theorem percentDecodeAscii_escape {high low : UInt8} {h l : Nat} (hhigh : hexValue high = some h)
    (hlow : hexValue low = some l) (rest : Rust.Bytes) :
    percentDecodeAscii (37 :: high :: low :: rest) =
      Char.ofNat (h * 16 + l) :: percentDecodeAscii rest := by
  simp only [percentDecodeAscii, hhigh, hlow]

/-- A byte in any spelling is decoded to itself, but for the case. -/
theorem percentDecodeAscii_spells {b : UInt8} {spelled : Rust.Bytes} (h : Spells b spelled)
    (hb : b ≠ 37) (rest : Rust.Bytes) :
    (percentDecodeAscii (spelled ++ rest)).map Char.toLower =
      (Char.ofNat b.toNat).toLower :: (percentDecodeAscii rest).map Char.toLower := by
  cases h with
  | @raw c hcase =>
      have hc : c ≠ 37 := by
        rintro rfl
        rcases hcase with heq | ⟨hlow, -, hother⟩ | ⟨hlow, -, hother⟩
        · exact hb heq.symm
        · rw [show (37 : UInt8).toNat = 37 from rfl] at hother
          omega
        · rw [show (37 : UInt8).toNat = 37 from rfl] at hother
          omega
      rw [List.singleton_append, percentDecodeAscii_raw hc, List.map_cons,
        toLower_of_otherCase hcase]
  | @escaped c high low h l hcase hhigh hlow hvalue =>
      show (percentDecodeAscii (37 :: high :: low :: rest)).map Char.toLower = _
      rw [percentDecodeAscii_escape hhigh hlow, List.map_cons, ← hvalue,
        toLower_of_otherCase hcase]

/-- Separators in any spelling are decoded to as many slashes, by induction on how they are
written. -/
theorem percentDecodeAscii_separators {n : Nat} {separators : Rust.Bytes}
    (h : Separators n separators) (rest : Rust.Bytes) :
    (percentDecodeAscii (separators ++ rest)).map Char.toLower =
      List.replicate n '/' ++ (percentDecodeAscii rest).map Char.toLower := by
  induction h with
  | none => rfl
  | raw _ ih =>
      rw [List.cons_append, percentDecodeAscii_raw (by decide), List.map_cons, ih]
      rfl
  | @escaped n more low hlow _ ih =>
      have hvalue : hexValue low = some 15 := by
        rcases hlow with rfl | rfl <;> rfl
      show (percentDecodeAscii (37 :: 50 :: low :: (more ++ rest))).map Char.toLower = _
      rw [percentDecodeAscii_escape (show hexValue 50 = some 2 from rfl) hvalue, List.map_cons, ih]
      rfl

/-- No byte but a slash is decoded to one. -/
theorem toLower_ne_slash {b : UInt8} (h : b ≠ 47) : (Char.ofNat b.toNat).toLower ≠ '/' := by
  have hbytes : ∀ n < 256, n ≠ 47 → (Char.ofNat n).toLower ≠ '/' := by
    decide +kernel
  refine hbytes b.toNat b.toNat_lt fun hn => h ?_
  exact UInt8.toNat_inj.mp hn

/-- What another spelling of a path is decoded to: the same characters, with more separators where
there is one and at the end. The path has no percent sign, so that each of its bytes stands for
itself. -/
theorem stretches_of_respells {path other : Rust.Bytes} (h : Respells path other)
    (hpercent : 37 ∉ path) :
    Stretches ((percentDecodeAscii path).map Char.toLower)
      ((percentDecodeAscii other).map Char.toLower) := by
  induction h with
  | @done n separators hseparators =>
      have hdecoded := percentDecodeAscii_separators hseparators []
      rw [List.append_nil, percentDecodeAscii, List.map_nil, List.append_nil] at hdecoded
      rw [hdecoded]
      exact .done n
  | @byte b spelled rest more hb hspells _ ih =>
      rw [List.mem_cons, not_or] at hpercent
      rw [percentDecodeAscii_spells hspells (Ne.symm hpercent.1),
        percentDecodeAscii_raw (Ne.symm hpercent.1), List.map_cons]
      exact .char (toLower_ne_slash hb) (ih hpercent.2)
  | @slash n separators rest more hseparators _ ih =>
      rw [List.mem_cons, not_or] at hpercent
      rw [percentDecodeAscii_separators hseparators, percentDecodeAscii_raw (by decide),
        List.map_cons]
      exact .slash n (ih hpercent.2)

/-- Many separators are as good as one. -/
theorem collapseSlashes_replicate (n : Nat) (rest : List Char) :
    collapseSlashes (List.replicate (n + 1) '/' ++ rest) = collapseSlashes ('/' :: rest) := by
  induction n with
  | zero => rfl
  | succ n ih =>
      have htwo : List.replicate (n + 1 + 1) '/' ++ rest =
          '/' :: '/' :: (List.replicate n '/' ++ rest) := rfl
      rw [htwo, collapseSlashes]
      exact ih

/-- After any character, stretching a path changes nothing or adds one separator at the end. -/
theorem collapseSlashes_stretches {chars more : List Char} (h : Stretches chars more) (c : Char) :
    collapseSlashes (c :: more) = collapseSlashes (c :: chars) ∨
      collapseSlashes (c :: more) = collapseSlashes (c :: chars) ++ ['/'] := by
  induction h generalizing c with
  | done n =>
      -- Separators at the end collapse into the character before them, if it is one, or to one.
      cases n with
      | zero => exact .inl rfl
      | succ n =>
          have hmany := collapseSlashes_replicate n []
          rw [List.append_nil] at hmany
          by_cases hslash : c = '/'
          · refine .inl ?_
            rw [hslash]
            have htwo : '/' :: List.replicate (n + 1) '/' = List.replicate (n + 1 + 1) '/' := rfl
            have hall := collapseSlashes_replicate (n + 1) []
            rw [List.append_nil] at hall
            rw [htwo, hall]
          · refine .inr ?_
            rw [collapseSlashes_of_not fun _ h => absurd h hslash, hmany,
              collapseSlashes_of_not fun _ h => absurd h hslash]
            rfl
  | @char d chars more hd _ ih =>
      have hnot : ¬ (c = '/' ∧ d = '/') := fun h => hd h.2
      rw [collapseSlashes_cons more hnot, collapseSlashes_cons chars hnot]
      rcases ih d with hsame | hmore
      · exact .inl (by rw [hsame])
      · exact .inr (by rw [hmore]; rfl)
  | @slash n chars more _ ih =>
      by_cases hslash : c = '/'
      · have hall := collapseSlashes_replicate (n + 1) more
        rw [hslash, show '/' :: (List.replicate (n + 1) '/' ++ more) =
          List.replicate (n + 1 + 1) '/' ++ more from rfl, hall,
          show collapseSlashes ('/' :: '/' :: chars) = collapseSlashes ('/' :: chars) from by
            rw [collapseSlashes]]
        exact ih '/'
      · rw [collapseSlashes_of_not fun _ h => absurd h hslash, collapseSlashes_replicate,
          collapseSlashes_of_not fun _ h => absurd h hslash]
        rcases ih '/' with hsame | hmore
        · exact .inl (by rw [hsame])
        · exact .inr (by rw [hmore]; rfl)

/-- A separator that collapsing leaves at the end is dropped anyway, so that a stretched path has
the same route. -/
theorem dropTrailingSlash_stretches {chars more : List Char} (h : Stretches ('/' :: chars) more) :
    dropTrailingSlash (collapseSlashes more) =
      dropTrailingSlash (collapseSlashes ('/' :: chars)) := by
  cases h with
  | char hc _ => exact absurd rfl hc
  | @slash n _ more hrest =>
      rw [collapseSlashes_replicate]
      rcases collapseSlashes_stretches hrest '/' with hsame | hmore
      · rw [hsame]
      · -- The route without it does not end with a separator, or two would have been kept.
        have hlast := collapseSlashes_last hmore
        obtain ⟨rest, hstarts⟩ := collapseSlashes_slash chars
        rw [hmore, hstarts, dropTrailingSlash_concat (List.cons_ne_nil _ _)]
        rw [hstarts] at hlast
        rcases List.eq_nil_or_concat rest with rfl | ⟨init, c, rfl⟩
        · exact absurd rfl hlast
        · rw [List.concat_eq_append, ← List.cons_append] at hlast ⊢
          rw [List.getLast?_concat, ne_eq, Option.some.injEq] at hlast
          rw [dropTrailingSlash_of_ne hlast]

/-- A character of a text that is one byte is one of its bytes. -/
theorem mem_bytes_of_mem {text : String} {c : Char} {b : UInt8}
    (hb : String.utf8EncodeChar c = [b]) (h : c ∈ text.toList) : b ∈ bytes text := by
  rw [bytes_eq_flatMap, List.mem_flatMap]
  exact ⟨c, h, by rw [hb]; exact List.mem_singleton_self b⟩

/-- The bytes of separators: slashes, percent signs and hex digits. -/
theorem mem_of_separators {n : Nat} {separators : Rust.Bytes} (h : Separators n separators)
    {b : UInt8} (hmem : b ∈ separators) : b = 37 ∨ b = 47 ∨ (hexValue b).isSome = true := by
  induction h with
  | none => cases hmem
  | raw _ ih =>
      rcases List.mem_cons.mp hmem with rfl | hmem
      · exact .inr (.inl rfl)
      · exact ih hmem
  | escaped hlow _ ih =>
      simp only [List.mem_cons] at hmem
      rcases hmem with rfl | rfl | rfl | hmem
      · exact .inl rfl
      · exact .inr (.inr rfl)
      · rcases hlow with rfl | rfl
        · exact .inr (.inr rfl)
        · exact .inr (.inr rfl)
      · exact ih hmem

/-- The bytes of another spelling: letters and digits, percent signs, slashes, and what the path
has. -/
theorem mem_of_respells {path other : Rust.Bytes} (h : Respells path other) {b : UInt8}
    (hmem : b ∈ other) :
    b ∈ path ∨ b = 37 ∨ b = 47 ∨ (hexValue b).isSome = true ∨ ∃ letter, OtherCase letter b := by
  induction h with
  | done h =>
      rcases mem_of_separators h hmem with h | h | h
      · exact .inr (.inl h)
      · exact .inr (.inr (.inl h))
      · exact .inr (.inr (.inr (.inl h)))
  | @byte first spelled rest more _ hspells _ ih =>
      -- A byte is spelled as itself, in the other case or as an escape.
      rcases List.mem_append.mp hmem with hmem | hmem
      · cases hspells with
        | raw hcase =>
            rw [List.mem_singleton.mp hmem]
            rcases hcase with rfl | hcase
            · exact .inl List.mem_cons_self
            · exact .inr (.inr (.inr (.inr ⟨_, hcase⟩)))
        | escaped _ hhigh hlow _ =>
            simp only [List.mem_cons, List.not_mem_nil, or_false] at hmem
            rcases hmem with rfl | rfl | rfl
            · exact .inr (.inl rfl)
            · exact .inr (.inr (.inr (.inl (by rw [hhigh]; rfl))))
            · exact .inr (.inr (.inr (.inl (by rw [hlow]; rfl))))
      · exact (ih hmem).imp_left (List.mem_cons_of_mem _)
  | slash h _ ih =>
      rcases List.mem_append.mp hmem with hmem | hmem
      · rcases mem_of_separators h hmem with h | h | h
        · exact .inr (.inl h)
        · exact .inr (.inr (.inl h))
        · exact .inr (.inr (.inr (.inl h)))
      · exact (ih hmem).imp_left (List.mem_cons_of_mem _)

/-- No spelling brings a query or a fragment in: the two bytes are neither letters nor digits, and
a spelling has a new byte only there. -/
theorem not_mem_of_respells {path other : Rust.Bytes} (h : Respells path other) {b : UInt8}
    (hb : b = 63 ∨ b = 35) (hpath : b ∉ path) : b ∉ other := by
  intro hmem
  rcases mem_of_respells h hmem with hmem | rfl | rfl | hhex | ⟨letter, hcase⟩
  · exact hpath hmem
  · revert hb; decide
  · revert hb; decide
  · rcases hb with rfl | rfl <;> cases hhex
  · rcases hb with rfl | rfl <;> rcases hcase with ⟨_, _, hother⟩ | ⟨_, _, hother⟩ <;>
      simp at hother <;> omega

/-- A path without a query and a fragment is looked at as a whole. -/
theorem trackedInferencePath_eq {path : String} (hquery : 63 ∉ bytes path)
    (hfragment : 35 ∉ bytes path) :
    trackedInferencePath path =
      (let excluded := fun name => endsWith (semanticRoute path) name ||
        containsStr (semanticRoute path) (name ++ "/")
      !excluded "/attestation" && !excluded "/internal/gateway/authorize") := by
  have hwhole : path.toList.takeWhile (fun c => c != '?' && c != '#') = path.toList := by
    rw [List.takeWhile_eq_self_iff]
    intro c hc
    rw [Bool.and_eq_true, bne_iff_ne, bne_iff_ne]
    constructor
    · rintro rfl
      exact hquery (mem_bytes_of_mem (by decide) hc)
    · rintro rfl
      exact hfragment (mem_bytes_of_mem (by decide) hc)
  rw [trackedInferencePath, hwhole, String.ofList_toList]

/-- A path that ends in a name keeps it at the end of its route. -/
theorem endsWith_semanticRoute {path name : String} (h : endsWith path ("/" ++ name) = true)
    (hname : collapseSlashes ('/' :: decodedPath name) = '/' :: name.toList)
    {init : List Char} {c : Char} (hlast : name.toList = init ++ [c]) (hc : c ≠ '/') :
    endsWith (semanticRoute path) ("/" ++ name) = true := by
  obtain ⟨before, rfl⟩ := endsWith_iff.mp h
  obtain ⟨kept, -, hkept⟩ := collapseSlashes_append (decodedPath before)
  rw [← String.append_assoc, semanticRoute_eq, decodedPath_slash, hkept, hname, hlast,
    ← List.cons_append, ← List.append_assoc, dropTrailingSlash_of_ne hc, endsWith,
    String.toList_ofList, List.isSuffixOf_iff_suffix]
  refine ⟨kept, ?_⟩
  rw [String.toList_append, hlast]
  simp

/-- No other spelling of a path changes its route, nor whether telemetry covers it. In
particular no spelling of the attestation and authorize routes is covered. -/
theorem semanticRoute_respells {path other : String} (hstarts : startsWith path "/" = true)
    (hplain : ∀ b ∈ bytes "%?#", b ∉ bytes path) (h : Respells (bytes path) (bytes other)) :
    semanticRoute other = semanticRoute path ∧
      trackedInferencePath other = trackedInferencePath path ∧
      (endsWith path "/attestation" = true ∨
          endsWith path "/internal/gateway/authorize" = true →
        trackedInferencePath other = false) := by
  have hbytes : bytes "%?#" = [37, 63, 35] := by decide
  simp only [hbytes, List.forall_mem_cons, List.not_mem_nil, false_implies, implies_true,
    and_true] at hplain
  obtain ⟨hpercent, hquery, hfragment⟩ := hplain
  -- Both decode to the same text, up to the length of stretches of slashes.
  have hroute : semanticRoute other = semanticRoute path := by
    obtain ⟨added, rfl⟩ := startsWith_iff.mp hstarts
    have hstretches := stretches_of_respells h hpercent
    rw [show (percentDecodeAscii (bytes ("/" ++ added))).map Char.toLower =
      decodedPath ("/" ++ added) from rfl, decodedPath_root] at hstretches
    rw [semanticRoute_eq, semanticRoute_eq, decodedPath_root,
      ← dropTrailingSlash_stretches hstretches]
    rfl
  have htracked : trackedInferencePath other = trackedInferencePath path := by
    rw [trackedInferencePath_eq hquery hfragment,
      trackedInferencePath_eq (not_mem_of_respells h (.inl rfl) hquery)
        (not_mem_of_respells h (.inr rfl) hfragment), hroute]
  refine ⟨hroute, htracked, ?_⟩
  intro hexcluded
  rw [htracked, trackedInferencePath_eq hquery hfragment]
  rcases hexcluded with hends | hends
  · have hroute := endsWith_semanticRoute
      (show endsWith path ("/" ++ "attestation") = true from hends) (by decide)
      (show "attestation".toList = "attestatio".toList ++ ['n'] by decide) (by decide)
    simp only [show "/" ++ "attestation" = "/attestation" from rfl] at hroute
    simp only [hroute, Bool.true_or, Bool.not_true, Bool.false_and]
  · have hroute := endsWith_semanticRoute
      (show endsWith path ("/" ++ "internal/gateway/authorize") = true from hends) (by decide)
      (show "internal/gateway/authorize".toList = "internal/gateway/authoriz".toList ++ ['e'] by
        decide) (by decide)
    simp only [show "/" ++ "internal/gateway/authorize" = "/internal/gateway/authorize" from rfl]
      at hroute
    simp only [hroute, Bool.true_or, Bool.not_true, Bool.and_false]

/-- A spelling of the attestation route. -/
theorem respells_attestation :
    Respells (bytes "/v1/attestation") (bytes "/V%31//%61ttestatioN%2f/") := by
  have hplain : bytes "/v1/attestation" =
      [47, 118, 49, 47, 97, 116, 116, 101, 115, 116, 97, 116, 105, 111, 110] := by decide
  have hother : bytes "/V%31//%61ttestatioN%2f/" =
      [47] ++ ([86] ++ ([37, 51, 49] ++ ([47, 47] ++ ([37, 54, 49] ++ ([116] ++ ([116] ++ ([101] ++
        ([115] ++ ([116] ++ ([97] ++ ([116] ++ ([105] ++ ([111] ++ ([78] ++
          [37, 50, 102, 47])))))))))))))) := by decide
  have hsame : ∀ b : UInt8, Spells b [b] := fun b => .raw (.inl rfl)
  rw [hplain, hother]
  refine .slash (.raw .none) (.byte (by decide) (.raw (.inr (.inr (by decide)))) ?_)
  refine .byte (by decide) (.escaped (h := 3) (l := 1) (.inl rfl) rfl rfl rfl) ?_
  refine .slash (.raw (.raw .none)) ?_
  refine .byte (by decide) (.escaped (h := 6) (l := 1) (.inl rfl) rfl rfl rfl) ?_
  iterate 9 refine .byte (by decide) (hsame _) ?_
  refine .byte (by decide) (.raw (.inr (.inr (by decide)))) ?_
  exact .done (.escaped (.inr rfl) (.raw .none))

/-- The attestation route in another spelling, with escapes, capitals and slashes, is the same
route, and telemetry does not cover it. -/
theorem semanticRoute_respells_attestation :
    semanticRoute "/V%31//%61ttestatioN%2f/" = semanticRoute "/v1/attestation" ∧
      trackedInferencePath "/V%31//%61ttestatioN%2f/" = false := by
  obtain ⟨hroute, -, huntracked⟩ :=
    semanticRoute_respells (by decide) (by decide +kernel) respells_attestation
  exact ⟨hroute, huntracked (.inl (by decide))⟩

end TrustedRouter.Proofs.Transport
