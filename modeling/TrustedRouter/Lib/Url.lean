import TrustedRouter.Lib.Result
import TrustedRouter.Lib.Str

/-!
# `TrustedRouter.Lib.Url`: resolving a reference against a base URL

The WHATWG URL parser for the special schemes other than `file`. `classify` is the part of
the state machine that decides what a reference replaces. A reference with a scheme of its
own is `absolute`, or `other` when that scheme is not special. One that starts with two
slashes keeps the scheme of the base and is an `authority`. Everything else is `relative`
and keeps the whole origin of the base. A reference with the scheme of the base and fewer
than two slashes after it is relative too.

Two parts are parameters, in `Backend`: the host parser, and the parser for URLs of the
other schemes. Of the second only one law is needed, that it keeps the scheme it is given.

`join_origin` says when a resolved reference has the origin of its base: exactly when it
`KeepsOrigin`. `join_kept` says what becomes of the path: a reference leaves a part of that of its
base, which `Reference.kept` computes, and adds the same to it whatever the base. One that
`StaysBelow` its base leaves all of it.
-/

set_option autoImplicit false

namespace Whatwg

open Rust.Str
open Rust.Result

/-- The path of a URL: its segments, or an uninterpreted text for schemes that have no
segments. -/
inductive Path where
  | segments (list : List String)
  | text (value : String)
  deriving DecidableEq, Repr

/-- A parsed URL. `port` is absent when it is the default of the scheme. -/
structure Url where
  scheme : String
  username : String := ""
  password : String := ""
  host : Option String := none
  port : Option Nat := none
  path : Path := .segments [""]
  query : Option String := none
  fragment : Option String := none
  deriving DecidableEq, Repr

/-- The default port of a special scheme. -/
def defaultPort (scheme : String) : Option Nat :=
  if scheme = "http" ∨ scheme = "ws" then some 80
  else if scheme = "https" ∨ scheme = "wss" then some 443
  else if scheme = "ftp" then some 21
  else none

/-- A special scheme other than `file`. -/
def isSpecial (scheme : String) : Bool := (defaultPort scheme).isSome

/-- The parts of an origin. -/
structure Origin where
  scheme : String
  host : Option String
  port : Option Nat
  deriving DecidableEq, Repr

/-- The scheme, the host, and the port or the default of the scheme. -/
def Url.origin (url : Url) : Origin :=
  { scheme := url.scheme
    host := url.host
    port := url.port.or (defaultPort url.scheme) }

/-- `Url::path`. -/
def Url.pathString (url : Url) : String :=
  match url.path with
  | .segments list => "/" ++ String.intercalate "/" list
  | .text value => value

/-- What the parser takes from outside: the host parser of special URLs, and the parser of
URLs with another scheme, from the scheme and the text after its colon. -/
structure Backend where
  parseHost : String → Except String String
  parseOther : String → List Char → Except String Url
  /-- A URL has the scheme it was written with. -/
  parseOther_scheme : ∀ {scheme rest url}, parseOther scheme rest = .ok url →
    url.scheme = scheme

/-- A parser that reads no URL of another scheme gives none with the wrong one. -/
theorem scheme_of_error {error scheme : String} {url : Url}
    (h : (Except.error error : Except String Url) = .ok url) : url.scheme = scheme := by
  cases h

/-! ## Reading a reference -/

/-- A C0 control or a space. -/
def isC0OrSpace (c : Char) : Bool := c.toNat ≤ 0x20

/-- A tab or a newline. -/
def isTabOrNewline (c : Char) : Bool := c == '\t' || c == '\n' || c == '\r'

/-- The input the parser works on: no control or space at either end, and no tab or newline
anywhere. -/
def clean (input : List Char) : List Char :=
  (((input.dropWhile isC0OrSpace).reverse.dropWhile isC0OrSpace).reverse).filter
    (!isTabOrNewline ·)

/-- What is left of the end of an input. -/
def cleanEnd (input : List Char) : List Char :=
  ((input.reverse.dropWhile isC0OrSpace).reverse).filter (!isTabOrNewline ·)

/-- Text without controls and blanks has no tab or newline. -/
theorem filter_of_not_blank {input : List Char} (h : ∀ c ∈ input, isC0OrSpace c = false) :
    input.filter (!isTabOrNewline ·) = input := by
  refine List.filter_eq_self.mpr fun c hc => ?_
  have hblank := h c hc
  simp only [isC0OrSpace, decide_eq_false_iff_not] at hblank
  simp only [isTabOrNewline, Bool.not_eq_true', Bool.or_eq_false_iff, beq_eq_false_iff_ne]
  refine ⟨⟨?_, ?_⟩, ?_⟩ <;> rintro rfl <;> exact hblank (by decide)

/-- After text without controls and blanks only the rest is cleaned. -/
theorem cleanEnd_append {front : List Char} (hfront : ∀ c ∈ front, isC0OrSpace c = false)
    (input : List Char) : cleanEnd (front ++ input) = front ++ cleanEnd input := by
  have hend : (input.reverse ++ front.reverse).dropWhile isC0OrSpace =
      input.reverse.dropWhile isC0OrSpace ++ front.reverse := by
    rw [List.dropWhile_append]
    split
    · -- All of the rest is blank, and nothing of the front is.
      rename_i hnil
      rw [List.isEmpty_iff.mp hnil]
      exact dropWhile_append_of_all (List.forall_mem_nil _) fun c hc =>
        hfront c (List.mem_reverse.mp (List.mem_of_mem_head? hc))
    · rfl
  rw [cleanEnd, List.reverse_append, hend, List.reverse_append, List.reverse_reverse,
    List.filter_append, filter_of_not_blank hfront]
  rfl

/-- The same for one character in front. -/
theorem cleanEnd_cons {c : Char} (hc : isC0OrSpace c = false) (input : List Char) :
    cleanEnd (c :: input) = c :: cleanEnd input := by
  rw [← List.singleton_append, cleanEnd_append, List.singleton_append]
  intro d hd
  rw [List.mem_singleton.mp hd]
  exact hc

/-- There is nothing to clean in such text. -/
theorem cleanEnd_of_not_blank {input : List Char} (h : ∀ c ∈ input, isC0OrSpace c = false) :
    cleanEnd input = input := by
  have happend := cleanEnd_append h []
  rwa [List.append_nil, show cleanEnd [] = [] from rfl, List.append_nil] at happend

/-- Text without controls and blanks, at the start of an input, keeps the parser from cleaning
anything but the end. It has to be there: with nothing in front, the start of the rest would be
cleaned too. -/
theorem clean_append {front : List Char} (hne : front ≠ [])
    (hfront : ∀ c ∈ front, isC0OrSpace c = false) (input : List Char) :
    clean (front ++ input) = front ++ cleanEnd input := by
  have hstart : (front ++ input).dropWhile isC0OrSpace = front ++ input := by
    obtain ⟨c, rest, rfl⟩ := List.exists_cons_of_ne_nil hne
    rw [List.cons_append, List.dropWhile_cons, hfront c List.mem_cons_self]
    rfl
  rw [clean, hstart]
  exact cleanEnd_append hfront input

/-- What is left at the end was there before. -/
theorem mem_of_mem_cleanEnd {input : List Char} {c : Char} (h : c ∈ cleanEnd input) :
    c ∈ input := by
  have hrest := List.mem_reverse.mp (List.mem_filter.mp h).1
  exact List.mem_reverse.mp ((List.dropWhile_sublist _).mem hrest)

/-- A slash of a special URL. -/
def isSlash (c : Char) : Bool := c == '/' || c == '\\'

/-- A character that can follow the first one of a scheme. -/
def isSchemeChar (c : Char) : Bool := isAsciiAlphanumeric c || c == '+' || c == '-' || c == '.'

/-- The scheme of an input and what follows its colon. -/
def splitScheme (input : List Char) : Option (String × List Char) :=
  let name := input.takeWhile isSchemeChar
  match name, input.dropWhile isSchemeChar with
  | first :: _, ':' :: rest =>
      if first.isAlpha then some (String.ofList (name.map Char.toLower), rest) else none
  | _, _ => none

/-- What a reference replaces of the base. -/
inductive Reference where
  | other (scheme : String) (rest : List Char)
  | absolute (scheme : String) (rest : List Char)
  | authority (rest : List Char)
  | relative (rest : List Char)
  deriving DecidableEq, Repr

/-- The states from `scheme start` to `relative slash`, on a cleaned input. -/
def classifyClean (baseScheme : String) (input : List Char) : Reference :=
  match splitScheme input with
  | some (scheme, rest) =>
      if isSpecial scheme then
        if scheme == baseScheme && (rest.takeWhile isSlash).length < 2 then .relative rest
        else .absolute scheme (rest.dropWhile isSlash)
      else .other scheme rest
  | none =>
      if (input.takeWhile isSlash).length < 2 then .relative input
      else .authority (input.dropWhile isSlash)

@[inherit_doc classifyClean]
def classify (baseScheme : String) (input : String) : Reference :=
  classifyClean baseScheme (clean input.toList)

/-! ## Percent-encode sets -/

/-- One byte as `%XX`. -/
def percentByte (b : UInt8) : List Char :=
  ['%', (hexDigit (b.toNat / 16)).toUpper, (hexDigit (b.toNat % 16)).toUpper]

/-- UTF-8 percent-encoding of the characters in a set. -/
def percentEncode (inSet : Char → Bool) (input : List Char) : String :=
  String.ofList (input.flatMap fun c =>
    if inSet c then (String.utf8EncodeChar c).flatMap percentByte else [c])

/-- The C0 control set. -/
def inControlSet (c : Char) : Bool := c.toNat ≤ 0x1F || 0x7E < c.toNat

/-- The fragment set. -/
def inFragmentSet (c : Char) : Bool := inControlSet c || [' ', '"', '<', '>', '\x60'].contains c

/-- The query set of a special URL. -/
def inQuerySet (c : Char) : Bool := inControlSet c || [' ', '"', '#', '<', '>', '\x27'].contains c

/-- The path set, as the `url` crate has it: without the `^` that the standard has put into it
since. -/
def inPathSet (c : Char) : Bool :=
  inControlSet c || [' ', '"', '#', '<', '>', '?', '\x60', '\x7b', '\x7d'].contains c

/-- The userinfo set. -/
def inUserinfoSet (c : Char) : Bool :=
  inPathSet c || ['/', ':', ';', '=', '@', '[', '\\', ']', '^', '|'].contains c

/-! ## Authority -/

/-- The end of an authority in a special URL. -/
def endsAuthority (c : Char) : Bool := isSlash c || c == '?' || c == '#'

/-- Splits at the last `@`. -/
def splitAtSign (input : List Char) : Option (List Char) × List Char :=
  match input.reverse.dropWhile (· != '@') with
  | _ :: before => (some before.reverse, (input.reverse.takeWhile (· != '@')).reverse)
  | [] => (none, input)

/-- Splits at the first colon outside brackets. -/
def splitPort (inBrackets : Bool) : List Char → List Char × Option (List Char)
  | [] => ([], none)
  | c :: rest =>
      if c == ':' && !inBrackets then ([], some rest)
      else
        let (host, port) :=
          splitPort (if c == '[' then true else if c == ']' then false else inBrackets) rest
        (c :: host, port)

/-- A port: empty or decimal, at most 65535, and absent when it is the default. -/
def parsePort (scheme : String) : Option (List Char) → Except String (Option Nat)
  | none => .ok none
  | some [] => .ok none
  | some digits =>
      let value := digits.foldl (fun acc c => 10 * acc + (c.toNat - 48)) 0
      if digits.all Char.isDigit && value ≤ 65535 then
        .ok (if some value = defaultPort scheme then none else some value)
      else .error "invalid port number"

/-! ## Path, query and fragment -/

/-- A segment that stands for the parent, in any of its spellings. -/
def isDoubleDot (segment : List Char) : Bool :=
  ["..", ".%2e", "%2e.", "%2e%2e"].contains (String.ofList (segment.map Char.toLower))

/-- A segment that stands for its own directory. -/
def isSingleDot (segment : List Char) : Bool :=
  [".", "%2e"].contains (String.ofList (segment.map Char.toLower))

/-- A Windows drive letter. -/
def isDriveLetter (segment : String) : Bool :=
  match segment.toList with
  | [letter, mark] => letter.isAlpha && (mark == ':' || mark == '|')
  | _ => false

/-- The parent of a path. The `url` crate never pops a drive letter, whatever the scheme. -/
def popSegment (path : List String) : List String :=
  if path.getLast?.any isDriveLetter then path else path.dropLast

/-- The path state: each raw segment is dropped, pops its parent or is appended. A path
that ends in a dot segment ends in a slash. -/
def pushSegments : List String → List (List Char) → List String
  | path, [] => path
  | path, [last] =>
      if isDoubleDot last then popSegment path ++ [""]
      else if isSingleDot last then path ++ [""]
      else path ++ [percentEncode inPathSet last]
  | path, segment :: next :: rest =>
      let path :=
        if isDoubleDot segment then popSegment path
        else if isSingleDot segment then path
        else path ++ [percentEncode inPathSet segment]
      pushSegments path (next :: rest)

/-- A path whose last segment is no drive letter loses it. -/
theorem popSegment_concat {segment : String} (h : isDriveLetter segment = false)
    (path : List String) : popSegment (path ++ [segment]) = path := by
  rw [popSegment, List.getLast?_concat, Option.any_some, h, List.dropLast_concat]
  rfl

/-- Popping a segment leaves what was there before the last few. -/
theorem popSegment_append {below : List String} (hne : below ≠ []) (onto : List String) :
    popSegment (onto ++ below) = onto ++ popSegment below := by
  have hlast : (onto ++ below).getLast? = below.getLast? := by
    rw [List.getLast?_append, List.getLast?_eq_some_getLast hne, Option.some_or]
  rw [popSegment, popSegment, hlast]
  split
  · rfl
  · rw [List.dropLast_append_of_ne_nil hne]

/-- One segment at most is popped. -/
theorem length_popSegment (path : List String) :
    path.length ≤ (popSegment path).length + 1 := by
  rw [popSegment]
  split
  · omega
  · rw [List.length_dropLast]
    omega

/-- Popping adds no segment. -/
theorem mem_of_mem_popSegment {path : List String} {segment : String}
    (h : segment ∈ popSegment path) : segment ∈ path := by
  rw [popSegment] at h
  split at h
  · exact h
  · exact List.mem_of_mem_dropLast h

/-- Where the path of an input ends. -/
def endsPath (c : Char) : Bool := c == '?' || c == '#'

/-- The path part of an input, onto the given segments. -/
def parsePath (onto : List String) (input : List Char) : List String :=
  pushSegments onto (splitWhere isSlash (input.takeWhile (!endsPath ·)))

/-- The fragment of an input. -/
def parseFragment (input : List Char) : Option String :=
  match input.dropWhile (· != '#') with
  | _ :: fragment => some (percentEncode inFragmentSet fragment)
  | [] => none

/-- The query of an input. -/
def parseQuery (input : List Char) : Option String :=
  match input.dropWhile (!endsPath ·) with
  | '?' :: rest => some (percentEncode inQuerySet (rest.takeWhile (· != '#')))
  | _ => none

/-! ## The parser -/

/-- A special URL from its scheme and the text after the slashes of its authority. -/
def parseAuthority (lib : Backend) (scheme : String) (input : List Char) :
    Except String Url := do
  let (credentials, hostPort) := splitAtSign (input.takeWhile (!endsAuthority ·))
  let (host, portText) := splitPort false hostPort
  ensure (!host.isEmpty) "empty host"
  let host ← lib.parseHost (String.ofList host)
  let port ← parsePort scheme portText
  let credentials := credentials.getD []
  let rest := input.dropWhile (!endsAuthority ·)
  pure
    { scheme
      username := percentEncode inUserinfoSet (credentials.takeWhile (· != ':'))
      password := percentEncode inUserinfoSet ((credentials.dropWhile (· != ':')).drop 1)
      host := some host
      port
      path := .segments (parsePath []
        (if (rest.head?.map isSlash).getD false then rest.drop 1 else rest))
      query := parseQuery rest
      fragment := parseFragment rest }

/-- The segments a URL has. -/
def Url.pathSegments (url : Url) : List String :=
  match url.path with
  | .segments list => list
  | .text _ => []

/-- The relative state: everything before the path stays. -/
def resolve (base : Url) (input : List Char) : Url :=
  let fragment := parseFragment input
  match input with
  | [] => { base with fragment }
  | c :: rest =>
      if c == '#' then { base with fragment }
      else if c == '?' then { base with query := parseQuery input, fragment }
      else
        let segments :=
          if isSlash c then parsePath [] rest
          else parsePath base.pathSegments.dropLast input
        { base with path := .segments segments, query := parseQuery input, fragment }

/-- `Url::join`, on a base with a special scheme. -/
def join (lib : Backend) (base : Url) (input : String) : Except String Url :=
  match classify base.scheme input with
  | .other scheme rest => lib.parseOther scheme rest
  | .absolute scheme rest => parseAuthority lib scheme rest
  | .authority rest => parseAuthority lib base.scheme rest
  | .relative rest => .ok (resolve base rest)

/-- `Url::parse`. -/
def parse (lib : Backend) (input : String) : Except String Url :=
  match splitScheme (clean input.toList) with
  | none => .error "relative URL without a base"
  | some (scheme, rest) =>
      if isSpecial scheme then parseAuthority lib scheme (rest.dropWhile isSlash)
      else lib.parseOther scheme rest

/-! ## Origins -/

/-- A relative reference keeps the origin, in each of its forms: a path, a query, a fragment, or
nothing. -/
theorem resolve_origin (base : Url) (input : List Char) :
    (resolve base input).origin = base.origin := by
  unfold resolve
  split
  · rfl
  · dsimp only
    split
    · rfl
    · split <;> rfl

/-- A scheme of an `other` reference is not special. -/
theorem not_isSpecial_of_classify {baseScheme input scheme : String} {rest : List Char}
    (h : classify baseScheme input = .other scheme rest) : isSpecial scheme = false := by
  unfold classify classifyClean at h
  split at h
  · split at h
    · split at h <;> cases h
    · rename_i hspecial
      cases h
      exact Bool.not_eq_true _ ▸ hspecial
  · split at h <;> cases h

/-- The text of the host in an authority: what stands behind the credentials and before the port
and the path. -/
def hostText (input : List Char) : String :=
  String.ofList (splitPort false (splitAtSign (input.takeWhile (!endsAuthority ·))).2).1

/-- The text of the port in an authority, if it has a colon for one. -/
def portText (input : List Char) : Option (List Char) :=
  (splitPort false (splitAtSign (input.takeWhile (!endsAuthority ·))).2).2

/-- The authority spells out the host and the port of the base: the host parser reads its host
as that of the base, and its port, or else the default one, is that of the base. -/
structure SpellsAuthority (lib : Backend) (base : Url) (input : List Char) : Prop where
  ne_empty : hostText input ≠ ""
  host : ∃ host, lib.parseHost (hostText input) = .ok host ∧ base.host = some host
  port : ∃ port, parsePort base.scheme (portText input) = .ok port ∧
    port.or (defaultPort base.scheme) = base.port.or (defaultPort base.scheme)

/-- The authority is malformed: it has no host, a host that is none, or a port that is none. -/
inductive BadAuthority (lib : Backend) (scheme : String) (input : List Char) : Prop where
  | noHost (h : hostText input = "")
  | badHost {error : String} (h : lib.parseHost (hostText input) = .error error)
  | badPort {error : String} (h : parsePort scheme (portText input) = .error error)

/-- The reference cannot take the origin of the base away: it is relative, or it spells out the
authority of the base, behind its scheme or behind none. -/
inductive Reference.Keeps (lib : Backend) (base : Url) : Reference → Prop where
  | relative (rest : List Char) : Reference.Keeps lib base (.relative rest)
  | authority {rest : List Char} (h : SpellsAuthority lib base rest) :
      Reference.Keeps lib base (.authority rest)
  | absolute {scheme : String} {rest : List Char} (hscheme : scheme = base.scheme)
      (h : SpellsAuthority lib base rest) : Reference.Keeps lib base (.absolute scheme rest)

/-- The reference spells out a malformed authority, or a text behind another scheme that the
parser for such URLs refuses. -/
inductive Reference.Malformed (lib : Backend) (base : Url) : Reference → Prop where
  | other {scheme error : String} {rest : List Char}
      (h : lib.parseOther scheme rest = .error error) :
      Reference.Malformed lib base (.other scheme rest)
  | absolute {scheme : String} {rest : List Char} (h : BadAuthority lib scheme rest) :
      Reference.Malformed lib base (.absolute scheme rest)
  | authority {rest : List Char} (h : BadAuthority lib base.scheme rest) :
      Reference.Malformed lib base (.authority rest)

/-- An input that keeps the origin of the base. -/
structure KeepsOrigin (lib : Backend) (base : Url) (input : String) : Prop where
  keeps : (classify base.scheme input).Keeps lib base

/-- An input that spells out something malformed. -/
structure SpellsMalformed (lib : Backend) (base : Url) (input : String) : Prop where
  malformed : (classify base.scheme input).Malformed lib base

/-- The origin of a parsed authority, by the texts of its host and its port. -/
theorem parseAuthority_origin {lib : Backend} {scheme : String} {input : List Char} {url : Url}
    (h : parseAuthority lib scheme input = .ok url) :
    hostText input ≠ "" ∧ ∃ host port, lib.parseHost (hostText input) = .ok host ∧
      parsePort scheme (portText input) = .ok port ∧
      url.origin = { scheme, host := some host, port := port.or (defaultPort scheme) } := by
  simp only [parseAuthority, bind_eq_ok, exists_unit, ensure_eq_ok] at h
  obtain ⟨hne, host, hhost, port, hport, hurl⟩ := h
  cases hurl
  refine ⟨?_, host, port, hhost, hport, rfl⟩
  intro hempty
  rw [hostText, String.ofList_eq_empty_iff] at hempty
  rw [hempty] at hne
  cases hne

/-- An authority parses unless it is malformed: an empty host, a host or a port that its own
parser refuses. -/
theorem parseAuthority_error_iff {lib : Backend} {scheme : String} {input : List Char} :
    (∃ error, parseAuthority lib scheme input = .error error) ↔
      BadAuthority lib scheme input := by
  constructor
  · rintro ⟨error, h⟩
    simp only [parseAuthority, bind_eq_error, ensure_eq_error] at h
    rcases h with ⟨hempty, -⟩ | ⟨_, -, hhost | ⟨host, -, hport | ⟨port, -, hurl⟩⟩⟩
    · rw [Bool.not_eq_false', List.isEmpty_iff] at hempty
      exact .noHost (by rw [hostText, hempty])
    · exact .badHost hhost
    · exact .badPort hport
    · cases hurl
  · intro hbad
    cases hparse : parseAuthority lib scheme input with
    | error error => exact ⟨error, rfl⟩
    | ok url =>
        obtain ⟨hne, host, port, hhost, hport, -⟩ := parseAuthority_origin hparse
        cases hbad with
        | noHost h => exact absurd h hne
        | badHost h => rw [hhost] at h; cases h
        | badPort h => rw [hport] at h; cases h

/-- A parsed authority has the origin of a base exactly when it spells out that of the base,
behind the scheme of the base. -/
theorem parseAuthority_origin_iff {lib : Backend} {scheme : String} {input : List Char}
    {base url : Url} (h : parseAuthority lib scheme input = .ok url) :
    url.origin = base.origin ↔ scheme = base.scheme ∧ SpellsAuthority lib base input := by
  obtain ⟨hne, host, port, hhost, hport, horigin⟩ := parseAuthority_origin h
  rw [horigin, Url.origin, Origin.mk.injEq]
  constructor
  · rintro ⟨hscheme, hbase, hnumber⟩
    subst hscheme
    exact ⟨rfl, hne, ⟨host, hhost, hbase.symm⟩, ⟨port, hport, hnumber⟩⟩
  · rintro ⟨hscheme, hspells⟩
    subst hscheme
    obtain ⟨host', hhost', hbase⟩ := hspells.host
    obtain ⟨port', hport', hnumber⟩ := hspells.port
    rw [hhost] at hhost'
    rw [hport] at hport'
    cases hhost'
    cases hport'
    exact ⟨rfl, hbase.symm, hnumber⟩

/-- A reference that resolves does so on the origin of the base exactly when it keeps that origin.
For a special base every kind of reference is a case of `KeepsOrigin`. -/
theorem join_origin {lib : Backend} {base url : Url} {input : String}
    (hspecial : isSpecial base.scheme = true) (h : join lib base input = .ok url) :
    url.origin = base.origin ↔ KeepsOrigin lib base input := by
  suffices hkeeps : url.origin = base.origin ↔
      (classify base.scheme input).Keeps lib base from
    hkeeps.trans ⟨fun h => ⟨h⟩, fun h => h.keeps⟩
  unfold join at h
  cases hclass : classify base.scheme input with
  | other scheme rest =>
      rw [hclass] at h
      -- Only the scheme is known of such a URL, and the base has a special one.
      constructor
      · intro horigin
        have hscheme : url.scheme = base.scheme := congrArg Origin.scheme horigin
        rw [lib.parseOther_scheme h] at hscheme
        rw [← hscheme, not_isSpecial_of_classify hclass] at hspecial
        cases hspecial
      · intro hkeeps
        cases hkeeps
  | absolute scheme rest =>
      rw [hclass] at h
      rw [parseAuthority_origin_iff h]
      constructor
      · rintro ⟨hscheme, hspells⟩
        exact .absolute hscheme hspells
      · intro hkeeps
        cases hkeeps with
        | absolute hscheme hspells => exact ⟨hscheme, hspells⟩
  | authority rest =>
      rw [hclass] at h
      rw [parseAuthority_origin_iff h]
      constructor
      · rintro ⟨-, hspells⟩
        exact .authority hspells
      · intro hkeeps
        cases hkeeps with
        | authority hspells => exact ⟨rfl, hspells⟩
  | relative rest =>
      rw [hclass] at h
      cases h
      exact ⟨fun _ => .relative rest, fun _ => resolve_origin base rest⟩

/-- A reference fails to resolve exactly when it spells out something malformed. -/
theorem join_error_iff {lib : Backend} {base : Url} {input : String} :
    (∃ error, join lib base input = .error error) ↔ SpellsMalformed lib base input := by
  suffices hmalformed : (∃ error, join lib base input = .error error) ↔
      (classify base.scheme input).Malformed lib base from
    hmalformed.trans ⟨fun h => ⟨h⟩, fun h => h.malformed⟩
  unfold join
  cases classify base.scheme input with
  | other scheme rest =>
      constructor
      · rintro ⟨error, h⟩
        exact .other h
      · intro hmalformed
        cases hmalformed with
        | other h => exact ⟨_, h⟩
  | absolute scheme rest =>
      rw [parseAuthority_error_iff]
      constructor
      · exact .absolute
      · intro hmalformed
        cases hmalformed with
        | absolute h => exact h
  | authority rest =>
      rw [parseAuthority_error_iff]
      constructor
      · exact .authority
      · intro hmalformed
        cases hmalformed with
        | authority h => exact h
  | relative rest =>
      -- Relative resolution cannot fail, and `Malformed` has no case for it.
      constructor
      · rintro ⟨error, h⟩; cases h
      · intro hmalformed; cases hmalformed

/-- A relative reference keeps the credentials. -/
theorem resolve_credentials (base : Url) (input : List Char) :
    (resolve base input).username = base.username ∧
      (resolve base input).password = base.password := by
  unfold resolve
  split
  · exact ⟨rfl, rfl⟩
  · dsimp only
    split
    · exact ⟨rfl, rfl⟩
    · split <;> exact ⟨rfl, rfl⟩

/-- One reference resolved against two bases of one scheme gets its credentials from the reference
both times, or from the bases. The bases have to agree on them for the second case. -/
theorem join_credentials {lib : Backend} {base base' url url' : Url} {input : String}
    (hscheme : base.scheme = base'.scheme) (husername : base.username = base'.username)
    (hpassword : base.password = base'.password) (h : join lib base input = .ok url)
    (h' : join lib base' input = .ok url') :
    url.username = url'.username ∧ url.password = url'.password := by
  unfold join at h h'
  rw [← hscheme] at h'
  cases hclass : classify base.scheme input with
  | relative rest =>
      -- Only a relative reference takes its credentials from the base.
      rw [hclass] at h h'
      cases h
      cases h'
      obtain ⟨hu, hp⟩ := resolve_credentials base rest
      obtain ⟨hu', hp'⟩ := resolve_credentials base' rest
      exact ⟨hu.trans (husername.trans hu'.symm), hp.trans (hpassword.trans hp'.symm)⟩
  | other scheme rest =>
      rw [hclass] at h h'
      rw [h] at h'
      cases h'
      exact ⟨rfl, rfl⟩
  | absolute scheme rest =>
      rw [hclass] at h h'
      rw [h] at h'
      cases h'
      exact ⟨rfl, rfl⟩
  | authority rest =>
      rw [hclass] at h h'
      rw [h] at h'
      cases h'
      exact ⟨rfl, rfl⟩

/-! ## References below a base -/

/-- Segments, each after a slash. -/
def slashed (segments : List String) : String :=
  segments.foldr (fun segment rest => "/" ++ segment ++ rest) ""

/-- The segments of two paths, each behind its slash. -/
theorem slashed_append (a b : List String) : slashed (a ++ b) = slashed a ++ slashed b := by
  induction a with
  | nil => exact String.empty_append.symm
  | cons segment a ih =>
      show "/" ++ segment ++ slashed (a ++ b) = "/" ++ segment ++ slashed a ++ slashed b
      rw [ih]
      exact String.append_assoc.symm

/-- The path of a URL with segments, each behind a slash. -/
theorem pathString_segments {url : Url} {segments : List String}
    (h : url.path = .segments segments) (hne : segments ≠ []) :
    url.pathString = slashed segments := by
  simp only [Url.pathString, h]
  clear h
  induction segments with
  | nil => exact absurd rfl hne
  | cons segment rest ih =>
      cases rest with
      | nil =>
          rw [String.intercalate_singleton]
          show _ = "/" ++ segment ++ ""
          rw [String.append_empty]
      | cons next rest =>
          have hrest := ih (List.cons_ne_nil _ _)
          rw [String.intercalate_cons_cons]
          show _ = "/" ++ segment ++ slashed (next :: rest)
          rw [← hrest, String.append_assoc, String.append_assoc]

/-- No double dot of these segments leaves the directory they start in, from `depth` below
it. -/
def neverClimbs : (depth : Nat) → List (List Char) → Bool
  | _, [] => true
  | depth, segment :: rest =>
      if isDoubleDot segment then 0 < depth && neverClimbs (depth - 1) rest
      else if isSingleDot segment then neverClimbs depth rest
      else neverClimbs (depth + 1) rest

/-- A reference that can only name something below the base it is resolved against. -/
structure StaysBelow (input : String) : Prop where
  no_scheme : splitScheme (clean input.toList) = none
  no_slash : ∀ c rest, clean input.toList = c :: rest → isSlash c = false
  no_climb : neverClimbs 0
    (splitWhere isSlash ((clean input.toList).takeWhile (!endsPath ·))) = true

/-- A double dot that does not climb has a parent to pop. -/
theorem ne_nil_of_neverClimbs {segment : List Char} {rest : List (List Char)} {depth : Nat}
    {below : List String} (hdots : isDoubleDot segment = true)
    (h : neverClimbs depth (segment :: rest) = true) (hdepth : depth ≤ below.length) :
    below ≠ [] ∧ neverClimbs (depth - 1) rest = true ∧
      depth - 1 ≤ (popSegment below).length := by
  rw [neverClimbs, if_pos hdots, Bool.and_eq_true, decide_eq_true_eq] at h
  have hlength := length_popSegment below
  refine ⟨List.ne_nil_of_length_pos (by omega), h.2, by omega⟩

/-- What segments leave of the ones they are pushed onto, when `below` are those pushed so far. A
double dot with nothing below it to pop climbs. -/
def keptSegments : (onto below : List String) → List (List Char) → List String
  | onto, _, [] => onto
  | onto, below, segment :: rest =>
      if isDoubleDot segment then
        if below = [] then keptSegments (popSegment onto) [] rest
        else keptSegments onto (popSegment below) rest
      else if isSingleDot segment then keptSegments onto below rest
      else keptSegments onto (below ++ [percentEncode inPathSet segment]) rest

/-- Nothing is left of nothing. -/
theorem keptSegments_nil (below : List String) (segments : List (List Char)) :
    keptSegments [] below segments = [] := by
  induction segments generalizing below with
  | nil => rfl
  | cons segment rest ih =>
      rw [keptSegments]
      split
      · split
        · exact ih []
        · exact ih _
      · split <;> exact ih _

/-- Segments that never climb leave everything. -/
theorem keptSegments_of_neverClimbs {segments : List (List Char)} {depth : Nat}
    {below : List String} (h : neverClimbs depth segments = true) (hdepth : depth ≤ below.length)
    (onto : List String) : keptSegments onto below segments = onto := by
  induction segments generalizing depth below with
  | nil => rfl
  | cons segment rest ih =>
      rw [keptSegments]
      split
      · rename_i hdots
        -- Two dots pop what the reference itself has pushed.
        obtain ⟨hpop, hrest, hless⟩ := ne_nil_of_neverClimbs hdots h hdepth
        rw [if_neg hpop]
        exact ih hrest hless
      · rename_i hdots
        rw [neverClimbs, if_neg hdots] at h
        split
        · rename_i hdot
          rw [if_pos hdot] at h
          exact ih h hdepth
        · rename_i hdot
          -- A segment that is pushed makes one more level to pop.
          rw [if_neg hdot] at h
          refine ih h ?_
          rw [List.length_append, List.length_singleton]
          omega

/-- Pushing segments keeps a part of what was there and puts after it what the segments are by
themselves. The induction is on the segments, with what they have put below so far. -/
theorem pushSegments_append {segments : List (List Char)} (hne : segments ≠ [])
    (onto below : List String) :
    pushSegments (onto ++ below) segments =
      keptSegments onto below segments ++ pushSegments below segments := by
  have hnil : popSegment [] = [] := rfl
  induction segments generalizing onto below with
  | nil => exact absurd rfl hne
  | cons segment rest ih =>
      cases rest with
      | nil =>
          simp only [pushSegments, keptSegments]
          split
          · -- Two dots pop from what is below, and from the base only when there is nothing
            -- below.
            split
            · rename_i hempty
              rw [hempty, List.append_nil, hnil, List.nil_append]
            · rename_i hbelow
              rw [popSegment_append hbelow, List.append_assoc]
          · split <;> rw [List.append_assoc]
      | cons next rest =>
          have hrest := ih (List.cons_ne_nil next rest)
          rw [keptSegments]
          simp only [pushSegments]
          split
          · split
            · rename_i hempty
              -- The reference climbs into the base. What is kept of the base is shorter from here
              -- on.
              have hclimb := hrest (popSegment onto) []
              rw [List.append_nil] at hclimb
              rw [hempty, List.append_nil, hnil, hclimb]
            · rename_i hbelow
              rw [popSegment_append hbelow, hrest]
          · split
            · exact hrest onto below
            · rw [List.append_assoc]
              exact hrest onto _

/-- Some segment is pushed: a path that ends in dots ends in an empty segment. -/
theorem pushSegments_ne_nil (path : List String) {segments : List (List Char)}
    (h : segments ≠ []) : pushSegments path segments ≠ [] := by
  induction segments generalizing path with
  | nil => exact absurd rfl h
  | cons segment rest ih =>
      cases rest with
      | nil =>
          simp only [pushSegments]
          split
          · exact List.append_ne_nil_of_right_ne_nil _ (List.cons_ne_nil _ _)
          · split <;> exact List.append_ne_nil_of_right_ne_nil _ (List.cons_ne_nil _ _)
      | cons next rest =>
          simp only [pushSegments]
          exact ih _ (List.cons_ne_nil _ _)

/-- The directory of a base: its segments without the last, which is empty. -/
structure IsDirectory (base : Url) (segments : List String) : Prop where
  path : base.path = .segments (segments ++ [""]) ∨ base.path = .segments [] ∧ segments = []

/-- The path of a directory ends in a slash. -/
theorem IsDirectory.pathString {base : Url} {segments : List String}
    (h : IsDirectory base segments) : base.pathString = slashed segments ++ "/" := by
  rcases h.path with hpath | ⟨hpath, rfl⟩
  · rw [pathString_segments hpath (List.append_ne_nil_of_right_ne_nil _ (List.cons_ne_nil _ _)),
      slashed_append]
    rfl
  · rw [Url.pathString, hpath]
    rfl

/-- Its last segment is empty, and a relative reference replaces that one. -/
theorem IsDirectory.dropLast {base : Url} {segments : List String}
    (h : IsDirectory base segments) : base.pathSegments.dropLast = segments := by
  rcases h.path with hpath | ⟨hpath, rfl⟩
  · rw [Url.pathSegments, hpath]
    exact List.dropLast_concat
  · rw [Url.pathSegments, hpath]
    rfl

/-- What a reference leaves of the directory of its base. A URL of its own, an authority and a
path that starts with a slash leave nothing of it, and a query or a fragment leaves it all. -/
def Reference.kept (segments : List String) : Reference → List String
  | .relative [] => segments
  | .relative (c :: rest) =>
      if endsPath c then segments
      else if isSlash c then []
      else keptSegments segments [] (splitWhere isSlash ((c :: rest).takeWhile (!endsPath ·)))
  | _ => []

/-- Nothing is left of the root, however far a reference climbs. -/
theorem Reference.kept_nil (reference : Reference) : reference.kept [] = [] := by
  cases reference with
  | relative input =>
      cases input with
      | nil => rfl
      | cons c rest =>
          rw [Reference.kept]
          split
          · rfl
          · split
            · rfl
            · exact keptSegments_nil _ _
  | other => rfl
  | absolute => rfl
  | authority => rfl

/-- A reference that stays below is relative to any base. -/
theorem classify_of_staysBelow {input : String} (h : StaysBelow input) (scheme : String) :
    classify scheme input = .relative (clean input.toList) := by
  have hslashes : ((clean input.toList).takeWhile isSlash).length < 2 := by
    cases hclean : clean input.toList with
    | nil => exact Nat.zero_lt_two
    | cons c rest =>
        rw [List.takeWhile_cons, h.no_slash c rest hclean]
        exact Nat.zero_lt_two
  simp only [classify, classifyClean, h.no_scheme, if_pos hslashes]

/-- Such a reference leaves all of the directory. -/
theorem kept_of_staysBelow {input : String} (h : StaysBelow input) (scheme : String)
    (segments : List String) : (classify scheme input).kept segments = segments := by
  rw [classify_of_staysBelow h]
  cases hclean : clean input.toList with
  | nil => rfl
  | cons c rest =>
      have hclimb := h.no_climb
      rw [hclean] at hclimb
      rw [Reference.kept, h.no_slash c rest hclean]
      split
      · rfl
      · exact keptSegments_of_neverClimbs hclimb (Nat.zero_le _) segments

/-- Segments that are pushed, read as the path of a URL. -/
theorem pathString_pushed {url : Url} {onto pushed : List String}
    (h : url.path = .segments (onto ++ pushed)) {first : String} {more : List String}
    (hpushed : pushed = first :: more) :
    url.pathString = slashed onto ++ "/" ++ (first ++ slashed more) := by
  rw [hpushed] at h
  rw [pathString_segments h (List.append_ne_nil_of_right_ne_nil _ (List.cons_ne_nil _ _)),
    slashed_append, String.append_assoc]
  show _ ++ ("/" ++ first ++ slashed more) = _
  rw [String.append_assoc]

/-- A relative reference adds the same to what it leaves of every base. -/
theorem resolve_kept (input : List Char) :
    ∃ added, ∀ (base : Url) (segments : List String), IsDirectory base segments →
      (resolve base input).pathString =
        slashed ((Reference.relative input).kept segments) ++ "/" ++ added := by
  -- An empty path, with or without a query or a fragment, keeps that of the base.
  have hkeeps : (∀ base, (resolve base input).path = base.path) →
      (∀ segments, (Reference.relative input).kept segments = segments) →
      ∃ added, ∀ (base : Url) (segments : List String), IsDirectory base segments →
        (resolve base input).pathString =
          slashed ((Reference.relative input).kept segments) ++ "/" ++ added := by
    intro hpath hkept
    refine ⟨"", fun base segments hbase => ?_⟩
    rw [hkept, String.append_empty, ← hbase.pathString, Url.pathString, Url.pathString, hpath]
  cases input with
  | nil => exact hkeeps (fun base => rfl) fun segments => rfl
  | cons c rest =>
      by_cases hends : endsPath c = true
      · refine hkeeps (fun base => ?_) fun segments => by rw [Reference.kept, if_pos hends]
        rw [endsPath, Bool.or_eq_true] at hends
        rw [resolve]
        rcases hends with hquery | hhash
        · have hhash : ¬ (c == '#') = true := by
            rw [beq_iff_eq] at hquery ⊢
            rw [hquery]
            decide
          simp only [hquery, if_neg hhash, if_true]
        · simp only [hhash, if_true]
      · have hother : (c == '#') = false ∧ (c == '?') = false := by
          rw [endsPath, Bool.or_eq_true, not_or, Bool.not_eq_true, Bool.not_eq_true] at hends
          exact ⟨hends.2, hends.1⟩
        by_cases hslash : isSlash c = true
        · -- A path from the root leaves nothing of that of the base.
          obtain ⟨first, more, hpushed⟩ := List.exists_cons_of_ne_nil
            (pushSegments_ne_nil [] (splitWhere_ne_nil isSlash (rest.takeWhile (!endsPath ·))))
          refine ⟨first ++ slashed more, fun base segments hbase => ?_⟩
          have hpath : (resolve base (c :: rest)).path = .segments
              ([] ++ pushSegments [] (splitWhere isSlash (rest.takeWhile (!endsPath ·)))) := by
            simp only [resolve, hother, hslash, Bool.false_eq_true, if_false, if_true, parsePath,
              List.nil_append]
          rw [pathString_pushed hpath hpushed, Reference.kept, if_neg hends, if_pos hslash]
        · have hne := splitWhere_ne_nil isSlash ((c :: rest).takeWhile (!endsPath ·))
          obtain ⟨first, more, hpushed⟩ := List.exists_cons_of_ne_nil (pushSegments_ne_nil [] hne)
          refine ⟨first ++ slashed more, fun base segments hbase => ?_⟩
          have hpath : (resolve base (c :: rest)).path =
              .segments ((Reference.relative (c :: rest)).kept segments ++
                pushSegments [] (splitWhere isSlash ((c :: rest).takeWhile (!endsPath ·)))) := by
            have happend := pushSegments_append hne segments []
            rw [List.append_nil] at happend
            simp only [resolve, hother, hslash, Bool.false_eq_true, if_false, parsePath,
              hbase.dropLast, happend, Reference.kept, hends]
          exact pathString_pushed hpath hpushed

/-- The path of an authority does not depend on the scheme in front of it. -/
theorem parseAuthority_path {lib : Backend} {scheme : String} {input : List Char} {url : Url}
    (h : parseAuthority lib scheme input = .ok url) :
    ∃ added, url.pathString = "/" ++ added ∧ ∀ scheme', ∃ other,
      parseAuthority lib scheme' input = .ok other ∧ other.pathString = "/" ++ added := by
  simp only [parseAuthority, bind_eq_ok, exists_unit, ensure_eq_ok] at h
  obtain ⟨hne, host, hhost, port, hport, hurl⟩ := h
  cases hurl
  refine ⟨_, rfl, fun scheme' => ?_⟩
  -- The scheme only decides which port is the default, and not whether the port parses.
  have hport' : ∃ port', parsePort scheme'
      (splitPort false (splitAtSign (input.takeWhile (!endsAuthority ·))).2).2 = .ok port' := by
    unfold parsePort at hport ⊢
    split at hport
    · exact ⟨_, rfl⟩
    · exact ⟨_, rfl⟩
    · dsimp only at hport ⊢
      split at hport
      · rename_i hvalid
        exact ⟨_, if_pos hvalid⟩
      · cases hport
  obtain ⟨port', hport'⟩ := hport'
  simp only [parseAuthority, bind_eq_ok, exists_unit, ensure_eq_ok]
  exact ⟨_, ⟨hne, host, hhost, port', hport', rfl⟩, rfl⟩

/-- A reference that two bases read alike, and that stays on the origin of the first, adds the
same to what it leaves of each of them. That they read it alike has to be asked: `http:x` is
relative to a base of its own scheme only. -/
theorem join_kept {lib : Backend} {base other url : Url} {input : String}
    {segments segments' : List String} (hbase : IsDirectory base segments)
    (hother : IsDirectory other segments') (hspecial : isSpecial base.scheme = true)
    (hread : classify base.scheme input = classify other.scheme input)
    (h : join lib base input = .ok url) (horigin : url.origin = base.origin) :
    ∃ added resolved, join lib other input = .ok resolved ∧
      url.pathString =
        slashed ((classify base.scheme input).kept segments) ++ "/" ++ added ∧
      resolved.pathString =
        slashed ((classify base.scheme input).kept segments') ++ "/" ++ added := by
  have hkeeps := ((join_origin hspecial h).mp horigin).keeps
  unfold join at h ⊢
  rw [← hread]
  cases hclass : classify base.scheme input with
  | other scheme rest =>
      rw [hclass] at hkeeps
      cases hkeeps
  | absolute scheme rest =>
      -- An absolute reference is parsed without the base, so both joins give one URL.
      rw [hclass] at h
      obtain ⟨added, hpath, -⟩ := parseAuthority_path h
      exact ⟨added, url, h, hpath, hpath⟩
  | authority rest =>
      -- A reference with a host takes the scheme of its base, which is not part of the path.
      rw [hclass] at h
      obtain ⟨added, hpath, hschemes⟩ := parseAuthority_path h
      obtain ⟨resolved, hresolved, hsame⟩ := hschemes other.scheme
      exact ⟨added, resolved, hresolved, hpath, hsame⟩
  | relative rest =>
      rw [hclass] at h
      cases h
      obtain ⟨added, hadded⟩ := resolve_kept rest
      exact ⟨added, resolve other rest, rfl, hadded base segments hbase,
        hadded other segments' hother⟩

end Whatwg
