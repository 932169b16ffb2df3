import TrustedRouter.Lib.UrlOrigin
import TrustedRouter.Proofs.Receipts.Soundness

/-!
# `TrustedRouter.Proofs.Receipts.Issuer`: which spellings are one issuer

`canonical_https_origin` parses a text, prints the origin it found, and compares the print with
the text. `originNormalForm` is the comparison on texts alone: one slash less at the end, in
lowercase, without a default port. `canonicalHttpsOrigin_eq_normalForm` says that the canonical
form of an accepted text is its normal form, so the parser decides which texts are accepted and
nothing else.

That needs two things of the parser, and the `url` crate documents both. It must read an origin
that was printed as that origin (`Reparses`), and it must spell hosts as a URL does, in lowercase
among the rest (`PrintsHosts`). The URL parser of the library has both, if its host parser is
lawful (`parse_reparses`, `parse_printsHosts`).
-/

set_option autoImplicit false

namespace TrustedRouter.Proofs.Receipts

open TrustedRouter.Receipts
open Rust.Str
open Rust.Result
open Whatwg (Url Backend LawfulHosts IsHost originText)

/-! ## Texts -/

/-- A text without a default port at its end. -/
def withoutDefaultPort (text : String) : String :=
  if endsWith text ":443" then String.ofList (text.toList.take (text.toList.length - 4)) else text

/-- One trailing slash less, in lowercase, without a default port. -/
def originNormalForm (value : String) : String :=
  withoutDefaultPort (toAsciiLowercase ((stripSuffixChar value '/').getD value))

/-- A default port is taken off. -/
theorem withoutDefaultPort_append (text : String) : withoutDefaultPort (text ++ ":443") = text := by
  have hlength : (text ++ ":443").toList.length - 4 = text.toList.length := by
    rw [String.toList_append, List.length_append]
    exact Nat.add_sub_cancel _ 4
  rw [withoutDefaultPort, if_pos (endsWith_iff.mpr ⟨text, rfl⟩), hlength, String.toList_append,
    List.take_left, String.ofList_toList]

/-- Without one the text stays. -/
theorem withoutDefaultPort_eq_self {text : String} (h : endsWith text ":443" = false) :
    withoutDefaultPort text = text := by
  rw [withoutDefaultPort, h]
  rfl

/-- There is no slash to strip. -/
theorem stripSuffixChar_getD {text : String} (h : endsWith text "/" = false) :
    (stripSuffixChar text '/').getD text = text := by
  unfold stripSuffixChar
  split
  · rfl
  · rename_i d rest hreverse
    split
    · -- The text would end in the slash that was stripped.
      rename_i hd
      have hends : endsWith text "/" = true := by
        refine endsWith_iff.mpr ⟨String.ofList rest.reverse, String.toList_inj.mp ?_⟩
        rw [← List.reverse_reverse text.toList, hreverse, eq_of_beq hd, List.reverse_cons,
          String.toList_append, String.toList_ofList]
        rfl
      rw [h] at hends
      cases hends
    · rfl

/-! ## Printed origins -/

/-- The spelling of a host in a URL. -/
structure IsHostText (host : String) : Prop where
  ne_empty : host ≠ ""
  lowercase : toAsciiLowercase host = host
  no_slash : endsWith host "/" = false
  no_port : endsWith host ":443" = false

/-- An origin on HTTPS, as the guard of `canonical_https_origin` asks for it. -/
structure IsOrigin (url : Url) : Prop where
  scheme : url.scheme = "https"
  host : url.host.isSome = true
  username : url.username = ""
  password : url.password = ""
  path : url.pathString = "/"
  query : url.query = none
  fragment : url.fragment = none

/-- The parser reads a printed origin as that origin, and reports no default port. -/
structure Reparses (parse : String → Except String Url) : Prop where
  reparse : ∀ {value url}, parse value = .ok url → IsOrigin url →
    ∃ again, parse (canonicalOrigin url) = .ok again ∧ IsOrigin again ∧
      again.host = url.host ∧ again.port = url.port
  default_port : ∀ {value url}, parse value = .ok url → url.scheme = "https" →
    url.port ≠ some 443

/-- The parser spells hosts as a URL does. -/
structure PrintsHosts (parse : String → Except String Url) : Prop where
  isHostText : ∀ {value url host}, parse value = .ok url → url.scheme = "https" →
    url.host = some host → IsHostText host

section
variable {host : String} {port : Option Nat}

/-- The printed origin is lowercase: the scheme and the port are, and a host is by
`IsHostText`. -/
theorem lowercase_originText (hhost : IsHostText host) :
    toAsciiLowercase (originText "https" host port) = originText "https" host port := by
  have hport : toAsciiLowercase (port.elim "" fun port => ":" ++ toString port) =
      port.elim "" fun port => ":" ++ toString port := by
    cases port with
    | none => rfl
    | some port =>
        rw [Option.elim_some, toAsciiLowercase_append, toAsciiLowercase_toString]
        rfl
  rw [originText, toAsciiLowercase_append, toAsciiLowercase_append, toAsciiLowercase_append,
    hhost.lowercase, hport]
  rfl

/-- The printed origin does not end in a slash, so stripping one changes nothing. -/
theorem no_slash_originText (hhost : IsHostText host) :
    endsWith (originText "https" host port) "/" = false := by
  have hlength : ∀ {text : String}, text ≠ "" → "/".toList.length ≤ text.toList.length := by
    intro text hne
    exact List.length_pos_iff.mpr fun hnil => hne (String.toList_eq_nil_iff.mp hnil)
  cases port with
  | none =>
      rw [originText, Option.elim_none, String.append_empty,
        endsWith_append (hlength hhost.ne_empty)]
      exact hhost.no_slash
  | some port =>
      rw [originText, Option.elim_some, ← String.append_assoc, ← String.append_assoc,
        endsWith_append (hlength (toString_ne_empty port))]
      refine Bool.eq_false_iff.mpr fun hends => ?_
      obtain ⟨before, hbefore⟩ := endsWith_iff.mp hends
      have hmem : '/' ∈ (toString port).toList := by
        rw [hbefore, String.toList_append]
        exact List.mem_append_right _ (by decide)
      exact absurd (isDigit_of_mem_toString hmem) (by decide)

/-- The printed origin does not end in a default port, because the parser leaves that out. -/
theorem no_default_originText (hhost : IsHostText host) (hport : port ≠ some 443) :
    endsWith (originText "https" host port) ":443" = false := by
  refine Bool.eq_false_iff.mpr fun hends => ?_
  cases port with
  | none =>
      rw [originText, Option.elim_none, String.append_empty] at hends
      by_cases hlen : ":443".toList.length ≤ host.toList.length
      · rw [endsWith_append hlen, hhost.no_port] at hends
        cases hends
      · -- A shorter host is an end of `:443`, and none of these follows the two slashes.
        have hsuffix : host.toList <:+ ":443".toList := by
          rw [endsWith, List.isSuffixOf_iff_suffix, String.toList_append] at hends
          exact List.suffix_of_suffix_length_le (List.suffix_append _ _) hends (by omega)
        have hhosts : ∀ tail ∈ ":443".toList.tails, tail = [] ∨ 4 ≤ tail.length ∨
            endsWith ("https" ++ "://" ++ String.ofList tail) ":443" = false := by decide
        rcases hhosts _ ((List.mem_tails _ _).mpr hsuffix) with hnil | hlong | hother
        · exact hhost.ne_empty (String.toList_eq_nil_iff.mp hnil)
        · exact hlen hlong
        · rw [String.ofList_toList, hends] at hother
          cases hother
  | some port =>
      -- What stands after the last colon is the port on one side and `443` on the other.
      obtain ⟨before, hbefore⟩ := endsWith_iff.mp hends
      have hdigits : ∀ c ∈ (toString port).toList.reverse, (c != ':') = true := by
        intro c hc
        rw [bne_iff_ne]
        rintro rfl
        exact absurd (isDigit_of_mem_toString (List.mem_reverse.mp hc)) (by decide)
      have hlast : (toString port).toList.reverse = ":443".toList.reverse.takeWhile (· != ':') := by
        have hreverse := congrArg (fun text : String => text.toList.reverse.takeWhile (· != ':'))
          hbefore
        simp only [originText, Option.elim_some, String.toList_append, List.reverse_append,
          List.append_assoc] at hreverse
        rw [List.takeWhile_append_of_pos hdigits] at hreverse
        exact (List.append_nil _).symm.trans hreverse
      have hport443 : toString port = toString 443 := by
        rw [← String.toList_inj, ← List.reverse_inj, hlast]
        rfl
      exact hport (congrArg some (toString_injective hport443))

end

/-- The canonical spelling prints the scheme, the host and the port. -/
theorem canonicalOrigin_eq_originText {url : Url} {host : String} (h : url.host = some host) :
    canonicalOrigin url = originText "https" host url.port := by
  rw [canonicalOrigin, h, originText]
  cases url.port with
  | none =>
      rw [Option.elim_none, String.append_empty]
      rfl
  | some port =>
      show "https://" ++ host ++ ":" ++ toString port = _
      rw [Option.elim_some, String.append_assoc, String.append_assoc]
      rfl

/-! ## Accepted texts -/

section
variable {lib : Library} {value check canonical : String}

/-- An accepted text, read back. It spells the canonical form up to a slash at its end and the
case of letters, and it may spell out the default port when the parser left it out. -/
theorem canonicalHttpsOrigin_eq_ok :
    canonicalHttpsOrigin lib value check = .ok canonical ↔
      value ≠ "" ∧ ∃ url, lib.parseUrl value = .ok url ∧ IsOrigin url ∧
        canonicalOrigin url = canonical ∧
        (toAsciiLowercase ((stripSuffixChar value '/').getD value) = toAsciiLowercase canonical ∨
          url.port = none ∧ toAsciiLowercase ((stripSuffixChar value '/').getD value) =
            toAsciiLowercase canonical ++ ":443") := by
  simp only [canonicalHttpsOrigin, bind_eq_ok, exists_unit, ensure_eq_ok, mapErr_eq_ok,
    Bool.not_eq_true', beq_eq_false_iff_ne, beq_iff_eq, Bool.and_eq_true, Bool.or_eq_true,
    Option.isNone_iff_eq_none, isEmpty]
  refine and_congr_right fun _ => exists_congr fun url => and_congr_right fun _ => ?_
  constructor
  · rintro ⟨hscheme, ⟨⟨⟨⟨⟨hhost, huser⟩, hpassword⟩, hpath⟩, hquery⟩, hfragment⟩, hspelled, hok⟩
    cases hok
    exact ⟨⟨hscheme, hhost, huser, hpassword, hpath, hquery, hfragment⟩, rfl, hspelled⟩
  · rintro ⟨⟨hscheme, hhost, huser, hpassword, hpath, hquery, hfragment⟩, rfl, hspelled⟩
    exact ⟨hscheme, ⟨⟨⟨⟨⟨hhost, huser⟩, hpassword⟩, hpath⟩, hquery⟩, hfragment⟩, hspelled, rfl⟩

variable (hparse : Reparses lib.parseUrl) (hhosts : PrintsHosts lib.parseUrl)
include hparse hhosts

/-- The canonical form of an accepted text is its normal form, which is computed from the text
alone and without a URL parser. -/
theorem canonicalHttpsOrigin_eq_normalForm
    (h : canonicalHttpsOrigin lib value check = .ok canonical) :
    originNormalForm value = canonical := by
  obtain ⟨-, url, hurl, horigin, rfl, hspelled⟩ := canonicalHttpsOrigin_eq_ok.mp h
  obtain ⟨host, hhost⟩ := Option.isSome_iff_exists.mp horigin.host
  have htext := hhosts.isHostText hurl horigin.scheme hhost
  have hport := hparse.default_port hurl horigin.scheme
  rw [canonicalOrigin_eq_originText hhost, lowercase_originText htext] at hspelled
  rw [canonicalOrigin_eq_originText hhost, originNormalForm]
  rcases hspelled with hsame | ⟨-, hdefault⟩
  · rw [hsame, withoutDefaultPort_eq_self (no_default_originText htext hport)]
  · rw [hdefault, withoutDefaultPort_append]

/-- A canonical form is accepted, as itself, under whatever name the check has. So canonicalising
twice is canonicalising once. -/
theorem canonicalHttpsOrigin_self (h : canonicalHttpsOrigin lib value check = .ok canonical)
    (other : String) : canonicalHttpsOrigin lib canonical other = .ok canonical := by
  obtain ⟨-, url, hurl, horigin, rfl, -⟩ := canonicalHttpsOrigin_eq_ok.mp h
  obtain ⟨host, hhost⟩ := Option.isSome_iff_exists.mp horigin.host
  have htext := hhosts.isHostText hurl horigin.scheme hhost
  obtain ⟨again, hagain, hisOrigin, hsameHost, hsamePort⟩ := hparse.reparse hurl horigin
  have hcanonical : canonicalOrigin again = canonicalOrigin url := by
    rw [canonicalOrigin, canonicalOrigin, hsameHost, hsamePort]
  have hslash : (stripSuffixChar (canonicalOrigin url) '/').getD (canonicalOrigin url) =
      canonicalOrigin url := by
    rw [canonicalOrigin_eq_originText hhost]
    exact stripSuffixChar_getD (no_slash_originText htext)
  refine canonicalHttpsOrigin_eq_ok.mpr
    ⟨?_, again, hagain, hisOrigin, hcanonical, .inl (congrArg _ hslash)⟩
  rw [canonicalOrigin_eq_originText hhost, originText]
  intro hempty
  have hlength := congrArg String.length hempty
  rw [String.length_append, String.length_append] at hlength
  exact absurd hlength (by simp)

end

/-- Two accepted texts have one canonical form exactly when they have one normal form. Every
canonical form is accepted as itself. So an issuer that passes the check against a pin is the
pin, up to one trailing slash, ASCII case and a default port. -/
theorem canonicalHttpsOrigin_exact {lib : Library} (hparse : Reparses lib.parseUrl)
    (hhosts : PrintsHosts lib.parseUrl) {a b checkA checkB canonicalA canonicalB : String}
    (ha : canonicalHttpsOrigin lib a checkA = .ok canonicalA)
    (hb : canonicalHttpsOrigin lib b checkB = .ok canonicalB) :
    (canonicalA = canonicalB ↔ originNormalForm a = originNormalForm b) ∧
    (∀ check, canonicalHttpsOrigin lib canonicalA check = .ok canonicalA) ∧
    ∀ claims iss, checkIssuer lib claims canonicalB = .ok iss →
      originNormalForm iss = originNormalForm b := by
  have hnormalA := canonicalHttpsOrigin_eq_normalForm hparse hhosts ha
  have hnormalB := canonicalHttpsOrigin_eq_normalForm hparse hhosts hb
  refine ⟨by rw [hnormalA, hnormalB], canonicalHttpsOrigin_self hparse hhosts ha, ?_⟩
  intro claims iss hiss
  have hissuer := (checkIssuer_eq_ok hiss).2
  rw [canonicalHttpsOrigin_eq_normalForm hparse hhosts hissuer, hnormalB]

/-! ## The URL parser -/

/-- The URL parser reads back a printed origin, if its host parser is lawful. -/
theorem parse_reparses {backend : Backend} (h : LawfulHosts backend) :
    Reparses (Whatwg.parse backend) where
  reparse := by
    intro value url hurl horigin
    have hspecial : Whatwg.isSpecial url.scheme = true := by
      rw [horigin.scheme]
      decide
    obtain ⟨⟨text, host, hparsed, hhost⟩, portText, hport⟩ :=
      Whatwg.parse_eq_ok_special hurl hspecial
    -- The parser leaves the default port out, so the port it has is not that one.
    have hports : ∀ p, url.port = some p →
        p ≤ 65535 ∧ some p ≠ Whatwg.defaultPort "https" := by
      intro p hp
      rw [horigin.scheme, hp] at hport
      exact Whatwg.parsePort_eq_some hport
    have hagain := Whatwg.parse_originText (h.isHost hparsed)
      (show Whatwg.isSpecial "https" = true by decide) (fun _ => rfl)
      (List.all_iff_forall_prop.mp (by decide)) hports
    rw [← canonicalOrigin_eq_originText hhost] at hagain
    exact ⟨_, hagain, ⟨rfl, rfl, rfl, rfl, rfl, rfl, rfl⟩, hhost.symm, rfl⟩
  default_port := by
    intro value url hurl hscheme hdefault
    have hspecial : Whatwg.isSpecial url.scheme = true := by
      rw [hscheme]
      decide
    obtain ⟨-, portText, hport⟩ := Whatwg.parse_eq_ok_special hurl hspecial
    rw [hscheme, hdefault] at hport
    exact (Whatwg.parsePort_eq_some hport).2 rfl

/-- It spells hosts as its host parser does: the host of a URL is what the host parser
returned. -/
theorem parse_printsHosts {backend : Backend}
    (h : ∀ {text host}, backend.parseHost text = .ok host → IsHostText host) :
    PrintsHosts (Whatwg.parse backend) where
  isHostText := by
    intro value url host hurl hscheme hhost
    have hspecial : Whatwg.isSpecial url.scheme = true := by
      rw [hscheme]
      decide
    obtain ⟨⟨text, other, hparsed, hother⟩, -⟩ := Whatwg.parse_eq_ok_special hurl hspecial
    rw [hhost] at hother
    cases hother
    exact h hparsed

/-! ## A host parser -/

/-- A character of a plain domain name. -/
def isDomainChar (c : Char) : Bool := c.isDigit || c.isLower || c == '.' || c == '-'

/-- A backend for plain domain names: they are lowered, and nothing else is a host. -/
def domainBackend : Backend where
  parseHost text :=
    if toAsciiLowercase text ≠ "" ∧ (toAsciiLowercase text).toList.all isDomainChar = true then
      .ok (toAsciiLowercase text)
    else .error "invalid domain character"
  parseOther _ _ := .error "unsupported scheme"
  parseOther_scheme h := Whatwg.scheme_of_error h

/-- The host parser for domains gives lowercase domains. -/
theorem parseHost_domainBackend {text host : String}
    (h : domainBackend.parseHost text = .ok host) :
    host ≠ "" ∧ toAsciiLowercase host = host ∧ ∀ c ∈ host.toList, isDomainChar c = true := by
  simp only [domainBackend] at h
  split at h
  · rename_i hguard
    cases h
    exact ⟨hguard.1, toAsciiLowercase_idem text, List.all_eq_true.mp hguard.2⟩
  · cases h

/-- A character of a domain stands in an authority and is neither a colon nor a bracket, so that
the authority splits where the port starts. -/
theorem isDomainChar_spec {c : Char} (h : isDomainChar c = true) :
    (Whatwg.isAuthorityChar c = true ∧ Whatwg.isC0OrSpace c = false) ∧
      (c == ':') = false ∧ (c == '[') = false := by
  have hascii : c.toNat < 128 := by
    simp only [isDomainChar, Bool.or_eq_true, beq_iff_eq, Char.isDigit, Char.isLower,
      Bool.and_eq_true, decide_eq_true_eq] at h
    obtain ((⟨-, hdigit⟩ | ⟨-, hletter⟩) | rfl) | rfl := h
    · exact Nat.lt_of_le_of_lt (show c.toNat ≤ 57 from hdigit) (by decide)
    · exact Nat.lt_of_le_of_lt (show c.toNat ≤ 122 from hletter) (by decide)
    · decide
    · decide
  exact forall_ascii (P := fun c => isDomainChar c = true →
    (Whatwg.isAuthorityChar c = true ∧ Whatwg.isC0OrSpace c = false) ∧
      (c == ':') = false ∧ (c == '[') = false) (by decide +kernel) hascii h

/-- It reads its own output back. -/
theorem domainBackend_lawful : LawfulHosts domainBackend where
  isHost := by
    intro text host h
    obtain ⟨hne, hlower, hchars⟩ := parseHost_domainBackend h
    have hsplit := Whatwg.splitPort_of_forall fun c hc => (isDomainChar_spec (hchars c hc)).2
    refine ⟨?_, hne, fun c hc => (isDomainChar_spec (hchars c hc)).1, hsplit.1, hsplit.2⟩
    simp only [domainBackend, hlower]
    exact if_pos ⟨hne, List.all_eq_true.mpr hchars⟩

/-- Its hosts are spelled as the canonical form needs them. -/
theorem domainBackend_isHostText {text host : String}
    (h : domainBackend.parseHost text = .ok host) : IsHostText host := by
  obtain ⟨hne, hlower, hchars⟩ := parseHost_domainBackend h
  -- An end with another character would put that character into the host.
  have hends : ∀ {suf : String} {c : Char}, c ∈ suf.toList → isDomainChar c = false →
      endsWith host suf = false := by
    intro suf c hc hother
    refine Bool.eq_false_iff.mpr fun hends => ?_
    obtain ⟨before, rfl⟩ := endsWith_iff.mp hends
    rw [hchars c (by rw [String.toList_append]; exact List.mem_append_right _ hc)] at hother
    cases hother
  exact ⟨hne, hlower, hends (show '/' ∈ "/".toList by decide) (by decide),
    hends (show ':' ∈ ":443".toList by decide) (by decide)⟩

/-- The crates of the fixture, with this parser. -/
def domainLibrary : Library := { fixtureLibrary with parseUrl := Whatwg.parse domainBackend }

/-- Two spellings of one issuer. -/
theorem canonicalHttpsOrigin_exact_case :
    canonicalHttpsOrigin domainLibrary "https://A.test:443/" "iss claim" = .ok "https://a.test" ∧
    canonicalHttpsOrigin domainLibrary "HTTPS://a.test" "expected_issuer" =
      .ok "https://a.test" ∧
    originNormalForm "https://A.test:443/" = originNormalForm "HTTPS://a.test" := by
  have hreceipt : canonicalHttpsOrigin domainLibrary "https://A.test:443/" "iss claim" =
      .ok "https://a.test" := rfl
  have hpin : canonicalHttpsOrigin domainLibrary "HTTPS://a.test" "expected_issuer" =
      .ok "https://a.test" := rfl
  have hexact := @canonicalHttpsOrigin_exact domainLibrary
    (parse_reparses domainBackend_lawful) (parse_printsHosts domainBackend_isHostText)
    _ _ _ _ _ _ hreceipt hpin
  exact ⟨hreceipt, hpin, hexact.1.mp rfl⟩

end TrustedRouter.Proofs.Receipts
