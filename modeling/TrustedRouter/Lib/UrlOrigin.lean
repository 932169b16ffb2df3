import TrustedRouter.Lib.UrlPath

/-!
# `TrustedRouter.Lib.UrlOrigin`: an origin, printed and parsed again

What comes out of the host parser is the serialisation of a host: a domain, an address, or an
address in brackets. `IsHost` is what the URL parser needs of it: the host parser gives it back,
and no character of it ends the authority or starts a port. `originText` prints a scheme, a host
and a port. `parse_originText` is the round trip, and `parse_eq_ok_special` says where the host
and the port of a parsed URL come from.
-/

set_option autoImplicit false

namespace Whatwg

open Rust.Str
open Rust.Result

/-- The serialisation of a host. -/
structure IsHost (lib : Backend) (host : String) : Prop where
  parsed : lib.parseHost host = .ok host
  ne_empty : host ≠ ""
  chars : ∀ c ∈ host.toList, isAuthorityChar c = true ∧ isC0OrSpace c = false
  whole : splitPort false host.toList = (host.toList, none)
  before_port : ∀ rest, splitPort false (host.toList ++ ':' :: rest) = (host.toList, some rest)

/-- The host parser returns serialisations of hosts. -/
structure LawfulHosts (lib : Backend) : Prop where
  isHost : ∀ {text host}, lib.parseHost text = .ok host → IsHost lib host

/-- A name without colons and brackets is a host, with or without a port behind it. -/
theorem splitPort_of_forall {name : List Char}
    (h : ∀ c ∈ name, (c == ':') = false ∧ (c == '[') = false) :
    splitPort false name = (name, none) ∧
      ∀ rest, splitPort false (name ++ ':' :: rest) = (name, some rest) := by
  induction name with
  | nil => exact ⟨rfl, fun rest => rfl⟩
  | cons c name ih =>
      obtain ⟨⟨hcolon, hopen⟩, hname⟩ := List.forall_mem_cons.mp h
      obtain ⟨hwhole, hport⟩ := ih hname
      -- Outside brackets a closing one changes nothing.
      have hstate : (if (c == '[') = true then true
          else if (c == ']') = true then false else false) = false := by
        rw [hopen]
        exact ite_self false
      refine ⟨?_, fun rest => ?_⟩
      · rw [splitPort, hcolon, hstate, hwhole]
        rfl
      · rw [List.cons_append, splitPort, hcolon, hstate, hport rest]
        rfl

/-! ## Ports -/

/-- A port that was read is 16 bits, and is not the default of its scheme, which is left out. -/
theorem parsePort_eq_some {scheme : String} {text : Option (List Char)} {port : Nat}
    (h : parsePort scheme text = .ok (some port)) :
    port ≤ 65535 ∧ some port ≠ defaultPort scheme := by
  unfold parsePort at h
  split at h
  · cases h
  · cases h
  · dsimp only at h
    split at h
    · rename_i hguard
      rw [Bool.and_eq_true, decide_eq_true_eq] at hguard
      split at h
      · cases h
      · rename_i hdefault
        cases h
        exact ⟨hguard.2, hdefault⟩
    · cases h

/-- Such a port is read back from its digits. -/
theorem parsePort_toString {scheme : String} {port : Nat} (hle : port ≤ 65535)
    (hdefault : some port ≠ defaultPort scheme) :
    parsePort scheme (some (toString port).toList) = .ok (some port) := by
  have hvalue : (toString port).toList.foldl (fun acc c => 10 * acc + (c.toNat - 48)) 0 = port := by
    rw [Nat.toString_eq_ofList_toDigits, String.toList_ofList]
    exact Nat.ofDigitChars_toDigits (by decide) (by decide)
  have hall : (toString port).toList.all Char.isDigit = true :=
    List.all_eq_true.mpr fun c hc => isDigit_of_mem_toString hc
  cases htext : (toString port).toList with
  | nil => exact absurd (String.toList_eq_nil_iff.mp htext) (toString_ne_empty port)
  | cons c rest =>
      rw [htext] at hvalue hall
      simp only [parsePort, hvalue, hall, hle, decide_true, Bool.and_self, if_true,
        if_neg hdefault]

/-! ## Printing -/

/-- A scheme, a host and a port. -/
def originText (scheme host : String) (port : Option Nat) : String :=
  scheme ++ "://" ++ (host ++ port.elim "" fun port => ":" ++ toString port)

section
variable {lib : Backend} {host : String} (h : IsHost lib host) {port : Option Nat}
include h

/-- The host and the port, as they are printed, are characters of an authority and are not
cleaned. -/
theorem IsHost.chars_port : ∀ c ∈ (host ++ port.elim "" fun port => ":" ++ toString port).toList,
    isAuthorityChar c = true ∧ isC0OrSpace c = false := by
  intro c hc
  rw [String.toList_append] at hc
  rcases List.mem_append.mp hc with hc | hc
  · exact h.chars c hc
  cases port with
  | none => cases hc
  | some port =>
      rw [Option.elim_some, String.toList_append] at hc
      rcases List.mem_append.mp hc with hc | hc
      · rw [List.mem_singleton.mp hc]
        decide
      · exact isAuthorityChar_of_isDigit (isDigit_of_mem_toString hc)

/-- The host and the port are told apart again. -/
theorem IsHost.splitPort_text :
    splitPort false (host ++ port.elim "" fun port => ":" ++ toString port).toList =
      (host.toList, port.map fun port => (toString port).toList) := by
  cases port with
  | none =>
      rw [Option.elim_none, String.append_empty, h.whole]
      rfl
  | some port =>
      rw [Option.elim_some, String.toList_append, String.toList_append]
      exact h.before_port (toString port).toList

/-- What is printed is parsed as it was, with the root path. -/
theorem parse_originText {scheme : String} (hspecial : isSpecial scheme = true)
    (hscheme : ∀ rest, splitScheme (scheme.toList ++ ':' :: rest) = some (scheme, rest))
    (hblank : ∀ c ∈ scheme.toList, isC0OrSpace c = false)
    (hport : ∀ p, port = some p → p ≤ 65535 ∧ some p ≠ defaultPort scheme) :
    parse lib (originText scheme host port) =
      .ok { scheme, host := some host, port, path := .segments [""] } := by
  have hchars := @IsHost.chars_port _ _ h port
  have hclean := cleanEnd_of_not_blank fun c hc => (hchars c hc).2
  -- A third slash would be skipped with the two of the scheme.
  have hslash : ∀ c, (host ++ port.elim "" fun port => ":" ++ toString port).toList.head? =
      some c → isSlash c = false := by
    intro c hc
    have hends := (Bool.and_eq_true_iff.mp (hchars c (List.mem_of_mem_head? hc)).1).1
    rw [Bool.not_eq_true', endsAuthority, Bool.or_eq_false_iff, Bool.or_eq_false_iff] at hends
    exact hends.1.1
  have hnonempty : host.toList.isEmpty = false :=
    List.isEmpty_eq_false_iff.mpr fun hnil => h.ne_empty (String.toList_eq_nil_iff.mp hnil)
  rw [originText, parse_special lib hspecial hscheme hblank (by rwa [hclean]), hclean]
  have hauthority := @parseAuthority_eq_ok lib scheme
    (host ++ port.elim "" fun port => ":" ++ toString port).toList []
    { scheme, host := some host, port, path := .segments [""] } (fun c hc => (hchars c hc).1)
    (fun c hc => nomatch hc)
  -- The authority is all of the text, so the path behind it is the empty one.
  rw [List.append_nil, h.splitPort_text] at hauthority
  refine hauthority.mpr ⟨hnonempty, host, ?_, port, ?_, rfl⟩
  · rw [String.ofList_toList]
    exact h.parsed
  · cases port with
    | none => rfl
    | some p => exact parsePort_toString (hport p rfl).1 (hport p rfl).2

end

/-- Where the host and the port of a URL with a special scheme come from. A URL of another scheme
is read by `parseOther`, whose law excludes that here. -/
theorem parse_eq_ok_special {lib : Backend} {input : String} {url : Url}
    (h : parse lib input = .ok url) (hspecial : isSpecial url.scheme = true) :
    (∃ text host, lib.parseHost text = .ok host ∧ url.host = some host) ∧
      ∃ text, parsePort url.scheme text = .ok url.port := by
  unfold parse at h
  split at h
  · cases h
  · split at h
    · simp only [parseAuthority, bind_eq_ok, exists_unit] at h
      obtain ⟨-, host, hhost, port, hport, hurl⟩ := h
      cases hurl
      exact ⟨⟨_, host, hhost, rfl⟩, _, hport⟩
    · rename_i hother
      rw [← lib.parseOther_scheme h] at hother
      exact absurd hspecial hother

end Whatwg
