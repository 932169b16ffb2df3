import TrustedRouter.Transport.Headers

/-!
# `TrustedRouter.Proofs.Transport.Headers`: what an attempt's headers depend on

Two assemblies of one call differ in nothing but `x-tr-client`, whatever the recorder says
in either. `requestHeaders_agree` proves it layer by layer, with one lemma for each of the
steps that write a header. `requestHeaders_idempotencyKey` says that an idempotency key of
the call replaces every entry of that name in the caller's own maps.

A caller's map can spell one name in several ways. `getAll_parseLayer` says what its layer holds
under a name: the values of all spellings, in map order. An assembly that fails is a failure of
the configuration (`requestHeaders_error`), which is never retried.
-/

set_option autoImplicit false

namespace TrustedRouter.Proofs.Transport

open TrustedRouter.Transport
open Rust (Bytes)
open Rust.Str
open Rust.Result
open Http (HeaderMap AgreeExcept)

/-- Enforcing the reserved header touches no other, whether or not there is a value to put
there. -/
theorem enforce_agree (headers : HeaderMap) (telemetry : Option String) :
    AgreeExcept "x-tr-client" (enforceReservedTelemetryHeader headers telemetry) headers := by
  unfold enforceReservedTelemetryHeader
  dsimp only
  split
  · exact (AgreeExcept.insert_self _ _ _).trans (AgreeExcept.remove_self _ _)
  · exact AgreeExcept.remove_self _ _

/-- What enforcing the reserved header leaves there: the recorder's value, if it is one of a header.
-/
theorem getAll_enforce (headers : HeaderMap) (telemetry : Option String) :
    (enforceReservedTelemetryHeader headers telemetry).getAll "x-tr-client" =
      (telemetry.bind fun value => (Http.parseValue value).toOption).toList := by
  unfold enforceReservedTelemetryHeader
  dsimp only
  split
  · rename_i value hvalue
    rw [hvalue]
    exact HeaderMap.getAll_insert_self _ _ _
  · rename_i hnone
    rw [hnone]
    exact HeaderMap.getAll_remove_self _ _

/-- A credential slot is set alike in two maps that agree. -/
theorem setOwned_agree {reserved name : String} {headers headers' a b : HeaderMap}
    {value : Option String} {format : String → String}
    (hagree : AgreeExcept reserved headers headers')
    (ha : setOwned headers name value format = .ok a)
    (hb : setOwned headers' name value format = .ok b) : AgreeExcept reserved a b := by
  unfold setOwned at ha hb
  dsimp only at ha hb
  -- A value that is given clears the name, also when it is empty.
  have hcleared : AgreeExcept reserved
      (if value.isSome then headers.remove name else headers)
      (if value.isSome then headers'.remove name else headers') := by
    split
    · exact hagree.remove name
    · exact hagree
  cases hvalue : value.filter (fun value => !isEmpty value) with
  | none =>
      rw [hvalue] at ha hb
      cases ha
      cases hb
      exact hcleared
  | some text =>
      rw [hvalue] at ha hb
      obtain ⟨parsed, hparsed, ha⟩ := bind_eq_ok.mp ha
      obtain ⟨parsed', hparsed', hb⟩ := bind_eq_ok.mp hb
      rw [hparsed] at hparsed'
      cases hparsed'
      cases ha
      cases hb
      exact hcleared.insert name parsed

/-- Two assemblies of one call agree at every name but the reserved one. The recorder enters last,
after everything else is in the map. -/
theorem requestHeaders_agree {userAgent : String} {client : Client} {options : CallOptions}
    {telemetry telemetry' : Option String} {a b : HeaderMap}
    (ha : requestHeaders userAgent client options telemetry = .ok a)
    (hb : requestHeaders userAgent client options telemetry' = .ok b) :
    AgreeExcept "x-tr-client" a b := by
  simp only [requestHeaders, bind_eq_ok] at ha hb
  obtain ⟨clientLayer, hclient, callLayer, hcall, agent, hagent, withKey, hkey,
    withWorkspace, hworkspace, ha⟩ := ha
  obtain ⟨clientLayer', hclient', callLayer', hcall', agent', hagent', withKey', hkey',
    withWorkspace', hworkspace', hb⟩ := hb
  rw [hclient] at hclient'
  rw [hcall] at hcall'
  rw [hagent] at hagent'
  cases hclient'
  cases hcall'
  cases hagent'
  -- The layers and the agent are the same, so only the recorder's slot differs so far.
  have henforced := (enforce_agree ((HeaderMap.extend [] clientLayer).extend callLayer)
    telemetry).trans (enforce_agree ((HeaderMap.extend [] clientLayer).extend callLayer)
    telemetry').symm
  have hauthorized := setOwned_agree (henforced.insert "user-agent" agent) hkey hkey'
  have hscoped := setOwned_agree hauthorized hworkspace hworkspace'
  cases hfilter : options.idempotencyKey.filter (fun value => !isEmpty value) with
  | none =>
      rw [hfilter] at ha hb
      cases ha
      cases hb
      exact hscoped
  | some key =>
      rw [hfilter] at ha hb
      obtain ⟨value, hvalue, ha⟩ := bind_eq_ok.mp ha
      obtain ⟨value', hvalue', hb⟩ := bind_eq_ok.mp hb
      rw [hvalue] at hvalue'
      cases hvalue'
      cases ha
      cases hb
      exact hscoped.insert "idempotency-key" value

/-- A credential slot can be set in any map or in none: only its value can fail to parse. -/
theorem setOwned_total {name : String} {headers headers' a : HeaderMap} {value : Option String}
    {format : String → String} (h : setOwned headers name value format = .ok a) :
    ∃ b, setOwned headers' name value format = .ok b := by
  unfold setOwned at h ⊢
  dsimp only at h ⊢
  cases hvalue : value.filter (fun value => !isEmpty value) with
  | none => exact ⟨_, rfl⟩
  | some text =>
      rw [hvalue] at h
      obtain ⟨parsed, hparsed, -⟩ := bind_eq_ok.mp h
      exact ⟨_, bind_eq_ok.mpr ⟨parsed, hparsed, rfl⟩⟩

/-- Whether the headers of a call assemble does not depend on the recorder. A value of the
recorder that does not parse is skipped, and fails nothing. -/
theorem requestHeaders_total {userAgent : String} {client : Client} {options : CallOptions}
    {telemetry : Option String}
    (h : ∃ headers, requestHeaders userAgent client options telemetry = .ok headers)
    (telemetry' : Option String) :
    ∃ headers, requestHeaders userAgent client options telemetry' = .ok headers := by
  obtain ⟨headers, h⟩ := h
  simp only [requestHeaders, bind_eq_ok] at h
  obtain ⟨clientLayer, hclient, callLayer, hcall, agent, hagent, withKey, hkey,
    withWorkspace, hworkspace, hidempotency⟩ := h
  -- The client header is set first, and what is set after it does not depend on it.
  obtain ⟨withKey', hkey'⟩ := setOwned_total hkey
  obtain ⟨withWorkspace', hworkspace'⟩ := setOwned_total hworkspace
  cases hfilter : options.idempotencyKey.filter (fun value => !isEmpty value) with
  | none =>
      refine ⟨withWorkspace', ?_⟩
      simp only [requestHeaders, bind_eq_ok, hfilter]
      exact ⟨clientLayer, hclient, callLayer, hcall, agent, hagent, withKey', hkey',
        withWorkspace', hworkspace', rfl⟩
  | some key =>
      rw [hfilter] at hidempotency
      obtain ⟨value, hvalue, -⟩ := bind_eq_ok.mp hidempotency
      refine ⟨withWorkspace'.insert "idempotency-key" value, ?_⟩
      simp only [requestHeaders, bind_eq_ok, hfilter]
      exact ⟨clientLayer, hclient, callLayer, hcall, agent, hagent, withKey', hkey',
        withWorkspace', hworkspace', value, hvalue, rfl⟩

/-- A header value keeps the bytes of its text. -/
theorem parseHeaderValue_ok {text : String} {value : Rust.Bytes}
    (h : parseHeaderValue text = .ok value) : value = bytes text := by
  have hparsed := mapErr_eq_ok.mp h
  unfold Http.parseValue at hparsed
  split at hparsed
  · cases hparsed; rfl
  · cases hparsed

/-- The key of the call is the only idempotency key that is sent. -/
theorem requestHeaders_idempotencyKey {userAgent key : String} {client : Client}
    {options : CallOptions} {telemetry : Option String} {headers : HeaderMap}
    (h : requestHeaders userAgent client options telemetry = .ok headers)
    (hkey : options.idempotencyKey = some key) (hne : key ≠ "") :
    headers.getAll "idempotency-key" = [bytes key] := by
  simp only [requestHeaders, bind_eq_ok] at h
  obtain ⟨_, _, _, _, _, _, _, _, _, _, h⟩ := h
  have hfilter : options.idempotencyKey.filter (fun value => !isEmpty value) = some key := by
    rw [hkey, Option.filter_some, isEmpty_eq_false_iff.mpr hne]
    rfl
  rw [hfilter] at h
  obtain ⟨value, hvalue, h⟩ := bind_eq_ok.mp h
  cases h
  rw [HeaderMap.getAll_insert_self, parseHeaderValue_ok hvalue]

/-! ## Parsed layers -/

/-- The values that a layer gives a name, over all its spellings, in map order. -/
def valuesOf (layer : List (String × String)) (name : String) : List Bytes :=
  (layer.filter fun entry => eqIgnoreAsciiCase entry.1 name).map fun entry => bytes entry.2

/-- A layer without its entries for the reserved header. -/
def withoutReserved (layer : List (String × String)) : List (String × String) :=
  layer.filter fun entry => !eqIgnoreAsciiCase entry.1 "x-tr-client"

/-- A header name is kept in lower case, as `HeaderName` keeps it. -/
theorem parseHeaderName_ok {text name : String} (h : parseHeaderName text = .ok name) :
    name = toAsciiLowercase text := by
  have hparsed := mapErr_eq_ok.mp h
  unfold Http.parseName at hparsed
  split at hparsed
  · cases hparsed; rfl
  · cases hparsed

/-- A parsed layer has the values of all spellings of a name, in map order. -/
theorem getAll_parseLayer {layer : List (String × String)} {parsed out : HeaderMap}
    (h : parseLayer layer parsed = .ok out) (name : String) :
    out.getAll (toAsciiLowercase name) =
      parsed.getAll (toAsciiLowercase name) ++ valuesOf (withoutReserved layer) name := by
  induction layer generalizing parsed with
  | nil =>
      cases h
      exact (List.append_nil _).symm
  | cons entry rest ih =>
      obtain ⟨key, value⟩ := entry
      rw [parseLayer] at h
      split at h
      · rename_i hreserved
        -- A reserved name is skipped.
        rw [ih h, withoutReserved, withoutReserved, List.filter_cons_of_neg (by simp [hreserved])]
      · rename_i hkept
        obtain ⟨parsedName, hparsedName, h⟩ := bind_eq_ok.mp h
        obtain ⟨parsedValue, hparsedValue, h⟩ := bind_eq_ok.mp h
        rw [ih h, parseHeaderName_ok hparsedName, parseHeaderValue_ok hparsedValue,
          withoutReserved, withoutReserved, List.filter_cons_of_pos (by simp [hkept]), valuesOf,
          valuesOf, List.filter_cons]
        by_cases hkey : toAsciiLowercase key = toAsciiLowercase name
        · rw [if_pos (eqIgnoreAsciiCase_iff.mpr hkey), hkey, HeaderMap.getAll_append_self,
            List.map_cons, List.append_assoc, List.singleton_append]
        · rw [if_neg (mt eqIgnoreAsciiCase_iff.mp hkey),
            HeaderMap.getAll_append_of_ne _ _ (Ne.symm hkey)]

/-! ## Failures -/

/-- A value that does not parse is a mistake of the configuration. -/
theorem parseHeaderValue_error {text : String} {error : Error}
    (h : parseHeaderValue text = .error error) :
    ∃ detail, error = .invalidConfiguration detail := by
  unfold parseHeaderValue mapErr at h
  split at h
  · cases h
  · cases h
    exact ⟨_, rfl⟩

/-- A layer that does not parse is a mistake of the configuration, in one of its names or one of its
values. -/
theorem parseLayer_error {layer : List (String × String)} {parsed : HeaderMap} {error : Error}
    (h : parseLayer layer parsed = .error error) :
    ∃ detail, error = .invalidConfiguration detail := by
  induction layer generalizing parsed with
  | nil => cases h
  | cons entry rest ih =>
      rw [parseLayer] at h
      split at h
      · exact ih h
      · rcases bind_eq_error.mp h with hname | ⟨name, -, h⟩
        · unfold parseHeaderName mapErr at hname
          split at hname
          · cases hname
          · cases hname
            exact ⟨_, rfl⟩
        · rcases bind_eq_error.mp h with hvalue | ⟨value, -, h⟩
          · exact parseHeaderValue_error hvalue
          · exact ih h

/-- A slot that cannot be set is a mistake of the configuration. -/
theorem setOwned_error {headers : HeaderMap} {name : String} {value : Option String}
    {format : String → String} {error : Error}
    (h : setOwned headers name value format = .error error) :
    ∃ detail, error = .invalidConfiguration detail := by
  unfold setOwned at h
  dsimp only at h
  split at h
  · cases h
  · rcases bind_eq_error.mp h with hvalue | ⟨_, -, h⟩
    · exact parseHeaderValue_error hvalue
    · cases h

/-- Headers that do not assemble are a mistake of the configuration, and so are never retried. -/
theorem requestHeaders_error {userAgent : String} {client : Client} {options : CallOptions}
    {telemetry : Option String} {error : Error}
    (h : requestHeaders userAgent client options telemetry = .error error) :
    ∃ detail, error = .invalidConfiguration detail := by
  simp only [requestHeaders, bind_eq_error] at h
  rcases h with h | ⟨_, -, h | ⟨_, -, h | ⟨_, -, h | ⟨_, -, h | ⟨_, -, h⟩⟩⟩⟩⟩
  · exact parseLayer_error h
  · exact parseLayer_error h
  · exact parseHeaderValue_error h
  · exact setOwned_error h
  · exact setOwned_error h
  · split at h
    · cases h
    · rcases bind_eq_error.mp h with hvalue | ⟨_, -, h⟩
      · exact parseHeaderValue_error hvalue
      · cases h

end TrustedRouter.Proofs.Transport
