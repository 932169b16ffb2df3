import TrustedRouter.Proofs.Transport.Headers
import TrustedRouter.Telemetry.Recorder

/-!
# `TrustedRouter.Proofs.Transport.HeaderLayers`: every header of an attempt

`request_headers` lays the call's headers over the client's and then writes the headers that
the SDK owns. `layered` says what an attempt has under each name, without the order of these
steps, and `requestHeaders_layered` that the assembly gives exactly that. A name is looked up
without regard to case: a layer can have several spellings of one name, and all their values
count.

The value of `x-tr-client` is the recorder's. `parseValue_headerValue` shows that it is a header
value, so that it is never skipped.
-/

set_option autoImplicit false

namespace TrustedRouter.Proofs.Transport

open TrustedRouter.Transport
open TrustedRouter.Telemetry (RequestRecorder finalizeHeader validValue)
open Rust (Bytes)
open Rust.Str
open Rust.Result
open Http (HeaderMap AgreeExcept)

/-! ## The recorder's value -/

/-- A text all of whose characters are ASCII and no control characters. -/
def isPlainText (text : String) : Bool := text.toList.all fun c => 32 ≤ c.toNat && c.toNat < 127

/-- Plain texts, one behind the other. -/
theorem isPlainText_append {a b : String} (ha : isPlainText a = true)
    (hb : isPlainText b = true) : isPlainText (a ++ b) = true := by
  unfold isPlainText at *
  rw [String.toList_append, List.all_append, ha, hb]
  rfl

/-- Such a text is a header value. -/
theorem parseValue_of_isPlainText {text : String} (h : isPlainText text = true) :
    Http.parseValue text = .ok (bytes text) := by
  have hall : ((bytes text).all fun b => (32 ≤ b && b != 127) || b == 9) = true := by
    rw [List.all_eq_true]
    intro b hb
    rw [bytes_eq_flatMap, List.mem_flatMap] at hb
    obtain ⟨c, hc, hb⟩ := hb
    have hplain := List.all_eq_true.mp h c hc
    rw [Bool.and_eq_true, decide_eq_true_eq, decide_eq_true_eq] at hplain
    -- An ASCII character is one byte, its own number.
    have hval : c.val.toNat = c.toNat := rfl
    have hencode : String.utf8EncodeChar c = [UInt8.ofNat c.toNat] := by
      simp only [String.utf8EncodeChar, hval]
      rw [if_pos (by omega)]
    rw [hencode, List.mem_singleton] at hb
    have hb : b.toNat = c.toNat := by
      rw [hb, UInt8.toNat_ofNat']
      omega
    have hlow : 32 ≤ b := by
      rw [UInt8.le_iff_toNat_le, hb]
      exact hplain.1
    have hne : b ≠ 127 := by
      rintro rfl
      rw [show (127 : UInt8).toNat = 127 from rfl] at hb
      omega
    simp only [hlow, decide_true, Bool.true_and, bne_iff_ne.mpr hne, Bool.true_or]
  rw [Http.parseValue, if_pos hall]

/-- A value that the grammar of the header admits is plain text. -/
theorem isPlainText_of_validValue {value : String} (h : validValue value = true) :
    isPlainText value = true := by
  simp only [validValue, Bool.and_eq_true] at h
  rw [isPlainText, List.all_eq_true]
  intro c hc
  have hvalid := List.all_eq_true.mp h.2 c hc
  simp only [Bool.or_eq_true, Bool.and_eq_true, decide_eq_true_eq, beq_iff_eq, Char.le_def,
    UInt32.le_iff_toNat_le] at hvalid
  rw [Bool.and_eq_true, decide_eq_true_eq, decide_eq_true_eq]
  show 32 ≤ c.val.toNat ∧ c.val.toNat < 127
  rcases hvalid with (⟨hlow, hhigh⟩ | ⟨hlow, hhigh⟩) | rfl
  · rw [show ('a' : Char).val.toNat = 97 from rfl] at hlow
    rw [show ('z' : Char).val.toNat = 122 from rfl] at hhigh
    omega
  · rw [show ('0' : Char).val.toNat = 48 from rfl] at hlow
    rw [show ('9' : Char).val.toNat = 57 from rfl] at hhigh
    omega
  · decide

/-- Fields with a semicolon between them are plain text, by induction on the fields. -/
theorem isPlainText_intercalate {fields : List String}
    (h : ∀ field ∈ fields, isPlainText field = true) :
    isPlainText (String.intercalate ";" fields) = true := by
  induction fields with
  | nil => rfl
  | cons field rest ih =>
      obtain ⟨hfield, hrest⟩ := List.forall_mem_cons.mp h
      cases rest with
      | nil =>
          rw [String.intercalate_singleton]
          exact hfield
      | cons next rest =>
          rw [String.intercalate_cons_cons]
          exact isPlainText_append (isPlainText_append hfield (by decide)) (ih hrest)

/-- The keys of the header. -/
def headerKeys : List String := ["v", "a", "po", "pc", "ph", "pm", "sm", "s", "fo"]

/-- Every field of the recorder has one of the nine keys, whichever of its branches the recorder
takes. -/
theorem headerFields_keys {recorder : RequestRecorder} {fields : List (String × String)}
    (h : recorder.headerFields = some fields) : ∀ field ∈ fields, field.1 ∈ headerKeys := by
  simp only [RequestRecorder.headerFields, Option.bind_eq_some_iff] at h
  obtain ⟨index, -, host, -, h⟩ := h
  split at h
  · cases h
  · split at h
    · simp only [Option.bind_eq_some_iff, Option.map_eq_some_iff] at h
      obtain ⟨previous, -, started, -, rfl⟩ := h
      simp [RequestRecorder.previousFields, headerKeys]
    · cases h
      simp [headerKeys]

/-- What the recorder yields is a header value, so that `enforce_reserved_telemetry_header` never
has to skip it. -/
theorem parseValue_headerValue {recorder : RequestRecorder} {value : String}
    (h : recorder.headerValue = some value) : Http.parseValue value = .ok (bytes value) := by
  obtain ⟨fields, hfields, hvalue⟩ := Option.bind_eq_some_iff.mp h
  unfold finalizeHeader at hvalue
  split at hvalue
  · cases hvalue
  · rename_i hvalid
    dsimp only at hvalue
    split at hvalue
    · cases hvalue
    · cases hvalue
      apply parseValue_of_isPlainText
      apply isPlainText_intercalate
      intro text htext
      obtain ⟨field, hfield, rfl⟩ := List.mem_map.mp htext
      rw [Bool.not_eq_true, Bool.not_eq_false', List.all_eq_true] at hvalid
      have hkeys : ∀ key ∈ headerKeys, isPlainText key = true := by decide
      exact isPlainText_append
        (isPlainText_append (hkeys _ (headerFields_keys hfields field hfield)) (by decide))
        (isPlainText_of_validValue (hvalid field hfield))

/-! ## The layers -/

/-- The values that callers give a name: the call's, or else the client's. -/
def callerValues (client : Client) (options : CallOptions) (name : String) : List Bytes :=
  if valuesOf options.headers name = [] then valuesOf client.headers name
  else valuesOf options.headers name

/-- A header that the SDK owns once its option is set: an empty option leaves nothing, and an
absent one what callers gave. -/
def slot (value : Option String) (format : String → String) (callers : List Bytes) :
    List Bytes :=
  match value with
  | none => callers
  | some text => if text = "" then [] else [bytes (format text)]

/-- What an attempt has under a name. -/
def layered (userAgent : String) (client : Client) (options : CallOptions)
    (telemetry : Option String) (name : String) : List Bytes :=
  let callers := callerValues client options name
  if eqIgnoreAsciiCase name "x-tr-client" then (telemetry.map bytes).toList
  else if eqIgnoreAsciiCase name "user-agent" then [bytes userAgent]
  else if eqIgnoreAsciiCase name "authorization" then
    slot (options.apiKey.or client.apiKey) ("Bearer " ++ ·) callers
  else if eqIgnoreAsciiCase name "x-trustedrouter-workspace" then
    slot (options.workspaceId.or client.workspaceId) id callers
  else if eqIgnoreAsciiCase name "idempotency-key" then
    slot (options.idempotencyKey.filter fun value => !isEmpty value) id callers
  else callers

/-- A name is a spelling of a lowercase one when its lowercase form is that one. -/
theorem eqIgnoreAsciiCase_lower {name lower : String} (hlower : toAsciiLowercase lower = lower) :
    (eqIgnoreAsciiCase name lower = true) = (toAsciiLowercase name = lower) := by
  rw [eqIgnoreAsciiCase_iff, hlower]

/-- The entries for the reserved header are no values of another name, so that leaving them out
changes nothing there. -/
theorem valuesOf_withoutReserved (layer : List (String × String)) {name : String}
    (hname : toAsciiLowercase name ≠ "x-tr-client") :
    valuesOf (withoutReserved layer) name = valuesOf layer name := by
  have hfilter : (withoutReserved layer).filter (fun entry => eqIgnoreAsciiCase entry.1 name) =
      layer.filter fun entry => eqIgnoreAsciiCase entry.1 name := by
    rw [withoutReserved, List.filter_filter]
    refine List.filter_congr ?_
    intro entry _
    by_cases hspells : eqIgnoreAsciiCase entry.1 name = true
    · have hother : eqIgnoreAsciiCase entry.1 "x-tr-client" = false := by
        rw [Bool.eq_false_iff, Ne, eqIgnoreAsciiCase_lower (by decide),
          eqIgnoreAsciiCase_iff.mp hspells]
        exact hname
      rw [hspells, hother]
      rfl
    · rw [Bool.eq_false_iff.mpr hspells, Bool.false_and]
  rw [valuesOf, valuesOf, hfilter]

/-- Parsing a layer never looks at the entries for the reserved header. -/
theorem parseLayer_withoutReserved (layer : List (String × String)) (parsed : HeaderMap) :
    parseLayer (withoutReserved layer) parsed = parseLayer layer parsed := by
  induction layer generalizing parsed with
  | nil => rfl
  | cons entry rest ih =>
      obtain ⟨key, value⟩ := entry
      rw [withoutReserved, List.filter_cons]
      cases hkey : eqIgnoreAsciiCase key "x-tr-client" with
      | true =>
          rw [parseLayer, if_pos hkey, ← ih parsed]
          rfl
      | false =>
          rw [if_pos (by rfl), parseLayer, parseLayer, hkey]
          exact bind_congr fun _ => bind_congr fun _ => ih _

/-! ## The headers that the SDK owns -/

/-- The value of a recorder is never skipped, so that the reserved header is there exactly when
the recorder has a value. -/
theorem getAll_enforceRecorder (headers : HeaderMap) (recorder : Option RequestRecorder) :
    (enforceReservedTelemetryHeader headers (recorder.bind RequestRecorder.headerValue)).getAll
        "x-tr-client" =
      ((recorder.bind RequestRecorder.headerValue).map bytes).toList := by
  rw [getAll_enforce]
  cases hvalue : recorder.bind RequestRecorder.headerValue with
  | none => rfl
  | some value =>
      obtain ⟨recorder, -, hheader⟩ := Option.bind_eq_some_iff.mp hvalue
      rw [Option.bind_some, parseValue_headerValue hheader]
      rfl

/-- What setting a credential slot can do: nothing without an option, clearing it for an empty
one, and replacing it otherwise. -/
theorem setOwned_cases {headers out : HeaderMap} {name : String} {value : Option String}
    {format : String → String} (h : setOwned headers name value format = .ok out) :
    (value = none ∧ out = headers) ∨
      (value = some "" ∧ out = headers.remove name) ∨
      (∃ text, value = some text ∧ text ≠ "" ∧
        out = (headers.remove name).insert name (bytes (format text))) := by
  unfold setOwned at h
  cases value with
  | none =>
      cases h
      exact .inl ⟨rfl, rfl⟩
  | some text =>
      by_cases hempty : text = ""
      · subst hempty
        cases h
        exact .inr (.inl ⟨rfl, rfl⟩)
      · rw [Option.filter_some, isEmpty_eq_false_iff.mpr hempty] at h
        obtain ⟨parsed, hparsed, h⟩ := bind_eq_ok.mp h
        cases h
        rw [parseHeaderValue_ok hparsed]
        exact .inr (.inr ⟨text, rfl, hempty, rfl⟩)

/-- A credential slot decides its own name. -/
theorem getAll_setOwned_self {headers out : HeaderMap} {name : String} {value : Option String}
    {format : String → String} (h : setOwned headers name value format = .ok out) :
    out.getAll name = slot value format (headers.getAll name) := by
  obtain ⟨rfl, rfl⟩ | ⟨rfl, rfl⟩ | ⟨text, rfl, hempty, rfl⟩ := setOwned_cases h
  · rfl
  · exact HeaderMap.getAll_remove_self headers name
  · rw [HeaderMap.getAll_insert_self, slot, if_neg hempty]

/-- A credential slot touches no other name. -/
theorem setOwned_other {headers out : HeaderMap} {name : String} {value : Option String}
    {format : String → String} (h : setOwned headers name value format = .ok out) :
    AgreeExcept name out headers := by
  obtain ⟨-, rfl⟩ | ⟨-, rfl⟩ | ⟨text, -, -, rfl⟩ := setOwned_cases h
  · exact AgreeExcept.refl name out
  · exact AgreeExcept.remove_self name headers
  · exact (AgreeExcept.insert_self _ _ _).trans (AgreeExcept.remove_self _ _)

/-- The last step of the assembly. -/
def insertKey (headers : HeaderMap) (key : Option String) : Except Error HeaderMap :=
  match key.filter fun value => !isEmpty value with
  | none => pure headers
  | some key => do
      let key ← parseHeaderValue key
      pure (headers.insert "idempotency-key" key)

/-- It is setting a slot, for an option that is absent when it is empty. An empty key does not
clear what callers put there, as an empty credential does. -/
theorem insertKey_cases {headers out : HeaderMap} {key : Option String}
    (h : insertKey headers key = .ok out) :
    out.getAll "idempotency-key" =
        slot (key.filter fun value => !isEmpty value) id (headers.getAll "idempotency-key") ∧
      AgreeExcept "idempotency-key" out headers := by
  unfold insertKey at h
  cases hkey : key.filter fun value => !isEmpty value with
  | none =>
      rw [hkey] at h
      cases h
      exact ⟨rfl, AgreeExcept.refl _ _⟩
  | some text =>
      rw [hkey] at h
      obtain ⟨parsed, hparsed, h⟩ := bind_eq_ok.mp h
      cases h
      have hempty : text ≠ "" := by
        have hfilter := (Option.filter_eq_some_iff.mp hkey).2
        rw [Bool.not_eq_true'] at hfilter
        exact isEmpty_eq_false_iff.mp hfilter
      rw [HeaderMap.getAll_insert_self, parseHeaderValue_ok hparsed, slot, if_neg hempty]
      exact ⟨rfl, AgreeExcept.insert_self _ _ _⟩

/-! ## The whole assembly -/

/-- The two layers together have what callers gave: the call's values under a name that the call
gives, and the client's under any other. -/
theorem getAll_layers {client : Client} {options : CallOptions}
    {clientLayer callLayer : HeaderMap} (hclient : parseLayer client.headers [] = .ok clientLayer)
    (hcall : parseLayer options.headers [] = .ok callLayer) {name : String}
    (hname : toAsciiLowercase name ≠ "x-tr-client") :
    ((HeaderMap.extend [] clientLayer).extend callLayer).getAll (toAsciiLowercase name) =
      callerValues client options name := by
  have hclientValues := (getAll_parseLayer hclient name).trans
    (congrArg _ (valuesOf_withoutReserved _ hname))
  have hcallValues := (getAll_parseLayer hcall name).trans
    (congrArg _ (valuesOf_withoutReserved _ hname))
  rw [HeaderMap.getAll_nil, List.nil_append] at hclientValues hcallValues
  rw [HeaderMap.getAll_extend, HeaderMap.getAll_extend, hclientValues, hcallValues,
    HeaderMap.getAll_nil, callerValues]
  -- An empty client layer leaves the empty map under it.
  congr 1
  split
  · rename_i hnone
    exact hnone.symm
  · rfl

/-- `layered` over the lowercase form of the name. -/
theorem layered_eq (userAgent : String) (client : Client) (options : CallOptions)
    (telemetry : Option String) (name : String) :
    layered userAgent client options telemetry name =
      if toAsciiLowercase name = "x-tr-client" then (telemetry.map bytes).toList
      else if toAsciiLowercase name = "user-agent" then [bytes userAgent]
      else if toAsciiLowercase name = "authorization" then
        slot (options.apiKey.or client.apiKey) ("Bearer " ++ ·)
          (callerValues client options name)
      else if toAsciiLowercase name = "x-trustedrouter-workspace" then
        slot (options.workspaceId.or client.workspaceId) id (callerValues client options name)
      else if toAsciiLowercase name = "idempotency-key" then
        slot (options.idempotencyKey.filter fun value => !isEmpty value) id
          (callerValues client options name)
      else callerValues client options name := by
  -- The names are in lower case, so that a comparison without case lowers only the other side.
  have hreserved : toAsciiLowercase "x-tr-client" = "x-tr-client" := by decide
  have huser : toAsciiLowercase "user-agent" = "user-agent" := by decide
  have hauthorization : toAsciiLowercase "authorization" = "authorization" := by decide
  have hscope :
      toAsciiLowercase "x-trustedrouter-workspace" = "x-trustedrouter-workspace" := by decide
  have hkey : toAsciiLowercase "idempotency-key" = "idempotency-key" := by decide
  simp only [layered, eqIgnoreAsciiCase_lower hreserved, eqIgnoreAsciiCase_lower huser,
    eqIgnoreAsciiCase_lower hauthorization, eqIgnoreAsciiCase_lower hscope,
    eqIgnoreAsciiCase_lower hkey]

/-- An attempt has under each name exactly what `layered` says, and entries for the reserved
header in either layer change nothing, not even whether the headers assemble. -/
theorem requestHeaders_layered (userAgent : String) (client : Client) (options : CallOptions)
    (recorder : Option RequestRecorder) :
    (∀ headers,
        requestHeaders userAgent client options (recorder.bind RequestRecorder.headerValue) =
          .ok headers →
        ∀ name, headers.getAll (toAsciiLowercase name) =
          layered userAgent client options (recorder.bind RequestRecorder.headerValue) name) ∧
      requestHeaders userAgent client options (recorder.bind RequestRecorder.headerValue) =
        requestHeaders userAgent { client with headers := withoutReserved client.headers }
          { options with headers := withoutReserved options.headers }
          (recorder.bind RequestRecorder.headerValue) := by
  constructor
  · intro headers h name
    simp only [requestHeaders, bind_eq_ok] at h
    obtain ⟨clientLayer, hclient, callLayer, hcall, agent, hagent, withKey, hkey,
      withWorkspace, hworkspace, hlast⟩ := h
    have hinsert : insertKey withWorkspace options.idempotencyKey = .ok headers := hlast
    obtain ⟨hidempotency, hlastOther⟩ := insertKey_cases hinsert
    have hworkspaceOther := setOwned_other hworkspace
    have hkeyOther := setOwned_other hkey
    have hagentOther := AgreeExcept.insert_self "user-agent"
      (enforceReservedTelemetryHeader ((HeaderMap.extend [] clientLayer).extend callLayer)
        (recorder.bind RequestRecorder.headerValue)) agent
    have henforceOther := enforce_agree ((HeaderMap.extend [] clientLayer).extend callLayer)
      (recorder.bind RequestRecorder.headerValue)
    rw [layered_eq]
    by_cases hreserved : toAsciiLowercase name = "x-tr-client"
    · rw [if_pos hreserved, hreserved, hlastOther _ (by decide), hworkspaceOther _ (by decide),
        hkeyOther _ (by decide), hagentOther _ (by decide), getAll_enforceRecorder]
    -- Below the steps of the SDK every other name has what callers gave.
    have hcallers := getAll_layers hclient hcall hreserved
    rw [← henforceOther _ hreserved] at hcallers
    rw [if_neg hreserved, ← hcallers]
    by_cases huser : toAsciiLowercase name = "user-agent"
    · rw [if_pos huser, huser, hlastOther _ (by decide), hworkspaceOther _ (by decide),
        hkeyOther _ (by decide), HeaderMap.getAll_insert_self, parseHeaderValue_ok hagent]
    rw [if_neg huser, ← hagentOther _ huser]
    by_cases hauthorization : toAsciiLowercase name = "authorization"
    · rw [if_pos hauthorization, hauthorization, hlastOther _ (by decide),
        hworkspaceOther _ (by decide), getAll_setOwned_self hkey]
    rw [if_neg hauthorization, ← hkeyOther _ hauthorization]
    by_cases hscope : toAsciiLowercase name = "x-trustedrouter-workspace"
    · rw [if_pos hscope, hscope, hlastOther _ (by decide), getAll_setOwned_self hworkspace]
    rw [if_neg hscope, ← hworkspaceOther _ hscope]
    by_cases hcallKey : toAsciiLowercase name = "idempotency-key"
    · rw [if_pos hcallKey, hcallKey, hidempotency]
    · rw [if_neg hcallKey, hlastOther _ hcallKey]
  · simp only [requestHeaders, parseLayer_withoutReserved]

end TrustedRouter.Proofs.Transport
