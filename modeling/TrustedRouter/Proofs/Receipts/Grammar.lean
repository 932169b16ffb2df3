import TrustedRouter.Proofs.Receipts.Accepted

/-!
# `TrustedRouter.Proofs.Receipts.Grammar`: what `stream_digest` accepts, said without it

`Accepts` is the grammar of an accepted stream in its own terms: segments that each end at the
delimiter that ends first, one data line and at most one event line in a segment, and a list of
content events, the receipt event and `[DONE]`. `streamDigest_accepts` says that the scanner of
`stream_digest` accepts exactly this, in both domains.

What is hashed is a list of lines, one or two for each content event. A name and a payload have
no line feed inside, so `contentEvents_eq_of_digest` recovers them from what was hashed.
-/

set_option autoImplicit false

namespace TrustedRouter.Proofs.Receipts

open Rust (Bytes)
open Rust.Str
open Rust.Result
open Serde (Raw Value)
open TrustedRouter.Receipts
open Framing (frames rest)
open EventSource (unlines)

/-! ## The events of a stream -/

/-- The domains a stream is hashed in. -/
inductive Domain where
  | data
  | events
  deriving DecidableEq, Repr

namespace Domain

/-- The name of a domain in the claims. -/
def text : Domain → String
  | data => "sse-data-v1"
  | events => "sse-events-v1"

/-- The lines hashed for an event. -/
def lines : Domain → Bytes × Bytes → List Bytes
  | data, event => [event.2]
  | events, event => [event.1, event.2]

/-- What is hashed: each line with a line feed after it. -/
def preimage (domain : Domain) (contents : List (Bytes × Bytes)) : Bytes :=
  unlines (contents.flatMap domain.lines)

end Domain

section
variable (lib : Library)

/-- The member `inference_receipt` of a payload that is strict JSON. -/
def receiptMember (payload : Bytes) : Option Value :=
  match loadJson lib payload "response stream event JSON" with
  | .ok value => value.get "inference_receipt"
  | .error _ => none

/-- A content event. -/
structure IsContentEvent (domain : Domain) (event : Bytes × Bytes) : Prop where
  not_done : event.2 ≠ bytes "[DONE]"
  no_receipt : receiptMember lib event.2 = none
  unnamed : domain = .data → event.1 = []

/-- The event with the expected receipt. -/
structure IsReceiptEvent (expected : Option Value) (event : Bytes × Bytes) : Prop where
  not_done : event.2 ≠ bytes "[DONE]"
  receipt : ∃ receipt value, receiptMember lib event.2 = some receipt ∧
    receipt.isObject = true ∧ expected = some value ∧ value.eq receipt = true

/-- The grammar of an accepted stream. -/
structure Accepts (domain : Domain) (expected : Option Value) (wire : Bytes)
    (segments : List Bytes) (contents : List (Bytes × Bytes)) (receipt done : Bytes × Bytes) :
    Prop where
  cut : segments.flatten = wire
  segment : ∀ segment ∈ segments, IsSegment segment
  decodes : List.Forall₂ Decodes segments (contents ++ [receipt, done])
  content : ∀ event ∈ contents, IsContentEvent lib domain event
  receipt : IsReceiptEvent lib expected receipt
  done : done.2 = bytes "[DONE]"

variable {lib}

/-- An event has no receipt when its payload does not load or has no member of that name. -/
theorem embeddedReceipt_eq_none {payload : Bytes} :
    embeddedReceipt lib payload = .ok none ↔ receiptMember lib payload = none := by
  rw [embeddedReceipt, receiptMember]
  cases loadJson lib payload "response stream event JSON" with
  | error error => exact iff_of_true rfl rfl
  | ok value =>
      cases hmember : value.get "inference_receipt" with
      | none => simp only [hmember]
      | some receipt =>
          simp only [hmember, bind_eq_ok, exists_unit, reduceCtorEq, iff_false, not_and]
          intro _ h
          cases h

/-- The receipt of an event is its member, which has to be an object. -/
theorem embeddedReceipt_eq_some {payload : Bytes} {receipt : Value} :
    embeddedReceipt lib payload = .ok (some receipt) ↔
      receiptMember lib payload = some receipt ∧ receipt.isObject = true := by
  rw [embeddedReceipt, receiptMember]
  cases loadJson lib payload "response stream event JSON" with
  | error error =>
      refine iff_of_false ?_ ?_
      · intro h
        cases h
      · intro h
        cases h.1
  | ok value =>
      cases hmember : value.get "inference_receipt" with
      | none =>
          simp only [hmember, reduceCtorEq, false_and, iff_false]
          intro h
          cases h
      | some member =>
          simp only [hmember, bind_eq_ok, exists_unit, ensure_eq_ok, Option.some.injEq]
          constructor
          · rintro ⟨hobject, hreceipt⟩
            cases hreceipt
            exact ⟨rfl, hobject⟩
          · rintro ⟨rfl, hobject⟩
            exact ⟨hobject, rfl⟩

/-- What the loop hashes for a content event: the lines of its domain. In the data domain an event
with a name is refused, because the name would not be hashed. -/
theorem contentBytes_iff {domain : Domain} {event : SseEvent} {content : Bytes} :
    contentBytes lib domain.text event = .ok content ↔
      (domain = .data → event.name = []) ∧
        content = unlines (domain.lines (event.name, event.payload)) := by
  cases domain with
  | data =>
      -- In the data domain an event must not have a name, and the payload is all that is hashed.
      have hlines : unlines (Domain.data.lines (event.name, event.payload)) =
          event.payload ++ [10] := List.append_nil _
      rw [contentBytes, if_pos (show Domain.data.text = "sse-data-v1" from rfl), hlines]
      simp only [bind_eq_ok, exists_unit, ensure_eq_ok, List.isEmpty_iff, forall_const]
      refine and_congr_right fun _ => ⟨?_, ?_⟩
      · rintro ⟨⟩
        rfl
      · rintro rfl
        rfl
  | events =>
      -- In the events domain the name is hashed as well, on a line of its own.
      have hlines : unlines (Domain.events.lines (event.name, event.payload)) =
          event.name ++ [10] ++ event.payload ++ [10] := by
        simp [Domain.lines, unlines]
      rw [contentBytes, if_neg (show ¬ Domain.events.text = "sse-data-v1" by decide),
        if_pos (show Domain.events.text = "sse-events-v1" from rfl), hlines]
      constructor
      · rintro ⟨⟩
        refine ⟨?_, rfl⟩
        intro h
        cases h
      · rintro ⟨-, rfl⟩
        rfl

/-- A frame of the loop and a content event of the grammar. -/
theorem isContent_iff {domain : Domain} {raw : Bytes} {part : SseEvent × Bytes} :
    IsContent lib domain.text raw part ↔
      ∃ event, part = (eventFor event, unlines (domain.lines event)) ∧ Decodes raw event ∧
        IsContentEvent lib domain event := by
  constructor
  · intro h
    obtain ⟨hevent, hdecodes⟩ := decodes_of_decodeSseEvent h.decodes
    obtain ⟨hname, hcontent⟩ := contentBytes_iff.mp h.content
    refine ⟨_, Prod.ext hevent hcontent, hdecodes, ⟨?_, ?_, hname⟩⟩
    · have hnot := h.not_done
      rw [hevent] at hnot
      exact beq_eq_false_iff_ne.mp hnot
    · exact embeddedReceipt_eq_none.mp h.no_receipt
  · rintro ⟨event, rfl, hdecodes, hcontent⟩
    exact ⟨decodes_iff.mpr hdecodes, beq_eq_false_iff_ne.mpr hcontent.not_done,
      embeddedReceipt_eq_none.mpr hcontent.no_receipt, contentBytes_iff.mpr ⟨hcontent.unnamed, rfl⟩⟩

/-- The frames of the content, one by one. -/
theorem forall₂_isContent_iff {domain : Domain} {raws : List Bytes}
    {parts : List (SseEvent × Bytes)} :
    List.Forall₂ (IsContent lib domain.text) raws parts ↔
      ∃ contents,
        parts = contents.map (fun event => (eventFor event, unlines (domain.lines event))) ∧
        List.Forall₂ Decodes raws contents ∧
        ∀ event ∈ contents, IsContentEvent lib domain event := by
  constructor
  · intro h
    induction h with
    | nil => exact ⟨[], rfl, .nil, nofun⟩
    | cons hpart _ ih =>
        obtain ⟨event, rfl, hdecodes, hcontent⟩ := isContent_iff.mp hpart
        obtain ⟨contents, rfl, hrest, hcontents⟩ := ih
        exact ⟨event :: contents, rfl, .cons hdecodes hrest,
          List.forall_mem_cons.mpr ⟨hcontent, hcontents⟩⟩
  · rintro ⟨contents, rfl, hdecodes, hcontents⟩
    induction hdecodes with
    | nil => exact .nil
    | cons hdecode _ ih =>
        obtain ⟨hcontent, hrest⟩ := List.forall_mem_cons.mp hcontents
        exact .cons (isContent_iff.mpr ⟨_, rfl, hdecode, hcontent⟩) (ih hrest)

/-- The receipt frame of the loop and the receipt event of the grammar. -/
theorem isReceipt_iff {expected : Option Value} {raw : Bytes} {event : SseEvent} :
    IsReceipt lib expected raw event ↔
      ∃ pair, event = eventFor pair ∧ Decodes raw pair ∧ IsReceiptEvent lib expected pair := by
  constructor
  · intro h
    obtain ⟨hevent, hdecodes⟩ := decodes_of_decodeSseEvent h.decodes
    obtain ⟨receipt, hreceipt, hexpected⟩ := h.receipt
    obtain ⟨hmember, hobject⟩ := embeddedReceipt_eq_some.mp hreceipt
    rw [Option.any_eq_true] at hexpected
    obtain ⟨value, hvalue, heq⟩ := hexpected
    refine ⟨_, hevent, hdecodes, ⟨?_, receipt, value, hmember, hobject, hvalue, heq⟩⟩
    have hnot := h.not_done
    rw [hevent] at hnot
    exact beq_eq_false_iff_ne.mp hnot
  · rintro ⟨pair, rfl, hdecodes, hreceipt⟩
    obtain ⟨receipt, value, hmember, hobject, rfl, heq⟩ := hreceipt.receipt
    exact ⟨decodes_iff.mpr hdecodes, beq_eq_false_iff_ne.mpr hreceipt.not_done, receipt,
      embeddedReceipt_eq_some.mpr ⟨hmember, hobject⟩, heq⟩

/-- The `[DONE]` frame is known by its payload, whatever its name is. -/
theorem isDone_iff {raw : Bytes} {event : SseEvent} :
    IsDone raw event ↔
      ∃ pair : Bytes × Bytes, event = eventFor pair ∧ Decodes raw pair ∧
        pair.2 = bytes "[DONE]" := by
  constructor
  · intro h
    obtain ⟨hevent, hdecodes⟩ := decodes_of_decodeSseEvent h.decodes
    refine ⟨_, hevent, hdecodes, ?_⟩
    have hdone := h.done
    rw [hevent] at hdone
    exact beq_iff_eq.mp hdone
  · rintro ⟨pair, rfl, hdecodes, hdone⟩
    exact ⟨decodes_iff.mpr hdecodes, beq_iff_eq.mpr hdone⟩

/-- What the loop hashes for the content: the lines of the domain, event after event, each ended
by a line feed. -/
theorem flatten_parts (domain : Domain) (contents : List (Bytes × Bytes)) :
    ((contents.map fun event => (eventFor event, unlines (domain.lines event))).map
      Prod.snd).flatten = domain.preimage contents := by
  rw [Domain.preimage, EventSource.unlines_flatMap, List.map_map]
  rfl

section
variable {domain : Domain} {expected : Option Value} {wire : Bytes}

/-- A stream of the grammar is accepted, with the digest of its content and the number of its
content events. -/
theorem streamDigest_of_accepts {segments : List Bytes} {contents : List (Bytes × Bytes)}
    {receipt done : Bytes × Bytes}
    (h : Accepts lib domain expected wire segments contents receipt done) :
    streamDigest lib wire domain.text expected =
      .ok (lib.sha256 (domain.preimage contents), contents.length) := by
  obtain ⟨hframes, hrest⟩ := frames_eq_iff.mpr ⟨h.cut, h.segment⟩
  have hcontents := List.forall₂_take_append _ _ _ h.decodes
  have hlasts := List.forall₂_drop_append _ _ _ h.decodes
  have hsegments := List.take_append_drop contents.length segments
  -- The last two segments are the receipt event and `[DONE]`, and those before them are the
  -- content.
  generalize segments.take contents.length = raws at hcontents hsegments
  generalize segments.drop contents.length = lasts at hlasts hsegments
  cases hlasts with
  | cons hreceipt hlasts =>
      cases hlasts with
      | cons hdone hnil =>
          cases hnil
          have hisContent := forall₂_isContent_iff.mpr ⟨contents, rfl, hcontents, h.content⟩
          have hisReceipt := isReceipt_iff.mpr ⟨receipt, rfl, hreceipt, h.receipt⟩
          have hisDone := isDone_iff.mpr ⟨done, rfl, hdone, h.done⟩
          rw [streamDigest_of_shape hrest
            ⟨hframes.trans hsegments.symm, hisContent, hisReceipt, hisDone⟩, flatten_parts,
            List.length_map]

/-- The frames of an accepted stream are those of the grammar, and its events are what the loop
decoded. -/
theorem accepts_of_shape {raws : List Bytes} {receiptRaw doneRaw : Bytes}
    {parts : List (SseEvent × Bytes)} {receipt done : SseEvent} (hrest : rest sseRule wire = [])
    (hshape : Shape lib domain.text expected (frames sseRule wire) raws receiptRaw doneRaw parts
      receipt done) :
    Accepts lib domain expected wire (frames sseRule wire)
      (parts.map fun part => (part.1.name, part.1.payload)) (receipt.name, receipt.payload)
      (done.name, done.payload) := by
  obtain ⟨contents, hparts, hdecodes, hcontent⟩ := forall₂_isContent_iff.mp hshape.contents
  obtain ⟨receiptEvent, hreceiptEvent, hreceiptDecodes, hreceipt⟩ :=
    isReceipt_iff.mp hshape.receipt
  obtain ⟨doneEvent, hdoneEvent, hdoneDecodes, hdone⟩ := isDone_iff.mp hshape.done
  have hevents : parts.map (fun part => (part.1.name, part.1.payload)) = contents := by
    rw [hparts, List.map_map]
    exact List.map_id contents
  obtain ⟨hcut, hsegments⟩ := frames_eq_iff.mp ⟨rfl, hrest⟩
  rw [hevents, hreceiptEvent, hdoneEvent]
  refine ⟨hcut, hsegments, ?_, hcontent, hreceipt, hdone⟩
  rw [hshape.split]
  exact List.rel_append hdecodes (.cons hreceiptDecodes (.cons hdoneDecodes .nil))

/-- An accepted stream is one of the grammar. The other direction is `streamDigest_of_accepts`,
and together they leave the loop behind. -/
theorem accepts_of_streamDigest {digest : Array32} {events : Nat}
    (h : streamDigest lib wire domain.text expected = .ok (digest, events)) :
    ∃ segments contents receipt done,
      Accepts lib domain expected wire segments contents receipt done := by
  obtain ⟨hrest, raws, receiptRaw, doneRaw, parts, receipt, done, hshape, -⟩ := exists_shape h
  exact ⟨_, _, _, _, accepts_of_shape hrest hshape⟩

end

/-- `stream_digest` accepts exactly the grammar, and returns the digest and the number of the
content events. Without an expected receipt it accepts no stream. Every turn of its loop takes
a part of the stream that is not empty, so it ends. -/
theorem streamDigest_accepts (lib : Library) (domain : Domain) (wire : Bytes) :
    (∀ expected digest events,
      streamDigest lib wire domain.text expected = .ok (digest, events) ↔
        ∃ segments contents receipt done,
          Accepts lib domain expected wire segments contents receipt done ∧
          events = contents.length ∧ digest = lib.sha256 (domain.preimage contents)) ∧
    (∀ digest events, streamDigest lib wire domain.text none ≠ .ok (digest, events)) ∧
    (∀ event more, nextSseEvent wire = some (event, more) → event ≠ [] ∧ wire = event ++ more) := by
  refine ⟨?_, ?_, ?_⟩
  · intro expected digest events
    constructor
    · intro h
      obtain ⟨segments, contents, receipt, done, haccepts⟩ := accepts_of_streamDigest h
      rw [streamDigest_of_accepts haccepts] at h
      cases h
      exact ⟨segments, contents, receipt, done, haccepts, rfl, rfl⟩
    · rintro ⟨segments, contents, receipt, done, haccepts, rfl, rfl⟩
      exact streamDigest_of_accepts haccepts
  · -- Without an expected receipt no event can be the receipt event.
    intro digest events h
    obtain ⟨_, _, _, _, haccepts⟩ := accepts_of_streamDigest h
    obtain ⟨_, _, _, _, hnone, -⟩ := haccepts.receipt.receipt
    cases hnone
  · intro event more h
    obtain ⟨stop, hstop, hcut⟩ := Option.map_eq_some_iff.mp h
    cases hcut
    refine ⟨?_, (List.take_append_drop _ _).symm⟩
    intro hnil
    have hpos := eventEnd_pos hstop
    have hle := eventEnd_le_length hstop
    have hlength := congrArg List.length hnil
    rw [List.length_take, List.length_nil] at hlength
    omega

/-! ## The digest fixes the content events -/

/-- The names and payloads of the events of a stream. -/
def decodedEvents (wire : Bytes) : List (Bytes × Bytes) :=
  (frames sseRule wire).filterMap fun raw =>
    (decodeSseEvent raw).toOption.map fun event => (event.name, event.payload)

/-- The content events: those before the receipt event. -/
def contentEvents (lib : Library) (wire : Bytes) : List (Bytes × Bytes) :=
  (decodedEvents wire).takeWhile fun event => (receiptMember lib event.2).isNone

/-- The events of segments that all decode, in their order. -/
theorem filterMap_decodes {segments : List Bytes} {events : List (Bytes × Bytes)}
    (h : List.Forall₂ Decodes segments events) :
    (segments.filterMap fun raw =>
      (decodeSseEvent raw).toOption.map fun event => (event.name, event.payload)) = events := by
  induction h with
  | nil => rfl
  | cons hdecodes _ ih =>
      rw [List.filterMap_cons, decodes_iff.mpr hdecodes, ih]
      rfl

/-- The content events of a stream of the grammar are those before the receipt. -/
theorem contentEvents_of_accepts {domain : Domain} {expected : Option Value} {wire : Bytes}
    {segments : List Bytes} {contents : List (Bytes × Bytes)} {receipt done : Bytes × Bytes}
    (h : Accepts lib domain expected wire segments contents receipt done) :
    contentEvents lib wire = contents := by
  obtain ⟨value, _, hmember, -⟩ := h.receipt.receipt
  have hcontents : ∀ event ∈ contents, (receiptMember lib event.2).isNone = true := by
    intro event hevent
    rw [(h.content event hevent).no_receipt]
    rfl
  rw [contentEvents, decodedEvents, (frames_eq_iff.mpr ⟨h.cut, h.segment⟩).1,
    filterMap_decodes h.decodes, List.takeWhile_append_of_pos hcontents,
    List.takeWhile_cons_of_neg (by simp [hmember]), List.append_nil]

/-- Names and payloads are told apart by their places among the lines. In the data domain the
names are not among the lines, so they are asked to be empty. -/
theorem lines_injective {domain : Domain} {a b : List (Bytes × Bytes)}
    (ha : domain = .data → ∀ event ∈ a, event.1 = [])
    (hb : domain = .data → ∀ event ∈ b, event.1 = [])
    (h : a.flatMap domain.lines = b.flatMap domain.lines) : a = b := by
  induction a generalizing b with
  | nil =>
      cases b with
      | nil => rfl
      | cons event b => cases domain <;> cases h
  | cons first a ih =>
      cases b with
      | nil => cases domain <;> cases h
      | cons event b =>
          have hrest := @ih b (fun hdata => (List.forall_mem_cons.mp (ha hdata)).2)
            (fun hdata => (List.forall_mem_cons.mp (hb hdata)).2)
          cases domain with
          | data =>
              -- The names are not hashed, but they are empty on both sides.
              obtain ⟨hpayload, htail⟩ := List.cons.inj h
              have hname := (ha rfl first (.head _)).trans (hb rfl event (.head _)).symm
              rw [Prod.ext hname hpayload, hrest htail]
          | events =>
              obtain ⟨hname, htail⟩ := List.cons.inj h
              obtain ⟨hpayload, htail⟩ := List.cons.inj htail
              rw [Prod.ext hname hpayload, hrest htail]

/-- The lines that are hashed have no line feed inside, so that the hashed text tells them
apart. -/
theorem Accepts.no_lf {domain : Domain} {expected : Option Value} {wire : Bytes}
    {segments : List Bytes} {contents : List (Bytes × Bytes)} {receipt done : Bytes × Bytes}
    (h : Accepts lib domain expected wire segments contents receipt done) :
    ∀ line ∈ contents.flatMap domain.lines, 10 ∉ line := by
  intro line hline
  obtain ⟨event, hevent, hmem⟩ := List.mem_flatMap.mp hline
  obtain ⟨segment, -, hdecodes⟩ :=
    exists_mem_of_forall₂ h.decodes.flip (List.mem_append_left _ hevent)
  obtain ⟨hname, hpayload⟩ := Decodes.no_lf hdecodes
  cases domain with
  | data =>
      rw [List.mem_singleton.mp hmem]
      exact hpayload
  | events =>
      rcases List.mem_cons.mp hmem with rfl | hmem
      · exact hname
      · rw [List.mem_singleton.mp hmem]
        exact hpayload

/-- The digest of an accepted stream is that of its content events. -/
theorem streamDigest_contentEvents {domain : Domain} {expected : Option Value} {wire : Bytes}
    {digest : Array32} {events : Nat}
    (h : streamDigest lib wire domain.text expected = .ok (digest, events)) :
    digest = lib.sha256 (domain.preimage (contentEvents lib wire)) ∧
      events = (contentEvents lib wire).length ∧
      (∀ line ∈ (contentEvents lib wire).flatMap domain.lines, 10 ∉ line) ∧
      (domain = .data → ∀ event ∈ contentEvents lib wire, event.1 = []) := by
  obtain ⟨segments, contents, receipt, done, haccepts⟩ := accepts_of_streamDigest h
  rw [streamDigest_of_accepts haccepts] at h
  cases h
  rw [contentEvents_of_accepts haccepts]
  exact ⟨rfl, rfl, haccepts.no_lf, fun hdata event hevent =>
    (haccepts.content event hevent).unnamed hdata⟩

/-- Two streams that are accepted in one domain with one digest have the same content events,
name by name and payload by payload, when SHA-256 tells what was hashed for them apart. -/
theorem contentEvents_eq_of_digest (lib : Library) (domain : Domain) {wire₁ wire₂ : Bytes}
    {expected₁ expected₂ : Option Value} {digest : Array32} {events₁ events₂ : Nat}
    (h₁ : streamDigest lib wire₁ domain.text expected₁ = .ok (digest, events₁))
    (h₂ : streamDigest lib wire₂ domain.text expected₂ = .ok (digest, events₂))
    (hinjective : lib.sha256 (domain.preimage (contentEvents lib wire₁)) =
        lib.sha256 (domain.preimage (contentEvents lib wire₂)) →
      domain.preimage (contentEvents lib wire₁) = domain.preimage (contentEvents lib wire₂)) :
    contentEvents lib wire₁ = contentEvents lib wire₂ ∧ events₁ = events₂ := by
  obtain ⟨hdigest₁, hevents₁, hlf₁, hunnamed₁⟩ := streamDigest_contentEvents h₁
  obtain ⟨hdigest₂, hevents₂, hlf₂, hunnamed₂⟩ := streamDigest_contentEvents h₂
  have hlines := unlines_injective hlf₁ hlf₂ (hinjective (hdigest₁.symm.trans hdigest₂))
  have hcontents := lines_injective hunnamed₁ hunnamed₂ hlines
  exact ⟨hcontents, by rw [hevents₁, hevents₂, hcontents]⟩

/-- The receipt event of a small stream, as a JSON text. -/
def smallReceipt : String := "\x7b\"inference_receipt\":\x7b\x7d\x7d"

/-- The segments of a small stream: a named event and an unnamed one between line feeds, or the
same two between CR LF, with the lines of the first the other way round. -/
def smallSegments (crlf : Bool) : List Bytes :=
  (if crlf then [bytes "data:x\r\nevent: a\r\n\r\n", bytes "data:y\r\n\r\n"]
    else [bytes "event:a\ndata: x\n\n", bytes "data: y\n\n"]) ++
  [bytes ("data: " ++ smallReceipt ++ "\n\n"), bytes "data: [DONE]\n\n"]

/-- A small stream. -/
def smallStream (crlf : Bool) : Bytes := (smallSegments crlf).flatten

/-- The encoded digest of the lines `a`, `x`, a blank one for the missing name, and `y`. -/
def smallHash : String := "fdqD6g8wuz691CnDG2HCVo6MAGkv1KqiY2pTwYrnEQ0"

/-- The crates on the small streams. -/
def smallLibrary : Library :=
  { fixtureLibrary with
    sha256 := fun data =>
      if data = bytes "a\nx\n\ny\n" then digestOf smallHash else digestOf keyId
    read := readTable [(smallReceipt, .object [("inference_receipt", .object [])])] }

/-- The small streams are in the grammar, with either line ending. -/
theorem accepts_smallStream (crlf : Bool) :
    Accepts smallLibrary .events (some (.object [])) (smallStream crlf) (smallSegments crlf)
      [(bytes "a", bytes "x"), ([], bytes "y")] ([], bytes smallReceipt)
      ([], bytes "[DONE]") where
  cut := rfl
  segment := by
    intro segment hsegment
    rw [isSegment_iff]
    cases crlf <;> revert segment <;> decide
  decodes := by
    cases crlf
    all_goals
      exact .cons (decodes_iff.mp (by decide)) (.cons (decodes_iff.mp (by decide))
        (.cons (decodes_iff.mp (by decide)) (.cons (decodes_iff.mp (by decide)) .nil)))
  content := by
    have hnamed : Domain.events ≠ .data := by decide
    intro event hevent
    rcases List.mem_cons.mp hevent with rfl | hevent
    · exact ⟨by decide, rfl, fun h => absurd h hnamed⟩
    · rw [List.mem_singleton.mp hevent]
      exact ⟨by decide, rfl, fun h => absurd h hnamed⟩
  receipt := ⟨by decide, .object [], .object [], rfl, rfl, rfl, rfl⟩
  done := rfl

/-- The digest of the small streams is that of the four lines. -/
theorem streamDigest_smallStream (crlf : Bool) :
    streamDigest smallLibrary (smallStream crlf) "sse-events-v1" (some (.object [])) =
      .ok (digestOf smallHash, 2) := by
  have hlines : Domain.events.preimage [(bytes "a", bytes "x"), ([], bytes "y")] =
      bytes "a\nx\n\ny\n" := by decide
  have hhash : smallLibrary.sha256 (bytes "a\nx\n\ny\n") = digestOf smallHash := by
    simp only [smallLibrary, if_true]
  have hdigest := streamDigest_of_accepts (accepts_smallStream crlf)
  rwa [hlines, hhash] at hdigest

/-- Line endings, blanks and the order of the lines are not hashed. -/
theorem contentEvents_eq_smallStream :
    streamDigest smallLibrary (smallStream true) "sse-events-v1" (some (.object [])) =
        .ok (digestOf smallHash, 2) ∧
      streamDigest smallLibrary (smallStream false) "sse-events-v1" (some (.object [])) =
        .ok (digestOf smallHash, 2) ∧
      contentEvents smallLibrary (smallStream true) =
        contentEvents smallLibrary (smallStream false) := by
  have htrue := streamDigest_smallStream true
  have hfalse := streamDigest_smallStream false
  refine ⟨htrue, hfalse, (contentEvents_eq_of_digest smallLibrary .events htrue hfalse ?_).1⟩
  intro _
  rw [contentEvents_of_accepts (accepts_smallStream true),
    contentEvents_of_accepts (accepts_smallStream false)]

end

end TrustedRouter.Proofs.Receipts
