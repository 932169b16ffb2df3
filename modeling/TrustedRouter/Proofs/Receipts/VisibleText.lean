import TrustedRouter.Proofs.Receipts.Grammar

/-!
# `TrustedRouter.Proofs.Receipts.VisibleText`: what a verified stream shows

A receipt with a stream digest fixes the content events of the stream, because the payloads are
hashed each with a line feed after it and have none inside. It does not fix the whole stream:
the receipt event and `[DONE]` are left out of the digest, and of the receipt event only the
`inference_receipt` member is compared. The consumer reads that event like any other.

`visibleText_eq_iff` is what holds: two accepted streams show the same text if and only if what
the digest leaves out of them does, or the content stops the consumer before it. The consumer's
decoder cuts lines at lone carriage returns, where the verifier does not. In the content they are
in the payloads and are hashed, so they make no difference. In the two events that are left out
they can make more of an event than its payload.
-/

set_option autoImplicit false

namespace TrustedRouter.Proofs.Receipts

open Rust (Bytes)
open Rust.Str
open Rust.Result
open Serde (Raw Value)
open TrustedRouter.Receipts
open Framing (frames rest)
open EventSource (stripCr isLineByte crBeforeLf unlines itemsFrom itemData)
open TrustedRouter.Sse (parseSse sourceOf visibleText chatCompletionsText textDelta textItem
  parseJsonEvent validateChatStream surfaced)

variable {lib : Library}

/-! ## What the consumer is shown -/

/-- The text of a value, if the consumer is shown one. -/
def shownText (value : Value) : Option String :=
  match textDelta value with
  | .ok text => text
  | .error _ => none

/-- What the consumer is shown of events with these data. It stops at `[DONE]`, at data that is
not a JSON event, and where the decoder fails. -/
def shown (read : Serde.Reader) : List (Option String) → List String
  | [] => []
  | none :: _ => []
  | some data :: later =>
      if trim data == "[DONE]" then []
      else
        match parseJsonEvent read data with
        | .error _ => []
        | .ok value => (shownText value).toList ++ shown read later

/-- The consumer goes on after an event with this data. -/
def passes (read : Serde.Reader) : Option String → Bool
  | none => false
  | some data => !(trim data == "[DONE]") && (parseJsonEvent read data).isOk

section
variable (read : Serde.Reader)

/-- One event of the parsed stream. The text adapter drops what has no text and what the validator
yields as an error, so an event that stops the validator shows nothing. -/
theorem visibleText_cons (event : Sse.SseEvent) (stream : List Sse.WireItem) :
    visibleText read (.ok event :: stream) =
      if Sse.isDoneFrame event then []
      else
        match parseJsonEvent read event.data with
        | .error _ => []
        | .ok value => (shownText value).toList ++ visibleText read stream := by
  rw [visibleText, chatCompletionsText, validateChatStream]
  split
  · rfl
  · cases parseJsonEvent read event.data with
    | error error => rfl
    | ok value =>
        show List.filterMap Except.toOption (List.filterMap textItem (.ok value :: _)) =
          (shownText value).toList ++ _
        rw [List.filterMap_cons, textItem, shownText]
        cases textDelta value with
        | error error => rfl
        | ok text => cases text <;> rfl

/-- The consumer is shown what the data of the events give, whatever their names and ids and
however the decoder explains its failure. -/
theorem visibleText_eq_shown (explain : Bytes → String) (stream : Bytes) :
    visibleText read (parseSse (sourceOf explain stream)) =
      shown read ((EventSource.items stream).map itemData) := by
  rw [sourceOf]
  induction EventSource.items stream with
  | nil => rfl
  | cons item items ih =>
      cases item with
      | error line => rfl
      | ok event =>
          refine (visibleText_cons read _ _).trans ?_
          rw [ih]
          rfl

/-- An event that stops the consumer ends what is shown, and any other adds to it. -/
theorem shown_cons (data : Option String) :
    ∃ texts, ∀ later, shown read (data :: later) =
      texts ++ if passes read data then shown read later else [] := by
  cases data with
  | none => exact ⟨[], fun _ => rfl⟩
  | some data =>
      by_cases hdone : (trim data == "[DONE]") = true
      · refine ⟨[], fun later => ?_⟩
        rw [shown, if_pos hdone, passes, hdone]
        rfl
      · cases hparse : parseJsonEvent read data with
        | error error =>
            refine ⟨[], fun later => ?_⟩
            rw [shown, if_neg hdone, hparse, passes, hparse, Bool.eq_false_iff.mpr hdone]
            rfl
        | ok value =>
            refine ⟨(shownText value).toList, fun later => ?_⟩
            rw [shown, if_neg hdone, hparse, passes, hparse, Bool.eq_false_iff.mpr hdone]
            rfl

/-- Later events are seen when the consumer gets through all the earlier ones. -/
theorem shown_append (first later : List (Option String)) :
    shown read (first ++ later) =
      shown read first ++ if first.all (passes read) then shown read later else [] := by
  induction first with
  | nil => rfl
  | cons data first ih =>
      obtain ⟨texts, hshown⟩ := shown_cons read data
      rw [List.cons_append, hshown, hshown, ih, List.all_cons, List.append_assoc]
      cases passes read data <;> rfl

/-- Lines up to a blank one are shown by themselves, and then what comes after them, if the consumer
gets that far. -/
theorem shown_lines {lines : List Bytes} (hlast : lines.getLast?.getD [] = [])
    (later : List Bytes) :
    shown read ((itemsFrom {} (lines ++ later) []).map itemData) =
      shown read ((itemsFrom {} lines []).map itemData) ++
        if ((itemsFrom {} lines []).map itemData).all (passes read) then
          shown read ((itemsFrom {} later []).map itemData)
        else [] := by
  obtain ⟨tail, heq, htail⟩ := EventSource.map_itemData_append {} hlast (fun _ => rfl) later []
  rw [heq, shown_append]
  rcases htail with rfl | ⟨rfl, hnone⟩
  · rfl
  · -- The decoder failed in the lines, so the consumer does not get through them.
    have hstops : ((itemsFrom {} lines []).map itemData).all (passes read) = false := by
      rw [List.all_eq_false]
      exact ⟨none, hnone, Bool.false_ne_true⟩
    rw [hstops]
    rfl

end

/-! ## What the digest does not fix -/

/-- The frames of the content events, as one stream. -/
def contentPart (lib : Library) (wire : Bytes) : Bytes :=
  ((frames sseRule wire).take (contentEvents lib wire).length).flatten

/-- The frames after them: the receipt event and `[DONE]`, which are not hashed. -/
def leftOut (lib : Library) (wire : Bytes) : Bytes :=
  ((frames sseRule wire).drop (contentEvents lib wire).length).flatten

/-- The consumer gets through the content of a stream. -/
def contentPasses (lib : Library) (wire : Bytes) : Bool :=
  ((EventSource.items (contentPart lib wire)).map itemData).all (passes lib.read)

/-- What the consumer is shown of what the digest leaves out. -/
def shownAfter (explain : Bytes → String) (lib : Library) (wire : Bytes) : List String :=
  visibleText lib.read (parseSse (sourceOf explain (leftOut lib wire)))

/-- What an event shows when the consumer reads its payload as the data of one event. -/
def eventView (read : Serde.Reader) (event : Bytes × Bytes) : List String :=
  if isText event.1 && isText event.2 then shown read [some (EventSource.text event.2)] else []

/-- What the receipt event of a stream, the first after the content, shows by itself. -/
def receiptView (lib : Library) (wire : Bytes) : List String :=
  ((decodedEvents wire)[(contentEvents lib wire).length]?).elim [] (eventView lib.read)

/-- The data that the consumer reads from content events. Only their payloads are used. -/
def contentData (contents : List (Bytes × Bytes)) : List (Option String) :=
  (itemsFrom {} (contents.flatMap fun event => payloadLines event.2) []).map itemData

/-- Segments of the grammar are frames that `decode_sse_event` reads. -/
theorem exists_of_decodes {segments : List Bytes} {events : List (Bytes × Bytes)}
    (h : List.Forall₂ Decodes segments events) :
    ∀ raw ∈ segments, ∃ event, decodeSseEvent raw = .ok event := by
  intro raw hraw
  obtain ⟨event, -, hdecodes⟩ := exists_mem_of_forall₂ h hraw
  exact ⟨_, decodes_iff.mpr hdecodes⟩

/-- The content ends in a blank line, or there is none of it. -/
theorem getLast_payloadLines (contents : List (Bytes × Bytes)) :
    (contents.flatMap fun event => payloadLines event.2).getLast?.getD [] = [] := by
  rcases List.eq_nil_or_concat contents with rfl | ⟨init, last, rfl⟩
  · rfl
  · rw [List.concat_eq_append, List.flatMap_append, List.flatMap_singleton, payloadLines,
      ← List.append_assoc, List.getLast?_concat]
    rfl

section
variable {expected : Option Value} {wire : Bytes} {segments : List Bytes}
  {contents : List (Bytes × Bytes)} {receipt done : Bytes × Bytes}

/-- What the consumer reads from the content part is fixed by the payloads, even where a payload
has carriage returns and is several lines to the consumer. -/
theorem map_itemData_contentPart
    (h : Accepts lib .data expected wire segments contents receipt done) :
    (EventSource.items (contentPart lib wire)).map itemData = contentData contents := by
  have hframes := (frames_eq_iff.mpr ⟨h.cut, h.segment⟩).1
  have hcontents := List.forall₂_take_append _ _ _ h.decodes
  have hsame := sameData_segments hcontents fun event hevent =>
    (h.content event hevent).unnamed rfl
  have hitems := hsame {} {} rfl [] []
  rw [List.append_nil, List.append_nil] at hitems
  rw [contentPart, contentEvents_of_accepts h, hframes,
    items_flatten (exists_of_decodes hcontents), hitems, contentData]

/-- What an accepted stream shows: its content, and then what the digest leaves out, if the
consumer gets that far. The first half is a function of the payloads, which the digest fixes. -/
theorem visibleText_of_accepts (explain : Bytes → String)
    (h : Accepts lib .data expected wire segments contents receipt done) :
    visibleText lib.read (parseSse (sourceOf explain wire)) =
      shown lib.read (contentData contents) ++
        if contentPasses lib wire then shownAfter explain lib wire else [] := by
  have hframes := (frames_eq_iff.mpr ⟨h.cut, h.segment⟩).1
  have hcontents := List.forall₂_take_append _ _ _ h.decodes
  have hlasts := List.forall₂_drop_append _ _ _ h.decodes
  have hsame := sameData_segments hcontents fun event hevent =>
    (h.content event hevent).unnamed rfl
  have hafter : shownAfter explain lib wire = shown lib.read
      ((itemsFrom {} ((segments.drop contents.length).flatMap consumerLines) []).map itemData) := by
    rw [shownAfter, visibleText_eq_shown, leftOut, contentEvents_of_accepts h, hframes,
      items_flatten (exists_of_decodes hlasts)]
  have hlines : segments.flatMap consumerLines =
      (segments.take contents.length).flatMap consumerLines ++
        (segments.drop contents.length).flatMap consumerLines := by
    rw [← List.flatMap_append, List.take_append_drop]
  rw [visibleText_eq_shown, ← h.cut, items_flatten (exists_of_decodes h.decodes), hlines,
    hsame {} {} rfl, shown_lines lib.read (getLast_payloadLines contents), h.cut, hafter,
    contentPasses, map_itemData_contentPart h, contentData]

/-- `[DONE]` shows nothing. -/
theorem shown_done (read : Serde.Reader) (later : List (Option String)) :
    shown read (some "[DONE]" :: later) = [] := by
  have htrim : (trim "[DONE]" == "[DONE]") = true := by decide
  rw [shown, if_pos htrim]

/-- The text of the bytes of a text. -/
theorem text_bytes (text : String) : EventSource.text (bytes text) = text := by
  rw [EventSource.text, fromUtf8_eq_some.mpr rfl, Option.getD_some]

/-- Without a lone carriage return in what is left out, the consumer reads the receipt event as
one event with the payload as its data, and `[DONE]` after it. A lone carriage return would end a
line for the consumer and not for the verifier. -/
theorem shownAfter_eq_receiptView (explain : Bytes → String)
    (h : Accepts lib .data expected wire segments contents receipt done)
    (hcr : crBeforeLf (leftOut lib wire) = true) :
    shownAfter explain lib wire = receiptView lib wire := by
  have hframes := (frames_eq_iff.mpr ⟨h.cut, h.segment⟩).1
  have hlasts := List.forall₂_drop_append _ _ _ h.decodes
  -- The event behind the content events is the receipt event.
  have hreceipt : receiptView lib wire = eventView lib.read receipt := by
    rw [receiptView, contentEvents_of_accepts h, decodedEvents, hframes,
      filterMap_decodes h.decodes, List.getElem?_append_right (Nat.le_refl _), Nat.sub_self]
    rfl
  rw [leftOut, contentEvents_of_accepts h, hframes] at hcr
  rw [hreceipt, shownAfter, visibleText_eq_shown, leftOut, contentEvents_of_accepts h, hframes]
  -- Two frames are left, and each of them is read on its own.
  generalize segments.drop contents.length = lasts at hlasts hcr
  have hdecodes := exists_of_decodes hlasts
  have hlines := consumerLines_eq hdecodes hcr
  rw [items_flatten hdecodes, List.flatMap_congr fun raw hraw => (hlines raw hraw).1]
  cases hlasts with
  | @cons receiptRaw _ _ _ hreceiptDecodes hlasts =>
      cases hlasts with
      | @cons doneRaw _ _ _ hdoneDecodes hnil =>
          cases hnil
          rw [List.flatMap_cons, List.flatMap_singleton, eventView]
          -- The `[DONE]` frame ends the consumer's loop, or is no text and ends it with an error.
          have hdone : shown lib.read ((itemsFrom {} (frameLines doneRaw) []).map itemData) =
              [] := by
            have hframe := itemsFrom_frame (decodes_iff.mpr hdoneDecodes)
              (hlines doneRaw (.tail _ (.head _))).2 [] []
            rw [List.append_nil] at hframe
            rcases hframe with ⟨-, hitems⟩ | ⟨-, bad, hitems⟩
            · have hdata : (eventOf (eventFor done)).data = "[DONE]" := by
                show EventSource.text done.2 = "[DONE]"
                rw [h.done, text_bytes]
              rw [hitems, List.map_cons, itemData, Except.toOption, Option.map_some, hdata,
                shown_done]
            · rw [hitems]
              rfl
          rcases itemsFrom_frame (decodes_iff.mpr hreceiptDecodes)
              (hlines receiptRaw (.head _)).2 (frameLines doneRaw) [] with
            ⟨htext, hitems⟩ | ⟨htext, bad, hitems⟩
          · have htext : (isText receipt.1 && isText receipt.2) = true := htext
            rw [hitems, if_pos htext]
            obtain ⟨texts, hshown⟩ := shown_cons lib.read (some (EventSource.text receipt.2))
            refine (hshown _).trans ?_
            rw [hdone, hshown]
            rfl
          · -- The receipt event is no text: the consumer stops at it, and shows nothing.
            have htext : (isText receipt.1 && isText receipt.2) = false := htext
            rw [hitems, htext]
            rfl

end

/-- Two streams that a receipt is verified with show the same text exactly when the content stops
the consumer, or what the digest leaves out of the two shows the same. Without a lone carriage
return there, that is what the receipt event shows. The two contents that are hashed are assumed
not to be a collision of SHA-256. -/
theorem visibleText_eq_iff (explain : Bytes → String) {receipt wire₁ wire₂ : Bytes}
    {issuer₁ issuer₂ : String} {options₁ options₂ : ReceiptVerificationOptions}
    {verifyGcp₁ verifyGcp₂ : VerifyGcp} {claims₁ claims₂ : ReceiptClaims}
    (h₁ : verifyReceiptWith lib receipt issuer₁ { options₁ with responseStream := some wire₁ }
      verifyGcp₁ = .ok claims₁)
    (h₂ : verifyReceiptWith lib receipt issuer₂ { options₂ with responseStream := some wire₂ }
      verifyGcp₂ = .ok claims₂)
    (hof : claims₁.resp.of = "sse-data-v1")
    (hcollision : lib.sha256 (Domain.data.preimage (contentEvents lib wire₁)) =
        lib.sha256 (Domain.data.preimage (contentEvents lib wire₂)) →
      Domain.data.preimage (contentEvents lib wire₁) =
        Domain.data.preimage (contentEvents lib wire₂)) :
    (visibleText lib.read (parseSse (sourceOf explain wire₁)) =
        visibleText lib.read (parseSse (sourceOf explain wire₂)) ↔
      (contentPasses lib wire₁ = true →
        shownAfter explain lib wire₁ = shownAfter explain lib wire₂)) ∧
    ∀ wire ∈ [wire₁, wire₂], crBeforeLf (leftOut lib wire) = true →
      shownAfter explain lib wire = receiptView lib wire := by
  obtain ⟨expected, digest, events₁, events₂, hsame, hstream₁, hstream₂⟩ :=
    resp_eq_of_verified h₁ h₂
  rw [hof] at hstream₁
  rw [← hsame, hof] at hstream₂
  change streamDigest lib wire₁ Domain.data.text expected = _ at hstream₁
  change streamDigest lib wire₂ Domain.data.text expected = _ at hstream₂
  have hcontents := (contentEvents_eq_of_digest lib .data hstream₁ hstream₂ hcollision).1
  obtain ⟨segments₁, contents₁, receipt₁, done₁, haccepts₁⟩ :=
    accepts_of_streamDigest hstream₁
  obtain ⟨segments₂, contents₂, receipt₂, done₂, haccepts₂⟩ :=
    accepts_of_streamDigest hstream₂
  rw [contentEvents_of_accepts haccepts₁, contentEvents_of_accepts haccepts₂] at hcontents
  constructor
  · -- The contents are the same, so both consumers are shown the same up to their end.
    have hpasses : contentPasses lib wire₂ = contentPasses lib wire₁ := by
      rw [contentPasses, contentPasses, map_itemData_contentPart haccepts₁,
        map_itemData_contentPart haccepts₂, hcontents]
    rw [visibleText_of_accepts explain haccepts₁, visibleText_of_accepts explain haccepts₂,
      hcontents, hpasses, List.append_cancel_left_eq]
    cases contentPasses lib wire₁ <;> simp
  · intro wire hwire hcr
    rcases List.mem_cons.mp hwire with rfl | hwire
    · exact shownAfter_eq_receiptView explain haccepts₁ hcr
    · rw [List.mem_singleton.mp hwire] at hcr ⊢
      exact shownAfter_eq_receiptView explain haccepts₂ hcr

/-! ### What the streams show -/

/-- A JSON text that parses shows the text of its value. -/
theorem shown_text {read : Serde.Reader} {text : String} {value : Value}
    (hopens : text.toList.head? = some '\x7b') (hparse : parseJsonEvent read text = .ok value)
    (later : List (Option String)) :
    shown read (some text :: later) = (shownText value).toList ++ shown read later := by
  have hdone : ¬ (trim text == "[DONE]") = true := by
    rw [beq_iff_eq]
    intro heq
    have hhead := head_trimMatches hopens (show isWhitespace '\x7b' = false by decide)
    rw [show trimMatches isWhitespace text = "[DONE]" from heq] at hhead
    exact absurd hhead (by decide)
  rw [shown, if_neg hdone, hparse]

/-- An object that is neither an error nor of a type that is one is parsed to its value. -/
theorem parseJsonEvent_of_reads {table : List (String × Raw)} {text : String} {raw : Raw}
    (hread : readTable table (bytes text) = .ok (raw, []))
    (hobject : raw.toValue.isObject = true) (htype : raw.toValue.get "type" = none)
    (herror : raw.toValue.get "error" = none) :
    parseJsonEvent (readTable table) text = .ok raw.toValue := by
  have hparsed : Serde.fromSlice (readTable table) (bytes text) = .ok raw.toValue := by
    rw [Serde.fromSlice, hread]
    rfl
  simp only [parseJsonEvent, bind_eq_ok, exists_unit, ensure_eq_ok, mapErr_eq_ok]
  refine ⟨raw.toValue, hparsed, hobject, ?_, ?_⟩
  · rw [htype]
    rfl
  · rw [herror]
    rfl

/-- The first character of a text is that of its first part. -/
theorem head_toList_append {a : String} {c : Char} (h : a.toList.head? = some c) (b : String) :
    (a ++ b).toList.head? = some c := by
  rw [String.toList_append, List.head?_append, h]
  rfl

/-- The text of a receipt event starts with a brace, whatever stands in it. -/
theorem opens_eventText (choices receipt : String) :
    (eventText choices receipt).toList.head? = some '\x7b' := by
  have hstart : "\x7b\"choices\":".toList.head? = some '\x7b' := by decide
  unfold eventText
  iterate 4 refine head_toList_append ?_ _
  exact hstart

/-- Without a carriage return there is nothing to check. -/
theorem crBeforeLf_of_not_mem {stream : Bytes} (h : 13 ∉ stream) : crBeforeLf stream = true := by
  induction stream with
  | nil => rfl
  | cons byte stream ih =>
      rw [List.mem_cons, not_or] at h
      rw [crBeforeLf, ih h.2, bne_iff_ne.mpr (Ne.symm h.1)]
      rfl

/-- The frames of texts that are each on one line. -/
def textFrames (texts : List String) : List Bytes :=
  texts.map fun text => dataFrame (bytes text)

/-- Frames of one-line texts have no carriage return at all, so that none can stand anywhere but
before a line feed. -/
theorem crBeforeLf_textFrames {texts : List String}
    (h : ∀ text ∈ texts, (bytes text).all isLineByte = true) :
    crBeforeLf (textFrames texts).flatten = true := by
  apply crBeforeLf_of_not_mem
  intro hmem
  obtain ⟨frame, hframe, hmem⟩ := List.mem_flatten.mp hmem
  obtain ⟨text, htext, rfl⟩ := List.mem_map.mp hframe
  rw [dataFrame, List.mem_append, List.mem_append] at hmem
  rcases hmem with (hmem | hmem) | hmem
  · exact absurd hmem (by decide)
  · exact absurd (List.all_eq_true.mp (h text htext) 13 hmem) (by decide)
  · exact absurd hmem (by decide)

/-- A one-line text in a frame of its own is decoded to it, `[DONE]` included. -/
theorem decodeSseEvent_text {text : String} (h : (bytes text).all isLineByte = true) :
    decodeSseEvent (dataFrame (bytes text)) =
      .ok { name := [], payload := bytes text, done := bytes text == bytes "[DONE]" } := by
  have hno : 10 ∉ bytes text ∧ 13 ∉ bytes text :=
    ⟨fun hmem => absurd (List.all_eq_true.mp h 10 hmem) (by decide),
      fun hmem => absurd (List.all_eq_true.mp h 13 hmem) (by decide)⟩
  exact decodeSseEvent_dataFrame hno.1 fun hlast => hno.2 (List.mem_of_getLast? hlast)

/-- The consumer reads the texts. -/
theorem map_itemData_textFrames {texts : List String}
    (h : ∀ text ∈ texts, (bytes text).all isLineByte = true) :
    (EventSource.items (textFrames texts).flatten).map itemData = texts.map some := by
  have hdecodes : ∀ raw ∈ textFrames texts, ∃ event, decodeSseEvent raw = .ok event := by
    intro raw hraw
    obtain ⟨text, htext, rfl⟩ := List.mem_map.mp hraw
    exact ⟨_, decodeSseEvent_text (h text htext)⟩
  have hlines := consumerLines_eq hdecodes (crBeforeLf_textFrames h)
  rw [items_flatten hdecodes, List.flatMap_congr fun raw hraw => (hlines raw hraw).1]
  clear hdecodes
  induction texts with
  | nil => rfl
  | cons text texts ih =>
      obtain ⟨htext, htexts⟩ := List.forall_mem_cons.mp h
      have hrest := ih htexts fun raw hraw => hlines raw (.tail _ hraw)
      rw [textFrames, List.map_cons, List.flatMap_cons]
      rcases itemsFrom_frame (decodeSseEvent_text htext) (hlines _ (.head _)).2
          ((textFrames texts).flatMap frameLines) [] with ⟨-, hitems⟩ | ⟨hnot, -⟩
      · refine (congrArg (List.map itemData) hitems).trans ?_
        rw [List.map_cons, hrest, List.map_cons]
        exact congrArg (fun data => some data :: texts.map some) (text_bytes text)
      · -- The bytes of a text are a text, so the consumer does not stop at them.
        have hvalid : isText (bytes text) = true := by
          rw [isText, fromUtf8_eq_some.mpr rfl]
          rfl
        rw [isText_nil, hvalid] at hnot
        cases hnot

/-- All texts of a fixture stream stand on one line, if the receipt event does. -/
theorem oneLine_streamTexts {event : String} {n : Nat} (h : Piece event n) :
    ∀ text ∈ streamTexts event, (bytes text).all isLineByte = true := by
  intro text htext
  simp only [streamTexts, List.mem_cons, List.not_mem_nil, or_false] at htext
  rcases htext with rfl | rfl | rfl | rfl | rfl
  · exact streamFacts.hello.oneLine
  · exact streamFacts.fixture.oneLine
  · exact streamFacts.stop.oneLine
  · exact h.oneLine
  · decide

/-- A stream of the fixture shows the content, and then what its receipt event shows. -/
theorem visibleText_streamOf {table : List (String × Raw)} (explain : Bytes → String)
    (hcommon : ReadsCommon table) {event : String} {raw : Raw} {n : Nat} (hpiece : Piece event n)
    (hopens : event.toList.head? = some '\x7b')
    (hparse : parseJsonEvent (readTable table) event = .ok raw.toValue) :
    visibleText (readTable table) (parseSse (sourceOf explain (streamOf event))) =
      ["Hello", " fixture"] ++ (shownText raw.toValue).toList := by
  have hhello := parseJsonEvent_of_reads hcommon.hello rfl rfl rfl
  have hfixture := parseJsonEvent_of_reads hcommon.fixture rfl rfl rfl
  have hstop := parseJsonEvent_of_reads hcommon.stop rfl rfl rfl
  have hitems := map_itemData_textFrames (oneLine_streamTexts hpiece)
  rw [visibleText_eq_shown]
  refine (congrArg (shown (readTable table)) hitems).trans ?_
  show shown (readTable table) [some helloChunk, some fixtureChunk, some stopChunk, some event,
    some "[DONE]"] = _
  rw [shown_text streamFacts.hello_opens hhello, shown_text streamFacts.fixture_opens hfixture,
    shown_text streamFacts.stop_opens hstop, shown_text hopens hparse, shown_done, List.append_nil]
  rfl

/-! ### Two streams that differ in the receipt event

The first has no choices in its receipt event, the second an empty delta, the third a text. -/

/-- Choices with an empty delta. -/
def emptyDelta : String := "[\x7b\"delta\":\x7b\x7d\x7d]"

/-- Choices with a text. -/
def addedText : String := "[\x7b\"delta\":\x7b\"content\":\"!\"\x7d\x7d]"

/-- The choices of the receipt event, and what is read from them. -/
def choiceTexts : List (String × Raw) :=
  [("[]", .array []), (emptyDelta, .array [.object [("delta", .object [])]]),
   (addedText, .array [.object [("delta", .object [("content", .string "!")])]])]

/-- The receipt event with given choices. -/
def plainEvent (choices : String) : String := eventText choices (receiptText "")

/-- What the parser knows. -/
def visibleTable : List (String × Raw) :=
  streamTable ((receiptText "", receiptRaw []) ::
    choiceTexts.map fun choice => (plainEvent choice.1, eventRaw choice.2 (receiptRaw [])))

/-- How the decoder explains a line that is not UTF-8. The three streams have none. -/
def explainUtf8 : Bytes → String := fun _ => "UTF8 error"

/-- The crates, for the three streams. -/
def visibleLibrary : Library := streamLibrary visibleTable fun _ => ""

/-- Nothing is put after the signature in the plain receipt. -/
theorem piece_empty : Piece "" 0 := piece_ofList (by decide)

/-- The receipt event with plain choices is one line, of a length that tells it from the other
texts. -/
theorem piece_plainEvent {choices : String} {n : Nat} (h : Piece choices n) :
    Piece (plainEvent choices) (1338 + n) := by
  have hwhole := piece_eventText h (piece_receiptText piece_empty)
  have hlength : 33 + n + (1305 + 0) = 1338 + n := by omega
  exact hlength ▸ hwhole

/-- The three choices of the fixtures, with their lengths. -/
theorem piece_choices : Piece "[]" 2 ∧ Piece emptyDelta 14 ∧ Piece addedText 27 :=
  ⟨piece_ofList (by decide), piece_ofList (by decide), piece_ofList (by decide)⟩

/-- The texts of the table are told apart by their lengths. -/
theorem visibleTable_lens : (visibleTable.map fun entry => len entry.1).Nodup := by
  obtain ⟨hnone, hempty, hadded⟩ := piece_choices
  have hreceipt : Piece (receiptText "") 1305 := piece_receiptText piece_empty
  show [len streamHeaderJson, len streamPayloadJson, len helloChunk, len fixtureChunk,
    len stopChunk, len (receiptText ""), len (plainEvent _), len (plainEvent _),
    len (plainEvent _)].Nodup
  rw [streamFacts.headerJson.len_eq, streamFacts.payloadJson.len_eq, streamFacts.hello.len_eq,
    streamFacts.fixture.len_eq, streamFacts.stop.len_eq, hreceipt.len_eq,
    (piece_plainEvent hnone).len_eq, (piece_plainEvent hempty).len_eq,
    (piece_plainEvent hadded).len_eq]
  decide

/-- The parser knows each of the three receipt events. -/
theorem reads_plainEvent {choices : String} {raw : Raw} (h : (choices, raw) ∈ choiceTexts) :
    readTable visibleTable (bytes (plainEvent choices)) =
      .ok (eventRaw raw (receiptRaw []), []) := by
  have hmem : (plainEvent choices, eventRaw raw (receiptRaw [])) ∈ visibleTable := by
    apply List.mem_append_right
    apply List.mem_cons_of_mem
    exact List.mem_map.mpr ⟨(choices, raw), h, rfl⟩
  exact readTable_eq visibleTable_lens hmem

/-- Each of them carries the one receipt. -/
theorem eventFacts_plain {choices : String} {raw : Raw} (h : (choices, raw) ∈ choiceTexts)
    {n : Nat} (hpiece : Piece choices n) {value : Value}
    (hvalue : strictValue visibleLibrary raw = .ok value) :
    EventFacts visibleTable (fun _ => "") (plainEvent choices) (.object receiptMembers) where
  piece := ⟨_, piece_plainEvent hpiece, by omega⟩
  reads := by
    refine ⟨_, .object [("choices", value), ("inference_receipt", .object receiptMembers)],
      reads_plainEvent h, ?_, rfl⟩
    have hreceipt : strictValue visibleLibrary (receiptRaw []) = .ok (.object receiptMembers) := rfl
    simp only [eventRaw, strictValue, strictMap, bind_eq_ok, exists_unit, ensure_eq_ok]
    exact ⟨_, ⟨rfl, value, hvalue, rfl, _, hreceipt, rfl⟩, rfl⟩
  object := rfl

/-- The stream with the given choices in its receipt event. -/
def plainStream (choices : String) : Bytes := streamOf (plainEvent choices)

/-- It starts with a brace. -/
theorem opens_plainEvent (choices : String) : (plainEvent choices).toList.head? = some '\x7b' :=
  opens_eventText choices (receiptText "")

/-- The parser knows the texts of the content. -/
theorem readsCommon_visibleTable : ReadsCommon visibleTable :=
  readsCommon_streamTable visibleTable_lens

/-- The receipt verifies with each of the three streams. -/
theorem verifies_plain {choices : String} {raw : Raw} (h : (choices, raw) ∈ choiceTexts) {n : Nat}
    (hpiece : Piece choices n) {value : Value}
    (hvalue : strictValue visibleLibrary raw = .ok value) :
    verifyReceiptWith visibleLibrary (bytes (receiptText "")) "https://api.trustedrouter.com"
      { streamOptions with responseStream := some (plainStream choices) } acceptingVerifier =
        .ok streamClaims := by
  have hread : readTable visibleTable (bytes (receiptText "")) = .ok (receiptRaw [], []) :=
    readTable_eq visibleTable_lens (List.mem_append_right _ List.mem_cons_self)
  have henvelope : parseEnvelope visibleLibrary (bytes (receiptText "")) =
      .ok (streamEnvelope (.object receiptMembers)) :=
    parseEnvelope_stream piece_empty hread rfl (flattenedEnvelope_stream rfl rfl rfl rfl)
  exact verifyReceiptWith_streamFixture readsCommon_visibleTable henvelope
    (streamDigest_stream readsCommon_visibleTable (eventFacts_plain h hpiece hvalue))

/-- What each of the streams shows: the two texts of the content, and the text of the receipt
event if it has one. -/
theorem shows_plain {choices : String} {raw : Raw} (h : (choices, raw) ∈ choiceTexts)
    {n : Nat} (hpiece : Piece choices n) :
    visibleText visibleLibrary.read (parseSse (sourceOf explainUtf8 (plainStream choices))) =
      ["Hello", " fixture"] ++
        (shownText (eventRaw raw (receiptRaw [])).toValue).toList := by
  have hparse := parseJsonEvent_of_reads (reads_plainEvent h) rfl rfl rfl
  rw [visibleLibrary, streamLibrary_read, plainStream]
  exact visibleText_streamOf explainUtf8 readsCommon_visibleTable (piece_plainEvent hpiece)
    (opens_plainEvent choices) hparse

/-- One receipt verifies with two streams that show different texts. The second stream has a
text in its receipt event, and the same content. -/
theorem visibleText_ne_of_receipt_text :
    (verifyReceiptWith visibleLibrary (bytes (receiptText "")) "https://api.trustedrouter.com"
        { streamOptions with responseStream := some (plainStream "[]") } acceptingVerifier =
          .ok streamClaims ∧
      verifyReceiptWith visibleLibrary (bytes (receiptText "")) "https://api.trustedrouter.com"
        { streamOptions with responseStream := some (plainStream addedText) }
        acceptingVerifier = .ok streamClaims ∧
      streamClaims.resp.of = "sse-data-v1" ∧ streamClaims.route = "chat.completions") ∧
    visibleText visibleLibrary.read (parseSse (sourceOf explainUtf8 (plainStream "[]"))) =
      ["Hello", " fixture"] ∧
    visibleText visibleLibrary.read (parseSse (sourceOf explainUtf8 (plainStream addedText))) =
      ["Hello", " fixture", "!"] := by
  obtain ⟨hnone, -, hadded⟩ := piece_choices
  have hfirst : ("[]", Raw.array []) ∈ choiceTexts := .head _
  have hlast : (addedText, Raw.array [.object [("delta", .object [("content", .string "!")])]]) ∈
      choiceTexts := .tail _ (.tail _ (.head _))
  exact ⟨⟨verifies_plain hfirst hnone rfl, verifies_plain hlast hadded rfl, rfl, rfl⟩,
    shows_plain hfirst hnone, shows_plain hlast hadded⟩

/-- The content events are the same whatever the choices of the receipt event. -/
theorem contentEvents_plain {choices : String} {raw : Raw} (h : (choices, raw) ∈ choiceTexts)
    {n : Nat} (hpiece : Piece choices n) {value : Value}
    (hvalue : strictValue visibleLibrary raw = .ok value) :
    contentEvents visibleLibrary (plainStream choices) =
      [([], bytes helloChunk), ([], bytes fixtureChunk), ([], bytes stopChunk)] := by
  obtain ⟨hrest, hshape⟩ :=
    streamOf_shape readsCommon_visibleTable (eventFacts_plain h hpiece hvalue)
  have haccepts := @accepts_of_shape _ .data _ _ _ _ _ _ _ _ hrest hshape
  rw [plainStream, visibleLibrary, contentEvents_of_accepts haccepts]
  simp only [streamParts, List.map_cons, List.map_nil]

/-- The receipt event and `[DONE]` are left out. -/
theorem leftOut_plain {choices : String} {raw : Raw} (h : (choices, raw) ∈ choiceTexts)
    {n : Nat} (hpiece : Piece choices n) {value : Value}
    (hvalue : strictValue visibleLibrary raw = .ok value) :
    leftOut visibleLibrary (plainStream choices) =
      (textFrames [plainEvent choices, "[DONE]"]).flatten := by
  rw [leftOut, contentEvents_plain h hpiece hvalue, plainStream,
    (streamOf_frames (piece_plainEvent hpiece)).1]
  rfl

/-- What the digest leaves out stands on one line a frame. -/
theorem oneLine_leftOut {choices : String} {n : Nat} (hpiece : Piece choices n) :
    ∀ text ∈ [plainEvent choices, "[DONE]"], (bytes text).all isLineByte = true := by
  intro text htext
  rcases List.mem_cons.mp htext with rfl | htext
  · exact (piece_plainEvent hpiece).oneLine
  · rw [List.mem_singleton.mp htext]
    decide

/-- Behind the content the consumer sees the text of the receipt event, which the digest does not
cover. -/
theorem shownAfter_plain {choices : String} {raw : Raw} (h : (choices, raw) ∈ choiceTexts)
    {n : Nat} (hpiece : Piece choices n) {value : Value}
    (hvalue : strictValue visibleLibrary raw = .ok value) :
    shownAfter explainUtf8 visibleLibrary (plainStream choices) =
      (shownText (eventRaw raw (receiptRaw [])).toValue).toList := by
  have hparse := parseJsonEvent_of_reads (reads_plainEvent h) rfl rfl rfl
  rw [shownAfter, visibleText_eq_shown, leftOut_plain h hpiece hvalue,
    map_itemData_textFrames (oneLine_leftOut hpiece), List.map_cons, List.map_singleton,
    visibleLibrary, streamLibrary_read, shown_text (opens_plainEvent choices) hparse, shown_done,
    List.append_nil]

/-- The two streams without a text in the receipt event show the same, and the receipt event of
the second shows what comes after its content. -/
theorem visibleText_eq_iff_fixture :
    visibleText visibleLibrary.read (parseSse (sourceOf explainUtf8 (plainStream "[]"))) =
        visibleText visibleLibrary.read
          (parseSse (sourceOf explainUtf8 (plainStream emptyDelta))) ∧
      shownAfter explainUtf8 visibleLibrary (plainStream emptyDelta) =
        receiptView visibleLibrary (plainStream emptyDelta) := by
  obtain ⟨hnone, hempty, -⟩ := piece_choices
  have hfirst : ("[]", Raw.array []) ∈ choiceTexts := .head _
  have hsecond : (emptyDelta, Raw.array [.object [("delta", .object [])]]) ∈ choiceTexts :=
    .tail _ (.head _)
  have hcontents := (contentEvents_plain hfirst hnone rfl).trans
    (contentEvents_plain hsecond hempty rfl).symm
  obtain ⟨hiff, hreceipt⟩ := visibleText_eq_iff explainUtf8 (verifies_plain hfirst hnone rfl)
    (verifies_plain hsecond hempty rfl) rfl fun _ => by rw [hcontents]
  refine ⟨hiff.mpr fun _ => ?_, hreceipt _ (.tail _ (.head _)) ?_⟩
  · rw [shownAfter_plain hfirst hnone rfl, shownAfter_plain hsecond hempty rfl]
    rfl
  · rw [leftOut_plain hsecond hempty rfl]
    exact crBeforeLf_textFrames (oneLine_leftOut hempty)

end TrustedRouter.Proofs.Receipts
