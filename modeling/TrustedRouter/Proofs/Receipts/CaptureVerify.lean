import TrustedRouter.Proofs.Receipts.Accepted

/-!
# `TrustedRouter.Proofs.Receipts.CaptureVerify`: the capture and the verifier

`ReceiptCapture::verify_with` does not verify the receipt as it stands on the wire. It prints
the JSON value it found and verifies that text. `serde_json` prints a character that is not
ASCII as it is, also where the wire had an escape for it, and `parse_envelope` refuses a text
that is not ASCII. So a receipt with such an escape verifies, and its capture does not.

`verifyWith_iff` is what holds: the capture verifies with exactly the claims that the text on
the wire verifies with, if and only if that text, where it verifies, has no such escape.
-/

set_option autoImplicit false

namespace TrustedRouter.Proofs.Receipts

open Rust (Bytes)
open Rust.Str
open Rust.Result
open Serde (Raw Value)
open TrustedRouter.Receipts
open Framing (frames)

variable {lib : Library}

/-! ## The value of a member -/

/-- A name that was seen keeps its value, because it may not come again. -/
theorem strictMap_get_of_seen {members : List (String × Raw)} {seen : List String}
    {values result : Serde.Map} (h : strictMap lib members seen values = .ok result)
    {name : String} (hseen : name ∈ seen) : result.get name = values.get name := by
  induction members generalizing seen values with
  | nil =>
      rw [strictMap] at h
      cases h
      rfl
  | cons member members ih =>
      obtain ⟨key, raw⟩ := member
      simp only [strictMap, bind_eq_ok, exists_unit, ensure_eq_ok, Bool.not_eq_true',
        List.contains_eq_mem, decide_eq_false_iff_not] at h
      obtain ⟨hnew, value, -, hrest⟩ := h
      have hne : name ≠ key := by
        rintro rfl
        exact hnew hseen
      rw [ih hrest (List.mem_cons_of_mem _ hseen), Serde.Map.insert_get_of_ne _ _ hne]

/-- A member of an object that loads has the value of its text. -/
theorem strictMap_get {members : List (String × Raw)} {seen : List String}
    {values result : Serde.Map} (h : strictMap lib members seen values = .ok result)
    {name : String} {raw : Raw} (hmem : (name, raw) ∈ members) :
    ∃ value, strictValue lib raw = .ok value ∧ result.get name = some value := by
  induction members generalizing seen values with
  | nil => cases hmem
  | cons member members ih =>
      obtain ⟨key, first⟩ := member
      simp only [strictMap, bind_eq_ok, exists_unit] at h
      obtain ⟨-, value, hvalue, hrest⟩ := h
      rcases List.mem_cons.mp hmem with heq | hmem
      · cases heq
        refine ⟨value, hvalue, ?_⟩
        rw [strictMap_get_of_seen hrest List.mem_cons_self, Serde.Map.insert_get]
      · exact ih hrest hmem

/-! ## Texts -/

mutual

/-- Every string of a value is ASCII, its names included. -/
def asciiValue : Value → Bool
  | .string s => isAscii (bytes s)
  | .array values => asciiValues values
  | .object members => asciiMembers members
  | _ => true

@[inherit_doc asciiValue]
def asciiValues : List Value → Bool
  | [] => true
  | value :: values => asciiValue value && asciiValues values

@[inherit_doc asciiValue]
def asciiMembers : List (String × Value) → Bool
  | [] => true
  | (name, value) :: members => isAscii (bytes name) && asciiValue value && asciiMembers members

end

/-- How `serde_json` prints an object whose numbers are integers: between braces, as a text
that loads as the same value, and with every character that is not ASCII as it is. -/
structure PrintsBack (lib : Library) (value : Value) : Prop where
  braced : Braced (bytes (lib.print value))
  loads : loadJson lib (bytes (lib.print value)) "JWS structure" = .ok value
  ascii : isAscii (bytes (lib.print value)) = asciiValue value

/-- The text of the `inference_receipt` member of an event payload, and what the parser reads
from it, in the payload and alone. A character that is not ASCII can only stand in a string. -/
structure ReceiptText (lib : Library) (payload text : Bytes) (raw : Raw) (value : Value) :
    Prop where
  stands : text <:+: payload
  member : ∃ members rest, lib.read payload = .ok (.object members, rest) ∧
    ("inference_receipt", raw) ∈ members
  reads : lib.read text = .ok (raw, [])
  strict : strictValue lib raw = .ok value
  braced : Braced text
  not_ascii : isAscii text = false → asciiValue value = false

/-- The last receipt event of a stream has this payload. -/
structure LastReceiptEvent (lib : Library) (wire payload : Bytes) : Prop where
  split : ∃ before raw after event, frames sseRule wire = before ++ raw :: after ∧
    decodeSseEvent raw = .ok event ∧ event.payload = payload ∧
    (receiptOf lib raw).isSome = true ∧ ∀ later ∈ after, receiptOf lib later = none

/-- The receipt event of an accepted stream is one that `refresh_receipt` finds. -/
theorem isSome_receiptOf {expected : Option Value} {raw : Bytes} {event : SseEvent}
    (h : IsReceipt lib expected raw event) : (receiptOf lib raw).isSome = true := by
  obtain ⟨receipt, hreceipt, -⟩ := h.receipt
  simp only [receiptOf, h.decodes, hreceipt, Option.isSome_some]

/-- A payload that is not JSON carries no receipt. -/
theorem receiptOf_of_not_read {raw : Bytes} {event : SseEvent} {error : String}
    (h : decodeSseEvent raw = .ok event) (hread : lib.read event.payload = .error error) :
    receiptOf lib raw = none := by
  have hloads : loadJson lib event.payload "response stream event JSON" =
      .error (invalidJson "response stream event JSON" error) := by
    rw [loadJson, hread]
    rfl
  simp only [receiptOf, h, embeddedReceipt, hloads]

/-- An event that carries a receipt carries the value of the receipt text. An object that names
`inference_receipt` twice does not load, and then it carries none. -/
theorem embeddedReceipt_eq {payload text : Bytes} {raw : Raw} {value receipt : Value}
    (htext : ReceiptText lib payload text raw value)
    (h : embeddedReceipt lib payload = .ok (some receipt)) : receipt = value := by
  obtain ⟨members, rest, hread, hmem⟩ := htext.member
  rw [embeddedReceipt] at h
  split at h
  · cases h
  · rename_i loaded hloaded
    obtain ⟨raw', rest', hread', hstrict, -⟩ := loadJson_eq_ok.mp hloaded
    cases hread.symm.trans hread'
    simp only [strictValue, bind_eq_ok] at hstrict
    obtain ⟨values, hvalues, hresult⟩ := hstrict
    cases hresult
    obtain ⟨value', hvalue', hget⟩ := strictMap_get hvalues hmem
    cases htext.strict.symm.trans hvalue'
    rw [show Value.get (.object values) "inference_receipt" = some value from hget] at h
    simp only [bind_eq_ok, exists_unit] at h
    obtain ⟨-, hresult⟩ := h
    cases hresult
    rfl

/-- The capture has the value of the receipt text of the last receipt event. -/
theorem lastReceipt_eq_some {wire payload text : Bytes} {raw : Raw} {value : Value}
    (h : LastReceiptEvent lib wire payload) (htext : ReceiptText lib payload text raw value) :
    lastReceipt lib wire = some value := by
  obtain ⟨before, frame, after, event, hframes, hdecodes, rfl, hsome, hafter⟩ := h.split
  have hnone : after.filterMap (receiptOf lib) = [] := List.filterMap_eq_nil_iff.mpr hafter
  have hvalue : receiptOf lib frame = some value := by
    rw [receiptOf, hdecodes] at hsome ⊢
    simp only at hsome ⊢
    split at hsome
    · rename_i receipt hreceipt
      rw [embeddedReceipt_eq htext hreceipt]
    · cases hsome
  rw [lastReceipt, hframes, List.filterMap_append, List.filterMap_cons, hvalue, hnone]
  simp

/-! ## Verification -/

/-- A receipt is verified through its envelope alone: no other check reads its bytes. -/
theorem verifyReceiptWith_congr {a b : Bytes} (h : parseEnvelope lib a = parseEnvelope lib b)
    (issuer : String) (options : ReceiptVerificationOptions) (verifyGcp : VerifyGcp) :
    verifyReceiptWith lib a issuer options verifyGcp =
      verifyReceiptWith lib b issuer options verifyGcp := by
  rw [verifyReceiptWith, verifyReceiptWith, h]

/-- A receipt that is not ASCII is refused, once the options and the issuer have passed. -/
theorem verifyReceiptWith_not_ascii {receipt : Bytes} {issuer canonical : String}
    {options : ReceiptVerificationOptions} {verifyGcp : VerifyGcp}
    (hbindings : requireTrafficBindings options = .ok ())
    (hissuer : canonicalHttpsOrigin lib issuer "expected_issuer" = .ok canonical)
    (h : isAscii receipt = false) :
    verifyReceiptWith lib receipt issuer options verifyGcp =
      .error (.structural "JWS structure check failed: receipt bytes must be ASCII") := by
  rw [verifyReceiptWith, hbindings, hissuer, parseEnvelope_not_ascii h]
  rfl

/-- The printed receipt and the text on the wire open as one envelope, when the text escapes no
character that is not ASCII. Printing writes such a character as it is, and then the printed
receipt is not ASCII. -/
theorem parseEnvelope_print {payload text : Bytes} {raw : Raw} {value : Value}
    (htext : ReceiptText lib payload text raw value) (hprint : PrintsBack lib value)
    (hescape : isAscii text = true → asciiValue value = true) :
    parseEnvelope lib (bytes (lib.print value)) = parseEnvelope lib text := by
  cases hascii : isAscii text with
  | true =>
      have hloads : loadJson lib text "JWS structure" = .ok value :=
        loadJson_eq_ok.mpr ⟨raw, [], htext.reads, htext.strict, rfl⟩
      have hprinted := hprint.ascii.trans (hescape hascii)
      rw [parseEnvelope_braced hprinted hprint.braced, parseEnvelope_braced hascii htext.braced,
        hprint.loads, hloads]
  | false =>
      have hprinted := hprint.ascii.trans (htext.not_ascii hascii)
      rw [parseEnvelope_not_ascii hprinted, parseEnvelope_not_ascii hascii]

/-- A capture that has seen a stream, through whatever polls, verifies what it prints. -/
theorem verifyWith_eq {ε : Type} (polls : List (Poll ε)) {payload text : Bytes} {raw : Raw}
    {value : Value} (hlast : LastReceiptEvent lib (delivered polls) payload)
    (htext : ReceiptText lib payload text raw value) {options : ReceiptVerificationOptions}
    (hunset : options.responseStream = none) (issuer : String) (verifyGcp : VerifyGcp) :
    (ReceiptCapture.run lib {} polls).2.verifyWith lib issuer options verifyGcp =
      verifyReceiptWith lib (bytes (lib.print value)) issuer
        { options with responseStream := some (delivered polls) } verifyGcp := by
  have hrun : (ReceiptCapture.run lib {} polls).2 = captureOf lib (delivered polls) := by
    rw [← captureOf_nil lib, run_captureOf, List.nil_append]
  rw [hrun, ReceiptCapture.verifyWith, captureOf, lastReceipt_eq_some hlast htext, hunset]
  rfl

/-- A receipt that verifies is ASCII. -/
theorem isAscii_of_verified {receipt : Bytes} {issuer : String}
    {options : ReceiptVerificationOptions} {verifyGcp : VerifyGcp} {claims : ReceiptClaims}
    (h : verifyReceiptWith lib receipt issuer options verifyGcp = .ok claims) :
    isAscii receipt = true := by
  by_contra hascii
  obtain ⟨_, envelope, _, _, _, h⟩ := verifyReceiptWith_eq_ok.mp h
  have hopens := h.opens
  rw [parseEnvelope_not_ascii (Bool.eq_false_iff.mpr hascii)] at hopens
  cases hopens

/-- A capture that has seen a stream, through whatever polls, verifies with the claims that the
receipt text on the wire verifies with, exactly when the value of a text that verifies is ASCII:
an ASCII text with another value has an escape for a character that is not ASCII. -/
theorem verifyWith_iff {ε : Type} (polls : List (Poll ε)) {payload text : Bytes} {raw : Raw}
    {value : Value} (hlast : LastReceiptEvent lib (delivered polls) payload)
    (htext : ReceiptText lib payload text raw value) (hprint : PrintsBack lib value)
    {options : ReceiptVerificationOptions} (hunset : options.responseStream = none)
    (issuer : String) (verifyGcp : VerifyGcp) :
    (∀ claims,
      (ReceiptCapture.run lib {} polls).2.verifyWith lib issuer options verifyGcp = .ok claims ↔
        verifyReceiptWith lib text issuer
          { options with responseStream := some (delivered polls) } verifyGcp = .ok claims) ↔
      ∀ claims, verifyReceiptWith lib text issuer
        { options with responseStream := some (delivered polls) } verifyGcp = .ok claims →
          asciiValue value = true := by
  rw [verifyWith_eq polls hlast htext hunset]
  -- An ASCII value is printed as a text that opens like the one on the wire.
  have hsame : asciiValue value = true → parseEnvelope lib (bytes (lib.print value)) =
      parseEnvelope lib text := fun hascii => parseEnvelope_print htext hprint fun _ => hascii
  constructor
  · intro hagrees claims hwire
    rw [← hprint.ascii]
    exact isAscii_of_verified ((hagrees claims).mpr hwire)
  · intro hascii claims
    constructor
    · intro hcapture
      have hprinted := isAscii_of_verified hcapture
      rw [hprint.ascii] at hprinted
      rwa [verifyReceiptWith_congr (hsame hprinted)] at hcapture
    · intro hwire
      rwa [verifyReceiptWith_congr (hsame (hascii claims hwire))]

/-! ### The capture of the streaming receipt -/

/-- The three members of the receipt as they are printed, in the order of a map. -/
def printedTail : String :=
  "\"payload\":\"" ++ streamPayloadPart ++ "\",\"protected\":\"" ++ streamHeaderPart ++
    "\",\"signature\":\"" ++ streamSignaturePart ++ "\"\x7d"

/-- How `serde_json` prints the receipt: compact, with `first` before the three members. -/
def printedText (first : String) : String := "\x7b" ++ first ++ printedTail

/-- What is read from the printed receipt. -/
def printedRaw (first : List (String × Raw)) : Raw :=
  .object
    (first ++ [("payload", .string streamPayloadPart), ("protected", .string streamHeaderPart),
      ("signature", .string streamSignaturePart)])

/-- The receipt event of the capture. -/
def capturedEvent (more : String) : String := eventText "[]" (receiptText more)

/-- The stream that is captured. -/
def capturedStream (more : String) : Bytes := streamOf (capturedEvent more)

/-- What the parser knows: the receipt on the wire with `more` after its signature, the receipt
event, and the receipt that is printed with `first` before its members. -/
def capturedTable (more first : String) (raws : List (String × Raw)) : List (String × Raw) :=
  streamTable
    [(receiptText more, receiptRaw raws),
     (capturedEvent more, eventRaw (.array []) (receiptRaw raws)),
     (printedText first, printedRaw raws)]

/-- The crates, for one captured receipt. -/
def capturedLibrary (more first : String) (raws : List (String × Raw)) : Library :=
  streamLibrary (capturedTable more first raws) fun _ => printedText first

/-- The members of the receipt as they are printed are one line of known length. -/
theorem piece_printedTail : Piece printedTail 1304 := by
  have hpayload : Piece "\"payload\":\"" 11 := piece_ofList (by decide)
  have hprotected : Piece "\",\"protected\":\"" 15 := piece_ofList (by decide)
  have hsignature : Piece "\",\"signature\":\"" 15 := piece_ofList (by decide)
  have hend : Piece "\"\x7d" 2 := piece_ofList (by decide)
  exact (((((hpayload.append streamFacts.payloadPart).append hprotected).append
    streamFacts.headerPart).append hsignature).append streamFacts.signaturePart).append hend

/-- Lengths in bytes add up. -/
theorem len_append (a b : String) : len (a ++ b) = len a + len b := by
  rw [len_eq_length, bytes_append, List.length_append, ← len_eq_length, ← len_eq_length]

/-- The length of the printed receipt. -/
theorem len_printedText (first : String) : len (printedText first) = 1305 + len first := by
  have hopen : len "\x7b" = 1 := by decide
  rw [printedText, len_append, len_append, piece_printedTail.len_eq, hopen]
  omega

/-- The printed receipt is ASCII when what stands before its members is. -/
theorem isAscii_printedText (first : String) :
    isAscii (bytes (printedText first)) = isAscii (bytes first) := by
  have hopen : isAscii (bytes "\x7b") = true := by decide
  have htail := piece_printedTail.ascii
  unfold isAscii at *
  rw [printedText, bytes_append, bytes_append, List.all_append, List.all_append, hopen, htail,
    Bool.and_true, Bool.true_and]

/-- The printed receipt stands in braces. -/
theorem braced_printedText (first : String) : Braced (bytes (printedText first)) := by
  have hopen : (bytes "\x7b").head? = some 123 := by decide
  have hclose : (bytes "\"\x7d").getLast? = some 125 := by decide
  refine ⟨head_bytes_append (head_bytes_append hopen _) _, getLast_bytes_append _ ?_⟩
  exact getLast_bytes_append _ hclose

/-- The members of the receipt are base64url texts and ASCII. -/
theorem asciiValue_receiptMembers : asciiMembers receiptMembers = true := by
  have hnames : isAscii (bytes "payload") = true ∧ isAscii (bytes "protected") = true ∧
      isAscii (bytes "signature") = true := by decide
  simp only [receiptMembers, asciiMembers, asciiValue, hnames, streamFacts.payloadPart.ascii,
    streamFacts.headerPart.ascii, streamFacts.signaturePart.ascii, Bool.and_self]

/-- A captured receipt with its texts, told apart by their lengths, and its members. -/
structure CapturedFacts (more first : String) (raws : List (String × Raw))
    (members : Serde.Map) : Prop where
  piece : ∃ n, Piece more n
  lens : ((capturedTable more first raws).map fun entry => len entry.1).Nodup
  no_done : len "[DONE]" ∉ (capturedTable more first raws).map fun entry => len entry.1
  strict : strictValue (capturedLibrary more first raws) (receiptRaw raws) =
    .ok (.object (members ++ receiptMembers))
  printed : strictValue (capturedLibrary more first raws) (printedRaw raws) =
    .ok (.object (members ++ receiptMembers))
  ascii : isAscii (bytes first) = asciiMembers members

section
variable {more first : String} {raws : List (String × Raw)} {members : Serde.Map}

/-- The parser of a capture is its table, stated for rewriting. -/
theorem capturedLibrary_read :
    (capturedLibrary more first raws).read = readTable (capturedTable more first raws) := by
  rw [capturedLibrary, streamLibrary_read]

/-- Members are ASCII one by one. -/
theorem asciiMembers_append (a b : Serde.Map) :
    asciiMembers (a ++ b) = (asciiMembers a && asciiMembers b) := by
  induction a with
  | nil => rfl
  | cons member a ih =>
      rw [List.cons_append, asciiMembers, asciiMembers, ih, Bool.and_assoc, Bool.and_assoc,
        Bool.and_assoc]

/-- The receipt is printed so that it is read back, by the texts that the table has. -/
theorem CapturedFacts.printsBack (h : CapturedFacts more first raws members) :
    PrintsBack (capturedLibrary more first raws) (.object (members ++ receiptMembers)) where
  braced := braced_printedText first
  loads := by
    have hmem : (printedText first, printedRaw raws) ∈ capturedTable more first raws :=
      List.mem_append_right _ (.tail _ (.tail _ (.head _)))
    exact loads_of_reads (readTable_eq h.lens hmem) h.printed
  ascii := by
    rw [asciiValue, asciiMembers_append, asciiValue_receiptMembers, Bool.and_true, ← h.ascii]
    exact isAscii_printedText first

/-- The parser knows the receipt event. -/
theorem CapturedFacts.reads_event (h : CapturedFacts more first raws members) :
    readTable (capturedTable more first raws) (bytes (capturedEvent more)) =
      .ok (eventRaw (.array []) (receiptRaw raws), []) :=
  readTable_eq h.lens (List.mem_append_right _ (.tail _ (.head _)))

/-- The parser knows the receipt on the wire. -/
theorem CapturedFacts.reads_receipt (h : CapturedFacts more first raws members) :
    readTable (capturedTable more first raws) (bytes (receiptText more)) =
      .ok (receiptRaw raws, []) :=
  readTable_eq h.lens (List.mem_append_right _ (.head _))

/-- The receipt text stands in the payload of the event and is its `inference_receipt`. -/
theorem CapturedFacts.stands (h : CapturedFacts more first raws members) :
    ReceiptText (capturedLibrary more first raws) (bytes (capturedEvent more))
      (bytes (receiptText more)) (receiptRaw raws) (.object (members ++ receiptMembers)) where
  stands := by
    have hsplit : ∀ before after receipt : String,
        bytes (before ++ receipt ++ after) = bytes before ++ bytes receipt ++ bytes after := by
      intro before after receipt
      rw [bytes_append, bytes_append]
    exact ⟨_, _, (hsplit ("\x7b\"choices\":" ++ "[]" ++ ",\"inference_receipt\":") "\x7d" _).symm⟩
  member := by
    refine ⟨[("choices", .array []), ("inference_receipt", receiptRaw raws)], [], ?_,
      .tail _ (.head _)⟩
    rw [capturedLibrary_read]
    exact h.reads_event
  reads := by
    rw [capturedLibrary_read]
    exact h.reads_receipt
  strict := h.strict
  braced := braced_receiptText more
  not_ascii hfalse := by
    obtain ⟨n, hpiece⟩ := h.piece
    rw [(piece_receiptText hpiece).ascii] at hfalse
    cases hfalse

/-- The event is the receipt event of its stream, which is all that the digest of the stream asks
of it. -/
theorem CapturedFacts.eventFacts (h : CapturedFacts more first raws members) :
    EventFacts (capturedTable more first raws) (fun _ => printedText first) (capturedEvent more)
      (.object (members ++ receiptMembers)) where
  piece := by
    obtain ⟨n, hpiece⟩ := h.piece
    have hchoices : Piece "[]" 2 := piece_ofList (by decide)
    exact ⟨_, piece_eventText hchoices (piece_receiptText hpiece), by omega⟩
  reads := by
    refine ⟨_, .object [("choices", .array []), ("inference_receipt", _)], h.reads_event, ?_, rfl⟩
    simp only [eventRaw, strictValue, strictMap, bind_eq_ok, exists_unit, ensure_eq_ok]
    exact ⟨_, ⟨rfl, _, ⟨_, rfl, rfl⟩, rfl, _, h.strict, rfl⟩, rfl⟩
  object := rfl

/-- It is also the last one: only `[DONE]` comes after it, which the parser does not read. -/
theorem CapturedFacts.lastReceiptEvent (h : CapturedFacts more first raws members) :
    LastReceiptEvent (capturedLibrary more first raws) (capturedStream more)
      (bytes (capturedEvent more)) where
  split := by
    have hcommon : ReadsCommon (capturedTable more first raws) := readsCommon_streamTable h.lens
    obtain ⟨-, hshape⟩ := streamOf_shape hcommon h.eventFacts
    refine ⟨_, _, [_], _, hshape.split, hshape.receipt.decodes, rfl, ?_, ?_⟩
    · exact isSome_receiptOf hshape.receipt
    · intro later hlater
      cases List.mem_singleton.mp hlater
      have hread := readTable_error h.no_done
      rw [← capturedLibrary_read] at hread
      exact receiptOf_of_not_read hshape.done.decodes hread

/-- The receipt on the wire verifies with its stream, as the fixture does. -/
theorem CapturedFacts.verifies (h : CapturedFacts more first raws members)
    (hopens : flattenedEnvelope (.object (members ++ receiptMembers)) =
      .ok (streamEnvelope (.object (members ++ receiptMembers)))) :
    verifyReceiptWith (capturedLibrary more first raws) (bytes (receiptText more))
      "https://api.trustedrouter.com"
      { streamOptions with responseStream := some (capturedStream more) } acceptingVerifier =
        .ok streamClaims := by
  have hcommon : ReadsCommon (capturedTable more first raws) := readsCommon_streamTable h.lens
  obtain ⟨n, hpiece⟩ := h.piece
  have henvelope : parseEnvelope (capturedLibrary more first raws) (bytes (receiptText more)) =
      .ok (streamEnvelope (.object (members ++ receiptMembers))) :=
    parseEnvelope_stream hpiece h.reads_receipt h.strict hopens
  exact verifyReceiptWith_streamFixture hcommon henvelope
    (streamDigest_stream hcommon h.eventFacts)

end

/-- The lengths of the texts of a captured receipt, as numbers. -/
theorem capturedTable_lens {more first : String} {m n : Nat} (hmore : Piece more m)
    (hfirst : len first = n) (raws : List (String × Raw)) :
    ((capturedTable more first raws).map fun entry => len entry.1) =
      [269, 612, 201, 185, 167, 1305 + m, 33 + 2 + (1305 + m), 1305 + n] := by
  have hchoices : Piece "[]" 2 := piece_ofList (by decide)
  have hreceipt := piece_receiptText hmore
  show [len streamHeaderJson, len streamPayloadJson, len helloChunk, len fixtureChunk,
    len stopChunk, len (receiptText more), len (eventText "[]" (receiptText more)),
    len (printedText first)] = _
  rw [streamFacts.headerJson.len_eq, streamFacts.payloadJson.len_eq, streamFacts.hello.len_eq,
    streamFacts.fixture.len_eq, streamFacts.stop.len_eq, hreceipt.len_eq,
    (piece_eventText hchoices hreceipt).len_eq, len_printedText, hfirst]

/-- The crates, for the receipt with a blank before its closing brace. It is printed without. -/
def blankLibrary : Library := capturedLibrary " " "" []

/-- The receipt with a blank before its closing brace. -/
theorem blankFacts : CapturedFacts " " "" [] [] := by
  have hpiece : Piece " " 1 := piece_ofList (by decide)
  have hlens := capturedTable_lens hpiece (show len "" = 0 by decide) []
  refine ⟨⟨1, hpiece⟩, ?_, ?_, rfl, rfl, by decide⟩
  · rw [hlens]
    decide
  · rw [hlens]
    decide

/-- A capture of the receipt with a blank verifies as the receipt on the wire does. -/
theorem verifyWith_iff_blank :
    (ReceiptCapture.run blankLibrary {} [Poll.ready (some (.ok (capturedStream " ") :
        Except String Bytes))]).2.verifyWith blankLibrary "https://api.trustedrouter.com"
      streamOptions acceptingVerifier = .ok streamClaims := by
  have hdelivered : delivered [Poll.ready (some (.ok (capturedStream " ") :
      Except String Bytes))] = capturedStream " " := List.append_nil _
  have hlast := blankFacts.lastReceiptEvent
  have hverifies := blankFacts.verifies (flattenedEnvelope_stream rfl rfl rfl rfl)
  rw [← hdelivered] at hlast hverifies
  have hunset : streamOptions.responseStream = none := rfl
  have hagrees := (verifyWith_iff _ hlast blankFacts.stands blankFacts.printsBack hunset
    "https://api.trustedrouter.com" acceptingVerifier).mpr
      fun _ _ => asciiValue_receiptMembers
  exact (hagrees streamClaims).mpr hverifies

/-- A member after the signature, with an escape for a character that is not ASCII. -/
def noteText : String := ",\"note\":\"caf\\u00e9\""

/-- The crates, for the receipt with that member. It is printed first and without the escape. -/
def noteLibrary : Library :=
  capturedLibrary noteText "\"note\":\"café\"," [("note", .string "café")]

/-- The receipt with an escaped character after its signature. -/
theorem noteFacts : CapturedFacts noteText "\"note\":\"café\"," [("note", .string "café")]
    [("note", .string "café")] := by
  have hpiece : Piece noteText 19 := piece_ofList (by decide)
  have hlens := capturedTable_lens hpiece (show len "\"note\":\"café\"," = 15 by decide)
    [("note", .string "café")]
  refine ⟨⟨19, hpiece⟩, ?_, ?_, rfl, rfl, by decide⟩
  · rw [hlens]
    decide
  · rw [hlens]
    decide

/-- The receipt with the escape verifies with its stream, and the capture of that stream does
not. -/
theorem verifyWith_error_of_escape :
    PrintsBack noteLibrary (.object (("note", .string "café") :: receiptMembers)) ∧
    LastReceiptEvent noteLibrary (capturedStream noteText) (bytes (capturedEvent noteText)) ∧
    ReceiptText noteLibrary (bytes (capturedEvent noteText)) (bytes (receiptText noteText))
      (receiptRaw [("note", .string "café")])
      (.object (("note", .string "café") :: receiptMembers)) ∧
    verifyReceiptWith noteLibrary (bytes (receiptText noteText)) "https://api.trustedrouter.com"
      { streamOptions with responseStream := some (capturedStream noteText) } acceptingVerifier =
        .ok streamClaims ∧
    (ReceiptCapture.run noteLibrary {} [Poll.ready (some (.ok (capturedStream noteText) :
        Except String Bytes))]).2.verifyWith noteLibrary "https://api.trustedrouter.com"
      streamOptions acceptingVerifier =
        .error (.structural "JWS structure check failed: receipt bytes must be ASCII") := by
  have hverifies := noteFacts.verifies (flattenedEnvelope_stream rfl rfl rfl rfl)
  refine ⟨noteFacts.printsBack, noteFacts.lastReceiptEvent, noteFacts.stands, hverifies, ?_⟩
  have hdelivered : delivered [Poll.ready (some (.ok (capturedStream noteText) :
      Except String Bytes))] = capturedStream noteText := List.append_nil _
  have hlast := noteFacts.lastReceiptEvent
  rw [← hdelivered] at hlast
  -- The serializer writes the character itself, where the wire had an escape.
  have hprinted : isAscii (bytes (printedText "\"note\":\"café\",")) = false := by
    rw [isAscii_printedText]
    decide
  rw [noteLibrary, verifyWith_eq _ hlast noteFacts.stands rfl]
  exact verifyReceiptWith_not_ascii rfl rfl hprinted

end TrustedRouter.Proofs.Receipts
