import TrustedRouter.Proofs.Receipts.Segments
import TrustedRouter.Proofs.Receipts.Soundness

/-!
# `TrustedRouter.Proofs.Receipts.Accepted`: the streams a receipt is verified with

`stream_digest` accepts a stream of content events, then the receipt event, then `[DONE]`, and
nothing else. `exists_shape` reads that `Shape` off an accepted stream, in either domain, and
`streamDigest_of_shape` is the way back.

`resp_eq_of_verified` compares two verifications of one receipt: whatever the streams and the
options, both check the stream against the same digest.
-/

set_option autoImplicit false

namespace TrustedRouter.Proofs.Receipts

open Rust (Bytes)
open Rust.Str
open Rust.Result
open Serde (Raw Value)
open TrustedRouter.Receipts
open Framing (frames rest)
open EventSource (stripCr isLineByte unlines)

variable {lib : Library}

/-! ## The shape of an accepted stream -/

/-- A content event, and what it feeds to the hasher. -/
structure IsContent (lib : Library) (domain : String) (raw : Bytes) (part : SseEvent × Bytes) :
    Prop where
  decodes : decodeSseEvent raw = .ok part.1
  not_done : part.1.done = false
  no_receipt : embeddedReceipt lib part.1.payload = .ok none
  content : contentBytes lib domain part.1 = .ok part.2

/-- The receipt event. -/
structure IsReceipt (lib : Library) (expected : Option Value) (raw : Bytes) (event : SseEvent) :
    Prop where
  decodes : decodeSseEvent raw = .ok event
  not_done : event.done = false
  receipt : ∃ value, embeddedReceipt lib event.payload = .ok (some value) ∧
    expected.any (·.eq value) = true

/-- The `[DONE]` event. -/
structure IsDone (raw : Bytes) (event : SseEvent) : Prop where
  decodes : decodeSseEvent raw = .ok event
  done : event.done = true

/-- What one event does to the variables of `stream_digest`. No event is taken after `[DONE]`, and
after the receipt only `[DONE]` is. The three cases exclude each other, and each leaves the
variables it does not name as they were. -/
theorem absorb_cases {domain : String} {expected : Option Value} {state next : StreamState}
    {raw : Bytes} (h : absorb lib domain expected state raw = .ok next) :
    state.sawDone = false ∧
      ((∃ event, IsDone raw event ∧ next = { state with sawDone := true }) ∨
       (state.sawReceipt = false ∧ ∃ event, IsReceipt lib expected raw event ∧
          next = { state with sawReceipt := true }) ∨
       (state.sawReceipt = false ∧ ∃ part, IsContent lib domain raw part ∧
          next = { state with hashed := state.hashed ++ part.2, events := state.events + 1 })) := by
  simp only [absorb, bind_eq_ok, exists_unit, ensure_eq_ok, Bool.not_eq_true'] at h
  obtain ⟨event, hdecodes, hsaw, hbranch⟩ := h
  refine ⟨hsaw, ?_⟩
  split at hbranch
  · -- `[DONE]` is recognised before anything is parsed.
    rename_i hdone
    cases hbranch
    exact .inl ⟨event, ⟨hdecodes, hdone⟩, rfl⟩
  · rename_i hdone
    rw [Bool.not_eq_true] at hdone
    rw [bind_eq_ok] at hbranch
    obtain ⟨embedded, hembedded, hbranch⟩ := hbranch
    cases embedded with
    | some receipt =>
        simp only [bind_eq_ok, exists_unit, ensure_eq_ok, Bool.not_eq_true'] at hbranch
        obtain ⟨hfirst, hexpected, hnext⟩ := hbranch
        cases hnext
        exact .inr (.inl ⟨hfirst, event, ⟨hdecodes, hdone, receipt, hembedded, hexpected⟩, rfl⟩)
    | none =>
        simp only [bind_eq_ok, exists_unit, ensure_eq_ok, Bool.not_eq_true'] at hbranch
        obtain ⟨hfirst, content, hcontent, hnext⟩ := hbranch
        cases hnext
        exact .inr (.inr ⟨hfirst, (event, content),
          ⟨hdecodes, hdone, hembedded, hcontent⟩, rfl⟩)

section
variable {domain : String} {expected : Option Value}

/-- Nothing follows `[DONE]`: the next event would be an error. -/
theorem absorb_after_done {raws : List Bytes} {state final : StreamState}
    (h : raws.foldlM (absorb lib domain expected) state = .ok final)
    (hdone : state.sawDone = true) : raws = [] ∧ final = state := by
  cases raws with
  | nil => cases h; exact ⟨rfl, rfl⟩
  | cons raw raws =>
      rw [List.foldlM_cons, bind_eq_ok] at h
      obtain ⟨next, hnext, -⟩ := h
      have hnot := (absorb_cases hnext).1
      rw [hdone] at hnot
      cases hnot

/-- Only `[DONE]` follows the receipt, and it does follow, because the stream is accepted only
with `saw_done` set. Content after the receipt and a second receipt are both errors. -/
theorem absorb_after_receipt {raws : List Bytes} {state final : StreamState}
    (h : raws.foldlM (absorb lib domain expected) state = .ok final)
    (hreceipt : state.sawReceipt = true) (hstart : state.sawDone = false)
    (hdone : final.sawDone = true) :
    ∃ raw event, raws = [raw] ∧ IsDone raw event ∧ final = { state with sawDone := true } := by
  cases raws with
  | nil =>
      -- The stream would end without `[DONE]`.
      cases h
      rw [hstart] at hdone
      cases hdone
  | cons raw raws =>
      rw [List.foldlM_cons, bind_eq_ok] at h
      obtain ⟨next, hnext, hrest⟩ := h
      obtain ⟨-, ⟨event, hevent, rfl⟩ | ⟨hnot, -⟩ | ⟨hnot, -⟩⟩ := absorb_cases hnext
      · obtain ⟨rfl, rfl⟩ := absorb_after_done hrest rfl
        exact ⟨raw, event, rfl, hevent, rfl⟩
      · rw [hreceipt] at hnot
        cases hnot
      · rw [hreceipt] at hnot
        cases hnot

/-- The frames of an accepted stream: content, then the receipt, then `[DONE]`. -/
structure Shape (lib : Library) (domain : String) (expected : Option Value)
    (raws contents : List Bytes) (receiptRaw doneRaw : Bytes)
    (parts : List (SseEvent × Bytes)) (receipt done : SseEvent) : Prop where
  split : raws = contents ++ [receiptRaw, doneRaw]
  contents : List.Forall₂ (IsContent lib domain) contents parts
  receipt : IsReceipt lib expected receiptRaw receipt
  done : IsDone doneRaw done

/-- An accepted stream has this shape, and the content is what was hashed. The induction is on the
events still to come, from any state in which neither the receipt nor `[DONE]` has been seen, and
a content event is the only one that leads to another such state. -/
theorem absorb_shape {raws : List Bytes} {state final : StreamState}
    (h : raws.foldlM (absorb lib domain expected) state = .ok final)
    (hstart : state.sawDone = false) (hfirst : state.sawReceipt = false)
    (hdone : final.sawDone = true) (hreceipt : final.sawReceipt = true) :
    ∃ contents receiptRaw doneRaw parts receipt done,
      Shape lib domain expected raws contents receiptRaw doneRaw parts receipt done ∧
      final.hashed = state.hashed ++ (parts.map Prod.snd).flatten := by
  induction raws generalizing state with
  | nil =>
      cases h
      rw [hstart] at hdone
      cases hdone
  | cons raw raws ih =>
      rw [List.foldlM_cons, bind_eq_ok] at h
      obtain ⟨next, hnext, hrest⟩ := h
      obtain ⟨-, ⟨event, hevent, rfl⟩ | ⟨-, event, hevent, rfl⟩ | ⟨-, part, hpart, rfl⟩⟩ :=
        absorb_cases hnext
      · -- `[DONE]` ends the stream, and the receipt has not been seen.
        obtain ⟨rfl, rfl⟩ := absorb_after_done hrest rfl
        rw [show StreamState.sawReceipt _ = state.sawReceipt from rfl, hfirst] at hreceipt
        cases hreceipt
      · -- Only `[DONE]` can follow the receipt.
        obtain ⟨doneRaw, done, rfl, hisDone, rfl⟩ := absorb_after_receipt hrest rfl hstart hdone
        refine ⟨[], raw, doneRaw, [], event, done, ⟨rfl, .nil, hevent, hisDone⟩, ?_⟩
        rw [List.map_nil, List.flatten_nil, List.append_nil]
      · obtain ⟨contents, receiptRaw, doneRaw, parts, receipt, done, hshape, hhashed⟩ :=
          -- Content leaves both flags as they were, so the induction hypothesis applies.
          ih hrest hstart hfirst
        refine ⟨raw :: contents, receiptRaw, doneRaw, part :: parts, receipt, done,
          ⟨?_, .cons hpart hshape.contents, hshape.receipt, hshape.done⟩, ?_⟩
        · rw [hshape.split, List.cons_append]
        · rw [hhashed, List.map_cons, List.flatten_cons, List.append_assoc]

end

/-- An accepted stream is cut without a rest, its frames have the shape of one, and its digest is
that of the content. -/
theorem exists_shape {domain : String} {wire : Bytes} {expected : Option Value}
    {digest : Array32} {events : Nat}
    (h : streamDigest lib wire domain expected = .ok (digest, events)) :
    rest sseRule wire = [] ∧
      ∃ contents receiptRaw doneRaw parts receipt done,
        Shape lib domain expected (frames sseRule wire) contents receiptRaw doneRaw parts
          receipt done ∧
        digest = lib.sha256 (parts.map Prod.snd).flatten := by
  simp only [streamDigest, bind_eq_ok, exists_unit, ensure_eq_ok, absorbAll_eq_ok] at h
  obtain ⟨final, ⟨hrest, hfold⟩, hreceipt, hdone, hresult⟩ := h
  cases hresult
  obtain ⟨contents, receiptRaw, doneRaw, parts, receipt, done, hshape, hhashed⟩ :=
    absorb_shape hfold rfl rfl hdone hreceipt
  refine ⟨hrest, contents, receiptRaw, doneRaw, parts, receipt, done, hshape, ?_⟩
  rw [hhashed]
  rfl

/-! ## The converse: a stream of this shape is accepted -/

section
variable {domain : String} {expected : Option Value}

/-- A content event is accepted before the receipt, and feeds its bytes to the hasher. It counts
as one event, whatever its domain makes of it. -/
theorem absorb_content {raw : Bytes} {part : SseEvent × Bytes} (h : IsContent lib domain raw part)
    {state : StreamState} (hdone : state.sawDone = false) (hreceipt : state.sawReceipt = false) :
    absorb lib domain expected state raw =
      .ok { state with hashed := state.hashed ++ part.2, events := state.events + 1 } := by
  simp only [absorb, bind_eq_ok, exists_unit, ensure_eq_ok, Bool.not_eq_true']
  refine ⟨part.1, h.decodes, hdone, ?_⟩
  rw [h.not_done, if_neg Bool.false_ne_true, bind_eq_ok]
  refine ⟨none, h.no_receipt, ?_⟩
  simp only [bind_eq_ok, exists_unit, ensure_eq_ok, Bool.not_eq_true']
  exact ⟨hreceipt, part.2, h.content, rfl⟩

/-- The receipt event is accepted once. It is not hashed, so it can be placed in the stream that
it signs. -/
theorem absorb_receipt {raw : Bytes} {event : SseEvent} (h : IsReceipt lib expected raw event)
    {state : StreamState} (hdone : state.sawDone = false) (hreceipt : state.sawReceipt = false) :
    absorb lib domain expected state raw = .ok { state with sawReceipt := true } := by
  obtain ⟨value, hvalue, hexpected⟩ := h.receipt
  simp only [absorb, bind_eq_ok, exists_unit, ensure_eq_ok, Bool.not_eq_true']
  refine ⟨event, h.decodes, hdone, ?_⟩
  rw [h.not_done, if_neg Bool.false_ne_true, bind_eq_ok]
  refine ⟨some value, hvalue, ?_⟩
  simp only [bind_eq_ok, exists_unit, ensure_eq_ok, Bool.not_eq_true']
  exact ⟨hreceipt, hexpected, rfl⟩

/-- `[DONE]` is accepted once. The receipt need not come first here: its absence is an error at
the end of the stream only. -/
theorem absorb_done {raw : Bytes} {event : SseEvent} (h : IsDone raw event)
    {state : StreamState} (hdone : state.sawDone = false) :
    absorb lib domain expected state raw = .ok { state with sawDone := true } := by
  simp only [absorb, bind_eq_ok, exists_unit, ensure_eq_ok, Bool.not_eq_true']
  refine ⟨event, h.decodes, hdone, ?_⟩
  rw [h.done, if_pos rfl]
  rfl

/-- A run of content events hashes all of their bytes in order and counts them. The state is
arbitrary, since the induction on the events moves it. -/
theorem foldlM_absorb_contents {contents : List Bytes} {parts : List (SseEvent × Bytes)}
    (h : List.Forall₂ (IsContent lib domain) contents parts) (state : StreamState)
    (hdone : state.sawDone = false) (hreceipt : state.sawReceipt = false) :
    contents.foldlM (absorb lib domain expected) state =
      .ok { state with hashed := state.hashed ++ (parts.map Prod.snd).flatten
                       events := state.events + parts.length } := by
  induction h generalizing state with
  | nil =>
      rw [List.map_nil, List.flatten_nil, List.append_nil]
      rfl
  | @cons _ part _ parts hpart _ ih =>
      rw [List.foldlM_cons, bind_eq_ok]
      refine ⟨_, absorb_content hpart hdone hreceipt, ?_⟩
      have hrest := ih
        { state with hashed := state.hashed ++ part.2, events := state.events + 1 } hdone hreceipt
      rw [hrest, List.map_cons, List.flatten_cons, List.append_assoc, List.length_cons]
      -- The counts differ in the order of the additions only.
      show Except.ok { state with hashed := _, events := state.events + 1 + parts.length } = _
      rw [Nat.add_assoc, Nat.add_comm 1]

/-- The converse of `exists_shape`: a stream of this shape is accepted, its digest is that of its
content, and the count is the number of content events. -/
theorem streamDigest_of_shape {wire : Bytes} {contents : List Bytes} {receiptRaw doneRaw : Bytes}
    {parts : List (SseEvent × Bytes)} {receipt done : SseEvent}
    (hrest : rest sseRule wire = [])
    (hshape : Shape lib domain expected (frames sseRule wire) contents receiptRaw doneRaw parts
      receipt done) :
    streamDigest lib wire domain expected =
      .ok (lib.sha256 (parts.map Prod.snd).flatten, parts.length) := by
  -- The variables at the end of the loop: what was hashed, and both flags set.
  have hall : absorbAll lib domain expected {} wire =
      .ok { hashed := (parts.map Prod.snd).flatten, events := parts.length, sawDone := true,
            sawReceipt := true } := by
    rw [absorbAll_eq_ok, hshape.split, List.foldlM_append]
    refine ⟨hrest, ?_⟩
    rw [foldlM_absorb_contents hshape.contents {} rfl rfl, List.nil_append, Nat.zero_add]
    show [receiptRaw, doneRaw].foldlM (absorb lib domain expected) _ = _
    rw [List.foldlM_cons, absorb_receipt hshape.receipt rfl rfl]
    show [doneRaw].foldlM (absorb lib domain expected) _ = _
    rw [List.foldlM_cons, absorb_done hshape.done rfl]
    rfl
  rw [streamDigest, hall]
  rfl

end

/-! ## Two streams of one receipt -/

/-- What of a receipt a stream is checked against, and the check. Everything in the first conjunct
is computed from the receipt alone, and this is what makes two verifications of one receipt
comparable. -/
theorem verifyReceiptWith_stream {receipt wire : Bytes} {issuer : String}
    {options : ReceiptVerificationOptions} {verifyGcp : VerifyGcp} {claims : ReceiptClaims}
    (h : verifyReceiptWith lib receipt issuer { options with responseStream := some wire }
      verifyGcp = .ok claims) :
    ∃ envelope header payload, ∃ members record : Serde.Map,
      (parseEnvelope lib receipt = .ok envelope ∧ parseHeader lib envelope = .ok header ∧
        verifySignature lib envelope header.publicKey = .ok payload ∧
        loadJson lib payload "receipt claims" = .ok (.object members) ∧
        members.get "resp" = some (.object record)) ∧
      CarriesHash record claims.resp ∧
      ∃ digest events,
        streamDigest lib wire claims.resp.of envelope.flattenedValue = .ok (digest, events) ∧
        lib.decode claims.resp.hash = some digest.toBytes := by
  obtain ⟨_, envelope, header, payload, members, h⟩ := verifyReceiptWith_eq_ok.mp h
  obtain ⟨⟨record, hrecord, hcarries⟩, -, hbound⟩ := checkResponse_eq_ok h.resp
  obtain ⟨-, digest, events, hdigest, hdecode, -⟩ := hbound.stream wire rfl
  exact ⟨envelope, header, payload, members, record,
    ⟨h.opens, h.identifies, h.signs, h.json, hrecord⟩, hcarries, digest, events, hdigest,
    hdecode⟩

/-- Two verifications of one receipt check their streams against the same digest, in the same
domain and with the same expected receipt. The options, the pinned issuers and the verifiers of
documents may differ, because none of them is read on the way to the digest record. -/
theorem resp_eq_of_verified {receipt wire₁ wire₂ : Bytes} {issuer₁ issuer₂ : String}
    {options₁ options₂ : ReceiptVerificationOptions} {verifyGcp₁ verifyGcp₂ : VerifyGcp}
    {claims₁ claims₂ : ReceiptClaims}
    (h₁ : verifyReceiptWith lib receipt issuer₁ { options₁ with responseStream := some wire₁ }
      verifyGcp₁ = .ok claims₁)
    (h₂ : verifyReceiptWith lib receipt issuer₂ { options₂ with responseStream := some wire₂ }
      verifyGcp₂ = .ok claims₂) :
    ∃ expected digest events₁ events₂,
      claims₁.resp.of = claims₂.resp.of ∧
      streamDigest lib wire₁ claims₁.resp.of expected = .ok (digest, events₁) ∧
      streamDigest lib wire₂ claims₂.resp.of expected = .ok (digest, events₂) := by
  obtain ⟨envelope, header, payload, members, record, ⟨henv, hheader, hsig, hjson, hrecord⟩,
    hcarries₁, digest₁, events₁, hstream₁, hdecode₁⟩ := verifyReceiptWith_stream h₁
  obtain ⟨_, _, _, _, _, ⟨henv', hheader', hsig', hjson', hrecord'⟩,
    hcarries₂, digest₂, events₂, hstream₂, hdecode₂⟩ := verifyReceiptWith_stream h₂
  -- Everything up to the digest record is read from the receipt alone.
  cases henv.symm.trans henv'
  cases hheader.symm.trans hheader'
  cases hsig.symm.trans hsig'
  cases hjson.symm.trans hjson'
  cases hrecord.symm.trans hrecord'
  have hof : claims₁.resp.of = claims₂.resp.of := by
    have hsame := hcarries₁.of.symm.trans hcarries₂.of
    simpa using hsame
  have hhash : claims₁.resp.hash = claims₂.resp.hash := by
    have hsame := hcarries₁.hash.symm.trans hcarries₂.hash
    simpa using hsame
  have hdigest : digest₁ = digest₂ := by
    rw [hhash, hdecode₂, Option.some.injEq] at hdecode₁
    cases digest₁
    cases digest₂
    simpa using hdecode₁.symm
  exact ⟨_, digest₁, events₁, events₂, hof, hstream₁, hdigest ▸ hstream₂⟩

/-! ## The streaming receipt of the test suite

The flattened receipt under `tests/fixtures/receipts`, with its request and its stream. The
crates answer as they do on it: base64url is decoded, the three digests and the signature are
those of the fixture, and the parser reads the JSON texts of a table. -/

/-- The protected header of the receipt. -/
def streamHeaderPart : String :=
  "eyJhbGciOiJFZERTQSIsInR5cCI6ImluZmVyZW5jZS1yZWNlaXB0K2p3cyIsImtpZCI6Im5lSkdqR2NVMi1BTEFaOGhWVktpWnNDYl9rQ0lBZkY5OXB5cnhSLVc5eTAiLCJqd2siOnsia3R5IjoiT0tQIiwiY3J2IjoiRWQyNTUxOSIsIngiOiJvYWJrMklYT2poSUZBckFaQ0J2VEd5U0NDNndGcDhqelpJWXJ0VEdXUEkwIn0sImF0dCI6InBhcml0eS1maXh0dXJlLWF0dGVzdGF0aW9uLWRvY3VtZW50LW5vdC1yZWFsLWV2aWRlbmNlIiwiYXR0X2tpbmQiOiJnY3AtY3Mtand0In0"

/-- The payload of the receipt. -/
def streamPayloadPart : String :=
  "eyJydiI6MSwiaXNzIjoiaHR0cHM6Ly9hcGkudHJ1c3RlZHJvdXRlci5jb20iLCJpYXQiOjE3NTYyMjQwMDAsImp0aSI6ImNoYXRjbXBsLWZpeHR1cmUyIiwibm9uY2UiOiJmaXh0dXJlX25vbmNlXzIiLCJyb3V0ZSI6ImNoYXQuY29tcGxldGlvbnMiLCJyZXEiOnsiYWxnIjoic2hhMjU2IiwiaGFzaCI6Ik1RcEo4OFR2SUQtc2E5czN4ZS1nZS1nYkFPMHBOcEJHLV84ejBiaEVBSkkiLCJvZiI6ImJvZHkifSwicmVzcCI6eyJhbGciOiJzaGEyNTYiLCJoYXNoIjoiUENDWmQxYktDZnl1UWtvUnVZdVZOWlFhT0VTd3RhNWFpQXBlRk9uTFlJVSIsIm9mIjoic3NlLWRhdGEtdjEiLCJldmVudHMiOjN9LCJtb2RlbCI6eyJyZXF1ZXN0ZWQiOiJ0cnVzdGVkcm91dGVyL2F1dG8iLCJzZWxlY3RlZCI6Im9wZW5haS9ncHQtNG8tbWluaSIsInByb3ZpZGVyIjoib3BlbmFpIiwiZW5kcG9pbnQiOiJvcGVuYWkvZ3B0LTRvLW1pbmlAb3BlbmFpL3ByZXBhaWQifSwidXBzdHJlYW0iOnsidGllciI6InRlZS12ZXJpZmllZCIsInBvbGljeSI6ImNodXRlcy10ZHgtbnZpZGlhLWUyZS12MSIsInZlcmlmaWVkX2F0IjoxNzU2MjIzODgwLCJ2ZXJpZmljYXRpb25fZXhwaXJlc19hdCI6MTc1NjIyNDQ4MH19"

/-- The signature of the receipt. -/
def streamSignaturePart : String :=
  "7D8L_2E86WKYgCmJ-BEx4WiIC9DgwIYPBB6IUB2bAnoOu_G_8RIZg0N-EyiKTm0TNF6gqsSSOFna_JtSyNVJDA"

/-- The protected header, decoded. -/
def streamHeaderJson : String :=
  "\x7b\"alg\":\"EdDSA\",\"typ\":\"inference-receipt+jws\",\"kid\":\"neJGjGcU2-ALAZ8hVVKiZsCb_kCIAfF99pyrxR-W9y0\",\"jwk\":\x7b\"kty\":\"OKP\",\"crv\":\"Ed25519\",\"x\":\"oabk2IXOjhIFArAZCBvTGySCC6wFp8jzZIYrtTGWPI0\"\x7d,\"att\":\"parity-fixture-attestation-document-not-real-evidence\",\"att_kind\":\"gcp-cs-jwt\"\x7d"

/-- The payload, decoded. -/
def streamPayloadJson : String :=
  "\x7b\"rv\":1,\"iss\":\"https://api.trustedrouter.com\",\"iat\":1756224000,\"jti\":\"chatcmpl-fixture2\",\"nonce\":\"fixture_nonce_2\",\"route\":\"chat.completions\",\"req\":\x7b\"alg\":\"sha256\",\"hash\":\"MQpJ88TvID-sa9s3xe-ge-gbAO0pNpBG-_8z0bhEAJI\",\"of\":\"body\"\x7d,\"resp\":\x7b\"alg\":\"sha256\",\"hash\":\"PCCZd1bKCfyuQkoRuYuVNZQaOESwta5aiApeFOnLYIU\",\"of\":\"sse-data-v1\",\"events\":3\x7d,\"model\":\x7b\"requested\":\"trustedrouter/auto\",\"selected\":\"openai/gpt-4o-mini\",\"provider\":\"openai\",\"endpoint\":\"openai/gpt-4o-mini@openai/prepaid\"\x7d,\"upstream\":\x7b\"tier\":\"tee-verified\",\"policy\":\"chutes-tdx-nvidia-e2e-v1\",\"verified_at\":1756223880,\"verification_expires_at\":1756224480\x7d\x7d"

/-- The first content event. -/
def helloChunk : String :=
  "\x7b\"id\":\"chatcmpl-fixture2\",\"object\":\"chat.completion.chunk\",\"created\":1756224000,\"model\":\"openai/gpt-4o-mini\",\"choices\":[\x7b\"index\":0,\"delta\":\x7b\"role\":\"assistant\",\"content\":\"Hello\"\x7d,\"finish_reason\":null\x7d]\x7d"

/-- The second content event. -/
def fixtureChunk : String :=
  "\x7b\"id\":\"chatcmpl-fixture2\",\"object\":\"chat.completion.chunk\",\"created\":1756224000,\"model\":\"openai/gpt-4o-mini\",\"choices\":[\x7b\"index\":0,\"delta\":\x7b\"content\":\" fixture\"\x7d,\"finish_reason\":null\x7d]\x7d"

/-- The third content event, without text. -/
def stopChunk : String :=
  "\x7b\"id\":\"chatcmpl-fixture2\",\"object\":\"chat.completion.chunk\",\"created\":1756224000,\"model\":\"openai/gpt-4o-mini\",\"choices\":[\x7b\"index\":0,\"delta\":\x7b\x7d,\"finish_reason\":\"stop\"\x7d]\x7d"

/-- The encoded digest of the content. -/
def streamHash : String := "PCCZd1bKCfyuQkoRuYuVNZQaOESwta5aiApeFOnLYIU"

/-- The receipt as a JSON text, with what stands after its last member. -/
def receiptText (more : String) : String :=
  "\x7b\"protected\":\"" ++ streamHeaderPart ++ "\",\"payload\":\"" ++ streamPayloadPart ++
    "\",\"signature\":\"" ++ streamSignaturePart ++ "\"" ++ more ++ "\x7d"

/-- The receipt event as a JSON text, around its choices and its receipt. -/
def eventText (choices receipt : String) : String :=
  "\x7b\"choices\":" ++ choices ++ ",\"inference_receipt\":" ++ receipt ++ "\x7d"

/-- The payloads of a stream. -/
def streamTexts (event : String) : List String :=
  [helloChunk, fixtureChunk, stopChunk, event, "[DONE]"]

/-- A stream of the content and a receipt event. -/
def streamOf (event : String) : Bytes :=
  ((streamTexts event).map fun text => dataFrame (bytes text)).flatten

/-- What the digest of the stream is taken of. -/
def streamContent : Bytes := unlines [bytes helloChunk, bytes fixtureChunk, bytes stopChunk]

/-- What the protected header says. -/
def streamHeaderRaw : Raw :=
  .object
    [("alg", .string "EdDSA"), ("typ", .string "inference-receipt+jws"), ("kid", .string keyId),
     ("jwk", .object
       [("kty", .string "OKP"), ("crv", .string "Ed25519"), ("x", .string keyText)]),
     ("att", .string "parity-fixture-attestation-document-not-real-evidence"),
     ("att_kind", .string "gcp-cs-jwt")]

/-- What the payload says. -/
def streamPayloadRaw : Raw :=
  .object
    [("rv", .number (.posInt 1)), ("iss", .string "https://api.trustedrouter.com"),
     ("iat", .number (.posInt 1756224000)), ("jti", .string "chatcmpl-fixture2"),
     ("nonce", .string "fixture_nonce_2"), ("route", .string "chat.completions"),
     ("req", .object
       [("alg", .string "sha256"), ("hash", .string requestHash), ("of", .string "body")]),
     ("resp", .object
       [("alg", .string "sha256"), ("hash", .string streamHash), ("of", .string "sse-data-v1"),
        ("events", .number (.posInt 3))]),
     ("model", .object
       [("requested", .string "trustedrouter/auto"),
        ("selected", .string "openai/gpt-4o-mini"), ("provider", .string "openai"),
        ("endpoint", .string "openai/gpt-4o-mini@openai/prepaid")]),
     ("upstream", .object
       [("tier", .string "tee-verified"), ("policy", .string "chutes-tdx-nvidia-e2e-v1"),
        ("verified_at", .number (.posInt 1756223880)),
        ("verification_expires_at", .number (.posInt 1756224480))])]

/-- What a content event says. -/
def chunkRaw (delta reason : Raw) : Raw :=
  .object
    [("id", .string "chatcmpl-fixture2"), ("object", .string "chat.completion.chunk"),
     ("created", .number (.posInt 1756224000)), ("model", .string "openai/gpt-4o-mini"),
     ("choices", .array
       [.object
         [("index", .number (.posInt 0)), ("delta", delta), ("finish_reason", reason)]])]

/-- What the receipt says, with the members after its signature. -/
def receiptRaw (more : List (String × Raw)) : Raw :=
  .object
    ([("protected", .string streamHeaderPart), ("payload", .string streamPayloadPart),
      ("signature", .string streamSignaturePart)] ++ more)

/-- What the receipt event says. -/
def eventRaw (choices receipt : Raw) : Raw :=
  .object [("choices", choices), ("inference_receipt", receipt)]

/-- What the first content event says. -/
def helloRaw : Raw :=
  chunkRaw (.object [("role", .string "assistant"), ("content", .string "Hello")]) .null

/-- What the second content event says. -/
def fixtureRaw : Raw := chunkRaw (.object [("content", .string " fixture")]) .null

/-- What the third content event says. -/
def stopRaw : Raw := chunkRaw (.object []) (.string "stop")

/-- The JSON texts of a stream with the given receipt texts and receipt events. -/
def streamTable (more : List (String × Raw)) : List (String × Raw) :=
  [(streamHeaderJson, streamHeaderRaw), (streamPayloadJson, streamPayloadRaw),
   (helloChunk, helloRaw), (fixtureChunk, fixtureRaw), (stopChunk, stopRaw)] ++ more

/-- A parser that knows the texts of a table. -/
def readTable (table : List (String × Raw)) : Serde.Reader := fun data =>
  match table.find? (fun entry => bytes entry.1 == data) with
  | some entry => .ok (entry.2, [])
  | none => .error "expected value"

/-- A text of the table is read as the value it stands with. The texts of the table have different
lengths, so that telling two of them apart takes their lengths and not their characters. -/
theorem readTable_eq {table : List (String × Raw)} {text : String} {raw : Raw}
    (hlens : (table.map fun entry => len entry.1).Nodup) (hmem : (text, raw) ∈ table) :
    readTable table (bytes text) = .ok (raw, []) := by
  have hfind : table.find? (fun entry => bytes entry.1 == bytes text) = some (text, raw) := by
    -- The entry is found where it stands, because every entry before it has another length.
    induction table with
    | nil => cases hmem
    | cons entry table ih =>
        rw [List.map_cons, List.nodup_cons] at hlens
        rcases List.mem_cons.mp hmem with rfl | hmem
        · exact List.find?_cons_of_pos (beq_self_eq_true _)
        · have hne : ¬ (bytes entry.1 == bytes text) = true := by
            rw [beq_iff_eq]
            intro heq
            apply hlens.1
            rw [len_eq_length, heq, ← len_eq_length]
            exact List.mem_map_of_mem hmem
          rw [List.find?_cons_of_neg (by exact hne)]
          exact ih hlens.2 hmem
  rw [readTable, hfind]

/-- A text whose length no text of the table has is not read. The table is told apart by lengths,
so that no two texts have to be compared. -/
theorem readTable_error {table : List (String × Raw)} {text : String}
    (h : len text ∉ table.map fun entry => len entry.1) :
    readTable table (bytes text) = .error "expected value" := by
  have hfind : table.find? (fun entry => bytes entry.1 == bytes text) = none := by
    rw [List.find?_eq_none]
    intro entry hentry
    rw [beq_iff_eq]
    intro heq
    apply h
    rw [len_eq_length, ← heq, ← len_eq_length]
    exact List.mem_map_of_mem hentry
  rw [readTable, hfind]

/-- The crates, as they answer on this receipt, with the texts the parser knows. -/
def streamLibrary (table : List (String × Raw)) (print : Value → String) : Library where
  sha256 data :=
    if data = bytes requestText then digestOf requestHash
    else if data = streamContent then digestOf streamHash
    else digestOf keyId
  encode := fixtureLibrary.encode
  decode := fixtureLibrary.decode
  fromBytes _ := .ok ()
  verifyStrict key message signature :=
    decide (decodeChars keyText.toList = some key.toBytes ∧
      message = bytes (streamHeaderPart ++ "." ++ streamPayloadPart) ∧
      decodeChars streamSignaturePart.toList = some signature)
  parseUrl := fixtureLibrary.parseUrl
  read := readTable table
  place := fixtureLibrary.place
  clock := fixtureLibrary.clock
  print
  debug := fixtureLibrary.debug

/-- The options of the fixture. -/
def streamOptions : ReceiptVerificationOptions where
  requestBody := some (bytes requestText)
  expectedNonce := some "fixture_nonce_2"
  now := some 1756224060
  requireAttestation := false

/-- A verifier that accepts the attestation document, as that of the fixture's test does. -/
def acceptingVerifier : VerifyGcp := fun _ _ => .ok ()

/-- The claims of the fixture. -/
def streamClaims : ReceiptClaims where
  rv := 1
  iss := "https://api.trustedrouter.com"
  iat := 1756224000
  jti := "chatcmpl-fixture2"
  gen := none
  nonce := some "fixture_nonce_2"
  route := "chat.completions"
  req := bodyClaims requestHash
  resp := { alg := "sha256", hash := streamHash, of := "sse-data-v1", events := some 3 }
  model :=
    { requested := "trustedrouter/auto", selected := "openai/gpt-4o-mini"
      provider := "openai", endpoint := "openai/gpt-4o-mini@openai/prepaid" }
  upstream :=
    { tier := "tee-verified", policy := some "chutes-tdx-nvidia-e2e-v1"
      verifiedAt := some 1756223880, verificationExpiresAt := some 1756224480
      certSha256 := none }
  attSha256 := none
  attestationStatus := .verified

/-- A piece of a JSON text on one line, with its length. -/
structure Piece (text : String) (length : Nat) : Prop where
  len_eq : len text = length
  oneLine : (bytes text).all isLineByte = true
  ascii : isAscii (bytes text) = true

/-- Pieces are put together without looking at their characters again. Only their lengths are
added. -/
theorem Piece.append {a b : String} {m n : Nat} (ha : Piece a m) (hb : Piece b n) :
    Piece (a ++ b) (m + n) := by
  refine ⟨?_, ?_, ?_⟩
  · rw [len_eq_length, bytes_append, List.length_append, ← len_eq_length, ← len_eq_length,
      ha.len_eq, hb.len_eq]
  · rw [bytes_append, List.all_append, ha.oneLine, hb.oneLine]
    rfl
  · have ha := ha.ascii
    have hb := hb.ascii
    unfold isAscii at *
    rw [bytes_append, List.all_append, ha, hb]
    rfl

/-- The characters of a piece, checked by computation. -/
def isPieceChars (l : List Char) (length : Nat) : Bool :=
  let encoded := l.flatMap String.utf8EncodeChar
  encoded.length == length && encoded.all fun byte => isLineByte byte && decide (byte < 128)

/-- A literal is a piece when its characters say so. The check is one computation over the
characters, made by the kernel. -/
theorem piece_ofList {l : List Char} {length : Nat} (h : isPieceChars l length = true) :
    Piece (String.ofList l) length := by
  simp only [isPieceChars, Bool.and_eq_true, beq_iff_eq, List.all_eq_true,
    decide_eq_true_eq] at h
  obtain ⟨hlength, hall⟩ := h
  refine ⟨?_, ?_, ?_⟩
  · rw [len_eq_length, bytes_ofList, hlength]
  · rw [bytes_ofList, List.all_eq_true]
    exact fun byte hbyte => (hall byte hbyte).1
  · rw [isAscii, bytes_ofList, List.all_eq_true]
    exact fun byte hbyte => decide_eq_true (hall byte hbyte).2

/-- The first character of a literal. -/
theorem opens_ofList {l : List Char} {c : Char} (h : l.head? = some c) :
    (String.ofList l).toList.head? = some c := by
  rw [String.toList_ofList, h]

/-- What is computed about the texts of the fixture. -/
structure StreamFacts : Prop where
  header : Encodes streamHeaderPart (bytes streamHeaderJson)
  payload : Encodes streamPayloadPart (bytes streamPayloadJson)
  signature : ∃ decoded, Encodes streamSignaturePart decoded ∧ decoded.length = 64
  hash : Encodes streamHash (digestOf streamHash).toBytes
  headerPart : Piece streamHeaderPart 359
  payloadPart : Piece streamPayloadPart 816
  signaturePart : Piece streamSignaturePart 86
  headerJson : Piece streamHeaderJson 269
  payloadJson : Piece streamPayloadJson 612
  hello : Piece helloChunk 201
  fixture : Piece fixtureChunk 185
  stop : Piece stopChunk 167
  request : Piece requestText 93
  hello_opens : helloChunk.toList.head? = some '\x7b'
  fixture_opens : fixtureChunk.toList.head? = some '\x7b'
  stop_opens : stopChunk.toList.head? = some '\x7b'

-- The recursion limit is for the characters of the payload.
set_option maxRecDepth 20000 in
/-- The computations of the fixture, made once and used by name from here on. -/
theorem streamFacts : StreamFacts where
  header := ⟨base64UrlText_ofList (by decide +kernel), decodes_ofList (by decide +kernel)⟩
  payload := ⟨base64UrlText_ofList (by decide +kernel), decodes_ofList (by decide +kernel)⟩
  signature :=
    ⟨(decodeChars streamSignaturePart.toList).getD [],
      ⟨base64UrlText_ofList (by decide +kernel),
        show decodeChars streamSignaturePart.toList = some _ by decide +kernel⟩,
      by decide +kernel⟩
  hash := ⟨base64UrlText_ofList (by decide +kernel), decode_digestOf (by decide +kernel)⟩
  headerPart := piece_ofList (by decide +kernel)
  payloadPart := piece_ofList (by decide +kernel)
  signaturePart := piece_ofList (by decide +kernel)
  headerJson := piece_ofList (by decide +kernel)
  payloadJson := piece_ofList (by decide +kernel)
  hello := piece_ofList (by decide +kernel)
  fixture := piece_ofList (by decide +kernel)
  stop := piece_ofList (by decide +kernel)
  request := piece_ofList (by decide +kernel)
  hello_opens := opens_ofList rfl
  fixture_opens := opens_ofList rfl
  stop_opens := opens_ofList rfl

/-- The receipt text is one line, whatever is put after its last member. Its length says later
that it is none of the other texts of the table. -/
theorem piece_receiptText {more : String} {n : Nat} (h : Piece more n) :
    Piece (receiptText more) (1305 + n) := by
  have hstart : Piece "\x7b\"protected\":\"" 14 := piece_ofList (by decide)
  have hpayload : Piece "\",\"payload\":\"" 13 := piece_ofList (by decide)
  have hsignature : Piece "\",\"signature\":\"" 15 := piece_ofList (by decide)
  have hquote : Piece "\"" 1 := piece_ofList (by decide)
  have hend : Piece "\x7d" 1 := piece_ofList (by decide)
  have hwhole := ((((((((hstart.append streamFacts.headerPart).append hpayload).append
    streamFacts.payloadPart).append hsignature).append streamFacts.signaturePart).append
    hquote).append h).append hend)
  have hlength : 14 + 359 + 13 + 816 + 15 + 86 + 1 + n + 1 = 1305 + n := by omega
  exact hlength ▸ hwhole

/-- The text of the receipt event is one line, around the choices and the receipt. -/
theorem piece_eventText {choices receipt : String} {m n : Nat} (hchoices : Piece choices m)
    (hreceipt : Piece receipt n) : Piece (eventText choices receipt) (33 + m + n) := by
  have hstart : Piece "\x7b\"choices\":" 11 := piece_ofList (by decide)
  have hmiddle : Piece ",\"inference_receipt\":" 21 := piece_ofList (by decide)
  have hend : Piece "\x7d" 1 := piece_ofList (by decide)
  have hwhole := (((hstart.append hchoices).append hmiddle).append hreceipt).append hend
  have hlength : 11 + m + 21 + n + 1 = 33 + m + n := by omega
  exact hlength ▸ hwhole

/-! ### Verification with any stream of this content -/

/-- The members of the header, in the order of a map. -/
def streamHeaderMembers : Serde.Map :=
  [("alg", .string "EdDSA"),
   ("att", .string "parity-fixture-attestation-document-not-real-evidence"),
   ("att_kind", .string "gcp-cs-jwt"), ("jwk", .object jwkMembers), ("kid", .string keyId),
   ("typ", .string "inference-receipt+jws")]

/-- The members of the payload, in the order of a map. -/
def streamPayloadMembers : Serde.Map :=
  match strictValue fixtureLibrary streamPayloadRaw with
  | .ok (.object members) => members
  | _ => []

/-- The parts of the receipt. -/
def streamEnvelope (value : Value) : JwsEnvelope where
  protectedHeader := streamHeaderPart
  payload := streamPayloadPart
  signature := streamSignaturePart
  flattened := true
  flattenedValue := some value

section
variable {table : List (String × Raw)} {print : Value → String}

/-- The parser of the library is the table. It is stated so that a proof rewrites with it and does
not unfold the library. -/
theorem streamLibrary_read : (streamLibrary table print).read = readTable table := rfl

/-- Bytes of different lengths differ. -/
theorem ne_of_len_ne {a b : Bytes} (h : a.length ≠ b.length) : a ≠ b := by
  rintro rfl
  exact h rfl

/-- The content is the three chunks, each with the line feed that the domain adds. -/
theorem length_streamContent : streamContent.length = 556 := by
  have hhello := streamFacts.hello.len_eq
  have hfixture := streamFacts.fixture.len_eq
  have hstop := streamFacts.stop.len_eq
  rw [len_eq_length] at hhello hfixture hstop
  simp [streamContent, unlines, hhello, hfixture, hstop]

/-- The hash of the request body is the one the receipt claims. -/
theorem sha256_request :
    (streamLibrary table print).sha256 (bytes requestText) = digestOf requestHash := by
  simp only [streamLibrary, if_true]

/-- The hash of the content is the one the receipt claims. The request body is asked about first,
so that the content is not that body has to be known. -/
theorem sha256_content :
    (streamLibrary table print).sha256 streamContent = digestOf streamHash := by
  have hrequest := streamFacts.request.len_eq
  rw [len_eq_length] at hrequest
  have hne : streamContent ≠ bytes requestText :=
    ne_of_len_ne (by rw [length_streamContent, hrequest]; decide)
  simp only [streamLibrary, if_neg hne, if_true]

/-- The hash of the key is its identifier. The key has 32 bytes, and neither the request nor the
content has. -/
theorem sha256_key :
    (streamLibrary table print).sha256 fixtureKey.toBytes = digestOf keyId := by
  have hrequest := streamFacts.request.len_eq
  rw [len_eq_length] at hrequest
  have hkey := fixtureKey.length_toBytes
  have hne : fixtureKey.toBytes ≠ bytes requestText :=
    ne_of_len_ne (by rw [hkey, hrequest]; decide)
  have hne' : fixtureKey.toBytes ≠ streamContent :=
    ne_of_len_ne (by rw [hkey, length_streamContent]; decide)
  simp only [streamLibrary, if_neg hne, if_neg hne']

/-- The parser knows the texts that every stream has. -/
structure ReadsCommon (table : List (String × Raw)) : Prop where
  header : readTable table (bytes streamHeaderJson) = .ok (streamHeaderRaw, [])
  payload : readTable table (bytes streamPayloadJson) = .ok (streamPayloadRaw, [])
  hello : readTable table (bytes helloChunk) = .ok (helloRaw, [])
  fixture : readTable table (bytes fixtureChunk) = .ok (fixtureRaw, [])
  stop : readTable table (bytes stopChunk) = .ok (stopRaw, [])

/-- A table that starts with the common texts reads them, whatever comes after, as long as no two
lengths agree. -/
theorem readsCommon_streamTable {more : List (String × Raw)}
    (h : ((streamTable more).map fun entry => len entry.1).Nodup) :
    ReadsCommon (streamTable more) where
  header := readTable_eq h (.head _)
  payload := readTable_eq h (.tail _ (.head _))
  hello := readTable_eq h (.tail _ (.tail _ (.head _)))
  fixture := readTable_eq h (.tail _ (.tail _ (.tail _ (.head _))))
  stop := readTable_eq h (.tail _ (.tail _ (.tail _ (.tail _ (.head _)))))

/-- The library of the stream decodes as that of the compact fixture does. -/
theorem encodes_stream {text : String} {decoded : Bytes} (h : Encodes text decoded) :
    Base64UrlText text ∧ (streamLibrary table print).decode text = some decoded := h

/-- A text that is read without a rest, and whose value has no member twice, is loaded. These are
the two steps of `load_json`. -/
theorem loads_of_reads {text : String} {raw : Raw} {value : Value} {check : String}
    (hread : readTable table (bytes text) = .ok (raw, []))
    (hvalue : strictValue (streamLibrary table print) raw = .ok value) :
    loadJson (streamLibrary table print) (bytes text) check = .ok value :=
  loadJson_eq_ok.mpr ⟨raw, [], hread, hvalue, rfl⟩

/-- The header of the streaming receipt loads to its members. -/
theorem loads_header (hcommon : ReadsCommon table) :
    loadJson (streamLibrary table print) (bytes streamHeaderJson) "protected header" =
      .ok (.object streamHeaderMembers) :=
  loads_of_reads hcommon.header rfl

/-- The payload of the streaming receipt loads to its members. -/
theorem loads_payload (hcommon : ReadsCommon table) :
    loadJson (streamLibrary table print) (bytes streamPayloadJson) "receipt claims" =
      .ok (.object streamPayloadMembers) :=
  loads_of_reads hcommon.payload rfl

/-- The header identifies the key of the fixture. Which JSON value the receipt was opened from
does not matter, since the header is read from its encoded text. -/
theorem parseHeader_stream (hcommon : ReadsCommon table) (value : Value) :
    parseHeader (streamLibrary table print) (streamEnvelope value) =
      .ok ⟨streamHeaderMembers, fixtureKey⟩ := by
  have hkid : (streamLibrary table print).encode
      ((streamLibrary table print).sha256 fixtureKey.toBytes).toBytes = keyId := by
    have hdecodes : decodeChars keyId.toList = some (digestOf keyId).toBytes :=
      fixtureFacts.kid.2
    rw [sha256_key]
    simp only [streamLibrary, fixtureLibrary, if_pos hdecodes]
  simp only [parseHeader, bind_eq_ok, exists_unit, ensure_eq_ok, okOr_eq_ok, mapErr_eq_ok,
    decodeB64_eq_ok, Value.asObject_eq_some, beq_iff_eq, Bool.and_eq_true, Bool.not_eq_true',
    get_bind_asStr, get_bind_asObject, containsKey_eq_false, toArray32_eq_some,
    Option.any_eq_true, safeEqual_bytes_iff]
  exact ⟨bytes streamHeaderJson, encodes_stream streamFacts.header, _, loads_header hcommon,
    streamHeaderMembers, rfl, rfl, rfl, jwkMembers, rfl, ⟨⟨rfl, rfl⟩, rfl⟩, keyText, rfl,
    fixtureKey.toBytes, encodes_stream fixtureFacts.key, fixtureKey, rfl,
    ⟨keyId, rfl, hkid.symm⟩, rfl⟩

/-- The signature verifies, and the payload is what was signed. -/
theorem verifySignature_stream (value : Value) :
    verifySignature (streamLibrary table print) (streamEnvelope value) fixtureKey =
      .ok (bytes streamPayloadJson) := by
  obtain ⟨signature, hsignature, hlength⟩ := streamFacts.signature
  have hverifies : (streamLibrary table print).verifyStrict fixtureKey
      (bytes (streamHeaderPart ++ "." ++ streamPayloadPart)) signature = true := by
    simp only [streamLibrary, decide_eq_true_eq, true_and]
    exact ⟨fixtureFacts.key.2, hsignature.2⟩
  simp only [verifySignature, bind_eq_ok, exists_unit, ensure_eq_ok, mapErr_eq_ok,
    decodeB64_eq_ok, beq_iff_eq]
  exact ⟨bytes streamPayloadJson, encodes_stream streamFacts.payload, signature,
    encodes_stream hsignature, hlength, rfl, hverifies, rfl⟩

/-- The request body has the digest that the receipt claims, whatever the stream is. -/
theorem checkRequest_stream (wire : Bytes) :
    checkRequest (streamLibrary table print) streamPayloadMembers
      { streamOptions with responseStream := some wire } = .ok (bodyClaims requestHash) := by
  simp only [checkRequest, bind_eq_ok, requiredObject_eq_ok]
  refine ⟨bodyRecord requestHash, rfl, bodyClaims requestHash,
    digestClaim_body (encodes_stream fixtureFacts.request), ?_⟩
  simp only [streamOptions, bind_eq_ok, exists_unit, ensure_eq_ok, hashBytes_eq_ok,
    safeEqual_iff, sha256_request]
  exact ⟨_, encodes_stream fixtureFacts.request, rfl, rfl⟩

/-- The digest record of the response. -/
def streamRecord : Serde.Map :=
  [("alg", .string "sha256"), ("events", .number (.posInt 3)), ("hash", .string streamHash),
   ("of", .string "sse-data-v1")]

/-- The check of the response passes with every stream whose digest is the claimed one, over three
content events. -/
theorem checkResponse_stream {wire : Bytes} {value : Value}
    (hdigest : streamDigest (streamLibrary table print) wire "sse-data-v1" (some value) =
      .ok (digestOf streamHash, 3)) :
    checkResponse (streamLibrary table print) streamPayloadMembers
      { streamOptions with responseStream := some wire } (some value) =
        .ok streamClaims.resp := by
  have hclaim : digestClaim (streamLibrary table print) streamRecord "resp" true =
      .ok streamClaims.resp := by
    simp only [digestClaim, bind_eq_ok, exists_unit, ensure_eq_ok, okOr_eq_ok, hashBytes_eq_ok,
      beq_iff_eq, get_bind_asStr]
    exact ⟨rfl, streamHash, rfl, (digestOf streamHash).toBytes, encodes_stream streamFacts.hash,
      (digestOf streamHash).length_toBytes, rfl, some 3, rfl, rfl⟩
  simp only [checkResponse, bind_eq_ok, exists_unit, ensure_eq_ok, requiredObject_eq_ok,
    hashBytes_eq_ok]
  refine ⟨streamRecord, rfl, streamClaims.resp, hclaim, rfl, (digestOf streamHash).toBytes,
    encodes_stream streamFacts.hash, ?_, rfl⟩
  show checkStream (streamLibrary table print) streamClaims.resp _ wire (some value) = .ok ()
  simp only [checkStream, bind_eq_ok, exists_unit, ensure_eq_ok, safeEqual_iff]
  exact ⟨rfl, (digestOf streamHash, 3), hdigest, rfl, rfl⟩

/-- The receipt verifies with every stream whose digest is that of the content. The stream enters
through `hdigest` and the text of the receipt through `henvelope`. All the other checks are about
the header, the payload and the options, which are fixed. -/
theorem verifyReceiptWith_streamFixture (hcommon : ReadsCommon table) {receipt wire : Bytes}
    {value : Value}
    (henvelope : parseEnvelope (streamLibrary table print) receipt = .ok (streamEnvelope value))
    (hdigest : streamDigest (streamLibrary table print) wire "sse-data-v1" (some value) =
      .ok (digestOf streamHash, 3)) :
    verifyReceiptWith (streamLibrary table print) receipt "https://api.trustedrouter.com"
      { streamOptions with responseStream := some wire } acceptingVerifier =
        .ok streamClaims := by
  refine verifyReceiptWith_eq_ok.mpr ⟨"https://api.trustedrouter.com", streamEnvelope value,
    ⟨streamHeaderMembers, fixtureKey⟩, bytes streamPayloadJson, streamPayloadMembers, ?_⟩
  exact
    -- Checks on constants are closed by evaluation.
    { bindings := rfl
      issuer := rfl
      opens := henvelope
      identifies := parseHeader_stream hcommon value
      signs := verifySignature_stream value
      json := loads_payload hcommon
      rv := rfl
      iss := rfl
      iat := rfl
      time := rfl
      jti := requiredString_eq_ok.mpr ⟨rfl, by decide⟩
      gen := optionalString_eq_ok.mpr ⟨rfl, nofun⟩
      route := rfl
      model := rfl
      pin := rfl
      nonce := rfl
      upstream := rfl
      req := checkRequest_stream wire
      resp := checkResponse_stream hdigest
      status := rfl }

end

/-! ### Streams of this content -/

/-- A piece has no line feed, so it cannot end a frame. -/
theorem Piece.no_lf {text : String} {n : Nat} (h : Piece text n) : 10 ∉ bytes text := by
  intro hmem
  exact absurd (List.all_eq_true.mp h.oneLine 10 hmem) (by decide)

/-- A piece has no carriage return, so a line with it loses nothing at its end. -/
theorem Piece.no_cr {text : String} {n : Nat} (h : Piece text n) : 13 ∉ bytes text := by
  intro hmem
  exact absurd (List.all_eq_true.mp h.oneLine 13 hmem) (by decide)

/-- A piece in a frame of its own decodes to one data event with that payload. Six characters are
left out because `[DONE]` has six, and a text of that length would have to be compared with it. -/
theorem Piece.decodes {text : String} {n : Nat} (h : Piece text n) (hn : n ≠ 6) :
    decodeSseEvent (dataFrame (bytes text)) =
      .ok { name := [], payload := bytes text, done := false } := by
  have hlast : (bytes text).getLast? ≠ some 13 := fun hlast =>
    h.no_cr (List.mem_of_getLast? hlast)
  have hdone : (bytes text == bytes "[DONE]") = false := by
    rw [beq_eq_false_iff_ne]
    apply ne_of_len_ne
    rw [← len_eq_length, h.len_eq]
    exact hn
  rw [decodeSseEvent_dataFrame h.no_lf hlast, hdone]

section
variable {table : List (String × Raw)} {print : Value → String}

/-- A text without a receipt is content: it is read, has no member `inference_receipt`, and feeds
itself and a line feed to the hasher. -/
theorem isContent_text {text : String} {n : Nat} {raw : Raw} {value : Value} (h : Piece text n)
    (hn : n ≠ 6) (hread : readTable table (bytes text) = .ok (raw, []))
    (hvalue : strictValue (streamLibrary table print) raw = .ok value)
    (hnone : value.get "inference_receipt" = none) :
    IsContent (streamLibrary table print) "sse-data-v1" (dataFrame (bytes text))
      ({ name := [], payload := bytes text, done := false }, bytes text ++ [10]) where
  decodes := h.decodes hn
  not_done := rfl
  no_receipt := by
    simp only [embeddedReceipt, loads_of_reads hread hvalue, hnone]
  content := rfl

/-- A text with an object as its `inference_receipt` is the receipt event for that receipt. The
receipt that is expected is the one in the text, and a value equals itself. -/
theorem isReceipt_text {text : String} {n : Nat} {raw : Raw} {value receipt : Value}
    (h : Piece text n) (hn : n ≠ 6) (hread : readTable table (bytes text) = .ok (raw, []))
    (hvalue : strictValue (streamLibrary table print) raw = .ok value)
    (hreceipt : value.get "inference_receipt" = some receipt)
    (hobject : receipt.isObject = true) :
    IsReceipt (streamLibrary table print) (some receipt) (dataFrame (bytes text))
      { name := [], payload := bytes text, done := false } where
  decodes := h.decodes hn
  not_done := rfl
  receipt := by
    refine ⟨receipt, ?_, receipt.eq_self⟩
    simp only [embeddedReceipt, loads_of_reads hread hvalue, hreceipt, hobject]
    rfl

/-- The receipt event of a stream, with its text and what is read from it. -/
structure EventFacts (table : List (String × Raw)) (print : Value → String) (event : String)
    (receipt : Value) : Prop where
  piece : ∃ n, Piece event n ∧ n ≠ 6
  reads : ∃ raw value, readTable table (bytes event) = .ok (raw, []) ∧
    strictValue (streamLibrary table print) raw = .ok value ∧
    value.get "inference_receipt" = some receipt
  object : receipt.isObject = true

/-- The parts of the content. -/
def streamParts : List (SseEvent × Bytes) :=
  [helloChunk, fixtureChunk, stopChunk].map fun text =>
    ({ name := [], payload := bytes text, done := false }, bytes text ++ [10])

/-- The stream is cut into the frames it was made of, with nothing left over. Each text is one
line, so that a frame ends only where it was ended. -/
theorem streamOf_frames {event : String} {n : Nat} (h : Piece event n) :
    frames sseRule (streamOf event) = (streamTexts event).map (fun text => dataFrame (bytes text)) ∧
      rest sseRule (streamOf event) = [] := by
  refine Framing.frames_flatten sseRule ?_
  intro frame hframe
  obtain ⟨text, htext, rfl⟩ := List.mem_map.mp hframe
  refine eventEnd_line (dataLine_no_lf ?_)
  simp only [streamTexts, List.mem_cons, List.not_mem_nil, or_false] at htext
  rcases htext with rfl | rfl | rfl | rfl | rfl
  · exact streamFacts.hello.no_lf
  · exact streamFacts.fixture.no_lf
  · exact streamFacts.stop.no_lf
  · exact h.no_lf
  · decide

/-- The stream around a receipt event has the shape of an accepted one: three chunks of content,
the receipt event and `[DONE]`. -/
theorem streamOf_shape (hcommon : ReadsCommon table) {event : String} {receipt : Value}
    (h : EventFacts table print event receipt) :
    rest sseRule (streamOf event) = [] ∧
      Shape (streamLibrary table print) "sse-data-v1" (some receipt)
        (frames sseRule (streamOf event))
        ([helloChunk, fixtureChunk, stopChunk].map fun text => dataFrame (bytes text))
        (dataFrame (bytes event)) (dataFrame (bytes "[DONE]")) streamParts
        { name := [], payload := bytes event, done := false }
        { name := [], payload := bytes "[DONE]", done := true } := by
  obtain ⟨n, hpiece, hn⟩ := h.piece
  obtain ⟨raw, value, hread, hvalue, hreceipt⟩ := h.reads
  obtain ⟨hframes, hrest⟩ := streamOf_frames hpiece
  refine ⟨hrest, ?_, ?_, ?_, ?_⟩
  · rw [hframes]
    rfl
  · exact .cons (isContent_text streamFacts.hello (by decide) hcommon.hello rfl rfl)
      (.cons (isContent_text streamFacts.fixture (by decide) hcommon.fixture rfl rfl)
        (.cons (isContent_text streamFacts.stop (by decide) hcommon.stop rfl rfl) .nil))
  · exact isReceipt_text hpiece hn hread hvalue hreceipt h.object
  · exact ⟨decodeSseEvent_dataFrame (by decide) (by decide), rfl⟩

/-- The stream is accepted, and its digest is the one that the receipt claims. -/
theorem streamDigest_stream (hcommon : ReadsCommon table) {event : String} {receipt : Value}
    (h : EventFacts table print event receipt) :
    streamDigest (streamLibrary table print) (streamOf event) "sse-data-v1" (some receipt) =
      .ok (digestOf streamHash, 3) := by
  obtain ⟨hrest, hshape⟩ := streamOf_shape hcommon h
  have hcontent : (streamParts.map Prod.snd).flatten = streamContent := rfl
  rw [streamDigest_of_shape hrest hshape, hcontent, sha256_content]
  rfl

end

/-- The parsed receipt, with its members in the order of a map. -/
def receiptMembers : Serde.Map :=
  [("payload", .string streamPayloadPart), ("protected", .string streamHeaderPart),
   ("signature", .string streamSignaturePart)]

/-- The first byte of a text is the first byte of its first part. -/
theorem head_bytes_append {a : String} {byte : UInt8} (h : (bytes a).head? = some byte)
    (b : String) : (bytes (a ++ b)).head? = some byte := by
  rw [bytes_append, List.head?_append, h]
  rfl

/-- The last byte of a text is the last byte of its last part. -/
theorem getLast_bytes_append (a : String) {b : String} {byte : UInt8}
    (h : (bytes b).getLast? = some byte) : (bytes (a ++ b)).getLast? = some byte := by
  rw [bytes_append, List.getLast?_append, h]
  rfl

/-- The receipt text stands in braces, so `parse_envelope` takes it for a flattened receipt. -/
theorem braced_receiptText (more : String) : Braced (bytes (receiptText more)) := by
  have hstart : (bytes "\x7b\"protected\":\"").head? = some 123 := by decide
  have hstop : (bytes "\x7d").getLast? = some 125 := by decide
  refine ⟨?_, getLast_bytes_append _ hstop⟩
  unfold receiptText
  iterate 8 refine head_bytes_append ?_ _
  exact hstart

/-- An object with the three members opens as the envelope of the fixture. Other members may stand
next to them, `header` excepted, which the source refuses. -/
theorem flattenedEnvelope_stream {members : Serde.Map} (hheader : members.get "header" = none)
    (hprotected : members.get "protected" = some (.string streamHeaderPart))
    (hpayload : members.get "payload" = some (.string streamPayloadPart))
    (hsignature : members.get "signature" = some (.string streamSignaturePart)) :
    flattenedEnvelope (.object members) = .ok (streamEnvelope (.object members)) := by
  obtain ⟨signature, hencodes, -⟩ := streamFacts.signature
  exact flattenedEnvelope_members hheader hprotected streamFacts.header.1.ne_empty hpayload
    streamFacts.payload.1.ne_empty hsignature hencodes.1.ne_empty

/-- A receipt text that is read opens as the envelope of the fixture. The text is known up to what
follows the signature, and its braces are enough to choose the flattened form. -/
theorem parseEnvelope_stream {table : List (String × Raw)} {print : Value → String}
    {more : String} {n : Nat} {raw : Raw} {members : Serde.Map} (hmore : Piece more n)
    (hread : readTable table (bytes (receiptText more)) = .ok (raw, []))
    (hvalue : strictValue (streamLibrary table print) raw = .ok (.object members))
    (hopens : flattenedEnvelope (.object members) = .ok (streamEnvelope (.object members))) :
    parseEnvelope (streamLibrary table print) (bytes (receiptText more)) =
      .ok (streamEnvelope (.object members)) := by
  rw [parseEnvelope_braced (piece_receiptText hmore).ascii (braced_receiptText more),
    loads_of_reads hread hvalue]
  exact hopens

end TrustedRouter.Proofs.Receipts
