import TrustedRouter.Receipts.Basic

/-!
# `TrustedRouter.Receipts.Stream`: the digest of a captured stream

`crates/trusted-router/src/receipts.rs`, from `stream_digest` to `embedded_receipt`. The
stream is cut into events at blank lines, each event is decoded, and the content events are
hashed in order. The receipt and `[DONE]` must be the last two events.

An offset into the stream stands here as the bytes from there on. The bytes a hasher was
fed stand as one string, which `finalize` hashes.
-/

set_option autoImplicit false

namespace TrustedRouter.Receipts

open Rust (Bytes)
open Rust.Str
open Rust.Result
open Serde (Value)

/-! ## Framing -/

/-- `find_subslice`. -/
def findSubslice (haystack needle : Bytes) : Option Nat :=
  haystack.tails.findIdx? (needle.isPrefixOf ·)

/-- The blank line that ends an event whose lines end in LF. -/
def lfLf : Bytes := [10, 10]

/-- The blank line that ends an event whose lines end in CR LF. -/
def crlfCrlf : Bytes := [13, 10, 13, 10]

/-- Where the first event of a stream ends. -/
def eventEnd (stream : Bytes) : Option Nat :=
  let lf := (findSubslice stream lfLf).map (· + 2)
  let crlf := (findSubslice stream crlfCrlf).map (· + 4)
  match lf, crlf with
  | some left, some right => some (min left right)
  | some stop, none => some stop
  | none, some stop => some stop
  | none, none => none

/-- `next_sse_event`: the first event with its delimiter, and the stream after it. -/
def nextSseEvent (stream : Bytes) : Option (Bytes × Bytes) :=
  (eventEnd stream).map fun stop => (stream.take stop, stream.drop stop)

/-- The end of an event is past its first byte: a boundary is at least two bytes long. -/
theorem eventEnd_pos {stream : Bytes} {stop : Nat} (h : eventEnd stream = some stop) :
    0 < stop := by
  simp only [eventEnd] at h
  cases hlf : findSubslice stream lfLf with
  | none =>
      cases hcrlf : findSubslice stream crlfCrlf with
      | none => simp [hlf, hcrlf] at h
      | some j => simp [hlf, hcrlf] at h; omega
  | some i =>
      cases hcrlf : findSubslice stream crlfCrlf with
      | none => simp [hlf, hcrlf] at h; omega
      | some j => simp [hlf, hcrlf] at h; omega

/-- Reading an event makes the stream shorter, which is why the loop of `stream_digest` ends. -/
theorem nextSseEvent_length_lt {stream raw rest : Bytes}
    (h : nextSseEvent stream = some (raw, rest)) (hne : stream ≠ []) :
    rest.length < stream.length := by
  obtain ⟨stop, hstop, hcut⟩ := Option.map_eq_some_iff.mp h
  have hpos := eventEnd_pos hstop
  have hlen : 0 < stream.length := List.length_pos_iff.mpr hne
  cases hcut
  rw [List.length_drop]
  omega

/-! ## Decoding -/

/-- `SseEvent`. -/
structure SseEvent where
  name : Bytes
  payload : Bytes
  done : Bool
  deriving DecidableEq, Repr

/-- `[u8]::strip_prefix`. -/
def stripPrefix (line start : Bytes) : Option Bytes :=
  if start.isPrefixOf line then some (line.drop start.length) else none

/-- `[u8]::strip_suffix`. -/
def stripSuffix (line stop : Bytes) : Option Bytes :=
  if stop.isSuffixOf line then some (line.take (line.length - stop.length)) else none

/-- `[u8]::split` at line feeds: always at least one line. -/
def splitLines : Bytes → List Bytes
  | [] => [[]]
  | byte :: rest =>
      match splitLines rest with
      | [] => [[byte]]
      | line :: lines => if byte == 10 then [] :: line :: lines else (byte :: line) :: lines

/-- A framing error. -/
def framingError (text : String) : ReceiptVerificationError :=
  .hash ("response stream framing check failed: " ++ text)

/-- A field value without the one blank before it. -/
def fieldValue (value : Bytes) : Bytes := (stripPrefix value [32]).getD value

/-- One line of an event, onto the name and the payload found before it. -/
def decodeLine (found : Option Bytes × Option Bytes) (rawLine : Bytes) :
    ReceiptResult (Option Bytes × Option Bytes) :=
  let (name, payload) := found
  let line := (stripSuffix rawLine [13]).getD rawLine
  match stripPrefix line (bytes "data:") with
  | some value => do
      ensure payload.isNone (framingError "SSE event has multiple data fields")
      pure (name, some (fieldValue value))
  | none =>
      match stripPrefix line (bytes "event:") with
      | some value => do
          ensure name.isNone (framingError "SSE event has multiple event fields")
          pure (some (fieldValue value), payload)
      | none => .error (framingError "SSE event contains an unsupported field")

/-- `decode_sse_event`. -/
def decodeSseEvent (raw : Bytes) : ReceiptResult SseEvent := do
  let body ← okOr ((stripSuffix raw crlfCrlf).or (stripSuffix raw lfLf))
    (framingError "incomplete SSE event")
  let (name, payload) ← (splitLines body).foldlM decodeLine (none, none)
  let payload ← okOr payload (framingError "SSE event has no data field")
  pure { name := name.getD [], payload, done := payload == bytes "[DONE]" }

section
variable (lib : Library)

/-- A receipt in the wrong place. -/
def positionError (text : String) : ReceiptVerificationError :=
  .hash ("response stream receipt position check failed: " ++ text)

/-- `embedded_receipt`. A payload that is no JSON object carries no receipt. -/
def embeddedReceipt (payload : Bytes) : ReceiptResult (Option Value) :=
  match loadJson lib payload "response stream event JSON" with
  | .error _ => .ok none
  | .ok value =>
      match value.get "inference_receipt" with
      | none => .ok none
      | some receipt => do
          ensure receipt.isObject
            (positionError "inference_receipt must be a flattened JWS object")
          pure (some receipt)

/-! ## The digest -/

/-- The variables of the loop of `stream_digest`. -/
structure StreamState where
  hashed : Bytes := []
  events : Nat := 0
  sawDone : Bool := false
  sawReceipt : Bool := false

/-- What a content event feeds to the hasher. -/
def contentBytes (domain : String) (event : SseEvent) : ReceiptResult Bytes :=
  if domain = "sse-data-v1" then do
    ensure event.name.isEmpty
      (.hash "response stream hash check failed: sse-data-v1 events must be unnamed")
    pure (event.payload ++ [10])
  else if domain = "sse-events-v1" then
    pure (event.name ++ [10] ++ event.payload ++ [10])
  else
    .error (.hash ("response stream hash check failed: unsupported domain " ++
      lib.debug domain))

/-- The body of the loop of `stream_digest`, on one event with its delimiter. -/
def absorb (domain : String) (expectedReceipt : Option Value) (state : StreamState)
    (raw : Bytes) : ReceiptResult StreamState := do
  let event ← decodeSseEvent raw
  ensure (!state.sawDone) (positionError "data event follows [DONE]")
  if event.done then pure { state with sawDone := true }
  else
    match ← embeddedReceipt lib event.payload with
    | some embedded =>
        ensure (!state.sawReceipt) (positionError "multiple receipt events")
        ensure (expectedReceipt.any (·.eq embedded))
          (positionError "embedded receipt does not match the verified flattened JWS")
        pure { state with sawReceipt := true }
    | none =>
        ensure (!state.sawReceipt)
          (positionError "receipt is not the last data event before [DONE]")
        let content ← contentBytes lib domain event
        pure { state with hashed := state.hashed ++ content, events := state.events + 1 }

/-- The loop of `stream_digest`. -/
def absorbAll (domain : String) (expectedReceipt : Option Value) (state : StreamState)
    (stream : Bytes) : ReceiptResult StreamState :=
  if hempty : stream = [] then .ok state
  else
    match hnext : nextSseEvent stream with
    | none => .error (framingError "stream has an incomplete SSE tail")
    | some (raw, rest) =>
        have := nextSseEvent_length_lt hnext hempty
        match absorb lib domain expectedReceipt state raw with
        | .error error => .error error
        | .ok state => absorbAll domain expectedReceipt state rest
  termination_by stream.length

/-- `stream_digest`: the digest of the content events and their number. -/
def streamDigest (stream : Bytes) (domain : String) (expectedReceipt : Option Value) :
    ReceiptResult (Array32 × Nat) := do
  let state ← absorbAll lib domain expectedReceipt {} stream
  ensure state.sawReceipt (positionError "receipt event is missing")
  ensure state.sawDone (positionError "receipt is not followed by [DONE]")
  pure (lib.sha256 state.hashed, state.events)

end

end TrustedRouter.Receipts
