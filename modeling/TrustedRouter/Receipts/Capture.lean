import TrustedRouter.Receipts

/-!
# `TrustedRouter.Receipts.Capture`: finding the receipt of a stream as it arrives

`ReceiptCapture` of `crates/trusted-router/src/receipts.rs`. It wraps a stream of byte chunks,
passes every item on, keeps the bytes, and after each chunk looks through all of them for a
receipt. `ReceiptCapture::verify` verifies the receipt that was found against the bytes.

The wrapped stream stands as the answers it gives to one poll after the other.
-/

set_option autoImplicit false

namespace TrustedRouter.Receipts

open Rust (Bytes)
open Rust.Str
open Rust.Result
open Serde (Value)

/-- The answer of a stream of chunks to one poll. -/
inductive Poll (ε : Type) where
  | pending
  | ready (item : Option (Except ε Bytes))
  deriving DecidableEq

/-- `ReceiptCapture`, without the stream it wraps. -/
structure ReceiptCapture where
  wire : Bytes := []
  receipt : Option Value := none

section
variable (lib : Library)

/-- The receipt an event carries, where anything unreadable carries none. -/
def receiptOf (raw : Bytes) : Option Value :=
  match decodeSseEvent raw with
  | .error _ => none
  | .ok event =>
      match embeddedReceipt lib event.payload with
      | .ok (some receipt) => some receipt
      | _ => none

/-- The loop of `refresh_receipt`. -/
def refreshFrom (receipt : Option Value) (stream : Bytes) : Option Value :=
  if hempty : stream = [] then receipt
  else
    match hnext : nextSseEvent stream with
    | none => receipt
    | some (raw, rest) =>
        have := nextSseEvent_length_lt hnext hempty
        refreshFrom ((receiptOf lib raw).or receipt) rest
  termination_by stream.length

/-- `refresh_receipt`. -/
def ReceiptCapture.refreshReceipt (capture : ReceiptCapture) : ReceiptCapture :=
  { capture with receipt := refreshFrom lib capture.receipt capture.wire }

/-- `poll_next`, on what the wrapped stream answers. -/
def ReceiptCapture.pollNext {ε : Type} (capture : ReceiptCapture) (polled : Poll ε) :
    Poll ε × ReceiptCapture :=
  match polled with
  | .ready (some (.ok chunk)) =>
      let capture := { capture with wire := capture.wire ++ chunk }
      (.ready (some (.ok chunk)), capture.refreshReceipt lib)
  | .ready (some (.error error)) => (.ready (some (.error error)), capture)
  | .ready none => (.ready none, capture)
  | .pending => (.pending, capture)

/-- One poll after the other: what the consumer gets, and the capture at the end. -/
def ReceiptCapture.run {ε : Type} (capture : ReceiptCapture) :
    List (Poll ε) → List (Poll ε) × ReceiptCapture
  | [] => ([], capture)
  | polled :: rest =>
      let (item, capture) := capture.pollNext lib polled
      let (items, capture) := ReceiptCapture.run capture rest
      (item :: items, capture)

/-- `ReceiptCapture::verify_with`. `serde_json` prints a value without failing. -/
def ReceiptCapture.verifyWith (capture : ReceiptCapture) (expectedIssuer : String)
    (options : ReceiptVerificationOptions) (verifyGcp : VerifyGcp) :
    ReceiptResult ReceiptClaims := do
  let receipt ← okOr capture.receipt (.structural
    "receipt capture check failed: no flattened receipt event has been captured")
  ensure options.responseStream.isNone
    (.structural "ReceiptCapture::verify supplies response_stream from captured bytes")
  verifyReceiptWith lib (bytes (lib.print receipt)) expectedIssuer
    { options with responseStream := some capture.wire } verifyGcp

end

end TrustedRouter.Receipts
