import TrustedRouter.Lib.Framing
import TrustedRouter.Receipts.Capture

/-!
# `TrustedRouter.Proofs.Receipts.Framing`: the events of a captured stream

An event of a captured stream ends at the first blank line, which is LF LF or CR LF CR LF. The
two delimiters have different lengths, so a later one can end first. `sseRule` is the framing
rule that `next_sse_event` implements: an end that was found stands, because a delimiter that
only later bytes complete ends in them. `refreshFrom_eq` and `absorbAll_eq_ok` say that the two
loops of the source over a stream are folds over its frames.

`capture_run` is what `ReceiptCapture` does over any sequence of polls. However the stream is
cut into chunks, the capture passes it on, keeps its bytes, and has the receipt that framing
those bytes in one piece finds.
-/

set_option autoImplicit false

namespace TrustedRouter.Proofs.Receipts

open Rust (Bytes)
open Serde (Value)
open TrustedRouter.Receipts
open Framing (Rule frames rest)

/-! ## Delimiters -/

/-- `find_subslice` finds the first place where the needle stands. -/
theorem findSubslice_eq_some {haystack needle : Bytes} {i : Nat} :
    findSubslice haystack needle = some i ↔
      i ≤ haystack.length ∧ needle <+: haystack.drop i ∧
        ∀ j, j < i → ¬ needle <+: haystack.drop j := by
  unfold findSubslice
  rw [List.findIdx?_eq_some_iff_getElem]
  simp only [List.length_tails, List.getElem_tails, List.isPrefixOf_iff_prefix]
  constructor
  · rintro ⟨hlt, hat, hbefore⟩
    exact ⟨by omega, hat, hbefore⟩
  · rintro ⟨hle, hat, hbefore⟩
    exact ⟨by omega, hat, hbefore⟩

/-- It finds none when the needle stands nowhere. -/
theorem findSubslice_eq_none {haystack needle : Bytes} :
    findSubslice haystack needle = none ↔
      ∀ j, j ≤ haystack.length → ¬ needle <+: haystack.drop j := by
  unfold findSubslice
  rw [List.findIdx?_eq_none_iff]
  simp only [List.mem_tails, ← Bool.not_eq_true, List.isPrefixOf_iff_prefix]
  constructor
  · intro h j _
    exact h _ (List.drop_suffix j haystack)
  · intro h t ht
    rw [List.suffix_iff_eq_drop.mp ht]
    exact h _ (by omega)

/-- The needle stands in the haystack it was found in. -/
theorem findSubslice_add_length_le {haystack needle : Bytes} {i : Nat}
    (h : findSubslice haystack needle = some i) : i + needle.length ≤ haystack.length := by
  obtain ⟨hle, hat, -⟩ := findSubslice_eq_some.mp h
  have hlength := hat.length_le
  rw [List.length_drop] at hlength
  omega

/-- A needle that was found is still the first one when more bytes follow: an earlier place ends
before the found one does, so it was compared in full already. -/
theorem findSubslice_append_of_some {haystack needle : Bytes} {i : Nat}
    (h : findSubslice haystack needle = some i) (more : Bytes) :
    findSubslice (haystack ++ more) needle = some i := by
  have hend := findSubslice_add_length_le h
  obtain ⟨hle, hat, hbefore⟩ := findSubslice_eq_some.mp h
  refine findSubslice_eq_some.mpr ⟨?_, ?_, ?_⟩
  · rw [List.length_append]
    omega
  · rw [List.drop_append_of_le_length hle]
    exact hat.trans (List.prefix_append _ _)
  · intro j hj hinitial
    -- A needle before `i` ends inside the old bytes, so it stood there already.
    apply hbefore j hj
    rw [List.drop_append_of_le_length (by omega)] at hinitial
    apply List.prefix_of_prefix_length_le hinitial (List.prefix_append _ _)
    rw [List.length_drop]
    omega

/-- A needle that only more bytes bring ends in them. -/
theorem length_lt_of_findSubslice_none {haystack needle more : Bytes} {i : Nat}
    (hnone : findSubslice haystack needle = none)
    (h : findSubslice (haystack ++ more) needle = some i) :
    haystack.length < i + needle.length := by
  rw [findSubslice_eq_none] at hnone
  obtain ⟨-, hat, -⟩ := findSubslice_eq_some.mp h
  by_contra hle
  apply hnone i (by omega)
  rw [List.drop_append_of_le_length (by omega)] at hat
  apply List.prefix_of_prefix_length_le hat (List.prefix_append _ _)
  rw [List.length_drop]
  omega

/-- The earlier of two ends that may be absent. Either delimiter can come first, and the length of
the delimiter counts: what is compared is where they end. -/
theorem eventEnd_eq_some {stream : Bytes} {stop : Nat} :
    eventEnd stream = some stop ↔
      (findSubslice stream lfLf = some (stop - 2) ∧ 2 ≤ stop ∧
        ∀ j, findSubslice stream crlfCrlf = some j → stop ≤ j + 4) ∨
      (findSubslice stream crlfCrlf = some (stop - 4) ∧ 4 ≤ stop ∧
        ∀ i, findSubslice stream lfLf = some i → stop ≤ i + 2) := by
  unfold eventEnd
  cases hlf : findSubslice stream lfLf with
  | none =>
      cases hcrlf : findSubslice stream crlfCrlf with
      | none => simp
      | some j => simp; omega
  | some i =>
      cases hcrlf : findSubslice stream crlfCrlf with
      | none => simp; omega
      | some j => simp; omega

/-- The end of an event is in the stream. -/
theorem eventEnd_le_length {stream : Bytes} {stop : Nat} (h : eventEnd stream = some stop) :
    stop ≤ stream.length := by
  rcases eventEnd_eq_some.mp h with ⟨hlf, htwo, -⟩ | ⟨hcrlf, hfour, -⟩
  · have hend := findSubslice_add_length_le hlf
    rw [show lfLf.length = 2 from rfl] at hend
    omega
  · have hend := findSubslice_add_length_le hcrlf
    rw [show crlfCrlf.length = 4 from rfl] at hend
    omega

/-- An end that stands in the bytes so far is not after one that only more bytes bring. -/
theorem stop_le_of_append {stream needle : Bytes} {stop i : Nat} (more : Bytes)
    (hstop : stop ≤ stream.length)
    (hold : ∀ j, findSubslice stream needle = some j → stop ≤ j + needle.length)
    (h : findSubslice (stream ++ more) needle = some i) : stop ≤ i + needle.length := by
  cases hfound : findSubslice stream needle with
  | some j =>
      rw [findSubslice_append_of_some hfound more] at h
      cases h
      exact hold _ hfound
  | none =>
      have hlate := length_lt_of_findSubslice_none hfound h
      omega

/-- The end of the first event stands when more bytes follow. -/
theorem eventEnd_append {stream : Bytes} {stop : Nat} (h : eventEnd stream = some stop)
    (more : Bytes) : eventEnd (stream ++ more) = some stop := by
  have hstop := eventEnd_le_length h
  rcases eventEnd_eq_some.mp h with ⟨hlf, htwo, hother⟩ | ⟨hcrlf, hfour, hother⟩
  · refine eventEnd_eq_some.mpr (.inl ⟨findSubslice_append_of_some hlf more, htwo, ?_⟩)
    intro j hj
    exact stop_le_of_append more hstop hother hj
  · refine eventEnd_eq_some.mpr (.inr ⟨findSubslice_append_of_some hcrlf more, hfour, ?_⟩)
    intro i hi
    exact stop_le_of_append more hstop hother hi

/-- The framing rule of `next_sse_event`. -/
def sseRule : Rule UInt8 where
  find := eventEnd
  pos := eventEnd_pos
  le_length := eventEnd_le_length
  stable := eventEnd_append

/-! ## The loops over a stream -/

/-- `next_sse_event` and the framing rule agree where no event is complete. -/
theorem nextSseEvent_eq_none {stream : Bytes} (h : sseRule.find stream = none) :
    nextSseEvent stream = none := by
  rw [nextSseEvent, show eventEnd stream = none from h, Option.map_none]

/-- They agree on the first event. -/
theorem nextSseEvent_eq_some {stream : Bytes} {stop : Nat}
    (h : sseRule.find stream = some stop) :
    nextSseEvent stream = some (stream.take stop, stream.drop stop) := by
  rw [nextSseEvent, show eventEnd stream = some stop from h, Option.map_some]

/-- A stream with an event is not empty. -/
theorem ne_nil_of_find {stream : Bytes} {stop : Nat} (h : sseRule.find stream = some stop) :
    stream ≠ [] := by
  rintro rfl
  have hpos := sseRule.pos h
  have hle := sseRule.le_length h
  rw [List.length_nil] at hle
  omega

section
variable (lib : Library)

/-- The last receipt of a stream that is framed in one piece. -/
def lastReceipt (stream : Bytes) : Option Value :=
  ((frames sseRule stream).filterMap (receiptOf lib)).getLast?

/-- The last of some values with a first one in front, and a default behind. -/
theorem getLast?_cons_or {α : Type} (x : Option α) (l : List α) (y : Option α) :
    l.getLast?.or (x.or y) = ((x.toList ++ l).getLast?).or y := by
  cases hl : l.getLast? with
  | none =>
      rw [List.getLast?_eq_none_iff.mp hl]
      cases x <;> rfl
  | some z => simp [List.getLast?_append, hl]

/-- The loop of `refresh_receipt` keeps the last receipt of the frames, and what it had
before when there is none. -/
theorem refreshFrom_eq (receipt : Option Value) (stream : Bytes) :
    refreshFrom lib receipt stream = (lastReceipt lib stream).or receipt := by
  induction stream using Framing.frames_induction sseRule generalizing receipt with
  | stuck stream h =>
      -- No event is complete: the loop stops with the receipt it has.
      rw [refreshFrom, lastReceipt, Framing.frames_of_none h]
      split
      · rfl
      · split
        · rfl
        · rename_i hnext
          rw [nextSseEvent_eq_none h] at hnext
          cases hnext
  | frame stream stop h ih =>
      -- The first event may carry a receipt, and a later one replaces it.
      rw [refreshFrom, dif_neg (ne_nil_of_find h)]
      split
      · rename_i hnext
        rw [nextSseEvent_eq_some h] at hnext
        cases hnext
      · rename_i raw rest hnext
        rw [nextSseEvent_eq_some h] at hnext
        cases hnext
        rw [ih, lastReceipt, lastReceipt, Framing.frames_of_some h, getLast?_cons_or]
        congr 2
        cases hreceipt : receiptOf lib (stream.take stop) <;> simp [hreceipt]

/-- The loop of `stream_digest` succeeds when it does on every frame and leaves no bytes. -/
theorem absorbAll_eq_ok {domain : String} {expected : Option Value} {state final : StreamState}
    {stream : Bytes} :
    absorbAll lib domain expected state stream = .ok final ↔
      rest sseRule stream = [] ∧
        (frames sseRule stream).foldlM (absorb lib domain expected) state = .ok final := by
  induction stream using Framing.frames_induction sseRule generalizing state with
  | stuck stream h =>
      rw [absorbAll, Framing.frames_of_none h, Framing.rest_of_none h]
      split
      · rename_i hempty
        exact ⟨fun hok => ⟨hempty, hok⟩, fun hok => hok.2⟩
      · rename_i hne
        split
        · -- Bytes that make no frame are an error, and they are what is left.
          refine ⟨?_, fun hok => absurd hok.1 hne⟩
          intro hok
          cases hok
        · rename_i hnext
          rw [nextSseEvent_eq_none h] at hnext
          cases hnext
  | frame stream stop h ih =>
      rw [absorbAll, dif_neg (ne_nil_of_find h), Framing.frames_of_some h,
        Framing.rest_of_some h, List.foldlM_cons, Rust.Result.bind_eq_ok]
      split
      · rename_i hnext
        rw [nextSseEvent_eq_some h] at hnext
        cases hnext
      · rename_i raw more hnext
        rw [nextSseEvent_eq_some h] at hnext
        cases hnext
        split
        · rename_i herror
          simp [herror]
        · rename_i next hok
          simp [hok, ih]

/-! ## Capturing -/

/-- The bytes a poll delivers. -/
def chunkOf {ε : Type} : Poll ε → Bytes
  | .ready (some (.ok chunk)) => chunk
  | _ => []

/-- The bytes delivered over a sequence of polls. -/
def delivered {ε : Type} (polls : List (Poll ε)) : Bytes := (polls.map chunkOf).flatten

/-- More bytes keep the receipts that were there, and a later receipt takes their place. -/
theorem lastReceipt_append (stream more : Bytes) :
    lastReceipt lib (stream ++ more) =
      (((frames sseRule (rest sseRule stream ++ more)).filterMap (receiptOf lib)).getLast?).or
        (lastReceipt lib stream) := by
  rw [lastReceipt, lastReceipt, Framing.frames_append, List.filterMap_append,
    List.getLast?_append]

/-- Looking through the bytes again finds what framing them in one piece finds, when the
receipt so far is the one of the bytes so far. -/
theorem refreshFrom_append (stream more : Bytes) :
    refreshFrom lib (lastReceipt lib stream) (stream ++ more) =
      lastReceipt lib (stream ++ more) := by
  rw [refreshFrom_eq, lastReceipt_append]
  cases ((frames sseRule (rest sseRule stream ++ more)).filterMap (receiptOf lib)).getLast? with
  | some receipt => rfl
  | none => cases lastReceipt lib stream <;> rfl

/-- The capture that has seen a stream, whatever its chunks were. -/
def captureOf (stream : Bytes) : ReceiptCapture :=
  { wire := stream, receipt := lastReceipt lib stream }

/-- One poll: the item is passed on, and the capture has seen the bytes so far. -/
theorem pollNext_captureOf {ε : Type} (stream : Bytes) (polled : Poll ε) :
    (captureOf lib stream).pollNext lib polled =
      (polled, captureOf lib (stream ++ chunkOf polled)) := by
  have hsame : captureOf lib stream = captureOf lib (stream ++ []) := by
    rw [List.append_nil]
  cases polled with
  | pending => exact Prod.ext rfl hsame
  | ready item =>
      cases item with
      | none => exact Prod.ext rfl hsame
      | some result =>
          cases result with
          | error error => exact Prod.ext rfl hsame
          | ok chunk =>
              show (_, ReceiptCapture.refreshReceipt lib _) = _
              rw [ReceiptCapture.refreshReceipt, captureOf, refreshFrom_append]
              rfl

/-- A run from a capture that has seen a stream, by induction on the polls. -/
theorem run_captureOf {ε : Type} (polls : List (Poll ε)) (stream : Bytes) :
    (captureOf lib stream).run lib polls = (polls, captureOf lib (stream ++ delivered polls)) := by
  induction polls generalizing stream with
  | nil =>
      rw [delivered, List.map_nil, List.flatten_nil, List.append_nil]
      rfl
  | cons polled polls ih =>
      have hcons : delivered (polled :: polls) = chunkOf polled ++ delivered polls := by
        rw [delivered, delivered, List.map_cons, List.flatten_cons]
      rw [ReceiptCapture.run, pollNext_captureOf, hcons, ← List.append_assoc]
      simp only [ih]

/-- A new capture has seen nothing. -/
theorem captureOf_nil : captureOf lib [] = {} := by
  have hnone : sseRule.find [] = none := by decide
  rw [captureOf, lastReceipt, Framing.frames_of_none hnone]
  rfl

/-- The capture passes every item on as it is, and after any sequence of polls its state is
that of the bytes delivered so far: those bytes, and the last receipt that framing them in one
piece finds. Other polls that deliver the same bytes lead to the same state, and a receipt
that was there after a part of the polls is not lost. -/
theorem capture_run {ε : Type} (polls : List (Poll ε)) :
    ((ReceiptCapture.run lib {} polls).1 = polls ∧
      (ReceiptCapture.run lib {} polls).2.wire = delivered polls ∧
      (ReceiptCapture.run lib {} polls).2.receipt = lastReceipt lib (delivered polls)) ∧
    (∀ others : List (Poll ε), delivered others = delivered polls →
      (ReceiptCapture.run lib {} others).2 = (ReceiptCapture.run lib {} polls).2) ∧
    (∀ earlier later, polls = earlier ++ later →
      (ReceiptCapture.run lib {} earlier).2.receipt.isSome = true →
      (ReceiptCapture.run lib {} polls).2.receipt.isSome = true) := by
  have hrun : ∀ polls : List (Poll ε),
      ReceiptCapture.run lib {} polls = (polls, captureOf lib (delivered polls)) := by
    intro polls
    rw [← captureOf_nil lib, run_captureOf, List.nil_append]
  refine ⟨⟨?_, ?_, ?_⟩, ?_, ?_⟩
  · rw [hrun]
  · rw [hrun]; rfl
  · rw [hrun]; rfl
  · intro others hsame
    rw [hrun, hrun, hsame]
  · -- A receipt that was found stays, or a later one takes its place.
    rintro earlier later rfl hsome
    rw [hrun] at hsome ⊢
    have hsome : (lastReceipt lib (delivered earlier)).isSome = true := hsome
    show (lastReceipt lib (delivered (earlier ++ later))).isSome = true
    rw [delivered, List.map_append, List.flatten_append, lastReceipt_append, Option.isSome_or]
    exact Bool.or_eq_true_iff.mpr (.inr hsome)

end

end TrustedRouter.Proofs.Receipts
