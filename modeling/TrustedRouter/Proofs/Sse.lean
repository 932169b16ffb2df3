import TrustedRouter.Lib.Scan
import TrustedRouter.Sse

/-!
# `TrustedRouter.Proofs.Sse`: the four validators behave as one

Each validator is a `Scan.scan`. What it surfaces for one item is `chatItem`,
`responseItem` or `rawItem`, and the items that stop it are `chatStops` or `responsesStops`.
The four `surfaced_validate..` lemmas prove this by induction on the wire, with one case
for each branch of the loop.

`ExactUpTo` is the behaviour the validators share. Everything before the first stopping
item is surfaced in order and is a success. That item gets its own last outputs and nothing
after it is read. A wire without such an item gets one error at its end. `exactUpTo_scan`
derives it for any scan whose other items surface as successes.

The raw validators yield the event where the parsed ones yield its parsed form.
`dropTrailingDone` removes the `[DONE]` frame, which only the raw ones yield.
-/

set_option autoImplicit false

namespace TrustedRouter.Proofs.Sse

open TrustedRouter.Sse
open Rust.Result
open Serde (Value Reader)

/-! ## What one item means -/

/-- The item is a `[DONE]` frame. -/
def isDone : WireItem → Bool
  | .ok event => isDoneFrame event
  | .error _ => false

section
variable (read : Reader)

/-- An item as `validate_chat_stream` surfaces it: a wire error stays, an event is
parsed. -/
def chatItem (item : WireItem) : Except Error Value :=
  item.bind fun event => parseJsonEvent read event.data

/-- An item as `validate_responses_stream` surfaces it: parsed, under its effective
name. -/
def responseItem (item : WireItem) : Except Error ResponseEvent :=
  item.bind fun event => (parseJsonEvent read event.data).map fun value =>
    { event := eventName event value, data := value }

/-- An item as the raw validators surface it: the event itself, if it parses. -/
def rawItem (item : WireItem) : Except Error SseEvent :=
  item.bind fun event => (parseJsonEvent read event.data).map fun _ => event

/-- The items that stop a chat stream: `[DONE]`, a wire error, a rejected event. -/
def chatStops (item : WireItem) : Bool :=
  isDone item ||
    match chatItem read item with
    | .ok _ => false
    | .error _ => true

/-- The items that stop a Responses stream: those of a chat stream, and a valid event with
a terminal name. -/
def responsesStops (item : WireItem) : Bool :=
  isDone item ||
    match responseItem read item with
    | .ok response => isTerminal response.event
    | .error _ => true

/-! ## Each validator is a scan -/

/-- An item that is yielded reaches the caller. -/
theorem surfaced_cons_yields {ω : Type} (item : Except Error ω) (rest : List (Action ω)) :
    surfaced (.yields item :: rest) = item :: surfaced rest := rfl

/-- Completion is seen by the recorder and not by the caller. -/
theorem surfaced_cons_completes {ω : Type} (rest : List (Action ω)) :
    surfaced (.completes :: rest) = surfaced rest := rfl

/-- A stream that does nothing shows nothing. -/
theorem surfaced_nil {ω : Type} : surfaced ([] : List (Action ω)) = [] := rfl

/-- The loop of the parsed chat validator is a scan. It shows parsed items, stops at `[DONE]`
without showing it, and ends in an error when the wire does before that. -/
theorem surfaced_validateChatStream (items : List WireItem) :
    surfaced (validateChatStream read items) =
      Scan.scan (chatStops read) (chatItem read)
        (fun item => if isDone item then [] else [chatItem read item])
        [.error endedBeforeDone] items := by
  induction items with
  | nil => rfl
  | cons item rest ih =>
      cases item with
      | error error => rfl
      | ok event =>
          by_cases hdone : isDoneFrame event = true
          · simp [validateChatStream, Scan.scan, chatStops, isDone, hdone,
              surfaced_cons_completes, surfaced_nil]
          · cases hparse : parseJsonEvent read event.data <;>
              simp [validateChatStream, Scan.scan, chatStops, isDone, hdone, chatItem,
                Except.bind, hparse, surfaced_cons_yields, surfaced_nil, ih]

/-- The loop of the raw chat validator is a scan with the same stops. It passes the events on and
shows the `[DONE]` frame too. -/
theorem surfaced_validateRawChatStream (items : List WireItem) :
    surfaced (validateRawChatStream read items) =
      Scan.scan (chatStops read) (rawItem read)
        (fun item => if isDone item then [item] else [rawItem read item])
        [.error endedBeforeDone] items := by
  induction items with
  | nil => rfl
  | cons item rest ih =>
      cases item with
      | error error => rfl
      | ok event =>
          by_cases hdone : isDoneFrame event = true
          · simp [validateRawChatStream, Scan.scan, chatStops, isDone, hdone,
              surfaced_cons_completes, surfaced_cons_yields, surfaced_nil]
          · cases hparse : parseJsonEvent read event.data <;>
              simp [validateRawChatStream, Scan.scan, chatStops, isDone, hdone, chatItem,
                rawItem, Except.bind, Except.map, hparse, surfaced_cons_yields,
                surfaced_nil, ih]

/-- The loop of the parsed Responses validator is a scan. It also stops at the named terminals,
which it shows. -/
theorem surfaced_validateResponsesStream (items : List WireItem) :
    surfaced (validateResponsesStream read items) =
      Scan.scan (responsesStops read) (responseItem read)
        (fun item => if isDone item then [] else [responseItem read item])
        [.error endedBeforeTerminal] items := by
  induction items with
  | nil => rfl
  | cons item rest ih =>
      cases item with
      | error error => rfl
      | ok event =>
          -- The branches of the loop, in its order: the last frame, a payload that does not
          -- parse, and a terminal or any other event.
          by_cases hdone : isDoneFrame event = true
          · simp [validateResponsesStream, Scan.scan, responsesStops, isDone, hdone,
              surfaced_cons_completes, surfaced_nil]
          · cases hparse : parseJsonEvent read event.data with
            | error error =>
                simp [validateResponsesStream, Scan.scan, responsesStops, isDone, hdone,
                  responseItem, Except.bind, Except.map, hparse, surfaced_cons_yields,
                  surfaced_nil]
            | ok value =>
                by_cases hname : isTerminal (eventName event value) = true <;>
                  simp [validateResponsesStream, Scan.scan, responsesStops, isDone, hdone,
                    responseItem, Except.bind, Except.map, hparse, hname,
                    surfaced_cons_yields, surfaced_cons_completes, surfaced_nil, ih]

/-- The loop of the raw Responses validator is a scan with the same stops. At a `[DONE]` frame it
shows the item itself, and at a terminal the event. -/
theorem surfaced_validateRawResponsesStream (items : List WireItem) :
    surfaced (validateRawResponsesStream read items) =
      Scan.scan (responsesStops read) (rawItem read)
        (fun item => if isDone item then [item] else [rawItem read item])
        [.error endedBeforeTerminal] items := by
  induction items with
  | nil => rfl
  | cons item rest ih =>
      cases item with
      | error error => rfl
      | ok event =>
          -- The same branches. Here the last frame is shown as well.
          by_cases hdone : isDoneFrame event = true
          · simp [validateRawResponsesStream, Scan.scan, responsesStops, isDone, hdone,
              surfaced_cons_completes, surfaced_cons_yields, surfaced_nil]
          · cases hparse : parseJsonEvent read event.data with
            | error error =>
                simp [validateRawResponsesStream, Scan.scan, responsesStops, isDone, hdone,
                  responseItem, rawItem, Except.bind, Except.map, hparse,
                  surfaced_cons_yields, surfaced_nil]
            | ok value =>
                by_cases hname : isTerminal (eventName event value) = true <;>
                  simp [validateRawResponsesStream, Scan.scan, responsesStops, isDone,
                    hdone, responseItem, rawItem, Except.bind, Except.map, hparse, hname,
                    surfaced_cons_yields, surfaced_cons_completes, surfaced_nil, ih]

end

/-! ## Exact behaviour -/

/-- What a validator surfaces on a wire, in terms of the first item that stops it. -/
structure ExactUpTo {ω : Type} (stops : WireItem → Bool)
    (surface : WireItem → Except Error ω) (last : WireItem → List (Except Error ω))
    (ended : Error) (items : List WireItem) (out : List (Except Error ω)) : Prop where
  /-- Items before the first stopping one are surfaced in order, and the stopping one gets
  its last outputs. Nothing follows. -/
  stopped : ∀ k item, items.findIdx? stops = some k → items[k]? = some item →
    out = (items.take k).map surface ++ last item
  /-- Every item before the first stopping one surfaces as a success. -/
  before : ∀ k, items.findIdx? stops = some k →
    ∀ item ∈ items.take k, ∃ value, surface item = .ok value
  /-- A wire that nothing stops surfaces whole, as successes, with one error after it. -/
  truncated : items.findIdx? stops = none →
    out = items.map surface ++ [.error ended] ∧
      ∀ item ∈ items, ∃ value, surface item = .ok value

/-- A scan behaves as `ExactUpTo` says when the items that do not stop it surface as successes.
Then the one error is at the end, from the stopping item or from the end of the wire. -/
theorem exactUpTo_scan {ω : Type} {stops : WireItem → Bool}
    {surface : WireItem → Except Error ω} {last : WireItem → List (Except Error ω)}
    {ended : Error} (hpass : ∀ item, stops item = false → ∃ value, surface item = .ok value)
    (items : List WireItem) :
    ExactUpTo stops surface last ended items
      (Scan.scan stops surface last [.error ended] items) where
  stopped _ _ hk hitem := Scan.scan_of_findIdx?_some hk hitem
  before _ hk item hitem := hpass item (Scan.not_stops_of_mem_take hk hitem)
  truncated hnone := by
    refine ⟨Scan.scan_of_findIdx?_none hnone, ?_⟩
    intro item hitem
    exact hpass item (List.findIdx?_eq_none_iff.mp hnone item hitem)

section
variable {read : Reader}

/-- An item that does not stop a chat stream is an event that parses: wire errors, `[DONE]` and
rejected events all stop it. -/
theorem exists_of_chatStops {item : WireItem} (h : chatStops read item = false) :
    ∃ event value, item = .ok event ∧ isDoneFrame event = false ∧
      parseJsonEvent read event.data = .ok value := by
  cases item with
  | error error => cases h
  | ok event =>
      rw [chatStops, Bool.or_eq_false_iff] at h
      obtain ⟨hdone, hitem⟩ := h
      cases hparse : parseJsonEvent read event.data with
      | ok value => exact ⟨event, value, rfl, hdone, hparse⟩
      | error error => simp [chatItem, Except.bind, hparse] at hitem

/-- An item that does not stop a Responses stream does not stop a chat stream. -/
theorem chatStops_of_responsesStops {item : WireItem}
    (h : responsesStops read item = false) : chatStops read item = false := by
  cases item with
  | error error => cases h
  | ok event =>
      rw [responsesStops, Bool.or_eq_false_iff] at h
      obtain ⟨hdone, hitem⟩ := h
      rw [chatStops, hdone, Bool.false_or]
      cases hparse : parseJsonEvent read event.data with
      | ok value => simp [chatItem, Except.bind, hparse]
      | error error => simp [responseItem, Except.bind, Except.map, hparse] at hitem

/-- Such an item is shown as its parsed value. -/
theorem chatItem_ok {item : WireItem} (h : chatStops read item = false) :
    ∃ value, chatItem read item = .ok value := by
  obtain ⟨event, value, rfl, -, hparse⟩ := exists_of_chatStops h
  exact ⟨value, hparse⟩

/-- It is shown by the raw validators as the event it is. -/
theorem rawItem_ok {item : WireItem} (h : chatStops read item = false) :
    ∃ event, rawItem read item = .ok event := by
  obtain ⟨event, value, rfl, -, hparse⟩ := exists_of_chatStops h
  exact ⟨event, by simp [rawItem, Except.bind, Except.map, hparse]⟩

/-- It is shown by the Responses validator with its name and its parsed value. -/
theorem responseItem_ok {item : WireItem} (h : responsesStops read item = false) :
    ∃ response, responseItem read item = .ok response := by
  obtain ⟨event, value, rfl, -, hparse⟩ :=
    exists_of_chatStops (chatStops_of_responsesStops h)
  exact ⟨⟨eventName event value, value⟩, by
    simp [responseItem, Except.bind, Except.map, hparse]⟩

end

/-! ## Agreement of raw and parsed -/

/-- Removes a `[DONE]` frame from the end. -/
def dropTrailingDone : List WireItem → List WireItem
  | [] => []
  | [item] => if isDone item then [] else [item]
  | item :: next :: rest => item :: dropTrailingDone (next :: rest)

/-- Only the last item can be the `[DONE]` frame that is removed. -/
theorem dropTrailingDone_cons {item : WireItem} {rest : List WireItem} (h : rest ≠ []) :
    dropTrailingDone (item :: rest) = item :: dropTrailingDone rest := by
  cases rest with
  | nil => exact absurd rfl h
  | cons next rest => rfl

/-- A raw item is a `[DONE]` frame only if the item it comes from is one. -/
theorem isDone_rawItem (read : Reader) {item : WireItem} (h : isDone item = false) :
    isDone (rawItem read item) = false := by
  cases item with
  | error error => rfl
  | ok event =>
      cases hparse : parseJsonEvent read event.data with
      | error error => simp [rawItem, Except.bind, Except.map, hparse, isDone]
      | ok value => simpa [rawItem, Except.bind, Except.map, hparse, isDone] using h

/-- Parsing what the raw validator shows is parsing the wire item. A rejected event is shown as
its rejection, and parsing passes that on. -/
theorem chatItem_rawItem (read : Reader) (item : WireItem) :
    chatItem read (rawItem read item) = chatItem read item := by
  cases item with
  | error error => rfl
  | ok event =>
      cases hparse : parseJsonEvent read event.data <;>
        simp [chatItem, rawItem, Except.bind, Except.map, hparse]

/-- The same for the Responses validators. -/
theorem responseItem_rawItem (read : Reader) (item : WireItem) :
    responseItem read (rawItem read item) = responseItem read item := by
  cases item with
  | error error => rfl
  | ok event =>
      cases hparse : parseJsonEvent read event.data <;>
        simp [responseItem, rawItem, Except.bind, Except.map, hparse]

/-- The raw output is never empty: it ends in a `[DONE]` frame, another last item or an
error. -/
theorem rawScan_ne_nil {read : Reader} {stops : WireItem → Bool} {ended : Error}
    (items : List WireItem) :
    Scan.scan stops (rawItem read)
      (fun item => if isDone item then [item] else [rawItem read item])
      [.error ended] items ≠ [] := by
  cases items with
  | nil => exact List.cons_ne_nil _ _
  | cons item rest =>
      rw [Scan.scan]
      split
      · split <;> exact List.cons_ne_nil _ _
      · exact List.cons_ne_nil _ _

/-- Parsing what a raw scan surfaces, its `[DONE]` frame removed, gives the parsed scan.
The induction is on the wire. The raw scan yields a `[DONE]` frame only as the last output
of a stopping item, so removing it there removes them all. -/
theorem parsed_eq_of_raw {ω : Type} {read : Reader} {stops : WireItem → Bool}
    {parse : WireItem → Except Error ω} {ended : Error}
    (hparse : ∀ item, parse (rawItem read item) = parse item)
    (hended : parse (.error ended) = .error ended) (items : List WireItem) :
    Scan.scan stops parse (fun item => if isDone item then [] else [parse item])
        [.error ended] items =
      (dropTrailingDone (Scan.scan stops (rawItem read)
        (fun item => if isDone item then [item] else [rawItem read item])
        [.error ended] items)).map parse := by
  induction items with
  | nil => simp [Scan.scan, dropTrailingDone, isDone, hended]
  | cons item rest ih =>
      rw [Scan.scan, Scan.scan]
      by_cases hstop : stops item = true
      · rw [if_pos hstop, if_pos hstop]
        by_cases hdone : isDone item = true
        · simp [dropTrailingDone, hdone]
        · have hraw := isDone_rawItem read (Bool.not_eq_true _ ▸ hdone)
          simp [dropTrailingDone, hdone, hraw, hparse]
      · rw [if_neg hstop, if_neg hstop, dropTrailingDone_cons (rawScan_ne_nil rest),
          List.map_cons, hparse, ih]

/-- The four validators behave exactly as `ExactUpTo` says, and raw and parsed agree.
`chatItem`, `responseItem` and `rawItem` carry a wire error or the rejection of an event as
the one error that is yielded. A `[DONE]` frame is yielded by the raw validators only, and
a named Responses terminal by both. -/
theorem validators_exact_and_agree (read : Reader) (items : List WireItem) :
    ExactUpTo (chatStops read) (chatItem read)
      (fun item => if isDone item then [] else [chatItem read item])
      endedBeforeDone items (surfaced (validateChatStream read items)) ∧
    ExactUpTo (chatStops read) (rawItem read)
      (fun item => if isDone item then [item] else [rawItem read item])
      endedBeforeDone items (surfaced (validateRawChatStream read items)) ∧
    ExactUpTo (responsesStops read) (responseItem read)
      (fun item => if isDone item then [] else [responseItem read item])
      endedBeforeTerminal items (surfaced (validateResponsesStream read items)) ∧
    ExactUpTo (responsesStops read) (rawItem read)
      (fun item => if isDone item then [item] else [rawItem read item])
      endedBeforeTerminal items (surfaced (validateRawResponsesStream read items)) ∧
    surfaced (validateChatStream read items) =
      (dropTrailingDone (surfaced (validateRawChatStream read items))).map
        (chatItem read) ∧
    surfaced (validateResponsesStream read items) =
      (dropTrailingDone (surfaced (validateRawResponsesStream read items))).map
        (responseItem read) := by
  rw [surfaced_validateChatStream, surfaced_validateRawChatStream,
    surfaced_validateResponsesStream, surfaced_validateRawResponsesStream]
  -- The Responses loop stops wherever the chat loop does, and at terminals besides.
  have hraw : ∀ item, responsesStops read item = false →
      ∃ event, rawItem read item = .ok event :=
    fun item h => rawItem_ok (chatStops_of_responsesStops h)
  refine ⟨exactUpTo_scan (fun _ => chatItem_ok) items,
    exactUpTo_scan (fun _ => rawItem_ok) items,
    exactUpTo_scan (fun _ => responseItem_ok) items, exactUpTo_scan hraw items, ?_, ?_⟩
  · exact parsed_eq_of_raw (chatItem_rawItem read) rfl items
  · exact parsed_eq_of_raw (responseItem_rawItem read) rfl items

/-- A chat wire with one event and then `[DONE]`, read by a parser that finds an empty
object in the event. Trailing items are not surfaced, and only the raw validator shows the
`[DONE]` frame. -/
example :
    let read : Reader := fun _ => .ok (.object [], [])
    let event : SseEvent := { event := some "message", data := "\x7b\x7d", id := some "" }
    let done : SseEvent := { event := some "message", data := " [DONE]\n", id := some "" }
    (surfaced (validateChatStream read [.ok event, .ok done, .ok event])).length = 1 ∧
      (surfaced (validateRawChatStream read [.ok event, .ok done, .ok event])).length = 2 ∧
      (surfaced (validateChatStream read [.ok event])).length = 2 := by
  decide

end TrustedRouter.Proofs.Sse
