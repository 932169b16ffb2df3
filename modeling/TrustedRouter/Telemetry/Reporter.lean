import TrustedRouter.Lib.Duration
import TrustedRouter.Lib.Json
import TrustedRouter.Telemetry.Wire

/-!
# `TrustedRouter.Telemetry.Reporter`: the beacon reporter

`crates/trusted-router/src/telemetry/reporter.rs`. The `State` behind the reporter's mutex
and everything that runs under it: the minute windows and their retention, the bounded
event buffer, the selection of a batch, and what a response does.

Sizes and lengths are natural numbers. So are `next_event_id`, `next_window_id` and `seq`, which
the source keeps as `u64` and moves on with `+= 1`: that they overflow after `2 ^ 64` events,
windows or batches is left out. `dropped_since_last` and the counts are `u64` with the saturating
arithmetic the source uses on them. A finite `f64` is the rational number it is. Serialisation,
the reading of JSON and of floats are parameters.
-/

set_option autoImplicit false

namespace TrustedRouter.Telemetry

open Rust
open Rust.Duration
open Rust.Str
open Http (HeaderMap)
open Serde (Value Number Reader)

/-! ## Constants -/

/-- `TELEMETRY_FLUSH_SECONDS`. -/
def flushSeconds : Nat := 30
/-- `TELEMETRY_MAX_EVENTS`. -/
def maxEvents : Nat := 1000
/-- `TELEMETRY_MAX_BATCH_EVENTS`. -/
def maxBatchEvents : Nat := 100
/-- `TELEMETRY_MAX_BATCH_COUNTERS`. -/
def maxBatchCounters : Nat := 200
/-- `TELEMETRY_MAX_WINDOW_KEYS`. -/
def maxWindowKeys : Nat := 256
/-- `TELEMETRY_RETENTION_SECONDS`. -/
def retentionSeconds : Nat := 86400
/-- `TELEMETRY_BACKOFF_MIN_SECONDS`. -/
def backoffMinSeconds : Nat := 60
/-- `TELEMETRY_BACKOFF_MAX_SECONDS`. -/
def backoffMaxSeconds : Nat := 600
/-- Urgent-flush trigger on the buffered byte estimate. -/
def batchTriggerBytes : Nat := 60 * 1024
/-- Hard ceiling on one batch body. -/
def maxBatchBytes : Nat := 65536
/-- Urgent-flush trigger on buffered events. -/
def urgentEventCount : Nat := 50
/-- Rough estimate a key of the open window in the byte trigger. -/
def openCounterEstimateBytes : Nat := 400
/-- Longest `Retry-After` the beacon honours. -/
def maxRetryAfterSeconds : Nat := 600
/-- Longest `pause_seconds` a policy may impose. -/
def maxPauseSeconds : Nat := 86400
/-- Slow-success threshold. -/
def slowMs : Nat := 30000
/-- Byte estimate for an event that fails to serialise. -/
def fallbackEventBytes : Nat := 600

/-! ## Types -/

/-- What the reporter calls outside the crate: `serde_json::to_string` on the records of the
wire, the JSON parser, and the two readings of a finite `f64`. -/
structure Library where
  eventJson : WireEvent → Option String
  countersJson : List WireCounter → Option String
  batchJson : WireBatch → Option String
  read : Reader
  asF64 : Number → Option Rat
  parseF64 : String → Option Rat

/-- The fixed part of `Inner`. -/
structure Reporter where
  library : Library
  apiKey : Option String
  sdk : SdkIdentity
  retentionBytes : Nat

/-- A sampled event that waits to be sent. -/
structure BufferedEvent where
  id : Nat
  wire : WireEvent
  completedAt : Nat
  estimatedBytes : Nat
  ok : Bool

/-- The rows of one window, in insertion order. -/
abbrev Counters := List (CounterKey × CounterRow)

/-- A closed minute window. -/
structure CounterWindow where
  id : Nat
  windowStart : Nat
  rows : Counters
  sizeBytes : Nat

/-- Names a row of a closed window. -/
abbrev CounterRef := Nat × CounterKey

/-- The items one flush put on the wire. `batch` is what `body` serialises. -/
structure Selected where
  batch : WireBatch
  body : String
  eventIds : List Nat
  counterRefs : List CounterRef
  dropped : Nat

/-- The state behind the mutex. -/
structure State where
  successSampleRate : Rat
  flushInterval : Nat
  events : List BufferedEvent
  eventsSizeBytes : Nat
  nextEventId : Nat
  currentWindowStart : Option Nat
  currentCounters : Counters
  closedWindows : List CounterWindow
  nextWindowId : Nat
  retainedWindowBytes : Nat
  droppedSinceLast : Nat
  instanceId : String
  seq : Nat
  backoff : Nat
  backoffUntil : Nat
  pausedUntil : Nat
  nextFlushAt : Nat
  urgentNotBefore : Nat
  urgentFlush : Bool
  disabled : Bool
  closed : Bool
  workerStarted : Bool

/-- `normalise_sample_rate`. A value that is not finite is `none`. -/
def normaliseSampleRate (value : Option Rat) : Rat :=
  match value with
  | some value => max 0 (min value 1)
  | none => 1 / 100

/-- `normalise_flush_interval`. -/
def normaliseFlushInterval (value : Nat) : Nat :=
  if 0 < asSecsF64 value then fromSecsF64 (min (asSecsF64 value) backoffMaxSeconds)
  else fromSecs flushSeconds

/-- The state that `TelemetryReporter::new` starts in. -/
def State.new (successSampleRate : Option Rat) (flushInterval : Nat) (instanceId : String) :
    State where
  successSampleRate := normaliseSampleRate successSampleRate
  flushInterval := normaliseFlushInterval flushInterval
  events := []
  eventsSizeBytes := 0
  nextEventId := 0
  currentWindowStart := none
  currentCounters := []
  closedWindows := []
  nextWindowId := 0
  retainedWindowBytes := 0
  droppedSinceLast := 0
  instanceId := instanceId
  seq := 0
  backoff := fromSecs backoffMinSeconds
  backoffUntil := 0
  pausedUntil := 0
  nextFlushAt := 0
  urgentNotBefore := 0
  urgentFlush := false
  disabled := false
  closed := false
  workerStarted := false

/-! ## Windows -/

/-- `window_size`. -/
def Library.windowSize (library : Library) (rows : Counters) : Nat :=
  ((library.countersJson (rows.map fun row => .fromRow row.1 row.2 0)).map len).getD 0

/-- `folded_key`. -/
def foldedKey (key : CounterKey) (endpoint : Bool) : CounterKey :=
  { key with
    endpoint := if endpoint then .inferenceOther else key.endpoint
    errorClass := some .unknown }

/-- `same_but_error_class`. -/
def sameButErrorClass (a b : CounterKey) : Bool :=
  a.level == b.level && a.endpoint == b.endpoint && a.streaming == b.streaming &&
    a.host == b.host && a.outcome == b.outcome && a.httpStatusClass == b.httpStatusClass &&
    a.timeoutPhase == b.timeoutPhase && a.timeoutFloorMet == b.timeoutFloorMet &&
    a.providerPinned == b.providerPinned

/-- `same_but_error_class_and_endpoint`. -/
def sameButErrorClassAndEndpoint (a b : CounterKey) : Bool :=
  a.level == b.level && a.streaming == b.streaming && a.host == b.host &&
    a.outcome == b.outcome && a.httpStatusClass == b.httpStatusClass &&
    a.timeoutPhase == b.timeoutPhase && a.timeoutFloorMet == b.timeoutFloorMet &&
    a.providerPinned == b.providerPinned

/-- `State::minute_start`. -/
def minuteStart (now : Nat) : Nat := fromSecs (asSecs now / 60 * 60)

/-- `State::drop_window`. -/
def dropWindow (window : CounterWindow) (state : State) : State :=
  { state with
    retainedWindowBytes := state.retainedWindowBytes - window.sizeBytes
    droppedSinceLast := U64.saturatingAdd state.droppedSinceLast window.rows.length }

/-- The first loop of `prune_windows`: windows past their retention leave from the front. -/
def pruneExpired (now : Nat) : List CounterWindow → State → State
  | [], state => { state with closedWindows := [] }
  | oldest :: rest, state =>
      if fromSecs retentionSeconds < now - oldest.windowStart then
        pruneExpired now rest (dropWindow oldest state)
      else { state with closedWindows := oldest :: rest }

/-- The second loop of `prune_windows`: windows leave from the front until the rest fits. -/
def pruneOversize (retentionBytes : Nat) : List CounterWindow → State → State
  | [], state => { state with closedWindows := [] }
  | oldest :: rest, state =>
      if retentionBytes < state.retainedWindowBytes then
        pruneOversize retentionBytes rest (dropWindow oldest state)
      else { state with closedWindows := oldest :: rest }

section
variable (reporter : Reporter)

/-- `State::prune_windows`. -/
def pruneWindows (now : Nat) (state : State) : State :=
  let state := pruneExpired now state.closedWindows state
  pruneOversize reporter.retentionBytes state.closedWindows state

/-- The part of `State::close_current_window` that closes the open window. -/
def pushWindow (now windowStart : Nat) (state : State) : State :=
  let sizeBytes := reporter.library.windowSize state.currentCounters
  { state with
    currentCounters := []
    closedWindows := state.closedWindows ++
      [{ id := state.nextWindowId, windowStart, rows := state.currentCounters, sizeBytes }]
    nextWindowId := state.nextWindowId + 1
    retainedWindowBytes := state.retainedWindowBytes + sizeBytes
    currentWindowStart := some (minuteStart now) }

/-- `State::close_current_window`. -/
def closeCurrentWindow (now : Nat) (state : State) : State :=
  match state.currentWindowStart with
  | none => state
  | some windowStart =>
      if state.currentCounters.isEmpty then state
      else pruneWindows reporter now (pushWindow reporter now windowStart state)

/-- `State::roll_window`. -/
def rollWindow (now : Nat) (state : State) : State :=
  match state.currentWindowStart with
  | none => { state with currentWindowStart := some (minuteStart now) }
  | some current =>
      if current < minuteStart now then
        { closeCurrentWindow reporter now state with
          currentWindowStart := some (minuteStart now) }
      else state

end

/-! ## Counters -/

/-- `State::has_key`. -/
def hasKey (counters : Counters) (key : CounterKey) : Bool :=
  counters.any fun row => row.1 == key

/-- `State::refold` at the first row whose key `fits`, if there is one: that row moves to the
end under its folded key. -/
def refold (counters : Counters) (fits : CounterKey → Bool) (endpoint : Bool) :
    Option (CounterKey × Counters) :=
  (counters.find? fun row => fits row.1).map fun row =>
    let target := foldedKey row.1 endpoint
    (target,
      counters.eraseP (fun row => fits row.1) ++ [(target, mergeCounterIncrement {} row.2)])

/-- `State::counter_target`: the key an increment goes to, and the rows, one of which may
have been refolded for it. -/
def counterTarget (counters : Counters) (key : CounterKey) : CounterKey × Counters :=
  if hasKey counters key || counters.length < maxWindowKeys then (key, counters)
  else if hasKey counters (foldedKey key false) then (foldedKey key false, counters)
  else
    match refold counters (fun existing => sameButErrorClass existing key) false with
    | some refolded => refolded
    | none =>
        if hasKey counters (foldedKey key true) then (foldedKey key true, counters)
        else
          match refold counters (fun existing => sameButErrorClassAndEndpoint existing key)
              true with
          | some refolded => refolded
          | none => ((counters.head?.map Prod.fst).getD key, counters)

/-- The increment goes into the first row of its target, or into a new row. -/
def addIncrement (target : CounterKey) (increment : CounterRow) : Counters → Counters
  | [] => [(target, mergeCounterIncrement {} increment)]
  | row :: rest =>
      if row.1 = target then (row.1, mergeCounterIncrement row.2 increment) :: rest
      else row :: addIncrement target increment rest

/-- One turn of the loop in `State::merge_counters`. -/
def mergeCounter (counters : Counters) (entry : CounterKey × CounterRow) : Counters :=
  let (target, counters) := counterTarget counters entry.1
  addIncrement target entry.2 counters

/-- `State::merge_counters`. -/
def mergeCounters (counters : Counters) (state : State) : State :=
  { state with currentCounters := counters.foldl mergeCounter state.currentCounters }

/-! ## Events -/

/-- `State::drop_buffered_event`: the oldest success, or the oldest event. -/
def dropBufferedEvent (state : State) : State :=
  let index := (state.events.findIdx? BufferedEvent.ok).getD 0
  match state.events[index]? with
  | none => state
  | some dropped =>
      { state with
        events := state.events.eraseIdx index
        eventsSizeBytes := state.eventsSizeBytes - dropped.estimatedBytes
        droppedSinceLast := U64.saturatingAdd state.droppedSinceLast 1 }

/-- The event that `append_event` pushes. -/
def BufferedEvent.new (library : Library) (wire : WireEvent) (now id : Nat) :
    BufferedEvent where
  id := id
  wire := wire
  completedAt := now
  estimatedBytes := ((library.eventJson wire).map len).getD fallbackEventBytes
  ok := wire.finalOutcome == "ok"

/-- `State::append_event`. -/
def appendEvent (library : Library) (wire : WireEvent) (now : Nat) (state : State) : State :=
  let state := if maxEvents ≤ state.events.length then dropBufferedEvent state else state
  let buffered := BufferedEvent.new library wire now state.nextEventId
  { state with
    events := state.events ++ [buffered]
    nextEventId := state.nextEventId + 1
    eventsSizeBytes := state.eventsSizeBytes + buffered.estimatedBytes }

/-- `State::urgent`. -/
def State.urgent (state : State) : Bool :=
  urgentEventCount ≤ state.events.length ||
    batchTriggerBytes ≤ state.eventsSizeBytes + state.retainedWindowBytes +
      state.currentCounters.length * openCounterEstimateBytes

/-- `State::gate`. -/
def State.gate (state : State) : Nat := max state.pausedUntil state.backoffUntil

/-- `Inner::sample_reason`, on the draw it would make. -/
def sampleReason (event : RequestEvent) (rate draw : Rat) : Option (SampleReason × Rat) :=
  if !event.finalOutcome.isOk then some (.failure, 1)
  else if 1 < event.attempts.length || event.failoverUsed then some (.retried, 1)
  else if slowMs < event.totalMs then some (.slow, 1)
  else if rate ≤ 0 || rate ≤ draw then none
  else some (.random, rate)

/-- `TelemetryReporter::start_worker`. `runtime` says whether a Tokio runtime is current. -/
def startWorker (runtime : Bool) (now : Nat) (state : State) : State :=
  if state.workerStarted || state.disabled || state.closed || !runtime then state
  else { state with nextFlushAt := now + state.flushInterval, workerStarted := true }

/-- The end of `on_request`. -/
def markUrgent (state : State) : State :=
  if state.urgent then { state with urgentFlush := true } else state

/-- The arguments of one `on_request`: when its clock was read, the sample rate it had read,
its draw, and what the call hands over. -/
structure Record where
  now : Nat
  rate : Rat
  draw : Rat
  runtime : Bool
  event : RequestEvent
  counters : Counters

/-- The sampling decision of `on_request`: the reason, if there is one. -/
def Record.reason (record : Record) : Option (SampleReason × Rat) :=
  sampleReason record.event record.rate record.draw

/-- The event that `on_request` buffers, if there is one. -/
def Record.sampled (record : Record) : Option WireEvent :=
  record.reason.bind fun reason => WireEvent.fromEvent record.event reason.1 reason.2

/-- The call was sampled and the schema cannot carry it. -/
def Record.invalidSample (record : Record) : Bool :=
  record.reason.isSome && record.sampled.isNone

/-- The drop of an invalid sample. -/
def countInvalid (record : Record) (state : State) : State :=
  if record.invalidSample then
    { state with droppedSinceLast := U64.saturatingAdd state.droppedSinceLast 1 }
  else state

/-- The sampled event enters the buffer. -/
def bufferSample (library : Library) (record : Record) (state : State) : State :=
  match record.sampled with
  | some wire => appendEvent library wire record.now state
  | none => state

/-- `TelemetryReporter::on_request`, under the lock. -/
def onRequest (reporter : Reporter) (record : Record) (state : State) : State :=
  if state.disabled || state.closed then state
  else
    let state := rollWindow reporter record.now state
    let state := mergeCounters record.counters state
    let state := countInvalid record state
    let state := bufferSample reporter.library record state
    let state := startWorker record.runtime record.now state
    markUrgent state

/-! ## Batches -/

/-- `millis`. -/
def millis (duration : Nat) : Nat := min (asMillis duration) U64.max

/-- The inner loop of the counter selection, and whether it broke out of both loops. -/
def pushRows (ageMs id : Nat) :
    Counters → List (WireCounter × CounterRef) → List (WireCounter × CounterRef) × Bool
  | [], chosen => (chosen, false)
  | (key, row) :: rest, chosen =>
      if maxBatchCounters ≤ chosen.length then (chosen, true)
      else pushRows ageMs id rest (chosen ++ [(.fromRow key row ageMs, (id, key))])

/-- The outer loop of the counter selection. -/
def pushWindows (now : Nat) :
    List CounterWindow → List (WireCounter × CounterRef) → List (WireCounter × CounterRef)
  | [], chosen => chosen
  | window :: rest, chosen =>
      match pushRows (millis (now - window.windowStart)) window.id window.rows chosen with
      | (chosen, true) => chosen
      | (chosen, false) => pushWindows now rest chosen

/-- The trimming loop of `select_batch`. Every turn takes one item off, so that many turns
as there are items are enough. -/
def trimBatch (library : Library) :
    (fuel : Nat) → WireBatch → List Nat → List CounterRef → Option Selected
  | fuel, batch, eventIds, counterRefs =>
      match library.batchJson batch with
      | none => none
      | some body =>
          if len body ≤ maxBatchBytes then
            some { batch, body, eventIds, counterRefs, dropped := batch.droppedSinceLast }
          else
            match fuel with
            | 0 => none
            | fuel + 1 =>
                if !batch.events.isEmpty then
                  trimBatch library fuel { batch with events := batch.events.dropLast }
                    eventIds.dropLast counterRefs
                else if !batch.counters.isEmpty then
                  trimBatch library fuel { batch with counters := batch.counters.dropLast }
                    eventIds counterRefs.dropLast
                else none

/-- What `WireBatch::new` draws and reads: the batch id and the wall clock. -/
structure Fresh where
  batchId : String
  sentAtMs : Nat

/-- The windows part of `State::select_batch`. -/
def settleWindows (reporter : Reporter) (now : Nat) (state : State) : State :=
  pruneWindows reporter now (closeCurrentWindow reporter now (rollWindow reporter now state))

/-- The events of the next batch before trimming, with their ids. -/
def chooseEvents (now : Nat) (state : State) : List (WireEvent × Nat) :=
  (state.events.take maxBatchEvents).map fun buffered =>
    (buffered.wire.aged (millis (now - buffered.completedAt)), buffered.id)

/-- `State::select_batch`. -/
def selectBatch (reporter : Reporter) (fresh : Fresh) (now : Nat) (state : State) :
    Option Selected × State :=
  let state := settleWindows reporter now state
  let events := chooseEvents now state
  let counters := pushWindows now state.closedWindows []
  if events.isEmpty && counters.isEmpty then (none, state)
  else
    let batch :=
      { WireBatch.new fresh.batchId state.instanceId state.seq reporter.sdk fresh.sentAtMs with
        droppedSinceLast := state.droppedSinceLast
        events := events.map Prod.fst
        counters := counters.map Prod.fst }
    (trimBatch reporter.library (events.length + counters.length) batch
        (events.map Prod.snd) (counters.map Prod.snd),
      { state with seq := state.seq + 1 })

/-- Removes a row from the window of its id, and says whether it was there. -/
def removeRow (ref : CounterRef) : List CounterWindow → List CounterWindow × Bool
  | [] => ([], false)
  | window :: rest =>
      if window.id = ref.1 then
        match window.rows.findIdx? fun row => row.1 == ref.2 with
        | some position =>
            ({ window with rows := window.rows.eraseIdx position } :: rest, true)
        | none => (window :: rest, false)
      else
        let (rest, removed) := removeRow ref rest
        (window :: rest, removed)

/-- One turn of the first loop of `remove_selected`, on the windows and the ids of those that
changed. -/
def removeNext (done : List CounterWindow × List Nat) (ref : CounterRef) :
    List CounterWindow × List Nat :=
  let (windows, removed) := removeRow ref done.1
  (windows, if removed then ref.1 :: done.2 else done.2)

/-- The first loop of `remove_selected`. -/
def removeRows (refs : List CounterRef) (windows : List CounterWindow) :
    List CounterWindow × List Nat :=
  refs.foldl removeNext (windows, [])

/-- The second loop of `remove_selected`: the sizes of the windows that changed, and the
retained bytes. -/
def resizeWindows (library : Library) (changed : List Nat) :
    List CounterWindow → Nat → List CounterWindow × Nat
  | [], retained => ([], retained)
  | window :: rest, retained =>
      if changed.contains window.id then
        let sizeBytes := if window.rows.isEmpty then 0 else library.windowSize window.rows
        let (rest, retained) :=
          resizeWindows library changed rest (retained - window.sizeBytes + sizeBytes)
        ({ window with sizeBytes } :: rest, retained)
      else
        let (rest, retained) := resizeWindows library changed rest retained
        (window :: rest, retained)

/-- `State::remove_selected`. -/
def removeSelected (library : Library) (eventIds : List Nat) (counterRefs : List CounterRef)
    (state : State) : State :=
  let events := state.events.filter fun buffered => !eventIds.contains buffered.id
  let (windows, changed) := removeRows counterRefs state.closedWindows
  let (windows, retained) := resizeWindows library changed windows state.retainedWindowBytes
  { state with
    events
    eventsSizeBytes := (events.map BufferedEvent.estimatedBytes).sum
    closedWindows := windows.filter fun window => !window.rows.isEmpty
    retainedWindowBytes := retained }

/-! ## Responses -/

/-- `State::set_backoff`. -/
def setBackoff (now : Nat) (retryAfter : Option Nat) (state : State) : State :=
  let delay :=
    match retryAfter with
    | some retryAfter => max state.backoff retryAfter
    | none => state.backoff
  let ceiling := fromSecs backoffMaxSeconds
  { state with
    backoffUntil := now + min delay ceiling
    backoff := min (max (state.backoff * 2) (fromSecs backoffMinSeconds)) ceiling }

/-- `State::disable`. -/
def disable (state : State) : State :=
  { state with
    disabled := true
    events := []
    eventsSizeBytes := 0
    currentCounters := []
    closedWindows := []
    retainedWindowBytes := 0
    droppedSinceLast := 0 }

/-- `float_value`. -/
def floatValue (library : Library) : Value → Option Rat
  | .number number => library.asF64 number
  | .string text => library.parseF64 (trim text)
  | _ => none

/-- `apply_policy` on the sample rate: only a lower one. -/
def lowerSampleRate (rate : Option Rat) (state : State) : State :=
  match rate with
  | some rate =>
      if 0 ≤ rate && rate < state.successSampleRate then
        { state with successSampleRate := rate }
      else state
  | none => state

/-- `apply_policy` on the flush interval: only a longer one, up to the ceiling. -/
def lengthenFlushInterval (seconds : Option Rat) (state : State) : State :=
  match seconds with
  | some seconds =>
      if asSecsF64 state.flushInterval < seconds then
        { state with flushInterval := fromSecsF64 (min seconds backoffMaxSeconds) }
      else state
  | none => state

/-- `apply_policy` on the pause: a bounded one, and never an earlier end. -/
def pauseFor (seconds : Option Rat) (now : Nat) (state : State) : State :=
  match seconds with
  | some seconds =>
      if 0 ≤ seconds && seconds ≤ maxPauseSeconds then
        { state with pausedUntil := max state.pausedUntil (now + fromSecsF64 seconds) }
      else state
  | none => state

/-- `State::apply_policy`. -/
def applyPolicy (library : Library) (policy : Value) (now : Nat) (state : State) : State :=
  let read := fun name => (policy.get name).bind (floatValue library)
  let state := lowerSampleRate (read "success_sample_rate") state
  let state := lengthenFlushInterval (read "flush_seconds") state
  pauseFor (read "pause_seconds") now state

/-- `Inner::retry_after`. -/
def retryAfter (library : Library) (headers : HeaderMap) : Option Nat :=
  ((headers.get "retry-after").bind Http.toStr).bind fun value =>
    ((library.parseF64 (trim value)).filter fun (seconds : Rat) =>
      0 ≤ seconds && seconds ≤ maxRetryAfterSeconds).map fromSecsF64

/-- The response turns the beacon off by header. -/
def isOff (headers : HeaderMap) : Bool :=
  ((headers.get "x-tr-telemetry").bind Http.toStr).any fun value =>
    eqIgnoreAsciiCase (trim value) "off"

/-- The policy of a 202, if its body has one. -/
def policyOf (library : Library) (body : Bytes) : Option Value :=
  ((Serde.fromSlice library.read body).toOption.bind fun payload =>
    payload.get "policy").filter Value.isObject

/-- The arm of `handle_response` for 202. -/
def acceptBatch (library : Library) (body : Bytes) (now : Nat) (selected : Selected)
    (state : State) : State :=
  let state := removeSelected library selected.eventIds selected.counterRefs state
  let state :=
    { state with
      droppedSinceLast := state.droppedSinceLast - selected.dropped
      backoff := fromSecs backoffMinSeconds
      backoffUntil := 0 }
  match policyOf library body with
  | some policy => applyPolicy library policy now state
  | none => state

/-- The arm of `handle_response` for 413. -/
def rejectBatch (library : Library) (selected : Selected) (state : State) : State :=
  let state := removeSelected library selected.eventIds selected.counterRefs state
  { state with
    droppedSinceLast := U64.saturatingAdd state.droppedSinceLast
      (selected.eventIds.length + selected.counterRefs.length) }

/-- What `handle_response` reads of a response, and when. -/
structure Answer where
  status : Nat
  headers : HeaderMap
  body : Bytes
  now : Nat

/-- The four things `handle_response` can do. -/
inductive Verdict where
  | disables | accepts | rejects | backsOff
  deriving DecidableEq, Repr

/-- The header check and the `match` on the status in `handle_response`. -/
def Answer.verdict (answer : Answer) : Verdict :=
  if isOff answer.headers then .disables
  else if answer.status = 202 then .accepts
  else if [400, 401, 403, 404, 410].contains answer.status then .disables
  else if answer.status = 413 then .rejects
  else .backsOff

/-- `Inner::handle_response`. -/
def handleResponse (library : Library) (answer : Answer) (selected : Selected)
    (state : State) : State :=
  match answer.verdict with
  | .disables => disable state
  | .accepts => acceptBatch library answer.body answer.now selected state
  | .rejects => rejectBatch library selected state
  | .backsOff => setBackoff answer.now (retryAfter library answer.headers) state

end TrustedRouter.Telemetry
