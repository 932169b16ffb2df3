import TrustedRouter.Proofs.Telemetry.Books
import TrustedRouter.Proofs.Telemetry.Conservation

/-!
# `TrustedRouter.Proofs.Telemetry.Selection`: what a flush selects

`select_batch` closes the open window, prunes, and builds a batch that it trims until the body
fits. `selectBatch_selects` says what comes out of that in any state: nothing only if there is
nothing, and otherwise a body within the limit that has a prefix of the events and a prefix of
the rows, with their names. The prefixes are as long as the limits and the size of the body allow.

The size of a body is known of no serialisation here. `Serialises` is what is assumed of it: it
does not fail, and a batch with one item fits. Under that the trimming loop never takes the last
item off (`trimBatch_progress`). That it ends by itself needs no assumption: turns beyond the
number of items change nothing (`trimBatch_fuel`).
-/

set_option autoImplicit false

namespace TrustedRouter.Proofs.Telemetry

open TrustedRouter.Telemetry
open Rust

/-! ## Closing and pruning -/

/-- The window that closing would add: the open one, if it has rows. -/
def openWindow (reporter : Reporter) (now : Nat) (state : State) : List CounterWindow :=
  if state.currentCounters = [] then []
  else [closingWindow reporter (state.currentWindowStart.getD (minuteStart now)) state]

/-- A later state with the same events and no open row, whose closed windows are the last of
`windows`. -/
structure Settled (windows : List CounterWindow) (state later : State) : Prop where
  events : later.events = state.events
  currentCounters : later.currentCounters = []
  closedWindows : later.closedWindows <:+ windows

/-- Dropping windows touches neither the events nor the open rows. -/
theorem dropWindows_buffers (gone : List CounterWindow) (state : State) :
    (dropWindows gone state).events = state.events ∧
      (dropWindows gone state).currentCounters = state.currentCounters ∧
      (dropWindows gone state).closedWindows = state.closedWindows := by
  induction gone generalizing state with
  | nil => exact ⟨rfl, rfl, rfl⟩
  | cons window rest ih => exact ih (dropWindow window state)

/-- Pruning a state without open rows: the windows that are left are the last ones. -/
theorem settled_pruneWindows (reporter : Reporter) (now : Nat) {state : State}
    (hrows : state.currentCounters = []) :
    Settled state.closedWindows state (pruneWindows reporter now state) := by
  obtain ⟨gone, kept, hsplit, -, hpruned⟩ := pruneWindows_eq reporter now state
  obtain ⟨hevents, hcounters, hwindows⟩ :=
    dropWindows_buffers gone { state with closedWindows := kept }
  rw [hpruned]
  refine ⟨hevents, hcounters.trans hrows, ?_⟩
  rw [hwindows, hsplit]
  exact List.suffix_append gone kept

/-- Pruning once more. -/
theorem Settled.pruneWindows {windows : List CounterWindow} {state later : State}
    (h : Settled windows state later) (reporter : Reporter) (now : Nat) :
    Settled windows state (pruneWindows reporter now later) := by
  have hprune := settled_pruneWindows reporter now h.currentCounters
  exact ⟨hprune.events.trans h.events, hprune.currentCounters,
    hprune.closedWindows.trans h.closedWindows⟩

/-- Closing the open window and pruning: what is left are the last of the windows, with the one
just closed at the end. -/
theorem settled_push (reporter : Reporter) (now windowStart : Nat) (state : State) :
    Settled (state.closedWindows ++ [closingWindow reporter windowStart state]) state
      (pruneWindows reporter now (pushWindow reporter now windowStart state)) := by
  have hpush : Settled (state.closedWindows ++ [closingWindow reporter windowStart state]) state
      (pushWindow reporter now windowStart state) := ⟨rfl, rfl, List.suffix_refl _⟩
  exact hpush.pruneWindows reporter now

/-- The windows part of `select_batch` leaves no open row, keeps the events, and takes windows off
the front only. The open window, if it has rows, is the last of the windows then. -/
theorem settled_settleWindows (reporter : Reporter) (now : Nat) (state : State) :
    Settled (state.closedWindows ++ openWindow reporter now state) state
      (settleWindows reporter now state) := by
  refine Settled.pruneWindows ?_ reporter now
  by_cases hrows : state.currentCounters = []
  · -- Without an open row there is nothing to close, in whichever minute.
    rw [openWindow, if_pos hrows, List.append_nil]
    rcases rollWindow_cases reporter now state with ⟨hroll, -⟩ | ⟨hroll, -⟩ | ⟨_, -, hne, -⟩
    · rw [hroll, closeCurrentWindow_of_nil reporter now hrows]
      exact ⟨rfl, hrows, List.suffix_refl _⟩
    · rw [hroll, closeCurrentWindow_of_nil reporter now (by exact hrows)]
      exact ⟨rfl, hrows, List.suffix_refl _⟩
    · exact absurd hrows hne
  · rw [openWindow, if_neg hrows]
    rcases rollWindow_cases reporter now state with
      ⟨hroll, current, hstart, -⟩ | ⟨hroll, hnone⟩ | ⟨windowStart, hstart, -, -, hroll⟩
    · rw [hroll, closeCurrentWindow_of_ne_nil reporter now hstart hrows, hstart]
      exact settled_push reporter now current state
    · -- The open window had no minute yet, so it closes under this one.
      rw [hroll, closeCurrentWindow_of_ne_nil reporter now (by rfl) (by exact hrows),
        hnone.resolve_right hrows]
      have hpush := settled_push reporter now (minuteStart now)
        { state with currentWindowStart := some (minuteStart now) }
      exact ⟨hpush.events, hpush.currentCounters, hpush.closedWindows⟩
    · -- Rolling has closed it already.
      have hpush := settled_push reporter now windowStart state
      rw [hroll, closeCurrentWindow_of_nil reporter now hpush.currentCounters, hstart]
      exact hpush

/-! ## The trimming loop -/

/-- How many items a batch has. -/
def items (batch : WireBatch) : Nat := batch.events.length + batch.counters.length

/-- A batch without its last event has one item less. -/
theorem items_pop_event {batch : WireBatch} (h : batch.events ≠ []) :
    items { batch with events := batch.events.dropLast } + 1 = items batch := by
  have hlength := List.length_pos_iff.mpr h
  show batch.events.dropLast.length + batch.counters.length + 1 = _
  rw [List.length_dropLast, items]
  omega

/-- So has one without its last counter. -/
theorem items_pop_counter {batch : WireBatch} (h : batch.counters ≠ []) :
    items { batch with counters := batch.counters.dropLast } + 1 = items batch := by
  have hlength := List.length_pos_iff.mpr h
  show batch.events.length + batch.counters.dropLast.length + 1 = _
  rw [List.length_dropLast, items]
  omega

/-- A batch with an item and no event has a counter. -/
theorem counters_ne_nil_of_items {batch : WireBatch} (hevents : batch.events = [])
    (hsome : 0 < items batch) : batch.counters ≠ [] := by
  intro hcounters
  rw [items, hevents, hcounters] at hsome
  exact absurd hsome (Nat.lt_irrefl 0)

/-- What is assumed of the serialisation of a batch and of the batches that trimming makes of
it. -/
structure Serialises (library : Library) (whole : WireBatch) : Prop where
  /-- It never fails. -/
  total : ∀ batch, ∃ body, library.batchJson batch = some body
  /-- A single event or a single counter fits. -/
  single : ∀ events counters, events <+: whole.events → counters <+: whole.counters →
    events.length + counters.length = 1 →
    ∀ body, library.batchJson { whole with events, counters } = some body →
      Str.len body ≤ maxBatchBytes

/-- A batch that is trimmed can still be serialised. -/
theorem Serialises.dropLast_events {library : Library} {batch : WireBatch}
    (h : Serialises library batch) :
    Serialises library { batch with events := batch.events.dropLast } :=
  ⟨h.total, fun events counters hevents hcounters =>
    h.single events counters (hevents.trans (List.dropLast_prefix _)) hcounters⟩

/-- The same for its counters. -/
theorem Serialises.dropLast_counters {library : Library} {batch : WireBatch}
    (h : Serialises library batch) :
    Serialises library { batch with counters := batch.counters.dropLast } :=
  ⟨h.total, fun events counters hevents hcounters =>
    h.single events counters hevents (hcounters.trans (List.dropLast_prefix _))⟩

/-- A batch that does not fit has more than one item, because a single item always fits. -/
theorem Serialises.two_items {library : Library} {batch : WireBatch} {body : String}
    (h : Serialises library batch) (hbody : library.batchJson batch = some body)
    (hlarge : ¬Str.len body ≤ maxBatchBytes)
    (hsome : 0 < items batch) : 1 < items batch := by
  by_contra hone
  have hsingle : items batch = 1 := by omega
  exact hlarge (h.single batch.events batch.counters (List.prefix_refl _) (List.prefix_refl _)
    hsingle body hbody)

section
variable {library : Library} {batch : WireBatch} {body : String}

/-- A batch that does not serialise is not sent. -/
theorem trimBatch_none (hbody : library.batchJson batch = none) (fuel : Nat) (ids : List Nat)
    (refs : List CounterRef) : trimBatch library fuel batch ids refs = none := by
  unfold trimBatch
  rw [hbody]

/-- A batch that does not fit loses its last event, with its id. -/
theorem trimBatch_pop_event (hbody : library.batchJson batch = some body)
    (hlarge : ¬Str.len body ≤ maxBatchBytes) (hevents : batch.events ≠ []) (fuel : Nat)
    (ids : List Nat) (refs : List CounterRef) :
    trimBatch library (fuel + 1) batch ids refs =
      trimBatch library fuel { batch with events := batch.events.dropLast } ids.dropLast
        refs := by
  have hsome : (!batch.events.isEmpty) = true := by
    rw [Bool.not_eq_true', List.isEmpty_eq_false_iff]
    exact hevents
  rw [trimBatch, hbody]
  dsimp only
  rw [if_neg hlarge, if_pos hsome]

/-- Without events it loses its last counter. -/
theorem trimBatch_pop_counter (hbody : library.batchJson batch = some body)
    (hlarge : ¬Str.len body ≤ maxBatchBytes) (hevents : batch.events = [])
    (hcounters : batch.counters ≠ []) (fuel : Nat) (ids : List Nat) (refs : List CounterRef) :
    trimBatch library (fuel + 1) batch ids refs =
      trimBatch library fuel { batch with counters := batch.counters.dropLast } ids
        refs.dropLast := by
  have hnone : ¬(!batch.events.isEmpty) = true := by
    rw [hevents]
    decide
  have hsome : (!batch.counters.isEmpty) = true := by
    rw [Bool.not_eq_true', List.isEmpty_eq_false_iff]
    exact hcounters
  rw [trimBatch, hbody]
  dsimp only
  rw [if_neg hlarge, if_neg hnone, if_pos hsome]

end

/-- The loop returns a batch with an item. The induction is on the fuel. A batch that is too large
has two items at least, so it has one after the next turn. -/
theorem trimBatch_progress {library : Library} {fuel : Nat} {batch : WireBatch} {ids : List Nat}
    {refs : List CounterRef} (h : Serialises library batch) (hfuel : items batch ≤ fuel)
    (hsome : 0 < items batch) :
    ∃ selected, trimBatch library fuel batch ids refs = some selected ∧
      0 < items selected.batch := by
  induction fuel generalizing batch ids refs with
  | zero => exact absurd hfuel (Nat.not_le.mpr hsome)
  | succ fuel ih =>
      obtain ⟨body, hbody⟩ := h.total batch
      by_cases hfits : Str.len body ≤ maxBatchBytes
      · exact ⟨_, trimBatch_of_fits hbody hfits _ _ _, hsome⟩
      · -- Two items at least, so that one is left after this turn.
        have htwo := h.two_items hbody hfits hsome
        by_cases hevents : batch.events = []
        · have hcounters := counters_ne_nil_of_items hevents hsome
          have hpop := items_pop_counter hcounters
          rw [trimBatch_pop_counter hbody hfits hevents hcounters]
          exact ih h.dropLast_counters (by omega) (by omega)
        · have hpop := items_pop_event hevents
          rw [trimBatch_pop_event hbody hfits hevents]
          exact ih h.dropLast_events (by omega) (by omega)

/-- Without items there is nothing to take off, so that the fuel does not matter. -/
theorem trimBatch_empty {library : Library} {batch : WireBatch} (hevents : batch.events = [])
    (hcounters : batch.counters = []) (fuel other : Nat) (ids : List Nat)
    (refs : List CounterRef) :
    trimBatch library fuel batch ids refs = trimBatch library other batch ids refs := by
  have hzero : ∀ fuel, trimBatch library fuel batch ids refs =
      trimBatch library 0 batch ids refs := by
    intro fuel
    cases fuel with
    | zero => rfl
    | succ fuel =>
        rw [trimBatch, trimBatch]
        cases library.batchJson batch with
        | none => rfl
        | some body =>
            dsimp only
            rw [hevents, hcounters]
            rfl
  rw [hzero fuel, hzero other]

/-- The loop ends by itself: it takes no more turns than there are items. So the fuel of the model
is enough, and more of it changes nothing. -/
theorem trimBatch_fuel {library : Library} {fuel : Nat} {batch : WireBatch} {ids : List Nat}
    {refs : List CounterRef} (hfuel : items batch ≤ fuel) (extra : Nat) :
    trimBatch library (fuel + extra) batch ids refs = trimBatch library fuel batch ids refs := by
  induction fuel generalizing batch ids refs with
  | zero =>
      have hnone : batch.events.length + batch.counters.length ≤ 0 := hfuel
      exact trimBatch_empty (List.length_eq_zero_iff.mp (by omega))
        (List.length_eq_zero_iff.mp (by omega)) _ _ _ _
  | succ fuel ih =>
      cases hbody : library.batchJson batch with
      | none => rw [trimBatch_none hbody, trimBatch_none hbody]
      | some body =>
          by_cases hfits : Str.len body ≤ maxBatchBytes
          · rw [trimBatch_of_fits hbody hfits, trimBatch_of_fits hbody hfits]
          · rw [Nat.succ_add]
            by_cases hevents : batch.events = []
            · by_cases hcounters : batch.counters = []
              · exact trimBatch_empty hevents hcounters _ _ _ _
              · have hpop := items_pop_counter hcounters
                rw [trimBatch_pop_counter hbody hfits hevents hcounters,
                  trimBatch_pop_counter hbody hfits hevents hcounters]
                exact ih (by omega)
            · -- A turn takes one item off, so that as much fuel as there are items is enough.
              have hpop := items_pop_event hevents
              rw [trimBatch_pop_event hbody hfits hevents,
                trimBatch_pop_event hbody hfits hevents]
              exact ih (by omega)

/-! ## What is selected -/

/-- A selected batch, of a state whose windows have been settled: so many events and so many
rows, the oldest of each. -/
structure Chosen (library : Library) (now : Nat) (settled : State) (selected : Selected)
    (eventCount rowCount : Nat) : Prop where
  events_le : eventCount ≤ maxBatchEvents ∧ eventCount ≤ settled.events.length
  rows_le : rowCount ≤ maxBatchCounters ∧ rowCount ≤ (closedRows settled).length
  some_item : 0 < eventCount + rowCount
  /-- The events of the body are a prefix of the buffered ones, aged, -/
  events : selected.batch.events = (settled.events.take eventCount).map fun buffered =>
    buffered.wire.aged (millis (now - buffered.completedAt))
  /-- and the ids are theirs. -/
  eventIds : selected.eventIds = (settled.events.take eventCount).map BufferedEvent.id
  /-- The counters of the body are a prefix of the closed rows, in the order of the windows, -/
  counters : selected.batch.counters =
    ((wireWindows now settled.closedWindows).take rowCount).map Prod.fst
  /-- and the references are theirs. -/
  counterRefs : selected.counterRefs = ((closedRows settled).take rowCount).map Prod.fst
  body : library.batchJson selected.batch = some selected.body
  fits : Str.len selected.body ≤ maxBatchBytes
  /-- With an event in the body, only the limit leaves rows out. -/
  all_rows : 0 < eventCount → rowCount = min maxBatchCounters (closedRows settled).length

/-- What `select_batch` does in a state, at a time. -/
structure Selects (reporter : Reporter) (fresh : Fresh) (now : Nat) (state : State) : Prop where
  /-- Closing and pruning leave the events, no open row, and the last of the windows. -/
  settled : Settled (state.closedWindows ++ openWindow reporter now state) state
    (settleWindows reporter now state)
  /-- The trimming loop ends within its turns. -/
  terminates : ∀ extra ids refs,
    let batch := candidate reporter fresh now (settleWindows reporter now state)
    trimBatch reporter.library (items batch + extra) batch ids refs =
      trimBatch reporter.library (items batch) batch ids refs
  /-- Nothing is selected only where there is nothing. -/
  none_iff : (selectBatch reporter fresh now state).1 = none ↔
    (settleWindows reporter now state).events = [] ∧
      closedRows (settleWindows reporter now state) = []
  /-- Otherwise the oldest items are. -/
  some : ∀ selected, (selectBatch reporter fresh now state).1 = some selected →
    ∃ eventCount rowCount,
      Chosen reporter.library now (settleWindows reporter now state) selected eventCount rowCount
  /-- An event within the limit is left out only where it does not fit beside all the rows, -/
  next_event : ∀ selected, (selectBatch reporter fresh now state).1 = .some selected →
    let batch := candidate reporter fresh now (settleWindows reporter now state)
    selected.batch.events.length < batch.events.length →
      TooLarge reporter.library
        { batch with events := batch.events.take (selected.batch.events.length + 1) }
  /-- and a row only where it does not fit without any event. -/
  next_counter : ∀ selected, (selectBatch reporter fresh now state).1 = .some selected →
    let batch := candidate reporter fresh now (settleWindows reporter now state)
    selected.batch.counters.length < batch.counters.length →
      TooLarge reporter.library
        { batch with
          events := []
          counters := batch.counters.take (selected.batch.counters.length + 1) }
  /-- The events and the closed rows stay. -/
  events : (selectBatch reporter fresh now state).2.events = state.events
  closedWindows : (selectBatch reporter fresh now state).2.closedWindows =
    (settleWindows reporter now state).closedWindows

/-- A row of the wire for every closed row. -/
theorem length_wireWindows (now : Nat) (windows : List CounterWindow) :
    (wireWindows now windows).length = (rowsOf windows).length := by
  have hnames := congrArg List.length (map_snd_wireWindows now windows)
  rwa [List.length_map, List.length_map] at hnames

section
variable (reporter : Reporter) (fresh : Fresh) (now : Nat) (state : State)

/-- The candidate has as many events as there are, up to the limit. -/
theorem length_candidate_events : (candidate reporter fresh now state).events.length =
    min maxBatchEvents state.events.length := by
  show ((chooseEvents now state).map Prod.fst).length = _
  rw [List.length_map, chooseEvents, List.length_map, List.length_take]

/-- And as many rows. -/
theorem length_candidate_counters : (candidate reporter fresh now state).counters.length =
    min maxBatchCounters (closedRows state).length := by
  show (((wireWindows now state.closedWindows).take maxBatchCounters).map Prod.fst).length = _
  rw [List.length_map, List.length_take, length_wireWindows]

/-- It has no item only where there is neither an event nor a row. -/
theorem candidate_empty_iff :
    ((candidate reporter fresh now state).events = [] ∧
        (candidate reporter fresh now state).counters = []) ↔
      state.events = [] ∧ closedRows state = [] := by
  have hevents := length_candidate_events reporter fresh now state
  have hcounters := length_candidate_counters reporter fresh now state
  have hlimits : 0 < maxBatchEvents ∧ 0 < maxBatchCounters := by decide
  rw [← List.length_eq_zero_iff, ← List.length_eq_zero_iff, ← List.length_eq_zero_iff,
    ← List.length_eq_zero_iff, hevents, hcounters]
  omega

end

/-- `select_batch` finds an item if there is one, in an event or in a row. -/
theorem selectBatch_progress {reporter : Reporter} {fresh : Fresh} {now : Nat} {state : State}
    (h : Serialises reporter.library
      (candidate reporter fresh now (settleWindows reporter now state)))
    (hsome : ¬((settleWindows reporter now state).events = [] ∧
      closedRows (settleWindows reporter now state) = [])) :
    ∃ selected, (selectBatch reporter fresh now state).1 = some selected ∧
      0 < items selected.batch := by
  rw [← candidate_empty_iff reporter fresh now] at hsome
  rw [selectBatch_eq, if_neg hsome]
  refine trimBatch_progress h (Nat.le_refl _) ?_
  rw [← List.length_eq_zero_iff, ← List.length_eq_zero_iff] at hsome
  rw [items]
  omega

/-- Nothing is selected only where there is nothing: neither an event nor a closed row, after the
windows have been settled. Pruning may have dropped what there was before. -/
theorem selectBatch_eq_none_iff {reporter : Reporter} {fresh : Fresh} {now : Nat} {state : State}
    (h : Serialises reporter.library
      (candidate reporter fresh now (settleWindows reporter now state))) :
    (selectBatch reporter fresh now state).1 = none ↔
      (settleWindows reporter now state).events = [] ∧
        closedRows (settleWindows reporter now state) = [] := by
  constructor
  · intro hnone
    by_contra hsome
    obtain ⟨selected, hselected, -⟩ := selectBatch_progress h hsome
    rw [hnone] at hselected
    cases hselected
  · intro hempty
    rw [selectBatch_eq, if_pos ((candidate_empty_iff reporter fresh now _).mpr hempty)]

/-- What is selected are the oldest items: the candidate has prefixes of the events and of the
rows, and trimming leaves prefixes of these. -/
theorem chosen_of_selectBatch {reporter : Reporter} {fresh : Fresh} {now : Nat} {state : State}
    {selected : Selected}
    (hserialises : Serialises reporter.library
      (candidate reporter fresh now (settleWindows reporter now state)))
    (hselected : (selectBatch reporter fresh now state).1 = some selected) :
    ∃ eventCount rowCount,
      Chosen reporter.library now (settleWindows reporter now state) selected eventCount
        rowCount := by
  obtain ⟨eventCount, rowCount, htrimmed⟩ := trimmed_of_selectBatch hselected
  -- What was selected is what the loop must return, so it has an item.
  obtain ⟨selected', hselected', hitem⟩ := selectBatch_progress hserialises
    fun hempty => by
      rw [(selectBatch_eq_none_iff hserialises).mpr hempty] at hselected
      cases hselected
  rw [hselected] at hselected'
  cases hselected'
  have heventsLe := htrimmed.events_le
  have hrowsLe := htrimmed.counters_le
  have hallRows := htrimmed.all_counters
  have hevents := congrArg WireBatch.events htrimmed.batch
  have hcounters := congrArg WireBatch.counters htrimmed.batch
  have hids := htrimmed.eventIds
  have hrefs := htrimmed.counterRefs
  rw [items, hevents, hcounters, List.length_take, List.length_take] at hitem
  rw [length_candidate_events] at heventsLe
  rw [length_candidate_counters] at hrowsLe hallRows
  have htake : min eventCount maxBatchEvents = eventCount := by omega
  have htakeRows : min rowCount maxBatchCounters = rowCount := by omega
  refine ⟨eventCount, rowCount, by omega, by omega, by omega, ?_, ?_, ?_, ?_, htrimmed.body,
    htrimmed.fits, hallRows⟩
  · rw [hevents]
    show ((chooseEvents now _).map Prod.fst).take eventCount = _
    rw [chooseEvents, ← List.map_take, ← List.map_take, List.take_take, htake, List.map_map]
    rfl
  · rw [hids, chooseEvents, ← List.map_take, ← List.map_take, List.take_take, htake, List.map_map]
    rfl
  · rw [hcounters]
    show (((wireWindows now _).take maxBatchCounters).map Prod.fst).take rowCount = _
    rw [← List.map_take, List.take_take, htakeRows]
  · rw [hrefs, ← List.map_take, List.take_take, htakeRows, List.map_take, map_snd_wireWindows,
      ← List.map_take]

/-- In every state and at every time, `select_batch` ends, selects something if there is
something, within the limits and with the right names, leaves nothing out that would have fit, and
leaves what it selects in place. -/
theorem selectBatch_selects (reporter : Reporter) (fresh : Fresh) (now : Nat) (state : State)
    (hserialises : Serialises reporter.library
      (candidate reporter fresh now (settleWindows reporter now state))) :
    Selects reporter fresh now state := by
  have hsettled := settled_settleWindows reporter now state
  have hsame := selectBatch_state reporter fresh now state
  refine ⟨hsettled, fun extra ids refs => trimBatch_fuel (Nat.le_refl _) extra,
    selectBatch_eq_none_iff hserialises, fun _ => chosen_of_selectBatch hserialises, ?_, ?_,
    hsame.events.trans hsettled.events, hsame.closedWindows⟩
  · intro selected hselected batch hless
    obtain ⟨eventCount, rowCount, htrimmed⟩ := trimmed_of_selectBatch hselected
    have hlength := htrimmed.length_events
    rw [hlength] at hless ⊢
    exact htrimmed.next_event hless
  · intro selected hselected batch hless
    obtain ⟨eventCount, rowCount, htrimmed⟩ := trimmed_of_selectBatch hselected
    have hlength := htrimmed.length_counters
    rw [hlength] at hless ⊢
    exact htrimmed.next_counter hless

/-- The library of the sample flushes serialises every batch, and a single item fits. -/
theorem serialises_flushReporter (batch : WireBatch) :
    Serialises flushReporter.library batch := by
  refine ⟨fun batch => ⟨_, rfl⟩, ?_⟩
  intro events counters _ _ hone body hbody
  cases hbody
  show Str.len (batchHeadJson ++ rowsJson sampleEventJson events.length ++ ",\"counters\":" ++
    rowsJson sampleRowJson counters.length ++ "\x7d") ≤ maxBatchBytes
  have hcases : events.length = 1 ∧ counters.length = 0 ∨
      events.length = 0 ∧ counters.length = 1 := by omega
  rcases hcases with ⟨hevents, hcounters⟩ | ⟨hevents, hcounters⟩
  · rw [hevents, hcounters]
    decide +kernel
  · rw [hevents, hcounters]
    decide +kernel

/-- A reporter with a backlog: 120 failed calls are buffered, and the open window has thirty
rows. -/
def backlog : State :=
  { State.new none 0 "i-1" with
    events := (List.range 120).map failedEvent
    nextEventId := 120
    currentWindowStart := some 0
    currentCounters := Conservation.crowd.take 30 }

/-- The length of a body of the sample library, with an event and a row at least. -/
theorem len_batchJson {batch : WireBatch} {body : String} {events counters : Nat}
    (hbody : flushReporter.library.batchJson batch = some body)
    (hevents : batch.events.length = events + 1)
    (hcounters : batch.counters.length = counters + 1) :
    Str.len body = 254 + 561 * (events + 1) + 353 * (counters + 1) := by
  cases hbody
  rw [hevents, hcounters]
  have hrows := len_rowsJson_succ sampleRowJson counters
  have hlist := len_rowsJson_succ sampleEventJson events
  have hevent : Str.len sampleEventJson = 560 := by decide +kernel
  have hrow : Str.len sampleRowJson = 352 := by decide +kernel
  have hhead : Str.len batchHeadJson = 239 := by decide +kernel
  have hlink : Str.len ",\"counters\":" = 12 := by decide +kernel
  have hend : Str.len "\x7d" = 1 := by decide +kernel
  rw [hevent] at hlist
  rw [hrow] at hrows
  simp only [Str.len, String.utf8ByteSize_append] at hrows hlist hhead hlink hend ⊢
  omega

/-- The flush of the backlog closes the window and carries its thirty rows. Beside them there is
room for 97 events, so three of the hundred that the limit allows are trimmed off, and twenty more
wait. -/
theorem selectBatch_selects_sample :
    Selects flushReporter ⟨"b-1", 0⟩ (Duration.fromSecs 60) backlog ∧
      ∃ selected,
        (selectBatch flushReporter ⟨"b-1", 0⟩ (Duration.fromSecs 60) backlog).1 = some selected ∧
        selected.batch.events.length = 97 ∧ selected.batch.counters.length = 30 := by
  have hselects := selectBatch_selects flushReporter ⟨"b-1", 0⟩ (Duration.fromSecs 60) backlog
    (serialises_flushReporter _)
  have hevents : (settleWindows flushReporter (Duration.fromSecs 60) backlog).events.length =
      120 := by
    rw [hselects.settled.events]
    decide
  have hrows : (closedRows (settleWindows flushReporter (Duration.fromSecs 60)
      backlog)).length = 30 := by
    decide +kernel
  cases hselect : (selectBatch flushReporter ⟨"b-1", 0⟩ (Duration.fromSecs 60) backlog).1 with
  | none =>
      have hnone := (hselects.none_iff.mp hselect).2
      rw [hnone] at hrows
      cases hrows
  | some selected =>
      obtain ⟨eventCount, rowCount, hchosen⟩ := hselects.some selected hselect
      have hcandidate := length_candidate_events flushReporter ⟨"b-1", 0⟩ (Duration.fromSecs 60)
        (settleWindows flushReporter (Duration.fromSecs 60) backlog)
      have hcounters := length_candidate_counters flushReporter ⟨"b-1", 0⟩ (Duration.fromSecs 60)
        (settleWindows flushReporter (Duration.fromSecs 60) backlog)
      have hnext := hselects.next_event selected hselect
      dsimp only at hnext
      rw [hevents, maxBatchEvents] at hcandidate
      rw [hrows, maxBatchCounters] at hcounters
      generalize candidate flushReporter ⟨"b-1", 0⟩ (Duration.fromSecs 60)
        (settleWindows flushReporter (Duration.fromSecs 60) backlog) = batch
        at hcandidate hcounters hnext
      have heventCount : selected.batch.events.length = eventCount := by
        rw [hchosen.events, List.length_map]
        exact List.length_take_of_le hchosen.events_le.2
      have hrowCount : selected.batch.counters.length = rowCount := by
        rw [hchosen.counters, List.length_map]
        refine List.length_take_of_le ?_
        rw [length_wireWindows]
        exact hchosen.rows_le.2
      have hlimit := hchosen.events_le.1
      rw [maxBatchEvents] at hlimit
      -- With fewer than 97 events there is room for another one.
      have henough : 97 ≤ eventCount := by
        by_contra hfew
        obtain ⟨body, hbody, hlarge⟩ := hnext (by omega)
        have hmore : (batch.events.take (selected.batch.events.length + 1)).length =
            eventCount + 1 := by
          rw [List.length_take, heventCount]
          omega
        have hlen := @len_batchJson _ _ eventCount 29 hbody hmore hcounters
        rw [hlen, maxBatchBytes] at hlarge
        omega
      have hall := hchosen.all_rows (by omega)
      rw [hrows, maxBatchCounters] at hall
      have hlen := @len_batchJson _ _ (eventCount - 1) 29 hchosen.body (by omega) (by omega)
      have hfits := hchosen.fits
      rw [hlen, maxBatchBytes] at hfits
      exact ⟨hselects, selected, rfl, by omega, by omega⟩

end TrustedRouter.Proofs.Telemetry
