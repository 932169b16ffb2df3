import TrustedRouter.Lib.Result
import TrustedRouter.Proofs.Telemetry.Invariant

/-!
# `TrustedRouter.Proofs.Telemetry.Batch`: what a batch carries

The two counter loops of `select_batch` take the rows of the closed windows in order, up to
the cap (`pushWindows_eq`). The trimming loop takes items off the end of the batch together
with their names, so what it returns is a prefix of both (`trimBatch_some`).

`Carries` says that the body of a batch is made of items of the state it was selected from.
`Evolves` relates that state to any later one: items leave, or stay as they are, and new ones
come under new names.
-/

set_option autoImplicit false

namespace TrustedRouter.Proofs.Telemetry

open TrustedRouter.Telemetry
open Rust

/-! ## Rows by name -/

/-- The rows of windows, each under its name. -/
def rowsOf (windows : List CounterWindow) : List (CounterRef × CounterRow) :=
  windows.flatMap fun window => window.rows.map fun row => ((window.id, row.1), row.2)

/-- No windows have no rows. -/
@[simp] theorem rowsOf_nil : rowsOf [] = [] := rfl

/-- The rows of windows, one list after the other. -/
@[simp] theorem rowsOf_append (first second : List CounterWindow) :
    rowsOf (first ++ second) = rowsOf first ++ rowsOf second := List.flatMap_append ..

/-- The rows of the first window, under its id. -/
theorem rowsOf_cons (window : CounterWindow) (rest : List CounterWindow) :
    rowsOf (window :: rest) =
      (window.rows.map fun row => ((window.id, row.1), row.2)) ++ rowsOf rest :=
  List.flatMap_cons ..

/-- Rows are counted window by window, so that the loss of a window is counted by the rows it
had. -/
theorem length_rowsOf (windows : List CounterWindow) :
    (rowsOf windows).length = rowCount windows := by
  induction windows with
  | nil => rfl
  | cons window rest ih =>
      rw [rowsOf_cons, List.length_append, List.length_map, ih, rowCount_cons]

/-- A named row stands in the window of that id, under that key. -/
theorem mem_rowsOf {windows : List CounterWindow} {ref : CounterRef} {row : CounterRow} :
    (ref, row) ∈ rowsOf windows ↔
      ∃ window ∈ windows, window.id = ref.1 ∧ (ref.2, row) ∈ window.rows := by
  obtain ⟨id, key⟩ := ref
  simp only [rowsOf, List.mem_flatMap, List.mem_map, Prod.mk.injEq]
  refine exists_congr fun window => and_congr_right fun _ => ?_
  constructor
  · rintro ⟨⟨_, _⟩, hrow, ⟨hid, rfl⟩, rfl⟩
    exact ⟨hid, hrow⟩
  · rintro ⟨hid, hrow⟩
    exact ⟨_, hrow, ⟨hid, rfl⟩, rfl⟩

/-- The closed rows of a state. -/
abbrev closedRows (state : State) : List (CounterRef × CounterRow) :=
  rowsOf state.closedWindows

/-- In well-formed windows every row has its own name: the ids of the windows differ, and so do
the keys in each. -/
theorem WindowsOk.refs_nodup {library : Library} {windows : List CounterWindow}
    {retained nextId : Nat} (h : WindowsOk library windows retained nextId) :
    ((rowsOf windows).map Prod.fst).Nodup := by
  have hrefs : ∀ window : CounterWindow,
      ((window.rows.map fun row => ((window.id, row.1), row.2)).map Prod.fst) =
        (keys window.rows).map fun key => (window.id, key) := by
    intro window
    rw [keys, List.map_map, List.map_map]
    rfl
  rw [rowsOf, List.map_flatMap, List.nodup_flatMap]
  refine ⟨fun window hwindow => ?_, ?_⟩
  · -- Within a window the keys are distinct.
    rw [hrefs]
    exact (h.each window hwindow).rows.keys.map fun _ _ heq => congrArg Prod.snd heq
  · -- Between windows the ids are.
    refine (List.pairwise_map.mp h.ids).imp fun {window other} hlt ref hmem hmem' => ?_
    dsimp only at hmem hmem'
    rw [hrefs] at hmem hmem'
    obtain ⟨_, -, rfl⟩ := List.mem_map.mp hmem
    obtain ⟨_, -, heq⟩ := List.mem_map.mp hmem'
    exact Nat.ne_of_gt hlt (congrArg Prod.fst heq)

/-! ## The counter loops -/

/-- The rows of a window as a batch of `ageMs` would carry them. -/
def wireRows (ageMs id : Nat) (rows : Counters) : List (WireCounter × CounterRef) :=
  rows.map fun row => (.fromRow row.1 row.2 ageMs, (id, row.1))

/-- The rows of all windows as a batch at `now` would carry them. -/
def wireWindows (now : Nat) (windows : List CounterWindow) :
    List (WireCounter × CounterRef) :=
  windows.flatMap fun window =>
    wireRows (millis (now - window.windowStart)) window.id window.rows

/-- The inner loop takes rows up to the cap, and breaks out if one is left over. The induction is
on the rows, and `chosen` is what the earlier windows gave. -/
theorem pushRows_eq (ageMs id : Nat) (rows : Counters)
    {chosen : List (WireCounter × CounterRef)} (h : chosen.length ≤ maxBatchCounters) :
    pushRows ageMs id rows chosen =
      (chosen ++ (wireRows ageMs id rows).take (maxBatchCounters - chosen.length),
        decide (maxBatchCounters < chosen.length + rows.length)) := by
  induction rows generalizing chosen with
  | nil =>
      rw [pushRows, wireRows, List.map_nil, List.take_nil, List.append_nil, List.length_nil,
        decide_eq_false (by omega)]
  | cons row rest ih =>
      rw [pushRows]
      by_cases hfull : maxBatchCounters ≤ chosen.length
      · -- The batch is full before this row: the loop breaks, and says so.
        have hnone : maxBatchCounters - chosen.length = 0 := by omega
        rw [if_pos hfull, hnone, List.take_zero, List.append_nil, List.length_cons,
          decide_eq_true (by omega)]
      · -- There is room for one more, and the rest goes on from a longer batch.
        have hroom : (chosen ++ [(WireCounter.fromRow row.1 row.2 ageMs, (id, row.1))]).length =
            chosen.length + 1 := by simp
        have hleft : maxBatchCounters - chosen.length =
            maxBatchCounters - (chosen.length + 1) + 1 := by omega
        have hcount : chosen.length + 1 + rest.length = chosen.length + (row :: rest).length := by
          rw [List.length_cons]
          omega
        rw [if_neg hfull, ih (by omega), hroom, hleft, List.append_assoc, hcount]
        rfl

/-- The outer loop takes the rows of all windows in order, up to the cap. -/
theorem pushWindows_eq (now : Nat) (windows : List CounterWindow)
    {chosen : List (WireCounter × CounterRef)} (h : chosen.length ≤ maxBatchCounters) :
    pushWindows now windows chosen =
      chosen ++ (wireWindows now windows).take (maxBatchCounters - chosen.length) := by
  induction windows generalizing chosen with
  | nil => simp [pushWindows, wireWindows]
  | cons window rest ih =>
      have hlength : (wireRows (millis (now - window.windowStart)) window.id
          window.rows).length = window.rows.length := List.length_map ..
      rw [pushWindows, pushRows_eq _ _ _ h, wireWindows, List.flatMap_cons, List.take_append,
        hlength]
      by_cases hfull : maxBatchCounters < chosen.length + window.rows.length
      · -- The batch is full within this window, and no later window is looked at.
        have hnone : maxBatchCounters - chosen.length - window.rows.length = 0 := by omega
        rw [decide_eq_true hfull, hnone, List.take_zero, List.append_nil]
      · have hall : (wireRows (millis (now - window.windowStart)) window.id window.rows).take
            (maxBatchCounters - chosen.length) =
              wireRows (millis (now - window.windowStart)) window.id window.rows :=
          List.take_of_length_le (by omega)
        rw [decide_eq_false hfull, hall]
        dsimp only
        rw [ih (by rw [List.length_append]; omega), List.length_append, hlength, Nat.sub_sub,
          List.append_assoc]
        rfl

/-! ## The trimming loop -/

/-- The body of a batch is past the limit. -/
def TooLarge (library : Library) (batch : WireBatch) : Prop :=
  ∃ body, library.batchJson batch = some body ∧ maxBatchBytes < Str.len body

/-- One turn of the trimming loop: the body fits, or it is too large and the last event goes, or
the last counter does. Counters go only when there are no events left. -/
theorem trimBatch_cases {library : Library} {fuel : Nat} {batch : WireBatch}
    {eventIds : List Nat} {refs : List CounterRef} {selected : Selected}
    (h : trimBatch library fuel batch eventIds refs = some selected) :
    (∃ body, library.batchJson batch = some body ∧ Str.len body ≤ maxBatchBytes ∧
      selected = ⟨batch, body, eventIds, refs, batch.droppedSinceLast⟩) ∨
    ∃ fewer, fuel = fewer + 1 ∧ TooLarge library batch ∧
      (batch.events ≠ [] ∧
          trimBatch library fewer { batch with events := batch.events.dropLast }
            eventIds.dropLast refs = some selected ∨
        batch.events = [] ∧
          trimBatch library fewer { batch with counters := batch.counters.dropLast }
            eventIds refs.dropLast = some selected) := by
  unfold trimBatch at h
  split at h
  · cases h
  · rename_i body hbody
    split at h
    · -- The body fits.
      rename_i hfits
      cases h
      exact .inl ⟨body, hbody, hfits, rfl⟩
    · rename_i hlarge
      split at h
      · cases h
      · rename_i fewer
        -- The body is too large. An event goes first, and a counter only when there are no
        -- events.
        refine .inr ⟨fewer, rfl, ⟨body, hbody, Nat.lt_of_not_le hlarge⟩, ?_⟩
        split at h
        · rename_i hevents
          rw [Bool.not_eq_true', List.isEmpty_eq_false_iff] at hevents
          exact .inl ⟨hevents, h⟩
        · rename_i hevents
          rw [Bool.not_eq_true', Bool.not_eq_false, List.isEmpty_iff] at hevents
          split at h
          · exact .inr ⟨hevents, h⟩
          · cases h

/-- A body that fits is not trimmed, with whatever fuel there is. -/
theorem trimBatch_of_fits {library : Library} {batch : WireBatch} {body : String}
    (hbody : library.batchJson batch = some body) (hfits : Str.len body ≤ maxBatchBytes)
    (fuel : Nat) (eventIds : List Nat) (refs : List CounterRef) :
    trimBatch library fuel batch eventIds refs =
      some ⟨batch, body, eventIds, refs, batch.droppedSinceLast⟩ := by
  unfold trimBatch
  rw [hbody]
  exact if_pos hfits

/-- What trimming makes of a batch: a prefix of the events and one of the counters, with the
names of exactly those, in a body that fits. While there is an event left, no counter has
gone. The prefixes are the longest ones: one more item, and the body does not fit. -/
structure Trimmed (library : Library) (whole : WireBatch) (ids : List Nat)
    (refs : List CounterRef) (selected : Selected) (events counters : Nat) : Prop where
  batch : selected.batch =
    { whole with
      events := whole.events.take events
      counters := whole.counters.take counters }
  eventIds : selected.eventIds = ids.take events
  counterRefs : selected.counterRefs = refs.take counters
  dropped : selected.dropped = whole.droppedSinceLast
  body : library.batchJson selected.batch = some selected.body
  fits : Str.len selected.body ≤ maxBatchBytes
  events_le : events ≤ whole.events.length
  counters_le : counters ≤ whole.counters.length
  all_counters : 0 < events → counters = whole.counters.length
  next_event : events < whole.events.length →
    TooLarge library { whole with events := whole.events.take (events + 1) }
  next_counter : counters < whole.counters.length →
    TooLarge library
      { whole with
        events := []
        counters := whole.counters.take (counters + 1) }

/-- A trimmed batch has as many events as it says, since a prefix of the whole list is taken. -/
theorem Trimmed.length_events {library : Library} {whole : WireBatch} {ids : List Nat}
    {refs : List CounterRef} {selected : Selected} {events counters : Nat}
    (h : Trimmed library whole ids refs selected events counters) :
    selected.batch.events.length = events := by
  rw [h.batch]
  exact List.length_take_of_le h.events_le

/-- And as many counters. -/
theorem Trimmed.length_counters {library : Library} {whole : WireBatch} {ids : List Nat}
    {refs : List CounterRef} {selected : Selected} {events counters : Nat}
    (h : Trimmed library whole ids refs selected events counters) :
    selected.batch.counters.length = counters := by
  rw [h.batch]
  exact List.length_take_of_le h.counters_le

/-- A batch that fits keeps all of its items. -/
theorem Trimmed.whole {library : Library} {batch : WireBatch} {body : String}
    {eventIds : List Nat} {refs : List CounterRef} (hbody : library.batchJson batch = some body)
    (hfits : Str.len body ≤ maxBatchBytes) (hevents : eventIds.length = batch.events.length)
    (hcounters : refs.length = batch.counters.length) :
    Trimmed library batch eventIds refs ⟨batch, body, eventIds, refs, batch.droppedSinceLast⟩
      batch.events.length batch.counters.length where
  batch := by rw [List.take_length, List.take_length]
  eventIds := by rw [← hevents, List.take_length]
  counterRefs := by rw [← hcounters, List.take_length]
  dropped := rfl
  body := hbody
  fits := hfits
  events_le := Nat.le_refl _
  counters_le := Nat.le_refl _
  all_counters := fun _ => rfl
  next_event := fun hless => absurd hless (Nat.lt_irrefl _)
  next_counter := fun hless => absurd hless (Nat.lt_irrefl _)

/-- Trimming a batch that is too large, without its last event, trims the batch. -/
theorem Trimmed.of_dropLast_events {library : Library} {batch : WireBatch} {eventIds : List Nat}
    {refs : List CounterRef} {selected : Selected} {events counters : Nat}
    (hevents : eventIds.length = batch.events.length) (hlarge : TooLarge library batch)
    (h : Trimmed library { batch with events := batch.events.dropLast } eventIds.dropLast refs
      selected events counters) :
    Trimmed library batch eventIds refs selected events counters := by
  have hle : events ≤ batch.events.length - 1 := by
    have hle := h.events_le
    rwa [List.length_dropLast] at hle
  have hbatch := h.batch
  have hids := h.eventIds
  rw [List.dropLast_eq_take, List.take_take, Nat.min_eq_left hle] at hbatch
  rw [List.dropLast_eq_take, List.take_take, hevents, Nat.min_eq_left hle] at hids
  refine ⟨hbatch, hids, h.counterRefs, h.dropped, h.body, h.fits,
    Nat.le_trans hle (Nat.sub_le _ _), h.counters_le, h.all_counters, ?_, h.next_counter⟩
  intro hless
  by_cases hlast : events + 1 = batch.events.length
  · -- The event that went first is the next one, and the batch did not fit with it.
    rw [hlast, List.take_length]
    exact hlarge
  · have hnext := h.next_event (by rw [List.length_dropLast]; omega)
    rw [List.dropLast_eq_take, List.take_take, Nat.min_eq_left (by omega)] at hnext
    exact hnext

/-- So does trimming a batch without events, without its last counter. -/
theorem Trimmed.of_dropLast_counters {library : Library} {batch : WireBatch}
    {eventIds : List Nat} {refs : List CounterRef} {selected : Selected} {events counters : Nat}
    (hnone : batch.events = []) (hcounters : refs.length = batch.counters.length)
    (hlarge : TooLarge library batch)
    (h : Trimmed library { batch with counters := batch.counters.dropLast } eventIds
      refs.dropLast selected events counters) :
    Trimmed library batch eventIds refs selected events counters := by
  -- A prefix of the shorter list is one of the longer list, with the same length.
  have hle : counters ≤ batch.counters.length - 1 := by
    have hle := h.counters_le
    rwa [List.length_dropLast] at hle
  have hbatch := h.batch
  have hrefs := h.counterRefs
  rw [List.dropLast_eq_take, List.take_take, Nat.min_eq_left hle] at hbatch
  rw [List.dropLast_eq_take, List.take_take, hcounters, Nat.min_eq_left hle] at hrefs
  have hzero : events ≤ batch.events.length := h.events_le
  rw [hnone, List.length_nil] at hzero
  refine ⟨hbatch, h.eventIds, hrefs, h.dropped, h.body, h.fits, h.events_le,
    Nat.le_trans hle (Nat.sub_le _ _), ?_, ?_, ?_⟩
  · intro hpos
    omega
  · intro hless
    rw [hnone, List.length_nil] at hless
    omega
  · intro hless
    -- The batch with one counter more is the whole batch, or one that was too large in the
    -- shorter loop.
    by_cases hlast : counters + 1 = batch.counters.length
    · rw [hlast, List.take_length, ← hnone]
      exact hlarge
    · have hnext := h.next_counter (by rw [List.length_dropLast]; omega)
      rw [List.dropLast_eq_take, List.take_take, Nat.min_eq_left (by omega)] at hnext
      exact hnext

/-- Whatever the loop returns is the batch, trimmed. -/
theorem trimBatch_some {library : Library} {fuel : Nat} {batch : WireBatch}
    {eventIds : List Nat} {refs : List CounterRef} {selected : Selected}
    (h : trimBatch library fuel batch eventIds refs = some selected)
    (hevents : eventIds.length = batch.events.length)
    (hcounters : refs.length = batch.counters.length) :
    ∃ events counters, Trimmed library batch eventIds refs selected events counters := by
  induction fuel generalizing batch eventIds refs with
  | zero =>
      rcases trimBatch_cases h with ⟨body, hbody, hfits, rfl⟩ | ⟨_, hfuel, -⟩
      · exact ⟨_, _, .whole hbody hfits hevents hcounters⟩
      · cases hfuel
  | succ fuel ih =>
      rcases trimBatch_cases h with
        ⟨body, hbody, hfits, rfl⟩ | ⟨_, hfuel, hlarge, ⟨-, hnext⟩ | ⟨hnone, hnext⟩⟩
      · exact ⟨_, _, .whole hbody hfits hevents hcounters⟩
      · cases hfuel
        obtain ⟨events, counters, htrimmed⟩ :=
          ih hnext (by rw [List.length_dropLast, List.length_dropLast, hevents]) hcounters
        exact ⟨events, counters, htrimmed.of_dropLast_events hevents hlarge⟩
      · cases hfuel
        obtain ⟨events, counters, htrimmed⟩ :=
          ih hnext hevents (by rw [List.length_dropLast, List.length_dropLast, hcounters])
        exact ⟨events, counters, htrimmed.of_dropLast_counters hnone hcounters hlarge⟩

/-! ## The batch -/

/-- The batch that `select_batch` starts from, before trimming. -/
def candidate (reporter : Reporter) (fresh : Fresh) (now : Nat) (state : State) : WireBatch :=
  { WireBatch.new fresh.batchId state.instanceId state.seq reporter.sdk fresh.sentAtMs with
    droppedSinceLast := state.droppedSinceLast
    events := (chooseEvents now state).map Prod.fst
    counters := ((wireWindows now state.closedWindows).take maxBatchCounters).map Prod.fst }

/-- `select_batch` trims the candidate of the settled state, if that has an item. -/
theorem selectBatch_eq (reporter : Reporter) (fresh : Fresh) (now : Nat) (state : State) :
    let settled := settleWindows reporter now state
    let batch := candidate reporter fresh now settled
    (selectBatch reporter fresh now state).1 =
      if batch.events = [] ∧ batch.counters = [] then none
      else
        trimBatch reporter.library (batch.events.length + batch.counters.length) batch
          ((chooseEvents now settled).map Prod.snd)
          (((wireWindows now settled.closedWindows).take maxBatchCounters).map Prod.snd) := by
  intro settled batch
  have hrows : pushWindows now settled.closedWindows [] =
      (wireWindows now settled.closedWindows).take maxBatchCounters := by
    rw [pushWindows_eq _ _ (Nat.zero_le _), List.nil_append]
    rfl
  -- The source looks whether the lists with the ids are empty, and the batch has the lists
  -- without.
  have hempty : ((chooseEvents now settled).isEmpty &&
      (pushWindows now settled.closedWindows []).isEmpty) = true ↔
        batch.events = [] ∧ batch.counters = [] := by
    rw [hrows, Bool.and_eq_true, List.isEmpty_iff, List.isEmpty_iff]
    show _ ↔ (chooseEvents now settled).map Prod.fst = [] ∧
      ((wireWindows now settled.closedWindows).take maxBatchCounters).map Prod.fst = []
    rw [List.map_eq_nil_iff, List.map_eq_nil_iff]
  unfold selectBatch
  dsimp only
  by_cases hnone : batch.events = [] ∧ batch.counters = []
  · rw [if_pos hnone, if_pos (hempty.mpr hnone)]
  · rw [if_neg hnone, if_neg (mt hempty.mp hnone), hrows]
    show trimBatch _ _ _ _ _ = trimBatch _
      (((chooseEvents now settled).map Prod.fst).length +
        (((wireWindows now settled.closedWindows).take maxBatchCounters).map Prod.fst).length)
      _ _ _
    rw [List.length_map, List.length_map]
    rfl

/-- A selected batch is the candidate, trimmed. -/
theorem trimmed_of_selectBatch {reporter : Reporter} {fresh : Fresh} {now : Nat} {state : State}
    {selected : Selected} (h : (selectBatch reporter fresh now state).1 = some selected) :
    ∃ events counters, Trimmed reporter.library
      (candidate reporter fresh now (settleWindows reporter now state))
      ((chooseEvents now (settleWindows reporter now state)).map Prod.snd)
      (((wireWindows now (settleWindows reporter now state).closedWindows).take
        maxBatchCounters).map Prod.snd) selected events counters := by
  rw [selectBatch_eq] at h
  split at h
  · cases h
  · refine trimBatch_some h ?_ ?_
    · exact (List.length_map ..).trans (List.length_map ..).symm
    · exact (List.length_map ..).trans (List.length_map ..).symm

/-- A selected batch carries a prefix of the buffered events and a prefix of the closed rows,
under their names, and the drop count as it stands. -/
theorem selectBatch_some {reporter : Reporter} {fresh : Fresh} {now : Nat} {state : State}
    {selected : Selected} (h : (selectBatch reporter fresh now state).1 = some selected) :
    ∃ events counters,
      selected.batch.events =
        ((chooseEvents now (settleWindows reporter now state)).take events).map Prod.fst ∧
      selected.eventIds =
        ((chooseEvents now (settleWindows reporter now state)).take events).map Prod.snd ∧
      selected.batch.counters =
        ((wireWindows now (settleWindows reporter now state).closedWindows).take
          counters).map Prod.fst ∧
      selected.counterRefs =
        ((wireWindows now (settleWindows reporter now state).closedWindows).take
          counters).map Prod.snd ∧
      selected.dropped = (settleWindows reporter now state).droppedSinceLast ∧
      reporter.library.batchJson selected.batch = some selected.body := by
  obtain ⟨events, counters, htrimmed⟩ := trimmed_of_selectBatch h
  have hwires := congrArg WireBatch.events htrimmed.batch
  have hcounters := congrArg WireBatch.counters htrimmed.batch
  have hids := htrimmed.eventIds
  have hrefs := htrimmed.counterRefs
  -- The candidate already has at most as many counters as a batch may have, so that two prefixes
  -- are taken.
  dsimp only [candidate] at hwires hcounters
  rw [← List.map_take] at hwires hids
  rw [← List.map_take, List.take_take] at hcounters hrefs
  exact ⟨events, _, hwires, hids, hcounters, hrefs, htrimmed.dropped, htrimmed.body⟩

/-- The body of a batch is made of items of the state: one event a name, one closed row a
name, each with an age. -/
structure Carries (library : Library) (selected : Selected) (state : State) : Prop where
  body : library.batchJson selected.batch = some selected.body
  events : List.Forall₂
    (fun id wire => ∃ buffered ∈ state.events, buffered.id = id ∧
      ∃ ageMs, wire = buffered.wire.aged ageMs)
    selected.eventIds selected.batch.events
  rows : List.Forall₂
    (fun ref counter => ∃ row, (ref, row) ∈ closedRows state ∧
      ∃ ageMs, counter = WireCounter.fromRow ref.2 row ageMs)
    selected.counterRefs selected.batch.counters

/-- The batch names no event that the state does not have, so that removing it removes what was
sent. -/
theorem Carries.exists_event {library : Library} {selected : Selected} {state : State}
    (h : Carries library selected state) {id : Nat} (hid : id ∈ selected.eventIds) :
    ∃ buffered ∈ state.events, buffered.id = id := by
  obtain ⟨_, -, buffered, hbuffered, heq, -⟩ := Result.exists_mem_of_forall₂ h.events hid
  exact ⟨buffered, hbuffered, heq⟩

/-- And no row. -/
theorem Carries.exists_row {library : Library} {selected : Selected} {state : State}
    (h : Carries library selected state) {ref : CounterRef}
    (href : ref ∈ selected.counterRefs) : ∃ row, (ref, row) ∈ closedRows state := by
  obtain ⟨_, -, row, hrow, -⟩ := Result.exists_mem_of_forall₂ h.rows href
  exact ⟨row, hrow⟩

/-- The rows of the wire are the closed rows, with an age. -/
theorem mem_wireWindows {now : Nat} {windows : List CounterWindow}
    {entry : WireCounter × CounterRef} (h : entry ∈ wireWindows now windows) :
    ∃ row, (entry.2, row) ∈ rowsOf windows ∧
      ∃ ageMs, entry.1 = .fromRow entry.2.2 row ageMs := by
  obtain ⟨window, hwindow, hentry⟩ := List.mem_flatMap.mp h
  obtain ⟨row, hrow, rfl⟩ := List.mem_map.mp hentry
  exact ⟨row.2, mem_rowsOf.mpr ⟨window, hwindow, rfl, hrow⟩, _, rfl⟩

/-- They are named as the closed rows, in the same order, from the oldest window on. -/
theorem map_snd_wireWindows (now : Nat) (windows : List CounterWindow) :
    (wireWindows now windows).map Prod.snd = (rowsOf windows).map Prod.fst := by
  rw [wireWindows, rowsOf, List.map_flatMap, List.map_flatMap]
  simp only [wireRows, List.map_map]
  rfl

/-- An event of the wire is one of the buffer, with an age. -/
theorem mem_chooseEvents {now : Nat} {state : State} {entry : WireEvent × Nat}
    (h : entry ∈ chooseEvents now state) :
    ∃ buffered ∈ state.events, buffered.id = entry.2 ∧
      ∃ ageMs, entry.1 = buffered.wire.aged ageMs := by
  obtain ⟨buffered, hbuffered, rfl⟩ := List.mem_map.mp h
  exact ⟨buffered, List.mem_of_mem_take hbuffered, rfl, _, rfl⟩

/-- A batch carries items of the state that `select_batch` leaves behind. -/
theorem carries_selectBatch {reporter : Reporter} {fresh : Fresh} {now : Nat} {state : State}
    {selected : Selected} (h : (selectBatch reporter fresh now state).1 = some selected) :
    Carries reporter.library selected (selectBatch reporter fresh now state).2 := by
  have hsame := selectBatch_state reporter fresh now state
  obtain ⟨events, counters, hwires, hids, hcounters, hrefs, -, hbody⟩ := selectBatch_some h
  refine ⟨hbody, ?_, ?_⟩
  · rw [hwires, hids, List.forall₂_map_left_iff, List.forall₂_map_right_iff, List.forall₂_same,
      hsame.events]
    exact fun entry hentry => mem_chooseEvents (List.mem_of_mem_take hentry)
  · rw [hcounters, hrefs, List.forall₂_map_left_iff, List.forall₂_map_right_iff,
      List.forall₂_same, closedRows, hsame.closedWindows]
    exact fun entry hentry => mem_wireWindows (List.mem_of_mem_take hentry)

/-- The names of a batch are distinct, if those of the state are: a batch takes from each of the
two lists in order. -/
theorem nodup_selectBatch {reporter : Reporter} {fresh : Fresh} {now : Nat} {state : State}
    {selected : Selected} (hok : WellFormed reporter state)
    (h : (selectBatch reporter fresh now state).1 = some selected) :
    selected.eventIds.Nodup ∧ selected.counterRefs.Nodup := by
  have hsettled := hok.settleWindows now
  obtain ⟨events, counters, -, hids, -, hrefs, -, -⟩ := selectBatch_some h
  refine ⟨?_, ?_⟩
  · have hchosen : (chooseEvents now (settleWindows reporter now state)).map Prod.snd =
        ((settleWindows reporter now state).events.take maxBatchEvents).map BufferedEvent.id :=
      List.map_map ..
    have hnodup : ((settleWindows reporter now state).events.map BufferedEvent.id).Nodup :=
      hsettled.events.ids.imp Nat.ne_of_lt
    rw [hids, List.map_take, hchosen]
    exact (List.take_sublist ..).nodup (((List.take_sublist ..).map _).nodup hnodup)
  · rw [hrefs, List.map_take, map_snd_wireWindows]
    exact (List.take_sublist ..).nodup hsettled.windows.refs_nodup

/-! ## Later states -/

/-- Items leave or stay as they are, and new ones have new names. -/
structure Evolves (state later : State) : Prop where
  events : ∀ buffered ∈ later.events,
    buffered ∈ state.events ∨ state.nextEventId ≤ buffered.id
  rows : ∀ entry ∈ closedRows later,
    entry ∈ closedRows state ∨ state.nextWindowId ≤ entry.1.1
  nextEventId : state.nextEventId ≤ later.nextEventId
  nextWindowId : state.nextWindowId ≤ later.nextWindowId

/-- Nothing has changed. -/
theorem Evolves.refl (state : State) : Evolves state state :=
  ⟨fun _ h => .inl h, fun _ h => .inl h, Nat.le_refl _, Nat.le_refl _⟩

/-- A state evolves over a run as it does over its steps. -/
theorem Evolves.trans {a b c : State} (hab : Evolves a b) (hbc : Evolves b c) :
    Evolves a c := by
  refine ⟨?_, ?_, Nat.le_trans hab.nextEventId hbc.nextEventId,
    Nat.le_trans hab.nextWindowId hbc.nextWindowId⟩
  · intro buffered hbuffered
    rcases hbc.events buffered hbuffered with hold | hnew
    · exact hab.events buffered hold
    · exact .inr (Nat.le_trans hab.nextEventId hnew)
  · intro entry hentry
    rcases hbc.rows entry hentry with hold | hnew
    · exact hab.rows entry hold
    · exact .inr (Nat.le_trans hab.nextWindowId hnew)

/-- Untouched buffers have not changed. -/
theorem SameBuffers.evolves {state state' : State} (h : SameBuffers state state') :
    Evolves state state' where
  events := fun _ hbuffered => .inl (h.events ▸ hbuffered)
  rows := fun _ hentry => .inl (by rw [closedRows, h.closedWindows] at hentry; exact hentry)
  nextEventId := Nat.le_of_eq h.nextEventId.symm
  nextWindowId := Nat.le_of_eq h.nextWindowId.symm

/-- A closed row was closed before the windows settled, or it was open and has the next window's
id. -/
theorem Settles.row_cases {reporter : Reporter} {state state' : State}
    (h : Settles reporter state state') {ref : CounterRef} {row : CounterRow}
    (hrow : (ref, row) ∈ rowsOf state'.closedWindows) :
    (ref, row) ∈ rowsOf state.closedWindows ∨
      state.nextWindowId = ref.1 ∧ (ref.2, row) ∈ state.currentCounters := by
  obtain ⟨closing, gone, kept, start, retained, hclosing, hsplit, rfl⟩ := h.windows
  have hmem : (ref, row) ∈ rowsOf (state.closedWindows ++ closing) := by
    rw [hsplit, rowsOf_append]
    exact List.mem_append_right _ hrow
  rw [rowsOf_append] at hmem
  rcases List.mem_append.mp hmem with hold | hnew
  · exact .inl hold
  · rcases hclosing with ⟨rfl, -⟩ | ⟨windowStart, -, -, rfl⟩
    · cases hnew
    · obtain ⟨window, hwindow, hid, hopen⟩ := mem_rowsOf.mp hnew
      rw [List.mem_singleton.mp hwindow] at hid hopen
      exact .inr ⟨hid, hopen⟩

/-- Settling closes rows under a new window id and drops closed ones. A closed row is never
changed, which is what makes its name last. -/
theorem Settles.evolves {reporter : Reporter} {state state' : State}
    (h : Settles reporter state state') : Evolves state state' := by
  have hrows : ∀ entry ∈ rowsOf state'.closedWindows,
      entry ∈ rowsOf state.closedWindows ∨ state.nextWindowId ≤ entry.1.1 := fun _ hentry =>
    (h.row_cases hentry).imp_right fun hnew => Nat.le_of_eq hnew.1
  obtain ⟨closing, gone, kept, start, retained, -, -, rfl⟩ := h.windows
  exact ⟨fun _ hbuffered => .inl hbuffered, hrows, Nat.le_refl _, Nat.le_add_right _ _⟩

/-- Recording a call adds an event under a new id, may evict one, and leaves the closed rows that
settling leaves. -/
theorem Recorded.evolves {reporter : Reporter} {record : Record} {state state' : State}
    (h : Recorded reporter record state state') (hdropped : state.droppedSinceLast ≤ U64.max) :
    Evolves state state' := by
  have hroll := (settles_rollWindow reporter record.now hdropped).evolves
  obtain ⟨before, evicted, after, fresh, hsplit, -, hfresh, hevents, hnext, -⟩ := h.events
  refine ⟨?_, ?_, ?_, ?_⟩
  · intro buffered hbuffered
    rw [hevents] at hbuffered
    rcases List.mem_append.mp hbuffered with hold | hnew
    · -- An old event that is still there was there before the eviction.
      rw [hsplit]
      refine .inl (List.Sublist.subset ?_ hold)
      exact (List.sublist_append_left before evicted).append_right after
    · rcases hfresh with rfl | ⟨added, hid, rfl⟩
      · cases hnew
      · rw [List.mem_singleton.mp hnew]
        exact .inr (Nat.le_of_eq hid.symm)
  · rw [closedRows, h.closedWindows]
    exact hroll.rows
  · rw [hnext]
    exact Nat.le_add_right _ _
  · rw [h.nextWindowId]
    exact hroll.nextWindowId

end TrustedRouter.Proofs.Telemetry
