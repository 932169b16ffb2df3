import TrustedRouter.Telemetry.Flush

/-!
# `TrustedRouter.Proofs.Telemetry.Events`: the event buffer

`append_event` makes room by at most one event, the `victim`, and puts the new one at the
end (`appendEvent_eq`). So ids stay ascending and the buffer stays within its cap.

`SameBuffers` relates two states that differ only in timing, policy and flags.
-/

set_option autoImplicit false

namespace TrustedRouter.Proofs.Telemetry

open TrustedRouter.Telemetry
open Rust

/-! ## States with the same buffers -/

/-- The two states hold the same events, rows and drop count. -/
structure SameBuffers (state state' : State) : Prop where
  events : state'.events = state.events
  eventsSizeBytes : state'.eventsSizeBytes = state.eventsSizeBytes
  nextEventId : state'.nextEventId = state.nextEventId
  currentWindowStart : state'.currentWindowStart = state.currentWindowStart
  currentCounters : state'.currentCounters = state.currentCounters
  closedWindows : state'.closedWindows = state.closedWindows
  nextWindowId : state'.nextWindowId = state.nextWindowId
  retainedWindowBytes : state'.retainedWindowBytes = state.retainedWindowBytes
  droppedSinceLast : state'.droppedSinceLast = state.droppedSinceLast
  disabled : state'.disabled = state.disabled

/-- A state has its own buffers. -/
theorem SameBuffers.refl (state : State) : SameBuffers state state :=
  ⟨rfl, rfl, rfl, rfl, rfl, rfl, rfl, rfl, rfl, rfl⟩

/-- Operations that touch no buffer, one after the other, so that a chain of them is read as
one. -/
theorem SameBuffers.trans {a b c : State} (hab : SameBuffers a b) (hbc : SameBuffers b c) :
    SameBuffers a c where
  events := hbc.events.trans hab.events
  eventsSizeBytes := hbc.eventsSizeBytes.trans hab.eventsSizeBytes
  nextEventId := hbc.nextEventId.trans hab.nextEventId
  currentWindowStart := hbc.currentWindowStart.trans hab.currentWindowStart
  currentCounters := hbc.currentCounters.trans hab.currentCounters
  closedWindows := hbc.closedWindows.trans hab.closedWindows
  nextWindowId := hbc.nextWindowId.trans hab.nextWindowId
  retainedWindowBytes := hbc.retainedWindowBytes.trans hab.retainedWindowBytes
  droppedSinceLast := hbc.droppedSinceLast.trans hab.droppedSinceLast
  disabled := hbc.disabled.trans hab.disabled

/-- Backing off touches no buffer. -/
theorem sameBuffers_setBackoff (now : Nat) (retryAfter : Option Nat) (state : State) :
    SameBuffers state (setBackoff now retryAfter state) :=
  ⟨rfl, rfl, rfl, rfl, rfl, rfl, rfl, rfl, rfl, rfl⟩

/-- Starting the worker touches none. -/
theorem sameBuffers_startWorker (runtime : Bool) (now : Nat) (state : State) :
    SameBuffers state (startWorker runtime now state) := by
  unfold startWorker
  split
  · exact .refl state
  · exact ⟨rfl, rfl, rfl, rfl, rfl, rfl, rfl, rfl, rfl, rfl⟩

/-- Nor does the urgent flag. -/
theorem sameBuffers_markUrgent (state : State) : SameBuffers state (markUrgent state) := by
  unfold markUrgent
  split
  · exact ⟨rfl, rfl, rfl, rfl, rfl, rfl, rfl, rfl, rfl, rfl⟩
  · exact .refl state

/-- Nor does a turn of the worker. -/
theorem sameBuffers_workerTurn (now : Nat) (state : State) :
    SameBuffers state (workerTurn now state) := by
  unfold workerTurn
  split
  · exact ⟨rfl, rfl, rfl, rfl, rfl, rfl, rfl, rfl, rfl, rfl⟩
  · exact .refl state

/-- Nor does the note of the worker after a flush. -/
theorem sameBuffers_workerFlushed (now : Nat) (state : State) :
    SameBuffers state (workerFlushed now state) :=
  ⟨rfl, rfl, rfl, rfl, rfl, rfl, rfl, rfl, rfl, rfl⟩

/-- The first setting of a policy: the sample rate is all that it can move. -/
theorem lowerSampleRate_eq (rate : Option Rat) (state : State) :
    ∃ lowered, lowerSampleRate rate state = { state with successSampleRate := lowered } := by
  unfold lowerSampleRate
  split
  · split
    · exact ⟨_, rfl⟩
    · exact ⟨state.successSampleRate, rfl⟩
  · exact ⟨state.successSampleRate, rfl⟩

/-- The second setting: the flush interval is all that it can move. -/
theorem lengthenFlushInterval_eq (seconds : Option Rat) (state : State) :
    ∃ interval, lengthenFlushInterval seconds state = { state with flushInterval := interval } := by
  unfold lengthenFlushInterval
  split
  · split
    · exact ⟨_, rfl⟩
    · exact ⟨state.flushInterval, rfl⟩
  · exact ⟨state.flushInterval, rfl⟩

/-- The third setting: the end of the pause is all that it can move. -/
theorem pauseFor_eq (seconds : Option Rat) (now : Nat) (state : State) :
    ∃ paused, pauseFor seconds now state = { state with pausedUntil := paused } := by
  unfold pauseFor
  split
  · split
    · exact ⟨_, rfl⟩
    · exact ⟨state.pausedUntil, rfl⟩
  · exact ⟨state.pausedUntil, rfl⟩

/-- A policy can move the sample rate, the flush interval and the end of the pause, and leaves
everything else of the state as it is. Every frame fact about a policy is read off this equation,
whichever of the three settings the policy has. -/
theorem applyPolicy_eq (library : Library) (policy : Serde.Value) (now : Nat) (state : State) :
    ∃ lowered interval paused, applyPolicy library policy now state =
      { state with
        successSampleRate := lowered
        flushInterval := interval
        pausedUntil := paused } := by
  unfold applyPolicy
  dsimp only
  obtain ⟨lowered, hrate⟩ :=
    lowerSampleRate_eq ((policy.get "success_sample_rate").bind (floatValue library)) state
  rw [hrate]
  obtain ⟨interval, hinterval⟩ :=
    lengthenFlushInterval_eq ((policy.get "flush_seconds").bind (floatValue library))
      { state with successSampleRate := lowered }
  rw [hinterval]
  obtain ⟨paused, hpause⟩ :=
    pauseFor_eq ((policy.get "pause_seconds").bind (floatValue library)) now
      { state with successSampleRate := lowered, flushInterval := interval }
  exact ⟨lowered, interval, paused, hpause⟩

/-- A policy touches no buffer. -/
theorem sameBuffers_applyPolicy (library : Library) (policy : Serde.Value) (now : Nat)
    (state : State) : SameBuffers state (applyPolicy library policy now state) := by
  obtain ⟨lowered, interval, paused, heq⟩ := applyPolicy_eq library policy now state
  rw [heq]
  exact ⟨rfl, rfl, rfl, rfl, rfl, rfl, rfl, rfl, rfl, rfl⟩

/-! ## The buffer -/

/-- The event buffer: within its cap, in the order of its ids, with its size accounted. -/
structure EventsOk (events : List BufferedEvent) (sizeBytes nextId : Nat) : Prop where
  length : events.length ≤ maxEvents
  ids : (events.map BufferedEvent.id).Pairwise (· < ·)
  below : ∀ buffered ∈ events, buffered.id < nextId
  size : sizeBytes = (events.map BufferedEvent.estimatedBytes).sum

/-- The event that has to go when the buffer is full: the oldest success, or the oldest. -/
def victim (events : List BufferedEvent) : Option BufferedEvent :=
  events[(events.findIdx? BufferedEvent.ok).getD 0]?

/-- A buffer that is not empty has a victim: its oldest success, or its oldest event if all of
them are failures. -/
theorem exists_victim {events : List BufferedEvent} (h : events ≠ []) :
    ∃ evicted, victim events = some evicted := by
  have hlt : (events.findIdx? BufferedEvent.ok).getD 0 < events.length := by
    cases hfind : events.findIdx? BufferedEvent.ok with
    | none => exact List.length_pos_iff.mpr h
    | some index => exact (List.findIdx?_eq_some_iff_getElem.mp hfind).1
  exact ⟨_, List.getElem?_eq_getElem hlt⟩

/-- Dropping an event takes the victim out, and counts it. -/
theorem dropBufferedEvent_eq {state : State} {evicted : BufferedEvent}
    (h : victim state.events = some evicted) :
    ∃ before after, state.events = before ++ evicted :: after ∧
      dropBufferedEvent state =
        { state with
          events := before ++ after
          eventsSizeBytes := state.eventsSizeBytes - evicted.estimatedBytes
          droppedSinceLast := U64.saturatingAdd state.droppedSinceLast 1 } := by
  obtain ⟨hlt, hget⟩ := List.getElem?_eq_some_iff.mp h
  refine ⟨state.events.take ((state.events.findIdx? BufferedEvent.ok).getD 0),
    state.events.drop ((state.events.findIdx? BufferedEvent.ok).getD 0 + 1), ?_, ?_⟩
  · rw [← hget, ← List.drop_eq_getElem_cons hlt, List.take_append_drop]
  · unfold dropBufferedEvent
    dsimp only
    rw [show state.events[(state.events.findIdx? BufferedEvent.ok).getD 0]? = some evicted from h,
      List.eraseIdx_eq_take_drop_succ]

/-- Taking an event out keeps the buffer in order, with the bytes of the event given back. -/
theorem EventsOk.erase {before after : List BufferedEvent} {evicted : BufferedEvent}
    {sizeBytes nextId : Nat} (h : EventsOk (before ++ evicted :: after) sizeBytes nextId) :
    EventsOk (before ++ after) (sizeBytes - evicted.estimatedBytes) nextId := by
  have hsub : (before ++ after).Sublist (before ++ evicted :: after) :=
    (List.sublist_cons_self evicted after).append_left before
  refine ⟨?_, ?_, ?_, ?_⟩
  · exact Nat.le_trans hsub.length_le h.length
  · exact h.ids.sublist (hsub.map BufferedEvent.id)
  · exact fun buffered hbuffered => h.below buffered (hsub.subset hbuffered)
  · rw [h.size]
    simp only [List.map_append, List.map_cons, List.sum_append, List.sum_cons]
    omega

/-- A new event at the end, with the next id, when there is room for it. -/
theorem EventsOk.push {events : List BufferedEvent} {sizeBytes nextId : Nat}
    (h : EventsOk events sizeBytes nextId) {fresh : BufferedEvent} (hid : fresh.id = nextId)
    (hroom : events.length < maxEvents) :
    EventsOk (events ++ [fresh]) (sizeBytes + fresh.estimatedBytes) (nextId + 1) := by
  refine ⟨?_, ?_, ?_, ?_⟩
  · rw [List.length_append]
    exact hroom
  · rw [List.map_append, List.pairwise_append]
    refine ⟨h.ids, List.pairwise_singleton _ _, ?_⟩
    intro id hmem other hother
    obtain ⟨buffered, hbuffered, rfl⟩ := List.mem_map.mp hmem
    rw [List.mem_singleton.mp hother, hid]
    exact h.below buffered hbuffered
  · intro buffered hbuffered
    rcases List.mem_append.mp hbuffered with hold | hnew
    · exact Nat.lt_succ_of_lt (h.below buffered hold)
    · rw [List.mem_singleton.mp hnew, hid]
      exact Nat.lt_succ_self nextId
  · rw [h.size]
    simp

/-- Keeping some of the events, with their size summed up again. -/
theorem EventsOk.filter {events : List BufferedEvent} {sizeBytes nextId : Nat}
    (h : EventsOk events sizeBytes nextId) (keep : BufferedEvent → Bool) :
    EventsOk (events.filter keep)
      (((events.filter keep).map BufferedEvent.estimatedBytes).sum) nextId where
  length := Nat.le_trans (List.length_filter_le ..) h.length
  ids := h.ids.sublist (List.filter_sublist.map BufferedEvent.id)
  below := fun buffered hbuffered => h.below buffered (List.mem_filter.mp hbuffered).1
  size := rfl

/-! ## What one call does to the buffer -/

/-- The sampled event enters at the end (`fresh`). In a full buffer the victim makes room for
it (`evicted`), and is counted. -/
structure Admits (record : Record) (state state' : State) : Prop where
  events : ∃ (before evicted after fresh : List BufferedEvent) (sizeBytes : Nat),
    state.events = before ++ evicted ++ after ∧
    (evicted = [] ∨ record.sampled.isSome = true ∧ maxEvents ≤ state.events.length ∧
      ∃ oldest, victim state.events = some oldest ∧ evicted = [oldest]) ∧
    (fresh = [] ∨ ∃ buffered : BufferedEvent,
      buffered.id = state.nextEventId ∧ fresh = [buffered]) ∧
    EventsOk (before ++ after ++ fresh) sizeBytes (state.nextEventId + fresh.length) ∧
    state' =
      { state with
        events := before ++ after ++ fresh
        eventsSizeBytes := sizeBytes
        nextEventId := state.nextEventId + fresh.length
        droppedSinceLast := U64.saturatingAdd state.droppedSinceLast evicted.length }

/-- Buffering a sample, in one statement: at most one event comes, under the next id, and at most
one goes, when the buffer was full. -/
theorem admits_bufferSample (library : Library) (record : Record) {state : State}
    (hok : EventsOk state.events state.eventsSizeBytes state.nextEventId)
    (hdropped : state.droppedSinceLast ≤ U64.max) :
    Admits record state (bufferSample library record state) := by
  unfold bufferSample
  cases hsampled : record.sampled with
  | none =>
      refine ⟨state.events, [], [], [], state.eventsSizeBytes, ?_, .inl rfl, .inl rfl, ?_, ?_⟩
      · simp
      · simpa using hok
      · rw [List.append_nil, List.append_nil, List.length_nil, U64.saturatingAdd_zero hdropped]
        rfl
  | some wire =>
      have hid : (BufferedEvent.new library wire record.now state.nextEventId).id =
          state.nextEventId := rfl
      dsimp only
      rw [appendEvent]
      by_cases hfull : maxEvents ≤ state.events.length
      · -- The victim makes room for the new event.
        have hne : state.events ≠ [] := by
          intro hnil
          rw [hnil] at hfull
          exact absurd hfull (by decide)
        obtain ⟨oldest, holdest⟩ := exists_victim hne
        obtain ⟨before, after, hsplit, hdrop⟩ := dropBufferedEvent_eq holdest
        have hroom : (before ++ after).length < maxEvents := by
          have hlength := hok.length
          rw [hsplit] at hlength
          simp only [List.length_append, List.length_cons] at hlength ⊢
          omega
        have hpush := (EventsOk.erase (hsplit ▸ hok)).push hid hroom
        rw [if_pos hfull, hdrop]
        refine ⟨before, [oldest], after, _, _, ?_,
          .inr ⟨hsampled ▸ rfl, hfull, oldest, holdest, rfl⟩, .inr ⟨_, hid, rfl⟩, hpush, rfl⟩
        rw [hsplit, List.append_assoc]
        rfl
      · have hpush := hok.push hid (Nat.lt_of_not_le hfull)
        rw [if_neg hfull]
        refine ⟨state.events, [], [], _,
          state.eventsSizeBytes +
            (BufferedEvent.new library wire record.now state.nextEventId).estimatedBytes,
          ?_, .inl rfl, .inr ⟨_, hid, rfl⟩, ?_, ?_⟩
        · simp
        · rw [List.append_nil]
          exact hpush
        · rw [List.append_nil, List.length_nil, U64.saturatingAdd_zero hdropped]
          rfl

end TrustedRouter.Proofs.Telemetry
