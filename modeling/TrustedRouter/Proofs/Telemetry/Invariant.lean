import TrustedRouter.Proofs.Telemetry.Events
import TrustedRouter.Proofs.Telemetry.Retire

/-!
# `TrustedRouter.Proofs.Telemetry.Invariant`: what each operation keeps

`WellFormed` is what the operations keep whatever the clock does. `Clocked` is what a clock
that does not go back adds: the windows are in the order of their minutes. The bound on the
retained bytes needs one fact about the serialiser, `SizeMonotone`: removing rows does not
make a row list longer.
-/

set_option autoImplicit false

namespace TrustedRouter.Proofs.Telemetry

open TrustedRouter.Telemetry
open Rust
open Rust.Duration

/-! ## Windows -/

/-- Closing a window that has rows. -/
theorem WindowsOk.push {reporter : Reporter} {state : State} (windowStart : Nat)
    (h : WindowsOk reporter.library state.closedWindows state.retainedWindowBytes
      state.nextWindowId)
    (hcounters : CountersOk state.currentCounters) (hrows : state.currentCounters ≠ []) :
    WindowsOk reporter.library
      (state.closedWindows ++ [closingWindow reporter windowStart state])
      (state.retainedWindowBytes + reporter.library.windowSize state.currentCounters)
      (state.nextWindowId + 1) := by
  refine ⟨?_, ?_, ?_, ?_⟩
  · -- The new window has the next id, which is above all that were given out.
    rw [List.map_append, List.pairwise_append]
    refine ⟨h.ids, List.pairwise_singleton _ _, ?_⟩
    intro id hmem other hother
    obtain ⟨window, hwindow, rfl⟩ := List.mem_map.mp hmem
    rw [List.mem_singleton.mp hother]
    exact h.below window hwindow
  · intro window hwindow
    rcases List.mem_append.mp hwindow with hold | hnew
    · exact Nat.lt_succ_of_lt (h.below window hold)
    · rw [List.mem_singleton.mp hnew]
      exact Nat.lt_succ_self _
  · intro window hwindow
    rcases List.mem_append.mp hwindow with hold | hnew
    · exact h.each window hold
    · rw [List.mem_singleton.mp hnew]
      exact ⟨hrows, hcounters, rfl⟩
  · rw [h.retained, sizes_append, sizes_cons, sizes_nil, Nat.add_zero]
    rfl

/-- Windows that leave at the front, with their bytes. -/
theorem WindowsOk.suffix {library : Library} {gone kept : List CounterWindow}
    {retained nextId : Nat} (h : WindowsOk library (gone ++ kept) retained nextId) :
    WindowsOk library kept (retained - sizes gone) nextId := by
  have hsub : kept.Sublist (gone ++ kept) := List.sublist_append_right gone kept
  refine ⟨?_, ?_, ?_, ?_⟩
  · exact h.ids.sublist (hsub.map CounterWindow.id)
  · exact fun window hwindow => h.below window (hsub.subset hwindow)
  · exact fun window hwindow => h.each window (hsub.subset hwindow)
  · rw [h.retained, sizes_append, Nat.add_sub_cancel_left]

/-- A window that is left after retiring is a window of before, with fewer rows and at least
one. -/
theorem mem_retired {library : Library} {refs : List CounterRef}
    {windows : List CounterWindow} {window : CounterWindow} :
    window ∈ retired library refs windows ↔
      (∃ before ∈ windows, retire library refs before = window) ∧ window.rows ≠ [] := by
  rw [retired, List.mem_filter, List.mem_map, Bool.not_eq_true', List.isEmpty_eq_false_iff]

/-- Retiring rows keeps what is left well-formed, with the retained bytes measured again. -/
theorem WindowsOk.retired {library : Library} {windows : List CounterWindow}
    {retained nextId : Nat} (h : WindowsOk library windows retained nextId)
    (refs : List CounterRef) :
    WindowsOk library (retired library refs windows) (sizes (retired library refs windows))
      nextId := by
  -- Taking rows out keeps a window's id, and emptied windows go.
  have hsub : ((Telemetry.retired library refs windows).map CounterWindow.id).Sublist
      (windows.map CounterWindow.id) := by
    have hids : (windows.map (retire library refs)).map CounterWindow.id =
        windows.map CounterWindow.id := by
      rw [List.map_map]
      rfl
    rw [← hids]
    exact List.filter_sublist.map CounterWindow.id
  refine ⟨?_, ?_, ?_, rfl⟩
  · exact h.ids.sublist hsub
  · intro window hwindow
    obtain ⟨⟨before, hbefore, rfl⟩, -⟩ := mem_retired.mp hwindow
    exact h.below before hbefore
  · intro window hwindow
    obtain ⟨⟨before, hbefore, rfl⟩, hrows⟩ := mem_retired.mp hwindow
    have hok := h.each before hbefore
    refine ⟨hrows, ⟨keepRows_keys_nodup refs hok.rows.keys, ?_⟩, ?_⟩
    · exact Nat.le_trans (List.length_filter_le ..) hok.rows.length
    · exact if_neg (mt List.isEmpty_iff.mp hrows)

/-! ## Well-formed states -/

/-- What the operations keep whatever the clock does. -/
structure WellFormed (reporter : Reporter) (state : State) : Prop where
  events : EventsOk state.events state.eventsSizeBytes state.nextEventId
  counters : CountersOk state.currentCounters
  windows : WindowsOk reporter.library state.closedWindows state.retainedWindowBytes
    state.nextWindowId
  dropped : state.droppedSinceLast ≤ U64.max

/-- Well-formedness is about the buffers only. -/
theorem WellFormed.of_same {reporter : Reporter} {state state' : State}
    (h : WellFormed reporter state) (hsame : SameBuffers state state') :
    WellFormed reporter state' := by
  refine ⟨?_, ?_, ?_, ?_⟩
  · rw [hsame.events, hsame.eventsSizeBytes, hsame.nextEventId]
    exact h.events
  · rw [hsame.currentCounters]
    exact h.counters
  · rw [hsame.closedWindows, hsame.retainedWindowBytes, hsame.nextWindowId]
    exact h.windows
  · rw [hsame.droppedSinceLast]
    exact h.dropped

/-- The count of losses may be any `u64`. -/
theorem WellFormed.withDropped {reporter : Reporter} {state : State}
    (h : WellFormed reporter state) {dropped : Nat} (hle : dropped ≤ U64.max) :
    WellFormed reporter { state with droppedSinceLast := dropped } :=
  ⟨h.events, h.counters, h.windows, hle⟩

/-- A new reporter holds nothing. -/
theorem wellFormed_new (reporter : Reporter) (rate : Option Rat) (interval : Nat)
    (instanceId : String) : WellFormed reporter (.new rate interval instanceId) where
  events := ⟨Nat.zero_le _, .nil, fun _ h => (List.not_mem_nil h).elim, rfl⟩
  counters := ⟨.nil, Nat.zero_le _⟩
  windows := ⟨.nil, fun _ h => (List.not_mem_nil h).elim, fun _ h => (List.not_mem_nil h).elim,
    rfl⟩
  dropped := Nat.zero_le _

/-- Pruning takes windows off the front and counts their rows. -/
theorem WellFormed.pruneWindows {reporter : Reporter} {state : State}
    (h : WellFormed reporter state) (now : Nat) :
    WellFormed reporter (pruneWindows reporter now state) := by
  obtain ⟨gone, kept, hsplit, -, hpruned⟩ := pruneWindows_state reporter now h.dropped
  rw [hpruned]
  exact
    { events := h.events
      counters := h.counters
      windows := WindowsOk.suffix (hsplit ▸ h.windows)
      dropped := U64.saturatingAdd_le_max _ _ }

/-- Closing the open window, which has to have rows. -/
theorem WellFormed.pushWindow {reporter : Reporter} {state : State}
    (h : WellFormed reporter state) (now windowStart : Nat)
    (hrows : state.currentCounters ≠ []) :
    WellFormed reporter (pushWindow reporter now windowStart state) where
  events := h.events
  counters := ⟨.nil, Nat.zero_le _⟩
  windows := h.windows.push windowStart h.counters hrows
  dropped := h.dropped

/-- Rolling opens a window, closes one, or does nothing. -/
theorem WellFormed.rollWindow {reporter : Reporter} {state : State}
    (h : WellFormed reporter state) (now : Nat) :
    WellFormed reporter (rollWindow reporter now state) := by
  rcases rollWindow_cases reporter now state with
    ⟨hroll, -⟩ | ⟨hroll, -⟩ | ⟨windowStart, -, hrows, -, hroll⟩
  · rw [hroll]
    exact h
  · rw [hroll]
    exact ⟨h.events, h.counters, h.windows, h.dropped⟩
  · rw [hroll]
    exact (h.pushWindow now windowStart hrows).pruneWindows now

/-- The same for the close that a flush makes, in the middle of a minute. -/
theorem WellFormed.closeCurrentWindow {reporter : Reporter} {state : State}
    (h : WellFormed reporter state) (now : Nat) :
    WellFormed reporter (closeCurrentWindow reporter now state) := by
  rcases closeCurrentWindow_cases reporter now state with
    hclose | ⟨windowStart, -, hrows, hclose⟩
  · rw [hclose]
    exact h
  · rw [hclose]
    exact (h.pushWindow now windowStart hrows).pruneWindows now

/-- What a flush does to the windows before it selects. -/
theorem WellFormed.settleWindows {reporter : Reporter} {state : State}
    (h : WellFormed reporter state) (now : Nat) :
    WellFormed reporter (settleWindows reporter now state) :=
  ((h.rollWindow now).closeCurrentWindow now).pruneWindows now

/-- Merging keeps the keys of the open window distinct and within the cap. -/
theorem WellFormed.mergeCounters {reporter : Reporter} {state : State}
    (h : WellFormed reporter state) (counters : Counters) :
    WellFormed reporter (mergeCounters counters state) :=
  ⟨h.events, mergeCounters_ok h.counters counters, h.windows, h.dropped⟩

/-- Counting a sample that cannot be carried. -/
theorem WellFormed.countInvalid {reporter : Reporter} {state : State}
    (h : WellFormed reporter state) (record : Record) :
    WellFormed reporter (countInvalid record state) := by
  unfold Telemetry.countInvalid
  split
  · exact h.withDropped (U64.saturatingAdd_le_max _ _)
  · exact h

/-- Buffering an event, which evicts one when the buffer is full. -/
theorem WellFormed.bufferSample {reporter : Reporter} {state : State}
    (h : WellFormed reporter state) (record : Record) :
    WellFormed reporter (bufferSample reporter.library record state) := by
  obtain ⟨_, _, _, _, _, _, _, _, hevents, hbuffered⟩ :=
    (admits_bufferSample reporter.library record h.events h.dropped).events
  rw [hbuffered]
  exact ⟨hevents, h.counters, h.windows, U64.saturatingAdd_le_max _ _⟩

/-- `on_request` keeps the state well-formed. -/
theorem WellFormed.onRequest {reporter : Reporter} {state : State}
    (h : WellFormed reporter state) (record : Record) :
    WellFormed reporter (onRequest reporter record state) := by
  unfold Telemetry.onRequest
  split
  · exact h
  · have hmerge := (h.rollWindow record.now).mergeCounters record.counters
    have hbuffer := (hmerge.countInvalid record).bufferSample record
    exact (hbuffer.of_same (sameBuffers_startWorker _ _ _)).of_same (sameBuffers_markUrgent _)

/-- `select_batch` leaves the state that its windows part made, with the next sequence
number if there was anything to send. -/
theorem selectBatch_state (reporter : Reporter) (fresh : Fresh) (now : Nat) (state : State) :
    SameBuffers (settleWindows reporter now state) (selectBatch reporter fresh now state).2 := by
  unfold selectBatch
  dsimp only
  split
  · exact .refl _
  · exact ⟨rfl, rfl, rfl, rfl, rfl, rfl, rfl, rfl, rfl, rfl⟩

/-- Selecting settles the windows and takes nothing out. -/
theorem WellFormed.selectBatch {reporter : Reporter} {state : State}
    (h : WellFormed reporter state) (fresh : Fresh) (now : Nat) :
    WellFormed reporter (selectBatch reporter fresh now state).2 :=
  (h.settleWindows now).of_same (selectBatch_state reporter fresh now state)

/-- Removing what was selected. -/
theorem WellFormed.removeSelected {reporter : Reporter} {state : State}
    (h : WellFormed reporter state) (eventIds : List Nat) (refs : List CounterRef) :
    WellFormed reporter (removeSelected reporter.library eventIds refs state) := by
  rw [removeSelected_eq h.windows]
  exact ⟨h.events.filter _, h.counters, h.windows.retired refs, h.dropped⟩

/-- What a 202 does to the buffers: the batch is removed, and its drops are subtracted. -/
theorem acceptBatch_state (library : Library) (body : Bytes) (now : Nat) (selected : Selected)
    (state : State) :
    SameBuffers
      { removeSelected library selected.eventIds selected.counterRefs state with
        droppedSinceLast :=
          (removeSelected library selected.eventIds selected.counterRefs state).droppedSinceLast -
            selected.dropped }
      (acceptBatch library body now selected state) := by
  unfold acceptBatch
  dsimp only
  split
  · refine SameBuffers.trans ?_ (sameBuffers_applyPolicy library _ now _)
    exact ⟨rfl, rfl, rfl, rfl, rfl, rfl, rfl, rfl, rfl, rfl⟩
  · exact ⟨rfl, rfl, rfl, rfl, rfl, rfl, rfl, rfl, rfl, rfl⟩

/-- A reporter that was disabled holds nothing, whatever it held before. -/
theorem WellFormed.disable (reporter : Reporter) (state : State) :
    WellFormed reporter (disable state) where
  events := ⟨Nat.zero_le _, .nil, fun _ h => (List.not_mem_nil h).elim, rfl⟩
  counters := ⟨.nil, Nat.zero_le _⟩
  windows := ⟨.nil, fun _ h => (List.not_mem_nil h).elim, fun _ h => (List.not_mem_nil h).elim,
    rfl⟩
  dropped := Nat.zero_le _

/-- Each of the four verdicts keeps the state well-formed: the batch is removed, or everything is,
or nothing. -/
theorem WellFormed.handleResponse {reporter : Reporter} {state : State}
    (h : WellFormed reporter state) (answer : Answer) (selected : Selected) :
    WellFormed reporter (handleResponse reporter.library answer selected state) := by
  have hremoved := h.removeSelected selected.eventIds selected.counterRefs
  unfold Telemetry.handleResponse
  cases answer.verdict with
  | disables => exact .disable reporter state
  | accepts =>
      refine WellFormed.of_same ?_
        (acceptBatch_state reporter.library answer.body answer.now selected state)
      exact hremoved.withDropped (Nat.le_trans (Nat.sub_le ..) hremoved.dropped)
  | rejects => exact hremoved.withDropped (U64.saturatingAdd_le_max _ _)
  | backsOff => exact h.of_same (sameBuffers_setBackoff _ _ _)

/-! ## The clock -/

/-- What holds after an operation at `now` if the clock never went back: the open window is
not of a later minute, and the closed ones are in the order of their minutes, before it. -/
structure Clocked (now : Nat) (state : State) : Prop where
  openStart : ∀ start, state.currentWindowStart = some start → start ≤ minuteStart now
  openSome : state.currentCounters ≠ [] → state.currentWindowStart ≠ none
  sorted : (state.closedWindows.map CounterWindow.windowStart).Pairwise (· ≤ ·)
  closedLe : ∀ window ∈ state.closedWindows,
    ∃ start, state.currentWindowStart = some start ∧ window.windowStart ≤ start

/-- A later time is not of an earlier minute. -/
theorem minuteStart_mono {a b : Nat} (h : a ≤ b) : minuteStart a ≤ minuteStart b := by
  simp only [minuteStart, fromSecs, asSecs]
  have hsecs : a / 1000000000 ≤ b / 1000000000 := Nat.div_le_div_right h
  have hminutes : a / 1000000000 / 60 ≤ b / 1000000000 / 60 := Nat.div_le_div_right hsecs
  omega

/-- Time passes, and what held of the earlier time holds of the later one. -/
theorem Clocked.later {now later : Nat} {state : State} (h : Clocked now state)
    (hle : now ≤ later) : Clocked later state :=
  ⟨fun start hstart => Nat.le_trans (h.openStart start hstart) (minuteStart_mono hle),
    h.openSome, h.sorted, h.closedLe⟩

/-- Closed windows may go, and open rows may come where a minute is set. -/
theorem Clocked.of_sublist {now : Nat} {state state' : State} (h : Clocked now state)
    (hstart : state'.currentWindowStart = state.currentWindowStart)
    (hopen : state'.currentCounters ≠ [] → state'.currentWindowStart ≠ none)
    (hsub : (state'.closedWindows.map CounterWindow.windowStart).Sublist
      (state.closedWindows.map CounterWindow.windowStart)) : Clocked now state' := by
  refine ⟨?_, hopen, h.sorted.sublist hsub, ?_⟩
  · rw [hstart]
    exact h.openStart
  · intro window hwindow
    obtain ⟨before, hbefore, heq⟩ := List.mem_map.mp (hsub.subset (List.mem_map_of_mem hwindow))
    rw [hstart, ← heq]
    exact h.closedLe before hbefore

/-- The minutes are part of the buffers. -/
theorem Clocked.of_same {now : Nat} {state state' : State} (h : Clocked now state)
    (hsame : SameBuffers state state') : Clocked now state' := by
  apply h.of_sublist hsame.currentWindowStart
  · rw [hsame.currentCounters, hsame.currentWindowStart]
    exact h.openSome
  · rw [hsame.closedWindows]

/-- Pruning removes windows and keeps their order. -/
theorem Clocked.pruneWindows {reporter : Reporter} {now : Nat} {state : State}
    (h : Clocked now state) (hdropped : state.droppedSinceLast ≤ U64.max) (later : Nat) :
    Clocked now (pruneWindows reporter later state) := by
  obtain ⟨gone, kept, hsplit, -, hpruned⟩ := pruneWindows_state reporter later hdropped
  rw [hpruned]
  refine h.of_sublist ?_ h.openSome ?_
  · rfl
  · rw [hsplit]
    exact (List.sublist_append_right gone kept).map CounterWindow.windowStart

/-- The window that closes has the latest minute of all closed ones, so it may stand at the
end. -/
theorem Clocked.pushWindow {reporter : Reporter} {now windowStart : Nat} {state : State}
    (h : Clocked now state) (hstart : state.currentWindowStart = some windowStart) :
    Clocked now (pushWindow reporter now windowStart state) := by
  -- The window that closes is no older than those closed before it.
  have hbefore : ∀ window ∈ state.closedWindows, window.windowStart ≤ windowStart := by
    intro window hwindow
    obtain ⟨start, hsome, hle⟩ := h.closedLe window hwindow
    rw [hstart] at hsome
    cases hsome
    exact hle
  have hminute := h.openStart windowStart hstart
  refine ⟨?_, fun hrows => absurd rfl hrows, ?_, ?_⟩
  · intro start hsome
    cases hsome
    exact Nat.le_refl _
  · show ((state.closedWindows ++ [closingWindow reporter windowStart state]).map
      CounterWindow.windowStart).Pairwise (· ≤ ·)
    rw [List.map_append, List.pairwise_append]
    refine ⟨h.sorted, List.pairwise_singleton _ _, ?_⟩
    intro start hmem other hother
    obtain ⟨window, hwindow, rfl⟩ := List.mem_map.mp hmem
    rw [List.mem_singleton.mp hother]
    exact hbefore window hwindow
  · intro window hwindow
    refine ⟨minuteStart now, rfl, ?_⟩
    rcases List.mem_append.mp hwindow with hold | hnew
    · exact Nat.le_trans (hbefore window hold) hminute
    · rw [List.mem_singleton.mp hnew]
      exact hminute

/-- After rolling at `now` the open window is of the minute of `now`. This is where the clock
matters: with one that went back, the open window would stay in its later minute. -/
theorem Clocked.rollWindow (reporter : Reporter) {now : Nat} {state : State}
    (h : Clocked now state) (hdropped : state.droppedSinceLast ≤ U64.max) :
    Clocked now (rollWindow reporter now state) ∧
      (rollWindow reporter now state).currentWindowStart = some (minuteStart now) := by
  rcases rollWindow_cases reporter now state with
    ⟨hroll, current, hcurrent, hle⟩ | ⟨hroll, hopen⟩ | ⟨windowStart, hstart, -, -, hroll⟩
  · rw [hroll, hcurrent, Nat.le_antisymm (h.openStart current hcurrent) hle]
    exact ⟨h, rfl⟩
  · rw [hroll]
    refine ⟨⟨?_, fun _ hnone => (nomatch hnone), h.sorted, ?_⟩, rfl⟩
    · intro start hsome
      cases hsome
      exact Nat.le_refl _
    · intro window hwindow
      obtain ⟨start, hsome, hle⟩ := h.closedLe window hwindow
      exact ⟨_, rfl, Nat.le_trans hle (h.openStart start hsome)⟩
  · rw [hroll]
    refine ⟨(h.pushWindow hstart).pruneWindows hdropped now, ?_⟩
    rw [pruneWindows_currentWindowStart]
    rfl

/-- A window that is closed in the middle of its minute is followed by one of the same minute,
which is why the order of the minutes is not strict. -/
theorem Clocked.closeCurrentWindow {reporter : Reporter} {now : Nat} {state : State}
    (h : Clocked now state) (hdropped : state.droppedSinceLast ≤ U64.max) :
    Clocked now (closeCurrentWindow reporter now state) := by
  rcases closeCurrentWindow_cases reporter now state with
    hclose | ⟨windowStart, hstart, -, hclose⟩
  · rw [hclose]
    exact h
  · rw [hclose]
    exact (h.pushWindow hstart).pruneWindows hdropped now

/-- Removing rows of closed windows does not reorder them. -/
theorem Clocked.removeSelected {reporter : Reporter} {now : Nat} {state : State}
    (h : Clocked now state) (hok : WellFormed reporter state) (eventIds : List Nat)
    (refs : List CounterRef) :
    Clocked now (removeSelected reporter.library eventIds refs state) := by
  rw [removeSelected_eq hok.windows]
  refine h.of_sublist ?_ h.openSome ?_
  · rfl
  have hstarts : (state.closedWindows.map (retire reporter.library refs)).map
      CounterWindow.windowStart = state.closedWindows.map CounterWindow.windowStart := by
    rw [List.map_map]
    rfl
  rw [← hstarts]
  exact List.filter_sublist.map CounterWindow.windowStart

/-! ## The retained bytes -/

/-- Removing rows does not make their serialisation longer. -/
def SizeMonotone (library : Library) : Prop :=
  ∀ {rows rows' : Counters}, rows'.Sublist rows →
    library.windowSize rows' ≤ library.windowSize rows

/-- After pruning the retained bytes are within the limit. -/
theorem pruneWindows_fits {reporter : Reporter} {state : State}
    (h : WellFormed reporter state) (now : Nat) :
    (pruneWindows reporter now state).retainedWindowBytes ≤ reporter.retentionBytes := by
  apply pruneOversize_fits
  rw [pruneExpired_eq, dropWindows_closedWindows, dropWindows_eq _ h.dropped]
  show state.retainedWindowBytes - sizes _ = sizes (state.closedWindows.dropWhile (expired now))
  rw [h.windows.retained]
  nth_rewrite 1 [← List.takeWhile_append_dropWhile (p := expired now) (l := state.closedWindows)]
  rw [sizes_append, Nat.add_sub_cancel_left]

/-- Rolling keeps the retained bytes within the limit, since closing a window prunes. -/
theorem rollWindow_retained_le {reporter : Reporter} {state : State}
    (h : WellFormed reporter state) (now : Nat)
    (hle : state.retainedWindowBytes ≤ reporter.retentionBytes) :
    (rollWindow reporter now state).retainedWindowBytes ≤ reporter.retentionBytes := by
  rcases rollWindow_cases reporter now state with
    ⟨hroll, -⟩ | ⟨hroll, -⟩ | ⟨windowStart, -, hrows, -, hroll⟩
  · rw [hroll]
    exact hle
  · rw [hroll]
    exact hle
  · rw [hroll]
    exact pruneWindows_fits (h.pushWindow now windowStart hrows) now

/-- Retiring rows gives bytes back. -/
theorem sizes_retired_le {library : Library} (hsize : SizeMonotone library)
    {windows : List CounterWindow} (hok : ∀ window ∈ windows, WindowOk library window)
    (refs : List CounterRef) : sizes (retired library refs windows) ≤ sizes windows := by
  rw [sizes_retired]
  induction windows with
  | nil => exact Nat.le_refl _
  | cons window rest ih =>
      have hrest := ih fun other hother => hok other (List.mem_cons_of_mem _ hother)
      have hwindow : (retire library refs window).sizeBytes ≤ window.sizeBytes := by
        rw [(hok window (List.mem_cons_self ..)).size]
        show (if _ then 0 else library.windowSize _) ≤ _
        split
        · exact Nat.zero_le _
        · exact hsize List.filter_sublist
      rw [List.map_cons, sizes_cons, sizes_cons]
      exact Nat.add_le_add hwindow hrest

/-- Removing a batch does not raise the retained bytes. A window that lost a row is measured
again, and `hsize` says that this does not make it larger. -/
theorem removeSelected_retained_le {reporter : Reporter}
    (hsize : SizeMonotone reporter.library) {state : State} (h : WellFormed reporter state)
    (eventIds : List Nat) (refs : List CounterRef) :
    (removeSelected reporter.library eventIds refs state).retainedWindowBytes ≤
      state.retainedWindowBytes := by
  rw [removeSelected_eq h.windows, h.windows.retained]
  exact sizes_retired_le hsize h.windows.each refs

/-! ## What `on_request` does -/

/-- The window operations leave the events alone. -/
structure SameEvents (state state' : State) : Prop where
  events : state'.events = state.events
  eventsSizeBytes : state'.eventsSizeBytes = state.eventsSizeBytes
  nextEventId : state'.nextEventId = state.nextEventId
  disabled : state'.disabled = state.disabled

/-- The window operations leave the events alone. -/
theorem Settles.sameEvents {reporter : Reporter} {state state' : State}
    (h : Settles reporter state state') : SameEvents state state' := by
  obtain ⟨_, _, _, _, _, _, _, rfl⟩ := h.windows
  exact ⟨rfl, rfl, rfl, rfl⟩

/-- What an accepted `on_request` leaves behind, field by field: the windows as rolling left
them, the increments merged into the open one, at most one event more and at most one event
less, and every drop counted. -/
structure Recorded (reporter : Reporter) (record : Record) (state state' : State) :
    Prop where
  currentWindowStart : state'.currentWindowStart =
    (rollWindow reporter record.now state).currentWindowStart
  currentCounters : state'.currentCounters =
    record.counters.foldl mergeCounter (rollWindow reporter record.now state).currentCounters
  closedWindows : state'.closedWindows =
    (rollWindow reporter record.now state).closedWindows
  nextWindowId : state'.nextWindowId = (rollWindow reporter record.now state).nextWindowId
  retainedWindowBytes : state'.retainedWindowBytes =
    (rollWindow reporter record.now state).retainedWindowBytes
  disabled : state'.disabled = state.disabled
  events : ∃ before evicted after fresh : List BufferedEvent,
    state.events = before ++ evicted ++ after ∧
    (evicted = [] ∨ record.sampled.isSome = true ∧ maxEvents ≤ state.events.length ∧
      ∃ oldest, victim state.events = some oldest ∧ evicted = [oldest]) ∧
    (fresh = [] ∨ ∃ buffered : BufferedEvent,
      buffered.id = state.nextEventId ∧ fresh = [buffered]) ∧
    state'.events = before ++ after ++ fresh ∧
    state'.nextEventId = state.nextEventId + fresh.length ∧
    state'.droppedSinceLast =
      U64.saturatingAdd (rollWindow reporter record.now state).droppedSinceLast
        ((if record.invalidSample then 1 else 0) + evicted.length)

/-- The invalid sample is counted, and nothing else happens. -/
theorem countInvalid_eq (record : Record) {state : State}
    (h : state.droppedSinceLast ≤ U64.max) :
    countInvalid record state =
      { state with
        droppedSinceLast := U64.saturatingAdd state.droppedSinceLast
          (if record.invalidSample then 1 else 0) } := by
  unfold Telemetry.countInvalid
  split
  · rfl
  · rw [U64.saturatingAdd_zero h]

/-- The end of `on_request` touches no buffer: it may start the worker and raise the urgent
flag. -/
theorem onRequest_same (reporter : Reporter) (record : Record) {state : State}
    (haccepted : (state.disabled || state.closed) = false) :
    SameBuffers
      (bufferSample reporter.library record
        (countInvalid record
          (mergeCounters record.counters (rollWindow reporter record.now state))))
      (onRequest reporter record state) := by
  rw [Telemetry.onRequest, if_neg (by rw [haccepted]; exact Bool.false_ne_true)]
  exact (sameBuffers_startWorker _ _ _).trans (sameBuffers_markUrgent _)

/-- What `on_request` does, in one statement. -/
theorem onRequest_recorded {reporter : Reporter} (record : Record) {state : State}
    (h : WellFormed reporter state) (haccepted : (state.disabled || state.closed) = false) :
    Recorded reporter record state (onRequest reporter record state) := by
  -- The parts of `on_request` before the worker is started, in the order of the source.
  have hsame := (settles_rollWindow reporter record.now h.dropped).sameEvents
  have hmerged := (h.rollWindow record.now).mergeCounters record.counters
  have hcount := countInvalid_eq record hmerged.dropped
  have hcounted := hmerged.countInvalid record
  obtain ⟨before, evicted, after, fresh, sizeBytes, hsplit, hevicted, hfresh, -, hbuffered⟩ :=
    (admits_bufferSample reporter.library record hcounted.events hcounted.dropped).events
  have hrest := onRequest_same reporter record haccepted
  rw [hbuffered, hcount] at hrest
  rw [hcount] at hsplit hevicted hfresh
  refine
    { currentWindowStart := hrest.currentWindowStart
      currentCounters := hrest.currentCounters
      closedWindows := hrest.closedWindows
      nextWindowId := hrest.nextWindowId
      retainedWindowBytes := hrest.retainedWindowBytes
      disabled := hrest.disabled.trans hsame.disabled
      events := ⟨before, evicted, after, fresh, ?_, ?_, ?_, hrest.events, ?_, ?_⟩ }
  · exact hsame.events.symm.trans hsplit
  · rw [← hsame.events]
    exact hevicted
  · rw [← hsame.nextEventId]
    exact hfresh
  · rw [hrest.nextEventId, ← hsame.nextEventId]
    rfl
  · rw [hrest.droppedSinceLast, ← U64.saturatingAdd_assoc]
    rfl

end TrustedRouter.Proofs.Telemetry
