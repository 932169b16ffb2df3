import TrustedRouter.Telemetry.Reporter

/-!
# `TrustedRouter.Proofs.Telemetry.Windows`: what rolling, closing and pruning do

`prune_windows` takes windows off the front: first the expired ones (`pruneExpired_eq`),
then as many as it takes for the rest to fit (`pruneOversize_keeps`). Both count the rows
they take.

`Settles` says what any of the window operations can do in one step: the open window may
close, a prefix of the windows may leave, and every row that leaves is counted. It composes
(`Settles.trans`), because a window that just closed leaves nothing open to close again.
-/

set_option autoImplicit false

namespace TrustedRouter.Proofs.Telemetry

open TrustedRouter.Telemetry
open Rust
open Rust.Duration

/-! ## Windows that leave -/

/-- The bytes that windows are accounted with. -/
def sizes (windows : List CounterWindow) : Nat := (windows.map CounterWindow.sizeBytes).sum

/-- The rows of windows, counted. -/
def rowCount (windows : List CounterWindow) : Nat :=
  (windows.map fun window => window.rows.length).sum

/-- No windows have no bytes. -/
@[simp] theorem sizes_nil : sizes [] = 0 := rfl

/-- The bytes of the first window and of the rest. -/
@[simp] theorem sizes_cons (window : CounterWindow) (rest : List CounterWindow) :
    sizes (window :: rest) = window.sizeBytes + sizes rest := List.sum_cons

/-- Bytes add up over windows. -/
@[simp] theorem sizes_append (first second : List CounterWindow) :
    sizes (first ++ second) = sizes first + sizes second := by
  rw [sizes, List.map_append, List.sum_append]
  rfl

/-- No windows have no rows. -/
@[simp] theorem rowCount_nil : rowCount [] = 0 := rfl

/-- The rows of the first window and of the rest. -/
@[simp] theorem rowCount_cons (window : CounterWindow) (rest : List CounterWindow) :
    rowCount (window :: rest) = window.rows.length + rowCount rest := List.sum_cons

/-- Rows add up over windows. -/
@[simp] theorem rowCount_append (first second : List CounterWindow) :
    rowCount (first ++ second) = rowCount first + rowCount second := by
  rw [rowCount, List.map_append, List.sum_append]
  rfl

/-- `drop_window`, one window after another. -/
def dropWindows (gone : List CounterWindow) (state : State) : State :=
  gone.foldl (fun state window => dropWindow window state) state

/-- Dropping windows gives their bytes back and counts their rows. Nothing else changes. The count
has to be in range: saturating once at the end and after every window are the same then. -/
theorem dropWindows_eq (gone : List CounterWindow) {state : State}
    (h : state.droppedSinceLast ≤ U64.max) :
    dropWindows gone state =
      { state with
        retainedWindowBytes := state.retainedWindowBytes - sizes gone
        droppedSinceLast := U64.saturatingAdd state.droppedSinceLast (rowCount gone) } := by
  induction gone generalizing state with
  | nil =>
      rw [sizes_nil, rowCount_nil, U64.saturatingAdd_zero h]
      rfl
  | cons window rest ih =>
      show dropWindows rest (dropWindow window state) = _
      rw [ih (U64.saturatingAdd_le_max _ _), sizes_cons, rowCount_cons]
      simp only [dropWindow, Nat.sub_sub, U64.saturatingAdd_assoc]

/-- The window list is not looked at, so a drop commutes with setting it. -/
theorem dropWindows_closedWindows (gone windows : List CounterWindow) (state : State) :
    dropWindows gone { state with closedWindows := windows } =
      { dropWindows gone state with closedWindows := windows } := by
  induction gone generalizing state with
  | nil => rfl
  | cons window rest ih => exact ih (dropWindow window state)

/-! ## Pruning -/

/-- The window is past its retention. -/
def expired (now : Nat) (window : CounterWindow) : Bool :=
  decide (fromSecs retentionSeconds < now - window.windowStart)

/-- The first loop drops the longest prefix of expired windows. -/
theorem pruneExpired_eq (now : Nat) (windows : List CounterWindow) (state : State) :
    pruneExpired now windows state =
      dropWindows (windows.takeWhile (expired now))
        { state with closedWindows := windows.dropWhile (expired now) } := by
  induction windows generalizing state with
  | nil => rfl
  | cons oldest rest ih =>
      by_cases h : fromSecs retentionSeconds < now - oldest.windowStart
      · have hexpired : expired now oldest = true := decide_eq_true h
        rw [pruneExpired, if_pos h, ih, List.takeWhile_cons_of_pos hexpired,
          List.dropWhile_cons_of_pos hexpired]
        rfl
      · have hfresh : ¬ expired now oldest = true := by
          rw [expired, decide_eq_true_eq]
          exact h
        rw [pruneExpired, if_neg h, List.takeWhile_cons_of_neg hfresh,
          List.dropWhile_cons_of_neg hfresh]
        rfl

/-- The second loop drops some prefix. -/
theorem pruneOversize_eq (retentionBytes : Nat) (windows : List CounterWindow)
    (state : State) :
    ∃ gone kept, windows = gone ++ kept ∧
      pruneOversize retentionBytes windows state =
        dropWindows gone { state with closedWindows := kept } := by
  induction windows generalizing state with
  | nil => exact ⟨[], [], rfl, rfl⟩
  | cons oldest rest ih =>
      by_cases h : retentionBytes < state.retainedWindowBytes
      · obtain ⟨gone, kept, hsplit, hpruned⟩ := ih (dropWindow oldest state)
        refine ⟨oldest :: gone, kept, by rw [hsplit]; rfl, ?_⟩
        rw [pruneOversize, if_pos h, hpruned]
        rfl
      · refine ⟨[], oldest :: rest, rfl, ?_⟩
        rw [pruneOversize, if_neg h]
        rfl

/-- Pruning drops some prefix of the windows, and every expired window at the front is in it. An
expired window behind a younger one would stay, but runs keep the windows in order. -/
theorem pruneWindows_eq (reporter : Reporter) (now : Nat) (state : State) :
    ∃ gone kept, state.closedWindows = gone ++ kept ∧
      kept <:+ state.closedWindows.dropWhile (expired now) ∧
      pruneWindows reporter now state =
        dropWindows gone { state with closedWindows := kept } := by
  obtain ⟨gone, kept, hsplit, hpruned⟩ :=
    pruneOversize_eq reporter.retentionBytes (state.closedWindows.dropWhile (expired now))
      (pruneExpired now state.closedWindows state)
  refine ⟨state.closedWindows.takeWhile (expired now) ++ gone, kept, ?_, ?_, ?_⟩
  · rw [List.append_assoc, ← hsplit, List.takeWhile_append_dropWhile]
  · exact ⟨gone, hsplit.symm⟩
  · have hclosed : (pruneExpired now state.closedWindows state).closedWindows =
        state.closedWindows.dropWhile (expired now) := by
      rw [pruneExpired_eq, dropWindows_closedWindows]
    show pruneOversize reporter.retentionBytes _ _ = _
    rw [hclosed, hpruned, pruneExpired_eq, ← dropWindows_closedWindows]
    exact (List.foldl_append ..).symm

/-- Pruning as one update: the windows that are left, their bytes, and the rows that left. It is
proved once from the two loops, and all that follows reads off this one. -/
theorem pruneWindows_state (reporter : Reporter) (now : Nat) {state : State}
    (h : state.droppedSinceLast ≤ U64.max) :
    ∃ gone kept, state.closedWindows = gone ++ kept ∧
      kept <:+ state.closedWindows.dropWhile (expired now) ∧
      pruneWindows reporter now state =
        { state with
          closedWindows := kept
          retainedWindowBytes := state.retainedWindowBytes - sizes gone
          droppedSinceLast := U64.saturatingAdd state.droppedSinceLast (rowCount gone) } := by
  obtain ⟨gone, kept, hsplit, hkept, hpruned⟩ := pruneWindows_eq reporter now state
  refine ⟨gone, kept, hsplit, hkept, ?_⟩
  rw [hpruned, dropWindows_closedWindows, dropWindows_eq gone h]

/-- What is left after the second loop fits, if the bytes were accounted right. -/
theorem pruneOversize_fits (retentionBytes : Nat) (windows : List CounterWindow)
    {state : State} (h : state.retainedWindowBytes = sizes windows) :
    (pruneOversize retentionBytes windows state).retainedWindowBytes ≤ retentionBytes := by
  induction windows generalizing state with
  | nil =>
      show state.retainedWindowBytes ≤ retentionBytes
      rw [h]
      exact Nat.zero_le _
  | cons oldest rest ih =>
      rw [sizes_cons] at h
      by_cases hover : retentionBytes < state.retainedWindowBytes
      · rw [pruneOversize, if_pos hover]
        apply ih
        show state.retainedWindowBytes - oldest.sizeBytes = sizes rest
        omega
      · rw [pruneOversize, if_neg hover]
        exact Nat.le_of_not_lt hover

/-- The second loop never goes past windows that fit, so it drops no more than it has to. -/
theorem pruneOversize_keeps {retentionBytes : Nat} {windows fitting : List CounterWindow}
    {state : State} (h : state.retainedWindowBytes = sizes windows)
    (hsuffix : fitting <:+ windows) (hfits : sizes fitting ≤ retentionBytes) :
    fitting <:+ (pruneOversize retentionBytes windows state).closedWindows := by
  induction windows generalizing state with
  | nil =>
      rw [List.suffix_nil.mp hsuffix]
      exact List.nil_suffix
  | cons oldest rest ih =>
      by_cases hover : retentionBytes < state.retainedWindowBytes
      · rw [pruneOversize, if_pos hover]
        rcases List.suffix_cons_iff.mp hsuffix with rfl | hrest
        · -- The whole list fits, so the loop does not turn at all.
          omega
        · apply ih _ hrest
          show state.retainedWindowBytes - oldest.sizeBytes = sizes rest
          rw [h, sizes_cons]
          omega
      · rw [pruneOversize, if_neg hover]
        exact hsuffix

/-- Pruning keeps a suffix of windows that starts with one within its retention, and fits. -/
theorem pruneWindows_keeps {reporter : Reporter} {now : Nat} {state : State}
    {oldest : CounterWindow} {rest : List CounterWindow}
    (h : state.retainedWindowBytes = sizes state.closedWindows)
    (hdropped : state.droppedSinceLast ≤ U64.max)
    (hsuffix : oldest :: rest <:+ state.closedWindows) (hfresh : expired now oldest = false)
    (hfits : sizes (oldest :: rest) ≤ reporter.retentionBytes) :
    oldest :: rest <:+ (pruneWindows reporter now state).closedWindows := by
  have hclosed : (pruneExpired now state.closedWindows state).closedWindows =
      state.closedWindows.dropWhile (expired now) := by
    rw [pruneExpired_eq, dropWindows_closedWindows]
  have hsplit : sizes state.closedWindows =
      sizes (state.closedWindows.takeWhile (expired now)) +
        sizes (state.closedWindows.dropWhile (expired now)) := by
    rw [← sizes_append, List.takeWhile_append_dropWhile]
  apply pruneOversize_keeps _ _ hfits
  · rw [hclosed, pruneExpired_eq, dropWindows_closedWindows, dropWindows_eq _ hdropped]
    show state.retainedWindowBytes - sizes _ = _
    omega
  · rw [hclosed]
    obtain ⟨before, hbefore⟩ := hsuffix
    rw [← hbefore, List.dropWhile_append]
    split
    · -- All windows before it are expired, and the loop stops at the fresh one.
      have hkept : (oldest :: rest).dropWhile (expired now) = oldest :: rest :=
        List.dropWhile_cons_of_neg (by rw [hfresh]; exact Bool.false_ne_true)
      exact ⟨[], hkept.symm⟩
    · exact List.suffix_append _ _

/-! ## Closing and rolling -/

/-- The window that closing the open one at `windowStart` makes. -/
def closingWindow (reporter : Reporter) (windowStart : Nat) (state : State) :
    CounterWindow where
  id := state.nextWindowId
  windowStart := windowStart
  rows := state.currentCounters
  sizeBytes := reporter.library.windowSize state.currentCounters

/-- Closing does nothing without an open row, and leaves the minute of the window. -/
theorem closeCurrentWindow_of_nil (reporter : Reporter) (now : Nat) {state : State}
    (h : state.currentCounters = []) : closeCurrentWindow reporter now state = state := by
  unfold closeCurrentWindow
  split
  · rfl
  · exact if_pos (List.isEmpty_iff.mpr h)

/-- With an open row, and a minute for its window, it closes the window and prunes. -/
theorem closeCurrentWindow_of_ne_nil (reporter : Reporter) (now : Nat) {state : State}
    {windowStart : Nat} (hstart : state.currentWindowStart = some windowStart)
    (h : state.currentCounters ≠ []) :
    closeCurrentWindow reporter now state =
      pruneWindows reporter now (pushWindow reporter now windowStart state) := by
  rw [closeCurrentWindow, hstart]
  exact if_neg (mt List.isEmpty_iff.mp h)

/-- Closing leaves the state, or closes the open window. -/
theorem closeCurrentWindow_cases (reporter : Reporter) (now : Nat) (state : State) :
    closeCurrentWindow reporter now state = state ∨
      ∃ windowStart, state.currentWindowStart = some windowStart ∧
        state.currentCounters ≠ [] ∧
        closeCurrentWindow reporter now state =
          pruneWindows reporter now (pushWindow reporter now windowStart state) := by
  by_cases hrows : state.currentCounters = []
  · exact .inl (closeCurrentWindow_of_nil reporter now hrows)
  · cases hstart : state.currentWindowStart with
    | none => exact .inl (by rw [closeCurrentWindow, hstart])
    | some windowStart =>
        exact .inr ⟨windowStart, rfl, hrows,
          closeCurrentWindow_of_ne_nil reporter now hstart hrows⟩

/-- Dropping windows does not touch the minute of the open one. -/
theorem dropWindows_currentWindowStart (gone : List CounterWindow) (state : State) :
    (dropWindows gone state).currentWindowStart = state.currentWindowStart := by
  induction gone generalizing state with
  | nil => rfl
  | cons window rest ih => exact ih (dropWindow window state)

/-- Neither does pruning. -/
theorem pruneWindows_currentWindowStart (reporter : Reporter) (now : Nat) (state : State) :
    (pruneWindows reporter now state).currentWindowStart = state.currentWindowStart := by
  obtain ⟨gone, kept, -, -, hpruned⟩ := pruneWindows_eq reporter now state
  rw [hpruned, dropWindows_currentWindowStart]

/-- Rolling leaves the state, moves the minute of a window without rows, or closes the open window.
-/
theorem rollWindow_cases (reporter : Reporter) (now : Nat) (state : State) :
    (rollWindow reporter now state = state ∧
      ∃ current, state.currentWindowStart = some current ∧ minuteStart now ≤ current) ∨
    (rollWindow reporter now state =
        { state with currentWindowStart := some (minuteStart now) } ∧
      (state.currentWindowStart = none ∨ state.currentCounters = [])) ∨
    ∃ windowStart, state.currentWindowStart = some windowStart ∧
      state.currentCounters ≠ [] ∧ windowStart < minuteStart now ∧
      rollWindow reporter now state =
        pruneWindows reporter now (pushWindow reporter now windowStart state) := by
  cases hcurrent : state.currentWindowStart with
  | none => exact .inr (.inl ⟨by rw [rollWindow, hcurrent], .inl rfl⟩)
  | some current =>
      by_cases hlater : current < minuteStart now
      · have hroll : rollWindow reporter now state =
            { closeCurrentWindow reporter now state with
              currentWindowStart := some (minuteStart now) } := by
          rw [rollWindow, hcurrent]
          exact if_pos hlater
        by_cases hrows : state.currentCounters = []
        · refine .inr (.inl ⟨?_, .inr hrows⟩)
          rw [hroll, closeCurrentWindow_of_nil reporter now hrows]
        · refine .inr (.inr ⟨current, rfl, hrows, hlater, ?_⟩)
          -- `pushWindow` has moved the minute already.
          have hminute : (pruneWindows reporter now
              (pushWindow reporter now current state)).currentWindowStart =
                some (minuteStart now) :=
            pruneWindows_currentWindowStart reporter now _
          rw [hroll, closeCurrentWindow_of_ne_nil reporter now hcurrent hrows, ← hminute]
      · refine .inl ⟨?_, current, rfl, Nat.le_of_not_lt hlater⟩
        rw [rollWindow, hcurrent]
        exact if_neg hlater

/-! ## One relation for all of them -/

/-- What the window operations can do: close the open window if it has rows (`closing`),
and take windows off the front (`gone`), counting every row. The minute of an open window
that has rows does not move unless that window closes. -/
structure Settles (reporter : Reporter) (state state' : State) : Prop where
  windows : ∃ (closing gone kept : List CounterWindow) (start : Option Nat) (retained : Nat),
    (closing = [] ∧ (state.currentCounters ≠ [] →
        ∀ minute, state.currentWindowStart = some minute → start = some minute) ∨
      ∃ windowStart, state.currentCounters ≠ [] ∧
        (∀ minute, state.currentWindowStart = some minute → windowStart = minute) ∧
        closing = [closingWindow reporter windowStart state]) ∧
    state.closedWindows ++ closing = gone ++ kept ∧
    state' =
      { state with
        currentWindowStart := start
        currentCounters := if closing.isEmpty then state.currentCounters else []
        closedWindows := kept
        nextWindowId := state.nextWindowId + closing.length
        retainedWindowBytes := retained
        droppedSinceLast := U64.saturatingAdd state.droppedSinceLast (rowCount gone) }

/-- Moving the minute of an open window without rows settles. -/
theorem settles_start (reporter : Reporter) {state : State} {start : Option Nat}
    (h : state.droppedSinceLast ≤ U64.max)
    (hstart : state.currentCounters ≠ [] →
      ∀ minute, state.currentWindowStart = some minute → start = some minute) :
    Settles reporter state { state with currentWindowStart := start } := by
  refine ⟨[], [], state.closedWindows, start, state.retainedWindowBytes, .inl ⟨rfl, hstart⟩,
    ?_, ?_⟩
  · rw [List.append_nil, List.nil_append]
  · rw [rowCount_nil, U64.saturatingAdd_zero h]
    rfl

/-- Nothing to do settles, if the count is in range. -/
theorem Settles.refl (reporter : Reporter) {state : State}
    (h : state.droppedSinceLast ≤ U64.max) : Settles reporter state state :=
  settles_start reporter h fun _ _ hminute => hminute

/-- Pruning settles: it drops windows from the old end and closes none. -/
theorem settles_pruneWindows (reporter : Reporter) (now : Nat) {state : State}
    (h : state.droppedSinceLast ≤ U64.max) :
    Settles reporter state (pruneWindows reporter now state) := by
  obtain ⟨gone, kept, hsplit, -, hpruned⟩ := pruneWindows_state reporter now h
  refine ⟨[], gone, kept, state.currentWindowStart, state.retainedWindowBytes - sizes gone,
    .inl ⟨rfl, fun _ _ hminute => hminute⟩, ?_, hpruned⟩
  rw [List.append_nil, hsplit]

/-- Closing the open window and pruning settles. -/
theorem settles_push_prune (reporter : Reporter) (now : Nat) {windowStart : Nat}
    {state : State} (h : state.droppedSinceLast ≤ U64.max)
    (hstart : state.currentWindowStart = some windowStart)
    (hrows : state.currentCounters ≠ []) :
    Settles reporter state
      (pruneWindows reporter now (pushWindow reporter now windowStart state)) := by
  have hdropped : (pushWindow reporter now windowStart state).droppedSinceLast ≤ U64.max := h
  obtain ⟨gone, kept, hsplit, -, hpruned⟩ := pruneWindows_state reporter now hdropped
  refine ⟨[closingWindow reporter windowStart state], gone, kept, some (minuteStart now),
    (pushWindow reporter now windowStart state).retainedWindowBytes - sizes gone,
    .inr ⟨windowStart, hrows, fun minute hminute => ?_, rfl⟩, hsplit, hpruned⟩
  rw [hstart] at hminute
  cases hminute
  rfl

/-- Two operations in a row settle. A window can close in only one of them: the first
leaves no open row behind if it closes one. -/
theorem Settles.trans {reporter : Reporter} {a b c : State} (hab : Settles reporter a b)
    (hbc : Settles reporter b c) : Settles reporter a c := by
  obtain ⟨closing, gone, kept, start, retained, hclosing, hsplit, rfl⟩ := hab.windows
  obtain ⟨closing', gone', kept', start', retained', hclosing', hsplit', rfl⟩ := hbc.windows
  have hkept : kept ++ closing' = gone' ++ kept' := hsplit'
  rcases hclosing with ⟨rfl, hstart⟩ | ⟨windowStart, hrows, hstart, rfl⟩
  · refine ⟨closing', gone ++ gone', kept', start', retained', ?_, ?_, ?_⟩
    · rcases hclosing' with ⟨rfl, hstart'⟩ | ⟨windowStart, hrows, hstart', rfl⟩
      · refine .inl ⟨rfl, fun hrows minute hminute => ?_⟩
        exact hstart' hrows minute (hstart hrows minute hminute)
      · refine .inr ⟨windowStart, hrows, fun minute hminute => ?_, rfl⟩
        exact hstart' minute (hstart hrows minute hminute)
    · rw [List.append_nil] at hsplit
      rw [hsplit, List.append_assoc, hkept, List.append_assoc]
    · rw [rowCount_append, ← U64.saturatingAdd_assoc]
      rfl
  · -- The first part closed the window, so that no row is open for the second.
    rcases hclosing' with ⟨rfl, -⟩ | ⟨_, hopen, -⟩
    · refine ⟨[closingWindow reporter windowStart a], gone ++ gone', kept', start', retained',
        .inr ⟨windowStart, hrows, hstart, rfl⟩, ?_, ?_⟩
      · rw [List.append_nil] at hkept
        rw [hsplit, hkept, List.append_assoc]
      · rw [rowCount_append, ← U64.saturatingAdd_assoc]
        rfl
    · exact absurd rfl hopen

/-- What settled keeps its drop count in range. -/
theorem Settles.dropped_le {reporter : Reporter} {state state' : State}
    (h : Settles reporter state state') : state'.droppedSinceLast ≤ U64.max := by
  obtain ⟨_, _, _, _, _, _, _, rfl⟩ := h.windows
  exact U64.saturatingAdd_le_max _ _

/-- Rolling settles, in each of its three cases. -/
theorem settles_rollWindow (reporter : Reporter) (now : Nat) {state : State}
    (h : state.droppedSinceLast ≤ U64.max) :
    Settles reporter state (rollWindow reporter now state) := by
  rcases rollWindow_cases reporter now state with
    ⟨hroll, -⟩ | ⟨hroll, hopen⟩ | ⟨_, hstart, hrows, -, hroll⟩
  · rw [hroll]
    exact Settles.refl reporter h
  · rw [hroll]
    refine settles_start reporter h fun hrows minute hminute => ?_
    rcases hopen with hnone | hnil
    · rw [hnone] at hminute
      cases hminute
    · exact absurd hnil hrows
  · rw [hroll]
    exact settles_push_prune reporter now h hstart hrows

/-- Closing settles, with an open row and without one. -/
theorem settles_closeCurrentWindow (reporter : Reporter) (now : Nat) {state : State}
    (h : state.droppedSinceLast ≤ U64.max) :
    Settles reporter state (closeCurrentWindow reporter now state) := by
  rcases closeCurrentWindow_cases reporter now state with hclose | ⟨_, hstart, hrows, hclose⟩
  · rw [hclose]
    exact Settles.refl reporter h
  · rw [hclose]
    exact settles_push_prune reporter now h hstart hrows

/-- The windows part of `select_batch` settles: a roll, a close and a pruning in a row. -/
theorem settles_settleWindows (reporter : Reporter) (now : Nat) {state : State}
    (h : state.droppedSinceLast ≤ U64.max) :
    Settles reporter state (settleWindows reporter now state) := by
  have hroll := settles_rollWindow reporter now h
  have hclose := settles_closeCurrentWindow reporter now hroll.dropped_le
  have hprune := settles_pruneWindows reporter now hclose.dropped_le
  exact (hroll.trans hclose).trans hprune

end TrustedRouter.Proofs.Telemetry
