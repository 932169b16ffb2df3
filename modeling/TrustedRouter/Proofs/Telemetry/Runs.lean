import TrustedRouter.Proofs.Telemetry.Invariant

/-!
# `TrustedRouter.Proofs.Telemetry.Runs`: what every reachable state satisfies

An `Op` is one of the operations under the mutex, with the time its clock read. `Sound` is
the invariant that each of them keeps, and so every run of them (`applyAll_sound`).

`Holds` follows the increments of one call through a run. While their window is open, the
open window is of the minute of the call. After that the closed window is. When the reporter
is disabled both are gone.
-/

set_option autoImplicit false

namespace TrustedRouter.Proofs.Telemetry

open TrustedRouter.Telemetry
open Rust
open Rust.Duration

/-! ## Operations -/

/-- One of the operations that run under the mutex. -/
inductive Op where
  | request (record : Record)
  | select (fresh : Fresh) (now : Nat)
  | respond (answer : Answer) (selected : Selected)
  | prune (now : Nat)

/-- When the operation read the clock. -/
def Op.now : Op → Nat
  | .request record => record.now
  | .select _ now => now
  | .respond answer _ => answer.now
  | .prune now => now

/-- What the operation does to the state. -/
def Op.apply (reporter : Reporter) (state : State) : Op → State
  | .request record => onRequest reporter record state
  | .select fresh now => (selectBatch reporter fresh now state).2
  | .respond answer selected => handleResponse reporter.library answer selected state
  | .prune now => pruneWindows reporter now state

/-- The operations one after another, in the order they took the mutex. -/
def applyAll (reporter : Reporter) (state : State) (ops : List Op) : State :=
  ops.foldl (Op.apply reporter) state

/-- The invariant that every operation keeps. -/
structure Sound (reporter : Reporter) (now : Nat) (state : State) : Prop where
  wellFormed : WellFormed reporter state
  clocked : Clocked now state
  retained : state.retainedWindowBytes ≤ reporter.retentionBytes

/-- The invariant is about the buffers only. -/
theorem Sound.of_same {reporter : Reporter} {now : Nat} {state state' : State}
    (h : Sound reporter now state) (hsame : SameBuffers state state') :
    Sound reporter now state' :=
  ⟨h.wellFormed.of_same hsame, h.clocked.of_same hsame, hsame.retainedWindowBytes ▸ h.retained⟩

/-- Pruning keeps the invariant. -/
theorem Sound.pruneWindows {reporter : Reporter} {now : Nat} {state : State}
    (h : Sound reporter now state) : Sound reporter now (pruneWindows reporter now state) :=
  ⟨h.wellFormed.pruneWindows now, h.clocked.pruneWindows h.wellFormed.dropped now,
    pruneWindows_fits h.wellFormed now⟩

/-- Rolling keeps it, at the time of the roll. -/
theorem Sound.rollWindow {reporter : Reporter} {now : Nat} {state : State}
    (h : Sound reporter now state) : Sound reporter now (rollWindow reporter now state) :=
  ⟨h.wellFormed.rollWindow now, (h.clocked.rollWindow reporter h.wellFormed.dropped).1,
    rollWindow_retained_le h.wellFormed now h.retained⟩

/-- `on_request` keeps the invariant. -/
theorem Sound.onRequest {reporter : Reporter} {state : State} {record : Record}
    (h : Sound reporter record.now state) :
    Sound reporter record.now (onRequest reporter record state) := by
  cases haccepted : state.disabled || state.closed with
  | true =>
      rw [Telemetry.onRequest, if_pos haccepted]
      exact h
  | false =>
      have hrecorded := onRequest_recorded record h.wellFormed haccepted
      obtain ⟨hclocked, hstart⟩ := h.clocked.rollWindow reporter h.wellFormed.dropped
      refine ⟨h.wellFormed.onRequest record, ?_, ?_⟩
      · refine hclocked.of_sublist hrecorded.currentWindowStart ?_ ?_
        · intro _ hnone
          rw [hrecorded.currentWindowStart, hstart] at hnone
          cases hnone
        · rw [hrecorded.closedWindows]
      · rw [hrecorded.retainedWindowBytes]
        exact rollWindow_retained_le h.wellFormed record.now h.retained

/-- `select_batch` keeps the invariant: it settles the windows, and the rest of it reads. -/
theorem Sound.selectBatch {reporter : Reporter} {now : Nat} {state : State}
    (h : Sound reporter now state) (fresh : Fresh) :
    Sound reporter now (selectBatch reporter fresh now state).2 := by
  have hroll := h.rollWindow
  have hclose := hroll.wellFormed.closeCurrentWindow now
  refine Sound.of_same ?_ (selectBatch_state reporter fresh now state)
  refine ⟨hclose.pruneWindows now, ?_, pruneWindows_fits hclose now⟩
  exact (hroll.clocked.closeCurrentWindow hroll.wellFormed.dropped).pruneWindows
    hclose.dropped now

/-- Removing a batch keeps it. -/
theorem Sound.removeSelected {reporter : Reporter} (hsize : SizeMonotone reporter.library)
    {now : Nat} {state : State} (h : Sound reporter now state) (eventIds : List Nat)
    (refs : List CounterRef) :
    Sound reporter now (removeSelected reporter.library eventIds refs state) :=
  ⟨h.wellFormed.removeSelected eventIds refs,
    h.clocked.removeSelected h.wellFormed eventIds refs,
    Nat.le_trans (removeSelected_retained_le hsize h.wellFormed eventIds refs) h.retained⟩

/-- The count of losses may be any `u64`. -/
theorem Sound.withDropped {reporter : Reporter} {now : Nat} {state : State}
    (h : Sound reporter now state) {dropped : Nat} (hle : dropped ≤ U64.max) :
    Sound reporter now { state with droppedSinceLast := dropped } :=
  ⟨h.wellFormed.withDropped hle,
    ⟨h.clocked.openStart, h.clocked.openSome, h.clocked.sorted, h.clocked.closedLe⟩,
    h.retained⟩

/-- Clearing everything keeps it: empty buffers are in order, and their sizes are zero. -/
theorem Sound.disable {reporter : Reporter} {now : Nat} {state : State}
    (h : Sound reporter now state) : Sound reporter now (disable state) :=
  ⟨.disable reporter state,
    ⟨h.clocked.openStart, fun hrows => absurd rfl hrows, .nil,
      fun _ hmem => (List.not_mem_nil hmem).elim⟩,
    Nat.zero_le _⟩

/-- `handle_response` keeps the invariant, whatever it is told was selected. -/
theorem Sound.handleResponse {reporter : Reporter} (hsize : SizeMonotone reporter.library)
    {state : State} {answer : Answer} (h : Sound reporter answer.now state)
    (selected : Selected) :
    Sound reporter answer.now (handleResponse reporter.library answer selected state) := by
  have hremoved := h.removeSelected hsize selected.eventIds selected.counterRefs
  unfold Telemetry.handleResponse
  cases answer.verdict with
  | disables => exact h.disable
  | accepts =>
      refine Sound.of_same ?_
        (acceptBatch_state reporter.library answer.body answer.now selected state)
      exact hremoved.withDropped (Nat.le_trans (Nat.sub_le ..) hremoved.wellFormed.dropped)
  | rejects => exact hremoved.withDropped (U64.saturatingAdd_le_max _ _)
  | backsOff => exact h.of_same (sameBuffers_setBackoff _ _ _)

/-- One operation, at a time that is not before the last. -/
theorem Sound.apply {reporter : Reporter} (hsize : SizeMonotone reporter.library)
    {now : Nat} {state : State} (h : Sound reporter now state) {op : Op}
    (hle : now ≤ op.now) : Sound reporter op.now (op.apply reporter state) := by
  have hlater : Sound reporter op.now state :=
    ⟨h.wellFormed, h.clocked.later hle, h.retained⟩
  cases op with
  | request record => exact hlater.onRequest
  | select fresh now => exact hlater.selectBatch fresh
  | respond answer selected => exact hlater.handleResponse hsize selected
  | prune now => exact hlater.pruneWindows

/-- A run, with a clock that does not go back. -/
theorem Sound.applyAll {reporter : Reporter} (hsize : SizeMonotone reporter.library)
    {now : Nat} {state : State} (h : Sound reporter now state) {ops : List Op}
    (hclock : (now :: ops.map Op.now).Pairwise (· ≤ ·)) :
    ∃ last, Sound reporter last (applyAll reporter state ops) ∧
      ∀ later, now ≤ later → (∀ op ∈ ops, op.now ≤ later) → last ≤ later := by
  induction ops generalizing now state with
  | nil => exact ⟨now, h, fun later hle _ => hle⟩
  | cons op rest ih =>
      obtain ⟨hfirst, hrest⟩ := List.pairwise_cons.mp hclock
      obtain ⟨last, hlast, hbefore⟩ :=
        ih (h.apply hsize (hfirst op.now (List.mem_cons_self ..))) hrest
      refine ⟨last, hlast, fun later _ hall => hbefore later ?_ ?_⟩
      · exact hall op (List.mem_cons_self ..)
      · exact fun other hother => hall other (List.mem_cons_of_mem _ hother)

/-- The increments that went into the window `id` in the minute `minute`: their window is
open with that minute, or it was closed with it, or everything was cleared. -/
inductive Holds (id minute : Nat) (state : State) : Prop where
  | isOpen (hid : state.nextWindowId = id) (hrows : state.currentCounters ≠ [])
      (hstart : state.currentWindowStart = some minute)
  | isClosed (hid : id < state.nextWindowId)
      (hstart : ∀ window ∈ state.closedWindows, window.id = id → window.windowStart = minute)
  | isCleared (hdisabled : state.disabled = true) (hcounters : state.currentCounters = [])
      (hwindows : state.closedWindows = [])

/-- The window operations keep it. -/
theorem Holds.settles {reporter : Reporter} {id minute : Nat} {state state' : State}
    (h : Holds id minute state) (hok : WellFormed reporter state)
    (hsettles : Settles reporter state state') : Holds id minute state' := by
  obtain ⟨closing, gone, kept, start, retained, hclosing, hsplit, rfl⟩ := hsettles.windows
  have hkept : ∀ window ∈ kept, window ∈ state.closedWindows ∨ window ∈ closing := by
    intro window hwindow
    apply List.mem_append.mp
    rw [hsplit]
    exact List.mem_append_right gone hwindow
  cases h with
  | isOpen hid hrows hstart =>
      rcases hclosing with ⟨rfl, hsame⟩ | ⟨windowStart, -, hminute, rfl⟩
      · exact .isOpen hid hrows (hsame hrows minute hstart)
      · refine .isClosed (hid ▸ Nat.lt_succ_self _) fun window hwindow heq => ?_
        rcases hkept window hwindow with hold | hnew
        · -- A closed window has an id below the counter, and this is the counter.
          have hlt := hok.windows.below window hold
          omega
        · rw [List.mem_singleton.mp hnew]
          exact hminute minute hstart
  | isClosed hid hstart =>
      refine .isClosed (Nat.lt_of_lt_of_le hid (Nat.le_add_right _ _)) fun window hwindow heq => ?_
      rcases hkept window hwindow with hold | hnew
      · exact hstart window hold heq
      · rcases hclosing with ⟨rfl, -⟩ | ⟨windowStart, -, -, rfl⟩
        · cases hnew
        · rw [List.mem_singleton.mp hnew] at heq
          exact absurd heq (Nat.ne_of_gt hid)
  | isCleared hdisabled hcounters hwindows =>
      rcases hclosing with ⟨rfl, -⟩ | ⟨_, hrows, -⟩
      · refine .isCleared hdisabled hcounters (List.eq_nil_iff_forall_not_mem.mpr ?_)
        intro window hwindow
        rcases hkept window hwindow with hold | hnew
        · rw [hwindows] at hold
          cases hold
        · cases hnew
      · exact absurd hcounters hrows

/-- `on_request` keeps it. -/
theorem Holds.onRequest {reporter : Reporter} {id minute : Nat} {state : State}
    (h : Holds id minute state) (hok : WellFormed reporter state) (record : Record) :
    Holds id minute (onRequest reporter record state) := by
  cases haccepted : state.disabled || state.closed with
  | true =>
      rw [Telemetry.onRequest, if_pos haccepted]
      exact h
  | false =>
      have hrecorded := onRequest_recorded record hok haccepted
      have hsettles := settles_rollWindow reporter record.now hok.dropped
      cases h.settles hok hsettles with
      | isOpen hid hrows hstart =>
          refine .isOpen (hrecorded.nextWindowId.trans hid) ?_
            (hrecorded.currentWindowStart.trans hstart)
          rw [hrecorded.currentCounters]
          exact mergeCounters_ne_nil record.counters _ (.inr hrows)
      | isClosed hid hstart =>
          refine .isClosed (hrecorded.nextWindowId ▸ hid) ?_
          rw [hrecorded.closedWindows]
          exact hstart
      | isCleared hdisabled =>
          -- A disabled reporter does not record the call.
          rw [hsettles.sameEvents.disabled] at hdisabled
          rw [hdisabled] at haccepted
          cases haccepted

/-- Removing rows of closed windows keeps it. -/
theorem Holds.removeSelected {reporter : Reporter} {id minute : Nat} {state : State}
    (h : Holds id minute state) (hok : WellFormed reporter state) (eventIds : List Nat)
    (refs : List CounterRef) :
    Holds id minute (removeSelected reporter.library eventIds refs state) := by
  rw [removeSelected_eq hok.windows]
  cases h with
  | isOpen hid hrows hstart => exact .isOpen hid hrows hstart
  | isClosed hid hstart =>
      refine .isClosed hid fun window hwindow heq => ?_
      obtain ⟨⟨before, hbefore, rfl⟩, -⟩ := mem_retired.mp hwindow
      exact hstart before hbefore heq
  | isCleared hdisabled hcounters hwindows =>
      refine .isCleared hdisabled hcounters ?_
      rw [hwindows]
      rfl

/-- Where an increment is depends on the buffers only. -/
theorem Holds.of_same {id minute : Nat} {state state' : State} (h : Holds id minute state)
    (hsame : SameBuffers state state') : Holds id minute state' := by
  cases h with
  | isOpen hid hrows hstart =>
      exact .isOpen (hsame.nextWindowId.trans hid) (hsame.currentCounters ▸ hrows)
        (hsame.currentWindowStart.trans hstart)
  | isClosed hid hstart =>
      exact .isClosed (hsame.nextWindowId ▸ hid) (hsame.closedWindows ▸ hstart)
  | isCleared hdisabled hcounters hwindows =>
      exact .isCleared (hsame.disabled.trans hdisabled)
        (hsame.currentCounters.trans hcounters) (hsame.closedWindows.trans hwindows)

/-- It does not depend on the count of losses. -/
theorem Holds.withDropped {id minute : Nat} {state : State} (h : Holds id minute state)
    (dropped : Nat) : Holds id minute { state with droppedSinceLast := dropped } := by
  cases h with
  | isOpen hid hrows hstart => exact .isOpen hid hrows hstart
  | isClosed hid hstart => exact .isClosed hid hstart
  | isCleared hdisabled hcounters hwindows => exact .isCleared hdisabled hcounters hwindows

/-- A response removes rows of closed windows, or clears everything. -/
theorem Holds.handleResponse {reporter : Reporter} {id minute : Nat} {state : State}
    (h : Holds id minute state) (hok : WellFormed reporter state) (answer : Answer)
    (selected : Selected) :
    Holds id minute (handleResponse reporter.library answer selected state) := by
  have hremoved := h.removeSelected hok selected.eventIds selected.counterRefs
  unfold Telemetry.handleResponse
  cases answer.verdict with
  | disables => exact .isCleared rfl rfl rfl
  | accepts =>
      exact (hremoved.withDropped _).of_same
        (acceptBatch_state reporter.library answer.body answer.now selected state)
  | rejects => exact hremoved.withDropped _
  | backsOff => exact h.of_same (sameBuffers_setBackoff _ _ _)

/-- Each of the four operations keeps it. -/
theorem Holds.apply {reporter : Reporter} {id minute : Nat} {state : State}
    (h : Holds id minute state) (hok : WellFormed reporter state) (op : Op) :
    Holds id minute (op.apply reporter state) := by
  cases op with
  | request record => exact h.onRequest hok record
  | select fresh now =>
      exact (h.settles hok (settles_settleWindows reporter now hok.dropped)).of_same
        (selectBatch_state reporter fresh now state)
  | respond answer selected => exact h.handleResponse hok answer selected
  | prune now => exact h.settles hok (settles_pruneWindows reporter now hok.dropped)

/-- Each of them keeps the state well-formed, whatever the clock says. -/
theorem WellFormed.apply {reporter : Reporter} {state : State}
    (h : WellFormed reporter state) (op : Op) : WellFormed reporter (op.apply reporter state) := by
  cases op with
  | request record => exact h.onRequest record
  | select fresh now => exact h.selectBatch fresh now
  | respond answer selected => exact h.handleResponse answer selected
  | prune now => exact h.pruneWindows now

/-- Through any later operations, by induction. -/
theorem Holds.applyAll {reporter : Reporter} {id minute : Nat} {state : State}
    (h : Holds id minute state) (hok : WellFormed reporter state) (ops : List Op) :
    Holds id minute (applyAll reporter state ops) := by
  induction ops generalizing state with
  | nil => exact h
  | cons op rest ih => exact ih (h.apply hok op) (hok.apply op)

/-- The row of one call, as it is serialised. -/
def sampleRowJson : String :=
  "\x7b\"window_start_age_ms\":0,\"level\":\"request\"," ++
    "\"endpoint\":\"chat_completions\",\"streaming\":false,\"host\":\"apex\"," ++
    "\"outcome\":\"ok\",\"error_class\":null,\"http_status_class\":\"2xx\"," ++
    "\"timeout_phase\":\"none\",\"timeout_floor_met\":false,\"provider_pinned\":false," ++
    "\"requests\":1,\"attempts\":1,\"failover_used\":0,\"first_attempt_success\":1," ++
    "\"total_ms_hist\":\x7b\x7d,\"first_event_ms_hist\":\x7b\x7d\x7d"

/-- The end of a list of `count` more rows, as it is serialised. -/
def rowsTail (row : String) : Nat → String
  | 0 => "]"
  | count + 1 => "," ++ row ++ rowsTail row count

/-- A list of `count` rows, all of them `row`, as it is serialised. -/
def rowsJson (row : String) : Nat → String
  | 0 => "[]"
  | count + 1 => "[" ++ row ++ rowsTail row count

/-- The length of the end of a list of rows, by induction on their number. -/
theorem len_rowsTail (row : String) (count : Nat) :
    Str.len (rowsTail row count) = count * (1 + Str.len row) + 1 := by
  induction count with
  | zero =>
      rw [Nat.zero_mul]
      rfl
  | succ count ih =>
      have hcomma : Str.len "," = 1 := rfl
      simp only [Str.len, rowsTail, String.utf8ByteSize_append] at ih hcomma ⊢
      rw [ih, hcomma, Nat.succ_mul]
      omega

/-- The length of a list of rows that is not empty. -/
theorem len_rowsJson_succ (row : String) (count : Nat) :
    Str.len (rowsJson row (count + 1)) = Str.len row + count * (1 + Str.len row) + 2 := by
  have htail := len_rowsTail row count
  have hopen : Str.len "[" = 1 := rfl
  simp only [Str.len, rowsJson, String.utf8ByteSize_append] at htail hopen ⊢
  omega

/-- A longer list of rows is not serialised shorter. -/
theorem len_rowsJson_mono (row : String) {few many : Nat} (h : few ≤ many) :
    Str.len (rowsJson row few) ≤ Str.len (rowsJson row many) := by
  cases few with
  | zero =>
      cases many with
      | zero => exact Nat.le_refl _
      | succ many =>
          rw [len_rowsJson_succ]
          exact Nat.le_add_left 2 _
  | succ few =>
      cases many with
      | zero => exact absurd h (Nat.not_succ_le_zero few)
      | succ many =>
          have hmul := Nat.mul_le_mul_right (1 + Str.len row) (Nat.le_of_succ_le_succ h)
          rw [len_rowsJson_succ, len_rowsJson_succ]
          omega

/-- A reporter whose library serialises lists of the sample row. Nothing else is asked of
it. -/
def sampleReporter : Reporter where
  library :=
    { eventJson := fun _ => none
      countersJson := fun rows => some (rowsJson sampleRowJson rows.length)
      batchJson := fun _ => none
      read := fun _ => .error "EOF while parsing a value"
      asF64 := fun _ => none
      parseF64 := fun _ => none }
  apiKey := none
  sdk := ⟨"tr-rust", "0.0.0", "rust", "rustc/unknown", "linux", "x64"⟩
  retentionBytes := 524288

/-- A call that succeeded at once. It is counted and not sampled. -/
def sampleCall (now : Nat) : Record where
  now := now
  rate := 0
  draw := 0
  runtime := true
  event :=
    { endpoint := .chatCompletions
      method := .post
      streaming := false
      providerPinned := false
      model := none
      attempts := []
      finalOutcome := .outcome .ok
      finalHttpStatus := some 200
      totalMs := 80
      ttftMs := none
      failoverUsed := false
      timeoutPhase := .none
      configuredTimeoutMs := none }
  counters := [(firstKey, { requests := 1, attempts := 1, firstAttemptSuccess := 1 })]

end TrustedRouter.Proofs.Telemetry
