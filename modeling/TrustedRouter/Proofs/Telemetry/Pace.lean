import TrustedRouter.Proofs.Telemetry.Accounting

/-!
# `TrustedRouter.Proofs.Telemetry.Pace`: what the buffers leave alone

The state of the reporter has two halves. One is what it holds: events, windows, counts.
The other is when it sends: the sample rate, the intervals, the pauses, and the deadlines of
the worker. This file has one frame lemma for every operation of the first half: it leaves
the second half as it was. `pace` is that second half.

Results about the settings (`Proofs.Telemetry.Quiet`) and about the deadlines
(`Proofs.Telemetry.Spacing`) read these lemmas at the part they are about.
-/

set_option autoImplicit false

namespace TrustedRouter.Proofs.Telemetry

open TrustedRouter.Telemetry

/-- What decides how much the reporter samples and how long it waits. -/
structure Settings where
  successSampleRate : Rat
  flushInterval : Nat
  backoff : Nat
  backoffUntil : Nat
  pausedUntil : Nat

/-- The settings of a state. -/
def settings (state : State) : Settings where
  successSampleRate := state.successSampleRate
  flushInterval := state.flushInterval
  backoff := state.backoff
  backoffUntil := state.backoffUntil
  pausedUntil := state.pausedUntil

/-- What the worker waits for, and whether it is spawned. -/
def deadlines (state : State) : Nat × Nat × Bool :=
  (state.nextFlushAt, state.urgentNotBefore, state.workerStarted)

/-- The half of the state that says when to send. -/
def pace (state : State) : Settings × Nat × Nat × Bool := (settings state, deadlines state)

/-- A frame lemma about `pace`, read at the settings: results about the sample rate and the pauses
do not mention the deadlines. -/
theorem settings_of_pace {a b : State} (h : pace a = pace b) : settings a = settings b :=
  congrArg Prod.fst h

/-- A frame lemma about `pace`, read at the deadlines of the worker. -/
theorem deadlines_of_pace {a b : State} (h : pace a = pace b) : deadlines a = deadlines b :=
  congrArg Prod.snd h

/-- Dropping expired windows touches the closed windows, their bytes and the count of losses.
The induction is on the windows still to be looked at, over every state, since each drop is
counted. -/
@[simp] theorem pace_pruneExpired (now : Nat) (windows : List CounterWindow) (state : State) :
    pace (pruneExpired now windows state) = pace state := by
  induction windows generalizing state with
  | nil => rfl
  | cons oldest rest ih =>
      unfold pruneExpired
      split
      · exact ih _
      · rfl

/-- Dropping windows past the byte limit touches the same fields, by the same induction. -/
@[simp] theorem pace_pruneOversize (retentionBytes : Nat) (windows : List CounterWindow)
    (state : State) : pace (pruneOversize retentionBytes windows state) = pace state := by
  induction windows generalizing state with
  | nil => rfl
  | cons oldest rest ih =>
      unfold pruneOversize
      split
      · exact ih _
      · rfl

/-- Both prunings, one after the other. -/
@[simp] theorem pace_pruneWindows (reporter : Reporter) (now : Nat) (state : State) :
    pace (pruneWindows reporter now state) = pace state := by
  simp [pruneWindows]

/-- Closing a window moves its counters to the closed windows and prunes those. Without a window,
or without a counter in it, there is nothing to close. -/
@[simp] theorem pace_closeCurrentWindow (reporter : Reporter) (now : Nat) (state : State) :
    pace (closeCurrentWindow reporter now state) = pace state := by
  unfold closeCurrentWindow
  split
  · rfl
  · split
    · rfl
    · exact pace_pruneWindows reporter now _

/-- A window is opened when there is none, and closed when its minute is over. Neither says
anything about when to send. -/
@[simp] theorem pace_rollWindow (reporter : Reporter) (now : Nat) (state : State) :
    pace (rollWindow reporter now state) = pace state := by
  unfold rollWindow
  split
  · rfl
  · split
    · exact pace_closeCurrentWindow reporter now state
    · rfl

/-- A sample that the schema cannot carry is counted, and nothing more. -/
@[simp] theorem pace_countInvalid (record : Record) (state : State) :
    pace (countInvalid record state) = pace state := by
  unfold countInvalid
  split <;> rfl

/-- A dropped event leaves the buffer and is counted. -/
theorem pace_dropBufferedEvent (state : State) : pace (dropBufferedEvent state) = pace state := by
  unfold dropBufferedEvent
  dsimp only
  split <;> rfl

/-- Buffering an event may push another one out. The sample rate that decided on it is read, not
written. -/
@[simp] theorem pace_bufferSample (library : Library) (record : Record) (state : State) :
    pace (bufferSample library record state) = pace state := by
  unfold bufferSample
  split
  · unfold appendEvent
    dsimp only
    split
    · exact pace_dropBufferedEvent state
    · rfl
  · rfl

/-- A buffer that has grown enough raises the urgent flag. The flag is not part of the pace: the
worker may send early because of it, and no deadline moves. -/
@[simp] theorem pace_markUrgent (state : State) : pace (markUrgent state) = pace state := by
  unfold markUrgent
  split <;> rfl

/-- Starting the worker sets its deadlines and leaves the settings. This is the one step of
`on_request` that does not keep the whole pace. -/
@[simp] theorem settings_startWorker (runtime : Bool) (now : Nat) (state : State) :
    settings (startWorker runtime now state) = settings state := by
  unfold startWorker
  split <;> rfl

/-- Everything `on_request` does before it may start the worker: rolling the window, merging the
counters, counting an invalid record and buffering a sample. -/
theorem pace_recorded (reporter : Reporter) (record : Record) (state : State) :
    pace (bufferSample reporter.library record (countInvalid record
      (mergeCounters record.counters (rollWindow reporter record.now state)))) = pace state := by
  rw [pace_bufferSample, pace_countInvalid]
  exact pace_rollWindow reporter record.now state

/-- Selecting a batch settles the windows, and uses up a sequence number when there is something
to send. -/
theorem pace_selectBatch (reporter : Reporter) (fresh : Fresh) (now : Nat) (state : State) :
    pace (selectBatch reporter fresh now state).2 = pace state := by
  have hsettled : pace (settleWindows reporter now state) = pace state := by
    simp [settleWindows]
  unfold selectBatch
  dsimp only
  split
  · exact hsettled
  · exact hsettled

/-- A turn of the worker may take the urgent flag down. The deadlines move after the flush that
follows, in `workerFlushed`. -/
theorem pace_workerTurn (now : Nat) (state : State) : pace (workerTurn now state) = pace state := by
  unfold workerTurn
  split <;> rfl

end TrustedRouter.Proofs.Telemetry
