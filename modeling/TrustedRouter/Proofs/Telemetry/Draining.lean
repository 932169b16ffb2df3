import TrustedRouter.Proofs.Telemetry.Pace
import TrustedRouter.Proofs.Telemetry.Selection

/-!
# `TrustedRouter.Proofs.Telemetry.Draining`: flushes empty the reporter

A reporter that is left alone gets rid of what it holds. `pending` counts that: the buffered
events, the rows of the closed windows and those of the open one. A `Round` is one flush that is
answered 202 without a policy. It takes at least one item off (`Between.after_round`), because
`select_batch` finds an item if there is one, and a 202 retires exactly what was selected. So as
many rounds as there are items are enough (`rounds_drain`).

The rounds need the gate open at their time. It opens by the clock alone: a 202 ends the backoff,
and no round without a policy moves the pause.
-/

set_option autoImplicit false

namespace TrustedRouter.Proofs.Telemetry

open TrustedRouter.Telemetry
open Rust

/-! ## What there is to send -/

/-- The items of a state. -/
def pending (state : State) : Nat :=
  state.events.length + (closedRows state).length + state.currentCounters.length

/-- Settling moves the open rows to a closed window, or drops windows. -/
theorem pending_settleWindows_le (reporter : Reporter) (now : Nat) (state : State) :
    pending (settleWindows reporter now state) ≤ pending state := by
  have hsettled := settled_settleWindows reporter now state
  obtain ⟨gone, hgone⟩ := hsettled.closedWindows
  have hrows := congrArg (fun windows => (rowsOf windows).length) hgone
  have hopen : (rowsOf (openWindow reporter now state)).length ≤ state.currentCounters.length := by
    unfold openWindow
    split
    · exact Nat.zero_le _
    · rw [rowsOf_cons, List.length_append, List.length_map]
      exact Nat.le_refl _
  simp only [rowsOf_append, List.length_append] at hrows
  rw [pending, pending, hsettled.events, hsettled.currentCounters, closedRows, closedRows]
  simp only [List.length_nil]
  omega

/-! ## One round -/

/-- One flush and its answer. -/
structure Round where
  now : Nat
  fresh : Fresh
  answer : Answer

/-- What the round does, step by step. -/
def Round.steps (round : Round) : List Step :=
  [.enter round.now, .select round.fresh, .respond round.answer]

/-- The answer is a 202 without a policy. -/
structure Round.Accepted (library : Library) (round : Round) : Prop where
  verdict : round.answer.verdict = .accepts
  policy : policyOf library round.answer.body = none

/-- What `select_batch` needs of the serialisation in a round: that of the batch it would build. -/
def Round.Serialises (reporter : Reporter) (system : System) (round : Round) : Prop :=
  Telemetry.Serialises reporter.library
    (candidate reporter round.fresh round.now (settleWindows reporter round.now system.state))

/-- The same in every round. -/
def SerialisesAll (reporter : Reporter) : System → List Round → Prop
  | _, [] => True
  | system, round :: rest =>
      round.Serialises reporter system ∧
        SerialisesAll reporter (system.run reporter round.steps) rest

/-- A reporter between two flushes, whose gate is open from a time on. -/
structure Between (reporter : Reporter) (gate : Nat) (system : System) : Prop where
  wellFormed : WellFormed reporter system.state
  idle : system.phase = .idle
  enabled : system.state.disabled = false
  gate : system.state.gate ≤ gate

/-- What `select_batch` selected is taken out, and it was not nothing. -/
theorem pending_retires_lt {library : Library} {now : Nat} {settled state next : State}
    {selected : Selected} {eventCount rowCount : Nat}
    (hchosen : Chosen library now settled selected eventCount rowCount)
    (hevents : state.events = settled.events) (hrows : closedRows state = closedRows settled)
    (hretires : Retires selected state next) : pending next < pending state := by
  have hsome := hchosen.some_item
  have hle := List.length_filter_le (fun buffered : BufferedEvent =>
    !selected.eventIds.contains buffered.id) state.events
  have hrowsLe := List.length_filter_le (fun entry : CounterRef × CounterRow =>
    !selected.counterRefs.contains entry.1) (closedRows state)
  rw [pending, pending, hretires.events, hretires.rows, hretires.currentCounters]
  rcases Nat.eq_zero_or_pos eventCount with hzero | hpos
  · -- A row is selected: the first one of the closed windows.
    have hlt : ((closedRows state).filter fun entry =>
        !selected.counterRefs.contains entry.1).length < (closedRows state).length := by
      rw [List.length_filter_lt_length_iff_exists]
      have hlength := hchosen.rows_le.2
      obtain ⟨first, rest, hcons⟩ := List.exists_cons_of_length_pos
        (show 0 < (closedRows settled).length by omega)
      refine ⟨first, by rw [hrows, hcons]; exact List.mem_cons_self, ?_⟩
      rw [hchosen.counterRefs, hcons]
      obtain ⟨count, rfl⟩ := Nat.exists_eq_succ_of_ne_zero (show rowCount ≠ 0 by omega)
      simp
    omega
  · have hlt : (state.events.filter fun buffered =>
        !selected.eventIds.contains buffered.id).length < state.events.length := by
      rw [List.length_filter_lt_length_iff_exists]
      have hlength := hchosen.events_le.2
      obtain ⟨first, rest, hcons⟩ := List.exists_cons_of_length_pos
        (show 0 < settled.events.length by omega)
      refine ⟨first, by rw [hevents, hcons]; exact List.mem_cons_self, ?_⟩
      rw [hchosen.eventIds, hcons]
      obtain ⟨count, rfl⟩ := Nat.exists_eq_succ_of_ne_zero (show eventCount ≠ 0 by omega)
      simp
    omega

/-- The state after a selection has no more items than before: selecting settles the windows, and
takes nothing out. -/
theorem selectBatch_pending_le (reporter : Reporter) (fresh : Fresh) (now : Nat) (state : State) :
    pending (selectBatch reporter fresh now state).2 ≤ pending state := by
  have hsame := selectBatch_state reporter fresh now state
  refine Nat.le_trans (Nat.le_of_eq ?_) (pending_settleWindows_le reporter now state)
  rw [pending, pending, hsame.events, closedRows, hsame.closedWindows, hsame.currentCounters]

/-- The gate is read off the settings. -/
theorem gate_of_settings {a b : State} (h : settings a = settings b) : a.gate = b.gate := by
  rw [State.gate, State.gate]
  exact congrArg₂ max (congrArg Settings.pausedUntil h) (congrArg Settings.backoffUntil h)

/-- Selecting a batch moves neither the pause nor the backoff, so that the gate is where it was
when the flush entered. -/
theorem gate_selectBatch (reporter : Reporter) (fresh : Fresh) (now : Nat) (state : State) :
    (selectBatch reporter fresh now state).2.gate = state.gate :=
  gate_of_settings (settings_of_pace (pace_selectBatch reporter fresh now state))

/-- A 202 without a policy ends the backoff, and leaves the pause. -/
theorem gate_acceptBatch_le {library : Library} {body : Bytes} (now : Nat) (selected : Selected)
    (state : State) (hpolicy : policyOf library body = none) :
    (acceptBatch library body now selected state).gate ≤ state.gate := by
  rw [acceptBatch, hpolicy]
  show max state.pausedUntil 0 ≤ max state.pausedUntil state.backoffUntil
  omega

section
variable {reporter : Reporter} {gate : Nat} {system : System} {round : Round}

/-- A flush that enters leaves the state. -/
theorem step_enter_eq {now : Nat} (hidle : system.phase = .idle)
    (hphase : (system.step reporter (.enter now)).phase = .entered now) :
    system.step reporter (.enter now) = { state := system.state, phase := .entered now } := by
  have hstate : (system.step reporter (.enter now)).state = system.state := by
    simp only [System.step, hidle]
  rw [← hphase, ← hstate]

/-- A round that finds nothing to send: the response at its end is about nothing, and the flush is
over. -/
theorem run_round_of_none (hidle : system.phase = .idle)
    (hphase : (system.step reporter (.enter round.now)).phase = .entered round.now)
    (hnone : (selectBatch reporter round.fresh round.now system.state).1 = none) :
    system.run reporter round.steps =
      { state := (selectBatch reporter round.fresh round.now system.state).2, phase := .idle } := by
  rcases hselect : selectBatch reporter round.fresh round.now system.state with ⟨selected, state⟩
  rw [hselect] at hnone
  cases hnone
  rw [Round.steps, run_cons, run_cons, run_cons, run_nil,
    step_enter_eq hidle hphase]
  simp only [System.step, hselect]

/-- A round that sends a batch and hears of it: the response is applied to what was selected. -/
theorem run_round_of_some (hidle : system.phase = .idle)
    (hphase : (system.step reporter (.enter round.now)).phase = .entered round.now)
    {selected : Selected}
    (hsome : (selectBatch reporter round.fresh round.now system.state).1 = some selected) :
    system.run reporter round.steps =
      { state := handleResponse reporter.library round.answer selected
          (selectBatch reporter round.fresh round.now system.state).2
        phase := .idle } := by
  rcases hselect : selectBatch reporter round.fresh round.now system.state with ⟨chosen, state⟩
  rw [hselect] at hsome
  cases hsome
  rw [Round.steps, run_cons, run_cons, run_cons, run_nil,
    step_enter_eq hidle hphase]
  simp only [System.step, hselect]

/-- One round takes an item off, if there is one, and leaves the system between two flushes with
the gate where it was or earlier. -/
theorem Between.after_round (h : Between reporter gate system)
    (hkey : (reporter.apiKey.any fun key => !Str.isEmpty key) = true)
    (hserialises : round.Serialises reporter system)
    (hround : round.Accepted reporter.library) (hnow : gate ≤ round.now) :
    Between reporter gate (system.run reporter round.steps) ∧
      pending (system.run reporter round.steps).state ≤ pending system.state - 1 := by
  have hopen : (system.state.disabled || decide (round.now < system.state.gate)) = false := by
    rw [h.enabled, Bool.false_or, decide_eq_false_iff_not, Nat.not_lt]
    exact Nat.le_trans h.gate hnow
  have hphase := step_enter_phase h.idle hopen hkey
  have hselects := selectBatch_selects reporter round.fresh round.now system.state hserialises
  have hwellFormed := h.wellFormed.selectBatch round.fresh round.now
  have hgate := gate_selectBatch reporter round.fresh round.now system.state
  have henabled : (selectBatch reporter round.fresh round.now system.state).2.disabled = false := by
    rw [(selectBatch_state reporter round.fresh round.now system.state).disabled,
      (settles_settleWindows reporter round.now h.wellFormed.dropped).sameEvents.disabled]
    exact h.enabled
  cases hselect : (selectBatch reporter round.fresh round.now system.state).1 with
  | none =>
      rw [run_round_of_none h.idle hphase hselect]
      refine ⟨⟨hwellFormed, rfl, henabled, hgate ▸ h.gate⟩, ?_⟩
      -- Nothing was selected, so nothing is left.
      obtain ⟨hevents, hrows⟩ := hselects.none_iff.mp hselect
      have hsame := selectBatch_state reporter round.fresh round.now system.state
      show pending (selectBatch reporter round.fresh round.now system.state).2 ≤ _
      rw [pending, hsame.events, hsame.currentCounters, closedRows, hsame.closedWindows,
        hselects.settled.currentCounters, hevents, show rowsOf _ = [] from hrows]
      exact Nat.zero_le _
  | some selected =>
      obtain ⟨eventCount, rowCount, hchosen⟩ := hselects.some selected hselect
      have hretires := retires_acceptBatch hwellFormed round.answer.body round.answer.now selected
      rw [run_round_of_some h.idle hphase hselect, handleResponse, hround.verdict]
      have hnext := hwellFormed.handleResponse round.answer selected
      rw [handleResponse, hround.verdict] at hnext
      refine ⟨⟨hnext, rfl, hretires.disabled.trans henabled, ?_⟩, ?_⟩
      · exact Nat.le_trans (gate_acceptBatch_le _ _ _ hround.policy) (hgate ▸ h.gate)
      · have hlt := pending_retires_lt hchosen
          (selectBatch_state reporter round.fresh round.now system.state).events
          (congrArg rowsOf hselects.closedWindows) hretires
        have hle := selectBatch_pending_le reporter round.fresh round.now system.state
        exact Nat.le_sub_one_of_lt (Nat.lt_of_lt_of_le hlt hle)

/-! ## All rounds -/

/-- A reporter that is left alone empties itself. From any reachable state of an enabled reporter
with a key, as many rounds as there are items, at times when the gate is open, leave nothing: no
event, no closed row and no open one. The induction is on the rounds. -/
theorem rounds_drain {rounds : List Round} (h : Between reporter gate system)
    (hkey : (reporter.apiKey.any fun key => !Str.isEmpty key) = true)
    (hserialises : SerialisesAll reporter system rounds)
    (hrounds : ∀ round ∈ rounds, round.Accepted reporter.library ∧ gate ≤ round.now)
    (henough : pending system.state ≤ rounds.length) :
    pending (system.run reporter (rounds.flatMap Round.steps)).state = 0 := by
  induction rounds generalizing system with
  | nil => exact Nat.eq_zero_of_le_zero henough
  | cons round rest ih =>
      obtain ⟨hround, hrest⟩ := List.forall_mem_cons.mp hrounds
      obtain ⟨hnext, hfewer⟩ := h.after_round hkey hserialises.1 hround.1 hround.2
      rw [List.length_cons] at henough
      rw [List.flatMap_cons, run_append]
      exact ih hnext hserialises.2 hrest (by omega)

end

/-- Whatever the rounds are, the library of the sample flushes serialises what they build. -/
theorem serialisesAll_flushReporter (system : System) (rounds : List Round) :
    SerialisesAll flushReporter system rounds := by
  induction rounds generalizing system with
  | nil => trivial
  | cons round rest ih => exact ⟨serialises_flushReporter _, ih _⟩

/-- A call that is not sampled. -/
theorem onRequest_sampleCall {ids : List Nat} {nextId : Nat} {state : State}
    (h : Filled ids nextId state) :
    onRequest flushReporter (sampleCall 0) state =
      markUrgent (startWorker true 0
        { state with
          currentWindowStart := some 0
          currentCounters := mergeCounter [] (firstKey,
            { requests := 1, attempts := 1, firstAttemptSuccess := 1 }) }) := by
  have hroll : rollWindow flushReporter (sampleCall 0).now state =
      { state with currentWindowStart := some 0 } := h.rollWindow
  have hcount : ∀ state, countInvalid (sampleCall 0) state = state :=
    fun _ => if_neg (by decide +kernel)
  have hsampled : (sampleCall 0).sampled = none := by decide +kernel
  rw [onRequest, if_neg (by rw [h.accepts]; exact Bool.false_ne_true)]
  simp only [hroll, hcount, bufferSample, hsampled]
  show markUrgent (startWorker true 0
    { state with
      currentWindowStart := some 0
      currentCounters := mergeCounter state.currentCounters _ }) = _
  rw [h.counters]

/-- After failed calls and one that is counted only, the system is between two flushes, and has the
events of the former and the row of the latter to send. -/
theorem between_calls {system : System} {ids : List Nat} {nextId : Nat}
    (hwell : WellFormed flushReporter system.state) (hidle : system.phase = .idle)
    (hfilled : Filled ids nextId system.state) :
    Between flushReporter 0 (system.step flushReporter (.onRequest (sampleCall 0))) ∧
      pending (system.step flushReporter (.onRequest (sampleCall 0))).state =
        ids.length + 1 := by
  have hnext := hwell.moves (moves_step flushReporter system (.onRequest (sampleCall 0)))
  have hstate : (system.step flushReporter (.onRequest (sampleCall 0))).state = _ :=
    onRequest_sampleCall hfilled
  -- Starting the worker and asking for an urgent flush touch neither the buffers nor the gate.
  have hsame : ∀ state, SameBuffers state (markUrgent (startWorker true 0 state)) := fun state =>
    (sameBuffers_startWorker true 0 state).trans (sameBuffers_markUrgent _)
  have hgate : ∀ state, (markUrgent (startWorker true 0 state)).gate = state.gate := fun state =>
    gate_of_settings ((settings_of_pace (pace_markUrgent _)).trans
      (settings_startWorker true 0 state))
  refine ⟨⟨hnext, hidle, ?_, ?_⟩, ?_⟩
  · rw [hstate, (hsame _).disabled]
    exact (Bool.or_eq_false_iff.mp hfilled.accepts).1
  · rw [hstate, hgate]
    exact Nat.le_of_eq hfilled.gate
  · rw [pending, closedRows, hstate, (hsame _).events, (hsame _).closedWindows,
      (hsame _).currentCounters]
    show system.state.events.length + (rowsOf system.state.closedWindows).length + 1 = _
    rw [hfilled.windows, hfilled.events, List.length_map]
    rfl

/-- The system after 120 failed calls, whose events are buffered, and one more call, whose row is
counted. -/
def loaded : System :=
  ((System.new none 0 "i-1").run flushReporter
    (List.replicate 120 (.onRequest failedCall))).step flushReporter (.onRequest (sampleCall 0))

/-- The system `loaded` has 121 items to send. -/
theorem between_loaded : Between flushReporter 0 loaded ∧ pending loaded.state = 121 := by
  have hnew : WellFormed flushReporter (System.new none 0 "i-1").state :=
    wellFormed_new flushReporter none 0 "i-1"
  obtain ⟨hidle, hfilled⟩ := @filled_run 120 (by decide)
  obtain ⟨hbetween, hpending⟩ := between_calls (hnew.run _) hidle hfilled
  rw [List.length_range] at hpending
  exact ⟨hbetween, hpending⟩

/-- The rounds of an hour, one every half minute. -/
def hourOfRounds : List Round :=
  (List.range 121).map fun index =>
    ⟨Duration.fromSecs (30 * (index + 1)), ⟨"b-1", 0⟩,
      accepted (Duration.fromSecs (30 * (index + 1) + 1))⟩

/-- One batch has no room for 120 events. -/
theorem rounds_drain_loaded :
    maxBatchEvents < pending loaded.state ∧
      pending (loaded.run flushReporter (hourOfRounds.flatMap Round.steps)).state = 0 := by
  obtain ⟨hbetween, hpending⟩ := between_loaded
  refine ⟨by rw [hpending]; decide, ?_⟩
  refine rounds_drain hbetween (by decide) (serialisesAll_flushReporter _ _) ?_ ?_
  · intro round hround
    obtain ⟨index, -, rfl⟩ := List.mem_map.mp hround
    exact ⟨⟨rfl, rfl⟩, Nat.zero_le _⟩
  · rw [hpending, hourOfRounds, List.length_map, List.length_range]

end TrustedRouter.Proofs.Telemetry
