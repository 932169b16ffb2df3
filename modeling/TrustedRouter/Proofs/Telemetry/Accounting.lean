import TrustedRouter.Lib.Ledger
import TrustedRouter.Proofs.Telemetry.Batch
import TrustedRouter.Proofs.Telemetry.Runs

/-!
# `TrustedRouter.Proofs.Telemetry.Accounting`: nothing leaves unnoticed

`Moves` says once what a step of the system can do to the buffers: settle the windows, record
a call, or apply the response to the batch in flight. The rest is read off it.

An item that leaves is `missing` from the next state, by its name. A window can close and
leave in the same step, so the rows that close in a step (`closingRows`) count as rows that
were there. Either the step was a 202 and the item is of its batch, or the reporter was
disabled, or the item is counted in `dropped_since_last`, which saturates (`run_accounted`).

The batch that a 202 retires was selected in some earlier step. What of it is still there is
what was there then (`posted_selected`), since a closed row never changes and no name is
used twice.
-/

set_option autoImplicit false

namespace TrustedRouter.Proofs.Telemetry

open TrustedRouter.Telemetry
open Rust
open Ledger (missing missing_perm mem_missing length_missing_le)

/-! ## What a step can do -/

/-- What a step makes of a response, if it hands one over, and to which batch. -/
def answered (system : System) (step : Step) : Option (Verdict × Selected) :=
  match step, system.phase with
  | .respond answer, .posted selected => some (answer.verdict, selected)
  | _, _ => none

/-- The batch that a step selects, if it does. A flush posts the batch that it selects, so this is
also the batch that the step posts. -/
def selection (reporter : Reporter) (system : System) (step : Step) : Option Selected :=
  match step, system.phase with
  | .select fresh, .entered now => (selectBatch reporter fresh now system.state).1
  | _, _ => none

/-- The samples a step drops because the schema cannot carry them. They were never
buffered. -/
def invalidSamples (system : System) : Step → Nat
  | .onRequest record =>
      if !(system.state.disabled || system.state.closed) && record.invalidSample then 1 else 0
  | _ => 0

/-- What a step can do to the state. -/
inductive Moves (reporter : Reporter) (system : System) (step : Step) (next : State) :
    Prop where
  /-- No buffer is touched. A response that is heard makes the reporter back off. -/
  | same (hanswer : ∀ verdict selected,
        answered system step = some (verdict, selected) → verdict = .backsOff)
      (hvalid : invalidSamples system step = 0) (hsame : SameBuffers system.state next)
  /-- A call is recorded. -/
  | records {record : Record} (hstep : step = .onRequest record)
      (hopen : (system.state.disabled || system.state.closed) = false)
      (hnext : next = onRequest reporter record system.state)
  /-- A batch is selected, or there was nothing to select. -/
  | selects {fresh : Fresh} {now : Nat} (hstep : step = .select fresh)
      (hphase : system.phase = .entered now)
      (hnext : next = (selectBatch reporter fresh now system.state).2)
  /-- The windows are pruned. -/
  | prunes {now : Nat} (hstep : step = .pruneNow now)
      (hnext : next = pruneWindows reporter now system.state)
  /-- A 202 retires its batch. -/
  | accepts {answer : Answer} {selected : Selected}
      (hanswer : answered system step = some (.accepts, selected))
      (hnext : next =
        acceptBatch reporter.library answer.body answer.now selected system.state)
  /-- A 413 drops its batch. -/
  | rejects {selected : Selected} (hanswer : answered system step = some (.rejects, selected))
      (hnext : next = rejectBatch reporter.library selected system.state)
  /-- The reporter is disabled. -/
  | disables {selected : Selected}
      (hanswer : answered system step = some (.disables, selected))
      (hnext : next = disable system.state)

/-- With a batch in flight a response is heard, and it is about that batch. -/
theorem answered_respond {system : System} {answer : Answer} {selected : Selected}
    (hphase : system.phase = .posted selected) :
    answered system (.respond answer) = some (answer.verdict, selected) := by
  simp only [answered, hphase]

/-- The response is applied to the batch in flight. -/
theorem moves_respond {reporter : Reporter} {system : System} {answer : Answer}
    {selected : Selected} (hphase : system.phase = .posted selected) :
    Moves reporter system (.respond answer)
      (handleResponse reporter.library answer selected system.state) := by
  have hanswer : answered system (.respond answer) = some (answer.verdict, selected) :=
    answered_respond hphase
  unfold handleResponse
  cases hverdict : answer.verdict with
  | disables => exact .disables (hverdict ▸ hanswer) rfl
  | accepts => exact .accepts (hverdict ▸ hanswer) rfl
  | rejects => exact .rejects (hverdict ▸ hanswer) rfl
  | backsOff =>
      refine .same (fun verdict other hother => ?_) rfl (sameBuffers_setBackoff ..)
      rw [hanswer, hverdict] at hother
      cases hother
      rfl

/-- Without a batch in flight a response is not heard. -/
theorem answered_respond_of_not_posted {system : System} {answer : Answer}
    (hphase : ∀ selected, system.phase ≠ .posted selected) :
    answered system (.respond answer) = none := by
  unfold answered
  split
  · rename_i hposted
    exact (hphase _ hposted).elim
  · rfl

/-- The state that a selection leaves behind: its windows are settled, and every item is still
there. -/
theorem step_select_state {reporter : Reporter} {system : System} {fresh : Fresh} {now : Nat}
    (hphase : system.phase = .entered now) :
    (system.step reporter (.select fresh)).state =
      (selectBatch reporter fresh now system.state).2 := by
  simp only [System.step, hphase]
  rcases selectBatch reporter fresh now system.state with ⟨_ | _, _⟩
  · rfl
  · rfl

/-- A flush that finds the gate open enters. -/
theorem step_enter_phase {reporter : Reporter} {system : System} {now : Nat}
    (hidle : system.phase = .idle)
    (hopen : (system.state.disabled || now < system.state.gate) = false)
    (hkey : (reporter.apiKey.any fun key => !Str.isEmpty key) = true) :
    (system.step reporter (.enter now)).phase = .entered now := by
  simp only [System.step, hidle]
  rw [enterFlush, hopen, hkey]
  rfl

/-- The batch that a selection puts in flight. -/
theorem step_select_phase {reporter : Reporter} {system : System} {fresh : Fresh} {now : Nat}
    {selected : Selected} (hphase : system.phase = .entered now)
    (hselect : (selectBatch reporter fresh now system.state).1 = some selected) :
    (system.step reporter (.select fresh)).phase = .posted selected := by
  simp only [System.step, hphase]
  rcases hbatch : selectBatch reporter fresh now system.state with ⟨_ | _, _⟩
  · rw [hbatch] at hselect
    cases hselect
  · rw [hbatch] at hselect
    cases hselect
    rfl

/-- Every step of the system is one of these. The proofs about runs below split on `Moves` and not
on the eleven kinds of steps. -/
theorem moves_step (reporter : Reporter) (system : System) (step : Step) :
    Moves reporter system step (system.step reporter step).state := by
  -- Most steps answer nothing and leave the buffers alone.
  have hquiet : answered system step = none → invalidSamples system step = 0 →
      ∀ {next : State}, SameBuffers system.state next → Moves reporter system step next := by
    intro hnone hvalid next hsame
    refine .same (fun verdict selected hsome => ?_) hvalid hsame
    rw [hnone] at hsome
    cases hsome
  cases step with
  | onRequest record =>
      cases hopen : system.state.disabled || system.state.closed with
      | true =>
          refine hquiet rfl (by rw [invalidSamples, hopen]; rfl) ?_
          rw [System.step, onRequest, if_pos hopen]
          exact .refl _
      | false => exact .records rfl hopen rfl
  | enter now =>
      refine hquiet rfl rfl ?_
      rw [System.step]
      split
      · exact .refl _
      · exact .refl _
  | select fresh =>
      cases hphase : system.phase with
      | entered now => exact .selects rfl hphase (step_select_state hphase)
      | idle =>
          simp only [System.step, hphase]
          exact hquiet rfl rfl (.refl _)
      | posted selected =>
          simp only [System.step, hphase]
          exact hquiet rfl rfl (.refl _)
  | respond answer =>
      rw [System.step]
      split
      · rename_i selected hphase
        exact moves_respond hphase
      · rename_i hphase
        exact hquiet (answered_respond_of_not_posted hphase) rfl (.refl _)
  | sendFailed now =>
      refine hquiet rfl rfl ?_
      rw [System.step]
      split
      · exact sameBuffers_setBackoff now none system.state
      · exact .refl _
  | abandon => exact hquiet rfl rfl (.refl _)
  | close => exact hquiet rfl rfl ⟨rfl, rfl, rfl, rfl, rfl, rfl, rfl, rfl, rfl, rfl⟩
  | workerTurn now => exact hquiet rfl rfl (sameBuffers_workerTurn ..)
  | workerFlushed now => exact hquiet rfl rfl (sameBuffers_workerFlushed ..)
  | noClient now => exact hquiet rfl rfl (sameBuffers_setBackoff now none system.state)
  | pruneNow now => exact .prunes rfl rfl

/-! ## What every step keeps -/

/-- Each of them keeps the state well-formed. -/
theorem WellFormed.moves {reporter : Reporter} {system : System} {step : Step} {next : State}
    (h : WellFormed reporter system.state) (hmoves : Moves reporter system step next) :
    WellFormed reporter next := by
  have hremoved := h.removeSelected
  cases hmoves with
  | same _ _ hsame => exact h.of_same hsame
  | records _ _ hnext => exact hnext ▸ h.onRequest _
  | selects _ _ hnext => exact hnext ▸ h.selectBatch _ _
  | prunes _ hnext => exact hnext ▸ h.pruneWindows _
  | accepts _ hnext =>
      rw [hnext]
      refine WellFormed.of_same ?_ (acceptBatch_state ..)
      exact (hremoved _ _).withDropped (Nat.le_trans (Nat.sub_le ..) (hremoved _ _).dropped)
  | rejects _ hnext => exact hnext ▸ (hremoved _ _).withDropped (U64.saturatingAdd_le_max _ _)
  | disables _ hnext => exact hnext ▸ .disable reporter system.state

/-- The rows that are left are those that were not named. -/
theorem rowsOf_retired (library : Library) (refs : List CounterRef)
    (windows : List CounterWindow) :
    rowsOf (retired library refs windows) =
      (rowsOf windows).filter fun entry => !refs.contains entry.1 := by
  induction windows with
  | nil => rfl
  | cons window rest ih =>
      have hrows : ((retire library refs window).rows.map
          fun row => ((window.id, row.1), row.2)) =
            (window.rows.map fun row => ((window.id, row.1), row.2)).filter
              fun entry => !refs.contains entry.1 := by
        rw [List.filter_map]
        rfl
      rw [rowsOf_cons, List.filter_append, ← ih, ← hrows]
      rw [retired, List.map_cons, List.filter_cons]
      split
      · exact rowsOf_cons ..
      · -- A window that has lost all its rows is taken out, and with it nothing.
        rename_i hempty
        have hnil : (retire library refs window).rows = [] := by
          rw [Bool.not_eq_true', Bool.not_eq_false] at hempty
          exact List.isEmpty_iff.mp hempty
        rw [hnil]
        rfl

/-- A state with fewer items has evolved: nothing in it is new or changed, and ids are not given
back. -/
theorem evolves_removeSelected {reporter : Reporter} {state : State}
    (h : WellFormed reporter state) (eventIds : List Nat) (refs : List CounterRef) :
    Evolves state (removeSelected reporter.library eventIds refs state) := by
  rw [removeSelected_eq h.windows]
  refine ⟨?_, ?_, Nat.le_refl _, Nat.le_refl _⟩
  · exact fun buffered hbuffered => .inl (List.mem_filter.mp hbuffered).1
  · intro entry hentry
    rw [closedRows, rowsOf_retired] at hentry
    exact .inl (List.mem_filter.mp hentry).1

/-- The count of losses is no item. -/
theorem Evolves.withDropped {state later : State} (h : Evolves state later) (dropped : Nat) :
    Evolves state { later with droppedSinceLast := dropped } :=
  ⟨h.events, h.rows, h.nextEventId, h.nextWindowId⟩

/-- Every step evolves the state: items come under new names and leave, and those that stay are
unchanged. -/
theorem evolves_moves {reporter : Reporter} {system : System} {step : Step} {next : State}
    (h : WellFormed reporter system.state) (hmoves : Moves reporter system step next) :
    Evolves system.state next := by
  have hremoved := evolves_removeSelected h
  cases hmoves with
  | same _ _ hsame => exact hsame.evolves
  | records _ hopen hnext => exact hnext ▸ (onRequest_recorded _ h hopen).evolves h.dropped
  | selects _ _ hnext =>
      -- The windows are settled, and then a batch is copied out of the state.
      rw [hnext]
      exact (settles_settleWindows reporter _ h.dropped).evolves.trans
        (selectBatch_state reporter _ _ _).evolves
  | prunes _ hnext => exact hnext ▸ (settles_pruneWindows reporter _ h.dropped).evolves
  | accepts _ hnext =>
      rw [hnext]
      exact ((hremoved _ _).withDropped _).trans (acceptBatch_state ..).evolves
  | rejects _ hnext =>
      rw [hnext]
      exact (hremoved _ _).withDropped _
  | disables _ hnext =>
      -- Nothing is left, so that there is nothing that could be new.
      rw [hnext]
      exact ⟨fun _ hmem => (List.not_mem_nil hmem).elim,
        fun _ hmem => (List.not_mem_nil hmem).elim, Nat.le_refl _, Nat.le_refl _⟩

/-- A whole run keeps the state well-formed. -/
theorem WellFormed.run {reporter : Reporter} {system : System}
    (h : WellFormed reporter system.state) (steps : List Step) :
    WellFormed reporter (system.run reporter steps).state := by
  induction steps generalizing system with
  | nil => exact h
  | cons step rest ih => exact ih (h.moves (moves_step reporter system step))

/-- No steps. -/
theorem run_nil (reporter : Reporter) (system : System) : system.run reporter [] = system := rfl

/-- The first step, and the others from there. -/
theorem run_cons (reporter : Reporter) (system : System) (step : Step) (steps : List Step) :
    system.run reporter (step :: steps) = (system.step reporter step).run reporter steps := rfl

/-- A run in two parts. -/
theorem run_append (reporter : Reporter) (system : System) (first second : List Step) :
    system.run reporter (first ++ second) =
      (system.run reporter first).run reporter second := List.foldl_append ..

/-- A run and its last step, which is how an induction from the end takes a run apart. -/
theorem run_concat (reporter : Reporter) (system : System) (steps : List Step) (step : Step) :
    system.run reporter (steps ++ [step]) = (system.run reporter steps).step reporter step :=
  List.foldl_concat ..

/-! ## Items that leave -/

/-- The rows that close between two states, under their names. -/
def closingRows (state next : State) : List (CounterRef × CounterRow) :=
  if state.nextWindowId < next.nextWindowId then
    state.currentCounters.map fun row => ((state.nextWindowId, row.1), row.2)
  else []

/-- The events that left. -/
def lostEvents (state next : State) : List BufferedEvent :=
  missing BufferedEvent.id state.events next.events

/-- The closed rows that left, those that closed in between included. -/
def lostRows (state next : State) : List (CounterRef × CounterRow) :=
  missing Prod.fst (closedRows state ++ closingRows state next) (closedRows next)

/-- Both depend only on the windows, so that a step on anything else loses what it lost without
it. -/
theorem lostRows_congr {state next next' : State}
    (hwindows : next'.closedWindows = next.closedWindows)
    (hid : next'.nextWindowId = next.nextWindowId) :
    lostRows state next' = lostRows state next := by
  have hrows : closedRows next' = closedRows next := congrArg rowsOf hwindows
  rw [lostRows, lostRows, closingRows, closingRows, hrows, hid]

/-- Events that stay are not lost. -/
theorem lostEvents_of_eq {state next : State} (h : next.events = state.events) :
    lostEvents state next = [] := by
  rw [List.eq_nil_iff_forall_not_mem]
  intro buffered hmem
  obtain ⟨hbuffered, hnot⟩ := (mem_missing _).mp hmem
  rw [h] at hnot
  exact hnot (List.mem_map_of_mem hbuffered)

/-- What settles loses rows, all of them under different names, and counts them. The rows that
close on the way are among those that can be lost, when the window they close in is pruned at
once. -/
theorem Settles.turnover {reporter : Reporter} {state settled : State}
    (h : Settles reporter state settled) (hok : WellFormed reporter state) :
    (closedRows state ++ closingRows state settled).Perm
        (lostRows state settled ++ closedRows settled) ∧
      ((closedRows state ++ closingRows state settled).map Prod.fst).Nodup ∧
      settled.droppedSinceLast =
        U64.saturatingAdd state.droppedSinceLast (lostRows state settled).length := by
  obtain ⟨closing, gone, kept, start, retained, hclosing, hsplit, hsettled⟩ := h.windows
  have hid : settled.nextWindowId = state.nextWindowId + closing.length := by rw [hsettled]
  have hrows : closedRows state ++ closingRows state settled =
      rowsOf (state.closedWindows ++ closing) := by
    rw [rowsOf_append, closingRows, hid]
    rcases hclosing with ⟨rfl, -⟩ | ⟨windowStart, -, -, rfl⟩
    · rw [List.length_nil, Nat.add_zero, if_neg (Nat.lt_irrefl _)]
      rfl
    · rw [List.length_singleton, if_pos (Nat.lt_succ_self _), rowsOf_cons, rowsOf_nil,
        List.append_nil]
      rfl
  have hnodup : ((closedRows state ++ closingRows state settled).map Prod.fst).Nodup := by
    rw [hrows]
    rcases hclosing with ⟨rfl, -⟩ | ⟨windowStart, hopen, -, rfl⟩
    · rw [List.append_nil]
      exact hok.windows.refs_nodup
    · exact (hok.windows.push windowStart hok.counters hopen).refs_nodup
  have hkept : closedRows settled = rowsOf kept := by rw [hsettled]
  rw [hsplit, rowsOf_append, ← hkept] at hrows
  -- All rows have different names, so those that are missing are those that were pruned.
  have hlost : (lostRows state settled).Perm (rowsOf gone) := by
    rw [hrows, List.map_append] at hnodup
    refine missing_perm _ (hrows ▸ .refl _) ?_ fun entry => List.mem_map_of_mem
    intro entry hentry
    exact List.disjoint_of_nodup_append hnodup (List.mem_map_of_mem hentry)
  refine ⟨?_, hnodup, ?_⟩
  · rw [hrows]
    exact hlost.symm.append_right _
  · rw [hlost.length_eq, length_rowsOf, hsettled]

/-- Recording a call loses the event that it evicts. The new event has the next id, so it is not
mistaken for one that was there. -/
theorem Recorded.turnover {reporter : Reporter} {record : Record} {state next : State}
    (h : Recorded reporter record state next) (hok : WellFormed reporter state) :
    ∃ fresh : List BufferedEvent,
      (fresh ++ state.events).Perm (lostEvents state next ++ next.events) ∧
      fresh.map BufferedEvent.id = List.range' state.nextEventId fresh.length ∧
      next.nextEventId = state.nextEventId + fresh.length ∧
      next.droppedSinceLast =
        U64.saturatingAdd (rollWindow reporter record.now state).droppedSinceLast
          ((if record.invalidSample then 1 else 0) + (lostEvents state next).length) := by
  obtain ⟨before, evicted, after, fresh, hsplit, -, hfresh, hevents, hnext, hdropped⟩ := h.events
  have hids : fresh.map BufferedEvent.id = List.range' state.nextEventId fresh.length := by
    rcases hfresh with rfl | ⟨added, hid, rfl⟩
    · rfl
    · rw [List.map_singleton, hid]
      rfl
  have hnodup : (state.events.map BufferedEvent.id).Nodup :=
    hok.events.ids.imp Nat.ne_of_lt
  have hperm : state.events.Perm (evicted ++ (before ++ after)) := by
    rw [hsplit, ← List.append_assoc]
    exact List.perm_append_comm.append_right after
  have hlost : (lostEvents state next).Perm evicted := by
    refine missing_perm _ hperm ?_ ?_
    · intro buffered hbuffered hmem
      rw [hevents, List.map_append, hids] at hmem
      rcases List.mem_append.mp hmem with hold | hnew
      · -- The ids of the buffer are distinct.
        rw [(hperm.map BufferedEvent.id).nodup_iff, List.map_append] at hnodup
        exact List.disjoint_of_nodup_append hnodup (List.mem_map_of_mem hbuffered) hold
      · -- The new event has an id that no event had.
        have hlt := hok.events.below buffered
          (hperm.mem_iff.mpr (List.mem_append_left _ hbuffered))
        have hle := (List.mem_range'_1.mp hnew).1
        omega
    · intro buffered hbuffered
      rw [hevents, List.map_append]
      exact List.mem_append_left _ (List.mem_map_of_mem hbuffered)
  refine ⟨fresh, ?_, hids, hnext, hlost.length_eq ▸ hdropped⟩
  rw [hevents]
  refine (List.perm_append_comm.trans (hperm.append_right fresh)).trans ?_
  rw [List.append_assoc]
  exact hlost.symm.append_right _

/-- A step that is not answered, or that backs off, settles windows at most, or records a call. -/
theorem Moves.quiet_cases {reporter : Reporter} {system : System} {step : Step} {next : State}
    (hmoves : Moves reporter system step next) (hok : WellFormed reporter system.state)
    (hanswer : ∀ verdict selected,
      answered system step = some (verdict, selected) → verdict = .backsOff) :
    (invalidSamples system step = 0 ∧
      ∃ settled, Settles reporter system.state settled ∧ SameBuffers settled next) ∨
    ∃ record, step = .onRequest record ∧ (system.state.disabled || system.state.closed) = false ∧
      Recorded reporter record system.state next := by
  cases hmoves with
  | same _ hvalid hsame => exact .inl ⟨hvalid, _, .refl reporter hok.dropped, hsame⟩
  | @records record hstep hopen hnext =>
      rw [hnext]
      exact .inr ⟨record, hstep, hopen, onRequest_recorded record hok hopen⟩
  | @selects fresh now hstep _ hnext =>
      rw [hstep, hnext]
      exact .inl ⟨rfl, _, settles_settleWindows reporter now hok.dropped,
        selectBatch_state reporter fresh now system.state⟩
  | @prunes now hstep hnext =>
      rw [hstep, hnext]
      exact .inl ⟨rfl, _, settles_pruneWindows reporter now hok.dropped, .refl _⟩
  | accepts hanswered => cases hanswer _ _ hanswered
  | rejects hanswered => cases hanswer _ _ hanswered
  | disables hanswered => cases hanswer _ _ hanswered

/-- Such a step counts what it loses, and the invalid samples. The count saturates, so at the
largest `u64` a loss leaves no trace. -/
theorem Moves.counted {reporter : Reporter} {system : System} {step : Step} {next : State}
    (hmoves : Moves reporter system step next) (hok : WellFormed reporter system.state)
    (hanswer : ∀ verdict selected,
      answered system step = some (verdict, selected) → verdict = .backsOff) :
    next.droppedSinceLast = U64.saturatingAdd system.state.droppedSinceLast
      ((lostEvents system.state next).length + (lostRows system.state next).length +
        invalidSamples system step) := by
  rcases hmoves.quiet_cases hok hanswer with
    ⟨hvalid, settled, hsettles, hsame⟩ | ⟨record, hstep, hopen, hrecorded⟩
  · -- Where only windows move, no event leaves.
    rw [hvalid, lostEvents_of_eq (hsame.events.trans hsettles.sameEvents.events),
      lostRows_congr hsame.closedWindows hsame.nextWindowId, hsame.droppedSinceLast,
      (hsettles.turnover hok).2.2, List.length_nil, Nat.zero_add, Nat.add_zero]
  · have hroll := ((settles_rollWindow reporter record.now hok.dropped).turnover hok).2.2
    obtain ⟨_, -, -, -, hdropped⟩ := hrecorded.turnover hok
    rw [hdropped, hroll, lostRows_congr hrecorded.closedWindows hrecorded.nextWindowId,
      U64.saturatingAdd_assoc, hstep, invalidSamples, hopen]
    congr 1
    simp only [Bool.not_false, Bool.true_and]
    omega

/-! ## The batch in flight -/

/-- A batch is in flight after a step because it was before, or because it was selected in the
step. -/
theorem posted_step {reporter : Reporter} {system : System} {step : Step}
    {selected : Selected} (h : (system.step reporter step).phase = .posted selected) :
    system.phase = .posted selected ∨
      ∃ fresh now, step = .select fresh ∧ system.phase = .entered now ∧
        (selectBatch reporter fresh now system.state).1 = some selected := by
  cases step with
  | onRequest _ => exact .inl h
  | enter now =>
      cases hphase : system.phase with
      | idle =>
          -- A flush that enters has not posted yet.
          simp only [System.step, hphase, enterFlush] at h
          split at h
          · cases h
          · split at h
            · cases h
            · cases h
      | entered _ =>
          simp only [System.step, hphase] at h
          cases h
      | posted _ =>
          simp only [System.step, hphase] at h
          exact .inl h
  | select fresh =>
      cases hphase : system.phase with
      | idle =>
          simp only [System.step, hphase] at h
          cases h
      | entered now =>
          refine .inr ⟨fresh, now, rfl, rfl, ?_⟩
          simp only [System.step, hphase] at h
          rcases hselect : selectBatch reporter fresh now system.state with ⟨_ | other, _⟩
          · rw [hselect] at h
            cases h
          · rw [hselect] at h
            cases h
            rfl
      | posted _ =>
          simp only [System.step, hphase] at h
          exact .inl h
  | respond _ =>
      cases hphase : system.phase with
      | idle | entered _ | posted _ =>
          simp only [System.step, hphase] at h
          cases h
  | sendFailed _ =>
      cases hphase : system.phase with
      | idle | entered _ | posted _ =>
          simp only [System.step, hphase] at h
          cases h
  | abandon => cases h
  | close => exact .inl h
  | workerTurn _ => exact .inl h
  | workerFlushed _ => exact .inl h
  | noClient _ => exact .inl h
  | pruneNow _ => exact .inl h

/-- The batch in flight was selected in an earlier step, and the state has evolved since. -/
theorem posted_selected {reporter : Reporter} {start : System} {steps : List Step}
    {selected : Selected} (hok : WellFormed reporter start.state) (hidle : start.phase = .idle)
    (h : (start.run reporter steps).phase = .posted selected) :
    ∃ before fresh now after, steps = before ++ .select fresh :: after ∧
      (start.run reporter before).phase = .entered now ∧
      (selectBatch reporter fresh now (start.run reporter before).state).1 = some selected ∧
      Evolves (start.run reporter (before ++ [.select fresh])).state
        (start.run reporter steps).state := by
  induction steps using List.reverseRecOn with
  | nil =>
      rw [show start.run reporter [] = start from rfl, hidle] at h
      cases h
  | append_singleton steps step ih =>
      have hevolves := evolves_moves (hok.run steps) (moves_step reporter _ step)
      rw [run_concat] at h
      rcases posted_step h with hposted | ⟨fresh, now, rfl, hphase, hselect⟩
      · -- The batch was in flight before the last step, which only lets the state evolve.
        obtain ⟨before, fresh, now, after, hsplit, hphase, hselect, hearlier⟩ := ih hposted
        refine ⟨before, fresh, now, after ++ [step], ?_, hphase, hselect, ?_⟩
        · rw [hsplit, List.append_assoc]
          rfl
        · rw [run_concat reporter start steps]
          exact hearlier.trans hevolves
      · -- The last step is the selection.
        exact ⟨steps, fresh, now, [], rfl, hphase, hselect, .refl _⟩

/-- What is there of a batch is what was there when it was selected. -/
structure Unchanged (selected : Selected) (chosen state : State) : Prop where
  events : ∀ buffered ∈ state.events, buffered.id ∈ selected.eventIds →
    buffered ∈ chosen.events
  rows : ∀ ref row, (ref, row) ∈ closedRows state → ref ∈ selected.counterRefs →
    (ref, row) ∈ closedRows chosen

/-- What is still there of a batch is what was selected: rows under a name that is used once
cannot be replaced. -/
theorem Evolves.unchanged {reporter : Reporter} {selected : Selected} {chosen state : State}
    (h : Evolves chosen state) (hok : WellFormed reporter chosen)
    (hcarries : Carries reporter.library selected chosen) :
    Unchanged selected chosen state := by
  refine ⟨?_, ?_⟩
  · intro buffered hbuffered hid
    obtain ⟨event, hevent, heq⟩ := hcarries.exists_event hid
    have hlt := hok.events.below event hevent
    rcases h.events buffered hbuffered with hold | hnew
    · exact hold
    · omega
  · intro ref row hrow href
    obtain ⟨_, hmem⟩ := hcarries.exists_row href
    obtain ⟨window, hwindow, heq, -⟩ := mem_rowsOf.mp hmem
    have hlt := hok.windows.below window hwindow
    rcases h.rows _ hrow with hold | hnew
    · exact hold
    · have hle : chosen.nextWindowId ≤ ref.1 := hnew
      omega

/-! ## Retiring -/

/-- Exactly the items of a batch are taken out. Everything else stays, in its order. -/
structure Retires (selected : Selected) (state next : State) : Prop where
  events : next.events =
    state.events.filter fun buffered => !selected.eventIds.contains buffered.id
  rows : closedRows next =
    (closedRows state).filter fun entry => !selected.counterRefs.contains entry.1
  currentCounters : next.currentCounters = state.currentCounters
  nextEventId : next.nextEventId = state.nextEventId
  nextWindowId : next.nextWindowId = state.nextWindowId
  disabled : next.disabled = state.disabled

/-- Removing what was selected takes out exactly that. -/
theorem retires_removeSelected {reporter : Reporter} {state : State}
    (h : WellFormed reporter state) (selected : Selected) :
    Retires selected state
      (removeSelected reporter.library selected.eventIds selected.counterRefs state) := by
  rw [removeSelected_eq h.windows]
  exact ⟨rfl, rowsOf_retired .., rfl, rfl, rfl, rfl⟩

/-- So does a 202, with or without a policy in its body. -/
theorem retires_acceptBatch {reporter : Reporter} {state : State}
    (h : WellFormed reporter state) (body : Bytes) (now : Nat) (selected : Selected) :
    Retires selected state (acceptBatch reporter.library body now selected state) := by
  have hsame := acceptBatch_state reporter.library body now selected state
  have hretires := retires_removeSelected h selected
  exact
    { events := hsame.events.trans hretires.events
      rows := (congrArg rowsOf hsame.closedWindows).trans hretires.rows
      currentCounters := hsame.currentCounters.trans hretires.currentCounters
      nextEventId := hsame.nextEventId.trans hretires.nextEventId
      nextWindowId := hsame.nextWindowId.trans hretires.nextWindowId
      disabled := hsame.disabled.trans hretires.disabled }

/-- So does a 413, which counts the batch as lost. -/
theorem retires_rejectBatch {reporter : Reporter} {state : State}
    (h : WellFormed reporter state) (selected : Selected) :
    Retires selected state (rejectBatch reporter.library selected state) := by
  have hretires := retires_removeSelected h selected
  exact ⟨hretires.events, hretires.rows, hretires.currentCounters, hretires.nextEventId,
    hretires.nextWindowId, hretires.disabled⟩

/-- No row closes while a batch is retired. -/
theorem Retires.closingRows_eq {selected : Selected} {state next : State}
    (h : Retires selected state next) : closingRows state next = [] :=
  if_neg (Nat.not_lt_of_le (Nat.le_of_eq h.nextWindowId))

/-- What a batch takes out has its names: neither another event nor another row is lost with
it. -/
theorem Retires.lost {selected : Selected} {state next : State}
    (h : Retires selected state next) :
    (∀ buffered ∈ lostEvents state next, buffered.id ∈ selected.eventIds) ∧
      ∀ entry ∈ lostRows state next, entry.1 ∈ selected.counterRefs := by
  refine ⟨fun buffered hlost => ?_, fun entry hlost => ?_⟩
  · obtain ⟨hbuffered, hgone⟩ := (mem_missing _).mp hlost
    by_contra hnot
    rw [h.events] at hgone
    refine hgone (List.mem_map_of_mem (List.mem_filter.mpr ⟨hbuffered, ?_⟩))
    simpa using hnot
  · obtain ⟨hentry, hgone⟩ := (mem_missing _).mp hlost
    rw [h.closingRows_eq, List.append_nil] at hentry
    by_contra hnot
    rw [h.rows] at hgone
    refine hgone (List.mem_map_of_mem (List.mem_filter.mpr ⟨hentry, ?_⟩))
    simpa using hnot

/-- So it takes out no more than it names. -/
theorem Retires.length_lost_le {reporter : Reporter} {selected : Selected}
    {state next : State} (h : Retires selected state next) (hok : WellFormed reporter state) :
    (lostEvents state next).length ≤ selected.eventIds.length ∧
      (lostRows state next).length ≤ selected.counterRefs.length := by
  refine ⟨?_, ?_⟩
  · exact length_missing_le _ (hok.events.ids.imp Nat.ne_of_lt) h.lost.1
  · refine length_missing_le _ ?_ h.lost.2
    rw [h.closingRows_eq, List.append_nil]
    exact hok.windows.refs_nodup

/-! ## Every step of every run -/

/-- How the items that a step loses are accounted for. -/
inductive Accounted (system : System) (step : Step) (next : State) : Prop where
  /-- They were of the batch that a 202 answered. -/
  | delivered {selected : Selected}
      (hanswer : answered system step = some (.accepts, selected))
      (events : ∀ buffered ∈ lostEvents system.state next, buffered.id ∈ selected.eventIds)
      (rows : ∀ entry ∈ lostRows system.state next, entry.1 ∈ selected.counterRefs)
  /-- They were cleared with everything else. -/
  | cleared {selected : Selected}
      (hanswer : answered system step = some (.disables, selected))
      (hnext : next = disable system.state)
  /-- Each of them is counted, and perhaps other drops are. The count saturates. -/
  | counted (others : Nat)
      (hdropped : next.droppedSinceLast = U64.saturatingAdd system.state.droppedSinceLast
        ((lostEvents system.state next).length + (lostRows system.state next).length + others))

/-- Every step accounts for what it loses. -/
theorem Moves.accounted {reporter : Reporter} {system : System} {step : Step} {next : State}
    (hmoves : Moves reporter system step next) (hok : WellFormed reporter system.state) :
    Accounted system step next := by
  have hcounted := hmoves.counted hok
  cases hmoves with
  | same hanswer => exact .counted _ (hcounted hanswer)
  | records hstep | selects hstep | prunes hstep =>
      refine .counted _ (hcounted fun verdict selected hanswer => ?_)
      rw [hstep] at hanswer
      cases hanswer
  | accepts hanswer hnext =>
      rename_i answer selected
      have hlost := (retires_acceptBatch hok answer.body answer.now selected).lost
      rw [← hnext] at hlost
      exact .delivered hanswer hlost.1 hlost.2
  | rejects hanswer hnext =>
      rename_i selected
      have hlength := (retires_rejectBatch hok selected).length_lost_le hok
      rw [← hnext] at hlength
      -- A 413 counts its whole batch, whatever of it is still there.
      refine .counted (selected.eventIds.length + selected.counterRefs.length -
        ((lostEvents system.state next).length + (lostRows system.state next).length)) ?_
      rw [Nat.add_sub_cancel' (Nat.add_le_add hlength.1 hlength.2), hnext, rejectBatch,
        removeSelected_eq hok.windows]
  | disables hanswer hnext => exact .cleared hanswer hnext

/-- A 202 retires the batch it answers, and leaves everything else in its order. -/
theorem retires_of_accepts {reporter : Reporter} {system : System} {step : Step}
    {selected : Selected} (hok : WellFormed reporter system.state)
    (hanswer : answered system step = some (.accepts, selected)) :
    Retires selected system.state (system.step reporter step).state := by
  cases moves_step reporter system step with
  | same hbacksOff => cases hbacksOff _ _ hanswer
  | records hstep | selects hstep | prunes hstep =>
      rw [hstep] at hanswer
      cases hanswer
  | accepts hsome hnext =>
      rw [hanswer] at hsome
      cases hsome
      rw [hnext]
      exact retires_acceptBatch hok _ _ _
  | rejects hsome | disables hsome =>
      rw [hanswer] at hsome
      cases hsome

/-- Whatever a step of a run loses was of the batch that a 202 answered, or was cleared, or is
counted in `dropped_since_last` as far as that can count. A 202 without an `off` retires
exactly its own batch. That batch was selected in an earlier step of the run, its body is
made of items of the state then, and what is still there of them has not changed. -/
theorem run_accounted (reporter : Reporter) (rate : Option Rat) (interval : Nat)
    (instanceId : String) (steps : List Step) (step : Step) :
    let start := System.new rate interval instanceId
    let system := start.run reporter steps
    let next := (system.step reporter step).state
    Accounted system step next ∧
    ∀ answer selected, step = .respond answer → system.phase = .posted selected →
      answer.status = 202 → isOff answer.headers = false →
      Retires selected system.state next ∧
      ∃ before fresh now after, steps = before ++ .select fresh :: after ∧
        (start.run reporter before).phase = .entered now ∧
        (selectBatch reporter fresh now (start.run reporter before).state).1 = some selected ∧
        Carries reporter.library selected
          (start.run reporter (before ++ [.select fresh])).state ∧
        Unchanged selected (start.run reporter (before ++ [.select fresh])).state
          system.state := by
  intro start system next
  have hnew : WellFormed reporter start.state := wellFormed_new reporter rate interval instanceId
  have hok : WellFormed reporter system.state := hnew.run steps
  refine ⟨(moves_step reporter system step).accounted hok, ?_⟩
  intro answer selected hstep hphase hstatus hon
  have hanswer : answered system step = some (.accepts, selected) := by
    rw [hstep, answered_respond hphase, Answer.verdict, hon, hstatus]
    rfl
  refine ⟨retires_of_accepts hok hanswer, ?_⟩
  · obtain ⟨before, fresh, now, after, hsplit, hentered, hselect, hevolves⟩ :=
      posted_selected hnew rfl hphase
    -- The batch is what the last `select` of the run chose.
    have hchosen : (start.run reporter (before ++ [.select fresh])).state =
        (selectBatch reporter fresh now (start.run reporter before).state).2 := by
      rw [run_concat, step_select_state hentered]
    have hcarries := carries_selectBatch hselect
    rw [← hchosen] at hcarries
    exact ⟨before, fresh, now, after, hsplit, hentered, hselect, hcarries,
      hevolves.unchanged (hnew.run _) hcarries⟩

/-- The event of a call that could not connect, as it is serialised. -/
def sampleEventJson : String :=
  "\x7b\"age_ms\":0,\"plane\":\"inference\",\"endpoint\":\"chat_completions\"," ++
    "\"method\":\"POST\",\"streaming\":false,\"provider_pinned\":false,\"model\":null," ++
    "\"attempts\":[\x7b\"index\":0,\"host\":\"apex\",\"outcome\":\"transport_error\"," ++
    "\"http_status\":null,\"error_class\":\"connect_error\",\"error_source\":null," ++
    "\"retry_after_ms\":null,\"elapsed_ms\":80,\"ttfb_ms\":null,\"request_id\":null," ++
    "\"moved\":false\x7d],\"final_outcome\":\"transport_error\"," ++
    "\"final_http_status\":null,\"total_ms\":80,\"ttft_ms\":null,\"failover_used\":false," ++
    "\"timeout_phase\":\"none\",\"configured_timeout_ms\":null,\"sample_rate\":1.0," ++
    "\"sample_reason\":\"failure\"\x7d"

/-- What a batch of a reporter without a drop starts with. -/
def batchHeadJson : String :=
  "\x7b\"schema_version\":1,\"batch_id\":\"b-1\",\"instance_id\":\"i-1\",\"seq\":0," ++
    "\"sent_at_ms\":0,\"sdk\":\x7b\"name\":\"tr-rust\",\"version\":\"0.0.0\"," ++
    "\"lang\":\"rust\",\"runtime\":\"rustc/unknown\",\"os\":\"linux\"," ++
    "\"arch\":\"x64\"\x7d,\"synthetic\":false,\"dropped_since_last\":0,\"events\":"

/-- The sample reporter with a key, and with a library that serialises the sample event and
the first batch of sample events and rows. -/
def flushReporter : Reporter :=
  { sampleReporter with
    library :=
      { sampleReporter.library with
        eventJson := fun _ => some sampleEventJson
        batchJson := fun batch => some (
          batchHeadJson ++ rowsJson sampleEventJson batch.events.length ++
            ",\"counters\":" ++ rowsJson sampleRowJson batch.counters.length ++ "\x7d") }
    apiKey := some "sk-tr-1" }

/-- A 202 without a policy. -/
def accepted (now : Nat) : Answer := { status := 202, headers := [], body := [], now := now }

/-- The system after a call. -/
def called : System :=
  (System.new none 0 "i-1").run flushReporter [.onRequest (sampleCall (Duration.fromSecs 60))]

/-- The flush after the call has a batch in flight. -/
theorem called_posts : ∃ selected,
    (called.run flushReporter [.enter (Duration.fromSecs 60), .select ⟨"b-1", 0⟩]).phase =
      .posted selected := by
  have hentered : (called.step flushReporter (.enter (Duration.fromSecs 60))).phase =
      .entered (Duration.fromSecs 60) :=
    step_enter_phase rfl (by decide +kernel) (by decide +kernel)
  have hsome : (selectBatch flushReporter ⟨"b-1", 0⟩ (Duration.fromSecs 60)
      (called.step flushReporter (.enter (Duration.fromSecs 60))).state).1.isSome = true := by
    decide +kernel
  obtain ⟨selected, hselected⟩ := Option.isSome_iff_exists.mp hsome
  rw [run_cons, run_cons, run_nil]
  exact ⟨selected, step_select_phase hentered hselected⟩

/-- A call, then a flush that is answered 202: the row of the call is retired. -/
theorem run_accounted_sample :
    ∃ steps selected,
      ((System.new none 0 "i-1").run flushReporter steps).phase = .posted selected ∧
      (closedRows ((System.new none 0 "i-1").run flushReporter steps).state).length = 1 ∧
      closedRows (((System.new none 0 "i-1").run flushReporter steps).step flushReporter
        (.respond (accepted (Duration.fromSecs 61)))).state = [] ∧
      Retires selected ((System.new none 0 "i-1").run flushReporter steps).state
        (((System.new none 0 "i-1").run flushReporter steps).step flushReporter
          (.respond (accepted (Duration.fromSecs 61)))).state := by
  obtain ⟨selected, hposted⟩ := called_posts
  rw [called, ← run_append] at hposted
  refine ⟨_, selected, hposted, by decide +kernel, by decide +kernel, ?_⟩
  exact ((run_accounted flushReporter none 0 "i-1" _ _).2 _ _ rfl hposted rfl rfl).1

/-- A call that failed without an attempt. It is sampled, and the schema cannot carry it. -/
def invalidCall : Record :=
  { sampleCall 0 with
    runtime := false
    event :=
      { (sampleCall 0).event with
        finalOutcome := .outcome .transportError
        finalHttpStatus := none }
    counters := [] }

/-- All it does to a state in the first minute is to count a drop. -/
theorem onRequest_invalidCall {state : State}
    (hopen : (state.disabled || state.closed) = false)
    (hstart : state.currentWindowStart = some 0) (hurgent : state.urgent = false) :
    onRequest sampleReporter invalidCall state =
      { state with droppedSinceLast := U64.saturatingAdd state.droppedSinceLast 1 } := by
  -- The call is of the minute of the window, it is not sampled, and there is no runtime for a
  -- worker.
  have hroll : rollWindow sampleReporter invalidCall.now state = state := by
    rw [rollWindow, hstart]
    exact if_neg (by decide)
  have hcount : countInvalid invalidCall state =
      { state with droppedSinceLast := U64.saturatingAdd state.droppedSinceLast 1 } :=
    if_pos (by decide)
  have hsampled : invalidCall.sampled = none := by decide
  have hworker : ∀ state, startWorker invalidCall.runtime invalidCall.now state = state :=
    fun state => if_pos (Bool.or_true _)
  rw [onRequest, if_neg (by rw [hopen]; exact Bool.false_ne_true)]
  simp only [hroll, bufferSample, hsampled, hworker]
  show markUrgent (countInvalid invalidCall state) = _
  rw [hcount]
  refine if_neg ?_
  show ¬ state.urgent = true
  rw [hurgent]
  exact Bool.false_ne_true

/-- So a run of them counts them all, up to the largest `u64`. -/
theorem run_invalidCalls {system : System}
    (hopen : (system.state.disabled || system.state.closed) = false)
    (hstart : system.state.currentWindowStart = some 0)
    (hurgent : system.state.urgent = false)
    (hdropped : system.state.droppedSinceLast ≤ U64.max) (count : Nat) :
    system.run sampleReporter (List.replicate count (.onRequest invalidCall)) =
      { system with
        state :=
          { system.state with
            droppedSinceLast := U64.saturatingAdd system.state.droppedSinceLast count } } := by
  induction count with
  | zero =>
      rw [U64.saturatingAdd_zero hdropped]
      rfl
  | succ count ih =>
      have hstep : onRequest sampleReporter invalidCall
          { system.state with
            droppedSinceLast := U64.saturatingAdd system.state.droppedSinceLast count } = _ :=
        onRequest_invalidCall hopen hstart hurgent
      rw [List.replicate_succ', run_concat, ih, ← U64.saturatingAdd_assoc]
      exact congrArg (System.mk · system.phase) hstep

/-- With `dropped_since_last` at the largest `u64`, a row that expires leaves no trace. The row here
is that of a call of the first minute. It expires a day later, when another call rolls the
window. -/
theorem silent_loss_when_saturated :
    ∃ steps step,
      let system := (System.new none 0 "").run sampleReporter steps
      let next := (system.step sampleReporter step).state
      answered system step = none ∧ (lostRows system.state next).length = 1 ∧
        next.droppedSinceLast = system.state.droppedSinceLast := by
  refine ⟨[.onRequest (sampleCall 0)] ++ List.replicate U64.max (.onRequest invalidCall) ++
      [.onRequest (sampleCall (Duration.fromSecs 60))],
    .onRequest (sampleCall (Duration.fromSecs 86430)), ?_⟩
  rw [run_append, run_append,
    run_invalidCalls (by decide +kernel) (by decide +kernel) (by decide +kernel)
      (by decide +kernel)]
  exact ⟨rfl, by decide +kernel, by decide +kernel⟩

end TrustedRouter.Proofs.Telemetry
