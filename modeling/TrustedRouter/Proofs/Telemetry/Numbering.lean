import TrustedRouter.Proofs.Telemetry.Accounting

/-!
# `TrustedRouter.Proofs.Telemetry.Numbering`: the batches of a process are numbered

A batch names the process that sends it and has a sequence number, so that the receiver can order
the batches of a process and see that one is missing. `batches_numbered` says that this works over
every run: the numbers of the batches ascend, all of them have the id of the process, and an item
that is sent again after a failure is in a batch with a new number.

`State::seq` moves in `select_batch` only. `label` is the pair of the id and the number, with one
frame lemma for every other operation.
-/

set_option autoImplicit false

namespace TrustedRouter.Proofs.Telemetry

open TrustedRouter.Telemetry

/-! ## What leaves the number alone -/

/-- The id of the process and the number of its next batch. -/
def label (state : State) : String × Nat := (state.instanceId, state.seq)

/-- The window operations leave the label alone. -/
theorem Settles.label_eq {reporter : Reporter} {state state' : State}
    (h : Settles reporter state state') : label state' = label state := by
  obtain ⟨_, _, _, _, _, _, _, rfl⟩ := h.windows
  rfl

/-- So does buffering a sample. -/
theorem Admits.label_eq {record : Record} {state state' : State}
    (h : Admits record state state') : label state' = label state := by
  obtain ⟨_, _, _, _, _, _, _, _, _, rfl⟩ := h.events
  rfl

/-- A recorded call leaves the label: its parts do, one after the other. -/
theorem label_onRequest {reporter : Reporter} {state : State} (h : WellFormed reporter state)
    (record : Record) : label (onRequest reporter record state) = label state := by
  have hworker : ∀ state, label (startWorker record.runtime record.now state) = label state := by
    intro state
    unfold startWorker
    split <;> rfl
  have hurgent : ∀ state, label (markUrgent state) = label state := by
    intro state
    unfold markUrgent
    split <;> rfl
  have hmerged := (h.rollWindow record.now).mergeCounters record.counters
  have hcounted := hmerged.countInvalid record
  have hbuffer := admits_bufferSample reporter.library record hcounted.events hcounted.dropped
  unfold onRequest
  split
  · rfl
  · dsimp only
    rw [hurgent, hworker, hbuffer.label_eq, countInvalid_eq record hmerged.dropped]
    exact (settles_rollWindow reporter record.now h.dropped).label_eq

/-- A policy leaves the label alone. -/
theorem label_applyPolicy (library : Library) (policy : Serde.Value) (now : Nat) (state : State) :
    label (applyPolicy library policy now state) = label state := by
  obtain ⟨lowered, interval, paused, heq⟩ := applyPolicy_eq library policy now state
  rw [heq]
  rfl

/-- A response leaves it, whatever the verdict is. -/
theorem label_handleResponse (library : Library) (answer : Answer) (selected : Selected)
    (state : State) : label (handleResponse library answer selected state) = label state := by
  unfold handleResponse
  cases answer.verdict with
  | disables => rfl
  | accepts =>
      show label (acceptBatch library answer.body answer.now selected state) = label state
      unfold acceptBatch
      dsimp only
      split
      · rw [label_applyPolicy]
        rfl
      · rfl
  | rejects => rfl
  | backsOff => rfl

/-! ## Batches -/

/-- The batches of a run, in the order in which they are posted. -/
def postings (reporter : Reporter) : System → List Step → List Selected
  | _, [] => []
  | system, step :: rest =>
      (selection reporter system step).toList ++ postings reporter (system.step reporter step) rest

/-- The heading of a batch: whose it is and which. -/
structure Headed (reporter : Reporter) (instanceId : String) (selected : Selected) : Prop where
  instanceId : selected.batch.instanceId = instanceId
  sdk : selected.batch.sdk = reporter.sdk
  schemaVersion : selected.batch.schemaVersion = telemetrySchemaVersion

section
variable {reporter : Reporter} {fresh : Fresh} {now : Nat} {state : State}

/-- The number moves on when there is anything to send, and stays otherwise. It moves on also when
the batch cannot be serialised, so numbers may be left out. -/
theorem selectBatch_seq (h : WellFormed reporter state) :
    (selectBatch reporter fresh now state).2.instanceId = state.instanceId ∧
      state.seq ≤ (selectBatch reporter fresh now state).2.seq ∧
      ((selectBatch reporter fresh now state).1 ≠ none →
        (selectBatch reporter fresh now state).2.seq = state.seq + 1) := by
  have hlabel := (settles_settleWindows reporter now h.dropped).label_eq
  have hid : (settleWindows reporter now state).instanceId = state.instanceId :=
    congrArg Prod.fst hlabel
  have hseq : (settleWindows reporter now state).seq = state.seq := congrArg Prod.snd hlabel
  unfold selectBatch
  dsimp only
  split
  · exact ⟨hid, Nat.le_of_eq hseq.symm, fun hsome => absurd rfl hsome⟩
  · refine ⟨hid, ?_, fun _ => congrArg (· + 1) hseq⟩
    show state.seq ≤ (settleWindows reporter now state).seq + 1
    omega

/-- A selected batch has the id of the process and its number, which is the number before it was
counted up. -/
theorem selectBatch_headed (h : WellFormed reporter state) {selected : Selected}
    (hselect : (selectBatch reporter fresh now state).1 = some selected) :
    Headed reporter state.instanceId selected ∧ selected.batch.seq = state.seq := by
  have hlabel := (settles_settleWindows reporter now h.dropped).label_eq
  obtain ⟨eventCount, rowCount, htrimmed⟩ := trimmed_of_selectBatch hselect
  -- Trimming takes items off, and leaves the heading of the candidate.
  rw [htrimmed.batch]
  exact ⟨⟨htrimmed.batch ▸ congrArg Prod.fst hlabel, htrimmed.batch ▸ rfl, htrimmed.batch ▸ rfl⟩,
    congrArg Prod.snd hlabel⟩

end

/-- What a step does to the number: a step that posts a batch moves it on, and none moves it
back. -/
structure Numbers (reporter : Reporter) (system : System) (step : Step) : Prop where
  instanceId : (system.step reporter step).state.instanceId = system.state.instanceId
  ascends : system.state.seq ≤ (system.step reporter step).state.seq
  posts : ∀ selected, selection reporter system step = some selected →
    Headed reporter system.state.instanceId selected ∧
      selected.batch.seq = system.state.seq ∧
      (system.step reporter step).state.seq = system.state.seq + 1

/-- Most steps post nothing and leave the label. -/
theorem Numbers.of_quiet {reporter : Reporter} {system : System} {step : Step}
    (hnone : selection reporter system step = none)
    (hlabel : label (system.step reporter step).state = label system.state) :
    Numbers reporter system step := by
  refine ⟨congrArg Prod.fst hlabel, Nat.le_of_eq (congrArg Prod.snd hlabel).symm, ?_⟩
  intro selected hsome
  rw [hnone] at hsome
  cases hsome

/-- A flush that entered and now selects: the batch has the number of the state, and the state has
the next one. -/
theorem Numbers.of_select {reporter : Reporter} {system : System} {now : Nat}
    (h : WellFormed reporter system.state) (hphase : system.phase = .entered now)
    (fresh : Fresh) : Numbers reporter system (.select fresh) := by
  have hpost : selection reporter system (.select fresh) =
      (selectBatch reporter fresh now system.state).1 := by
    simp only [selection, hphase]
  have hstate := @step_select_state reporter system fresh now hphase
  obtain ⟨hid, hle, hnext⟩ := @selectBatch_seq reporter fresh now _ h
  refine ⟨hstate ▸ hid, hstate ▸ hle, ?_⟩
  intro selected hselect
  rw [hpost] at hselect
  obtain ⟨hheaded, hseq⟩ := selectBatch_headed h hselect
  -- There is a batch, so the number was used up.
  rw [hstate]
  exact ⟨hheaded, hseq, hnext (by rw [hselect]; exact Option.some_ne_none _)⟩

/-- Every step numbers what it posts. -/
theorem step_numbers {reporter : Reporter} {system : System}
    (h : WellFormed reporter system.state) (step : Step) : Numbers reporter system step := by
  cases step with
  | onRequest record => exact .of_quiet rfl (label_onRequest h record)
  | enter now =>
      refine .of_quiet rfl ?_
      rw [System.step]
      split <;> rfl
  | select fresh =>
      -- Only a flush that entered selects, and only a selection posts a batch.
      cases hphase : system.phase with
      | entered now => exact .of_select h hphase fresh
      | idle | posted selected =>
          refine .of_quiet (by simp only [selection, hphase]) ?_
          simp only [System.step, hphase]
  | respond answer =>
      refine .of_quiet rfl ?_
      rw [System.step]
      split
      · exact label_handleResponse ..
      · rfl
  | sendFailed now =>
      refine .of_quiet rfl ?_
      rw [System.step]
      split <;> rfl
  | abandon => exact .of_quiet rfl rfl
  | close => exact .of_quiet rfl rfl
  | workerTurn now =>
      refine .of_quiet rfl ?_
      show label (workerTurn now system.state) = _
      unfold workerTurn
      split <;> rfl
  | workerFlushed now => exact .of_quiet rfl rfl
  | noClient now => exact .of_quiet rfl rfl
  | pruneNow now =>
      exact .of_quiet rfl (settles_pruneWindows reporter now h.dropped).label_eq

/-- The numbers of a run start at that of its first state and go up. The induction is on the
steps: what a later step posts has a number past that of the first. -/
theorem postings_numbered {reporter : Reporter} {system : System}
    (h : WellFormed reporter system.state) (steps : List Step) :
    (∀ selected ∈ postings reporter system steps,
      Headed reporter system.state.instanceId selected ∧
        system.state.seq ≤ selected.batch.seq) ∧
      ((postings reporter system steps).map fun selected => selected.batch.seq).Pairwise
        (· < ·) := by
  induction steps generalizing system with
  | nil => exact ⟨fun _ hmem => (List.not_mem_nil hmem).elim, .nil⟩
  | cons step rest ih =>
      obtain ⟨hid, hle, hposts⟩ := step_numbers h step
      obtain ⟨hlater, hascends⟩ := ih (h.moves (moves_step reporter system step))
      rw [hid] at hlater
      -- Later batches have later numbers, since no step counts down.
      have hrest : ∀ selected ∈ postings reporter (system.step reporter step) rest,
          Headed reporter system.state.instanceId selected ∧
            system.state.seq ≤ selected.batch.seq := by
        intro selected hmem
        exact ⟨(hlater selected hmem).1, Nat.le_trans hle (hlater selected hmem).2⟩
      rw [postings]
      cases hpost : selection reporter system step with
      | none => exact ⟨hrest, hascends⟩
      | some posted =>
          obtain ⟨hheaded, hseq, hnext⟩ := hposts posted hpost
          refine ⟨List.forall_mem_cons.mpr ⟨⟨hheaded, Nat.le_of_eq hseq.symm⟩, hrest⟩, ?_⟩
          refine List.pairwise_cons.mpr ⟨?_, hascends⟩
          intro seq hmem
          obtain ⟨later, hlaterMem, rfl⟩ := List.mem_map.mp hmem
          have hbound := (hlater later hlaterMem).2
          show posted.batch.seq < later.batch.seq
          omega

/-- The batches of a process have its id and ascending numbers, whatever calls finish and however
the flushes end. -/
theorem batches_numbered (reporter : Reporter) (rate : Option Rat) (interval : Nat)
    (instanceId : String) (steps : List Step) :
    (∀ selected ∈ postings reporter (System.new rate interval instanceId) steps,
      Headed reporter instanceId selected) ∧
      ((postings reporter (System.new rate interval instanceId) steps).map fun selected =>
        selected.batch.seq).Pairwise (· < ·) := by
  have hnew : WellFormed reporter (System.new rate interval instanceId).state :=
    wellFormed_new reporter rate interval instanceId
  obtain ⟨hheaded, hascends⟩ := postings_numbered hnew steps
  exact ⟨fun selected hmem => (hheaded selected hmem).1, hascends⟩

end TrustedRouter.Proofs.Telemetry
