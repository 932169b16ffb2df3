import TrustedRouter.Proofs.Telemetry.Shutdown

/-!
# `TrustedRouter.Proofs.Telemetry.Drops`: every drop is reported once

`select_batch` copies `dropped_since_last` into the batch, and a 202 subtracts the copy. In
between the count can only grow, because one batch is in flight at a time and only its own 202
takes anything off. So the subtraction is exact (`DropsInFlight`), and the counts that were
acknowledged, with what is left, are all that was ever added (`drops_reported_once`).

What a step adds is stated by what it loses: the events and rows that are gone after it, the
samples that the schema cannot carry, and the items of a batch that the server refused.
-/

set_option autoImplicit false

namespace TrustedRouter.Proofs.Telemetry

open TrustedRouter.Telemetry
open Rust

/-! ## What a step adds and what it acknowledges -/

/-- What a step adds to `dropped_since_last`: the items of a batch that was refused, or else
what left the buffers and the samples that never got there. -/
def increment (reporter : Reporter) (system : System) (step : Step) : Nat :=
  match answered system step with
  | some (.rejects, selected) => selected.eventIds.length + selected.counterRefs.length
  | some (.accepts, _) => 0
  | some (.disables, _) => 0
  | _ =>
      (lostEvents system.state (system.step reporter step).state).length +
        (lostRows system.state (system.step reporter step).state).length +
        invalidSamples system step

/-- The drop count in the batch that a step acknowledges, if it does. -/
def acknowledged (system : System) (step : Step) : Nat :=
  match answered system step with
  | some (.accepts, selected) => selected.batch.droppedSinceLast
  | _ => 0

/-- The sum of what the steps of a run contribute. -/
def total (reporter : Reporter) (f : System → Step → Nat) : System → List Step → Nat
  | _, [] => 0
  | system, step :: rest => f system step + total reporter f (system.step reporter step) rest

/-! ## The batch in flight -/

/-- A batch in flight: its body says how many drops it carries, and they are no more than
there are. -/
structure CarriesDrops (reporter : Reporter) (state : State) (selected : Selected) : Prop where
  body : reporter.library.batchJson selected.batch = some selected.body
  copied : selected.batch.droppedSinceLast = selected.dropped
  atMost : selected.dropped ≤ state.droppedSinceLast

/-- The invariant of the batch in flight, if there is one. -/
def DropsInFlight (reporter : Reporter) (system : System) : Prop :=
  ∀ selected, system.phase = .posted selected → CarriesDrops reporter system.state selected

/-- A selected batch carries the count as it stands after the windows were settled. -/
theorem carriesDrops_of_selectBatch {reporter : Reporter} {fresh : Fresh} {now : Nat}
    {state : State} {selected : Selected}
    (h : (selectBatch reporter fresh now state).1 = some selected) :
    CarriesDrops reporter (selectBatch reporter fresh now state).2 selected := by
  have hstate := (selectBatch_state reporter fresh now state).droppedSinceLast
  obtain ⟨events, counters, htrimmed⟩ := trimmed_of_selectBatch h
  refine ⟨htrimmed.body, ?_, Nat.le_of_eq ?_⟩
  · rw [htrimmed.batch, htrimmed.dropped]
  · rw [hstate]
    exact htrimmed.dropped

/-- A step that leaves a batch in flight hears no response. -/
theorem answered_eq_none_of_posted {reporter : Reporter} {system : System} {step : Step}
    {selected : Selected} (h : (system.step reporter step).phase = .posted selected) :
    answered system step = none := by
  by_contra hsome
  obtain ⟨⟨verdict, other⟩, hanswer⟩ := Option.ne_none_iff_exists'.mp hsome
  obtain ⟨answer, rfl, hphase, -⟩ := exists_answer hanswer
  simp only [System.step, hphase] at h
  cases h

/-- One step. -/
theorem DropsInFlight.step {reporter : Reporter} {system : System}
    (h : DropsInFlight reporter system) (hok : WellFormed reporter system.state) (step : Step) :
    DropsInFlight reporter (system.step reporter step) := by
  intro selected hposted
  have hanswer := answered_eq_none_of_posted hposted
  rcases posted_step hposted with hbefore | ⟨fresh, now, rfl, hphase, hselect⟩
  · -- The batch was in flight before, and the count has only grown.
    have hgrown : system.state.droppedSinceLast ≤
        (system.step reporter step).state.droppedSinceLast := by
      rw [(moves_step reporter system step).counted hok fun verdict other hsome => by
        rw [hanswer] at hsome; cases hsome]
      exact U64.le_saturatingAdd hok.dropped _
    have hdrops := h selected hbefore
    exact ⟨hdrops.body, hdrops.copied, Nat.le_trans hdrops.atMost hgrown⟩
  · rw [step_select_state hphase]
    exact carriesDrops_of_selectBatch hselect

/-- A run of them, by induction on the steps. -/
theorem DropsInFlight.run {reporter : Reporter} {system : System}
    (h : DropsInFlight reporter system) (hok : WellFormed reporter system.state)
    (steps : List Step) : DropsInFlight reporter (system.run reporter steps) := by
  induction steps generalizing system with
  | nil => exact h
  | cons step rest ih =>
      rw [run_cons]
      exact ih (h.step hok step) (hok.moves (moves_step reporter system step))

/-! ## The balance -/

/-- Within range a saturating sum is a sum. -/
theorem saturatingAdd_of_le {a b : Nat} (h : a + b ≤ U64.max) : U64.saturatingAdd a b = a + b :=
  Nat.min_eq_left h

/-- A step without a response, or with one that makes the reporter back off, adds what it
loses. -/
theorem balance_of_quiet {reporter : Reporter} {system : System} {step : Step}
    (hok : WellFormed reporter system.state)
    (hquiet : ∀ verdict selected,
      answered system step = some (verdict, selected) → verdict = .backsOff)
    (hroom : system.state.droppedSinceLast + increment reporter system step ≤ U64.max) :
    acknowledged system step + (system.step reporter step).state.droppedSinceLast =
      system.state.droppedSinceLast + increment reporter system step := by
  have hcounted := (moves_step reporter system step).counted hok hquiet
  -- Nothing but an accepted batch acknowledges drops.
  have hnone : acknowledged system step = 0 := by
    unfold acknowledged
    split
    · rename_i selected hanswer
      cases hquiet _ _ hanswer
    · rfl
  have hincrement : increment reporter system step =
      (lostEvents system.state (system.step reporter step).state).length +
        (lostRows system.state (system.step reporter step).state).length +
        invalidSamples system step := by
    unfold increment
    split
    · rename_i hanswer
      cases hquiet _ _ hanswer
    · rename_i hanswer
      cases hquiet _ _ hanswer
    · rename_i hanswer
      cases hquiet _ _ hanswer
    · rfl
  rw [← hincrement, saturatingAdd_of_le hroom] at hcounted
  rw [hnone, Nat.zero_add, hcounted]

/-- What a step acknowledges and what it leaves is what was there and what it adds. `hon` excludes
the clearing, which forgets the count, and `hroom` the saturation, which cuts it. -/
theorem balance_step {reporter : Reporter} {system : System} {step : Step}
    (hok : WellFormed reporter system.state) (hflight : DropsInFlight reporter system)
    (hon : ∀ selected, answered system step ≠ some (.disables, selected))
    (hroom : system.state.droppedSinceLast + increment reporter system step ≤ U64.max) :
    acknowledged system step + (system.step reporter step).state.droppedSinceLast =
      system.state.droppedSinceLast + increment reporter system step := by
  cases hanswer : answered system step with
  | none =>
      refine balance_of_quiet hok (fun verdict selected hsome => ?_) hroom
      rw [hanswer] at hsome
      cases hsome
  | some answer =>
      obtain ⟨verdict, selected⟩ := answer
      obtain ⟨answer, rfl, hphase, hverdict⟩ := exists_answer hanswer
      have hstate : (system.step reporter (.respond answer)).state =
          handleResponse reporter.library answer selected system.state := by
        simp only [System.step, hphase]
      cases verdict with
      | backsOff =>
          refine balance_of_quiet hok (fun verdict other hsome => ?_) hroom
          rw [hanswer] at hsome
          cases hsome
          rfl
      | disables => exact absurd hanswer (hon selected)
      | accepts =>
          -- The batch carries no more than there is, so nothing is cut off below zero.
          have hdropped : (system.step reporter (.respond answer)).state.droppedSinceLast =
              system.state.droppedSinceLast - selected.dropped := by
            rw [hstate, handleResponse, hverdict]
            exact (acceptBatch_state ..).droppedSinceLast
          have hdrops := hflight selected hphase
          have hatMost := hdrops.atMost
          simp only [acknowledged, increment, hanswer, hdropped, hdrops.copied]
          omega
      | rejects =>
          have hdropped : (system.step reporter (.respond answer)).state.droppedSinceLast =
              U64.saturatingAdd system.state.droppedSinceLast
                (selected.eventIds.length + selected.counterRefs.length) := by
            rw [hstate, handleResponse, hverdict]
            rfl
          simp only [increment, hanswer] at hroom
          simp only [acknowledged, increment, hanswer, hdropped, saturatingAdd_of_le hroom]
          omega

/-- A whole run from any state of the reporter, by adding the balances of its steps up. `hon`
keeps the reporter on, and `hroom` keeps the count from saturating. -/
theorem balance_run {reporter : Reporter} {system : System} {steps : List Step}
    (hok : WellFormed reporter system.state) (hflight : DropsInFlight reporter system)
    (hon : ∀ before answer after selected, steps = before ++ .respond answer :: after →
      (system.run reporter before).phase = .posted selected → ¬ TurnsOff answer)
    (hroom : ∀ before step after, steps = before ++ step :: after →
      (system.run reporter before).state.droppedSinceLast +
        increment reporter (system.run reporter before) step ≤ U64.max) :
    total reporter acknowledged system steps + (system.run reporter steps).state.droppedSinceLast =
      system.state.droppedSinceLast + total reporter (increment reporter) system steps := by
  induction steps generalizing system with
  | nil => exact Nat.add_comm _ _
  | cons step rest ih =>
      -- The first step balances, and the sums of the rest are added to it.
      have hstep : acknowledged system step + (system.step reporter step).state.droppedSinceLast =
          system.state.droppedSinceLast + increment reporter system step := by
        refine balance_step hok hflight (fun selected hanswer => ?_) (hroom [] step rest rfl)
        obtain ⟨answer, rfl, hphase, hverdict⟩ := exists_answer hanswer
        exact hon [] answer rest selected rfl hphase (verdict_disables_iff.mp hverdict)
      have hrest := ih (hok.moves (moves_step reporter system step)) (hflight.step hok step)
        (fun before answer after selected hsplit hphase =>
          hon (step :: before) answer after selected (by rw [hsplit]; rfl) hphase)
        (fun before next after hsplit => hroom (step :: before) next after (by rw [hsplit]; rfl))
      rw [run_cons, total, total]
      omega

/-- In a run that does not disable the reporter, and in which the count does not saturate, the
drop counts of the batches that were answered 202, with the count as it stands, are all the
drops there were. A batch on the wire is the serialisation of what it counts. -/
theorem drops_reported_once (reporter : Reporter) (rate : Option Rat) (interval : Nat)
    (instanceId : String) {steps : List Step}
    (hon : ∀ before answer after selected, steps = before ++ .respond answer :: after →
      ((System.new rate interval instanceId).run reporter before).phase = .posted selected →
        ¬ TurnsOff answer)
    (hroom : ∀ before step after, steps = before ++ step :: after →
      ((System.new rate interval instanceId).run reporter before).state.droppedSinceLast +
        increment reporter ((System.new rate interval instanceId).run reporter before) step ≤
          U64.max) :
    total reporter acknowledged (.new rate interval instanceId) steps +
        ((System.new rate interval instanceId).run reporter steps).state.droppedSinceLast =
      total reporter (increment reporter) (.new rate interval instanceId) steps ∧
    ∀ before selected, before <+: steps →
      ((System.new rate interval instanceId).run reporter before).phase = .posted selected →
      reporter.library.batchJson selected.batch = some selected.body := by
  have hok := wellFormed_new reporter rate interval instanceId
  -- A new reporter has posted nothing.
  have hflight : DropsInFlight reporter (System.new rate interval instanceId) := by
    intro selected hposted
    cases hposted
  constructor
  · have hrun := balance_run hok hflight hon hroom
    rw [hrun]
    exact Nat.zero_add _
  · intro before selected _ hposted
    exact (hflight.run hok before selected hposted).body

/-- What a batch of a reporter with one drop starts with. -/
def droppedHeadJson : String :=
  "\x7b\"schema_version\":1,\"batch_id\":\"b-1\",\"instance_id\":\"i-1\",\"seq\":0," ++
    "\"sent_at_ms\":0,\"sdk\":\x7b\"name\":\"tr-rust\",\"version\":\"0.0.0\"," ++
    "\"lang\":\"rust\",\"runtime\":\"rustc/unknown\",\"os\":\"linux\"," ++
    "\"arch\":\"x64\"\x7d,\"synthetic\":false,\"dropped_since_last\":1,\"events\":"

/-- The reporter of the sample flushes, with a library that serialises a batch with a drop. -/
def dropReporter : Reporter :=
  { flushReporter with
    library :=
      { flushReporter.library with
        batchJson := fun batch => some (
          droppedHeadJson ++ rowsJson sampleEventJson batch.events.length ++
            ",\"counters\":" ++ rowsJson sampleRowJson batch.counters.length ++ "\x7d") } }

/-- A call that the schema cannot carry between two that it can, and the flush of all. -/
def dropSteps : List Step :=
  [.onRequest (sampleCall 0), .onRequest invalidCall,
    .onRequest (sampleCall (Duration.fromSecs 60)), .enter (Duration.fromSecs 60),
    .select ⟨"b-1", 0⟩, .respond (accepted (Duration.fromSecs 61))]

/-- A plain 202 turns nothing off. -/
theorem not_turnsOff_accepted (now : Nat) : ¬ TurnsOff (accepted now) := by
  rintro (⟨_, _, _, _, _, _, hheader⟩ | hstatus)
  · cases hheader
  · exact absurd (show 202 ∈ [400, 401, 403, 404, 410] from hstatus) (by decide)

/-- The one drop there was is reported, and nothing is left. -/
theorem drops_reported_once_sample :
    total dropReporter (increment dropReporter) (.new none 0 "i-1") dropSteps = 1 ∧
    ((System.new none 0 "i-1").run dropReporter dropSteps).state.droppedSinceLast = 0 ∧
    total dropReporter acknowledged (.new none 0 "i-1") dropSteps = 1 := by
  have hon : ∀ before answer after selected, dropSteps = before ++ .respond answer :: after →
      ((System.new none 0 "i-1").run dropReporter before).phase = .posted selected →
        ¬ TurnsOff answer := by
    intro before answer after selected hsplit _
    have hmem : Step.respond answer ∈ dropSteps := by simp [hsplit]
    simp only [dropSteps, List.mem_cons, Step.respond.injEq, reduceCtorEq, List.not_mem_nil,
      false_or, or_false] at hmem
    rw [hmem]
    exact not_turnsOff_accepted _
  have hroom : ∀ before step after, dropSteps = before ++ step :: after →
      ((System.new none 0 "i-1").run dropReporter before).state.droppedSinceLast +
        increment dropReporter ((System.new none 0 "i-1").run dropReporter before) step ≤
          U64.max := by
    -- The bound is decided at each index, and then read for any way to split the steps.
    have hat : ∀ index < dropSteps.length, ∀ step ∈ dropSteps[index]?,
        ((System.new none 0 "i-1").run dropReporter (dropSteps.take index)).state.droppedSinceLast +
          increment dropReporter ((System.new none 0 "i-1").run dropReporter
            (dropSteps.take index)) step ≤ U64.max := by
      decide +kernel
    intro before step after hsplit
    have hbefore : dropSteps.take before.length = before := by rw [hsplit, List.take_left]
    have hstep : dropSteps[before.length]? = some step := by
      rw [hsplit, List.getElem?_append_right (Nat.le_refl _), Nat.sub_self, List.getElem?_cons_zero]
    have hlt : before.length < dropSteps.length := (List.getElem?_eq_some_iff.mp hstep).1
    have hsum := hat before.length hlt step hstep
    rwa [hbefore] at hsum
  have hbalance := (drops_reported_once dropReporter none 0 "i-1" hon hroom).1
  have hadded : total dropReporter (increment dropReporter) (.new none 0 "i-1") dropSteps = 1 := by
    decide +kernel
  have hleft :
      ((System.new none 0 "i-1").run dropReporter dropSteps).state.droppedSinceLast = 0 := by
    decide +kernel
  rw [hadded, hleft, Nat.add_zero] at hbalance
  exact ⟨hadded, hleft, hbalance⟩

end TrustedRouter.Proofs.Telemetry
