import TrustedRouter.Proofs.Telemetry.Drops
import TrustedRouter.Proofs.Telemetry.Pace
import TrustedRouter.Telemetry.Worker

/-!
# `TrustedRouter.Proofs.Telemetry.Spacing`: how far apart the beacons are

After a flush the worker writes one time into both of its deadlines, and no other thread
writes to them once it is spawned (`deadlines_step`). So whatever makes the worker flush
again, the urgent flag or the interval, its clock has passed that time. This is `Spaced`,
which holds from the flush on in every later state: either both deadlines are past the bound,
or the clock is.

For the gate, `Began` goes back from a flush that holds the lock to the step that took it.
-/

set_option autoImplicit false

namespace TrustedRouter.Proofs.Telemetry

open TrustedRouter.Telemetry
open Rust

/-! ## The deadlines of the worker -/

/-- A recorded call leaves the deadlines of a spawned worker alone. -/
theorem deadlines_onRequest (reporter : Reporter) (record : Record) {state : State}
    (h : state.workerStarted = true) :
    deadlines (onRequest reporter record state) = deadlines state := by
  unfold onRequest
  split
  · rfl
  · dsimp only
    rw [deadlines_of_pace (pace_markUrgent _)]
    have hbefore := deadlines_of_pace (pace_recorded reporter record state)
    have hstarted := congrArg (fun deadlines => deadlines.2.2) hbefore
    rw [startWorker, if_pos]
    · exact hbefore
    · rw [show (bufferSample _ _ _).workerStarted = true from hstarted.trans h]
      rfl

/-- A policy leaves the deadlines of the worker alone. -/
theorem deadlines_applyPolicy (library : Library) (policy : Serde.Value) (now : Nat)
    (state : State) : deadlines (applyPolicy library policy now state) = deadlines state := by
  obtain ⟨lowered, interval, paused, heq⟩ := applyPolicy_eq library policy now state
  rw [heq]
  rfl

/-- A response moves the gate, and no deadline. -/
theorem deadlines_handleResponse (library : Library) (answer : Answer) (selected : Selected)
    (state : State) :
    deadlines (handleResponse library answer selected state) = deadlines state := by
  unfold handleResponse
  split
  · rfl
  · unfold acceptBatch
    dsimp only
    split
    · exact deadlines_applyPolicy library _ _ _
    · rfl
  · rfl
  · rfl

/-- No step but the worker's own moves the deadlines of a spawned worker. -/
theorem deadlines_step (reporter : Reporter) {system : System} {step : Step}
    (hstarted : system.state.workerStarted = true)
    (hstep : ∀ now, step ≠ .workerFlushed now) :
    deadlines (system.step reporter step).state = deadlines system.state := by
  cases step with
  | onRequest record => exact deadlines_onRequest reporter record hstarted
  | enter now =>
      unfold System.step
      dsimp only
      split <;> rfl
  | select fresh =>
      cases hphase : system.phase with
      | entered now =>
          rw [step_select_state hphase]
          exact deadlines_of_pace (pace_selectBatch reporter fresh now system.state)
      | idle => simp only [System.step, hphase]
      | posted selected => simp only [System.step, hphase]
  | respond answer =>
      unfold System.step
      dsimp only
      split
      · exact deadlines_handleResponse reporter.library answer _ system.state
      · rfl
  | sendFailed now =>
      unfold System.step
      dsimp only
      split <;> rfl
  | abandon => rfl
  | close => rfl
  | workerTurn now => exact deadlines_of_pace (pace_workerTurn now system.state)
  | workerFlushed now => exact absurd rfl (hstep now)
  | noClient now => rfl
  | pruneNow now => exact deadlines_of_pace (pace_pruneWindows reporter now system.state)

/-- A worker that was spawned stays spawned, through any step but its own note. -/
theorem workerStarted_step (reporter : Reporter) {system : System} {step : Step}
    (hstarted : system.state.workerStarted = true)
    (hstep : ∀ now, step ≠ .workerFlushed now) :
    (system.step reporter step).state.workerStarted = true :=
  (congrArg (fun deadlines => deadlines.2.2) (deadlines_step reporter hstarted hstep)).trans
    hstarted

/-! ## What an action can do -/

/-- The worker calls `flush_with` when its look said so, and time does not go back. -/
theorem step_call_eq_some {reporter : Reporter} {timed next : Timed} {time : Nat} :
    timed.step reporter time .call = some next ↔
      (timed.clock ≤ time ∧ timed.worker = .due) ∧
        { timed with worker := .calling, clock := time } = next := by
  unfold Timed.step
  rw [Option.ite_none_right_eq_some, Option.some.injEq]

/-- A thread posts the batch in flight when it holds the lock of the flush. -/
theorem step_post_eq_some {reporter : Reporter} {timed next : Timed} {time : Nat}
    {thread : Thread} :
    timed.step reporter time (.post thread) = some next ↔
      (∃ selected, timed.system.phase = .posted selected) ∧
        (timed.clock ≤ time ∧ timed.holds thread = true) ∧ { timed with clock := time } = next := by
  unfold Timed.step
  cases timed.system.phase with
  | posted selected => simp
  | idle => simp
  | entered now => simp

/-- A step under the mutex happens when the phase allows it, its clock was read before, and its
thread may make it. -/
theorem step_locked_eq_some {reporter : Reporter} {timed next : Timed} {time : Nat}
    {thread : Thread} {step : Step} :
    timed.step reporter time (.locked thread step) = some next ↔
      (timed.clock ≤ time ∧ step.readBy time = true ∧
        timed.system.phase.allows step = true) ∧
      ∃ worker, timed.workerAfter reporter step thread = some worker ∧
        { system := timed.system.step reporter step, worker, clock := time } = next := by
  unfold Timed.step
  rw [Option.ite_none_right_eq_some, Option.map_eq_some_iff]

/-- The clock never goes back, and an action is made at the time that it says. -/
theorem clock_step {reporter : Reporter} {timed next : Timed} {time : Nat} {action : Action}
    (h : timed.step reporter time action = some next) :
    timed.clock ≤ time ∧ next.clock = time := by
  cases action with
  | call =>
      obtain ⟨⟨hclock, -⟩, rfl⟩ := step_call_eq_some.mp h
      exact ⟨hclock, rfl⟩
  | post thread =>
      obtain ⟨-, ⟨hclock, -⟩, rfl⟩ := step_post_eq_some.mp h
      exact ⟨hclock, rfl⟩
  | locked thread step =>
      obtain ⟨⟨hclock, -, -⟩, worker, -, rfl⟩ := step_locked_eq_some.mp h
      exact ⟨hclock, rfl⟩

/-- A step that another thread makes leaves the worker where it is, and is one that another thread
may make then. -/
theorem workerAfter_other {reporter : Reporter} {timed : Timed} {step : Step} {worker : Worker}
    (h : timed.workerAfter reporter step .other = some worker) :
    timed.otherStep step = true ∧ worker = timed.worker := by
  unfold Timed.workerAfter at h
  rw [Option.ite_none_right_eq_some, Option.some.injEq] at h
  exact ⟨h.1, h.2.symm⟩

/-- The turns of the worker's loop. -/
inductive Turns (reporter : Reporter) (timed : Timed) : Step → Worker → Prop where
  | stops {now : Nat} (h : timed.worker = .looking)
      (hstarted : timed.system.state.workerStarted = true) :
      Turns reporter timed (.workerTurn now) .stopped
  | waits {now : Nat} (h : timed.worker = .looking) :
      Turns reporter timed (.workerTurn now) .looking
  | decides {now : Nat} (h : timed.worker = .looking)
      (hstarted : timed.system.state.workerStarted = true)
      (hlook : (look now timed.system.state).1 = .flushes) :
      Turns reporter timed (.workerTurn now) .due
  | skips {now : Nat} (h : timed.worker = .due) : Turns reporter timed (.noClient now) .flushed
  | enters {now : Nat} (h : timed.worker = .calling)
      (hheld : (timed.system.step reporter (.enter now)).phase.held = true) :
      Turns reporter timed (.enter now) .flushing
  | refused {now : Nat} (h : timed.worker = .calling)
      (hidle : (timed.system.step reporter (.enter now)).phase.held = false) :
      Turns reporter timed (.enter now) .flushed
  | continues {step : Step} (h : timed.worker = .flushing)
      (hflushed : ∀ now, step ≠ .workerFlushed now) (henter : ∀ now, step ≠ .enter now)
      (hheld : (timed.system.step reporter step).phase.held = true) :
      Turns reporter timed step .flushing
  | returns {step : Step} (h : timed.worker = .flushing)
      (hflushed : ∀ now, step ≠ .workerFlushed now)
      (hidle : (timed.system.step reporter step).phase.held = false) :
      Turns reporter timed step .flushed
  | abandons (h : timed.worker = .flushing) : Turns reporter timed .abandon .stopped
  | records {now : Nat} (h : timed.worker = .flushed) :
      Turns reporter timed (.workerFlushed now) .looking

/-- The worker makes no other turns. -/
theorem turns_of_workerStep {reporter : Reporter} {timed : Timed} {step : Step}
    {worker : Worker} (h : timed.workerStep reporter step = some worker) :
    Turns reporter timed step worker := by
  unfold Timed.workerStep at h
  dsimp only at h
  split at h
  · rename_i now hworker
    split at h
    · rename_i hstarted
      split at h
      · cases h
        exact .stops hworker hstarted
      · cases h
        exact .waits hworker
      · rename_i hlook
        cases h
        exact .decides hworker hstarted hlook
    · cases h
  · rename_i now hworker
    cases h
    exact .skips hworker
  · rename_i now hworker
    split at h
    · rename_i hheld
      cases h
      exact .enters hworker hheld
    · rename_i hidle
      cases h
      exact .refused hworker (Bool.not_eq_true _ ▸ hidle)
  -- Selecting, hearing a response and failing to send go on with the flush, or end it.
  iterate 3
    · rename_i hworker
      split at h
      · rename_i hheld
        cases h
        exact .continues hworker (fun _ => Step.noConfusion) (fun _ => Step.noConfusion) hheld
      · rename_i hidle
        cases h
        exact .returns hworker (fun _ => Step.noConfusion) (Bool.not_eq_true _ ▸ hidle)
  · rename_i hworker
    cases h
    exact .abandons hworker
  · rename_i now hworker
    cases h
    exact .records hworker
  · cases h

/-! ## The spacing -/

/-- The worker is between its decision to flush and its note after the flush. -/
def busy : Worker → Bool
  | .looking => false
  | .stopped => false
  | _ => true

/-- The worker does not flush before a time: it waits for it, or it has passed it. -/
structure Spaced (bound : Nat) (timed : Timed) : Prop where
  started : timed.system.state.workerStarted = true
  waiting : timed.worker = .looking →
    bound ≤ timed.system.state.nextFlushAt ∧ bound ≤ timed.system.state.urgentNotBefore
  passed : busy timed.worker = true → bound ≤ timed.clock

/-- What the look leaves in the state is the step of the system. -/
theorem look_state (now : Nat) (state : State) : (look now state).2 = workerTurn now state := by
  unfold look workerTurn
  dsimp only
  split
  · rename_i hover
    rw [hover]
    rfl
  · rename_i hover
    rw [Bool.not_eq_true] at hover
    rw [hover, Bool.not_false, Bool.true_and]
    split
    · rfl
    · split <;> rfl

/-- A worker that decides to flush has passed one of its deadlines. An urgent flush waits for the
second one, a periodic flush for the first. -/
theorem le_of_look {bound now : Nat} {state : State} (h : (look now state).1 = .flushes)
    (hnext : bound ≤ state.nextFlushAt) (hurgent : bound ≤ state.urgentNotBefore) :
    bound ≤ now := by
  unfold look at h
  dsimp only at h
  split at h
  · cases h
  split at h
  · rename_i hpassed
    rw [Bool.and_eq_true, decide_eq_true_eq] at hpassed
    exact Nat.le_trans hurgent hpassed.2
  split at h
  · cases h
  · rename_i hpassed
    omega

/-- A step of any thread that is not the worker's note after a flush. -/
theorem Spaced.of_step {bound time : Nat} {reporter : Reporter} {timed : Timed} {step : Step}
    {worker : Worker} (h : Spaced bound timed) (hstep : ∀ now, step ≠ .workerFlushed now)
    (hwaiting : worker = .looking → timed.worker = .looking)
    (hpassed : busy worker = true → bound ≤ time) :
    Spaced bound { system := timed.system.step reporter step, worker, clock := time } := by
  have hsame := deadlines_step reporter h.started hstep
  have hnext := congrArg (fun deadlines => deadlines.1) hsame
  have hurgent := congrArg (fun deadlines => deadlines.2.1) hsame
  refine ⟨workerStarted_step reporter h.started hstep, fun hlooking => ?_, hpassed⟩
  obtain ⟨hbefore, hbefore'⟩ := h.waiting (hwaiting hlooking)
  exact ⟨Nat.le_trans hbefore (Nat.le_of_eq hnext.symm),
    Nat.le_trans hbefore' (Nat.le_of_eq hurgent.symm)⟩

/-- One action keeps the bound. -/
theorem Spaced.step {bound time : Nat} {reporter : Reporter} {timed next : Timed}
    {action : Action} (h : Spaced bound timed)
    (hstep : timed.step reporter time action = some next) : Spaced bound next := by
  have hlater : busy timed.worker = true → bound ≤ time :=
    fun hbusy => Nat.le_trans (h.passed hbusy) (clock_step hstep).1
  cases action with
  | call =>
      obtain ⟨⟨-, hdue⟩, rfl⟩ := step_call_eq_some.mp hstep
      exact ⟨h.started, Worker.noConfusion, fun _ => hlater (by rw [hdue]; rfl)⟩
  | post thread =>
      obtain ⟨-, -, rfl⟩ := step_post_eq_some.mp hstep
      exact ⟨h.started, h.waiting, hlater⟩
  | locked thread step =>
      obtain ⟨⟨-, hread, -⟩, worker, hafter, rfl⟩ := step_locked_eq_some.mp hstep
      cases thread with
      | other =>
          obtain ⟨hother, rfl⟩ := workerAfter_other hafter
          refine h.of_step ?_ id hlater
          rintro now rfl
          cases hother
      | worker =>
          cases turns_of_workerStep hafter with
          | decides hworker _ hlook =>
              obtain ⟨hnext, hurgent⟩ := h.waiting hworker
              have hnow := le_of_look hlook hnext hurgent
              have htime := of_decide_eq_true hread
              exact h.of_step (fun _ => Step.noConfusion) Worker.noConfusion
                (fun _ => Nat.le_trans hnow htime)
          | records hworker =>
              -- The flush began after the bound, and the new deadlines are later still.
              have hbound := hlater (by rw [hworker]; rfl)
              have htime := of_decide_eq_true hread
              refine ⟨h.started, fun _ => ?_, Bool.noConfusion⟩
              show bound ≤ _ + _ ∧ bound ≤ _ + _
              omega
          | stops hworker | waits hworker | skips hworker | enters hworker | refused hworker
          | abandons hworker =>
              refine h.of_step (fun _ => Step.noConfusion) (by rw [hworker]; decide)
                (fun hbusy => hlater ?_)
              rw [hworker]
              revert hbusy
              decide
          | continues hworker hflushed | returns hworker hflushed =>
              exact h.of_step hflushed Worker.noConfusion (fun _ => hlater (by rw [hworker]; rfl))

/-! ## Runs -/

/-- A run that goes through, by its first action. -/
theorem run_cons_eq_some {reporter : Reporter} {timed final : Timed} {time : Nat}
    {action : Action} {rest : List (Nat × Action)} :
    timed.run reporter ((time, action) :: rest) = some final ↔
      ∃ next, timed.step reporter time action = some next ∧ next.run reporter rest = some final :=
  Option.bind_eq_some_iff

/-- A run that goes through, in two parts. -/
theorem run_append_eq_some {reporter : Reporter} {timed final : Timed}
    {first second : List (Nat × Action)} :
    timed.run reporter (first ++ second) = some final ↔
      ∃ mid, timed.run reporter first = some mid ∧ mid.run reporter second = some final := by
  induction first generalizing timed with
  | nil =>
      constructor
      · intro h
        exact ⟨timed, rfl, h⟩
      · rintro ⟨mid, hfirst, hsecond⟩
        cases hfirst
        exact hsecond
  | cons entry rest ih =>
      obtain ⟨time, action⟩ := entry
      rw [List.cons_append, run_cons_eq_some]
      constructor
      · rintro ⟨next, hstep, hrest⟩
        obtain ⟨mid, hfirst, hsecond⟩ := ih.mp hrest
        exact ⟨mid, run_cons_eq_some.mpr ⟨next, hstep, hfirst⟩, hsecond⟩
      · rintro ⟨mid, hfirst, hsecond⟩
        obtain ⟨next, hstep, hrest⟩ := run_cons_eq_some.mp hfirst
        exact ⟨next, hstep, ih.mpr ⟨mid, hrest, hsecond⟩⟩

/-- A whole run keeps the bound, by induction on its actions. -/
theorem Spaced.run {bound : Nat} {reporter : Reporter} {timed final : Timed}
    {actions : List (Nat × Action)} (h : Spaced bound timed)
    (hrun : timed.run reporter actions = some final) : Spaced bound final := by
  induction actions generalizing timed with
  | nil =>
      cases hrun
      exact h
  | cons entry rest ih =>
      obtain ⟨next, hstep, hrest⟩ := run_cons_eq_some.mp hrun
      exact ih (h.step hstep) hrest

/-- A worker that has left the top of its loop is spawned. -/
def Spawned (timed : Timed) : Prop :=
  timed.worker ≠ .looking → timed.system.state.workerStarted = true

/-- One action leaves the worker spawned, whichever thread makes it. -/
theorem Spawned.step {time : Nat} {reporter : Reporter} {timed next : Timed} {action : Action}
    (h : Spawned timed) (hstep : timed.step reporter time action = some next) :
    Spawned next := by
  intro hnext
  by_cases hlooking : timed.worker = .looking
  · -- It leaves the top of the loop with this action.
    cases action with
    | call =>
        obtain ⟨⟨-, hdue⟩, -⟩ := step_call_eq_some.mp hstep
        rw [hlooking] at hdue
        cases hdue
    | post thread =>
        obtain ⟨-, -, rfl⟩ := step_post_eq_some.mp hstep
        exact absurd hlooking hnext
    | locked thread step =>
        obtain ⟨-, worker, hafter, rfl⟩ := step_locked_eq_some.mp hstep
        cases thread with
        | other =>
            obtain ⟨-, rfl⟩ := workerAfter_other hafter
            exact absurd hlooking hnext
        | worker =>
            cases turns_of_workerStep hafter with
            | stops _ hstarted | decides _ hstarted _ =>
                exact workerStarted_step reporter hstarted fun _ => Step.noConfusion
            | waits _ => exact absurd rfl hnext
            | records _ => exact absurd rfl hnext
            | skips h | enters h | refused h | continues h | returns h | abandons h =>
                rw [hlooking] at h
                cases h
  · -- The worker was out before, so it was spawned. `Spaced` at 0 asks for nothing else.
    have hspaced : Spaced 0 timed :=
      ⟨h hlooking, fun _ => ⟨Nat.zero_le _, Nat.zero_le _⟩, fun _ => Nat.zero_le _⟩
    exact (hspaced.step hstep).started

/-- So does a whole run. -/
theorem Spawned.run {reporter : Reporter} {timed final : Timed}
    {actions : List (Nat × Action)} (h : Spawned timed)
    (hrun : timed.run reporter actions = some final) : Spawned final := by
  induction actions generalizing timed with
  | nil =>
      cases hrun
      exact h
  | cons entry rest ih =>
      obtain ⟨next, hstep, hrest⟩ := run_cons_eq_some.mp hrun
      exact ih (h.step hstep) hrest

/-- The worker's note after a flush. -/
def IsNote (action : Action) : Prop := ∃ now, action = .locked .worker (.workerFlushed now)

/-- The worker has called `flush_with` and has not made its note. -/
def inFlush : Worker → Bool
  | .looking => false
  | .due => false
  | _ => true

/-- Only the note ends that: a worker that is in a flush, or is to make its note, stays so in
every other action. -/
theorem inFlush_step {time : Nat} {reporter : Reporter} {timed next : Timed} {action : Action}
    (h : inFlush timed.worker = true) (hnote : ¬ IsNote action)
    (hstep : timed.step reporter time action = some next) : inFlush next.worker = true := by
  cases action with
  | call =>
      obtain ⟨-, rfl⟩ := step_call_eq_some.mp hstep
      rfl
  | post thread =>
      obtain ⟨-, -, rfl⟩ := step_post_eq_some.mp hstep
      exact h
  | locked thread step =>
      obtain ⟨-, worker, hafter, rfl⟩ := step_locked_eq_some.mp hstep
      cases thread with
      | other =>
          obtain ⟨-, rfl⟩ := workerAfter_other hafter
          exact h
      | worker =>
          cases turns_of_workerStep hafter with
          | records _ => exact absurd ⟨_, rfl⟩ hnote
          | waits hworker | decides hworker _ _ =>
              -- A worker in a flush is not at its look.
              rw [hworker] at h
              cases h
          | stops _ _ | skips _ | enters _ _ | refused _ _ | continues _ _ _ _
          | returns _ _ _ | abandons _ => rfl

/-- From a call of `flush_with` to the next decision there is a note, and a first one. -/
theorem exists_note {reporter : Reporter} {timed final : Timed} {actions : List (Nat × Action)}
    (h : inFlush timed.worker = true) (hrun : timed.run reporter actions = some final)
    (hdue : final.worker = .due) :
    ∃ during time now rest mid next,
      actions = during ++ (time, .locked .worker (.workerFlushed now)) :: rest ∧
      (∀ entry ∈ during, ¬ IsNote entry.2) ∧ timed.run reporter during = some mid ∧
      mid.step reporter time (.locked .worker (.workerFlushed now)) = some next ∧
      next.run reporter rest = some final := by
  induction actions generalizing timed with
  | nil =>
      cases hrun
      rw [hdue] at h
      cases h
  | cons entry rest ih =>
      obtain ⟨time, action⟩ := entry
      obtain ⟨next, hstep, hrest⟩ := run_cons_eq_some.mp hrun
      -- The first note ends the prefix. Until then the worker stays in its flush.
      by_cases hnote : IsNote action
      · obtain ⟨now, rfl⟩ := hnote
        exact ⟨[], time, now, rest, timed, next, rfl,
          fun _ hentry => absurd hentry List.not_mem_nil, rfl, hstep, hrest⟩
      · obtain ⟨during, time', now, rest', mid, next', hsplit, hduring, hmid, hstep', hrest'⟩ :=
          ih (inFlush_step h hnote hstep) hrest
        refine ⟨(time, action) :: during, time', now, rest', mid, next', ?_, ?_, ?_, hstep',
          hrest'⟩
        · rw [hsplit]
          rfl
        · intro entry hentry
          rcases List.mem_cons.mp hentry with rfl | hentry
          · exact hnote
          · exact hduring entry hentry
        · exact run_cons_eq_some.mpr ⟨next, hstep, hmid⟩

/-- The note puts the next flush an interval later, with the interval as it stands at the note. -/
theorem spaced_note {reporter : Reporter} {timed next : Timed} {time now : Nat}
    (h : Spawned timed)
    (hstep : timed.step reporter time (.locked .worker (.workerFlushed now)) = some next) :
    now = time ∧ Spaced (time + timed.system.state.flushInterval) next := by
  obtain ⟨⟨-, hread, -⟩, worker, hafter, rfl⟩ := step_locked_eq_some.mp hstep
  obtain rfl : now = time := of_decide_eq_true hread
  refine ⟨rfl, ?_⟩
  cases turns_of_workerStep hafter with
  | records hworker =>
      refine ⟨h (by rw [hworker]; decide), fun _ => ⟨Nat.le_refl _, Nat.le_refl _⟩,
        Bool.noConfusion⟩
  | continues _ hflushed => exact absurd rfl (hflushed now)
  | returns _ hflushed => exact absurd rfl (hflushed now)

/-! ## The gate -/

/-- The start of a flush. -/
def IsEnter (action : Action) : Prop := ∃ thread now, action = .locked thread (.enter now)

/-- A step that neither starts a flush nor selects for it ends the flush or leaves it alone. -/
theorem phase_step_cases {reporter : Reporter} {system : System} {step : Step}
    (henter : ∀ now, step ≠ .enter now) (hselect : ∀ fresh, step ≠ .select fresh) :
    (system.step reporter step).phase = .idle ∨
      (system.step reporter step).phase = system.phase := by
  cases step with
  | enter now => exact absurd rfl (henter now)
  | select fresh => exact absurd rfl (hselect fresh)
  | respond _ | sendFailed _ =>
      cases hphase : system.phase with
      | posted selected =>
          left
          simp only [System.step, hphase]
      | idle | entered _ =>
          right
          simp only [System.step, hphase]
  | abandon => exact .inl rfl
  | onRequest _ | close | workerTurn _ | workerFlushed _ | noClient _ | pruneNow _ =>
      exact .inr rfl

/-- Only the start of a flush takes the flush lock or reads the flush's clock. -/
theorem phase_step {reporter : Reporter} {system : System} {step : Step}
    (hstep : ∀ now, step ≠ .enter now) (hheld : (system.step reporter step).phase.held = true) :
    system.phase.held = true ∧
      ∀ read, (system.step reporter step).phase = .entered read → system.phase = .entered read := by
  by_cases hselect : ∃ fresh, step = .select fresh
  · obtain ⟨fresh, rfl⟩ := hselect
    cases hphase : system.phase with
    | idle =>
        simp only [System.step, hphase] at hheld
        cases hheld
    | entered now =>
        refine ⟨rfl, fun read hentered => ?_⟩
        simp only [System.step, hphase] at hentered
        split at hentered <;> cases hentered
    | posted selected =>
        refine ⟨rfl, fun read hentered => ?_⟩
        simp only [System.step, hphase] at hentered
        cases hentered
  · rcases phase_step_cases hstep (not_exists.mp hselect) with hidle | hsame
    · rw [hidle] at hheld
      cases hheld
    · rw [hsame] at hheld ⊢
      exact ⟨hheld, fun _ hentered => hentered⟩

/-- A flush can be entered only when no flush holds the lock. -/
theorem held_of_allows_enter {phase : Phase} {now : Nat}
    (h : phase.allows (.enter now) = true) : phase.held = false := by
  cases phase with
  | idle => rfl
  | entered _ | posted _ => cases h

/-- While the worker holds the lock, the other threads leave the flush alone: their steps of a
flush are only allowed to the holder. -/
theorem phase_step_other {reporter : Reporter} {timed : Timed} {step : Step}
    (hother : timed.otherStep step = true) (hflushing : timed.worker = .flushing)
    (hstep : ∀ now, step ≠ .enter now) :
    (timed.system.step reporter step).phase = timed.system.phase := by
  cases step with
  | onRequest _ | close | pruneNow _ => rfl
  | enter now => exact absurd rfl (hstep now)
  | select _ | respond _ | sendFailed _ | abandon =>
      exact absurd hflushing (of_decide_eq_true hother)
  | workerTurn _ | workerFlushed _ | noClient _ => cases hother

/-- A flush that takes the lock has passed the gate, as it stood then. -/
theorem gate_le_of_enter {reporter : Reporter} {system : System} {now : Nat}
    (hidle : system.phase.held = false)
    (hheld : (system.step reporter (.enter now)).phase.held = true) :
    system.state.gate ≤ now ∧ (system.step reporter (.enter now)).phase = .entered now := by
  have hphase : system.phase = .idle := by
    cases h : system.phase with
    | idle => rfl
    | entered _ | posted _ =>
        rw [h] at hidle
        cases hidle
  simp only [System.step, hphase] at hheld ⊢
  unfold enterFlush at hheld ⊢
  split at hheld
  · cases hheld
  rename_i hpassed
  rw [Bool.or_eq_true, not_or, decide_eq_true_eq, Nat.not_lt] at hpassed
  split at hheld
  · rename_i hkey
    rw [if_neg (by simp [hpassed]), if_pos hkey]
    exact ⟨hpassed.2, rfl⟩
  · cases hheld

/-- The thread whose flush holds the lock, if one does, by where the worker is. -/
def holder (worker : Worker) : Thread := if worker = .flushing then .worker else .other

/-- How the flush that holds the lock began, in the history of a state: its clock reading had
passed the gate, and no flush has begun since. -/
structure Began (reporter : Reporter) (start : Timed) (history : List (Nat × Action))
    (timed : Timed) (thread : Thread) (now : Nat) : Prop where
  entered : ∃ before time after started,
    history = before ++ (time, .locked thread (.enter now)) :: after ∧
    (∀ entry ∈ after, ¬ IsEnter entry.2) ∧ start.run reporter before = some started ∧
    started.system.state.gate ≤ now ∧ now ≤ time ∧ time ≤ timed.clock
  reading : ∀ read, timed.system.phase = .entered read → read = now

/-- The flush lock in the history of a state. -/
structure Guarded (reporter : Reporter) (start : Timed) (history : List (Nat × Action))
    (timed : Timed) : Prop where
  ran : start.run reporter history = some timed
  holds : timed.worker = .flushing → timed.system.phase.held = true
  began : timed.system.phase.held = true →
    ∃ now, Began reporter start history timed (holder timed.worker) now

/-- What is known of the flush that holds the lock stays known while it does. -/
theorem Began.later {reporter : Reporter} {start timed next : Timed}
    {history : List (Nat × Action)} {thread : Thread} {now time : Nat} {action : Action}
    (h : Began reporter start history timed thread now) (haction : ¬ IsEnter action)
    (hclock : timed.clock ≤ next.clock)
    (hreading : ∀ read, next.system.phase = .entered read → timed.system.phase = .entered read) :
    Began reporter start (history ++ [(time, action)]) next thread now := by
  obtain ⟨before, entered, after, started, hsplit, hafter, hstarted, hgate, hread, hentered⟩ :=
    h.entered
  refine ⟨⟨before, entered, after ++ [(time, action)], started, ?_, ?_, hstarted, hgate, hread,
    Nat.le_trans hentered hclock⟩, fun read hphase => h.reading read (hreading read hphase)⟩
  · rw [hsplit, List.append_assoc]
    rfl
  · intro entry hentry
    rcases List.mem_append.mp hentry with hentry | hentry
    · exact hafter entry hentry
    · rw [List.mem_singleton.mp hentry]
      exact haction

/-- A flush that takes the lock begins, at the time of the action, and its clock was read
before. -/
theorem Guarded.enter {reporter : Reporter} {start timed : Timed}
    {history : List (Nat × Action)} {thread : Thread} {now time : Nat} {worker : Worker}
    (h : Guarded reporter start history timed) (hread : now ≤ time)
    (hidle : timed.system.phase.held = false)
    (hheld : (timed.system.step reporter (.enter now)).phase.held = true) :
    Began reporter start (history ++ [(time, .locked thread (.enter now))])
      { system := timed.system.step reporter (.enter now), worker, clock := time } thread now := by
  obtain ⟨hgate, hphase⟩ := gate_le_of_enter hidle hheld
  refine ⟨⟨history, time, [], timed, rfl, fun _ hentry => absurd hentry List.not_mem_nil, h.ran,
    hgate, hread, Nat.le_refl _⟩, fun read hentered => ?_⟩
  rw [hphase] at hentered
  cases hentered
  rfl

/-- A step that does not begin a flush leaves the lock with its holder, so the flush in progress
is the one that began. -/
theorem Guarded.keeps {reporter : Reporter} {start timed : Timed}
    {history : List (Nat × Action)} {thread : Thread} {time : Nat} {step : Step}
    {worker : Worker} (h : Guarded reporter start history timed) (hclock : timed.clock ≤ time)
    (hstep : ∀ now, step ≠ .enter now)
    (hworker : worker = .flushing ↔ timed.worker = .flushing)
    (hheld : (timed.system.step reporter step).phase.held = true) :
    ∃ now, Began reporter start (history ++ [(time, .locked thread step)])
      { system := timed.system.step reporter step, worker, clock := time } (holder worker)
      now := by
  obtain ⟨hbefore, hreading⟩ := phase_step hstep hheld
  obtain ⟨now, hbegan⟩ := h.began hbefore
  have hholder : holder worker = holder timed.worker := by simp only [holder, hworker]
  rw [hholder]
  refine ⟨now, hbegan.later ?_ hclock hreading⟩
  rintro ⟨_, read, haction⟩
  cases haction
  exact hstep read rfl

/-- One action. It begins a flush, or leaves the one that holds the lock. -/
theorem Guarded.step {reporter : Reporter} {start timed next : Timed}
    {history : List (Nat × Action)} {time : Nat} {action : Action}
    (h : Guarded reporter start history timed)
    (hstep : timed.step reporter time action = some next) :
    Guarded reporter start (history ++ [(time, action)]) next := by
  have hran : start.run reporter (history ++ [(time, action)]) = some next :=
    run_append_eq_some.mpr ⟨timed, h.ran, run_cons_eq_some.mpr ⟨next, hstep, rfl⟩⟩
  have hclock := (clock_step hstep).1
  cases action with
  | call =>
      obtain ⟨⟨-, hdue⟩, rfl⟩ := step_call_eq_some.mp hstep
      refine ⟨hran, Worker.noConfusion, fun hheld => ?_⟩
      obtain ⟨now, hbegan⟩ := h.began hheld
      rw [show holder timed.worker = .other from if_neg (by rw [hdue]; decide)] at hbegan
      refine ⟨now, hbegan.later ?_ hclock fun _ hentered => hentered⟩
      rintro ⟨thread, read, haction⟩
      cases haction
  | post thread =>
      obtain ⟨-, -, rfl⟩ := step_post_eq_some.mp hstep
      refine ⟨hran, h.holds, fun hheld => ?_⟩
      obtain ⟨now, hbegan⟩ := h.began hheld
      refine ⟨now, hbegan.later ?_ hclock fun _ hentered => hentered⟩
      rintro ⟨_, read, haction⟩
      cases haction
  | locked thread step =>
      obtain ⟨⟨-, hread, hallows⟩, worker, hafter, rfl⟩ := step_locked_eq_some.mp hstep
      cases thread with
      | other =>
          obtain ⟨hother, rfl⟩ := workerAfter_other hafter
          by_cases henter : ∃ now, step = .enter now
          · obtain ⟨now, rfl⟩ := henter
            have hidle : timed.system.phase.held = false :=
              held_of_allows_enter hallows
            -- The worker does not hold the lock, since no flush does.
            have hworker : timed.worker ≠ .flushing := fun hflushing => by
              rw [h.holds hflushing] at hidle
              cases hidle
            refine ⟨hran, fun hflushing => absurd hflushing hworker, fun hheld => ⟨now, ?_⟩⟩
            rw [show holder timed.worker = .other from if_neg hworker]
            exact h.enter (of_decide_eq_true hread) hidle hheld
          · refine ⟨hran, fun hflushing => ?_, h.keeps hclock (not_exists.mp henter) Iff.rfl⟩
            show (timed.system.step reporter step).phase.held = true
            rw [phase_step_other hother hflushing (not_exists.mp henter)]
            exact h.holds hflushing
      | worker =>
          cases turns_of_workerStep hafter with
          | enters hworker hheld =>
              have hidle : timed.system.phase.held = false :=
                held_of_allows_enter hallows
              exact ⟨hran, fun _ => hheld,
                fun _ => ⟨_, h.enter (of_decide_eq_true hread) hidle hheld⟩⟩
          | refused _ hidle | returns _ _ hidle =>
              refine ⟨hran, Worker.noConfusion, fun hheld => ?_⟩
              rw [hidle] at hheld
              cases hheld
          | abandons _ => exact ⟨hran, Worker.noConfusion, Bool.noConfusion⟩
          | continues hworker _ henter hheld =>
              exact ⟨hran, fun _ => hheld, h.keeps hclock henter (by rw [hworker])⟩
          | stops hworker | waits hworker | decides hworker | skips hworker | records hworker =>
              exact ⟨hran, Worker.noConfusion, h.keeps hclock (fun _ => Step.noConfusion)
                (by simp [hworker])⟩

/-- A whole run, by induction on its actions. -/
theorem Guarded.run {reporter : Reporter} {start timed final : Timed}
    {history actions : List (Nat × Action)} (h : Guarded reporter start history timed)
    (hrun : timed.run reporter actions = some final) :
    Guarded reporter start (history ++ actions) final := by
  induction actions generalizing timed history with
  | nil =>
      cases hrun
      rw [List.append_nil]
      exact h
  | cons entry rest ih =>
      obtain ⟨next, hstep, hrest⟩ := run_cons_eq_some.mp hrun
      have hfinal := ih (h.step hstep) hrest
      rwa [List.append_assoc] at hfinal

/-- A thread that acts for a flush holds the lock. -/
theorem holder_of_holds {timed : Timed} {thread : Thread} (h : timed.holds thread = true) :
    holder timed.worker = thread := by
  cases thread with
  | worker => exact if_pos (of_decide_eq_true h)
  | other => exact if_neg (of_decide_eq_true h)

/-- Who selects or posts holds the lock, and there is a flush that holds it. -/
theorem holds_of_step {reporter : Reporter} {timed next : Timed} {time : Nat} {thread : Thread}
    {action : Action}
    (haction : action = .post thread ∨ ∃ fresh, action = .locked thread (.select fresh))
    (hstep : timed.step reporter time action = some next) :
    timed.holds thread = true ∧ timed.system.phase.held = true := by
  rcases haction with rfl | ⟨fresh, rfl⟩
  · obtain ⟨⟨selected, hphase⟩, ⟨-, hholds⟩, -⟩ := step_post_eq_some.mp hstep
    rw [hphase]
    exact ⟨hholds, rfl⟩
  · obtain ⟨⟨-, -, hallows⟩, worker, hafter, -⟩ := step_locked_eq_some.mp hstep
    constructor
    · cases thread with
      | other => exact (workerAfter_other hafter).1
      | worker =>
          cases turns_of_workerStep hafter with
          | continues hworker | returns hworker => exact decide_eq_true hworker
    · cases hphase : timed.system.phase with
      | idle =>
          rw [hphase] at hallows
          cases hallows
      | entered _ | posted _ => rfl

/-- A flush of the worker comes no earlier than the interval after its note on the flush
before, and nothing is selected or posted, by any thread, before the gate as it stood when that
flush took the lock. The times are those of the actions. A flush reads its clock as it takes
the lock, and `select_batch` gets that reading. -/
theorem beacon_spacing (reporter : Reporter) (rate : Option Rat) (interval : Nat)
    (instanceId : String) :
    (∀ before called between again final,
      (Timed.new rate interval instanceId).run reporter
        (before ++ (called, .call) :: (between ++ [(again, .call)])) = some final →
      ∃ during time rest noted,
        between = during ++ (time, .locked .worker (.workerFlushed time)) :: rest ∧
        (∀ entry ∈ during, ¬ IsNote entry.2) ∧
        (Timed.new rate interval instanceId).run reporter
          (before ++ (called, .call) :: during) = some noted ∧
        time + noted.system.state.flushInterval ≤ again) ∧
    ∀ before time thread action final,
      action = .post thread ∨ (∃ fresh, action = .locked thread (.select fresh)) →
      (Timed.new rate interval instanceId).run reporter (before ++ [(time, action)]) =
        some final →
      ∃ earlier entered now between started,
        before = earlier ++ (entered, .locked thread (.enter now)) :: between ∧
        (∀ entry ∈ between, ¬ IsEnter entry.2) ∧
        (Timed.new rate interval instanceId).run reporter earlier = some started ∧
        started.system.state.gate ≤ now ∧ now ≤ entered ∧ entered ≤ time ∧
        ∀ current read,
          (Timed.new rate interval instanceId).run reporter before = some current →
          current.system.phase = .entered read → read = now := by
  constructor
  · intro before called between again final hrun
    obtain ⟨first, hbefore, hfirst⟩ := run_append_eq_some.mp hrun
    obtain ⟨flushing, hcall, hflushing⟩ := run_cons_eq_some.mp hfirst
    obtain ⟨second, hbetween, hsecond⟩ := run_append_eq_some.mp hflushing
    obtain ⟨last, hagain, -⟩ := run_cons_eq_some.mp hsecond
    obtain ⟨⟨hclock, hdue⟩, -⟩ := step_call_eq_some.mp hagain
    have hcalling : inFlush flushing.worker = true := by
      obtain ⟨-, rfl⟩ := step_call_eq_some.mp hcall
      rfl
    -- Between the two calls the flush was noted, and the worker is due only an interval later.
    obtain ⟨during, time, now, rest, noted, next, hsplit, hduring, hnoted, hnote, hrest⟩ :=
      exists_note hcalling hbetween hdue
    have hnotedRun := run_append_eq_some.mpr
      ⟨first, hbefore, run_cons_eq_some.mpr ⟨flushing, hcall, hnoted⟩⟩
    have hspawned : Spawned noted :=
      Spawned.run (fun hlooking => absurd rfl hlooking) hnotedRun
    obtain ⟨rfl, hspaced⟩ := spaced_note hspawned hnote
    refine ⟨during, now, rest, noted, hsplit, hduring, hnotedRun, ?_⟩
    exact Nat.le_trans ((hspaced.run hrest).passed (by rw [hdue]; rfl)) hclock
  · intro before time thread action final haction hrun
    obtain ⟨current, hbefore, hlast⟩ := run_append_eq_some.mp hrun
    obtain ⟨next, hstep, -⟩ := run_cons_eq_some.mp hlast
    -- The thread that selects or posts holds the lock, and took it when it entered.
    obtain ⟨hholds, hheld⟩ := holds_of_step haction hstep
    have hstart : Guarded reporter (.new rate interval instanceId) []
        (.new rate interval instanceId) := ⟨rfl, Worker.noConfusion, Bool.noConfusion⟩
    obtain ⟨now, hbegan⟩ := (hstart.run hbefore).began hheld
    rw [holder_of_holds hholds] at hbegan
    obtain ⟨earlier, entered, between, started, hsplit, hbetween, hstarted, hgate, hread,
      hentered⟩ := hbegan.entered
    refine ⟨earlier, entered, now, between, started, hsplit, hbetween, hstarted, hgate, hread,
      Nat.le_trans hentered (clock_step hstep).1, ?_⟩
    intro other read hother
    cases hbefore.symm.trans hother
    exact hbegan.reading read

/-- A call and the worker's first decision to flush, at the end of the first interval. -/
def firstTurn : List (Nat × Action) :=
  [(0, .locked .other (.onRequest (sampleCall 0))),
    (Duration.fromSecs 30, .locked .worker (.workerTurn (Duration.fromSecs 30)))]

/-- The worker takes the flush lock and a batch. -/
def flushTaken : List (Nat × Action) :=
  [(Duration.fromSecs 30, .locked .worker (.enter (Duration.fromSecs 30))),
    (Duration.fromSecs 30, .locked .worker (.select ⟨"b-1", 0⟩))]

/-- The batch is answered 202, and at the end of the next interval the worker decides to flush
again. -/
def flushAnswered : List (Nat × Action) :=
  [(Duration.fromSecs 32, .locked .worker (.respond (accepted (Duration.fromSecs 32)))),
    (Duration.fromSecs 32, .locked .worker (.workerFlushed (Duration.fromSecs 32))),
    (Duration.fromSecs 62, .locked .worker (.workerTurn (Duration.fromSecs 62)))]

/-- Two flushes of the worker, and the batch of the first on the wire. -/
theorem beacon_spacing_sample :
    (∃ during time rest noted,
      flushTaken ++ (Duration.fromSecs 31, .post .worker) :: flushAnswered =
        during ++ (time, .locked .worker (.workerFlushed time)) :: rest ∧
      (∀ entry ∈ during, ¬ IsNote entry.2) ∧
      (Timed.new none 0 "i-1").run flushReporter
        (firstTurn ++ (Duration.fromSecs 30, .call) :: during) = some noted ∧
      time + noted.system.state.flushInterval ≤ Duration.fromSecs 62) ∧
    ∃ earlier entered now between started,
      firstTurn ++ (Duration.fromSecs 30, .call) :: flushTaken =
        earlier ++ (entered, .locked .worker (.enter now)) :: between ∧
      (∀ entry ∈ between, ¬ IsEnter entry.2) ∧
      (Timed.new none 0 "i-1").run flushReporter earlier = some started ∧
      started.system.state.gate ≤ now ∧ now ≤ entered ∧ entered ≤ Duration.fromSecs 31 ∧
      ∀ current read,
        (Timed.new none 0 "i-1").run flushReporter
          (firstTurn ++ (Duration.fromSecs 30, .call) :: flushTaken) = some current →
        current.system.phase = .entered read → read = now := by
  obtain ⟨final, hrun⟩ := Option.isSome_iff_exists.mp (show ((Timed.new none 0 "i-1").run
    flushReporter (firstTurn ++ (Duration.fromSecs 30, .call) ::
      ((flushTaken ++ (Duration.fromSecs 31, .post .worker) :: flushAnswered) ++
        [(Duration.fromSecs 62, .call)]))).isSome = true by decide +kernel)
  obtain ⟨posted, hposted⟩ := Option.isSome_iff_exists.mp (show ((Timed.new none 0 "i-1").run
    flushReporter ((firstTurn ++ (Duration.fromSecs 30, .call) :: flushTaken) ++
      [(Duration.fromSecs 31, .post .worker)])).isSome = true by decide +kernel)
  exact ⟨(beacon_spacing flushReporter none 0 "i-1").1 _ _ _ _ final hrun,
    (beacon_spacing flushReporter none 0 "i-1").2 _ _ _ _ posted (.inl rfl) hposted⟩

end TrustedRouter.Proofs.Telemetry
