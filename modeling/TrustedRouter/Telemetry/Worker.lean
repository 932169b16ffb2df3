import TrustedRouter.Telemetry.Flush

/-!
# `TrustedRouter.Telemetry.Worker`: the worker loop, in time

`Inner::worker` beside the other threads. A `System` says what one thread does while it holds
the mutex, whichever thread that is. A `Timed` system adds where the worker is in its loop and
the clock, so that a run is a list of actions with the times they happen at. An action that
the loop, the flush lock or the clock does not allow has no next state.

The worker and `flush_with` read the clock before they take the mutex, so a reading can be
older than the action. The reading after a flush is made under the mutex.
-/

set_option autoImplicit false

namespace TrustedRouter.Telemetry

/-! ## The loop -/

/-- What the worker does after it looked at the state. -/
inductive Turn where
  /-- The task returns. -/
  | stops
  /-- It sleeps for that long, unless it is woken. -/
  | waits (wait : Nat)
  /-- It flushes. -/
  | flushes

/-- The part of `Inner::worker` that looks at the state. -/
def look (now : Nat) (state : State) : Turn × State :=
  if state.closed || state.disabled then (.stops, state)
  else
    let gate := state.gate
    let deadline := max state.nextFlushAt gate
    if state.urgentFlush && gate ≤ now && state.urgentNotBefore ≤ now then
      (.flushes, { state with urgentFlush := false })
    else if now < deadline then (.waits (deadline - now), state)
    else (.flushes, state)

/-- Where the worker is. -/
inductive Worker where
  /-- At the top of the loop, or not spawned yet. -/
  | looking
  /-- It has decided to flush. -/
  | due
  /-- In `flush_with`, before it has the flush lock. -/
  | calling
  /-- In `flush_with`, with the flush lock. -/
  | flushing
  /-- Back from `flush_with`. -/
  | flushed
  /-- The task is over. -/
  | stopped
deriving DecidableEq

/-- Who acts: the worker, or any other thread. -/
inductive Thread where
  | worker
  | other
deriving DecidableEq

/-- What happens at one time. -/
inductive Action where
  /-- The worker calls `flush_with`. -/
  | call
  /-- A flush hands its batch to the HTTP client. -/
  | post (thread : Thread)
  /-- What a thread does under the mutex. -/
  | locked (thread : Thread) (step : Step)

/-! ## The steps -/

/-- A flush holds the flush lock. -/
def Phase.held : Phase → Bool
  | .idle => false
  | _ => true

/-- The phase of the flush lets a step happen. -/
def Phase.allows : Phase → Step → Bool
  | phase, .enter _ => !phase.held
  | .entered _, .select _ => true
  | _, .select _ => false
  | .posted _, .respond _ => true
  | _, .respond _ => false
  | .posted _, .sendFailed _ => true
  | _, .sendFailed _ => false
  | phase, .abandon => phase.held
  | _, _ => true

/-- The clock readings of a step fit the time it takes the mutex at. -/
def Step.readBy (time : Nat) : Step → Bool
  | .enter now => now ≤ time
  | .workerTurn now => now ≤ time
  | .workerFlushed now => now = time
  | _ => true

/-- The reporter, its worker and the clock. -/
structure Timed where
  system : System
  worker : Worker
  clock : Nat

/-- The thread may act for the flush that holds the lock. -/
def Timed.holds (timed : Timed) : Thread → Bool
  | .worker => timed.worker = .flushing
  | .other => timed.worker ≠ .flushing

/-- Where the worker is after a step of its own. In a flush that is where the flush is. -/
def Timed.workerStep (reporter : Reporter) (timed : Timed) (step : Step) : Option Worker :=
  let within :=
    if (timed.system.step reporter step).phase.held then Worker.flushing else .flushed
  match timed.worker, step with
  | .looking, .workerTurn now =>
      if timed.system.state.workerStarted then
        match (look now timed.system.state).1 with
        | .stops => some .stopped
        | .waits _ => some .looking
        | .flushes => some .due
      else none
  | .due, .noClient _ => some .flushed
  | .calling, .enter _ => some within
  | .flushing, .select _ => some within
  | .flushing, .respond _ => some within
  | .flushing, .sendFailed _ => some within
  | .flushing, .abandon => some .stopped
  | .flushed, .workerFlushed _ => some .looking
  | _, _ => none

/-- What the other threads do: record, close, and flush once closed. -/
def Timed.otherStep (timed : Timed) : Step → Bool
  | .onRequest _ => true
  | .close => true
  | .pruneNow _ => true
  | .enter _ => true
  | .select _ => timed.holds .other
  | .respond _ => timed.holds .other
  | .sendFailed _ => timed.holds .other
  | .abandon => timed.holds .other
  | _ => false

/-- Where the worker is after a step of a thread. -/
def Timed.workerAfter (reporter : Reporter) (timed : Timed) (step : Step) :
    Thread → Option Worker
  | .worker => timed.workerStep reporter step
  | .other => if timed.otherStep step then some timed.worker else none

/-- One action, if it can happen at that time. -/
def Timed.step (reporter : Reporter) (timed : Timed) (time : Nat) : Action → Option Timed
  | .call =>
      if timed.clock ≤ time ∧ timed.worker = .due then
        some { timed with worker := .calling, clock := time }
      else none
  | .post thread =>
      match timed.system.phase with
      | .posted _ =>
          if timed.clock ≤ time ∧ timed.holds thread then some { timed with clock := time }
          else none
      | _ => none
  | .locked thread step =>
      if timed.clock ≤ time ∧ step.readBy time ∧ timed.system.phase.allows step then
        (timed.workerAfter reporter step thread).map fun worker =>
          { system := timed.system.step reporter step, worker, clock := time }
      else none

/-- A run of actions, if all of them can happen. -/
def Timed.run (reporter : Reporter) : Timed → List (Nat × Action) → Option Timed
  | timed, [] => some timed
  | timed, (time, action) :: rest =>
      (timed.step reporter time action).bind fun next => next.run reporter rest

/-- The start, before the worker is spawned. -/
def Timed.new (successSampleRate : Option Rat) (flushInterval : Nat) (instanceId : String) :
    Timed where
  system := .new successSampleRate flushInterval instanceId
  worker := .looking
  clock := 0

end TrustedRouter.Telemetry
