import TrustedRouter.Telemetry.Reporter

/-!
# `TrustedRouter.Telemetry.Flush`: flushes and the calls between them

`flush_with` holds one lock across its awaits and takes the mutex of the state only in
between. So a `System` is the state together with how far the one flush in progress has
come, and a `Step` is whatever one thread does while it holds the mutex. A run is any list of
steps. A step that the phase of the flush does not allow leaves the system as it is.

The worker and the final flush of `close` run the same `flush_with`, so they share its
steps.
-/

set_option autoImplicit false

namespace TrustedRouter.Telemetry

open Rust.Str (isEmpty)

/-- How far the flush that holds the flush lock has come. -/
inductive Phase where
  /-- No flush holds the lock. -/
  | idle
  /-- The flush read its clock and passed the gate. -/
  | entered (now : Nat)
  /-- The batch is on the wire. -/
  | posted (selected : Selected)

/-- The state of the reporter and of its one flush. -/
structure System where
  state : State
  phase : Phase

/-- What one thread does while it holds the state's mutex. -/
inductive Step where
  /-- `on_request`. -/
  | onRequest (record : Record)
  /-- `flush_with` up to its first check of the state. -/
  | enter (now : Nat)
  /-- `flush_with` takes the next batch. -/
  | select (fresh : Fresh)
  /-- `flush_with` hands over the response. -/
  | respond (answer : Answer)
  /-- `flush_with` could not send. -/
  | sendFailed (now : Nat)
  /-- The future of `flush_with` is dropped. -/
  | abandon
  /-- `close`, up to its final flush. -/
  | close
  /-- The worker looks whether to flush. -/
  | workerTurn (now : Nat)
  /-- The worker has flushed. -/
  | workerFlushed (now : Nat)
  /-- The worker has no HTTP client. -/
  | noClient (now : Nat)
  /-- `prune_now`. -/
  | pruneNow (now : Nat)

/-- The worker's decision: it clears the urgent flag if it flushes for it. -/
def workerTurn (now : Nat) (state : State) : State :=
  if !(state.closed || state.disabled) && state.urgentFlush && state.gate ≤ now &&
      state.urgentNotBefore ≤ now then
    { state with urgentFlush := false }
  else state

/-- The worker's bookkeeping after a flush. -/
def workerFlushed (now : Nat) (state : State) : State :=
  { state with
    nextFlushAt := now + state.flushInterval
    urgentNotBefore := now + state.flushInterval }

/-- The first part of `flush_with`. -/
def enterFlush (reporter : Reporter) (now : Nat) (state : State) : Phase :=
  if state.disabled || now < state.gate then .idle
  else if reporter.apiKey.any fun key => !isEmpty key then .entered now
  else .idle

/-- One step of the system. -/
def System.step (reporter : Reporter) (system : System) : Step → System
  | .onRequest record => { system with state := onRequest reporter record system.state }
  | .enter now =>
      match system.phase with
      | .idle => { system with phase := enterFlush reporter now system.state }
      | _ => system
  | .select fresh =>
      match system.phase with
      | .entered now =>
          match selectBatch reporter fresh now system.state with
          | (some selected, state) => { state, phase := .posted selected }
          | (none, state) => { state, phase := .idle }
      | _ => system
  | .respond answer =>
      match system.phase with
      | .posted selected =>
          { state := handleResponse reporter.library answer selected system.state
            phase := .idle }
      | _ => system
  | .sendFailed now =>
      match system.phase with
      | .posted _ => { state := setBackoff now none system.state, phase := .idle }
      | _ => system
  | .abandon => { system with phase := .idle }
  | .close => { system with state := { system.state with closed := true } }
  | .workerTurn now => { system with state := workerTurn now system.state }
  | .workerFlushed now => { system with state := workerFlushed now system.state }
  | .noClient now => { system with state := setBackoff now none system.state }
  | .pruneNow now => { system with state := pruneWindows reporter now system.state }

/-- A run of the system. -/
def System.run (reporter : Reporter) (system : System) (steps : List Step) : System :=
  steps.foldl (System.step reporter) system

/-- The system that `TelemetryReporter::new` starts in. -/
def System.new (successSampleRate : Option Rat) (flushInterval : Nat) (instanceId : String) :
    System where
  state := .new successSampleRate flushInterval instanceId
  phase := .idle

end TrustedRouter.Telemetry
