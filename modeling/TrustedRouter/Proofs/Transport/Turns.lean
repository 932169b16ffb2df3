import TrustedRouter.Proofs.Transport.Engine
import TrustedRouter.Transport.Recorded

/-!
# `TrustedRouter.Proofs.Transport.Turns`: one turn of a call that can be dropped

A turn of the loop awaits up to three times: it sends the request, it reads the body of a
failure, and it sleeps before the next attempt. `Turned` has one case for each way out of a turn,
with what was the case there. `stepUntil_turned` says that these are all the ways, and the
proofs about recorded calls go through its cases.
-/

set_option autoImplicit false

namespace TrustedRouter.Proofs.Transport

open TrustedRouter.Transport
open Whatwg (Url)

/-! ## The ways out of a turn -/

section
variable (env : Environment) (call : Call)

/-- The recorder once an attempt has begun. -/
abbrev begunOf (state : LoopState) (url : Url) : Recorder :=
  state.recorder.call (.beginAttempt url)

/-- What `send_once` leaves in a turn. -/
abbrev sentOf (state : LoopState) (url : Url) : Sent :=
  sendOnce env call state.attempt url (begunOf state url)

/-- The record of a turn after which the cursor is at `after`. -/
def turnAt (state : LoopState) (url : Url) (after : Nat) : Turn where
  candidate := state.cursor.index
  url := url
  request := (sentOf env call state url).request
  after := after

/-- The future was dropped neither while it sent nor while it read the body of a failure. -/
structure Undropped (drop : Option Await) (state : LoopState) (url : Url) : Prop where
  send : ¬(drop = some .send ∧ (sentOf env call state url).request.isSome = true)
  drain : ∀ response, drop = some .drain → (sentOf env call state url).result = .ok response →
    response.isSuccess = true

/-- How a turn can go. -/
inductive Turned (drop : Option Await) (state : LoopState) (url : Url) :
    Turn × (Ending ⊕ LoopState) → Prop where
  /-- The future is dropped while the request is on its way. -/
  | sending (hdrop : drop = some .send)
      (hrequest : (sentOf env call state url).request.isSome = true) :
      Turned drop state url
        (turnAt env call state url state.cursor.index, .inl (.dropped (begunOf state url)))
  /-- It is dropped while the body of a failure is read. -/
  | draining {response : Response} (hdrop : drop = some .drain)
      (hresult : (sentOf env call state url).result = .ok response)
      (hfailure : response.isSuccess = false) :
      Turned drop state url
        (turnAt env call state url state.cursor.index, .inl (.dropped
          ((sentOf env call state url).recorder.call
            (.onResponse response.status response.headers))))
  /-- The call returns. -/
  | returned {result : Except Error Response} {recorder : Recorder}
      (hover : Undropped env call drop state url)
      (hstep : (step env call state url).2 = .returns result recorder) :
      Turned drop state url
        (turnAt env call state url state.cursor.index, .inl (.returned result recorder))
  /-- The future is dropped in the backoff. -/
  | slept {delay : Nat} {next : LoopState} (hover : Undropped env call drop state url)
      (hstep : (step env call state url).2 = .sleeps delay next) (hdrop : drop = some .sleep) :
      Turned drop state url
        (turnAt env call state url next.cursor.index, .inl (.dropped next.recorder))
  /-- There is another attempt. -/
  | went {delay : Nat} {next : LoopState} (hover : Undropped env call drop state url)
      (hstep : (step env call state url).2 = .sleeps delay next) (hdrop : drop ≠ some .sleep) :
      Turned drop state url (turnAt env call state url next.cursor.index, .inr next)

/-- A turn goes in one of these ways, by where it was dropped and by what it did. -/
theorem stepUntil_turned (drop : Option Await) (state : LoopState) (url : Url) :
    Turned env call drop state url (stepUntil env call drop state url) := by
  by_cases hsend : drop = some .send ∧ (sentOf env call state url).request.isSome = true
  · have hdropped : stepUntil env call drop state url =
        (turnAt env call state url state.cursor.index, .inl (.dropped (begunOf state url))) :=
      if_pos hsend
    rw [hdropped]
    exact .sending hsend.1 hsend.2
  -- The rest of the turn is the loop's own, with the backoff as the last await.
  have hsleeps : ∀ {delay next}, Undropped env call drop state url →
      (step env call state url).2 = .sleeps delay next → Turned env call drop state url
        (turnAt env call state url next.cursor.index,
          if drop = some .sleep then .inl (.dropped next.recorder) else .inr next) := by
    intro delay next hover hstep
    by_cases hdrop : drop = some .sleep
    · rw [if_pos hdrop]
      exact .slept hover hstep hdrop
    · rw [if_neg hdrop]
      exact .went hover hstep hdrop
  unfold stepUntil
  dsimp only
  rw [if_neg hsend]
  split
  · rename_i response hresult
    split
    · -- The body of a success is left to the entry point.
      rename_i hsuccess
      have hover : Undropped env call (some .drain) state url := by
        refine ⟨hsend, fun other _ hother => ?_⟩
        cases hresult.symm.trans hother
        exact hsuccess
      cases hstep : (step env call state url).2 with
      | returns result recorder => exact .returned hover hstep
      | sleeps delay next => exact hsleeps hover hstep
    · rename_i hfailure
      exact .draining rfl hresult (Bool.eq_false_iff.mpr hfailure)
  · rename_i hother
    have hover := Undropped.mk hsend fun response hdrop hresult =>
      (hother response hdrop hresult).elim
    cases hstep : (step env call state url).2 with
    | returns result recorder => exact .returned hover hstep
    | sleeps delay next => exact hsleeps hover hstep

/-- The request of a turn is what `send_once` sent, wherever the turn was dropped after it. -/
theorem request_stepUntil (drop : Option Await) (state : LoopState) (url : Url) :
    (stepUntil env call drop state url).1.request = (sentOf env call state url).request := by
  have hturned := stepUntil_turned env call drop state url
  generalize stepUntil env call drop state url = turned at hturned ⊢
  cases hturned <;> rfl

end

section
variable {env : Environment} {call : Call}

/-- A turn that goes on is one of the loop: it was dropped at none of its awaits. -/
theorem step_of_goes {drop : Option Await} {state next : LoopState} {url : Url}
    (h : (stepUntil env call drop state url).2 = .inr next) :
    ∃ attempt delay, step env call state url = (attempt, .sleeps delay next) := by
  have hturned := stepUntil_turned env call drop state url
  generalize stepUntil env call drop state url = turned at hturned h
  cases hturned with
  | went _ hstep _ =>
      cases h
      exact ⟨_, _, Prod.ext rfl hstep⟩
  | sending _ _ => cases h
  | draining _ _ _ => cases h
  | returned _ _ => cases h
  | slept _ _ _ => cases h

/-- A turn that returns is one of the loop, with the same result and the same recorder. -/
theorem step_of_returned {drop : Option Await} {state : LoopState} {url : Url}
    {result : Except Error Response} {recorder : Recorder}
    (h : (stepUntil env call drop state url).2 = .inl (.returned result recorder)) :
    (step env call state url).2 = .returns result recorder := by
  have hturned := stepUntil_turned env call drop state url
  generalize stepUntil env call drop state url = turned at hturned h
  cases hturned with
  | returned _ hstep =>
      cases h
      exact hstep
  | sending _ _ => cases h
  | draining _ _ _ => cases h
  | slept _ _ _ => cases h
  | went _ _ _ => cases h

/-- A turn that goes on stays within the bounds of the loop. -/
theorem Within.next {candidates : List Url} {fuel : Nat} {state next : LoopState} {url : Url}
    {drop : Option Await} (h : Within call candidates (fuel + 1) state)
    (hstep : (stepUntil env call drop state url).2 = .inr next) :
    Within call candidates fuel next := by
  obtain ⟨attempt, delay, hloop⟩ := step_of_goes hstep
  exact h.step hloop

end

end TrustedRouter.Proofs.Transport
