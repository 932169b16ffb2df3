import Mathlib

/-!
# `TrustedRouter.Lib.Retry`: bounded retries over a list of places

A call is tried again after some of its outcomes, at most `budget` more times, each time after a
pause and at one of `room` places. `Plays` relates the outcomes of its attempts, in order, to the
call as a whole: where each attempt went, how long the pauses were, and what the call returned.
It holds of calls that have ended only, so that an outcome list is neither cut short nor continued
after the end.

The places are bookkeeping. `Plays.places_eq` is their closed form, and `Plays.elsewhere` says
that neither the pauses nor the result depend on how many there are. A call can be compared with
another one attempt by attempt (`Plays.outcomes_eq`): outcomes that agree as far as both go are
the same outcomes.
-/

set_option autoImplicit false

namespace Retry

variable {ρ : Type}

/-- What an attempt asks for: an end, or another attempt after a pause, elsewhere or in place.
The result of the latter stands if no attempt follows. -/
inductive Outcome (ρ : Type) where
  | final (result : ρ)
  | again (result : ρ) (elsewhere : Bool) (pause : Nat)

namespace Outcome

/-- What the call returns if the attempt is its last. -/
def result : Outcome ρ → ρ
  | final result => result
  | again result _ _ => result

/-- The next attempt goes elsewhere. -/
def elsewhere : Outcome ρ → Bool
  | final _ => false
  | again _ elsewhere _ => elsewhere

/-- The pause before the next attempt. -/
def pause : Outcome ρ → Nat
  | final _ => 0
  | again _ _ pause => pause

/-- No attempt can follow: none is asked for, or none is left. -/
def IsLast (outcome : Outcome ρ) (budget : Nat) : Prop :=
  budget = 0 ∨ ∃ result, outcome = .final result

/-- An attempt with budget left that asks for another is not the last. -/
theorem not_isLast_again {result : ρ} {elsewhere : Bool} {pause budget : Nat} :
    ¬ (again result elsewhere pause).IsLast (budget + 1) := by
  rintro (h | ⟨result', h⟩)
  · omega
  · cases h

end Outcome

/-- A call that has ended. -/
structure Schedule (ρ : Type) where
  places : List Nat
  pauses : List Nat
  result : ρ

/-- The place of the next attempt: one further when asked for, while there is one. -/
def move (room place : Nat) (elsewhere : Bool) : Nat :=
  if elsewhere && place + 1 < room then place + 1 else place

/-- One move goes one place on, or stays at the last one. -/
theorem move_eq_min {room place : Nat} (elsewhere : Bool) (hplace : place < room) :
    move room place elsewhere = min (place + elsewhere.toNat) (room - 1) := by
  unfold move
  cases elsewhere
  · simp only [Bool.false_and, Bool.false_eq_true, if_false, Bool.toNat_false]
    omega
  · simp only [Bool.true_and, decide_eq_true_eq, Bool.toNat_true]
    split <;> omega

/-- The call whose attempts have these outcomes, from a place and with a budget. -/
inductive Plays (room : Nat) : (budget place : Nat) → List (Outcome ρ) → Schedule ρ → Prop where
  | last {budget place : Nat} {outcome : Outcome ρ} (h : outcome.IsLast budget) :
      Plays room budget place [outcome]
        { places := [place], pauses := [], result := outcome.result }
  | again {budget place : Nat} {result : ρ} {elsewhere : Bool} {pause : Nat}
      {rest : List (Outcome ρ)} {after : Schedule ρ}
      (h : Plays room budget (move room place elsewhere) rest after) :
      Plays room (budget + 1) place (.again result elsewhere pause :: rest)
        { after with places := place :: after.places, pauses := pause :: after.pauses }

namespace Plays

variable {room budget place : Nat} {outcomes : List (Outcome ρ)} {call : Schedule ρ}

/-- An ended call has made an attempt, also without any budget for more. -/
theorem outcomes_ne_nil (h : Plays room budget place outcomes call) : outcomes ≠ [] := by
  cases h <;> exact List.cons_ne_nil _ _

/-- A pause stands between two attempts, and it is the one the first of them asked for. The last
attempt may have asked for one as well, and it is not made. -/
theorem pauses_eq (h : Plays room budget place outcomes call) :
    call.pauses = outcomes.dropLast.map Outcome.pause := by
  induction h with
  | last hlast => rfl
  | again hafter ih =>
      rw [List.dropLast_cons_of_ne_nil hafter.outcomes_ne_nil, List.map_cons, ih]
      rfl

/-- An attempt that another follows has asked for it. -/
theorem exists_again (h : Plays room budget place outcomes call) {i : Nat} {outcome : Outcome ρ}
    (houtcome : outcomes[i]? = some outcome) (hi : i + 1 < outcomes.length) :
    ∃ result elsewhere pause, outcome = .again result elsewhere pause ∧
      call.pauses[i]? = some pause := by
  induction h generalizing i with
  | last hlast =>
      rw [List.length_singleton] at hi
      omega
  | again hafter ih =>
      cases i with
      | zero =>
          cases houtcome
          exact ⟨_, _, _, rfl, rfl⟩
      | succ i => exact ih houtcome (by simpa using hi)

/-- Bounded pauses have a bounded sum. -/
theorem sum_pauses_le {bound : Nat} (h : Plays room budget place outcomes call)
    (hbound : ∀ outcome ∈ outcomes, outcome.pause ≤ bound) :
    call.pauses.sum ≤ budget * bound := by
  induction h with
  | last hlast => simp
  | @again budget place result elsewhere pause rest after hafter ih =>
      have hpause : pause ≤ bound := hbound _ List.mem_cons_self
      have hrest := ih fun outcome hmem => hbound outcome (List.mem_cons_of_mem _ hmem)
      show (pause :: after.pauses).sum ≤ (budget + 1) * bound
      rw [List.sum_cons, Nat.succ_mul]
      omega

/-- Every attempt is as far along the places as outcomes before it have asked, or at the end. -/
theorem places_eq (h : Plays room budget place outcomes call) (hplace : place < room) {i : Nat}
    (hi : i < outcomes.length) :
    call.places[i]? =
      some (min (place + (outcomes.take i).countP Outcome.elsewhere) (room - 1)) := by
  induction h generalizing i with
  | last hlast =>
      have hzero : i = 0 := by
        rw [List.length_singleton] at hi
        omega
      subst hzero
      simp only [List.getElem?_cons_zero, List.take_zero, List.countP_nil, Option.some.injEq]
      omega
  | @again budget place result elsewhere pause rest after hafter ih =>
      cases i with
      | zero =>
          simp only [List.getElem?_cons_zero, List.take_zero, List.countP_nil,
            Option.some.injEq]
          omega
      | succ i =>
          -- The first attempt moves the start of the others, and the minimum is taken again from
          -- there.
          have hmove := move_eq_min elsewhere hplace
          have hcount : (if (Outcome.again result elsewhere pause).elsewhere = true then 1
              else 0) = elsewhere.toNat := by
            cases elsewhere <;> rfl
          rw [List.getElem?_cons_succ, List.take_succ_cons, List.countP_cons, hcount,
            ih (by omega) (by simpa using hi), hmove, Option.some.injEq]
          omega

/-- How many places there are, and where the call starts, changes no pause and no result. -/
theorem elsewhere (h : Plays room budget place outcomes call) (room' place' : Nat) :
    ∃ places', Plays room' budget place' outcomes { call with places := places' } := by
  induction h generalizing place' with
  | last hlast => exact ⟨[place'], .last hlast⟩
  | @again budget place result elsewhere pause rest after hafter ih =>
      obtain ⟨places', hafter'⟩ := ih (move room' place' elsewhere)
      exact ⟨place' :: places', .again hafter'⟩

/-- The outcomes of a call determine it: its places, its pauses and its result. -/
theorem call_eq {call' : Schedule ρ} (h : Plays room budget place outcomes call)
    (h' : Plays room budget place outcomes call') : call = call' := by
  induction h generalizing call' with
  | last hlast =>
      cases h' with
      | last _ => rfl
      | again hafter => exact absurd rfl hafter.outcomes_ne_nil
  | again hafter ih =>
      cases h' with
      | last hlast => exact absurd rfl hafter.outcomes_ne_nil
      | again hafter' => rw [ih hafter']

/-- Two ended calls with one budget, whose outcomes agree as far as both go, have the same
outcomes: neither ends before the other. -/
theorem outcomes_eq {room' place' : Nat} {outcomes' : List (Outcome ρ)} {call' : Schedule ρ}
    (h : Plays room budget place outcomes call)
    (h' : Plays room' budget place' outcomes' call')
    (hagree : ∀ (i : Nat) (outcome outcome' : Outcome ρ), outcomes[i]? = some outcome →
      outcomes'[i]? = some outcome' → outcome = outcome') :
    outcomes = outcomes' := by
  induction h generalizing place' outcomes' call' with
  | last hlast =>
      cases h' with
      | last _ => rw [hagree 0 _ _ rfl rfl]
      | again _ =>
          obtain rfl := hagree 0 _ _ rfl rfl
          exact absurd hlast Outcome.not_isLast_again
  | again hafter ih =>
      cases h' with
      | last hlast =>
          obtain rfl := hagree 0 _ _ rfl rfl
          exact absurd hlast Outcome.not_isLast_again
      | again hafter' =>
          cases hagree 0 _ _ rfl rfl
          rw [ih hafter' fun i outcome outcome' ho ho' => hagree (i + 1) outcome outcome' ho ho']

/-- So they have the same pauses and the same result, wherever their attempts went. -/
theorem agree {room' place' : Nat} {outcomes' : List (Outcome ρ)} {call' : Schedule ρ}
    (h : Plays room budget place outcomes call)
    (h' : Plays room' budget place' outcomes' call')
    (hagree : ∀ (i : Nat) (outcome outcome' : Outcome ρ), outcomes[i]? = some outcome →
      outcomes'[i]? = some outcome' → outcome = outcome') :
    outcomes = outcomes' ∧ call.pauses = call'.pauses ∧ call.result = call'.result := by
  have houtcomes := h.outcomes_eq h' hagree
  subst houtcomes
  obtain ⟨places, hmoved⟩ := h.elsewhere room' place'
  have hcall := hmoved.call_eq h'
  rw [← hcall]
  exact ⟨rfl, rfl, rfl⟩

end Plays

end Retry
