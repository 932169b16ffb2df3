import Mathlib

/-!
# `TrustedRouter.Lib.Framing`: cutting a stream into frames

A `Rule` finds where the first frame of a stream ends. It may look at as much of the stream
as it likes, but an end that it has found must stand whatever follows. `frames` cuts a stream
at one end after the other, and `rest` is what no frame has taken yet.

`frames_append` says what more input does: the frames so far stay, and the cutting goes on in
what was left over. So frames can be taken off a stream as it arrives. `frames_flatten` is the
way back from frames to the stream.
-/

set_option autoImplicit false

namespace Framing

variable {α : Type}

/-- Where the first frame of a stream ends, if its end has arrived. -/
structure Rule (α : Type) where
  find : List α → Option Nat
  /-- A frame is not empty. -/
  pos : ∀ {s stop}, find s = some stop → 0 < stop
  /-- The end of a frame is in the stream. -/
  le_length : ∀ {s stop}, find s = some stop → stop ≤ s.length
  /-- An end that was found stands. -/
  stable : ∀ {s stop}, find s = some stop → ∀ t, find (s ++ t) = some stop

variable (rule : Rule α)

/-- A frame is not empty, so cutting terminates. -/
theorem Rule.length_drop_lt {s : List α} {stop : Nat} (h : rule.find s = some stop) :
    (s.drop stop).length < s.length := by
  have hpos := rule.pos h
  have hle := rule.le_length h
  rw [List.length_drop]
  omega

/-- The frames of a stream. -/
def frames (s : List α) : List (List α) :=
  match _h : rule.find s with
  | none => []
  | some stop =>
      s.take stop :: frames (s.drop stop)
  termination_by s.length
  decreasing_by exact rule.length_drop_lt _h

/-- What is left of a stream after its frames. -/
def rest (s : List α) : List α :=
  match _h : rule.find s with
  | none => s
  | some stop =>
      rest (s.drop stop)
  termination_by s.length
  decreasing_by exact rule.length_drop_lt _h

section
variable {rule}

/-- Without a complete frame there are no frames. -/
theorem frames_of_none {s : List α} (h : rule.find s = none) : frames rule s = [] := by
  rw [frames]
  split
  · rfl
  · rename_i hsome
    rw [h] at hsome
    cases hsome

/-- The first frame, and the frames of what follows it. -/
theorem frames_of_some {s : List α} {stop : Nat} (h : rule.find s = some stop) :
    frames rule s = s.take stop :: frames rule (s.drop stop) := by
  rw [frames]
  split
  · rename_i hnone
    rw [h] at hnone
    cases hnone
  · rename_i hsome
    rw [h] at hsome
    cases hsome
    rfl

/-- Without a complete frame everything is rest. -/
theorem rest_of_none {s : List α} (h : rule.find s = none) : rest rule s = s := by
  rw [rest]
  split
  · rfl
  · rename_i hsome
    rw [h] at hsome
    cases hsome

/-- The rest is what cutting on leaves. -/
theorem rest_of_some {s : List α} {stop : Nat} (h : rule.find s = some stop) :
    rest rule s = rest rule (s.drop stop) := by
  rw [rest]
  split
  · rename_i hnone
    rw [h] at hnone
    cases hnone
  · rename_i hsome
    rw [h] at hsome
    cases hsome
    rfl

end

/-- Induction along the frames of a stream: what holds where no frame is complete, and passes from
what follows a frame to the stream, holds of every stream. -/
theorem frames_induction {motive : List α → Prop}
    (stuck : ∀ s, rule.find s = none → motive s)
    (frame : ∀ s stop, rule.find s = some stop → motive (s.drop stop) → motive s)
    (s : List α) : motive s := by
  induction hlen : s.length using Nat.strongRecOn generalizing s with
  | ind n ih =>
      cases h : rule.find s with
      | none => exact stuck s h
      | some stop =>
          have hlt := rule.length_drop_lt h
          exact frame s stop h (ih _ (hlen ▸ hlt) (s.drop stop) rfl)

/-- The frames and the rest, put together, are the stream. -/
theorem flatten_frames_append_rest (s : List α) :
    (frames rule s).flatten ++ rest rule s = s := by
  induction s using frames_induction rule with
  | stuck s h => rw [frames_of_none h, rest_of_none h, List.flatten_nil, List.nil_append]
  | frame s stop h ih =>
      rw [frames_of_some h, rest_of_some h, List.flatten_cons, List.append_assoc, ih,
        List.take_append_drop]

/-- More input leaves the frames so far, and the cutting goes on in the rest. A reader that keeps
the rest as its buffer sees the same frames however the stream arrives. -/
theorem frames_append (s t : List α) :
    frames rule (s ++ t) = frames rule s ++ frames rule (rest rule s ++ t) := by
  induction s using frames_induction rule with
  | stuck s h => rw [frames_of_none h, rest_of_none h, List.nil_append]
  | frame s stop h ih =>
      have hle := rule.le_length h
      rw [frames_of_some h, frames_of_some (rule.stable h t), rest_of_some h,
        List.take_append_of_le_length hle, List.drop_append_of_le_length hle, ih,
        List.cons_append]

/-- Frames that each end where the rule says, put together, are cut apart again. The rule finds
the end of a frame without what follows it, and by `stable` more input does not move that end. -/
theorem frames_flatten {l : List (List α)} (h : ∀ s ∈ l, rule.find s = some s.length) :
    frames rule l.flatten = l ∧ rest rule l.flatten = [] := by
  induction l with
  | nil =>
      have hnone : rule.find [] = none := by
        cases hfind : rule.find [] with
        | none => rfl
        | some stop => exact absurd (rule.pos hfind) (Nat.not_lt.mpr (rule.le_length hfind))
      exact ⟨frames_of_none hnone, rest_of_none hnone⟩
  | cons s l ih =>
      obtain ⟨hframes, hrest⟩ := ih fun t ht => h t (List.mem_cons_of_mem _ ht)
      have hfind := rule.stable (h s List.mem_cons_self) l.flatten
      rw [List.flatten_cons, frames_of_some hfind, rest_of_some hfind, List.take_left,
        List.drop_left]
      exact ⟨by rw [hframes], hrest⟩

end Framing
