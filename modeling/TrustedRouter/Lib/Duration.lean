import Mathlib

/-!
# `TrustedRouter.Lib.Duration`: `std::time::Duration`

A duration is a natural number of nanoseconds, written `Nat` throughout. Subtraction on
`Nat` stops at zero, which is `saturating_sub`. A finite `f64` of seconds is a rational
number, and the conversion from one rounds to the nearest nanosecond. It is monotone
(`fromSecsF64_mono`) and exact on what came from a duration (`fromSecsF64_asSecsF64`), so a
bound in seconds carries over to the rounded duration.
-/

set_option autoImplicit false

namespace Rust.Duration

/-- `Duration::from_secs`. -/
def fromSecs (secs : Nat) : Nat := secs * 1000000000

/-- `Duration::from_millis`. -/
def fromMillis (millis : Nat) : Nat := millis * 1000000

/-- `Duration::as_secs`: whole seconds. -/
def asSecs (d : Nat) : Nat := d / 1000000000

/-- `Duration::as_millis`: whole milliseconds. -/
def asMillis (d : Nat) : Nat := d / 1000000

/-- `Duration::as_secs_f64`. -/
def asSecsF64 (d : Nat) : Rat := d / 1000000000

/-- The nearest integer, the even one of two. -/
def roundHalfEven (q : Rat) : Int :=
  let below := q.floor
  if q - below < 1 / 2 then below
  else if 1 / 2 < q - below then below + 1
  else if below % 2 = 0 then below
  else below + 1

/-- `Duration::from_secs_f64`, of a value that is not negative. -/
def fromSecsF64 (secs : Rat) : Nat := (roundHalfEven (secs * 1000000000)).toNat

/-- Rounding goes to one of the two integers around, whichever way a half is broken. -/
theorem roundHalfEven_bounds (q : Rat) :
    q.floor ≤ roundHalfEven q ∧ roundHalfEven q ≤ q.floor + 1 := by
  simp only [roundHalfEven]
  split <;> [skip; split <;> [skip; split]] <;> omega

/-- An integer is its own rounding. -/
theorem roundHalfEven_intCast (n : Int) : roundHalfEven n = n := by
  simp only [roundHalfEven, Rat.floor_intCast, sub_self]
  norm_num

/-- Rounding keeps the order. Between two rationals with different floors this follows from the
bounds. With one floor, the three cases of the fraction are in the order of their results. -/
theorem roundHalfEven_mono {a b : Rat} (h : a ≤ b) : roundHalfEven a ≤ roundHalfEven b := by
  obtain hfloor | hfloor := Int.lt_or_eq_of_le (Rat.floor_monotone h)
  · -- An integer lies between, and each rounding stays on its side of it.
    have ha := (roundHalfEven_bounds a).2
    have hb := (roundHalfEven_bounds b).1
    omega
  · -- Both round from the same floor, and the distance to it decides.
    have hdistance : a - a.floor ≤ b - b.floor := by
      rw [hfloor]
      exact sub_le_sub_right h _
    simp only [roundHalfEven, ← hfloor] at hdistance ⊢
    split_ifs <;> first | omega | (exfalso; linarith)

/-- A longer time in seconds is a duration that is not shorter. -/
theorem fromSecsF64_mono {a b : Rat} (h : a ≤ b) : fromSecsF64 a ≤ fromSecsF64 b :=
  Int.toNat_le_toNat (roundHalfEven_mono (mul_le_mul_of_nonneg_right h (by norm_num)))

/-- A duration read as seconds and back is the same duration. -/
theorem fromSecsF64_asSecsF64 (d : Nat) : fromSecsF64 (asSecsF64 d) = d := by
  have hnanos : asSecsF64 d * 1000000000 = ((d : Int) : Rat) := by
    rw [asSecsF64, div_mul_cancel₀ _ (by norm_num)]
    rfl
  rw [fromSecsF64, hnanos, roundHalfEven_intCast, Int.toNat_natCast]

/-- A whole number of seconds needs no rounding. -/
theorem fromSecsF64_natCast (secs : Nat) : fromSecsF64 secs = fromSecs secs := by
  have hsecs : (secs : Rat) = asSecsF64 (fromSecs secs) := by
    rw [asSecsF64, fromSecs, Nat.cast_mul, mul_div_assoc]
    norm_num
  rw [hsecs, fromSecsF64_asSecsF64]

end Rust.Duration
