import Mathlib

/-!
# `TrustedRouter.Lib.MachineInt`: saturating and checked arithmetic

The `u64` and `i64` operations that say what they do at the ends of their range. A `u64`
stands as a `Nat`, an `i64` as an `Int`.
-/

set_option autoImplicit false

namespace Rust.U64

/-- `u64::MAX`. -/
def max : Nat := 2 ^ 64 - 1

/-- `u64::saturating_add`. -/
def saturatingAdd (a b : Nat) : Nat := min (a + b) max

/-- A saturating sum is in range. -/
theorem saturatingAdd_le_max (a b : Nat) : saturatingAdd a b ≤ max :=
  Nat.min_le_right _ _

/-- Adding nothing changes nothing in range. -/
theorem saturatingAdd_zero {a : Nat} (h : a ≤ max) : saturatingAdd a 0 = a :=
  Nat.min_eq_left h

/-- Saturating twice is saturating once: the first cut is at the same bound as the second. -/
theorem saturatingAdd_assoc (a b c : Nat) :
    saturatingAdd (saturatingAdd a b) c = saturatingAdd a (b + c) := by
  simp only [saturatingAdd]
  omega

/-- In range, a saturating sum does not fall. -/
theorem le_saturatingAdd {a : Nat} (h : a ≤ max) (b : Nat) : a ≤ saturatingAdd a b := by
  simp only [saturatingAdd]
  omega

end Rust.U64

namespace Rust.I64

/-- `i64::MAX`. -/
def max : Int := 2 ^ 63 - 1

/-- `i64::MIN`. -/
def min : Int := -2 ^ 63

/-- `i64::saturating_add`. -/
def saturatingAdd (a b : Int) : Int :=
  if max < a + b then max else if a + b < min then min else a + b

/-- `i64::checked_sub`. -/
def checkedSub (a b : Int) : Option Int :=
  if min ≤ a - b ∧ a - b ≤ max then some (a - b) else none

/-- A saturating sum that does not pass the lower end is at most the sum. -/
theorem saturatingAdd_le {a b : Int} (h : min ≤ a + b) : saturatingAdd a b ≤ a + b := by
  unfold saturatingAdd
  split
  · omega
  · split
    · omega
    · exact Int.le_refl _

end Rust.I64
