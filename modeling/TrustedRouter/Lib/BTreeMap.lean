import Mathlib

/-!
# `TrustedRouter.Lib.BTreeMap`: ordered maps as entry lists

A `BTreeMap` is the list of its entries in ascending key order, one entry a key. `Ordered` says
so of a list, and `Ordered.eq_of_mem_iff` that such a list is determined by its entries.

`sumAt` is the total of the values under a key. For an ordered list that is the value itself, or
zero where there is none. `total` is the total of all values.
-/

set_option autoImplicit false

namespace Rust.BTreeMap

variable {κ ν : Type} [DecidableEq κ]

/-- `entry(key)`, with the value that `f` makes of the present one, if there is one. -/
def upsert (lt : κ → κ → Bool) (key : κ) (f : Option ν → ν) : List (κ × ν) → List (κ × ν)
  | [] => [(key, f none)]
  | (k, v) :: rest =>
      if key = k then (k, f (some v)) :: rest
      else if lt key k then (key, f none) :: (k, v) :: rest
      else (k, v) :: upsert lt key f rest

/-- The total of the values under a key. -/
def sumAt (entries : List (κ × Nat)) (key : κ) : Nat :=
  ((entries.filter fun entry => entry.1 = key).map Prod.snd).sum

/-- An empty map has nothing under any key. -/
theorem sumAt_nil (key : κ) : sumAt [] key = 0 := rfl

/-- An entry counts for its own key. -/
theorem sumAt_cons (entry : κ × Nat) (entries : List (κ × Nat)) (key : κ) :
    sumAt (entry :: entries) key =
      (if entry.1 = key then entry.2 else 0) + sumAt entries key := by
  unfold sumAt
  rw [List.filter_cons]
  by_cases h : entry.1 = key
  · rw [if_pos (decide_eq_true h), if_pos h, List.map_cons, List.sum_cons]
  · rw [if_neg (by rw [decide_eq_true_eq]; exact h), if_neg h, Nat.zero_add]

/-- An entry is part of its key's total. -/
theorem le_sumAt {entries : List (κ × Nat)} {entry : κ × Nat} (h : entry ∈ entries) :
    entry.2 ≤ sumAt entries entry.1 := by
  induction entries with
  | nil => cases h
  | cons first rest ih =>
      rw [sumAt_cons]
      rcases List.mem_cons.mp h with rfl | hrest
      · rw [if_pos rfl]
        exact Nat.le_add_right _ _
      · exact Nat.le_trans (ih hrest) (Nat.le_add_left _ _)

/-- Adding to a key's entry adds to that key's total and to no other. `hpresent` is asked of the
entries that are there only, so a sum that would saturate on a larger value is allowed. -/
theorem sumAt_upsert {lt : κ → κ → Bool} {key : κ} {f : Option Nat → Nat} {amount : Nat}
    {entries : List (κ × Nat)} (hnew : f none = amount)
    (hpresent : ∀ value, (key, value) ∈ entries → f (some value) = value + amount) (other : κ) :
    sumAt (upsert lt key f entries) other =
      sumAt entries other + if key = other then amount else 0 := by
  induction entries with
  | nil => rw [upsert, sumAt_cons, sumAt_nil, hnew, Nat.add_comm]
  | cons entry rest ih =>
      obtain ⟨k, v⟩ := entry
      rw [upsert]
      by_cases hkey : key = k
      · subst hkey
        rw [if_pos rfl, sumAt_cons, sumAt_cons, hpresent v (List.mem_cons_self ..)]
        split <;> omega
      · rw [if_neg hkey]
        split
        · rw [sumAt_cons, hnew, Nat.add_comm]
        · have hrest := ih fun value hvalue => hpresent value (List.mem_cons_of_mem _ hvalue)
          rw [sumAt_cons, sumAt_cons, hrest, Nat.add_assoc]

/-- The total of all values. -/
def total {κ : Type} (entries : List (κ × Nat)) : Nat := (entries.map Prod.snd).sum

/-- An entry that grows by no more than an amount makes the total grow by no more than it. An
addition that saturates is such a growth. -/
theorem total_upsert_le {lt : κ → κ → Bool} {key : κ} {f : Option Nat → Nat} {amount : Nat}
    (hnew : f none ≤ amount) (hpresent : ∀ value, f (some value) ≤ value + amount)
    (entries : List (κ × Nat)) : total (upsert lt key f entries) ≤ total entries + amount := by
  induction entries with
  | nil =>
      show f none + 0 ≤ 0 + amount
      omega
  | cons entry rest ih =>
      obtain ⟨k, v⟩ := entry
      have hvalue := hpresent v
      rw [upsert]
      split
      · show f (some v) + total rest ≤ v + total rest + amount
        omega
      · split
        · show f none + (v + total rest) ≤ v + total rest + amount
          omega
        · show v + total (upsert lt key f rest) ≤ v + total rest + amount
          omega

/-- So does a whole list of such entries, by induction on the list. -/
theorem total_foldl_upsert_le {ι : Type} {lt : κ → κ → Bool} {key : ι → κ}
    {f : ι → Option Nat → Nat} {amount : ι → Nat} (hnew : ∀ item, f item none ≤ amount item)
    (hpresent : ∀ item value, f item (some value) ≤ value + amount item) (items : List ι)
    (entries : List (κ × Nat)) :
    total (items.foldl (fun map item => upsert lt (key item) (f item) map) entries) ≤
      total entries + (items.map amount).sum := by
  induction items generalizing entries with
  | nil => exact Nat.le_refl _
  | cons item rest ih =>
      have hhere := @total_upsert_le κ _ lt (key item) (f item) (amount item) (hnew item)
        (hpresent item) entries
      have hrest := ih (upsert lt (key item) (f item) entries)
      rw [List.foldl_cons, List.map_cons, List.sum_cons]
      omega

/-- The keys ascend. -/
def Ordered {κ ν : Type} [LT κ] (entries : List (κ × ν)) : Prop :=
  entries.Pairwise fun a b => a.1 < b.1

/-- Taking entries out keeps a map ordered. -/
theorem Ordered.filter {κ ν : Type} [LT κ] {entries : List (κ × ν)} (h : Ordered entries)
    (p : κ × ν → Bool) : Ordered (entries.filter p) :=
  List.Pairwise.filter p h

/-- Two maps with the same entries are the same: keys in ascending order leave no choice of the
order. -/
theorem Ordered.eq_of_mem_iff {κ ν : Type} [LT κ] [Std.Asymm ((· < ·) : κ → κ → Prop)]
    {a b : List (κ × ν)} (ha : Ordered a) (hb : Ordered b)
    (h : ∀ entry, entry ∈ a ↔ entry ∈ b) : a = b := by
  have hnodup : ∀ {entries : List (κ × ν)}, Ordered entries → entries.Nodup := by
    intro entries hentries
    refine hentries.imp ?_
    rintro x y hlt rfl
    exact Std.Asymm.asymm _ _ hlt hlt
  have hperm := (List.perm_ext_iff_of_nodup (hnodup ha) (hnodup hb)).mpr h
  refine hperm.eq_of_pairwise ?_ ha hb
  intro x y _ _ hxy hyx
  exact absurd hyx (Std.Asymm.asymm _ _ hxy)

end Rust.BTreeMap
