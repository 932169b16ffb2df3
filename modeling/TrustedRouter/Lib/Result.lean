import Mathlib

/-!
# `TrustedRouter.Lib.Result`: reading a fallible computation backwards

A Rust function with `?` is a chain of binds in `Except`. A proof about its success
needs the intermediate values of that chain. `bind_eq_ok` gives one link, with
`exists_unit` for a step that returns nothing. `ensure_eq_ok` and `okOr_eq_ok` read the two
guards Rust code writes: an early `return Err(..)` and `Option::ok_or`. `mapM_eq_ok` and
`exists_mem_of_mapM_eq_error` do the same for a `collect` into a `Result`.
-/

set_option autoImplicit false

namespace Rust.Result

variable {ε α β : Type}

/-- A guard: `if !cond { return Err(error) }`. -/
def ensure (cond : Bool) (error : ε) : Except ε Unit :=
  if cond then .ok () else .error error

/-- `Option::ok_or`. -/
def okOr (value : Option α) (error : ε) : Except ε α :=
  match value with
  | some a => .ok a
  | none => .error error

/-- `Result::map_err`. -/
def mapErr {ε' : Type} (f : ε → ε') (result : Except ε α) : Except ε' α :=
  match result with
  | .ok a => .ok a
  | .error e => .error (f e)

/-- One link of a `?` chain: the bind returns a value exactly when its first half does
and its second half does on that value. -/
theorem bind_eq_ok {x : Except ε α} {f : α → Except ε β} {b : β} :
    (x >>= f) = .ok b ↔ ∃ a, x = .ok a ∧ f a = .ok b := by
  cases x with
  | error e =>
      constructor
      · intro h; cases h
      · rintro ⟨a, ha, -⟩; cases ha
  | ok a =>
      constructor
      · intro h; exact ⟨a, rfl, h⟩
      · rintro ⟨a', ha, hf⟩; cases ha; exact hf

/-- Two `?` chains with one first half differ only where that half returns a value, on which
the second halves differ. -/
theorem bind_ne_bind {x : Except ε α} {f g : α → Except ε β} :
    ¬ (x >>= f) = (x >>= g) ↔ ∃ a, x = .ok a ∧ ¬ f a = g a := by
  cases x with
  | error e =>
      constructor
      · intro h; exact absurd rfl h
      · rintro ⟨a, ha, -⟩; cases ha
  | ok a =>
      constructor
      · intro h; exact ⟨a, rfl, h⟩
      · rintro ⟨a', ha, hne⟩; cases ha; exact hne

/-- A `?` chain fails at its first half, or at its second half on the value of the
first. -/
theorem bind_eq_error {x : Except ε α} {f : α → Except ε β} {e : ε} :
    (x >>= f) = .error e ↔ x = .error e ∨ ∃ a, x = .ok a ∧ f a = .error e := by
  cases x with
  | error e' =>
      constructor
      · intro h; cases h; exact .inl rfl
      · rintro (h | ⟨a, ha, -⟩)
        · cases h; rfl
        · cases ha
  | ok a =>
      constructor
      · intro h; exact .inr ⟨a, rfl, h⟩
      · rintro (h | ⟨a', ha, hf⟩)
        · cases h
        · cases ha; exact hf

/-- A guard passes exactly when its condition holds. -/
theorem ensure_eq_ok {cond : Bool} {error : ε} {u : Unit} :
    ensure cond error = .ok u ↔ cond = true := by
  cases cond <;> simp [ensure]

/-- A guard that fails does so with its own error. -/
theorem ensure_eq_error {cond : Bool} {error e : ε} :
    ensure cond error = .error e ↔ cond = false ∧ error = e := by
  cases cond <;> simp [ensure]

/-- A step that returns nothing has one possible result. After `bind_eq_ok` this removes
the unit value between a guard and the rest of the function. -/
theorem exists_unit {p : Unit → Prop} : (∃ u, p u) ↔ p () := by
  constructor
  · rintro ⟨⟨⟩, h⟩; exact h
  · intro h; exact ⟨(), h⟩

/-- `ok_or` succeeds exactly on the value it carries. -/
theorem okOr_eq_ok {value : Option α} {error : ε} {a : α} :
    okOr value error = .ok a ↔ value = some a := by
  cases value <;> simp [okOr]

/-- `map_err` does not touch a success. -/
theorem mapErr_eq_ok {ε' : Type} {f : ε → ε'} {result : Except ε α} {a : α} :
    mapErr f result = .ok a ↔ result = .ok a := by
  cases result <;> simp [mapErr]

/-- A fallible map over a list succeeds exactly when it does on every element, in order. -/
theorem mapM_eq_ok {f : α → Except ε β} {l : List α} {r : List β} :
    l.mapM f = .ok r ↔ List.Forall₂ (fun a b => f a = .ok b) l r := by
  induction l generalizing r with
  | nil =>
      rw [List.mapM_nil, List.forall₂_nil_left_iff]
      constructor
      · intro h; cases h; rfl
      · rintro rfl; rfl
  | cons a rest ih =>
      simp only [List.mapM_cons, bind_eq_ok, List.forall₂_cons_left_iff]
      constructor
      · rintro ⟨b, hb, bs, hbs, hr⟩
        cases hr
        exact ⟨b, bs, hb, ih.mp hbs, rfl⟩
      · rintro ⟨b, bs, hb, hbs, rfl⟩
        exact ⟨b, hb, bs, ih.mpr hbs, rfl⟩

/-- Every element of the first list has its partner in the second. -/
theorem exists_mem_of_forall₂ {r : α → β → Prop} {l : List α} {l' : List β}
    (h : List.Forall₂ r l l') {a : α} (ha : a ∈ l) : ∃ b ∈ l', r a b := by
  induction h with
  | nil => cases ha
  | cons hab _ ih =>
      rcases List.mem_cons.mp ha with rfl | ha
      · exact ⟨_, List.mem_cons_self, hab⟩
      · obtain ⟨b, hb, hr⟩ := ih ha
        exact ⟨b, List.mem_cons_of_mem _ hb, hr⟩

/-- A fallible map over a list fails with the error of one of its elements. -/
theorem exists_mem_of_mapM_eq_error {f : α → Except ε β} {l : List α} {e : ε}
    (h : l.mapM f = .error e) : ∃ a ∈ l, f a = .error e := by
  induction l with
  | nil => rw [List.mapM_nil] at h; cases h
  | cons a rest ih =>
      simp only [List.mapM_cons, bind_eq_error] at h
      rcases h with ha | ⟨b, -, hrest | ⟨bs, -, hpure⟩⟩
      · exact ⟨a, List.mem_cons_self, ha⟩
      · obtain ⟨a', hmem, ha'⟩ := ih hrest
        exact ⟨a', List.mem_cons_of_mem _ hmem, ha'⟩
      · cases hpure

end Rust.Result
