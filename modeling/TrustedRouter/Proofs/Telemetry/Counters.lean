import TrustedRouter.Telemetry.Reporter

/-!
# `TrustedRouter.Proofs.Telemetry.Counters`: the open window under its cap

A window that is full takes an increment for a new key by the fold ladder: under a coarser
key that is there, or under a coarser key that one of its rows is refolded to. A refolded key
is new to the window, because the ladder looked for it one rung before
(`foldedKey_eq_of_same`). So the keys stay distinct and the rows stay within the cap.
-/

set_option autoImplicit false

namespace TrustedRouter.Proofs.Telemetry

open TrustedRouter.Telemetry

/-- The keys of the rows, in order. -/
def keys (counters : Counters) : List CounterKey := counters.map Prod.fst

/-- The rows of one window: a key occurs once, and there are not too many. -/
structure CountersOk (counters : Counters) : Prop where
  keys : (keys counters).Nodup
  length : counters.length ≤ maxWindowKeys

/-- `has_key` finds a key among those of the rows. -/
theorem hasKey_iff {counters : Counters} {key : CounterKey} :
    hasKey counters key = true ↔ key ∈ keys counters := by
  simp [hasKey, keys]

/-- Keys that agree in all but the error class fold to one key. So a row that was folded stands
for all of them, and the next increment of any of them finds it. -/
theorem foldedKey_eq_of_same {a b : CounterKey} (h : sameButErrorClass a b = true) :
    foldedKey a false = foldedKey b false := by
  simp only [sameButErrorClass, Bool.and_eq_true, beq_iff_eq] at h
  simp [foldedKey, h]

/-- Keys that agree in all but the error class and the endpoint fold to one key, once the endpoint
is folded too. -/
theorem foldedKey_eq_of_same_endpoint {a b : CounterKey}
    (h : sameButErrorClassAndEndpoint a b = true) : foldedKey a true = foldedKey b true := by
  simp only [sameButErrorClassAndEndpoint, Bool.and_eq_true, beq_iff_eq] at h
  simp [foldedKey, h]

/-- Refolding a row to a key that is new to the window keeps the keys distinct, and their
number. -/
theorem refold_ok {counters counters' : Counters} {fits : CounterKey → Bool}
    {endpoint : Bool} {folded target : CounterKey} (hok : CountersOk counters)
    (hfolds : ∀ existing, fits existing = true → foldedKey existing endpoint = folded)
    (hnew : folded ∉ keys counters)
    (h : refold counters fits endpoint = some (target, counters')) :
    CountersOk counters' ∧ target ∈ keys counters' := by
  rw [refold, Option.map_eq_some_iff] at h
  obtain ⟨row, hrow, hpair⟩ := h
  cases hpair
  have hmem := List.mem_of_find?_eq_some hrow
  have hfits := List.find?_some (p := fun row : CounterKey × CounterRow => fits row.1) hrow
  -- One row goes and the folded one comes: the table does not grow.
  have hlength := List.length_eraseP_add_one (p := fun row => fits row.1) hmem hfits
  have hsub : (counters.eraseP fun row => fits row.1).Sublist counters := List.eraseP_sublist
  have hkeys : keys (counters.eraseP (fun row => fits row.1) ++
      [(foldedKey row.1 endpoint, mergeCounterIncrement {} row.2)]) =
        keys (counters.eraseP fun row => fits row.1) ++ [folded] := by
    rw [keys, List.map_append, hfolds _ hfits]
    rfl
  refine ⟨⟨?_, ?_⟩, ?_⟩
  · rw [hkeys, List.nodup_append_comm]
    refine List.nodup_cons.mpr ⟨fun hin => hnew ?_, ?_⟩
    · exact (hsub.map Prod.fst).subset hin
    · exact (hsub.map Prod.fst).nodup hok.keys
  · rw [List.length_append, List.length_singleton, hlength]
    exact hok.length
  · rw [hkeys, hfolds _ hfits]
    exact List.mem_append_right _ (List.mem_singleton_self folded)

/-- The target of an increment has a row, or there is room for one. The ladder of the source has
six ends, and in each of them one of the two holds. -/
theorem counterTarget_ok {counters : Counters} (hok : CountersOk counters)
    (key : CounterKey) :
    CountersOk (counterTarget counters key).2 ∧
      ((counterTarget counters key).1 ∈ keys (counterTarget counters key).2 ∨
        (counterTarget counters key).2.length < maxWindowKeys) := by
  unfold counterTarget
  split
  · rename_i h
    rw [Bool.or_eq_true, hasKey_iff, decide_eq_true_eq] at h
    exact ⟨hok, h⟩
  · rename_i hfull
    split
    · rename_i h
      exact ⟨hok, .inl (hasKey_iff.mp h)⟩
    · rename_i hnew
      rw [hasKey_iff] at hnew
      split
      · rename_i refolded hrefold
        obtain ⟨hok', hmem⟩ :=
          refold_ok hok (fun existing h => foldedKey_eq_of_same h) hnew hrefold
        exact ⟨hok', .inl hmem⟩
      · split
        · rename_i h
          exact ⟨hok, .inl (hasKey_iff.mp h)⟩
        · rename_i hnew
          rw [hasKey_iff] at hnew
          split
          · rename_i refolded hrefold
            obtain ⟨hok', hmem⟩ :=
              refold_ok hok (fun existing h => foldedKey_eq_of_same_endpoint h) hnew hrefold
            exact ⟨hok', .inl hmem⟩
          · -- The last rung is the first row. A full window has one.
            refine ⟨hok, .inl ?_⟩
            cases counters with
            | nil =>
                rw [Bool.or_eq_true, decide_eq_true_eq] at hfull
                exact absurd (.inr (by decide : 0 < maxWindowKeys)) hfull
            | cons row rest => exact List.mem_cons_self ..

/-- An increment adds a row only for a key that has none. -/
theorem keys_addIncrement (target : CounterKey) (increment : CounterRow)
    (counters : Counters) :
    keys (addIncrement target increment counters) =
      if target ∈ keys counters then keys counters else keys counters ++ [target] := by
  induction counters with
  | nil => rfl
  | cons row rest ih =>
      by_cases h : row.1 = target
      · -- The row is there: it is raised where it stands.
        have hmem : target ∈ keys (row :: rest) := List.mem_cons.mpr (.inl h.symm)
        rw [addIncrement, if_pos h, if_pos hmem]
        rfl
      · have hmem : target ∈ keys (row :: rest) ↔ target ∈ keys rest := by
          rw [keys, List.map_cons, List.mem_cons]
          exact or_iff_right (Ne.symm h)
        rw [addIncrement, if_neg h]
        show row.1 :: keys (addIncrement target increment rest) = _
        rw [ih]
        by_cases hrest : target ∈ keys rest
        · rw [if_pos hrest, if_pos (hmem.mpr hrest)]
          rfl
        · rw [if_neg hrest, if_neg (mt hmem.mp hrest)]
          rfl

/-- As many keys as rows. -/
theorem length_keys (counters : Counters) : (keys counters).length = counters.length :=
  List.length_map ..

/-- One turn of the merge loop, as its two parts: the choice of a row, which may fold one, and the
addition to it. -/
theorem mergeCounter_eq (counters : Counters) (entry : CounterKey × CounterRow) :
    mergeCounter counters entry =
      addIncrement (counterTarget counters entry.1).1 entry.2
        (counterTarget counters entry.1).2 := rfl

/-- One turn of the merge loop keeps the window within its bounds. -/
theorem mergeCounter_ok {counters : Counters} (hok : CountersOk counters)
    (entry : CounterKey × CounterRow) : CountersOk (mergeCounter counters entry) := by
  obtain ⟨hok', hroom⟩ := counterTarget_ok hok entry.1
  have hkeys := keys_addIncrement (counterTarget counters entry.1).1 entry.2
    (counterTarget counters entry.1).2
  rw [mergeCounter_eq]
  by_cases hmem : (counterTarget counters entry.1).1 ∈ keys (counterTarget counters entry.1).2
  · rw [if_pos hmem] at hkeys
    refine ⟨hkeys ▸ hok'.keys, ?_⟩
    rw [← length_keys, hkeys, length_keys]
    exact hok'.length
  · rw [if_neg hmem] at hkeys
    refine ⟨?_, ?_⟩
    · rw [hkeys, List.nodup_append_comm]
      exact List.nodup_cons.mpr ⟨hmem, hok'.keys⟩
    · rw [← length_keys, hkeys, List.length_append, length_keys]
      exact hroom.resolve_left hmem

/-- Merging any increments keeps the window within its bounds, by induction on the increments. -/
theorem mergeCounters_ok {state : State} (hok : CountersOk state.currentCounters)
    (counters : Counters) : CountersOk (mergeCounters counters state).currentCounters := by
  show CountersOk (counters.foldl mergeCounter state.currentCounters)
  generalize state.currentCounters = rows at hok
  induction counters generalizing rows with
  | nil => exact hok
  | cons entry rest ih => exact ih _ (mergeCounter_ok hok entry)

/-- A window that took an increment has a row. -/
theorem mergeCounter_ne_nil (counters : Counters) (entry : CounterKey × CounterRow) :
    mergeCounter counters entry ≠ [] := by
  intro h
  have hkeys := keys_addIncrement (counterTarget counters entry.1).1 entry.2
    (counterTarget counters entry.1).2
  rw [← mergeCounter_eq, h] at hkeys
  split at hkeys
  · rename_i hmem
    rw [← hkeys] at hmem
    cases hmem
  · exact List.append_ne_nil_of_right_ne_nil _ (List.cons_ne_nil _ _) hkeys.symm

/-- So does one that took several, and one that had a row before: merging never empties a
window. -/
theorem mergeCounters_ne_nil (counters : Counters) (state : State)
    (h : counters ≠ [] ∨ state.currentCounters ≠ []) :
    (mergeCounters counters state).currentCounters ≠ [] := by
  show counters.foldl mergeCounter state.currentCounters ≠ []
  generalize state.currentCounters = rows at h
  induction counters generalizing rows with
  | nil => exact h.resolve_left fun hne => hne rfl
  | cons entry rest ih => exact ih _ (.inr (mergeCounter_ne_nil rows entry))

/-- The key of a call that succeeded on its first attempt, at the level of the call. The sample runs
count into its row. -/
def firstKey : CounterKey where
  level := .request
  endpoint := .chatCompletions
  streaming := false
  host := .apex
  outcome := .ok
  errorClass := none
  httpStatusClass := .success
  timeoutPhase := .none
  timeoutFloorMet := false
  providerPinned := false

end TrustedRouter.Proofs.Telemetry
