import TrustedRouter.Proofs.Telemetry.Conservation

/-!
# `TrustedRouter.Proofs.Telemetry.Attribution`: what a full window still tells apart

A window has room for `maxWindowKeys` keys. An increment for a further key goes down the fold ladder
of `counter_target`: it gives up its error class, then its endpoint as well. What is left of a key
then is its `coarse` key: level, host, outcome, status class, streaming, timeout and pin.

`folding_keeps_classes` says that folding costs no more than that. As long as each coarse key is
first seen while there is room, the counts of every coarse key, and so of every host and every
outcome, are those of the increments, however many keys come later.

The condition is needed. The last rung of the ladder is the first row of the window, whatever its
key is, and it is taken by an increment that finds the window full and no row of its coarse key
(`coarse_counterTarget`).
-/

set_option autoImplicit false

namespace TrustedRouter.Proofs.Telemetry.Conservation

open TrustedRouter.Telemetry

/-! ## Coarse keys -/

/-- A key without its error class and its endpoint, as the ladder writes it. -/
def coarse (key : CounterKey) : CounterKey := foldedKey key true

/-- Folding leaves the coarse key. -/
theorem coarse_foldedKey (key : CounterKey) (endpoint : Bool) :
    coarse (foldedKey key endpoint) = coarse key := by
  cases endpoint <;> rfl

/-- Coarse keys agree exactly when the source's comparison says so. -/
theorem coarse_eq_iff {a b : CounterKey} :
    coarse a = coarse b ↔ sameButErrorClassAndEndpoint a b = true := by
  constructor
  · intro h
    simp only [coarse, foldedKey, if_true, CounterKey.mk.injEq] at h
    simp only [sameButErrorClassAndEndpoint, Bool.and_eq_true, beq_iff_eq]
    tauto
  · exact foldedKey_eq_of_same_endpoint

/-- Keys that differ in the error class only have one coarse key. -/
theorem coarse_eq_of_same {a b : CounterKey} (h : sameButErrorClass a b = true) :
    coarse a = coarse b := by
  rw [← coarse_foldedKey a false, ← coarse_foldedKey b false, foldedKey_eq_of_same h]

/-! ## One increment -/

/-- The target of an increment has its coarse key, unless the window is full and has no row with
it. Then the source takes the first row there is, and the increment is counted under a key that is
not its own. -/
theorem coarse_counterTarget (counters : Counters) (key : CounterKey) :
    coarse (counterTarget counters key).1 = coarse key ∨
      maxWindowKeys ≤ counters.length ∧ ∀ row ∈ counters, coarse row.1 ≠ coarse key := by
  unfold counterTarget
  split
  · exact .inl rfl
  · rename_i hfull
    split
    · exact .inl (coarse_foldedKey key false)
    · split
      · rename_i refolded hrefold
        obtain ⟨before, row, after, -, hfits, rfl⟩ := refold_moves hrefold
        exact .inl ((coarse_foldedKey row.1 false).trans (coarse_eq_of_same hfits))
      · split
        · exact .inl (coarse_foldedKey key true)
        · split
          · rename_i refolded hrefold
            obtain ⟨before, row, after, -, hfits, rfl⟩ := refold_moves hrefold
            exact .inl ((coarse_foldedKey row.1 true).trans (coarse_eq_iff.mpr hfits))
          · -- No row could be refolded, so none has the coarse key.
            rename_i hnone
            rw [refold, Option.map_eq_none_iff, List.find?_eq_none] at hnone
            simp only [Bool.or_eq_true, decide_eq_true_eq, not_or, not_lt] at hfull
            exact .inr ⟨hfull.2, fun row hrow hsame => hnone row hrow (coarse_eq_iff.mp hsame)⟩

/-- A count that only looks at the coarse key. -/
def IsCoarse (p : CounterKey → Bool) : Prop := ∀ key, p (coarse key) = p key

/-- A predicate that looks at coarse keys does not tell keys with one coarse key apart. -/
theorem IsCoarse.eq {p : CounterKey → Bool} (h : IsCoarse p) {a b : CounterKey}
    (hsame : coarse a = coarse b) : p a = p b := by
  rw [← h a, ← h b, hsame]

/-- Refolding a row changes no such count, and loses no coarse key. -/
theorem counterTarget_keeps {counters : Counters} (hrows : RowsWithin counters)
    (key : CounterKey) :
    (∀ p, IsCoarse p → ∀ c, tally p (counterTarget counters key).2 c = tally p counters c) ∧
      ∀ row ∈ counters, ∃ kept ∈ (counterTarget counters key).2, coarse kept.1 = coarse row.1 := by
  rcases counterTarget_cases counters key with hsame | ⟨fits, endpoint, hrefold⟩
  · rw [hsame]
    exact ⟨fun _ _ _ => rfl, fun row hrow => ⟨row, hrow, rfl⟩⟩
  · obtain ⟨before, moved, after, rfl, -, htarget⟩ := refold_moves hrefold
    rw [htarget]
    have hmoved := hrows moved (List.mem_append_right _ List.mem_cons_self)
    constructor
    · intro p hp c
      -- The row moves to the end under its folded key, which `p` does not tell from the old one.
      have hfold : p (foldedKey moved.1 endpoint) = p moved.1 :=
        hp.eq (coarse_foldedKey moved.1 endpoint)
      simp only [tally_append, tally_cons, tally_nil, hfold, component_mergeDefault hmoved]
      omega
    · intro row hrow
      rcases List.mem_append.mp hrow with hbefore | hrest
      · exact ⟨row, List.mem_append_left _ (List.mem_append_left _ hbefore), rfl⟩
      · rcases List.mem_cons.mp hrest with rfl | hafter
        · exact ⟨_, List.mem_append_right _ (List.mem_singleton_self _),
            coarse_foldedKey row.1 endpoint⟩
        · exact ⟨row, List.mem_append_left _ (List.mem_append_right _ hafter), rfl⟩

/-- An increment leaves every row its key, and its target has a row afterwards. -/
theorem exists_mem_addIncrement {counters : Counters} {target key : CounterKey}
    {increment : CounterRow} (h : key ∈ keys counters ∨ key = target) :
    ∃ row ∈ addIncrement target increment counters, row.1 = key := by
  have hmem : key ∈ keys (addIncrement target increment counters) := by
    rw [keys_addIncrement]
    rcases h with hold | rfl
    · split
      · exact hold
      · exact List.mem_append_left _ hold
    · split
      · rename_i hin
        exact hin
      · exact List.mem_append_right _ (List.mem_singleton_self _)
  exact List.mem_map.mp hmem

/-! ## A whole window -/

/-- The window has a row for every coarse key of the increments. -/
def Covers (window increments : Counters) : Prop :=
  ∀ entry ∈ increments, ∃ row ∈ window, coarse row.1 = coarse entry.1

/-- Two lists of increments of the same coarse counts. -/
def SameClasses (window increments : Counters) : Prop :=
  ∀ p, IsCoarse p → ∀ c, tally p window c = tally p increments c

/-- One more increment, whose coarse key has a row or finds room. -/
theorem sameClasses_concat {increments : Counters} {entry : CounterKey × CounterRow}
    (hwithin : Within (increments ++ [entry]))
    (hroom : (windowOf increments).length < maxWindowKeys ∨
      ∃ row ∈ windowOf increments, coarse row.1 = coarse entry.1)
    (hcovers : Covers (windowOf increments) increments)
    (hsame : SameClasses (windowOf increments) increments) :
    Covers (windowOf (increments ++ [entry])) (increments ++ [entry]) ∧
      SameClasses (windowOf (increments ++ [entry])) (increments ++ [entry]) := by
  obtain ⟨-, hrows, hentry⟩ := hwithin.init
  obtain ⟨htally, hkept⟩ := counterTarget_keeps hrows entry.1
  -- The fallback to the first row is excluded: it takes a full window without a row of this
  -- class.
  have htarget : coarse (counterTarget (windowOf increments) entry.1).1 = coarse entry.1 := by
    rcases coarse_counterTarget (windowOf increments) entry.1 with htarget | ⟨hfull, hnone⟩
    · exact htarget
    · rcases hroom with hless | ⟨row, hrow, hcoarse⟩
      · exact absurd hfull (Nat.not_le_of_lt hless)
      · exact absurd hcoarse (hnone row hrow)
  rw [windowOf_concat, mergeCounter_eq]
  constructor
  · intro other hother
    rcases List.mem_append.mp hother with hold | hnew
    · obtain ⟨row, hrow, hcoarse⟩ := hcovers other hold
      obtain ⟨kept, hmem, hclass⟩ := hkept row hrow
      obtain ⟨found, hfound, hkey⟩ := exists_mem_addIncrement
        (.inl (List.mem_map_of_mem hmem) : kept.1 ∈ keys _ ∨ kept.1 = _)
      exact ⟨found, hfound, by rw [hkey, hclass, hcoarse]⟩
    · obtain ⟨found, hfound, hkey⟩ := exists_mem_addIncrement (.inr rfl)
      exact ⟨found, hfound, by rw [hkey, htarget, List.mem_singleton.mp hnew]⟩
  · intro p hp c
    rw [tally_addIncrement (counterTarget_total hrows entry.1).1 hentry, htally p hp c,
      hsame p hp c, tally_append, tally_singleton, hp.eq htarget]

/-- While there are few keys, every key has its own row. -/
theorem sameClasses_of_few {increments : Counters} (hwithin : Within increments)
    (hfew : (keys increments).dedup.length ≤ maxWindowKeys) :
    Covers (windowOf increments) increments ∧ SameClasses (windowOf increments) increments := by
  induction increments using List.reverseRecOn with
  | nil => exact ⟨fun entry hentry => (List.not_mem_nil hentry).elim, fun p _ c => rfl⟩
  | append_singleton increments entry ih =>
      obtain ⟨hcovers, hsame⟩ := ih hwithin.init.1 (few_init hfew)
      refine sameClasses_concat hwithin ?_ hcovers hsame
      rcases room_of_few (mem_keys_windowOf (few_init hfew)) hfew with hmem | hless
      · obtain ⟨row, hrow, hkey⟩ := List.mem_map.mp hmem
        exact .inr ⟨row, hrow, congrArg coarse hkey⟩
      · exact .inl hless

/-- Folding costs the error class and the endpoint of a count, and nothing else. If each coarse key
occurs among the increments that came while there were few keys, then every count of the window
that only looks at coarse keys is that of the increments. -/
theorem folding_keeps_classes {early late : Counters} {state : State}
    (hopen : state.currentCounters = []) (hwithin : Within (early ++ late))
    (hfew : (keys early).dedup.length ≤ maxWindowKeys)
    (hseen : ∀ entry ∈ late, ∃ first ∈ early, coarse first.1 = coarse entry.1)
    {p : CounterKey → Bool} (hp : IsCoarse p) (c : Component) :
    tally p (mergeCounters (early ++ late) state).currentCounters c =
      tally p (early ++ late) c := by
  suffices hboth : Covers (windowOf (early ++ late)) (early ++ late) ∧
      SameClasses (windowOf (early ++ late)) (early ++ late) by
    show tally p ((early ++ late).foldl mergeCounter state.currentCounters) c = _
    rw [hopen]
    exact hboth.2 p hp c
  -- By induction on what came later. A coarse key that has a row keeps one.
  induction late using List.reverseRecOn with
  | nil =>
      rw [List.append_nil] at hwithin ⊢
      exact sameClasses_of_few hwithin hfew
  | append_singleton late entry ih =>
      rw [← List.append_assoc] at hwithin ⊢
      obtain ⟨hcovers, hsame⟩ := ih hwithin.init.1 fun other hother =>
        hseen other (List.mem_append_left _ hother)
      refine sameClasses_concat hwithin (.inr ?_) hcovers hsame
      obtain ⟨first, hfirst, hcoarse⟩ :=
        hseen entry (List.mem_append_right _ (List.mem_singleton_self _))
      obtain ⟨row, hrow, hclass⟩ := hcovers first (List.mem_append_left _ hfirst)
      exact ⟨row, hrow, hclass.trans hcoarse⟩

/-- One failed attempt for each host, all at one endpoint and with one error class. -/
def vanguard : Counters :=
  crowdHosts.map fun host => (failedKey .chatCompletions host .dns, failedIncrement)

/-- The crowd after its vanguard folds the window, and the attempts at the apex are still those of
the increments: one of the vanguard and forty of the crowd. -/
theorem folding_keeps_classes_apex :
    maxWindowKeys < (keys crowd).dedup.length ∧
      tally (fun key => key.host == .apex)
        (mergeCounters (vanguard ++ crowd) (State.new none 0 "instance")).currentCounters
          .requests = 41 := by
  have hsums : ∀ c ∈ components, total (vanguard ++ crowd) c ≤ maxCount := by decide +kernel
  -- An attempt of the crowd has the coarse key of the vanguard's attempt at its host.
  have hseen : ∀ entry ∈ crowd, ∃ first ∈ vanguard, coarse first.1 = coarse entry.1 := by
    intro entry hentry
    obtain ⟨part, hpart, rfl⟩ := List.mem_map.mp hentry
    have hhost : part.2.1 ∈ crowdHosts :=
      (List.pair_mem_product.mp (List.pair_mem_product.mp hpart).2).1
    exact ⟨_, List.mem_map_of_mem hhost, rfl⟩
  have hcounts := @folding_keeps_classes vanguard crowd (State.new none 0 "instance") rfl
    (within_of_total fun c => hsums c (mem_components c)) (by decide) hseen
    (fun key => key.host == .apex) (fun _ => rfl) .requests
  exact ⟨crowd_overflows, hcounts.trans (by decide +kernel)⟩

end TrustedRouter.Proofs.Telemetry.Conservation
