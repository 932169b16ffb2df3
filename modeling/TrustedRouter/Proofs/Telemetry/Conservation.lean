import TrustedRouter.Proofs.Telemetry.Counters

/-!
# `TrustedRouter.Proofs.Telemetry.Conservation`: folding keeps every count

A row of a window has four counts and two histograms. `Component` names one number of a row, and
`tally p c` adds that number up over the rows whose key satisfies `p`. With every key this is
the sum over the window (`total`), with one key that key's share (`own`).

`merge_counter_increment` clamps each component of the increment to `maxCount`, and a refolded
row is itself such an increment. So a merge keeps the counts as long as no component has passed
that bound, which `Within` says of the increments and of the window at every point of the run.
-/

set_option autoImplicit false

namespace TrustedRouter.Proofs.Telemetry.Conservation

open TrustedRouter.Telemetry
open Rust
open Rust.BTreeMap

/-! ## The components of a row -/

/-- One number of a counter row. -/
inductive Component where
  | requests | attempts | failoverUsed | firstAttemptSuccess
  | totalMs (bucket : LatencyBucket)
  | firstEventMs (bucket : LatencyBucket)
  deriving DecidableEq

/-- Its value. -/
def component (row : CounterRow) : Component → Nat
  | .requests => row.requests
  | .attempts => row.attempts
  | .failoverUsed => row.failoverUsed
  | .firstAttemptSuccess => row.firstAttemptSuccess
  | .totalMs bucket => sumAt row.totalMsHist bucket
  | .firstEventMs bucket => sumAt row.firstEventMsHist bucket

/-- No component passes the bound. -/
def RowWithin (row : CounterRow) : Prop := ∀ c, component row c ≤ maxCount

/-- All latency buckets. -/
def latencyBuckets : List LatencyBucket :=
  [.lt100, .lt200, .lt400, .lt800, .lt1600, .lt3200, .lt6400, .lt12800, .lt25600, .lt51200,
    .lt102400, .ge102400]

/-- All components. -/
def components : List Component :=
  [.requests, .attempts, .failoverUsed, .firstAttemptSuccess] ++
    latencyBuckets.map Component.totalMs ++ latencyBuckets.map Component.firstEventMs

/-- The list of the components is complete, so that what is checked for all of the list holds for
every one. -/
theorem mem_components (c : Component) : c ∈ components := by
  cases c with
  | totalMs bucket => cases bucket <;> decide
  | firstEventMs bucket => cases bucket <;> decide
  | requests | attempts | failoverUsed | firstAttemptSuccess => decide

instance (row : CounterRow) : Decidable (RowWithin row) :=
  decidable_of_iff (∀ c ∈ components, component row c ≤ maxCount)
    ⟨fun h c => h c (mem_components c), fun h c _ => h c⟩

/-- A new row has no counts. -/
theorem component_default (c : Component) : component {} c = 0 := by
  cases c <;> rfl

/-- A count within the bound is added as it is: neither the clamp of the increment nor the
saturation of the sum has anything to do. -/
theorem saturatingAdd_bounded {count increment : Nat} (hcount : count ≤ maxCount)
    (hincrement : increment ≤ maxCount) :
    U64.saturatingAdd count (bounded increment 0 maxCount) = count + increment := by
  have hmax : maxCount + maxCount ≤ U64.max := by decide
  simp only [U64.saturatingAdd, bounded]
  omega

/-- Merging histograms adds their buckets up, where no entry is clamped and none saturates. -/
theorem sumAt_mergeHistogram {target source : Histogram}
    (hfits : ∀ bucket, sumAt target bucket + sumAt source bucket ≤ U64.max)
    (hsource : ∀ entry ∈ source, entry.2 ≤ maxCount) (bucket : LatencyBucket) :
    sumAt (mergeHistogram target source) bucket =
      sumAt target bucket + sumAt source bucket := by
  induction source generalizing target with
  | nil => rfl
  | cons entry rest ih =>
      obtain ⟨hentry, hrest⟩ := List.forall_mem_cons.mp hsource
      have hbounded : bounded entry.2 0 maxCount = entry.2 := by
        rw [bounded, Nat.min_eq_left hentry, Nat.max_eq_right (Nat.zero_le _)]
      -- Neither the clamp nor the saturation of one entry takes effect.
      have hadded : ∀ other, sumAt (upsert (fun a b => compare a b == .lt) entry.1
          (fun present => U64.saturatingAdd (present.getD 0) (bounded entry.2 0 maxCount))
          target) other = sumAt target other + if entry.1 = other then entry.2 else 0 := by
        have hhere := hfits entry.1
        rw [sumAt_cons, if_pos rfl] at hhere
        apply sumAt_upsert
        · rw [hbounded, Option.getD_none, U64.saturatingAdd]
          omega
        · intro value hvalue
          have hvalue := le_sumAt hvalue
          rw [hbounded, Option.getD_some, U64.saturatingAdd]
          dsimp only at hvalue
          omega
      have hnext : ∀ other, sumAt (upsert (fun a b => compare a b == .lt) entry.1
          (fun present => U64.saturatingAdd (present.getD 0) (bounded entry.2 0 maxCount))
          target) other + sumAt rest other ≤ U64.max := by
        intro other
        have hother := hfits other
        rw [sumAt_cons] at hother
        rw [hadded]
        omega
      have hmerged := ih hnext hrest
      rw [hadded] at hmerged
      rw [sumAt_cons, ← Nat.add_assoc]
      exact hmerged

/-- The entries of a histogram within the bound are within it. -/
theorem entry_le_of_within {histogram : Histogram}
    (h : ∀ bucket, sumAt histogram bucket ≤ maxCount) : ∀ entry ∈ histogram, entry.2 ≤ maxCount :=
  fun entry hentry => Nat.le_trans (le_sumAt hentry) (h entry.1)

/-- Two histograms within the bound do not saturate together, so that their counts add up bucket
by bucket. -/
theorem sumAt_mergeHistogram_of_within {target source : Histogram}
    (htarget : ∀ bucket, sumAt target bucket ≤ maxCount)
    (hsource : ∀ bucket, sumAt source bucket ≤ maxCount) (bucket : LatencyBucket) :
    sumAt (mergeHistogram target source) bucket =
      sumAt target bucket + sumAt source bucket := by
  have hmax : maxCount + maxCount ≤ U64.max := by decide
  refine sumAt_mergeHistogram ?_ (entry_le_of_within hsource) bucket
  intro other
  exact Nat.le_trans (Nat.add_le_add (htarget other) (hsource other)) hmax

/-- A merge of rows within the bound adds every component up. Within the bound the clamp of an
increment does nothing, and the sum is far from the largest `u64`. -/
theorem component_mergeCounterIncrement {target increment : CounterRow}
    (htarget : RowWithin target) (hincrement : RowWithin increment) (c : Component) :
    component (mergeCounterIncrement target increment) c =
      component target c + component increment c := by
  cases c with
  | totalMs bucket =>
      exact sumAt_mergeHistogram_of_within (fun other => htarget (.totalMs other))
        (fun other => hincrement (.totalMs other)) bucket
  | firstEventMs bucket =>
      exact sumAt_mergeHistogram_of_within (fun other => htarget (.firstEventMs other))
        (fun other => hincrement (.firstEventMs other)) bucket
  | requests => exact saturatingAdd_bounded (htarget .requests) (hincrement .requests)
  | attempts => exact saturatingAdd_bounded (htarget .attempts) (hincrement .attempts)
  | failoverUsed =>
      exact saturatingAdd_bounded (htarget .failoverUsed) (hincrement .failoverUsed)
  | firstAttemptSuccess =>
      exact saturatingAdd_bounded (htarget .firstAttemptSuccess)
        (hincrement .firstAttemptSuccess)

/-- An increment that starts a row is that row. -/
theorem component_mergeDefault {increment : CounterRow} (h : RowWithin increment)
    (c : Component) : component (mergeCounterIncrement {} increment) c = component increment c := by
  have hdefault : RowWithin {} := fun c => (component_default c).trans_le (Nat.zero_le _)
  rw [component_mergeCounterIncrement hdefault h, component_default, Nat.zero_add]

/-! ## Sums over the rows -/

/-- A component, added up over the rows whose key satisfies `p`. -/
def tally (p : CounterKey → Bool) (counters : Counters) (c : Component) : Nat :=
  ((counters.filter fun row => p row.1).map fun row => component row.2 c).sum

/-- A component, added up over all rows. -/
def total (counters : Counters) (c : Component) : Nat := tally (fun _ => true) counters c

/-- A component, added up over the rows of one key. -/
def own (counters : Counters) (key : CounterKey) (c : Component) : Nat :=
  tally (fun other => other = key) counters c

/-- Every row of a window is within the bound. -/
def RowsWithin (counters : Counters) : Prop := ∀ row ∈ counters, RowWithin row.2

instance (counters : Counters) : Decidable (RowsWithin counters) :=
  inferInstanceAs (Decidable (∀ row ∈ counters, RowWithin row.2))

section
variable {p : CounterKey → Bool} {counters : Counters} {c : Component}

/-- The first row and the rest. -/
theorem tally_cons (row : CounterKey × CounterRow) (counters : Counters) :
    tally p (row :: counters) c =
      (if p row.1 then component row.2 c else 0) + tally p counters c := by
  unfold tally
  rw [List.filter_cons]
  split
  · rw [List.map_cons, List.sum_cons]
  · rw [Nat.zero_add]

/-- A tally adds up over rows. -/
theorem tally_append (a b : Counters) : tally p (a ++ b) c = tally p a c + tally p b c := by
  unfold tally
  rw [List.filter_append, List.map_append, List.sum_append]

/-- No rows count nothing. -/
theorem tally_nil : tally p [] c = 0 := rfl

/-- One row counts for itself, if `p` takes its key. -/
theorem tally_singleton (row : CounterKey × CounterRow) :
    tally p [row] c = if p row.1 then component row.2 c else 0 := by
  rw [tally_cons, tally_nil, Nat.add_zero]

/-- An increment is added to the tally of its target, whether it finds a row there or starts
one. -/
theorem tally_addIncrement {target : CounterKey} {increment : CounterRow}
    (hrows : RowsWithin counters) (hincrement : RowWithin increment) :
    tally p (addIncrement target increment counters) c =
      tally p counters c + if p target then component increment c else 0 := by
  induction counters with
  | nil =>
      rw [addIncrement, tally_singleton, component_mergeDefault hincrement]
      exact (Nat.zero_add _).symm
  | cons row rest ih =>
      obtain ⟨hrow, hrest⟩ := List.forall_mem_cons.mp hrows
      rw [addIncrement]
      by_cases htarget : row.1 = target
      · rw [if_pos htarget, tally_cons, tally_cons,
          component_mergeCounterIncrement hrow hincrement, htarget]
        split <;> omega
      · rw [if_neg htarget, tally_cons, tally_cons, ih hrest, Nat.add_assoc]

end

/-- What `refold` does: the first row that fits is taken out, and comes back at the end under its
folded key. -/
theorem refold_moves {counters : Counters} {fits : CounterKey → Bool} {endpoint : Bool}
    {refolded : CounterKey × Counters} (h : refold counters fits endpoint = some refolded) :
    ∃ before row after, counters = before ++ row :: after ∧ fits row.1 = true ∧
      refolded = (foldedKey row.1 endpoint,
        before ++ after ++ [(foldedKey row.1 endpoint, mergeCounterIncrement {} row.2)]) := by
  rw [refold, Option.map_eq_some_iff] at h
  obtain ⟨row, hrow, rfl⟩ := h
  obtain ⟨hfits, before, after, rfl, hbefore⟩ := List.find?_eq_some_iff_append.mp hrow
  have hkept : ∀ other ∈ before, ¬fits other.1 = true := by
    intro other hother
    simpa using hbefore other hother
  refine ⟨before, row, after, rfl, hfits, ?_⟩
  rw [List.eraseP_append_right _ hkept,
    List.eraseP_cons_of_pos (p := fun row : CounterKey × CounterRow => fits row.1) hfits]

/-- What the ladder does to the rows: nothing, or one refold. -/
theorem counterTarget_cases (counters : Counters) (key : CounterKey) :
    (counterTarget counters key).2 = counters ∨
      ∃ fits endpoint, refold counters fits endpoint = some (counterTarget counters key) := by
  unfold counterTarget
  split
  · exact .inl rfl
  · split
    · exact .inl rfl
    · split
      · rename_i refolded hrefold
        exact .inr ⟨_, _, hrefold⟩
      · split
        · exact .inl rfl
        · split
          · rename_i refolded hrefold
            exact .inr ⟨_, _, hrefold⟩
          · exact .inl rfl

/-- Choosing a target keeps the sums of the window, and keeps its rows within the bound. -/
theorem counterTarget_total {counters : Counters} (hrows : RowsWithin counters)
    (key : CounterKey) :
    RowsWithin (counterTarget counters key).2 ∧
      ∀ c, total (counterTarget counters key).2 c = total counters c := by
  rcases counterTarget_cases counters key with hsame | ⟨fits, endpoint, hrefold⟩
  · rw [hsame]
    exact ⟨hrows, fun _ => rfl⟩
  · obtain ⟨before, row, after, rfl, -, hrefolded⟩ := refold_moves hrefold
    rw [RowsWithin, List.forall_mem_append, List.forall_mem_cons] at hrows
    obtain ⟨hbefore, hrow, hafter⟩ := hrows
    -- The row that moves is an increment to an empty row.
    have hmoved : ∀ c, component (mergeCounterIncrement {} row.2) c = component row.2 c :=
      component_mergeDefault hrow
    rw [hrefolded]
    constructor
    · rw [RowsWithin, List.forall_mem_append, List.forall_mem_append, List.forall_mem_singleton]
      exact ⟨⟨hbefore, hafter⟩, fun c => (hmoved c).trans_le (hrow c)⟩
    · intro c
      simp only [total, tally_append, tally_cons, tally_nil, if_true, hmoved]
      omega

/-- One turn of the merge loop adds the increment to the sums of the window. -/
theorem mergeCounter_total {counters : Counters} {entry : CounterKey × CounterRow}
    (hrows : RowsWithin counters) (hentry : RowWithin entry.2) (c : Component) :
    total (mergeCounter counters entry) c = total counters c + component entry.2 c := by
  obtain ⟨hrows', htotal⟩ := counterTarget_total hrows entry.1
  rw [mergeCounter_eq, total, tally_addIncrement hrows' hentry, if_pos rfl]
  exact congrArg (· + component entry.2 c) (htotal c)

/-! ## The window over a whole run -/

/-- The rows that a list of increments makes of an empty window. -/
def windowOf (increments : Counters) : Counters := increments.foldl mergeCounter []

/-- The window after one more increment. -/
theorem windowOf_concat (increments : Counters) (entry : CounterKey × CounterRow) :
    windowOf (increments ++ [entry]) = mergeCounter (windowOf increments) entry :=
  List.foldl_concat ..

/-- No component passes the bound: not in an increment, and not in a row of the window, at any
point of the run. -/
def Within (increments : Counters) : Prop :=
  RowsWithin increments ∧ ∀ initial ∈ increments.inits, RowsWithin (windowOf initial)

instance (increments : Counters) : Decidable (Within increments) :=
  inferInstanceAs (Decidable
    (RowsWithin increments ∧ ∀ initial ∈ increments.inits, RowsWithin (windowOf initial)))

/-- A run within the bound was within it before its last increment. -/
theorem Within.init {increments : Counters} {entry : CounterKey × CounterRow}
    (h : Within (increments ++ [entry])) :
    Within increments ∧ RowsWithin (windowOf increments) ∧ RowWithin entry.2 := by
  obtain ⟨hrows, hwindows⟩ := h
  rw [RowsWithin, List.forall_mem_append, List.forall_mem_singleton] at hrows
  have hinitial : ∀ initial ∈ increments.inits, RowsWithin (windowOf initial) := by
    intro initial hmem
    rw [List.mem_inits] at hmem
    exact hwindows initial ((List.mem_inits _ _).mpr (hmem.trans (List.prefix_append _ _)))
  have hlast := hinitial increments ((List.mem_inits _ _).mpr (List.prefix_refl _))
  exact ⟨⟨hrows.1, hinitial⟩, hlast, hrows.2⟩

/-- The window holds the sums of the increments. -/
theorem windowOf_total {increments : Counters} (h : Within increments) (c : Component) :
    total (windowOf increments) c = total increments c := by
  induction increments using List.reverseRecOn with
  | nil => rfl
  | append_singleton increments entry ih =>
      obtain ⟨hinit, hrows, hentry⟩ := h.init
      rw [windowOf_concat, mergeCounter_total hrows hentry, ih hinit, total, total, tally_append,
        tally_singleton, if_pos rfl]

/-- A component of one row is at most its sum over the rows, so that a bound on the sums is one on
every row. -/
theorem component_le_total {counters : Counters} {row : CounterKey × CounterRow}
    (hrow : row ∈ counters) (c : Component) : component row.2 c ≤ total counters c := by
  have hfilter : (counters.filter fun _ => true) = counters := List.filter_true counters
  rw [total, tally, hfilter]
  exact List.le_sum_of_mem (List.mem_map_of_mem hrow)

/-- Increments whose sums are within the bound stay within it at every point of the run, however
they are folded: no row of a window exceeds what the window holds in all. -/
theorem within_of_total {increments : Counters} (h : ∀ c, total increments c ≤ maxCount) :
    Within increments := by
  induction increments using List.reverseRecOn with
  | nil => decide
  | append_singleton increments entry ih =>
      have hsplit : ∀ c, total (increments ++ [entry]) c =
          total increments c + component entry.2 c := by
        intro c
        rw [total, tally_append, tally_singleton, if_pos rfl]
        rfl
      have hinit : Within increments := ih fun c => by
        have hsum := h c
        rw [hsplit] at hsum
        omega
      have hentry : RowWithin entry.2 := fun c =>
        (component_le_total (List.mem_append_right _ (List.mem_singleton_self _)) c).trans (h c)
      refine ⟨fun row hrow c => (component_le_total hrow c).trans (h c), ?_⟩
      intro initial hinitial
      rw [List.inits_append, List.mem_append] at hinitial
      rcases hinitial with hbefore | hlast
      · exact hinit.2 initial hbefore
      · -- The whole run: its window holds the sums of the increments.
        obtain rfl : initial = increments ++ [entry] := by simpa using hlast
        intro row hrow c
        have hrows := hinit.2 increments ((List.mem_inits _ _).mpr (List.prefix_refl _))
        have hle := component_le_total hrow c
        rw [windowOf_concat, mergeCounter_total hrows hentry, windowOf_total hinit, ← hsplit] at hle
        exact hle.trans (h c)

/-- The window keeps to its cap, with one row a key. -/
theorem windowOf_ok (increments : Counters) : CountersOk (windowOf increments) := by
  induction increments using List.reverseRecOn with
  | nil => exact ⟨List.nodup_nil, Nat.zero_le _⟩
  | append_singleton increments entry ih =>
      rw [windowOf_concat]
      exact mergeCounter_ok ih entry

/-! ## Few keys -/

/-- A key that the window has, or has room for, is its own target. -/
theorem counterTarget_of_room {counters : Counters} {key : CounterKey}
    (h : key ∈ keys counters ∨ counters.length < maxWindowKeys) :
    counterTarget counters key = (key, counters) := by
  have hroom : (hasKey counters key || decide (counters.length < maxWindowKeys)) = true := by
    rw [Bool.or_eq_true, hasKey_iff, decide_eq_true_eq]
    exact h
  rw [counterTarget, if_pos hroom]

/-- Distinct keys of a run, as many as the window has rows, as long as the window has the keys of
its increments. -/
theorem length_windowOf {increments : Counters}
    (h : ∀ key, key ∈ keys (windowOf increments) ↔ key ∈ keys increments) :
    (windowOf increments).length = (keys increments).dedup.length := by
  rw [← length_keys]
  refine List.Perm.length_eq ?_
  rw [List.perm_ext_iff_of_nodup (windowOf_ok increments).keys (List.nodup_dedup _)]
  intro key
  rw [List.mem_dedup]
  exact h key

/-- While there are few keys, the next increment finds its own key, or room for it. -/
theorem room_of_few {increments : Counters} {entry : CounterKey × CounterRow}
    (hkeys : ∀ key, key ∈ keys (windowOf increments) ↔ key ∈ keys increments)
    (hfew : (keys (increments ++ [entry])).dedup.length ≤ maxWindowKeys) :
    entry.1 ∈ keys (windowOf increments) ∨ (windowOf increments).length < maxWindowKeys := by
  by_cases hmem : entry.1 ∈ keys (windowOf increments)
  · exact .inl hmem
  · right
    have hnew : entry.1 ∉ keys increments := mt (hkeys entry.1).mpr hmem
    have hperm :
        (keys (increments ++ [entry])).dedup.Perm (entry.1 :: (keys increments).dedup) := by
      rw [List.perm_ext_iff_of_nodup (List.nodup_dedup _)
        (List.nodup_cons.mpr ⟨mt List.mem_dedup.mp hnew, List.nodup_dedup _⟩)]
      intro key
      rw [List.mem_dedup, List.mem_cons, List.mem_dedup, keys, List.map_append, List.mem_append,
        List.map_singleton, List.mem_singleton, or_comm]
      rfl
    have hlength := hperm.length_eq
    rw [List.length_cons, ← length_windowOf hkeys] at hlength
    omega

/-- With fewer increments there are not more keys. -/
theorem few_init {increments : Counters} {entry : CounterKey × CounterRow}
    (hfew : (keys (increments ++ [entry])).dedup.length ≤ maxWindowKeys) :
    (keys increments).dedup.length ≤ maxWindowKeys := by
  refine Nat.le_trans ?_ hfew
  refine (List.subperm_of_subset (List.nodup_dedup _) ?_).length_le
  intro key hkey
  rw [List.mem_dedup] at hkey ⊢
  rw [keys, List.map_append]
  exact List.mem_append_left _ hkey

/-- While there are few keys, the window has exactly the keys of the increments. -/
theorem mem_keys_windowOf {increments : Counters}
    (hfew : (keys increments).dedup.length ≤ maxWindowKeys) (key : CounterKey) :
    key ∈ keys (windowOf increments) ↔ key ∈ keys increments := by
  induction increments using List.reverseRecOn generalizing key with
  | nil => rfl
  | append_singleton increments entry ih =>
      have hkeys := ih (few_init hfew)
      have hroom := counterTarget_of_room (room_of_few hkeys hfew)
      have hright : key ∈ keys (increments ++ [entry]) ↔ key ∈ keys increments ∨ key = entry.1 := by
        rw [keys, List.map_append, List.mem_append, List.map_singleton, List.mem_singleton]
        rfl
      rw [windowOf_concat, mergeCounter_eq, hroom, keys_addIncrement, hright, ← hkeys key]
      split
      · rename_i hmem
        refine ⟨Or.inl, ?_⟩
        rintro (hkey | rfl)
        · exact hkey
        · exact hmem
      · rw [List.mem_append, List.mem_singleton]

/-- While there are few keys, the rows of a key hold the sums of its own increments: nothing is
folded, so no count goes to another key. -/
theorem windowOf_own {increments : Counters} (h : Within increments)
    (hfew : (keys increments).dedup.length ≤ maxWindowKeys) (key : CounterKey) (c : Component) :
    own (windowOf increments) key c = own increments key c := by
  induction increments using List.reverseRecOn with
  | nil => rfl
  | append_singleton increments entry ih =>
      obtain ⟨hinit, hrows, hentry⟩ := h.init
      have hkeys := mem_keys_windowOf (few_init hfew)
      have hroom := counterTarget_of_room (room_of_few hkeys hfew)
      have hbefore := ih hinit (few_init hfew)
      unfold own at hbefore ⊢
      rw [windowOf_concat, mergeCounter_eq, hroom, tally_addIncrement hrows hentry, hbefore,
        tally_append, tally_singleton]

/-- Where keys are distinct, a row is all that its key has, so that a sum over one key is a single
row. -/
theorem own_of_mem {counters : Counters} {row : CounterKey × CounterRow}
    (hkeys : (keys counters).Nodup) (hrow : row ∈ counters) (c : Component) :
    own counters row.1 c = component row.2 c := by
  induction counters with
  | nil => cases hrow
  | cons first rest ih =>
      obtain ⟨hnew, hrest⟩ := List.nodup_cons.mp hkeys
      rw [own, tally_cons]
      rcases List.mem_cons.mp hrow with rfl | hmem
      · -- The keys differ, so no later row counts for this one.
        have hnone : tally (fun other => decide (other = row.1)) rest c = 0 := by
          have hempty : (rest.filter fun other => decide (other.1 = row.1)) = [] := by
            rw [List.filter_eq_nil_iff]
            intro other hother hsame
            rw [decide_eq_true_eq] at hsame
            exact hnew (hsame ▸ List.mem_map_of_mem hother)
          rw [tally, hempty]
          rfl
        rw [hnone, if_pos (decide_eq_true rfl), Nat.add_zero]
      · have hother : ¬decide (first.1 = row.1) = true := by
          rw [decide_eq_true_eq]
          intro hsame
          exact hnew (hsame ▸ List.mem_map_of_mem hmem)
        rw [if_neg hother, Nat.zero_add]
        exact ih hrest hmem

/-! ## The open window of the reporter -/

/-- What folding keeps of the increments. -/
structure Kept (increments window : Counters) : Prop where
  /-- Every component has the sum of the increments. -/
  sums : ∀ c, total window c = total increments c
  /-- The keys are pairwise distinct. -/
  distinct : (keys window).Nodup
  /-- The rows keep to the cap. -/
  length : window.length ≤ maxWindowKeys
  /-- While few keys have been seen, each has one row, the sum of its own increments. -/
  exact : (keys increments).dedup.length ≤ maxWindowKeys →
    (∀ key, key ∈ keys window ↔ key ∈ keys increments) ∧
      ∀ row ∈ window, ∀ c, component row.2 c = own increments row.1 c

/-- Whatever `merge_counters` is given for one open window, in however many calls: as long as no
component passes the bound, folding keeps every count. With few keys each key keeps its own, and
with many the sums of the window are kept. -/
theorem mergeCounters_kept (calls : List Counters) (state : State)
    (hopen : state.currentCounters = []) (hwithin : Within calls.flatten) :
    Kept calls.flatten
      (calls.foldl (fun state counters => mergeCounters counters state) state).currentCounters := by
  have hwindow : (calls.foldl (fun state counters => mergeCounters counters state)
      state).currentCounters = windowOf calls.flatten := by
    rw [windowOf, ← hopen]
    clear hopen hwithin
    induction calls generalizing state with
    | nil => rfl
    | cons counters rest ih =>
        rw [List.foldl_cons, ih, List.flatten_cons, List.foldl_append]
        rfl
  rw [hwindow]
  refine ⟨windowOf_total hwithin, (windowOf_ok _).keys, (windowOf_ok _).length, ?_⟩
  intro hfew
  refine ⟨mem_keys_windowOf hfew, ?_⟩
  intro row hrow c
  rw [← own_of_mem (windowOf_ok _).keys hrow, windowOf_own hwithin hfew]

/-- The increment of such a call. -/
def firstIncrement : CounterRow where
  requests := 1
  attempts := 1
  firstAttemptSuccess := 1
  totalMsHist := [(.lt200, 1)]

/-- The key of an attempt that did not reach its host. -/
def failedKey (endpoint : Endpoint) (host : Host) (errorClass : ErrorClass) : CounterKey :=
  { firstKey with
    level := .attempt
    endpoint := endpoint
    host := host
    outcome := .transportError
    errorClass := some errorClass
    httpStatusClass := .none }

/-- The increment of one attempt. -/
def failedIncrement : CounterRow where
  requests := 1
  attempts := 1

/-- The hosts that attempts can name. -/
def crowdHosts : List Host :=
  [.apex, .ally, .uptime, .usCentral1, .usEast4, .europeWest4, .control, .custom]

/-- Where the attempts of the crowd go, and how they end. -/
def crowdParts : List (Endpoint × Host × ErrorClass) :=
  ([.chatCompletions, .messages, .responses, .embeddings, .images, .videos, .models, .fusion,
    .controlOther, .inferenceOther] : List Endpoint) ×ˢ
      (crowdHosts ×ˢ ([.dns, .tls, .reset, .ioError] : List ErrorClass))

/-- One failed attempt for every endpoint, host and error class: more keys than a window has
rows. -/
def crowd : Counters :=
  crowdParts.map fun part => (failedKey part.1 part.2.1 part.2.2, failedIncrement)

/-- The keys of the crowd are distinct, so a window has to fold. -/
theorem crowd_overflows : maxWindowKeys < (keys crowd).dedup.length := by
  have hparts : crowdParts.Nodup :=
    List.Nodup.product (by decide) (List.Nodup.product (by decide) (by decide))
  have hkeys : keys crowd = crowdParts.map fun part => failedKey part.1 part.2.1 part.2.2 :=
    List.map_map
  have hnodup : (keys crowd).Nodup := by
    rw [hkeys]
    refine hparts.map ?_
    intro a b hsame
    simp only [failedKey, CounterKey.mk.injEq, Option.some.injEq, true_and, and_true] at hsame
    exact Prod.ext hsame.1 (Prod.ext hsame.2.1 hsame.2.2)
  rw [hnodup.dedup, hkeys, List.length_map, crowdParts, List.length_product, List.length_product]
  decide

/-- Two calls, the second with a row for its attempt as well, and then the crowd: 323 increments
and 322 keys, in a window that has room for 256 of them. -/
theorem mergeCounters_kept_crowd :
    maxWindowKeys < (keys crowd).dedup.length ∧
      (State.new none 0 "instance").currentCounters = [] ∧
      Kept [[(firstKey, firstIncrement)], [(firstKey, firstIncrement),
          ({ firstKey with level := .attempt }, firstIncrement)], crowd].flatten
        ([[(firstKey, firstIncrement)], [(firstKey, firstIncrement),
            ({ firstKey with level := .attempt }, firstIncrement)], crowd].foldl
          (fun state counters => mergeCounters counters state)
          (State.new none 0 "instance")).currentCounters ∧
      total ([[(firstKey, firstIncrement)], [(firstKey, firstIncrement),
            ({ firstKey with level := .attempt }, firstIncrement)], crowd].foldl
          (fun state counters => mergeCounters counters state)
          (State.new none 0 "instance")).currentCounters .requests = 323 := by
  have hsums : ∀ c ∈ components, total [[(firstKey, firstIncrement)], [(firstKey, firstIncrement),
      ({ firstKey with level := .attempt }, firstIncrement)], crowd].flatten c ≤ maxCount := by
    decide +kernel
  have hkept := mergeCounters_kept [[(firstKey, firstIncrement)], [(firstKey, firstIncrement),
      ({ firstKey with level := .attempt }, firstIncrement)], crowd] (State.new none 0 "instance")
    rfl (within_of_total fun c => hsums c (mem_components c))
  exact ⟨crowd_overflows, rfl, hkept, (hkept.sums .requests).trans (by decide +kernel)⟩

end TrustedRouter.Proofs.Telemetry.Conservation
