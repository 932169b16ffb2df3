import TrustedRouter.Proofs.Telemetry.Counters
import TrustedRouter.Proofs.Telemetry.Windows

/-!
# `TrustedRouter.Proofs.Telemetry.Retire`: what `remove_selected` removes

`remove_selected` looks a row up by its window's id and its key. In a list of windows that is
`WindowsOk`, ids and keys are unique, so a lookup finds the one row that is meant. Then the
two loops come to one filter a window (`removeSelected_eq`): the named rows go, every other
row stays where it is, the sizes are those of what is left, and a window without rows goes
too.
-/

set_option autoImplicit false

namespace TrustedRouter.Proofs.Telemetry

open TrustedRouter.Telemetry

/-- A closed window: it has rows, under distinct keys, and its size is theirs. -/
structure WindowOk (library : Library) (window : CounterWindow) : Prop where
  nonempty : window.rows ≠ []
  rows : CountersOk window.rows
  size : window.sizeBytes = library.windowSize window.rows

/-- The closed windows: in the order of their ids, all of them accounted. -/
structure WindowsOk (library : Library) (windows : List CounterWindow)
    (retained nextId : Nat) : Prop where
  ids : (windows.map CounterWindow.id).Pairwise (· < ·)
  below : ∀ window ∈ windows, window.id < nextId
  each : ∀ window ∈ windows, WindowOk library window
  retained : retained = sizes windows

/-! ## One row -/

/-- The window without the rows that `refs` name. -/
def keepRows (refs : List CounterRef) (window : CounterWindow) : CounterWindow :=
  { window with rows := window.rows.filter fun row => !refs.contains (window.id, row.1) }

/-- No references take nothing out. -/
theorem keepRows_nil (window : CounterWindow) : keepRows [] window = window := by
  simp [keepRows]

/-- References are applied one after the other, which is what the first loop of `remove_selected`
does. -/
theorem keepRows_cons (ref : CounterRef) (refs : List CounterRef) (window : CounterWindow) :
    keepRows refs (keepRows [ref] window) = keepRows (ref :: refs) window := by
  simp only [keepRows, List.filter_filter, CounterWindow.mk.injEq, true_and, and_true]
  apply List.filter_congr
  intro row _
  rw [List.contains_cons, List.contains_cons, List.contains_nil, Bool.or_false, Bool.not_or,
    Bool.and_comm]

/-- A reference to another window takes nothing out of this one. -/
theorem keepRows_of_id_ne {ref : CounterRef} {window : CounterWindow}
    (h : window.id ≠ ref.1) : keepRows [ref] window = window := by
  have hkeep : (window.rows.filter fun row => !(List.contains [ref] (window.id, row.1))) =
      window.rows := by
    rw [List.filter_eq_self]
    intro row _
    have hne : (window.id, row.1) ≠ ref := fun heq => h (congrArg Prod.fst heq)
    simp [hne]
  rw [keepRows, hkeep]

/-- Taking the row of a key out of distinct keys is filtering by the key. -/
theorem eraseIdx_findIdx?_eq_filter {rows : Counters} {key : CounterKey} {position : Nat}
    (hkeys : (keys rows).Nodup) (h : (rows.findIdx? fun row => row.1 == key) = some position) :
    rows.eraseIdx position = rows.filter fun row => row.1 != key := by
  induction rows generalizing position with
  | nil => cases h
  | cons row rest ih =>
      obtain ⟨hnew, hrest⟩ := List.nodup_cons.mp hkeys
      rw [List.findIdx?_cons] at h
      by_cases hrow : row.1 = key
      · rw [if_pos (beq_iff_eq.mpr hrow)] at h
        cases h
        have hother : ∀ other ∈ rest, (other.1 != key) = true := by
          intro other hother
          rw [bne_iff_ne]
          rintro rfl
          exact hnew (hrow ▸ List.mem_map_of_mem hother)
        rw [List.eraseIdx_zero, List.tail_cons, List.filter_cons_of_neg (by simp [hrow]),
          List.filter_eq_self.mpr hother]
      · rw [if_neg (by simpa using hrow), Option.map_eq_some_iff] at h
        obtain ⟨index, hindex, rfl⟩ := h
        rw [List.eraseIdx_cons_succ, ih hrest hindex, List.filter_cons_of_pos (by simpa using hrow)]

/-- The window that a reference names, without that row. -/
theorem keepRows_of_id_eq {ref : CounterRef} {window : CounterWindow}
    (h : window.id = ref.1) :
    keepRows [ref] window =
      { window with rows := window.rows.filter fun row => row.1 != ref.2 } := by
  simp only [keepRows, CounterWindow.mk.injEq, true_and, and_true]
  apply List.filter_congr
  intro row _
  obtain ⟨id, key⟩ := ref
  cases h
  by_cases hkey : row.1 = key
  · simp [hkey]
  · simp [hkey]

/-- Removing one row is filtering every window, if ids and keys are unique. -/
theorem removeRow_eq (ref : CounterRef) {windows : List CounterWindow}
    (hids : (windows.map CounterWindow.id).Nodup)
    (hkeys : ∀ window ∈ windows, (keys window.rows).Nodup) :
    (removeRow ref windows).1 = windows.map (keepRows [ref]) ∧
      ((removeRow ref windows).2 = true ↔
        ∃ window ∈ windows, window.id = ref.1 ∧ ref.2 ∈ keys window.rows) := by
  induction windows with
  | nil => simp [removeRow]
  | cons window rest ih =>
      obtain ⟨hnew, hrest⟩ := List.nodup_cons.mp hids
      have hwindow := hkeys window (List.mem_cons_self ..)
      by_cases hid : window.id = ref.1
      · -- No other window has this id, so the rest stays as it is.
        have hothers : ∀ other ∈ rest, other.id ≠ ref.1 := by
          intro other hother heq
          exact hnew (hid ▸ heq ▸ List.mem_map_of_mem hother)
        have hsame : rest.map (keepRows [ref]) = rest := by
          rw [List.map_congr_left fun other hother => keepRows_of_id_ne (hothers other hother),
            List.map_id']
        have hexists : (∃ other ∈ window :: rest, other.id = ref.1 ∧ ref.2 ∈ keys other.rows) ↔
            ref.2 ∈ keys window.rows := by
          refine ⟨?_, fun hmem => ⟨window, List.mem_cons_self .., hid, hmem⟩⟩
          rintro ⟨other, hother, heq, hmem⟩
          rcases List.mem_cons.mp hother with rfl | hother
          · exact hmem
          · exact absurd heq (hothers other hother)
        rw [hexists, removeRow, if_pos hid, List.map_cons, hsame, keepRows_of_id_eq hid]
        -- The row is there and is erased, or it is not and nothing changes.
        cases hfind : window.rows.findIdx? fun row => row.1 == ref.2 with
        | some position =>
            refine ⟨?_, ?_⟩
            · dsimp only
              rw [eraseIdx_findIdx?_eq_filter hwindow hfind]
            · obtain ⟨hlt, hrow, -⟩ := List.findIdx?_eq_some_iff_getElem.mp hfind
              have hmem : ref.2 ∈ keys window.rows := by
                rw [← beq_iff_eq.mp hrow]
                exact List.mem_map_of_mem (List.getElem_mem hlt)
              exact iff_of_true rfl hmem
        | none =>
            rw [List.findIdx?_eq_none_iff] at hfind
            refine ⟨?_, ?_⟩
            · have hall : ∀ row ∈ window.rows, (row.1 != ref.2) = true := by
                intro row hrow
                rw [bne, hfind row hrow]
                rfl
              dsimp only
              rw [List.filter_eq_self.mpr hall]
            · refine iff_of_false Bool.false_ne_true ?_
              intro hmem
              obtain ⟨row, hrow, heq⟩ := List.mem_map.mp hmem
              have hbeq := hfind row hrow
              rw [heq, beq_self_eq_true] at hbeq
              cases hbeq
      · obtain ⟨hmap, hremoved⟩ :=
          ih hrest fun other hother => hkeys other (List.mem_cons_of_mem _ hother)
        rw [removeRow, if_neg hid, List.map_cons, keepRows_of_id_ne hid]
        refine ⟨congrArg (window :: ·) hmap, hremoved.trans ?_⟩
        refine ⟨fun ⟨other, hother, h⟩ => ⟨other, List.mem_cons_of_mem _ hother, h⟩, ?_⟩
        rintro ⟨other, hother, heq, hmem⟩
        rcases List.mem_cons.mp hother with rfl | hother
        · exact absurd heq hid
        · exact ⟨other, hother, heq, hmem⟩

/-! ## All rows -/

/-- Keeping some of the rows keeps the keys distinct. -/
theorem keepRows_keys_nodup (refs : List CounterRef) {window : CounterWindow}
    (h : (keys window.rows).Nodup) : (keys (keepRows refs window).rows).Nodup :=
  (List.filter_sublist.map Prod.fst).nodup h

/-- A row of `window` was named by `refs`. -/
def Named (refs : List CounterRef) (window : CounterWindow) : Prop :=
  ∃ row ∈ window.rows, (window.id, row.1) ∈ refs

/-- One reference names a row of a window when it has its id and the row's key. -/
theorem named_singleton {ref : CounterRef} {window : CounterWindow} :
    Named [ref] window ↔ window.id = ref.1 ∧ ref.2 ∈ keys window.rows := by
  obtain ⟨id, key⟩ := ref
  simp [Named, keys, and_comm]

/-- A window is named by the first reference, or by the others in what the first leaves. -/
theorem named_cons {ref : CounterRef} {refs : List CounterRef} {window : CounterWindow} :
    Named (ref :: refs) window ↔ Named [ref] window ∨ Named refs (keepRows [ref] window) := by
  refine ⟨?_, ?_⟩
  · rintro ⟨row, hrow, hmem⟩
    by_cases heq : (window.id, row.1) = ref
    · exact .inl ⟨row, hrow, List.mem_singleton.mpr heq⟩
    · have hkept : row ∈ (keepRows [ref] window).rows :=
        List.mem_filter.mpr ⟨hrow, by simpa using heq⟩
      exact .inr ⟨row, hkept, (List.mem_cons.mp hmem).resolve_left heq⟩
  · rintro (⟨row, hrow, hmem⟩ | ⟨row, hrow, hmem⟩)
    · exact ⟨row, hrow, List.mem_cons.mpr (.inl (List.mem_singleton.mp hmem))⟩
    · exact ⟨row, (List.mem_filter.mp hrow).1, List.mem_cons_of_mem _ hmem⟩

/-- A window without named rows is kept as it is, so that the source need not measure it again. -/
theorem keepRows_of_not_named {refs : List CounterRef} {window : CounterWindow}
    (h : ¬ Named refs window) : keepRows refs window = window := by
  have hkeep : (window.rows.filter fun row => !refs.contains (window.id, row.1)) =
      window.rows := by
    rw [List.filter_eq_self]
    intro row hrow
    have hnot : (window.id, row.1) ∉ refs := fun hmem => h ⟨row, hrow, hmem⟩
    simpa using hnot
  rw [keepRows, hkeep]

/-- One turn of the first loop: the windows are filtered, and the id is noted if a row was
removed. -/
theorem removeNext_eq (ref : CounterRef) {windows : List CounterWindow} (changed : List Nat)
    (hids : (windows.map CounterWindow.id).Nodup)
    (hkeys : ∀ window ∈ windows, (keys window.rows).Nodup) :
    (removeNext (windows, changed) ref).1 = windows.map (keepRows [ref]) ∧
      ∀ window ∈ windows, window.id ∈ (removeNext (windows, changed) ref).2 ↔
        window.id ∈ changed ∨ Named [ref] window := by
  obtain ⟨hmap, hremoved⟩ := removeRow_eq ref hids hkeys
  refine ⟨hmap, fun window hwindow => ?_⟩
  show window.id ∈ (if (removeRow ref windows).2 then ref.1 :: changed else changed) ↔ _
  rw [named_singleton]
  split
  · rename_i h
    obtain ⟨other, hother, hid, hkey⟩ := hremoved.mp h
    refine List.mem_cons.trans (or_comm.trans (or_congr_right ?_))
    refine ⟨fun heq => ⟨heq, ?_⟩, And.left⟩
    -- Ids are unique, so the window the row was found in is this one.
    rw [List.inj_on_of_nodup_map hids hwindow hother (heq.trans hid.symm)]
    exact hkey
  · rename_i h
    refine (or_iff_left ?_).symm
    exact fun hnamed => h (hremoved.mpr ⟨window, hwindow, hnamed⟩)

/-- The first loop filters every window. A window has changed if one of its rows was
named. The induction carries the ids that changed before. -/
theorem foldl_removeNext_eq (refs : List CounterRef) {windows : List CounterWindow}
    (changed : List Nat) (hids : (windows.map CounterWindow.id).Nodup)
    (hkeys : ∀ window ∈ windows, (keys window.rows).Nodup) :
    (refs.foldl removeNext (windows, changed)).1 = windows.map (keepRows refs) ∧
      ∀ window ∈ windows, window.id ∈ (refs.foldl removeNext (windows, changed)).2 ↔
        window.id ∈ changed ∨ Named refs window := by
  induction refs generalizing windows changed with
  | nil =>
      refine ⟨?_, fun window _ => by simp [Named]⟩
      rw [List.foldl_nil, List.map_congr_left fun window _ => keepRows_nil window,
        List.map_id']
  | cons ref refs ih =>
      obtain ⟨hmap, hchanged⟩ := removeNext_eq ref changed hids hkeys
      rcases hnext : removeNext (windows, changed) ref with ⟨windows', changed'⟩
      rw [hnext] at hmap hchanged
      dsimp only at hmap hchanged
      subst hmap
      -- The windows keep their ids and distinct keys, so the rest of the loop applies.
      have hids' : ((windows.map (keepRows [ref])).map CounterWindow.id).Nodup := by
        rw [List.map_map]
        exact hids
      have hkeys' : ∀ window ∈ windows.map (keepRows [ref]), (keys window.rows).Nodup := by
        intro window hwindow
        obtain ⟨before, hbefore, rfl⟩ := List.mem_map.mp hwindow
        exact keepRows_keys_nodup [ref] (hkeys before hbefore)
      obtain ⟨hrest, hlater⟩ := ih changed' hids' hkeys'
      rw [List.foldl_cons, hnext]
      refine ⟨?_, fun window hwindow => ?_⟩
      · rw [hrest, List.map_map]
        exact List.map_congr_left fun window _ => keepRows_cons ref refs window
      · have hthis := hlater _ (List.mem_map_of_mem hwindow)
        rw [named_cons, ← or_assoc, ← hchanged window hwindow]
        exact hthis

/-- The window after its size was brought up to date, if it changed. -/
def resized (library : Library) (changed : List Nat) (window : CounterWindow) :
    CounterWindow :=
  if changed.contains window.id then
    { window with
      sizeBytes := if window.rows.isEmpty then 0 else library.windowSize window.rows }
  else window

/-- The second loop resizes every window. -/
theorem resizeWindows_eq (library : Library) (changed : List Nat)
    (windows : List CounterWindow) (rest : Nat) :
    resizeWindows library changed windows (rest + sizes windows) =
      (windows.map (resized library changed),
        rest + sizes (windows.map (resized library changed))) := by
  induction windows generalizing rest with
  | nil => rfl
  | cons window later ih =>
      rw [List.map_cons, sizes_cons, sizes_cons]
      by_cases h : changed.contains window.id = true
      · -- The window is measured again: its old bytes go, and the new ones come.
        have hbytes : rest + (window.sizeBytes + sizes later) - window.sizeBytes +
            (if window.rows.isEmpty then 0 else library.windowSize window.rows) =
              rest + (if window.rows.isEmpty then 0 else library.windowSize window.rows) +
                sizes later := by
          omega
        rw [resizeWindows, if_pos h]
        dsimp only
        rw [hbytes, ih, resized, if_pos h, Nat.add_assoc]
      · have hbytes : rest + (window.sizeBytes + sizes later) =
            rest + window.sizeBytes + sizes later := by
          omega
        rw [resizeWindows, if_neg h, hbytes, ih, resized, if_neg h, Nat.add_assoc]

/-! ## `remove_selected` -/

/-- A window without the rows that `refs` name, with the size of what is left. -/
def retire (library : Library) (refs : List CounterRef) (window : CounterWindow) :
    CounterWindow :=
  { keepRows refs window with
    sizeBytes :=
      if (keepRows refs window).rows.isEmpty then 0
      else library.windowSize (keepRows refs window).rows }

/-- The windows without the rows that `refs` name, and without those left empty. -/
def retired (library : Library) (refs : List CounterRef) (windows : List CounterWindow) :
    List CounterWindow :=
  (windows.map (retire library refs)).filter fun window => !window.rows.isEmpty

/-- Windows without rows have no size, so leaving them out gives back nothing more. -/
theorem sizes_retired (library : Library) (refs : List CounterRef)
    (windows : List CounterWindow) :
    sizes (retired library refs windows) = sizes (windows.map (retire library refs)) := by
  induction windows with
  | nil => rfl
  | cons window rest ih =>
      rw [retired, List.map_cons, List.filter_cons]
      by_cases h : (keepRows refs window).rows.isEmpty = true
      · rw [if_neg (by simpa [retire] using h), sizes_cons]
        rw [show (retire library refs window).sizeBytes = 0 from if_pos h, Nat.zero_add]
        exact ih
      · rw [if_pos (by simpa [retire] using h), sizes_cons, sizes_cons]
        exact congrArg _ ih

/-- `remove_selected` on well-formed windows: two filters, and the sizes of what is left. The
two loops of the source, the list of changed ids and the running total of bytes are gone from
here on. -/
theorem removeSelected_eq {library : Library} {state : State}
    (h : WindowsOk library state.closedWindows state.retainedWindowBytes state.nextWindowId)
    (eventIds : List Nat) (refs : List CounterRef) :
    removeSelected library eventIds refs state =
      { state with
        events := state.events.filter fun buffered => !eventIds.contains buffered.id
        eventsSizeBytes :=
          ((state.events.filter fun buffered => !eventIds.contains buffered.id).map
            BufferedEvent.estimatedBytes).sum
        closedWindows := retired library refs state.closedWindows
        retainedWindowBytes := sizes (retired library refs state.closedWindows) } := by
  have hids : (state.closedWindows.map CounterWindow.id).Nodup := h.ids.imp Nat.ne_of_lt
  obtain ⟨hmap, hchanged⟩ := foldl_removeNext_eq refs [] hids
    fun window hwindow => (h.each window hwindow).rows.keys
  rcases hloop : removeRows refs state.closedWindows with ⟨windows, changed⟩
  rw [show refs.foldl removeNext (state.closedWindows, []) = (windows, changed) from hloop]
    at hmap hchanged
  dsimp only at hmap hchanged
  subst hmap
  -- A window that did not change has its size already.
  have hretire : (state.closedWindows.map (keepRows refs)).map (resized library changed) =
      state.closedWindows.map (retire library refs) := by
    rw [List.map_map]
    apply List.map_congr_left
    intro window hwindow
    have hiff : (keepRows refs window).id ∈ changed ↔ window.id ∈ [] ∨ Named refs window :=
      hchanged window hwindow
    rw [Function.comp_apply, resized]
    by_cases hnamed : Named refs window
    · rw [if_pos (List.contains_iff_mem.mpr (hiff.mpr (.inr hnamed)))]
      rfl
    · have hsame := keepRows_of_not_named hnamed
      have hok := h.each window hwindow
      rw [if_neg, retire, hsame, if_neg (by simpa using hok.nonempty), ← hok.size]
      rw [List.contains_iff_mem]
      intro hmem
      rcases hiff.mp hmem with hnil | hnamed'
      · cases hnil
      · exact hnamed hnamed'
  have hkept : sizes (state.closedWindows.map (keepRows refs)) = sizes state.closedWindows := by
    rw [sizes, List.map_map]
    rfl
  have hresize := resizeWindows_eq library changed (state.closedWindows.map (keepRows refs)) 0
  rw [Nat.zero_add, Nat.zero_add, hretire, hkept, ← h.retained] at hresize
  unfold removeSelected
  rw [hloop]
  dsimp only
  rw [hresize, sizes_retired]
  rfl

end TrustedRouter.Proofs.Telemetry
