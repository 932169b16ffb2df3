import Mathlib

/-!
# `TrustedRouter.Lib.Ledger`: where named items went

A store takes items in and lets them go again, and says of each that it was delivered,
dropped or cleared. A `Book` is the list of the names for each of these. It is `Balanced`
with what the store holds if every name that was taken in is in exactly one place.

Taking new names in, and letting held names go, keep a book balanced. That a name is only let
go once, and only while it is held, is what a store has to see to.
-/

set_option autoImplicit false

namespace Ledger

variable {α ι : Type}

/-! ## Items that are gone -/

section
variable [BEq ι] [LawfulBEq ι] (name : α → ι)

/-- The items of `items` whose name is not in `later`. -/
def missing (items later : List α) : List α :=
  items.filter fun item => !(later.map name).contains (name item)

/-- An item is missing when no later item has its name. -/
theorem mem_missing {items later : List α} {item : α} :
    item ∈ missing name items later ↔ item ∈ items ∧ name item ∉ later.map name := by
  rw [missing, List.mem_filter, Bool.not_eq_true', ← Bool.not_eq_true, List.contains_iff_mem]

/-- Take items with distinct names apart into some that go and some whose names stay. Then those
that go are the missing ones. The order is left open, because an operation may rearrange what it
keeps. -/
theorem missing_perm {items gone stays later : List α} (hsplit : items.Perm (gone ++ stays))
    (hgone : ∀ item ∈ gone, name item ∉ later.map name)
    (hstays : ∀ item ∈ stays, name item ∈ later.map name) :
    (missing name items later).Perm gone := by
  have hkeep : gone.filter (fun item => !(later.map name).contains (name item)) = gone := by
    rw [List.filter_eq_self]
    intro item hitem
    rw [Bool.not_eq_true', ← Bool.not_eq_true, List.contains_iff_mem]
    exact hgone item hitem
  have hnone : stays.filter (fun item => !(later.map name).contains (name item)) = [] := by
    rw [List.filter_eq_nil_iff]
    intro item hitem
    rw [Bool.not_eq_true', ← Bool.not_eq_true, not_not, List.contains_iff_mem]
    exact hstays item hitem
  have hfiltered := hsplit.filter fun item => !(later.map name).contains (name item)
  rwa [List.filter_append, hkeep, hnone, List.append_nil] at hfiltered

omit [LawfulBEq ι] in
/-- Among distinct names, as many are missing at most as there are names they can have. The names
being distinct matters: two items of one name would be missing together. -/
theorem length_missing_le {items later : List α} {names : List ι}
    (hdistinct : (items.map name).Nodup)
    (hnames : ∀ item ∈ missing name items later, name item ∈ names) :
    (missing name items later).length ≤ names.length := by
  have hnodup : ((missing name items later).map name).Nodup :=
    (List.filter_sublist.map name).nodup hdistinct
  have hsub : (missing name items later).map name ⊆ names := by
    intro _ hmem
    obtain ⟨item, hitem, rfl⟩ := List.mem_map.mp hmem
    exact hnames item hitem
  have hlength := (List.subperm_of_subset hnodup hsub).length_le
  rwa [List.length_map] at hlength

/-- Names taken out of distinct names, and the names of the items that are left, are all the names
there were. -/
theorem perm_append_filter {items : List α} {names : List ι}
    (hdistinct : (items.map name).Nodup) (hnames : names.Nodup)
    (hsub : ∀ n ∈ names, n ∈ items.map name) :
    (items.map name).Perm
      (names ++ (items.filter fun item => !names.contains (name item)).map name) := by
  have htaken : ((items.map name).filter fun n => names.contains n).Perm names := by
    rw [List.perm_ext_iff_of_nodup (hdistinct.filter _) hnames]
    intro n
    rw [List.mem_filter, List.contains_iff_mem, and_iff_right_iff_imp]
    exact hsub n
  have hleft : ((items.map name).filter fun n => !names.contains n) =
      (items.filter fun item => !names.contains (name item)).map name := List.filter_map
  rw [← hleft]
  exact (List.filter_append_perm _ (items.map name)).symm.trans (htaken.append_right _)

end

/-! ## Books -/

/-- The names that were taken in, and those that went, by how they went. -/
structure Book (ι : Type) where
  entered : List ι := []
  delivered : List ι := []
  dropped : List ι := []
  cleared : List ι := []

namespace Book

/-- New names were taken in. -/
def enter (book : Book ι) (names : List ι) : Book ι :=
  { book with entered := book.entered ++ names }

/-- Names were delivered. -/
def deliver (book : Book ι) (names : List ι) : Book ι :=
  { book with delivered := names ++ book.delivered }

/-- Names were dropped. -/
def drop (book : Book ι) (names : List ι) : Book ι :=
  { book with dropped := names ++ book.dropped }

/-- Names were cleared. -/
def clear (book : Book ι) (names : List ι) : Book ι :=
  { book with cleared := names ++ book.cleared }

/-- Every name that was taken in is in exactly one place. -/
structure Balanced (book : Book ι) (held : List ι) : Prop where
  nodup : book.entered.Nodup
  perm : book.entered.Perm (held ++ (book.delivered ++ (book.dropped ++ book.cleared)))

variable {book : Book ι} {held : List ι}

/-- An empty book is balanced, with nothing held. -/
theorem balanced_nil : Balanced ({} : Book ι) [] := ⟨.nil, .nil⟩

/-- What is held may be listed in another order. -/
theorem Balanced.reorder {held' : List ι} (h : Balanced book held) (hperm : held.Perm held') :
    Balanced book held' :=
  ⟨h.nodup, h.perm.trans (hperm.append_right _)⟩

/-- New names are held. -/
theorem Balanced.enter {names : List ι} (h : Balanced book held) (hnames : names.Nodup)
    (hnew : ∀ name ∈ names, name ∉ book.entered) :
    Balanced (book.enter names) (names ++ held) := by
  refine ⟨?_, ?_⟩
  · exact h.nodup.append hnames fun name hold hname => hnew name hname hold
  · show (book.entered ++ names).Perm _
    rw [List.append_assoc]
    exact List.perm_append_comm.trans (h.perm.append_left names)

/-- Names that are held may be delivered. -/
theorem Balanced.deliver {names : List ι} (h : Balanced book (names ++ held)) :
    Balanced (book.deliver names) held := by
  refine ⟨h.nodup, h.perm.trans ?_⟩
  show (names ++ held ++ _).Perm (held ++ (names ++ book.delivered ++ _))
  rw [List.append_assoc names book.delivered, ← List.append_assoc held]
  exact List.perm_append_comm.append_right _

/-- Names that are held may be dropped and counted. -/
theorem Balanced.drop {names : List ι} (h : Balanced book (names ++ held)) :
    Balanced (book.drop names) held := by
  refine ⟨h.nodup, h.perm.trans ?_⟩
  show (names ++ held ++ (book.delivered ++ (book.dropped ++ book.cleared))).Perm
    (held ++ (book.delivered ++ (names ++ book.dropped ++ book.cleared)))
  rw [List.append_assoc names held, List.append_assoc names book.dropped,
    ← List.append_assoc held, ← List.append_assoc held, ← List.append_assoc names,
    ← List.append_assoc (held ++ book.delivered)]
  exact List.perm_append_comm.append_right _

/-- Everything that is held may be cleared at once, without a count. -/
theorem Balanced.clear (h : Balanced book held) : Balanced (book.clear held) [] := by
  refine ⟨h.nodup, h.perm.trans ?_⟩
  show (held ++ (book.delivered ++ (book.dropped ++ book.cleared))).Perm
    (book.delivered ++ (book.dropped ++ (held ++ book.cleared)))
  rw [← List.append_assoc, ← List.append_assoc, ← List.append_assoc, ← List.append_assoc]
  refine List.Perm.append_right _ ?_
  rw [List.append_assoc]
  exact List.perm_append_comm

/-- Nothing was both delivered and dropped. -/
theorem Balanced.not_mem_dropped {name : ι} (h : Balanced book held)
    (hdelivered : name ∈ book.delivered) : name ∉ book.dropped := by
  intro hdropped
  have hnodup := (h.perm.nodup_iff.mp h.nodup).of_append_right
  exact (List.disjoint_of_nodup_append hnodup) hdelivered (List.mem_append_left _ hdropped)

/-- What was delivered was delivered once. -/
theorem Balanced.delivered_nodup (h : Balanced book held) : book.delivered.Nodup :=
  (h.perm.nodup_iff.mp h.nodup).of_append_right.of_append_left

/-- Everything that was taken in is accounted for: it is held, or it is in exactly one of the
three columns. -/
theorem Balanced.length_eq (h : Balanced book held) :
    book.entered.length =
      held.length + book.delivered.length + book.dropped.length + book.cleared.length := by
  rw [h.perm.length_eq]
  simp only [List.length_append]
  omega

end Book

end Ledger
