import Mathlib

/-!
# `TrustedRouter.Lib.Scan`: loops that stop at the first stopping item

`scan` is the loop of a stream filter. It surfaces every item up to the first one that
stops it. At that item it emits the item's own last outputs and reads nothing more. A
stream that ends without a stopping item gets the `exhausted` outputs.

`scan_of_findIdx?_some` and `scan_of_findIdx?_none` give the output in closed form, in
terms of the position of the first stopping item.
-/

set_option autoImplicit false

namespace Scan

variable {ι ω : Type}

/-- The loop. -/
def scan (stops : ι → Bool) (surface : ι → ω) (last : ι → List ω) (exhausted : List ω) :
    List ι → List ω
  | [] => exhausted
  | item :: rest =>
      if stops item then last item
      else surface item :: scan stops surface last exhausted rest

section
variable {stops : ι → Bool} {surface : ι → ω} {last : ι → List ω} {exhausted : List ω}

/-- The output when the first stopping item stands at position `k`. -/
theorem scan_of_findIdx?_some {items : List ι} {k : Nat} {item : ι}
    (hk : items.findIdx? stops = some k) (hitem : items[k]? = some item) :
    scan stops surface last exhausted items = (items.take k).map surface ++ last item := by
  induction items generalizing k with
  | nil => cases hk
  | cons head rest ih =>
      rw [List.findIdx?_cons] at hk
      by_cases hstops : stops head = true
      · rw [if_pos hstops] at hk
        cases hk
        cases hitem
        rw [scan, if_pos hstops, List.take_zero, List.map_nil, List.nil_append]
      · rw [if_neg hstops] at hk
        obtain ⟨j, hj, rfl⟩ := Option.map_eq_some_iff.mp hk
        rw [List.getElem?_cons_succ] at hitem
        rw [scan, if_neg hstops, ih hj hitem, List.take_succ_cons, List.map_cons,
          List.cons_append]

/-- The output when nothing stops the loop. -/
theorem scan_of_findIdx?_none {items : List ι} (h : items.findIdx? stops = none) :
    scan stops surface last exhausted items = items.map surface ++ exhausted := by
  induction items with
  | nil => rfl
  | cons head rest ih =>
      have hall := List.findIdx?_eq_none_iff.mp h
      have hhead : ¬ stops head = true := by
        rw [hall head List.mem_cons_self]
        exact Bool.false_ne_true
      have hrest : rest.findIdx? stops = none := by
        rw [List.findIdx?_eq_none_iff]
        intro item hitem
        exact hall item (List.mem_cons_of_mem _ hitem)
      rw [scan, if_neg hhead, ih hrest, List.map_cons, List.cons_append]

/-- No item before the first stopping one stops the loop. -/
theorem not_stops_of_mem_take {items : List ι} {k : Nat} {item : ι}
    (hk : items.findIdx? stops = some k) (hitem : item ∈ items.take k) :
    stops item = false := by
  obtain ⟨i, hi, rfl⟩ := List.mem_iff_getElem.mp hitem
  obtain ⟨hlt, -, hbefore⟩ := List.findIdx?_eq_some_iff_getElem.mp hk
  rw [List.length_take] at hi
  rw [List.getElem_take]
  exact Bool.not_eq_true _ ▸ hbefore i (by omega)

end

end Scan
