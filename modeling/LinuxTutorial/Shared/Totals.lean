import Mathlib.Algebra.BigOperators.Group.Finset.Piecewise
import Mathlib.Algebra.GroupWithZero.Nat
import Mathlib.Algebra.Order.BigOperators.Group.List
import Mathlib.Algebra.Order.Group.Nat

set_option autoImplicit false

namespace Totals

theorem sum_filter_le {A : Type} (value : A → Nat) (keep : A → Bool) {items : List A} {item : A}
    (member : item ∈ items) (dropped : keep item = false) :
    ((items.filter keep).map value).sum + value item ≤ (items.map value).sum := by
  induction items with
  | nil => cases member
  | cons head rest ih =>
    have fewer : ((rest.filter keep).map value).sum ≤ (rest.map value).sum :=
      (List.filter_sublist.map value).sum_le_sum fun _ _ => Nat.zero_le _
    rcases List.mem_cons.mp member with rfl | later
    · simp only [List.filter_cons, dropped, List.map_cons, List.sum_cons]
      simp
      omega
    · have rest := ih later
      rw [List.filter_cons]
      split_ifs <;> simp only [List.map_cons, List.sum_cons] <;> omega

theorem sum_map_set {A : Type} (value : A → Nat) {items : List A} {index : Nat} {old : A}
    (known : items[index]? = some old) (new : A) :
    ((items.set index new).map value).sum + value old = (items.map value).sum + value new := by
  induction items generalizing index with
  | nil => simp at known
  | cons head rest ih =>
    cases index with
    | zero =>
      obtain rfl : head = old := by simpa using known
      simp only [List.set_cons_zero, List.map_cons, List.sum_cons]
      omega
    | succ index =>
      have later := ih (by simpa using known)
      simp only [List.set_cons_succ, List.map_cons, List.sum_cons]
      omega

theorem sum_update_add (value : Nat → Nat) {index bound : Nat} (inside : index < bound)
    (new : Nat) :
    ∑ other ∈ Finset.range bound, Function.update value index new other + value index =
      ∑ other ∈ Finset.range bound, value other + new := by
  have member : index ∈ Finset.range bound := Finset.mem_range.mpr inside
  rw [Finset.sum_update_of_mem member, Finset.sdiff_singleton_eq_erase,
    ← Finset.add_sum_erase _ value member]
  omega

end Totals
