import Mathlib.Algebra.BigOperators.Fin
import Mathlib.Data.UInt

/-!
# Counters

Counting with machine words: a counter that is incremented once for each element of a list is the
list's length modulo `2 ^ 64`, and a family of counters of which each element increments one sums to
the number of elements.
-/

namespace Tally

section
variable {ι M : Type} [AddCommMonoid M]

/-- One counter of a family grows. -/
theorem sum_update_add [Fintype ι] [DecidableEq ι] (f : ι → M) (i : ι) (x : M) :
    ∑ j, Function.update f i (f i + x) j = (∑ j, f j) + x := by
  rw [Finset.sum_update_of_mem (Finset.mem_univ i), ← Finset.add_sum_erase _ f (Finset.mem_univ i),
    Finset.sdiff_singleton_eq_erase, add_right_comm]

/-- Leaving out what does not count leaves out zeros. -/
theorem sum_map_filter (p : ι → Bool) (f : ι → M) : ∀ l : List ι,
    ((l.filter p).map f).sum = (l.map fun i => if p i then f i else 0).sum
  | [] => rfl
  | i :: l => by
    by_cases h : p i = true
    · simp [h, sum_map_filter p f l]
    · simp [h, sum_map_filter p f l]

theorem sum_fin_get (l : List ι) (f : ι → M) : ∑ i : Fin l.length, f (l.get i) = (l.map f).sum := by
  conv_rhs => rw [← List.ofFn_get l, List.map_ofFn, List.sum_ofFn]
  rfl

/-- A list added up by the value of a key. -/
theorem sum_by_key (key : ι → Nat) (f : ι → M) {n : Nat} : ∀ {l : List ι}, (∀ x ∈ l, key x < n) →
    ∑ i : Fin n, ((l.filter (key · = i.val)).map f).sum = (l.map f).sum
  | [], _ => by simp
  | x :: l, h => by
    have hx : key x < n := h x List.mem_cons_self
    have hterm : ∀ i : Fin n, (((x :: l).filter (key · = i.val)).map f).sum =
        (if (⟨key x, hx⟩ : Fin n) = i then f x else 0) + ((l.filter (key · = i.val)).map f).sum := by
      intro i
      by_cases hi : key x = i.val
      · simp [hi]
      · have : (⟨key x, hx⟩ : Fin n) ≠ i := fun he => hi (congrArg Fin.val he)
        simp [hi, this]
    simp only [hterm, Finset.sum_add_distrib, Finset.sum_ite_eq, Finset.mem_univ, if_true]
    rw [sum_by_key key f fun y hy => h y (List.mem_cons_of_mem x hy), List.map_cons, List.sum_cons]

end

theorem ofNat_succ (n : Nat) : UInt64.ofNat (n + 1) = UInt64.ofNat n + 1 := UInt64.ofNat_add n 1

theorem toNat_ofNat {n : Nat} (hn : n < 2 ^ 64) : (UInt64.ofNat n).toNat = n := by
  rw [UInt64.toNat_ofNat', Nat.mod_eq_of_lt hn]

theorem eq_zero_of_ofNat {n : Nat} (hn : n < 2 ^ 64) (h : UInt64.ofNat n = 0) : n = 0 := by
  have := congrArg UInt64.toNat h
  rw [toNat_ofNat hn] at this
  exact this

/-- A counter of the elements with a property. -/
theorem sum_map_ite {α : Type} (p : α → Bool) : ∀ l : List α,
    (l.map fun a => if p a then (1 : UInt64) else 0).sum = .ofNat (l.countP p)
  | [] => rfl
  | a :: l => by
    rw [List.map_cons, List.sum_cons, sum_map_ite p l, List.countP_cons]
    by_cases h : p a = true
    · rw [if_pos h, if_pos h, ofNat_succ, add_comm]
    · rw [if_neg h, if_neg h, zero_add, Nat.add_zero]

end Tally
