import Mathlib.Data.Nat.Bitwise
import Mathlib.Data.UInt

/-!
# Rounding up to a multiple of a power of two

`up k n`: the least multiple of `2 ^ k` from `n` on. On machine words it is computed by adding
`2 ^ k - 1` and masking the low bits out (`toNat_mask`).
-/

namespace Align

def up (k n : Nat) : Nat := 2 ^ k * ((n + (2 ^ k - 1)) / 2 ^ k)

theorem le_up (k n : Nat) : n ≤ up k n := by
  have hpos := Nat.two_pow_pos k
  have h := Nat.div_add_mod (n + (2 ^ k - 1)) (2 ^ k)
  have hlt := Nat.mod_lt (n + (2 ^ k - 1)) hpos
  unfold up
  omega

theorem up_lt (k n : Nat) : up k n < n + 2 ^ k := by
  have hpos := Nat.two_pow_pos k
  have h := Nat.mul_div_le (n + (2 ^ k - 1)) (2 ^ k)
  unfold up
  omega

/-- The mask is a block of ones from bit `k` on. -/
theorem mask_eq {k w : Nat} (hk : k ≤ w) : 2 ^ w - 2 ^ k = (2 ^ (w - k) - 1) <<< k := by
  rw [Nat.shiftLeft_eq, Nat.sub_mul, Nat.one_mul, ← Nat.pow_add, Nat.sub_add_cancel hk]

/-- The low bits masked out. -/
theorem and_mask {k w M : Nat} (hk : k ≤ w) (h : M < 2 ^ w) :
    M &&& (2 ^ w - 2 ^ k) = 2 ^ k * (M / 2 ^ k) := by
  have hhi : M >>> k < 2 ^ (w - k) := by
    rw [Nat.shiftRight_eq_div_pow, Nat.div_lt_iff_lt_mul (Nat.two_pow_pos k), ← Nat.pow_add,
      Nat.sub_add_cancel hk]
    exact h
  have hones : (M >>> k) &&& (2 ^ (w - k) - 1) = M >>> k := by
    rw [Nat.and_two_pow_sub_one_eq_mod, Nat.mod_eq_of_lt hhi]
  have hshift : M &&& (2 ^ w - 2 ^ k) = ((M >>> k) &&& (2 ^ (w - k) - 1)) <<< k := by
    rw [mask_eq hk]
    refine Nat.eq_of_testBit_eq fun i => ?_
    by_cases hi : k ≤ i
    · simp [Nat.testBit_shiftLeft, Nat.testBit_shiftRight, hi, Bool.and_comm]
    · simp [Nat.testBit_shiftLeft, hi]
  rw [hshift, hones, Nat.shiftLeft_eq, Nat.shiftRight_eq_div_pow, Nat.mul_comm]

/-- The computation on 64-bit words. -/
theorem toNat_mask {x : UInt64} (h : x.toNat + 7 < 2 ^ 64) :
    ((x + (8 - 1)) &&& ~~~(8 - 1)).toNat = up 3 x.toNat := by
  have hadd : (x + (8 - 1)).toNat = x.toNat + 7 := by
    rw [UInt64.toNat_add]
    exact Nat.mod_eq_of_lt h
  have hnot : (~~~(8 - 1) : UInt64).toNat = 2 ^ 64 - 2 ^ 3 := by decide
  rw [UInt64.toNat_and, hadd, hnot, and_mask (by decide) h]
  rfl

end Align
