import Mathlib.Data.Nat.Bitwise

/-!
# Addresses with a common prefix

An address of `w` bits is a number below `2 ^ w`. Those whose first `p` bits are those of a given
address are an interval: `2 ^ (w - p)` numbers from the given address with its last `w - p` bits
cleared on (`samePrefix_iff`).
-/

namespace Subnet

/-- The first `p` of `w` bits agree. -/
def SamePrefix (w p a b : Nat) : Prop := ∀ i < w, w - p ≤ i → a.testBit i = b.testBit i

variable {w p a b : Nat}

theorem samePrefix_iff_div (ha : a < 2 ^ w) (hb : b < 2 ^ w) :
    SamePrefix w p a b ↔ a / 2 ^ (w - p) = b / 2 ^ (w - p) := by
  constructor
  · intro h
    apply Nat.eq_of_testBit_eq
    intro j
    rw [Nat.testBit_div_two_pow, Nat.testBit_div_two_pow]
    by_cases hj : j + (w - p) < w
    · exact h _ hj (by omega)
    · -- beyond the last bit both are zero
      have hle : 2 ^ w ≤ 2 ^ (j + (w - p)) := Nat.pow_le_pow_right (by decide) (by omega)
      rw [Nat.testBit_lt_two_pow (by omega), Nat.testBit_lt_two_pow (by omega)]
  · intro h i _ hi
    have hbit := congrArg (Nat.testBit · (i - (w - p))) h
    simpa only [Nat.testBit_div_two_pow, Nat.sub_add_cancel hi] using hbit

/-- **The addresses of a network are an interval.** -/
theorem samePrefix_iff (ha : a < 2 ^ w) (hb : b < 2 ^ w) : SamePrefix w p a b ↔
    b / 2 ^ (w - p) * 2 ^ (w - p) ≤ a ∧
      a ≤ b / 2 ^ (w - p) * 2 ^ (w - p) + 2 ^ (w - p) - 1 := by
  have hpos : 0 < 2 ^ (w - p) := Nat.two_pow_pos _
  rw [samePrefix_iff_div ha hb, Nat.div_eq_iff hpos]

end Subnet
