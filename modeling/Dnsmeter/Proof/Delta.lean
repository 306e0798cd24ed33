import Dnsmeter.SystemStat
import Mathlib.Data.UInt

/-!
# Differences of wrapping counters

`delta_with_overflow` is meant to be the increment of a counter between two samples. Its branch for a
counter that has wrapped adds `ULONG_MAX` where the increment needs `2 ^ 64`.

* `deltaWithOverflow_eq`: it is the increment, less one if the counter has wrapped.
* `delta_exact_iff`: it is the increment iff the counter has not wrapped between the samples; two
  deltas add up iff the two increments together stay below `2 ^ 64`.
-/

namespace Dnsmeter

/-- A counter sampled at `sample1` and then at `sample2` has wrapped. -/
def wraps (sample1 sample2 : UInt64) : UInt64 := if sample2 < sample1 then 1 else 0

theorem deltaWithOverflow_eq (sample1 sample2 : UInt64) :
    deltaWithOverflow sample1 sample2 = sample2 - sample1 - wraps sample1 sample2 := by
  unfold deltaWithOverflow wraps
  by_cases h : sample2 < sample1
  · rw [if_neg (UInt64.not_le.2 h), if_pos h]
    grind
  · rw [if_pos (UInt64.not_lt.1 h), if_neg h, UInt64.sub_zero]

theorem wraps_eq_zero {sample1 sample2 : UInt64} :
    wraps sample1 sample2 = 0 ↔ sample1 ≤ sample2 := by
  unfold wraps
  by_cases h : sample2 < sample1
  · simp [h]
  · simp [UInt64.not_lt.1 h]

/-- The increment of a counter, as a number. -/
theorem toNat_increment (sample1 sample2 : UInt64) : (sample2 - sample1).toNat =
    if sample2 < sample1 then 2 ^ 64 - sample1.toNat + sample2.toNat
    else sample2.toNat - sample1.toNat := by
  have h1 := sample1.toNat_lt
  have h2 := sample2.toNat_lt
  simp only [UInt64.toNat_sub, UInt64.lt_iff_toNat_lt]
  split <;> omega

/-- Over two intervals a counter wraps once more than over both iff it goes all the way round. -/
theorem wraps_add_iff (a b c : UInt64) :
    wraps a b + wraps b c = wraps a c ↔ (b - a).toNat + (c - b).toNat < 2 ^ 64 := by
  have ha := a.toNat_lt
  have hb := b.toNat_lt
  have hc := c.toNat_lt
  rw [toNat_increment, toNat_increment]
  unfold wraps
  simp only [UInt64.lt_iff_toNat_lt]
  by_cases hab : b.toNat < a.toNat <;> by_cases hbc : c.toNat < b.toNat <;>
    by_cases hac : c.toNat < a.toNat <;> simp [hab, hbc, hac] <;> omega

theorem deltaWithOverflow_add_iff (a b c : UInt64) :
    deltaWithOverflow a b + deltaWithOverflow b c = deltaWithOverflow a c ↔
      (b - a).toNat + (c - b).toNat < 2 ^ 64 := by
  have htelescope : b - a - wraps a b + (c - b - wraps b c) = c - a - (wraps a b + wraps b c) := by
    grind
  rw [deltaWithOverflow_eq, deltaWithOverflow_eq, deltaWithOverflow_eq, htelescope,
    UInt64.sub_right_inj, wraps_add_iff]

theorem deltaWithOverflow_exact_iff {sample1 sample2 : UInt64} :
    deltaWithOverflow sample1 sample2 = sample2 - sample1 ↔ sample1 ≤ sample2 := by
  rw [deltaWithOverflow_eq, sub_eq_self, wraps_eq_zero]

/-- A counter that advances by `d`. -/
theorem deltaWithOverflow_advance_iff (sample d : UInt64) :
    deltaWithOverflow sample (sample + d) = d ↔ sample.toNat + d.toNat < 2 ^ 64 := by
  have hs := sample.toNat_lt
  have hd := d.toNat_lt
  have hinc : sample + d - sample = d := add_sub_cancel_left _ _
  have hle : sample ≤ sample + d ↔ sample.toNat + d.toNat < 2 ^ 64 := by
    rw [UInt64.le_iff_toNat_le, UInt64.toNat_add]
    omega
  have hexact := @deltaWithOverflow_exact_iff sample (sample + d)
  rwa [hinc, hle] at hexact

/-! ## The four counters -/

namespace Network

inductive Field where
  | bytes
  | packets
  | errs
  | drop
deriving DecidableEq, Repr

def get (n : Network) : Field → UInt64
  | .bytes => n.bytes
  | .packets => n.packets
  | .errs => n.errs
  | .drop => n.drop

theorem get_getDelta (sample1 sample2 : Network) (f : Field) :
    (getDelta sample1 sample2).get f = deltaWithOverflow (sample1.get f) (sample2.get f) := by
  cases f <;> rfl

theorem get_add (a b : Network) (f : Field) : (a.add b).get f = a.get f + b.get f := by
  cases f <;> rfl

/-- **When the differences of samples are the increments**: unless the counter has wrapped. Deltas add
up, and a counter that advances by `d` is reported to have, as long as it does not go round. -/
theorem delta_exact_iff (sample1 sample2 : UInt64) (f : Field) (a b c d : Network) :
    (deltaWithOverflow sample1 sample2 = sample2 - sample1 ↔ sample1 ≤ sample2) ∧
    ((getDelta a b).get f + (getDelta b c).get f = (getDelta a c).get f ↔
      (b.get f - a.get f).toNat + (c.get f - b.get f).toNat < 2 ^ 64) ∧
    ((getDelta a (a.add d)).get f = d.get f ↔ (a.get f).toNat + (d.get f).toNat < 2 ^ 64) := by
  refine ⟨deltaWithOverflow_exact_iff, ?_, ?_⟩
  · rw [get_getDelta, get_getDelta, get_getDelta]
    exact deltaWithOverflow_add_iff _ _ _
  · rw [get_getDelta, get_add]
    exact deltaWithOverflow_advance_iff _ _

/-- A counter that goes from the last value to 5 has advanced by 6; 5 are reported. Two deltas that
lead once around do not add up. -/
theorem delta_at_the_wrap :
    deltaWithOverflow 0xffffffffffffffff 5 = 5 ∧ (5 - 0xffffffffffffffff : UInt64) = 6 ∧
    (∃ a d : Network, d.bytes = 6 ∧ (getDelta a (a.add d)).bytes = 5) ∧
    ∃ a b c : Network, (getDelta a b).bytes + (getDelta b c).bytes ≠ (getDelta a c).bytes :=
  ⟨by decide, by decide, ⟨⟨0xffffffffffffffff, 0, 0, 0⟩, ⟨6, 0, 0, 0⟩, by decide, by decide⟩,
    ⟨.zero, ⟨0xffffffffffffffff, 0, 0, 0⟩, .zero, by decide⟩⟩

end Network

end Dnsmeter
