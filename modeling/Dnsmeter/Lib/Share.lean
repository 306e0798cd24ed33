import Mathlib.Data.Nat.Basic
import Mathlib.Algebra.Order.Group.Nat

/-!
# A share spread evenly

An accumulator that is raised by `d` for each item and brought back by `full` when it has come that
far marks `d` of `full` items: after `n` items from 0 it is `n * d % full`, and `n * d / full` items
have been marked.
-/

namespace Share

variable {full d n : Nat}

/-- The item behind `n` others is marked: one more, and the accumulator is brought back. -/
theorem marked (h : full ≤ n * d % full + d) (hd : d ≤ full) (hf : 0 < full) :
    (n + 1) * d / full = n * d / full + 1 ∧ (n + 1) * d % full = n * d % full + d - full := by
  have hdiv := Nat.div_add_mod (n * d) full
  have hlt := Nat.mod_lt (n * d) hf
  have hmul : full * (n * d / full + 1) = full * (n * d / full) + full := Nat.mul_succ _ _
  rw [Nat.div_mod_unique hf, Nat.add_one_mul]
  omega

/-- It is not marked. -/
theorem unmarked (h : n * d % full + d < full) :
    (n + 1) * d / full = n * d / full ∧ (n + 1) * d % full = n * d % full + d := by
  have hf : 0 < full := by omega
  have hdiv := Nat.div_add_mod (n * d) full
  rw [Nat.div_mod_unique hf, Nat.add_one_mul]
  omega

end Share
