import Mathlib.Algebra.Order.Floor.Div
import Mathlib.Data.List.Induction
import Mathlib.Tactic.Ring

/-!
# Work spread over slots

`Q` units of work in `T` slots, each slot taking what is left divided by the slots that are left,
rounded down. The shares are `Q / T` in the first slots and one more in the last `Q % T`
(`shares_eq`), so they never decrease, add up to `Q`, and at no time run ahead of the linear
schedule (`sum_take_mul_le`).
-/

namespace Pacing

/-- The shares of `T` slots that are left for `Q` units. -/
def shares : ℕ → ℕ → List ℕ
  | 0, _ => []
  | T + 1, Q => Q / (T + 1) :: shares T (Q - Q / (T + 1))

theorem length_shares : ∀ T Q : ℕ, (shares T Q).length = T
  | 0, _ => rfl
  | T + 1, Q => by rw [shares, List.length_cons, length_shares T]

/-- What the first slot leaves: the same share for the others, or one more for all of them. -/
theorem div_mod_rest {T Q : ℕ} (hT : 0 < T) :
    (Q % (T + 1) < T ∧ (Q - Q / (T + 1)) / T = Q / (T + 1) ∧
      (Q - Q / (T + 1)) % T = Q % (T + 1)) ∨
    (Q % (T + 1) = T ∧ (Q - Q / (T + 1)) / T = Q / (T + 1) + 1 ∧
      (Q - Q / (T + 1)) % T = 0) := by
  have hQ := Nat.div_add_mod Q (T + 1)
  have hr := Nat.mod_lt Q (Nat.succ_pos T)
  generalize Q / (T + 1) = q at hQ ⊢
  generalize Q % (T + 1) = r at hQ hr ⊢
  have hrest : Q - q = r + T * q := by
    rw [← hQ, Nat.add_mul, Nat.one_mul]
    omega
  rw [hrest, Nat.add_mul_div_left _ _ hT, Nat.add_mul_mod_self_left]
  rcases Nat.lt_or_ge r T with h | h
  · rw [Nat.div_eq_of_lt h, Nat.mod_eq_of_lt h, Nat.zero_add]
    exact .inl ⟨h, rfl, rfl⟩
  · obtain rfl : r = T := by omega
    rw [Nat.div_self hT, Nat.mod_self, Nat.add_comm]
    exact .inr ⟨rfl, rfl, rfl⟩

/-- **The shares**: `Q / T`, and one more in the last `Q % T` slots. -/
theorem shares_eq {T : ℕ} (hT : 0 < T) (Q : ℕ) : shares T Q =
    List.replicate (T - Q % T) (Q / T) ++ List.replicate (Q % T) (Q / T + 1) := by
  induction T generalizing Q with
  | zero => exact absurd hT (Nat.lt_irrefl 0)
  | succ T ih =>
    rcases Nat.eq_zero_or_pos T with rfl | hpos
    · simp [shares, Nat.mod_one]
    rw [shares, ih hpos]
    rcases div_mod_rest (Q := Q) hpos with ⟨hr, hd, hm⟩ | ⟨hr, hd, hm⟩
    · rw [hd, hm, Nat.succ_sub (by omega)]
      rfl
    · rw [hd, hm, hr, Nat.sub_zero, Nat.add_sub_cancel_left]
      simp

theorem mem_shares {T Q q : ℕ} (hT : 0 < T) (h : q ∈ shares T Q) : q = Q / T ∨ q = Q ⌈/⌉ T := by
  rw [shares_eq hT, List.mem_append, List.mem_replicate, List.mem_replicate] at h
  rcases h with ⟨-, rfl⟩ | ⟨hr, rfl⟩
  · exact .inl rfl
  · refine .inr ?_
    have hQ := Nat.div_add_mod Q T
    have hlt := Nat.mod_lt Q hT
    rw [Nat.ceilDiv_eq_add_pred_div]
    refine (Nat.div_eq_of_lt_le ?_ ?_).symm
    · rw [Nat.add_mul, Nat.mul_comm]
      omega
    · rw [Nat.add_mul, Nat.add_mul, Nat.mul_comm]
      omega

theorem pairwise_shares {T : ℕ} (hT : 0 < T) (Q : ℕ) : (shares T Q).Pairwise (· ≤ ·) := by
  rw [shares_eq hT, List.pairwise_append]
  refine ⟨List.pairwise_replicate.2 (.inr le_rfl), List.pairwise_replicate.2 (.inr le_rfl), ?_⟩
  intro a ha b hb
  rw [List.eq_of_mem_replicate ha, List.eq_of_mem_replicate hb]
  exact Nat.le_succ _

/-- The work of the first `k` slots. -/
theorem sum_take {T k : ℕ} (hT : 0 < T) (hk : k ≤ T) (Q : ℕ) :
    ((shares T Q).take k).sum = k * (Q / T) + (k - (T - Q % T)) := by
  have hr := Nat.mod_lt Q hT
  rw [shares_eq hT, List.take_append, List.length_replicate, List.take_replicate,
    List.take_replicate, List.sum_append, List.sum_replicate_nat, List.sum_replicate_nat,
    Nat.min_eq_left (show k - (T - Q % T) ≤ Q % T by omega)]
  rcases Nat.le_total k (T - Q % T) with h | h
  · rw [Nat.min_eq_left h, Nat.sub_eq_zero_of_le h, Nat.zero_mul]
  · obtain ⟨j, rfl⟩ := Nat.exists_eq_add_of_le h
    rw [Nat.min_eq_right h, Nat.add_sub_cancel_left]
    ring

/-- All the work is done. -/
theorem sum_shares {T : ℕ} (hT : 0 < T) (Q : ℕ) : (shares T Q).sum = Q := by
  have h := sum_take hT (Nat.le_refl T) Q
  have hr := Nat.mod_lt Q hT
  rw [List.take_of_length_le (by rw [length_shares])] at h
  rw [h, show T - (T - Q % T) = Q % T by omega]
  exact Nat.div_add_mod Q T

theorem mul_div_le_sum_take {T k : ℕ} (hT : 0 < T) (hk : k ≤ T) (Q : ℕ) :
    k * (Q / T) ≤ ((shares T Q).take k).sum := by
  rw [sum_take hT hk]
  exact Nat.le_add_right _ _

/-- Never ahead of the linear schedule. -/
theorem sum_take_mul_le {T k : ℕ} (hT : 0 < T) (hk : k ≤ T) (Q : ℕ) :
    ((shares T Q).take k).sum * T ≤ k * Q := by
  have hr := Nat.mod_lt Q hT
  have hQ := Nat.div_add_mod Q T
  have hmore : (k - (T - Q % T)) * T ≤ k * (Q % T) := by
    rcases Nat.le_total k (T - Q % T) with h | h
    · rw [Nat.sub_eq_zero_of_le h, Nat.zero_mul]
      exact Nat.zero_le _
    · obtain ⟨a, ha⟩ := Nat.exists_eq_add_of_le hk
      obtain ⟨b, hb⟩ := Nat.exists_eq_add_of_lt hr
      -- `(k - (b + 1)) * (k + a) ≤ k * (k + a - (b + 1))`, as `a` slots are left
      rw [show k - (T - Q % T) = k - (b + 1) by omega, show Q % T = k + a - (b + 1) by omega,
        ha, Nat.mul_sub, Nat.sub_mul]
      have := Nat.mul_le_mul_left (b + 1) (Nat.le_add_right k a)
      rw [Nat.mul_comm (b + 1) k] at this
      omega
  calc ((shares T Q).take k).sum * T = k * (T * (Q / T)) + (k - (T - Q % T)) * T := by
        rw [sum_take hT hk]
        ring
    _ ≤ k * (T * (Q / T)) + k * (Q % T) := Nat.add_le_add_left hmore _
    _ = k * Q := by rw [← Nat.mul_add, hQ]

end Pacing
