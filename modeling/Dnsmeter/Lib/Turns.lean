import Mathlib.Data.Int.CardIntervalMod

/-!
# Cyclic dealing

A position that moves through `0 .. n - 1` and wraps around. After `k` moves from 0 it is at
`k % n` (`next_mod`), and over `K` moves it was at every position `K / n` times, rounded down or up
(`count_mod_floor_or_ceil`). `InTurn` relates what is dealt out to what is done with it.
-/

namespace Turns

variable {n : Nat}

def next (n i : Nat) : Nat := if i + 1 = n then 0 else i + 1

theorem next_mod (hn : 0 < n) (k : Nat) : next n (k % n) = (k + 1) % n := by
  have hlt := Nat.mod_lt k hn
  unfold next
  rw [Nat.add_mod]
  rcases Nat.lt_or_ge 1 n with h1 | h1
  · rw [Nat.mod_eq_of_lt h1]
    split
    · rename_i h
      rw [h, Nat.mod_self]
    · exact (Nat.mod_eq_of_lt (by omega)).symm
  · obtain rfl : n = 1 := by omega
    simp [Nat.mod_one]

theorem count_mod (hn : 0 < n) {j : Nat} (hj : j < n) (K : Nat) :
    Nat.count (fun k => k % n = j) K = K / n + if j < K % n then 1 else 0 := by
  have h := Nat.count_modEq_card (b := K) hn j
  rw [Nat.mod_eq_of_lt hj] at h
  rw [← h]
  simp only [Nat.ModEq, Nat.mod_eq_of_lt hj]

theorem count_mod_floor_or_ceil (hn : 0 < n) {j : Nat} (hj : j < n) (K : Nat) :
    Nat.count (fun k => k % n = j) K = K / n ∨
      Nat.count (fun k => k % n = j) K = (K + n - 1) / n := by
  rw [count_mod hn hj]
  split
  · rename_i h
    right
    -- `K` is not a multiple of `n`: rounding up adds one
    have hdiv : (K + n - 1) / n = K / n + 1 := by
      have hsplit : K + n - 1 = (K % n - 1) + n * (K / n + 1) := by
        have := Nat.div_add_mod K n
        rw [Nat.mul_add]
        omega
      have hlt := Nat.mod_lt K hn
      rw [hsplit, Nat.add_mul_div_left _ _ hn, Nat.div_eq_of_lt (by omega), Nat.zero_add]
    exact hdiv.symm
  · exact .inl rfl

/-! ## What is dealt out -/

section
variable {α β : Type} {R : α → β → Prop} {as : List α} {bs : List β}

/-- The elements of `as` are dealt out in turn, and each entry of `bs` is what `R` makes of its own. -/
def InTurn (R : α → β → Prop) (as : List α) (bs : List β) : Prop :=
  ∀ k b, bs[k]? = some b → ∃ a, as[k % as.length]? = some a ∧ R a b

theorem InTurn.nil : InTurn R as [] := fun k b hk => by simp at hk

theorem InTurn.concat {a : α} {b : β} (h : InTurn R as bs)
    (ha : as[bs.length % as.length]? = some a) (hr : R a b) : InTurn R as (bs ++ [b]) := by
  intro k c hk
  rcases Nat.lt_or_ge k bs.length with hlt | hge
  · rw [List.getElem?_append_left hlt] at hk
    exact h k c hk
  · rw [List.getElem?_append_right hge, List.getElem?_singleton] at hk
    split at hk
    · obtain rfl : k = bs.length := by omega
      cases hk
      exact ⟨a, ha, hr⟩
    · cases hk

theorem InTurn.mono {R' : α → β → Prop} (h : InTurn R as bs) (hR : ∀ a ∈ as, ∀ b, R a b → R' a b) :
    InTurn R' as bs := by
  intro k b hk
  obtain ⟨a, ha, hr⟩ := h k b hk
  exact ⟨a, ha, hR a (List.mem_of_getElem? ha) b hr⟩

end

end Turns
