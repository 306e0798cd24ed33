import Mathlib.Order.BoundedOrder.Basic
import Mathlib.Order.Lattice
import Mathlib.Data.List.MinMax

/-!
# Running extrema

The minimum and the maximum of a sequence, kept in a variable each that starts at the least element
`⊥`. For the maximum that is right. The minimum takes `⊥` for "nothing seen yet" and is right only
if `⊥` does not occur, or occurs at the end (`min?_eq_runMin_iff`).
-/

namespace Extrema

variable {α : Type} [LinearOrder α] [OrderBot α]

/-- One step of the running minimum. -/
def runMin (m x : α) : α := if x < m ∨ m = ⊥ then x else m

theorem runMin_eq_bot {m x : α} : runMin m x = ⊥ ↔ x = ⊥ := by
  unfold runMin
  by_cases hm : m = ⊥
  · rw [if_pos (.inr hm)]
  · by_cases hx : x < m
    · rw [if_pos (.inl hx)]
    · rw [if_neg (by rw [not_or]; exact ⟨hx, hm⟩)]
      refine iff_of_false hm ?_
      rintro rfl
      exact hx (bot_lt_iff_ne_bot.2 hm)

/-- The running minimum is `⊥` when the last element was. -/
theorem foldl_runMin_eq_bot {l : List α} (hne : l ≠ []) (m : α) :
    l.foldl runMin m = ⊥ ↔ l.getLast? = some ⊥ := by
  induction l using List.reverseRecOn with
  | nil => exact absurd rfl hne
  | append_singleton l x =>
    rw [List.foldl_append, List.getLast?_append]
    simp [runMin_eq_bot]

theorem foldl_runMin_eq_foldl_min : ∀ {l : List α} {m : α}, m ≠ ⊥ → (∀ x ∈ l, x ≠ ⊥) →
    l.foldl runMin m = l.foldl min m
  | [], _, _, _ => rfl
  | x :: l, m, hm, hl => by
    have hx : x ≠ ⊥ := hl x List.mem_cons_self
    have hstep : runMin m x = min m x := by
      unfold runMin
      rcases lt_or_ge x m with h | h
      · rw [if_pos (.inl h), min_eq_right h.le]
      · rw [if_neg (by rw [not_or]; exact ⟨h.not_gt, hm⟩), min_eq_left h]
    have hmin : min m x ≠ ⊥ := by
      rcases min_choice m x with h | h <;> rw [h] <;> assumption
    rw [List.foldl_cons, List.foldl_cons, hstep]
    exact foldl_runMin_eq_foldl_min hmin fun y hy => hl y (List.mem_cons_of_mem x hy)

/-- **When the running minimum is the minimum.** -/
theorem min?_eq_runMin_iff {l : List α} (hne : l ≠ []) :
    l.min? = some (l.foldl runMin ⊥) ↔ (∀ x ∈ l, x ≠ ⊥) ∨ l.getLast? = some ⊥ := by
  rw [← foldl_runMin_eq_bot hne ⊥]
  constructor
  · intro h
    obtain ⟨-, hle⟩ := List.min?_eq_some_iff.1 h
    by_cases hb : ⊥ ∈ l
    · exact .inr (le_bot_iff.1 (hle ⊥ hb))
    · refine .inl ?_
      rintro x hx rfl
      exact hb hx
  · rintro (h | h)
    · cases l with
      | nil => exact absurd rfl hne
      | cons x l =>
        have hx : runMin ⊥ x = x := if_pos (.inr rfl)
        rw [List.foldl_cons, hx, List.min?_cons',
          foldl_runMin_eq_foldl_min (h x List.mem_cons_self)]
        exact fun y hy => h y (List.mem_cons_of_mem x hy)
    · rw [h, List.min?_eq_some_iff]
      have hlast := (foldl_runMin_eq_bot hne ⊥).1 h
      exact ⟨List.mem_of_getLast? hlast, fun _ _ => bot_le⟩

omit [OrderBot α] in
/-- The running maximum stays below a bound iff everything seen does. -/
theorem foldl_max_lt_iff {b : α} : ∀ {l : List α} {m : α},
    l.foldl max m < b ↔ m < b ∧ ∀ x ∈ l, x < b
  | [], m => by simp
  | x :: l, m => by
    rw [List.foldl_cons, foldl_max_lt_iff, max_lt_iff, List.forall_mem_cons, and_assoc]

/-- The running maximum is the maximum. -/
theorem max?_eq_foldl_max {l : List α} (hne : l ≠ []) : l.max? = some (l.foldl max ⊥) := by
  cases l with
  | nil => exact absurd rfl hne
  | cons x l => rw [List.max?_cons', List.foldl_cons, max_eq_right bot_le]

end Extrema
