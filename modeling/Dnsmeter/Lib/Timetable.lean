import Mathlib.Algebra.Order.Floor.Semiring
import Mathlib.Data.List.Forall2
import Mathlib.Data.List.Infix
import Mathlib.Tactic.FieldSimp
import Mathlib.Tactic.Linarith

/-!
# Work against a clock

A log of events, some of them units of work, some of them readings of a clock. Slot `k` of a
timetable ends at `due k`. A log `Keeps` the allowance `f` if at every moment of it, as long as the
clock has not shown the end of slot `k`, no more than `f k` units of work are done.

* `Keeps.append`: a slot's block of events in front of a log that keeps the timetable of the other
  slots; anything behind the block needs a reading that shows the end of the slot.
* `Keeps.le_linear`: slots of the length `τ` with no more than `c` units each are a rate: within the
  time `e` after the start no more than `(e / τ + 1) * c` units.

Nothing is assumed of the clock: it may stand still or go back.
-/

namespace Timetable

variable {ε K : Type} (clock : ε → Option K) (work : ε → Bool)

section
variable [LinearOrder K]

/-- Every reading of the clock is before `t`. -/
def Before (t : K) (l : List ε) : Prop := ∀ e ∈ l, ∀ c, clock e = some c → c < t

def Keeps (due : ℕ → K) (f : ℕ → ℕ) (l : List ε) : Prop :=
  ∀ pre, pre <+: l → ∀ k, Before clock (due k) pre → pre.countP work ≤ f k

variable {clock work} {due : ℕ → K} {f f' : ℕ → ℕ} {block rest : List ε}

theorem Keeps.nil : Keeps clock work due f [] := by
  intro pre hpre k _
  rw [List.prefix_nil.1 hpre]
  exact Nat.zero_le _

/-- An event that is no work. -/
theorem Keeps.cons {e : ε} (he : work e = false) (h : Keeps clock work due f rest) :
    Keeps clock work due f (e :: rest) := by
  intro pre hpre k hk
  rcases List.prefix_cons_iff.1 hpre with rfl | ⟨l, rfl, hl⟩
  · exact Nat.zero_le _
  · rw [List.countP_cons_of_neg (by simp [he])]
    exact h l hl k fun e he => hk e (List.mem_cons_of_mem _ he)

/-- The events of the first slot. -/
theorem Keeps.of_countP_le (hf : Monotone f) (h : block.countP work ≤ f 0) :
    Keeps clock work due f block := by
  intro pre hpre k _
  exact (hpre.sublist.countP_le).trans (h.trans (hf (Nat.zero_le k)))

/-- **One slot more**: what is behind the block starts when the clock has shown its end. -/
theorem Keeps.append (hf : Monotone f) (h0 : block.countP work ≤ f 0)
    (hend : ∃ e ∈ block, ∃ c, clock e = some c ∧ due 0 ≤ c)
    (hrest : Keeps clock work (fun k => due (k + 1)) f' rest)
    (hadd : ∀ k, block.countP work + f' k ≤ f (k + 1)) :
    Keeps clock work due f (block ++ rest) := by
  intro pre hpre k hk
  obtain ⟨post, hpost⟩ := hpre
  rcases List.append_eq_append_iff.1 hpost with ⟨m, hm, -⟩ | ⟨l, rfl, hl⟩
  · have hpre : pre <+: block := ⟨m, hm.symm⟩
    exact Keeps.of_countP_le hf h0 pre hpre k hk
  -- the reading in the block shows that the first slot is over
  obtain ⟨e, he, c, hc, hdue⟩ := hend
  have hlt : c < due k := hk e (List.mem_append_left _ he) c hc
  cases k with
  | zero => exact absurd hlt (not_lt.2 hdue)
  | succ k =>
    have hcount : l.countP work ≤ f' k :=
      hrest l ⟨post, hl.symm⟩ k fun e he => hk e (List.mem_append_right _ he)
    rw [List.countP_append]
    exact (Nat.add_le_add_left hcount _).trans (hadd k)

end

section
variable [Field K] [LinearOrder K] [IsStrictOrderedRing K] [FloorSemiring K]
variable {clock work} {f : ℕ → ℕ} {s τ c e : K} {l pre : List ε}

/-- **The rate of a timetable.** -/
theorem Keeps.le_linear (h : Keeps clock work (fun k => s + (k + 1) * τ) f l) (hτ : 0 < τ)
    (hf : ∀ k, (f k : K) ≤ (k + 1) * c) (hc : 0 ≤ c) (he : 0 ≤ e) (hpre : pre <+: l)
    (hclock : ∀ x ∈ pre, ∀ t, clock x = some t → t ≤ s + e) :
    (pre.countP work : K) ≤ (e / τ + 1) * c := by
  have hdiv : 0 ≤ e / τ := div_nonneg he hτ.le
  have hlt : e < (⌊e / τ⌋₊ + 1) * τ := (div_lt_iff₀ hτ).1 (Nat.lt_floor_add_one _)
  have hcount : pre.countP work ≤ f ⌊e / τ⌋₊ := by
    refine h pre hpre _ ?_
    intro x hx t ht
    exact (hclock x hx t ht).trans_lt (by linarith)
  calc (pre.countP work : K) ≤ f ⌊e / τ⌋₊ := by exact_mod_cast hcount
    _ ≤ (⌊e / τ⌋₊ + 1) * c := hf _
    _ ≤ (e / τ + 1) * c := by
      have hfloor := Nat.floor_le hdiv
      exact mul_le_mul_of_nonneg_right (by linarith) hc

end

/-- The work of several workers, each with its own log. -/
theorem sum_le_of_forall₂ {α β : Type} [Semiring K] [PartialOrder K] [IsOrderedRing K]
    {R : α → β → Prop} {g : β → ℕ} {c : K} {as : List α} {bs : List β}
    (h : List.Forall₂ R as bs) (hle : ∀ a ∈ as, ∀ b, R a b → (g b : K) ≤ c) :
    ((bs.map g).sum : K) ≤ as.length * c := by
  induction h with
  | nil => simp
  | @cons a b as bs hab _ ih =>
    have ha : (g b : K) ≤ c := hle a List.mem_cons_self b hab
    have has := ih fun a' ha' => hle a' (List.mem_cons_of_mem a ha')
    rw [List.map_cons, List.sum_cons, List.length_cons, Nat.cast_add, Nat.cast_succ, add_mul,
      one_mul, add_comm]
    exact add_le_add has ha

end Timetable
