import Dnsmeter.Lib.Pacing
import Dnsmeter.SenderThread

/-!
# Even pacing

The slice loop of `runWithRateLimit` divides the queries that are left by the slices that are left,
anew in every slice. `slices` are the variables of the loop, slice by slice.

* `sliceLoop_eq`: however the loop is left, it is as many calls of `sendPacket` as the slices done
  have queries.
* `map_queries`: in unbounded numbers the queries of the slices are the shares of `Pacing`, so
  nothing wraps (`slice_ok`).
* `paced`: exactness, evenness, monotonicity and the linear bound.
-/

namespace Dnsmeter

namespace DNSSenderThread

/-- The variables of a pass of the slice loop; `queriesRest` before the pass. -/
structure Slice where
  timeslicesRest : UInt64
  queriesRest : UInt64
  queriesPerTimeslice : UInt64

/-- The passes of the loop when it is not left. -/
def slices : Nat → UInt64 → List Slice
  | 0, _ => []
  | rest + 1, queriesRest =>
    let timeslicesRest : UInt64 := .ofNat (rest + 1)
    let queriesPerTimeslice :=
      if timeslicesRest = 1 then queriesRest else queriesRest / timeslicesRest
    ⟨timeslicesRest, queriesRest, queriesPerTimeslice⟩ ::
      slices rest (queriesRest - queriesPerTimeslice)

/-- The number of passes up to the one behind which the loop is left. -/
def slicesDone (stop : Nat → Bool) : Nat → Nat
  | 0 => 0
  | rest + 1 => if stop rest then 1 else slicesDone stop rest + 1

/-- The queries of the first `k` slices. -/
def sentAfter (T : Nat) (Q : UInt64) (k : Nat) : Nat :=
  (((slices T Q).take k).map fun z => z.queriesPerTimeslice.toNat).sum

/-- `queries_rest` behind the first `k` slices. -/
def restAfter (T : Nat) (Q : UInt64) (k : Nat) : UInt64 :=
  ((slices T Q).take k).foldl (fun q z => q - z.queriesPerTimeslice) Q

theorem slicesDone_le (stop : Nat → Bool) : ∀ T : Nat, slicesDone stop T ≤ T
  | 0 => le_rfl
  | T + 1 => by
    have := slicesDone_le stop T
    unfold slicesDone
    split <;> omega

theorem slicesDone_never : ∀ T : Nat, slicesDone (fun _ => false) T = T
  | 0 => rfl
  | T + 1 => by
    simp only [slicesDone, Bool.false_eq_true, if_false, slicesDone_never T]

theorem repeatSend_add {σ : Type} (send : σ → Except Abort σ) : ∀ (a b : Nat) (s : σ),
    repeatSend send (a + b) s = repeatSend send a s >>= repeatSend send b
  | 0, b, s => by rw [Nat.zero_add]; rfl
  | a + 1, b, s => by
    rw [Nat.add_right_comm]
    simp only [repeatSend, bind_assoc]
    cases send s with
    | error e => rfl
    | ok s' => exact repeatSend_add send a b s'

/-- **The slice loop is the queries of the slices done.** -/
theorem sliceLoop_eq {σ : Type} (send : σ → Except Abort σ) (stop : Nat → Bool) :
    ∀ (T : Nat) (Q : UInt64) (s : σ),
      sliceLoop send stop T Q s = repeatSend send (sentAfter T Q (slicesDone stop T)) s
  | 0, _, _ => rfl
  | T + 1, Q, s => by
    simp only [sliceLoop, sentAfter, slices, slicesDone]
    generalize (if UInt64.ofNat (T + 1) = 1 then Q else Q / .ofNat (T + 1)) = q
    by_cases h : stop T = true
    · simp only [if_pos h, List.take_succ_cons, List.take_zero, List.map_cons, List.map_nil,
        List.sum_cons, List.sum_nil, Nat.add_zero]
      cases repeatSend send q.toNat s <;> rfl
    · simp only [if_neg h, List.take_succ_cons, List.map_cons, List.sum_cons]
      rw [repeatSend_add]
      cases repeatSend send q.toNat s with
      | error e => rfl
      | ok s' => exact sliceLoop_eq send stop T _ s'

theorem length_slices : ∀ (T : Nat) (Q : UInt64), (slices T Q).length = T
  | 0, _ => rfl
  | T + 1, Q => by rw [slices, List.length_cons, length_slices T]

/-- The queries of a slice, in unbounded numbers; the last slice is no exception. -/
theorem toNat_queries {T : Nat} (hT : T + 1 < 2 ^ 64) (Q : UInt64) :
    (if UInt64.ofNat (T + 1) = 1 then Q else Q / .ofNat (T + 1)).toNat = Q.toNat / (T + 1) := by
  have hn : (UInt64.ofNat (T + 1)).toNat = T + 1 := by
    rw [UInt64.toNat_ofNat', Nat.mod_eq_of_lt hT]
  split
  · rename_i h
    rw [h] at hn
    have h1 : T + 1 = 1 := hn.symm
    rw [h1, Nat.div_one]
  · rw [UInt64.toNat_div, hn]

theorem toNat_rest {Q q : UInt64} {T : Nat} (h : q.toNat = Q.toNat / (T + 1)) :
    (Q - q).toNat = Q.toNat - Q.toNat / (T + 1) := by
  have hle : q ≤ Q := by
    rw [UInt64.le_iff_toNat_le, h]
    exact Nat.div_le_self _ _
  rw [UInt64.toNat_sub_of_le _ _ hle, h]

/-- **The slices share the queries evenly.** -/
theorem map_queries : ∀ (T : Nat) (Q : UInt64), T < 2 ^ 64 →
    (slices T Q).map (fun z => z.queriesPerTimeslice.toNat) = Pacing.shares T Q.toNat
  | 0, _, _ => rfl
  | T + 1, Q, hT => by
    have hq := toNat_queries hT Q
    rw [slices, List.map_cons, map_queries T _ (by omega), toNat_rest hq, Pacing.shares]
    exact congrArg (· :: _) hq

theorem sentAfter_eq {T : Nat} (hT : T < 2 ^ 64) (Q : UInt64) (k : Nat) :
    sentAfter T Q k = ((Pacing.shares T Q.toNat).take k).sum := by
  rw [sentAfter, List.map_take, map_queries T Q hT]

theorem sentAfter_all {T : Nat} (h1 : 1 ≤ T) (hT : T < 2 ^ 64) (Q : UInt64) :
    sentAfter T Q T = Q.toNat := by
  rw [sentAfter_eq hT, List.take_of_length_le (by rw [Pacing.length_shares]), Pacing.sum_shares h1]

/-- What the loop computes in slice `z`: the slices left, and never more queries than are left. -/
theorem slice_ok : ∀ {T : Nat} {Q : UInt64} {z : Nat} {sl : Slice}, T < 2 ^ 64 →
    (slices T Q)[z]? = some sl →
    sl.timeslicesRest.toNat = T - z ∧ sl.queriesRest = restAfter T Q z ∧
      sl.queriesPerTimeslice.toNat ≤ sl.queriesRest.toNat
  | 0, Q, z, sl, _, h => by cases h
  | T + 1, Q, 0, sl, hT, h => by
    rw [slices, List.getElem?_cons_zero, Option.some.injEq] at h
    subst h
    refine ⟨?_, rfl, ?_⟩
    · simp only [UInt64.toNat_ofNat', Nat.mod_eq_of_lt hT, Nat.sub_zero]
    · simp only [toNat_queries hT Q]
      exact Nat.div_le_self _ _
  | T + 1, Q, z + 1, sl, hT, h => by
    rw [slices, List.getElem?_cons_succ] at h
    obtain ⟨h1, h2, h3⟩ := slice_ok (by omega) h
    exact ⟨by omega, h2, h3⟩

/-- The queries sent and the queries left. -/
theorem sentAfter_add_rest : ∀ {T : Nat} (Q : UInt64) (k : Nat), T < 2 ^ 64 →
    sentAfter T Q k + (restAfter T Q k).toNat = Q.toNat
  | 0, Q, k, _ => by simp [sentAfter, restAfter, slices]
  | T + 1, Q, 0, _ => by simp [sentAfter, restAfter]
  | T + 1, Q, k + 1, hT => by
    have hq := toNat_queries hT Q
    have ih := sentAfter_add_rest (Q - if UInt64.ofNat (T + 1) = 1 then Q else Q / .ofNat (T + 1)) k
      (show T < 2 ^ 64 by omega)
    have hle := Nat.div_le_self Q.toNat (T + 1)
    rw [toNat_rest hq] at ih
    simp only [sentAfter, restAfter] at ih
    simp only [sentAfter, restAfter, slices, List.take_succ_cons, List.map_cons, List.sum_cons,
      List.foldl_cons, hq]
    omega

/-- The loop has `T` slices for `Q` queries: how `runWithRateLimit` starts it. -/
theorem runWithRateLimit_slices {σ : Type} (send : σ → Except Abort σ) {t : DNSSenderThread}
    {T : UInt64} (h : t.totalTimeslices = .ok T) (h1 : 1 ≤ T.toNat) (stop : Nat → Bool) (s : σ) :
    runWithRateLimit send t stop s =
      sliceLoop send stop T.toNat (.ofInt t.runtime.toInt * t.queryrate) s := by
  have h0 : T ≠ 0 := by
    rintro rfl
    exact absurd h1 (by decide)
  simp only [runWithRateLimit, h, bind, Except.bind, if_neg h0]

/-- Even pacing of `Q` queries in `T` slices. -/
structure Paced (T Q : UInt64) : Prop where
  /-- However the loop is left, it sends the queries of the slices done. -/
  sends : ∀ (σ : Type) (send : σ → Except Abort σ) (stop : Nat → Bool) (s : σ),
    sliceLoop send stop T.toNat Q s =
      repeatSend send (sentAfter T.toNat Q (slicesDone stop T.toNat)) s
  /-- That loop is the one of `runWithRateLimit`. -/
  runs : ∀ (t : DNSSenderThread), t.totalTimeslices = .ok T →
    .ofInt t.runtime.toInt * t.queryrate = Q →
    ∀ (σ : Type) (send : σ → Except Abort σ) (stop : Nat → Bool) (s : σ),
      runWithRateLimit send t stop s = sliceLoop send stop T.toNat Q s
  /-- Run to completion, it does all slices and sends all queries. -/
  completes : slicesDone (fun _ => false) T.toNat = T.toNat ∧
    (slices T.toNat Q).length = T.toNat ∧ sentAfter T.toNat Q T.toNat = Q.toNat
  /-- The divisor in slice `z`. -/
  divisor : ∀ z sl, (slices T.toNat Q)[z]? = some sl →
    sl.timeslicesRest.toNat = T.toNat - z ∧ sl.timeslicesRest ≠ 0
  even : ∀ sl ∈ slices T.toNat Q, sl.queriesPerTimeslice.toNat = Q.toNat / T.toNat ∨
    sl.queriesPerTimeslice.toNat = Q.toNat ⌈/⌉ T.toNat
  mono : (slices T.toNat Q).Pairwise fun y z => y.queriesPerTimeslice ≤ z.queriesPerTimeslice
  /-- After `k` slices: not behind the rounded rate, not ahead of the linear schedule. -/
  schedule : ∀ k ≤ T.toNat, k * (Q.toNat / T.toNat) ≤ sentAfter T.toNat Q k ∧
    sentAfter T.toNat Q k * T.toNat ≤ k * Q.toNat
  /-- `queries_rest` does not wrap: a slice takes no more than is left, and the rest is exact. -/
  rest : ∀ z sl, (slices T.toNat Q)[z]? = some sl → sl.queriesRest = restAfter T.toNat Q z ∧
    sl.queriesPerTimeslice.toNat ≤ sl.queriesRest.toNat
  restAfter_eq : ∀ k ≤ T.toNat,
    sentAfter T.toNat Q k + (restAfter T.toNat Q k).toNat = Q.toNat
  restAfter_last : restAfter T.toNat Q T.toNat = 0

/-- **Even pacing**, for every number of slices and of queries. -/
theorem paced {T : UInt64} (hT : 1 ≤ T.toNat) (Q : UInt64) : Paced T Q := by
  have hlt := T.toNat_lt
  have hall := sentAfter_all hT hlt Q
  constructor
  case sends =>
    intro σ send stop s
    exact sliceLoop_eq send stop _ _ s
  case runs =>
    intro t ht hQ σ send stop s
    rw [runWithRateLimit_slices send ht hT, hQ]
  case completes => exact ⟨slicesDone_never _, length_slices _ _, hall⟩
  case divisor =>
    intro z sl hz
    have h1 := (slice_ok hlt hz).1
    have hz' := (List.getElem?_eq_some_iff.1 hz).1
    rw [length_slices] at hz'
    refine ⟨h1, ?_⟩
    intro h0
    have : 0 = T.toNat - z := by rwa [h0] at h1
    omega
  case even =>
    intro sl hsl
    apply Pacing.mem_shares hT
    rw [← map_queries _ _ hlt]
    exact List.mem_map_of_mem hsl
  case mono =>
    have hp := Pacing.pairwise_shares hT Q.toNat
    rw [← map_queries _ _ hlt, List.pairwise_map] at hp
    exact hp
  case schedule =>
    intro k hk
    rw [sentAfter_eq hlt]
    exact ⟨Pacing.mul_div_le_sum_take hT hk _, Pacing.sum_take_mul_le hT hk _⟩
  case rest =>
    intro z sl hz
    exact (slice_ok hlt hz).2
  case restAfter_eq =>
    intro k _
    exact sentAfter_add_rest Q k hlt
  case restAfter_last =>
    have h := sentAfter_add_rest (T := T.toNat) Q T.toNat hlt
    rw [hall] at h
    exact UInt64.toNat_inj.1 (show (restAfter T.toNat Q T.toNat).toNat = 0 by omega)

/-- Seven queries in three slices: two, two, three. -/
theorem paced_seven_over_three :
    (slices 3 7).map (·.queriesPerTimeslice) = [2, 2, 3] ∧ Paced 3 7 :=
  ⟨by decide, paced (by decide) 7⟩

end DNSSenderThread

end Dnsmeter
