import Dnsmeter.Lib.Extrema
import Dnsmeter.Proof.Counters
import Mathlib.Algebra.Order.BigOperators.Group.List
import Mathlib.Tactic.FieldSimp
import Mathlib.Tactic.Linarith

/-!
# The round trip times of a step

`count_packet` keeps minimum, maximum and total of the round trip times. It takes a minimum of 0 for
"not set", but an answer within the tick of its query has the round trip time 0.

* `rtt_foldl`: the three variables in ticks.
* `rtt_exact_iff`: minimum, maximum, total and the order of the average are right iff no answer of
  the step took 0 ticks, or the last one did; in every order of arrival iff none did, or all did.
-/

namespace Dnsmeter

/-- The round trip time of a counted answer, in ticks. -/
def Answer.ticks (a : Answer) : Nat := (queryRTTTicks a.tp (ntohs a.dns.id)).toNat

namespace Counter

/-- Minimum, maximum and total, given in ticks. -/
structure Rtt (c : Counter) (min max total : Nat) : Prop where
  rttMin : c.rttMin = min / 10000
  rttMax : c.rttMax = max / 10000
  rttTotal : c.rttTotal = total / 10000

theorem Rtt.countAnswer {c : Counter} {m M S : Nat} (h : c.Rtt m M S) (a : Answer) :
    (c.countAnswer a).Rtt (Extrema.runMin m a.ticks) (max M a.ticks) (S + a.ticks) := by
  have hrd : getQueryRTT a.tp (ntohs a.dns.id) = (a.ticks : ℚ) / 10000 := rfl
  have hlt : ∀ x y : Nat, (x : ℚ) / 10000 < y / 10000 ↔ x < y := by
    intro x y
    rw [div_lt_div_iff_of_pos_right (by norm_num), Nat.cast_lt]
  have hz : ∀ x : Nat, (x : ℚ) / 10000 = 0 ↔ x = ⊥ := by
    intro x
    rw [div_eq_zero_iff, or_iff_left (by norm_num), Nat.cast_eq_zero]
    rfl
  constructor
  · simp only [Counter.countAnswer, count, hrd, h.rttMin, hlt, hz, Extrema.runMin]
    split <;> rfl
  · simp only [Counter.countAnswer, count, hrd, h.rttMax, gt_iff_lt, hlt]
    split
    · rename_i hgt
      rw [max_eq_right hgt.le]
    · rename_i hle
      rw [max_eq_left (not_lt.1 hle)]
  · simp only [Counter.countAnswer, count, hrd, h.rttTotal, Nat.cast_add, add_div]

theorem rtt_foldl : ∀ (as : List Answer) {c : Counter} {m M S : Nat}, c.Rtt m M S →
    (as.foldl Counter.countAnswer c).Rtt ((as.map Answer.ticks).foldl Extrema.runMin m)
      ((as.map Answer.ticks).foldl max M) (S + (as.map Answer.ticks).sum)
  | [], c, m, M, S, h => h
  | a :: as, c, m, M, S, h => by
    have hrest := rtt_foldl as (h.countAnswer a)
    rw [Nat.add_assoc] at hrest
    exact hrest

theorem rtt_zero : zero.Rtt ⊥ ⊥ 0 :=
  ⟨(by simp [zero, new]), (by simp [zero, new]), (by simp [zero, new])⟩

/-- What `clear` leaves in `rcodes[15]` does not touch the round trip times. -/
theorem Rtt.carry {c : Counter} {m M S : Nat} (h : c.Rtt m M S) (g : UInt64) :
    (c.carry g).Rtt m M S :=
  ⟨h.rttMin, h.rttMax, h.rttTotal⟩

/-- The counters of a step that has counted `as`; `g` was left in `rcodes[15]`. -/
theorem numPkgs_step (as : List Answer) (g : UInt64) :
    ((as.foldl countAnswer zero).carry g).numPkgs = .ofNat as.length := by
  have h := numPkgs_foldl as zero
  rw [show zero.numPkgs = 0 from rfl, zero_add] at h
  exact h

theorem rtt_step (as : List Answer) (g : UInt64) : ((as.foldl countAnswer zero).carry g).Rtt
    ((as.map Answer.ticks).foldl Extrema.runMin ⊥) ((as.map Answer.ticks).foldl max ⊥)
    (as.map Answer.ticks).sum := by
  have h := rtt_foldl as rtt_zero
  rw [Nat.zero_add] at h
  exact h.carry g

end Counter

/-- The statistics of the answers are right, in the counters and in the results. -/
structure RttExact (c : Counter) (as : List Answer) : Prop where
  min : (as.map Answer.ticks).min?.map (fun m : Nat => (m / 10000 : ℚ)) = some c.rttMin
  max : (as.map Answer.ticks).max?.map (fun m : Nat => (m / 10000 : ℚ)) = some c.rttMax
  total : c.rttTotal = ((as.map Answer.ticks).sum : Nat) / 10000
  results : as.length < 2 ^ 64 → ∀ s : DNSSender, s.receiver.map (·.counter) = some c →
    s.getResults.rttMin = c.rttMin ∧ s.getResults.rttMax = c.rttMax ∧
      s.getResults.rttTotal = c.rttTotal ∧ s.getResults.rttMin ≤ s.getResults.rttAvg ∧
      s.getResults.rttAvg ≤ s.getResults.rttMax

section
variable {c : Counter} {as : List Answer} {m M : Nat}

/-- The average lies between minimum and maximum. -/
theorem avg_mem (hne : as ≠ []) (hlen : as.length < 2 ^ 64) (hn : c.numPkgs = .ofNat as.length)
    (hc : c.Rtt m M (as.map Answer.ticks).sum) (hm : (as.map Answer.ticks).min? = some m)
    (hM : (as.map Answer.ticks).max? = some M) {s : DNSSender}
    (hs : s.receiver.map (·.counter) = some c) :
    s.getResults.rttMin ≤ s.getResults.rttAvg ∧ s.getResults.rttAvg ≤ s.getResults.rttMax := by
  obtain ⟨r, hr, rfl⟩ := Option.map_eq_some_iff.1 hs
  have hN : r.counter.numPkgs.toNat = as.length := by
    rw [hn, UInt64.toNat_ofNat', Nat.mod_eq_of_lt hlen]
  have hpos : 0 < as.length := List.length_pos_iff.2 hne
  have h0 : r.counter.numPkgs ≠ 0 := by
    intro h
    rw [h] at hN
    have : 0 = as.length := hN
    omega
  have hlo : as.length * m ≤ (as.map Answer.ticks).sum := by
    have := List.card_nsmul_le_sum _ m (List.min?_eq_some_iff.1 hm).2
    rwa [List.length_map] at this
  have hhi : (as.map Answer.ticks).sum ≤ as.length * M := by
    have := List.sum_le_card_nsmul _ M (List.max?_eq_some_iff.1 hM).2
    rwa [List.length_map] at this
  have hposQ : (0 : ℚ) < as.length := by exact_mod_cast hpos
  have hloQ : (as.length : ℚ) * m ≤ ((as.map Answer.ticks).sum : Nat) := by exact_mod_cast hlo
  have hhiQ : (((as.map Answer.ticks).sum : Nat) : ℚ) ≤ as.length * M := by exact_mod_cast hhi
  simp only [DNSSender.getResults, hr, DNSSender.addReceiver, if_pos h0, hc.rttMin, hc.rttMax,
    hc.rttTotal, hN]
  constructor
  · rw [le_div_iff₀ hposQ]
    linarith
  · rw [div_le_iff₀ hposQ]
    linarith

/-- **When the statistics of a sequence of answers are right.** -/
theorem rttExact_iff (hne : as ≠ []) (hn : c.numPkgs = .ofNat as.length)
    (hc : c.Rtt ((as.map Answer.ticks).foldl Extrema.runMin ⊥)
      ((as.map Answer.ticks).foldl Max.max ⊥) (as.map Answer.ticks).sum) :
    RttExact c as ↔ (∀ a ∈ as, a.ticks ≠ 0) ∨ as.getLast?.map Answer.ticks = some 0 := by
  have hne' : as.map Answer.ticks ≠ [] := by simpa using hne
  have hmax := Extrema.max?_eq_foldl_max hne'
  have hcond := Extrema.min?_eq_runMin_iff hne'
  rw [List.getLast?_map] at hcond
  have hall : (∀ x ∈ as.map Answer.ticks, x ≠ ⊥) ↔ ∀ a ∈ as, a.ticks ≠ 0 := by
    simp only [List.forall_mem_map]
    exact Iff.rfl
  rw [hall] at hcond
  refine Iff.trans ⟨?_, ?_⟩ hcond
  · intro h
    obtain ⟨m, hm, hq⟩ := Option.map_eq_some_iff.1 h.min
    rw [hc.rttMin, div_left_inj' (by norm_num), Nat.cast_inj] at hq
    rw [hm, hq]
  · intro hmin
    refine ⟨by rw [hmin, hc.rttMin]; rfl, by rw [hmax, hc.rttMax]; rfl, hc.rttTotal, ?_⟩
    intro hlen s hs
    obtain ⟨hlo, hhi⟩ := avg_mem hne hlen hn hc hmin hmax hs
    obtain ⟨r, hr, rfl⟩ := Option.map_eq_some_iff.1 hs
    refine ⟨?_, ?_, ?_, hlo, hhi⟩ <;> simp only [DNSSender.getResults, hr, DNSSender.addReceiver]

end

/-- The counters of a sequence of answers alone. -/
theorem rttExact_foldl_iff {as : List Answer} (hne : as ≠ []) (g : UInt64) :
    RttExact ((as.foldl Counter.countAnswer Counter.zero).carry g) as ↔
      (∀ a ∈ as, a.ticks ≠ 0) ∨ as.getLast?.map Answer.ticks = some 0 :=
  rttExact_iff hne (Counter.numPkgs_step as g) (Counter.rtt_step as g)

/-- In every order: an answer that took time can arrive last. -/
theorem forall_perm_iff {as : List Answer} (hne : as ≠ []) :
    (∀ as' : List Answer, as'.Perm as →
      (∀ a ∈ as', a.ticks ≠ 0) ∨ as'.getLast?.map Answer.ticks = some 0) ↔
    (∀ a ∈ as, a.ticks ≠ 0) ∨ ∀ a ∈ as, a.ticks = 0 := by
  constructor
  · intro h
    by_contra hcond
    rw [not_or] at hcond
    obtain ⟨h1, h2⟩ := hcond
    push Not at h1 h2
    obtain ⟨a, ha, ha0⟩ := h1
    obtain ⟨b, hb, hb0⟩ := h2
    obtain ⟨l, r, rfl⟩ := List.append_of_mem hb
    have hperm : (l ++ r ++ [b]).Perm (l ++ b :: r) := by
      rw [List.append_assoc]
      exact (List.perm_append_comm : (r ++ [b]).Perm ([b] ++ r)).append_left l
    rcases h (l ++ r ++ [b]) hperm with hall | hlast
    · exact hall a (hperm.mem_iff.2 ha) ha0
    · rw [List.getLast?_append] at hlast
      exact hb0 (Option.some.inj hlast)
  · rintro (h | h) as' hp
    · exact .inl fun a ha => h a (hp.mem_iff.1 ha)
    · have hne' : as' ≠ [] := by
        rintro rfl
        exact hne hp.nil_eq.symm
      refine .inr ?_
      rw [List.getLast?_eq_some_getLast hne', Option.map_some]
      exact congrArg some (h _ (hp.mem_iff.1 (List.getLast_mem hne')))

/-- **When the round trip times of a step are right.** -/
theorem rtt_exact_iff {t t' : DNSReceiverThread} {es : List (Option Bytes × Option Timeval)}
    (h : t.run es = .ok t') (hne : (t.socket.answers es).2 ≠ []) :
    (RttExact t'.counter (t.socket.answers es).2 ↔
      (∀ a ∈ (t.socket.answers es).2, a.ticks ≠ 0) ∨
        (t.socket.answers es).2.getLast?.map Answer.ticks = some 0) ∧
    ((∀ as, as.Perm (t.socket.answers es).2 →
        RttExact (as.foldl Counter.countAnswer t.counter.clear) as) ↔
      (∀ a ∈ (t.socket.answers es).2, a.ticks ≠ 0) ∨
        ∀ a ∈ (t.socket.answers es).2, a.ticks = 0) := by
  rw [DNSReceiverThread.run_eq] at h
  cases h
  refine ⟨rttExact_foldl_iff hne _, ?_⟩
  rw [← forall_perm_iff hne]
  apply forall_congr'
  intro as
  apply imp_congr_right
  intro hp
  have hne' : as ≠ [] := by
    rintro rfl
    exact hne hp.nil_eq.symm
  rw [Counter.foldl_clear]
  exact rttExact_foldl_iff hne' _

/-- The answer, counted within the tick of its query, and counted 5 ticks later. -/
def atOnce : Option Bytes × Option Timeval := (some answerFrame, some ⟨0, 0, by decide⟩)
def afterFive : Option Bytes × Option Timeval := (some answerFrame, some ⟨0, 500, by decide⟩)

theorem rtt_exact_five_then_zero : ∃ t', answerReceiver.run [afterFive, atOnce] = .ok t' ∧
    t'.counter.rttMin = 0 ∧
    RttExact t'.counter (answerReceiver.socket.answers [afterFive, atOnce]).2 := by
  obtain ⟨t', h, hmin, hlen, hlast⟩ : ∃ t', answerReceiver.run [afterFive, atOnce] = .ok t' ∧
      t'.counter.rttMin = 0 ∧
      0 < (answerReceiver.socket.answers [afterFive, atOnce]).2.length ∧
      (answerReceiver.socket.answers [afterFive, atOnce]).2.getLast?.map Answer.ticks = some 0 :=
    ⟨_, rfl, by decide +kernel, by decide +kernel, by decide +kernel⟩
  exact ⟨t', h, hmin, (rtt_exact_iff h (List.ne_nil_of_length_pos hlen)).1.2 (.inr hlast)⟩

/-- The other way round the minimum is 5 ticks. -/
theorem rtt_zero_then_five : ∃ t', answerReceiver.run [atOnce, afterFive] = .ok t' ∧
    (answerReceiver.socket.answers [atOnce, afterFive]).2.map Answer.ticks = [0, 5] ∧
    t'.counter.rttMin = 5 / 10000 ∧
    ¬ RttExact t'.counter (answerReceiver.socket.answers [atOnce, afterFive]).2 := by
  obtain ⟨t', h, hticks, hmin⟩ : ∃ t', answerReceiver.run [atOnce, afterFive] = .ok t' ∧
      (answerReceiver.socket.answers [atOnce, afterFive]).2.map Answer.ticks = [0, 5] ∧
      t'.counter.rttMin = 5 / 10000 :=
    ⟨_, rfl, by decide +kernel, by decide +kernel⟩
  refine ⟨t', h, hticks, hmin, ?_⟩
  intro hex
  have hm := hex.min
  rw [hticks, hmin] at hm
  exact absurd hm (by decide +kernel)

end Dnsmeter
