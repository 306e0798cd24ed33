import Dnsmeter.Proof.Rtt
import Dnsmeter.Proof.RttStats

/-!
# Answers with foreign ids

The receiver takes the id of any answer for a time stamp, also one that `getQueryTimestamp` never
returns. `getQueryRTT` brings a difference that is negative into the cycle of 60000 ticks by adding
the cycle once, and cuts what it gets down to an `unsigned short`: from ids further ahead than that
the round trip time is more than the cycle's 6 seconds.

* `ticks_lt_iff`: they are in the cycle iff the id is at most a cycle ahead of the clock.
* `foreign_ids_iff`: the statistics of a step stay below 6 seconds an answer iff all its ids are.
-/

namespace Dnsmeter

namespace Answer

/-- The id is at most a cycle ahead of the clock the answer is counted at. -/
def Datable (a : Answer) : Prop := (ntohs a.dns.id).toNat ≤ 60000 + cycleTick a.tp

/-- **When a round trip time is in the cycle.** -/
theorem ticks_lt_iff (a : Answer) : a.ticks < 60000 ↔ a.Datable := by
  have hlt := cycleTick_lt a.tp
  have hid := (ntohs a.dns.id).toNat_lt
  unfold ticks Datable
  rw [toNat_queryRTTTicks_eq]
  split
  · omega
  split <;> omega

theorem datable_of_le {a : Answer} (h : (ntohs a.dns.id).toNat ≤ 60000) : a.Datable :=
  Nat.le_trans h (Nat.le_add_right _ _)

/-- The ids `getQueryTimestamp` returns are never too far ahead. -/
theorem datable_of_own {a : Answer} {sent : Option Timeval}
    (h : ntohs a.dns.id = getQueryTimestamp sent) : a.Datable := by
  refine datable_of_le ?_
  rw [h, toNat_getQueryTimestamp_eq]
  exact (cycleTick_lt sent).le

end Answer

/-- The round trip times that have been counted are less than a cycle each. Before the first answer
`rtt_total` and `num_pkgs` are both 0. -/
structure RttPossible (c : Counter) (as : List Answer) : Prop where
  samples : ∀ a ∈ as, a.ticks < 60000 ∧ getQueryRTT a.tp (ntohs a.dns.id) < 6
  rttMax : c.rttMax < 6
  rttTotal : as ≠ [] → as.length < 2 ^ 64 → c.rttTotal < 6 * c.numPkgs.toNat

section
variable {c : Counter} {as : List Answer} {m : Nat}

theorem sum_ticks_lt (hne : as ≠ []) (h : ∀ a ∈ as, a.ticks < 60000) :
    (as.map Answer.ticks).sum < 60000 * as.length := by
  have hle := List.sum_le_card_nsmul (as.map Answer.ticks) 59999 (by
    intro x hx
    obtain ⟨a, ha, rfl⟩ := List.mem_map.1 hx
    exact Nat.le_of_lt_succ (h a ha))
  have hpos := List.length_pos_iff.2 hne
  rw [List.length_map, smul_eq_mul] at hle
  omega

theorem rttPossible_iff (hn : c.numPkgs = .ofNat as.length)
    (hc : c.Rtt m ((as.map Answer.ticks).foldl max ⊥) (as.map Answer.ticks).sum) :
    RttPossible c as ↔ ∀ a ∈ as, a.Datable := by
  constructor
  · intro h a ha
    exact a.ticks_lt_iff.1 (h.samples a ha).1
  · intro h
    have hticks : ∀ a ∈ as, a.ticks < 60000 := fun a ha => a.ticks_lt_iff.2 (h a ha)
    have hsix : ∀ n : Nat, n < 60000 → (n : ℚ) / 10000 < 6 := by
      intro n hlt
      have : (n : ℚ) < 60000 := by exact_mod_cast hlt
      linarith
    refine ⟨fun a ha => ⟨hticks a ha, hsix _ (hticks a ha)⟩, ?_, ?_⟩
    · rw [hc.rttMax]
      refine hsix _ (Extrema.foldl_max_lt_iff.2 ⟨Nat.zero_lt_succ _, ?_⟩)
      intro x hx
      obtain ⟨a, ha, rfl⟩ := List.mem_map.1 hx
      exact hticks a ha
    · intro hne hlen
      have hsum : (((as.map Answer.ticks).sum : Nat) : ℚ) < 60000 * as.length := by
        exact_mod_cast sum_ticks_lt hne hticks
      rw [hc.rttTotal, hn, Tally.toNat_ofNat hlen]
      linarith

/-- The counters of a step behind any of its answers. -/
theorem rttPossible_foldl_iff (c : Counter) (as : List Answer) :
    RttPossible (as.foldl Counter.countAnswer c.clear) as ↔ ∀ a ∈ as, a.Datable := by
  rw [Counter.foldl_clear]
  exact rttPossible_iff (Counter.numPkgs_step as _) (Counter.rtt_step as _)

end

/-- A step, or its first part, of the receiver. -/
theorem rttPossible_run_iff (t : DNSReceiverThread) (es : List (Option Bytes × Option Timeval)) :
    (∃ t', t.run es = .ok t' ∧ RttPossible t'.counter (t.socket.answers es).2) ↔
      ∀ a ∈ (t.socket.answers es).2, a.Datable := by
  rw [← rttPossible_foldl_iff t.counter, Counter.foldl_clear, DNSReceiverThread.run_eq]
  constructor
  · rintro ⟨t', ht, h⟩
    cases ht
    exact h
  · intro h
    exact ⟨_, rfl, h⟩

/-- A statement about every moment of a step is one about all its answers. -/
theorem forall_take_iff {α : Type} {P : α → Prop} {l : List α} :
    (∀ n, ∀ a ∈ l.take n, P a) ↔ ∀ a ∈ l, P a := by
  constructor
  · intro h a ha
    exact h l.length a (by rwa [List.take_length])
  · intro h n a ha
    exact h a (List.mem_of_mem_take ha)

theorem mem_answers_take {r : RawSocketReceiver} {es : List (Option Bytes × Option Timeval)} {n : Nat}
    {a : Answer} (h : a ∈ (r.answers (es.take n)).2) : a ∈ (r.answers es).2 := by
  rw [← List.take_append_drop n es, RawSocketReceiver.answers_append]
  exact List.mem_append_left _ h

/-- **When foreign ids produce no impossible round trip times**: the ids counted are at most a cycle
ahead of the clock. For any sequence of counted frames, and for a step of the receiver. -/
theorem foreign_ids_iff (c : Counter) (as : List Answer) (t : DNSReceiverThread)
    (es : List (Option Bytes × Option Timeval)) :
    ((∀ n, RttPossible ((as.take n).foldl Counter.countAnswer c.clear) (as.take n)) ↔
      ∀ a ∈ as, a.Datable) ∧
    ((∀ n, ∃ t', t.run (es.take n) = .ok t' ∧
        RttPossible t'.counter (t.socket.answers (es.take n)).2) ↔
      ∀ a ∈ (t.socket.answers es).2, a.Datable) := by
  constructor
  · simp only [rttPossible_foldl_iff]
    exact forall_take_iff
  · simp only [rttPossible_run_iff]
    constructor
    · intro h
      have hall := h es.length
      rwa [List.take_length] at hall
    · intro h n a ha
      exact h a (mem_answers_take ha)

/-- An answer with the id 65535 from 10.0.0.1 port 53, counted at the start of a cycle. -/
def foreignAnswer : Option Bytes × Option Timeval :=
  (some (List.replicate 12 0 ++ [0x08, 0x00, 0x45] ++ List.replicate 8 0 ++
    [17, 0, 0, 10, 0, 0, 1] ++ List.replicate 4 0 ++ [0, 53] ++ List.replicate 6 0 ++
    [255, 255, 128] ++ List.replicate 9 0), some ⟨0, 0, Nat.succ_pos _⟩)

/-- Its round trip time is 6.0001 seconds. -/
theorem foreign_id_impossible : ∃ t', answerReceiver.run [foreignAnswer] = .ok t' ∧
    t'.counter.numPkgs = 1 ∧ t'.counter.rttMax = 60001 / 10000 ∧
    t'.counter.rttTotal = 60001 / 10000 ∧
    ¬ RttPossible t'.counter (answerReceiver.socket.answers [foreignAnswer]).2 := by
  obtain ⟨t', h, hn, hmax, htotal⟩ : ∃ t', answerReceiver.run [foreignAnswer] = .ok t' ∧
      t'.counter.numPkgs = 1 ∧ t'.counter.rttMax = 60001 / 10000 ∧
      t'.counter.rttTotal = 60001 / 10000 :=
    ⟨_, rfl, by decide +kernel, by decide +kernel, by decide +kernel⟩
  refine ⟨t', h, hn, hmax, htotal, fun hp => ?_⟩
  have hlt := hp.rttMax
  rw [hmax] at hlt
  norm_num at hlt

end Dnsmeter
