import Dnsmeter.Proof.Pacing
import Dnsmeter.Proof.Thread
import Mathlib.Tactic.FieldSimp
import Mathlib.Tactic.Linarith
import Mathlib.Tactic.NormNum

/-!
# The query rate

`run(r)` gives each of `n` threads the rate `r / n`, rounded down, and a time slice that
`setTimeslice` rejects when `r < n`. A thread then sends `Runtime * (r / n)` queries in its slices.

* `runWithRateLimit_never`: the slices of a thread that is not stopped add up to its queries.
* `setRates_iff`, `setRates_thread`: which rates `run` accepts, and what the threads get.
* `totalTimeslices_ok`, `totalTimeslices_overflow`: the number of slices, computed from the `int`
  `runtime * 1000`.
* `rate_delivered_iff`, `rate_limited_iff`: when the requested rate is delivered, and when every
  thread has slices to send in.
-/

namespace Dnsmeter

namespace DNSSenderThread

/-- A thread that has slices and is not stopped sends all its queries. -/
theorem runWithRateLimit_never {σ : Type} (send : σ → Except Abort σ) {t : DNSSenderThread}
    {total : UInt64} (h : t.totalTimeslices = .ok total) (h1 : 1 ≤ total.toNat) (s : σ) :
    runWithRateLimit send t (fun _ => false) s =
      repeatSend send (.ofInt t.runtime.toInt * t.queryrate : UInt64).toNat s := by
  rw [runWithRateLimit_slices send h h1, sliceLoop_eq, slicesDone_never,
    sentAfter_all h1 total.toNat_lt]

/-! ## The number of slices -/

section
variable {t : DNSSenderThread}

theorem totalTimeslices_ok (h1 : 1 ≤ t.runtime.toInt) (h2 : t.runtime.toInt * 1000 < 2 ^ 31)
    (hlo : 1 / 10 ≤ t.timeslice * 1000) (hhi : t.timeslice * 1000 ≤ 1000) :
    ∃ total, t.totalTimeslices = .ok total ∧ 1 ≤ total.toNat := by
  have hmul : mulInt t.runtime 1000 = .ok (.ofInt (t.runtime.toInt * 1000)) :=
    if_pos (show -2 ^ 31 ≤ t.runtime.toInt * 1000 ∧ t.runtime.toInt * 1000 < 2 ^ 31 by omega)
  have hms : (Int32.ofInt (t.runtime.toInt * 1000)).toInt = t.runtime.toInt * 1000 :=
    Int32.toInt_ofInt_of_le (by omega) h2
  have hne : t.timeslice ≠ 0 := by
    intro h
    rw [h] at hlo
    norm_num at hlo
  have hpos : (0 : ℚ) < t.timeslice * 1000 := by linarith
  have hR : (1 : ℚ) ≤ t.runtime.toInt := by exact_mod_cast h1
  have hR2 : (t.runtime.toInt : ℚ) * 1000 < 2 ^ 31 := by exact_mod_cast h2
  have hge : (1 : ℚ) ≤ (t.runtime.toInt * 1000 : ℤ) / (t.timeslice * 1000) := by
    rw [le_div_iff₀ hpos]
    push_cast
    linarith
  have hlt : ((t.runtime.toInt * 1000 : ℤ) : ℚ) / (t.timeslice * 1000) < 2 ^ 64 := by
    rw [div_lt_iff₀ hpos]
    push_cast
    linarith
  have hfloor : 1 ≤ ⌊((t.runtime.toInt * 1000 : ℤ) : ℚ) / (t.timeslice * 1000)⌋ :=
    Int.le_floor.2 (by exact_mod_cast hge)
  have hfloor' : ⌊((t.runtime.toInt * 1000 : ℤ) : ℚ) / (t.timeslice * 1000)⌋ < 2 ^ 64 :=
    Int.floor_lt.2 (by exact_mod_cast hlt)
  refine ⟨.ofNat ⌊((t.runtime.toInt * 1000 : ℤ) : ℚ) / (t.timeslice * 1000)⌋.toNat, ?_, ?_⟩
  · simp only [totalTimeslices, hmul, bind, Except.bind, if_neg hne, hms]
    exact if_pos ⟨by linarith, hlt⟩
  · rw [UInt64.toNat_ofNat']
    omega

theorem totalTimeslices_overflow (h : 2 ^ 31 ≤ t.runtime.toInt * 1000) :
    t.totalTimeslices = .error .signedOverflow := by
  have hmul : mulInt t.runtime 1000 = .error .signedOverflow :=
    if_neg (show ¬ (-2 ^ 31 ≤ t.runtime.toInt * 1000 ∧ t.runtime.toInt * 1000 < 2 ^ 31) by omega)
  simp only [totalTimeslices, hmul, bind, Except.bind]

/-- How often a thread that is not stopped calls `sendPacket`: its loop run on a counter. -/
def calls (t : DNSSenderThread) : Except Abort Nat :=
  runLoop (fun k => .ok (k + 1)) t (fun _ => false) 0 0

theorem repeatSend_count : ∀ n k : Nat, repeatSend (fun k => .ok (k + 1)) n k = .ok (k + n)
  | 0, _ => rfl
  | n + 1, k => by
    show repeatSend (fun k => .ok (k + 1)) n (k + 1) = _
    rw [repeatSend_count n]
    congr 1
    omega

/-- The threads of a step: run time `R`, rate `q`, a time slice that `setTimeslice` accepts. -/
structure Limited (t : DNSSenderThread) (R q : Int) : Prop where
  runtime : t.runtime.toInt = R
  queryrate : t.queryrate.toNat = q.toNat
  pos : 1 ≤ q
  lt : q < 2 ^ 31
  timeslice_ge : 1 / 10 ≤ t.timeslice * 1000
  timeslice_le : t.timeslice * 1000 ≤ 1000

variable {R q : Int}

theorem Limited.one_le_queryrate (h : t.Limited R q) : 1 ≤ t.queryrate.toNat := by
  have := h.queryrate
  have := h.pos
  omega

theorem Limited.loop (h : t.Limited R q) : t.loop = .runWithRateLimit := by
  have hpos : (0 : UInt64) < t.queryrate := by
    rw [UInt64.lt_iff_toNat_lt]
    exact h.one_le_queryrate
  exact if_pos hpos

/-- The number of queries does not wrap. -/
theorem Limited.queries (h : t.Limited R q) (h1 : 1 ≤ R) (h2 : R * 1000 < 2 ^ 31) :
    (.ofInt t.runtime.toInt * t.queryrate : UInt64).toNat = (R * q).toNat := by
  have hq := h.queryrate
  have hpos := h.pos
  have hlt := h.lt
  have hprod : (R * q).toNat = R.toNat * q.toNat := Int.toNat_mul (by omega) (by omega)
  have hbound : R.toNat * q.toNat < 2 ^ 31 * 2 ^ 31 :=
    Nat.mul_lt_mul'' (by omega) (by omega)
  rw [UInt64.toNat_mul, hq, h.runtime, hprod, UInt64.ofInt, UInt64.toNat_ofNat']
  have hR : (R % 2 ^ 64).toNat % 2 ^ 64 = R.toNat := by omega
  rw [hR, Nat.mod_eq_of_lt (by omega)]

/-- **The loop of a thread that is not stopped is `R * q` calls of `sendPacket`.** -/
theorem Limited.runLoop (h : t.Limited R q) (h1 : 1 ≤ R) (h2 : R * 1000 < 2 ^ 31) {σ : Type}
    (send : σ → Except Abort σ) (blocks : Nat) (s : σ) :
    DNSSenderThread.runLoop send t (fun _ => false) blocks s = repeatSend send (R * q).toNat s := by
  obtain ⟨total, ht, htot⟩ := totalTimeslices_ok (by rw [h.runtime]; exact h1)
    (by rw [h.runtime]; exact h2) h.timeslice_ge h.timeslice_le
  rw [DNSSenderThread.runLoop, h.loop]
  exact (runWithRateLimit_never send ht htot s).trans (by rw [h.queries h1 h2])

theorem Limited.calls (h : t.Limited R q) (h1 : 1 ≤ R) (h2 : R * 1000 < 2 ^ 31) :
    t.calls = .ok (R * q).toNat := by
  rw [DNSSenderThread.calls, h.runLoop h1 h2, repeatSend_count, Nat.zero_add]

theorem Limited.calls_overflow (h : t.Limited R q) (h2 : 2 ^ 31 ≤ R * 1000) :
    t.calls = .error .signedOverflow := by
  rw [DNSSenderThread.calls, DNSSenderThread.runLoop, h.loop]
  simp only [runWithRateLimit, totalTimeslices_overflow (t := t) (by rw [h.runtime]; exact h2), bind,
    Except.bind]

end

end DNSSenderThread

/-! ## The rates `run` accepts -/

namespace DNSSender

open DNSSenderThread

variable {s v : DNSSender} {n R r : Int32}

theorem divInt_ok (hn : 1 ≤ n.toInt) (hr : 1 ≤ r.toInt) :
    ∃ share, divInt r n = .ok share ∧ share.toInt = r.toInt / n.toInt := by
  have hne : n ≠ 0 := by
    rintro rfl
    exact absurd hn (by decide)
  have hlt := r.toInt_lt
  have hq : r.toInt.tdiv n.toInt = r.toInt / n.toInt := Int.tdiv_eq_ediv_of_nonneg (by omega)
  have hle : r.toInt / n.toInt ≤ r.toInt := Int.ediv_le_self _ (by omega)
  have hge : 0 ≤ r.toInt / n.toInt := Int.ediv_nonneg (by omega) (by omega)
  refine ⟨.ofInt (r.toInt / n.toInt), ?_, Int32.toInt_ofInt_of_le (by omega) (by omega)⟩
  simp only [divInt, if_neg hne, hq]
  exact if_pos (by omega)

/-- The time slice lies between 0.1 ms and, if there are no more threads than queries, 1 s. -/
theorem timeslices_calcTimeslice (s : DNSSender) (hr : 1 ≤ r.toInt) :
    1 / 10 ≤ (s.calcTimeslice r).timeslices ∧
      ((s.calcTimeslice r).timeslices ≤ 1000 ↔ s.threadCount.toInt ≤ r.toInt) := by
  have hr' : (0 : ℚ) < r.toInt := by exact_mod_cast hr
  have hle : (1000 / (r.toInt : ℚ) * s.threadCount.toInt ≤ 1000) ↔
      s.threadCount.toInt ≤ r.toInt := by
    rw [div_mul_eq_mul_div, div_le_iff₀ hr']
    constructor
    · intro h
      have : (s.threadCount.toInt : ℚ) ≤ r.toInt := by linarith
      exact_mod_cast this
    · intro h
      have : (s.threadCount.toInt : ℚ) ≤ r.toInt := by exact_mod_cast h
      linarith
  simp only [calcTimeslice]
  split
  · rename_i hlt
    refine ⟨le_rfl, iff_of_true (by norm_num) (hle.1 ?_)⟩
    linarith
  · rename_i hge
    exact ⟨not_lt.1 hge, hle⟩

theorem ne_zero_of_one_le (hr : 1 ≤ r.toInt) : r ≠ 0 := by
  rintro rfl
  exact absurd hr (by decide)

/-- **`run` accepts the rates of at least one query per thread.** -/
theorem setRates_iff (h : s.PreparedFor n R) (hn : 1 ≤ n.toInt) (hr : 1 ≤ r.toInt) :
    (∃ v, s.setRates r = .ok v) ↔ n.toInt ≤ r.toInt := by
  obtain ⟨⟨hl, -, -⟩, rfl, -⟩ := h
  have hts := timeslices_calcTimeslice s hr
  constructor
  · rintro ⟨v, hv⟩
    obtain ⟨pool, hm, -⟩ := setRates_ok hv
    rw [if_pos (ne_zero_of_one_le hr)] at hm
    have hlen := Run.length_of_mapM_ok hm
    obtain ⟨w', hw'⟩ := List.exists_mem_of_length_pos (show 0 < pool.length by omega)
    obtain ⟨w, -, hset⟩ := Run.mem_of_mapM_ok hm hw'
    obtain ⟨share, -, -, hle, -⟩ := setRate_ok hset
    exact hts.2.1 hle
  · intro hle
    obtain ⟨share, hd, -⟩ := divInt_ok hn hr
    have hok : ¬ ((s.calcTimeslice r).timeslices = 0 ∨ (s.calcTimeslice r).timeslices > 1000) := by
      rw [not_or, not_lt]
      refine ⟨?_, hts.2.2 hle⟩
      intro h0
      rw [h0] at hts
      norm_num at hts
    have hd' : divInt r (s.calcTimeslice r).threadCount = .ok share := hd
    have hset : ∀ w ∈ s.threadpool, ∃ w', (s.calcTimeslice r).setRate r w = .ok w' := by
      intro w _
      simp only [setRate, setTimeslice, hd', bind, Except.bind, if_neg hok]
      exact ⟨_, rfl⟩
    obtain ⟨pool, hm⟩ := Run.exists_mapM_ok hset
    refine ⟨{ (s.calcTimeslice r) with threadpool := pool }, Run.bind_ok_iff.2 ⟨pool, ?_, ?_⟩⟩
    · simp only [if_pos (ne_zero_of_one_le hr)]
      exact hm
    · simp only [if_pos (ne_zero_of_one_le hr)]
      rfl

theorem le_of_run (h : s.PreparedFor n R) (hn : 1 ≤ n.toInt) (hr : 1 ≤ r.toInt)
    {procNetDev : Bytes} (hv : s.run r procNetDev = .ok v) : n.toInt ≤ r.toInt := by
  obtain ⟨u, -, -, hu, -⟩ := run_ok hv
  exact (setRates_iff h hn hr).1 ⟨u, hu⟩

/-- With an empty listing `run` reaches the start of the threads. -/
theorem exists_run (h : s.PreparedFor n R) (hn : 1 ≤ n.toInt) (hr : 1 ≤ r.toInt)
    (hle : n.toInt ≤ r.toInt) : ∃ v, s.run r [] = .ok v := by
  obtain ⟨u, hu⟩ := (setRates_iff h hn hr).2 hle
  exact ⟨_, Run.bind_ok_iff.2 ⟨u, hu, Run.bind_ok_iff.2 ⟨_, rfl, rfl⟩⟩⟩

/-- What the threads get. -/
theorem setRates_thread (h : s.PreparedFor n R) (hn : 1 ≤ n.toInt) (hr : 1 ≤ r.toInt)
    (hv : s.setRates r = .ok v) :
    ∀ w ∈ v.threadpool, w.thread.Limited R.toInt (r.toInt / n.toInt) := by
  have hle := (setRates_iff h hn hr).1 ⟨v, hv⟩
  have hlt := r.toInt_lt
  intro w' hw'
  have hrt : w'.thread.runtime = R := by
    obtain ⟨⟨-, hrun, -⟩, -, hR⟩ := h.setRates hv
    rw [hrun w' hw', hR]
  obtain ⟨-, rfl, -⟩ := h
  have hts := timeslices_calcTimeslice s hr
  obtain ⟨pool, hm, rfl⟩ := setRates_ok hv
  rw [if_pos (ne_zero_of_one_le hr)] at hm
  obtain ⟨w, -, hset⟩ := Run.mem_of_mapM_ok hm hw'
  obtain ⟨share, hd, -, hts2, rfl⟩ := setRate_ok hset
  obtain ⟨share', hd', hshare⟩ := divInt_ok hn hr
  have hd'' : divInt r s.threadCount = .ok share := hd
  cases hd'.symm.trans hd''
  have hq1 : 1 ≤ r.toInt / s.threadCount.toInt :=
    (Int.le_ediv_iff_mul_le (by omega)).2 (by omega)
  have hq2 : r.toInt / s.threadCount.toInt ≤ r.toInt := Int.ediv_le_self _ (by omega)
  have hscale : (s.calcTimeslice r).timeslices / 1000 * 1000 = (s.calcTimeslice r).timeslices := by
    ring
  refine ⟨congrArg Int32.toInt hrt, ?_, hq1, by omega, ?_, ?_⟩
  · simp only [hshare, UInt64.ofInt, UInt64.toNat_ofNat']
    omega
  · simp only [hscale]
    exact hts.1
  · simp only [hscale]
    exact hts2

/-! ## A load step -/

/-- The calls of `sendPacket` in a step, over all threads. -/
def stepCalls (v : DNSSender) : Except Abort Nat := do
  return (← v.threadpool.mapM fun w => w.thread.calls).sum

theorem stepCalls_ok (h : s.PreparedFor n R) (hn : 1 ≤ n.toInt) (hr : 1 ≤ r.toInt)
    (hv : s.setRates r = .ok v) (h1 : 1 ≤ R.toInt) (h2 : R.toInt * 1000 < 2 ^ 31) :
    v.stepCalls = .ok (n.toInt.toNat * (R.toInt * (r.toInt / n.toInt)).toNat) := by
  have hcalls : ∀ w ∈ v.threadpool,
      w.thread.calls = .ok (R.toInt * (r.toInt / n.toInt)).toNat :=
    fun w hw => (setRates_thread h hn hr hv w hw).calls h1 h2
  obtain ⟨⟨hl, -, -⟩, hcount, -⟩ := h.setRates hv
  rw [hcount] at hl
  simp only [stepCalls, Run.mapM_const hcalls, bind, Except.bind, hl, List.sum_replicate_nat]
  rfl

/-- The pool of a step is not empty. -/
theorem exists_worker (h : s.PreparedFor n R) (hn : 1 ≤ n.toInt) : ∃ w, w ∈ s.threadpool := by
  obtain ⟨⟨hl, -, -⟩, rfl, -⟩ := h
  exact List.exists_mem_of_length_pos (by omega)

theorem stepCalls_overflow (h : s.PreparedFor n R) (hn : 1 ≤ n.toInt) (hr : 1 ≤ r.toInt)
    (hv : s.setRates r = .ok v) (h2 : 2 ^ 31 ≤ R.toInt * 1000) (k : Nat) :
    v.stepCalls ≠ .ok k := by
  intro hk
  obtain ⟨ks, hks, -⟩ := Run.bind_ok_iff.1 hk
  obtain ⟨w, hw⟩ := exists_worker (h.setRates hv) hn
  obtain ⟨k, hw'⟩ := Run.ok_of_mapM_ok hks hw
  rw [(setRates_thread h hn hr hv w hw).calls_overflow h2] at hw'
  cases hw'

/-- **When a step delivers the requested rate**: `R * r` calls of `sendPacket` over all threads iff
`r` is a multiple of the number of threads and the run time in milliseconds is an `int`. The calls
of a thread are what its loop makes of any action. -/
theorem rate_delivered_iff {s0 u : DNSSender} {mem : Nat → Block 4096} (h0 : s0.threadpool = [])
    (hu : Reached s0 mem u) (hn : 1 ≤ s0.threadCount.toInt) (hR : 1 ≤ s0.runtime.toInt)
    (hr : 1 ≤ r.toInt) :
    ((∃ v, u.setRates r = .ok v ∧ v.stepCalls = .ok (s0.runtime.toInt * r.toInt).toNat) ↔
      s0.threadCount.toInt ∣ r.toInt ∧ s0.runtime.toInt * 1000 < 2 ^ 31) ∧
    ∀ v, u.setRates r = .ok v → ∀ w ∈ v.threadpool, ∀ k, w.thread.calls = .ok k →
      ∀ (σ : Type) (send : σ → Except Abort σ) (blocks : Nat) (s : σ),
        runLoop send w.thread (fun _ => false) blocks s = repeatSend send k s := by
  have h := reached_prepared h0 hu
  have hprod : ∀ q : Int, 0 ≤ q → s0.threadCount.toInt.toNat * (s0.runtime.toInt * q).toNat =
      (s0.runtime.toInt * (s0.threadCount.toInt * q)).toNat := by
    intro q hq
    rw [← Int.toNat_mul (by omega) (Int.mul_nonneg (by omega) hq)]
    congr 1
    ring
  refine ⟨⟨?_, ?_⟩, ?_⟩
  · rintro ⟨v, hv, hc⟩
    have hms : s0.runtime.toInt * 1000 < 2 ^ 31 := by
      by_contra hge
      exact stepCalls_overflow h hn hr hv (not_lt.1 hge) _ hc
    refine ⟨?_, hms⟩
    rw [stepCalls_ok h hn hr hv hR hms, hprod _ (Int.ediv_nonneg (by omega) (by omega))] at hc
    have hle : s0.threadCount.toInt * (r.toInt / s0.threadCount.toInt) ≤ r.toInt :=
      Int.mul_ediv_self_le (by omega)
    have hge : 0 ≤ s0.threadCount.toInt * (r.toInt / s0.threadCount.toInt) :=
      Int.mul_nonneg (by omega) (Int.ediv_nonneg (by omega) (by omega))
    have heq : s0.runtime.toInt * (s0.threadCount.toInt * (r.toInt / s0.threadCount.toInt)) =
        s0.runtime.toInt * r.toInt := by
      have h1 : 0 ≤ s0.runtime.toInt * r.toInt := Int.mul_nonneg (by omega) (by omega)
      have h2 := Int.mul_nonneg (show 0 ≤ s0.runtime.toInt by omega) hge
      have := Except.ok.inj hc
      omega
    exact ⟨_, (Int.eq_of_mul_eq_mul_left (by omega) heq).symm⟩
  · rintro ⟨⟨q, hq⟩, hms⟩
    have hq0 : 0 < s0.threadCount.toInt * q := by omega
    have hqpos : 0 < q := (pos_iff_pos_of_mul_pos hq0).1 (by omega)
    have hle : s0.threadCount.toInt ≤ r.toInt := by
      rw [hq]
      exact le_mul_of_one_le_right (by omega) hqpos
    obtain ⟨v, hv⟩ := (setRates_iff h hn hr).2 hle
    refine ⟨v, hv, ?_⟩
    rw [stepCalls_ok h hn hr hv hR hms, hq, Int.mul_ediv_cancel_left _ (by omega),
      hprod q (by omega)]
  · intro v hv w hw k hk σ send blocks s
    have hlim := setRates_thread h hn hr hv w hw
    by_cases hms : s0.runtime.toInt * 1000 < 2 ^ 31
    · rw [hlim.calls hR hms] at hk
      cases hk
      exact hlim.runLoop hR hms send blocks s
    · rw [hlim.calls_overflow (not_lt.1 hms)] at hk
      cases hk

/-- `n` threads for `R` seconds. -/
def threadsFor (n R : Int32) : DNSSender := { DNSSender.new with threadCount := n, runtime := R }

/-- The time slice of a fresh sender is accepted by every thread. -/
theorem exists_prepareThreads (hts : s.timeslices = 1) (mem : Nat → Block 4096) :
    ∃ s2, s.prepareThreads mem = .ok s2 := by
  have hprep : ∀ i ∈ List.range s.threadCount.toInt.toNat,
      ∃ t, s.prepareThread (mem i) = .ok t := by
    intro i _
    simp only [prepareThread, setTimeslice, hts, bind, Except.bind]
    exact ⟨_, rfl⟩
  obtain ⟨threads, ht⟩ := Run.exists_mapM_ok hprep
  exact ⟨_, Run.bind_ok_iff.2 ⟨threads, ht, rfl⟩⟩

theorem exists_reached (n R : Int32) (mem : Nat → Block 4096) :
    ∃ s, Reached (threadsFor n R) mem s := by
  obtain ⟨s, hs⟩ := exists_prepareThreads (s := threadsFor n R) rfl mem
  exact ⟨s, s, [], hs, rfl⟩

theorem rate_delivered_four_over_two : ∃ u v, Reached (threadsFor 2 1) (fun _ => .zero 4096) u ∧
    u.setRates 4 = .ok v ∧ v.stepCalls = .ok 4 := by
  obtain ⟨s, hu⟩ := exists_reached 2 1 fun _ => .zero 4096
  obtain ⟨v, hv, hc⟩ := (rate_delivered_iff (r := 4) rfl hu (by decide) (by decide) (by decide)).1.2
    ⟨by decide, by decide⟩
  exact ⟨s, v, hu, hv, hc⟩

theorem rate_not_delivered_three_over_two : ∃ u v,
    Reached (threadsFor 2 1) (fun _ => .zero 4096) u ∧ u.setRates 3 = .ok v ∧
      v.stepCalls = .ok 2 := by
  obtain ⟨s, hu⟩ := exists_reached 2 1 fun _ => .zero 4096
  have h := reached_prepared rfl hu
  obtain ⟨v, hv⟩ := (setRates_iff (r := 3) h (by decide) (by decide)).2 (by decide)
  exact ⟨s, v, hu, hv, stepCalls_ok h (by decide) (by decide) hv (by decide) (by decide)⟩

/-! ## No unlimited flood -/

/-- How a thread with a limited rate starts: it takes the loop with the rate limit, with a time
slice between 0.1 ms and 1 s, and with at least one slice if its run time is at least 1 s. -/
structure StartsLimited (t : DNSSenderThread) : Prop where
  queryrate : 1 ≤ t.queryrate.toNat
  loop : t.loop = .runWithRateLimit
  timeslice_ge : 1 / 10 ≤ t.timeslice * 1000
  timeslice_le : t.timeslice * 1000 ≤ 1000
  slices : 1 ≤ t.runtime.toInt → ∃ total, t.totalTimeslices = .ok total ∧ 1 ≤ total.toNat

/-- What `run` gives the threads is what they start with. -/
theorem run_thread (h : s.PreparedFor n R) (hn : 1 ≤ n.toInt) (hr : 1 ≤ r.toInt)
    {procNetDev : Bytes} (hv : s.run r procNetDev = .ok v) :
    ∀ w ∈ v.threadpool, w.thread.Limited R.toInt (r.toInt / n.toInt) := by
  obtain ⟨u, sys1, receiver, hu, rfl⟩ := run_ok hv
  intro w hw
  obtain ⟨w0, hw0, rfl⟩ := List.mem_map.1 hw
  exact setRates_thread h hn hr hu w0 hw0

/-- **When a positive rate keeps every thread limited, with slices to send in**: `run` raises, or the
run time in milliseconds is an `int`. The rate itself is positive and limited in any case. -/
theorem rate_limited_iff {s0 u : DNSSender} {mem : Nat → Block 4096} (h0 : s0.threadpool = [])
    (hu : Reached s0 mem u) (hn : 1 ≤ s0.threadCount.toInt) (hr : 1 ≤ r.toInt) :
    ((∀ procNetDev v, u.run r procNetDev = .ok v → ∀ w ∈ v.threadpool, StartsLimited w.thread) ↔
      r.toInt < s0.threadCount.toInt ∨ s0.runtime.toInt < 1 ∨ s0.runtime.toInt * 1000 < 2 ^ 31) ∧
    ∀ procNetDev v, u.run r procNetDev = .ok v → ∀ w ∈ v.threadpool,
      1 ≤ w.thread.queryrate.toNat ∧ w.thread.loop = .runWithRateLimit ∧
      1 / 10 ≤ w.thread.timeslice * 1000 ∧ w.thread.timeslice * 1000 ≤ 1000 := by
  have h := reached_prepared h0 hu
  refine ⟨⟨?_, ?_⟩, ?_⟩
  · intro hall
    by_contra hcond
    simp only [not_or, not_lt] at hcond
    obtain ⟨hle, hR, hms⟩ := hcond
    obtain ⟨v, hv⟩ := exists_run h hn hr hle
    obtain ⟨w, hw⟩ := exists_worker (h.run hv) hn
    have hlim := run_thread h hn hr hv w hw
    obtain ⟨total, ht, -⟩ := (hall [] v hv w hw).slices (by rw [hlim.runtime]; exact hR)
    rw [totalTimeslices_overflow (by rw [hlim.runtime]; exact hms)] at ht
    cases ht
  · intro hcond procNetDev v hv w hw
    have hlim := run_thread h hn hr hv w hw
    have hacc : s0.threadCount.toInt ≤ r.toInt := le_of_run h hn hr hv
    refine ⟨hlim.one_le_queryrate, hlim.loop, hlim.timeslice_ge, hlim.timeslice_le, ?_⟩
    intro hR
    refine totalTimeslices_ok hR ?_ hlim.timeslice_ge hlim.timeslice_le
    rw [hlim.runtime] at hR ⊢
    omega
  · intro procNetDev v hv w hw
    have hlim := run_thread h hn hr hv w hw
    exact ⟨hlim.one_le_queryrate, hlim.loop, hlim.timeslice_ge, hlim.timeslice_le⟩

theorem rate_limited_four_over_two : ∃ u v, Reached (threadsFor 2 1) (fun _ => .zero 4096) u ∧
    u.run 4 [] = .ok v ∧ ∀ w ∈ v.threadpool, StartsLimited w.thread := by
  obtain ⟨s, hu⟩ := exists_reached 2 1 fun _ => .zero 4096
  obtain ⟨v, hv⟩ := exists_run (r := 4) (reached_prepared rfl hu) (by decide) (by decide) (by decide)
  refine ⟨s, v, hu, hv, ?_⟩
  exact (rate_limited_iff (r := 4) rfl hu (by decide) (by decide)).1.2 (.inr (.inr (by decide)))
    [] v hv

theorem no_slices_seventeen_years : ∃ u v w,
    Reached (threadsFor 1 536870912) (fun _ => .zero 4096) u ∧ u.run 1 [] = .ok v ∧
      w ∈ v.threadpool ∧ w.thread.totalTimeslices = .error .signedOverflow := by
  obtain ⟨s, hu⟩ := exists_reached 1 536870912 fun _ => .zero 4096
  have h := reached_prepared rfl hu
  obtain ⟨v, hv⟩ := exists_run (r := 1) h (by decide) (by decide) (by decide)
  obtain ⟨w, hw⟩ := exists_worker (h.run hv) (by decide)
  have hlim := run_thread h (by decide) (by decide) hv w hw
  exact ⟨s, v, w, hu, hv, hw, totalTimeslices_overflow (by rw [hlim.runtime]; decide)⟩

end DNSSender

end Dnsmeter
