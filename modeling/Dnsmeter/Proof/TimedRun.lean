import Dnsmeter.Proof.TimedLoop

/-!
# The sender thread against the clock

What the log of `timedRun` says about the time at which the queries are sent.

* `sleeps_on_schedule`: a thread with time to sleep is neither ahead of the schedule nor behind it.
* `stops_in_time`: no query is sent 0.1 s after the stop flag is set or the run time is over.
* `timedRun_ends`, `timed_iff_untimed`: the run ends, and without the clock it is `runWithRateLimit`.
* `rate_never_exceeded`: within the time `e` all threads together have not sent more than
  `r * (e + timeslice)` queries.
-/

namespace Dnsmeter

open SliceEvent

namespace DNSSenderThread

/-! ## The run of a thread -/

section
variable {t : DNSSenderThread} {env : SliceEnv} {log : List SliceEvent} {leave : Leave}

/-- The number of queries of the run. -/
def totalQueries (t : DNSSenderThread) : UInt64 := .ofInt t.runtime.toInt * t.queryrate

theorem timedRun_ok (h : t.timedRun env = .ok (log, leave)) : ∃ total loop,
    t.totalTimeslices = .ok total ∧ 1 ≤ total.toNat ∧
    timedSliceLoop env t.timeslice (env.start + t.runtime.toInt) total.toNat t.totalQueries env.now
      (env.now + 1 / 10) env.nsec = loop ∧
    log = [.getNsec env.now, .getMicrotime env.start] ++ loop.1 ∧ leave = loop.2 := by
  obtain ⟨total, htotal, h⟩ := Run.bind_ok_iff.1 h
  have h0 : total ≠ 0 := by
    rintro rfl
    cases h
  simp only [if_neg h0] at h
  cases h
  refine ⟨total, _, htotal, ?_, rfl, rfl, rfl⟩
  by_contra hlt
  exact h0 (UInt64.toNat_inj.1 (show total.toNat = 0 by omega))

theorem timedRun_eq {total : UInt64} (h : t.totalTimeslices = .ok total) (h1 : 1 ≤ total.toNat)
    {loop : List SliceEvent × Leave}
    (hloop : timedSliceLoop env t.timeslice (env.start + t.runtime.toInt) total.toNat t.totalQueries
      env.now (env.now + 1 / 10) env.nsec = loop) :
    t.timedRun env = .ok ([.getNsec env.now, .getMicrotime env.start] ++ loop.1, loop.2) := by
  have h0 : total ≠ 0 := by
    rintro rfl
    exact absurd h1 (by decide)
  subst hloop
  simp only [timedRun, h, bind, Except.bind, if_neg h0]
  rfl

/-- The events before the loop. -/
theorem countP_before (env : SliceEnv) (l : List SliceEvent) :
    ([.getNsec env.now, .getMicrotime env.start] ++ l : List SliceEvent).countP isSend =
      l.countP isSend := by
  simp [isSend]

/-- The slices and the queries in unbounded numbers. -/
theorem totalTimeslices_floor {total : UInt64} (h : t.totalTimeslices = .ok total)
    (h1 : 1 ≤ total.toNat) : t.runtime.toInt * 1000 < 2 ^ 31 ∧
      (total.toNat : ℤ) = ⌊(t.runtime.toInt : ℚ) / t.timeslice⌋ := by
  obtain ⟨ms, hms, h⟩ := Run.bind_ok_iff.1 h
  have hrange : -2 ^ 31 ≤ t.runtime.toInt * 1000 ∧ t.runtime.toInt * 1000 < 2 ^ 31 := by
    by_contra hc
    have hmul : mulInt t.runtime 1000 = .error .signedOverflow := if_neg hc
    cases hmul.symm.trans hms
  have hmul : mulInt t.runtime 1000 = .ok (.ofInt (t.runtime.toInt * 1000)) := if_pos hrange
  cases hmul.symm.trans hms
  dsimp only at h
  split at h
  · cases h
  simp only [toPpluint64] at h
  split at h
  case isFalse => cases h
  rename_i hx
  have hms : (Int32.ofInt (t.runtime.toInt * 1000)).toInt = t.runtime.toInt * 1000 :=
    Int32.toInt_ofInt_of_le hrange.1 hrange.2
  have hquot : ((t.runtime.toInt * 1000 : ℤ) : ℚ) / (t.timeslice * 1000) =
      t.runtime.toInt / t.timeslice := by
    push_cast
    exact mul_div_mul_right _ _ (by norm_num)
  rw [hms, hquot] at h hx
  have hlt : ⌊(t.runtime.toInt : ℚ) / t.timeslice⌋ < 2 ^ 64 := Int.floor_lt.2 (by exact_mod_cast hx.2)
  refine ⟨hrange.2, ?_⟩
  cases h
  rw [UInt64.toNat_ofNat'] at h1 ⊢
  omega

/-- The queries of the first slices, on the line from nothing to all queries at the end. -/
theorem sentAfter_le_linear {T : Nat} {Q : UInt64} {c : ℚ} (h1 : 1 ≤ T) (hT : T < 2 ^ 64)
    (hQ : (Q.toNat : ℚ) ≤ T * c) (k : Nat) : (sentAfter T Q k : ℚ) ≤ k * c := by
  have hpos : (0 : ℚ) < T := by exact_mod_cast h1
  rcases Nat.le_total k T with hk | hk
  · have hline := Pacing.sum_take_mul_le h1 hk Q.toNat
    rw [← sentAfter_eq hT] at hline
    have hline' : (sentAfter T Q k : ℚ) * T ≤ k * Q.toNat := by exact_mod_cast hline
    refine le_of_mul_le_mul_right (hline'.trans ?_) hpos
    calc (k : ℚ) * Q.toNat ≤ k * (T * c) := mul_le_mul_of_nonneg_left hQ (Nat.cast_nonneg k)
      _ = k * c * T := by ring
  · have hc : 0 ≤ c := by
      have hQ0 : (0 : ℚ) ≤ Q.toNat := Nat.cast_nonneg _
      exact nonneg_of_mul_nonneg_right (hQ0.trans hQ) hpos
    have hall : sentAfter T Q k = Q.toNat := by
      rw [sentAfter_eq hT, List.take_of_length_le (by rwa [Pacing.length_shares]),
        Pacing.sum_shares h1]
    rw [hall]
    exact hQ.trans (mul_le_mul_of_nonneg_right (by exact_mod_cast hk) hc)

/-- A thread with `c` queries per slice within the time `e`. -/
theorem timedRun_rate (h : t.timedRun env = .ok (log, leave)) (hτ : 0 < t.timeslice) {c e : ℚ}
    (hQ : ∀ total, t.totalTimeslices = .ok total → 1 ≤ total.toNat →
      (t.totalQueries.toNat : ℚ) ≤ total.toNat * c) (he : 0 ≤ e) {pre : List SliceEvent}
    (hpre : pre <+: log) (hclock : ∀ now, .getNsec now ∈ pre → now ≤ env.now + e) :
    (pre.countP isSend : ℚ) ≤ (e / t.timeslice + 1) * c := by
  obtain ⟨total, loop, htotal, h1, hloop, rfl, -⟩ := timedRun_ok h
  have hpos : (0 : ℚ) < total.toNat := by exact_mod_cast h1
  have hc : 0 ≤ c := by
    have hQ0 : (0 : ℚ) ≤ t.totalQueries.toNat := Nat.cast_nonneg _
    exact nonneg_of_mul_nonneg_right (hQ0.trans (hQ total htotal h1)) hpos
  have hkeeps : Timetable.Keeps reading isSend (fun k => env.now + (k + 1) * t.timeslice)
      (fun k => sentAfter total.toNat t.totalQueries (k + 1))
      ([.getNsec env.now, .getMicrotime env.start] ++ loop.1) := by
    rw [← hloop]
    exact (timedSliceLoop_keeps.cons rfl).cons rfl
  refine hkeeps.le_linear hτ ?_ hc he hpre ?_
  · intro k
    exact_mod_cast sentAfter_le_linear h1 total.toNat_lt (hQ total htotal h1) (k + 1)
  · intro x hx now hnow
    rw [reading_eq_some] at hnow
    exact hclock now (hnow ▸ hx)

/-- Two queries in a second, in two slices. -/
def halves : DNSSenderThread :=
  { new (.zero 4096) with runtime := 1, queryrate := 2, timeslice := 1 / 2 }

theorem halves_completed :
    halves.timedRun ⟨0, 0, [1 / 4, 1 / 2, 1], fun _ => false, fun _ => 1 / 2⟩ =
      .ok ([.getNsec 0, .getMicrotime 0, .sendPacket, .getNsec (1 / 4), .nanosleep 250000000,
        .getNsec (1 / 2), .threadShouldStop false, .getMicrotime (1 / 2), .sendPacket, .getNsec 1,
        .threadShouldStop false, .getMicrotime (1 / 2)], .completed) := by
  decide +kernel

/-- **Stopping in time**: if the stop flag is set when the clock shows `limit`, or the run time is
over then, no query is sent after the clock has shown a tenth of a second more. -/
theorem stops_in_time (h : t.timedRun env = .ok (log, leave)) :
    (∀ limit, env.now ≤ limit →
      (∀ pre now stop post, log = pre ++ .getNsec now :: .threadShouldStop stop :: post →
        limit ≤ now → stop = true) →
      ∀ pre post, log = pre ++ .sendPacket :: post →
        ∀ now, .getNsec now ∈ pre → now ≤ limit + 1 / 10) ∧
    (env.now ≤ env.start + t.runtime.toInt →
      (∀ pre now stop m post,
        log = pre ++ .getNsec now :: .threadShouldStop stop :: .getMicrotime m :: post → now ≤ m) →
      ∀ pre post, log = pre ++ .sendPacket :: post →
        ∀ now, .getNsec now ∈ pre → now ≤ env.start + t.runtime.toInt + 1 / 10) := by
  obtain ⟨total, loop, -, -, hloop, rfl, -⟩ := timedRun_ok h
  have hstops : ∀ limit, env.now ≤ limit →
      (∀ pre now m post, [.getNsec env.now, .getMicrotime env.start] ++ loop.1 =
        pre ++ .getNsec now :: .threadShouldStop false :: .getMicrotime m :: post →
        m < env.start + t.runtime.toInt → now < limit) →
      ∀ pre post, [.getNsec env.now, .getMicrotime env.start] ++ loop.1 =
        pre ++ .sendPacket :: post → ∀ now, .getNsec now ∈ pre → now ≤ limit + 1 / 10 := by
    intro limit hlimit htest pre post hpos now hnow
    rcases append_eq_position hpos with ⟨c, hc⟩ | ⟨c, rfl, hc⟩
    · have hmem : SliceEvent.sendPacket ∈ [.getNsec env.now, .getMicrotime env.start] := by
        rw [hc]
        simp
      simp at hmem
    rcases List.mem_append.1 hnow with hnow | hnow
    · have heq : now = env.now := by simpa using hnow
      rw [heq]
      linarith
    · refine timedSliceLoop_stops hloop ?_ (by linarith) c post hc now hnow
      intro pre' now' m post' hpos'
      refine htest ([.getNsec env.now, .getMicrotime env.start] ++ pre') now' m post' ?_
      rw [hpos', List.append_assoc]
  refine ⟨?_, ?_⟩
  · intro limit hlimit hflag
    refine hstops limit hlimit fun pre now m post hpos _ => ?_
    by_contra hge
    cases hflag pre now false _ hpos (not_lt.1 hge)
  · intro hstart hclocks
    refine hstops _ hstart fun pre now m post hpos hm => ?_
    exact (hclocks pre now false m post hpos).trans_lt hm

/-- The stop flag is set within the first slice. -/
theorem stops_in_time_first_half : ∃ log leave,
    halves.timedRun ⟨0, 0, [1 / 2, 1], fun _ => true, fun _ => 1 / 2⟩ = .ok (log, leave) ∧
      ∀ pre post, log = pre ++ .sendPacket :: post →
        ∀ now, .getNsec now ∈ pre → now ≤ 1 / 4 + 1 / 10 := by
  have h : halves.timedRun ⟨0, 0, [1 / 2, 1], fun _ => true, fun _ => 1 / 2⟩ =
      .ok ([.getNsec 0, .getMicrotime 0, .sendPacket, .getNsec (1 / 2), .threadShouldStop true],
        .stopped) := by
    decide +kernel
  refine ⟨_, _, h, (stops_in_time h).1 (1 / 4) (by norm_num) ?_⟩
  intro pre now stop post hpos _
  have hmem : SliceEvent.threadShouldStop stop ∈
      pre ++ .getNsec now :: .threadShouldStop stop :: post := by simp
  rw [← hpos] at hmem
  simpa using hmem

/-- The loop that is left when `j` slices remain. -/
theorem slicesDone_eq {j : Nat} : ∀ {T : Nat}, j < T →
    slicesDone (fun rest => rest == j) T = T - j
  | 0, h => absurd h (Nat.not_lt_zero j)
  | T + 1, h => by
    rw [slicesDone]
    split
    · rename_i heq
      rw [beq_iff_eq] at heq
      omega
    · rename_i hne
      rw [beq_iff_eq] at hne
      rw [slicesDone_eq (T := T) (by omega)]
      omega

/-- A clock that makes the loop look at the stop flag behind every slice. -/
theorem exists_timedSliceLoop (stop : Nat → Bool) {microtime : Nat → ℚ} (τ : ℚ) {endTime : ℚ}
    (hmicrotime : ∀ rest, microtime rest < endTime) : ∀ (T : Nat) (Q : UInt64)
    (nextTimeslice nextChecktime : ℚ), ∃ nsec log leave,
      (∀ env : SliceEnv, env.shouldStop = stop → env.microtime = microtime →
        timedSliceLoop env τ endTime T Q nextTimeslice nextChecktime nsec = (log, leave)) ∧
      (leave = .completed ∨ leave = .stopped) ∧
      log.countP isSend = sentAfter T Q (slicesDone stop T)
  | 0, _, _, _ => ⟨[], [], .completed, fun _ _ _ => rfl, .inl rfl, rfl⟩
  | T + 1, Q, nextTimeslice, nextChecktime => by
    let now := max (nextTimeslice + τ) (nextChecktime + 1)
    have hnow : nextTimeslice + τ ≤ now := le_max_left _ _
    have hcheck : now > nextChecktime :=
      lt_of_lt_of_le (by linarith) (le_max_right (nextTimeslice + τ) (nextChecktime + 1))
    have hwait : ∀ nsec, waitLoop (nextTimeslice + τ) (now :: nsec) =
        ([.getNsec now], .ok (now, nsec)) := fun nsec => if_neg (not_lt.2 hnow)
    have hgo : ¬ microtime T ≥ endTime := not_le.2 (hmicrotime T)
    obtain ⟨q, hq⟩ : ∃ q, q = if UInt64.ofNat (T + 1) = 1 then Q else Q / .ofNat (T + 1) := ⟨_, rfl⟩
    cases hstop : stop T with
    | true =>
      refine ⟨[now], List.replicate q.toNat .sendPacket ++ [.getNsec now, .threadShouldStop true],
        .stopped, ?_, .inr rfl, ?_⟩
      · rintro env rfl rfl
        rw [timedSliceLoop]
        simp only [endSlice, hwait, checkTime, if_pos hcheck, hstop, ← hq]
        rfl
      · rw [slicesDone, if_pos hstop, sentAfter_succ hq, List.countP_append, List.countP_replicate]
        simp [isSend, sentAfter]
    | false =>
      obtain ⟨nsec, log, leave, hrest, hleave, hcount⟩ :=
        exists_timedSliceLoop stop τ hmicrotime T (Q - q) (nextTimeslice + τ) (now + 1 / 10)
      refine ⟨now :: nsec, List.replicate q.toNat .sendPacket ++
        [.getNsec now, .threadShouldStop false, .getMicrotime (microtime T)] ++ log, leave, ?_,
        hleave, ?_⟩
      · rintro env rfl rfl
        rw [timedSliceLoop]
        simp only [endSlice, hwait, checkTime, if_pos hcheck, hstop, ← hq, if_neg hgo,
          Bool.false_eq_true, if_false, Except.map, hrest env rfl rfl]
        rfl
      · rw [slicesDone, if_neg (by simp [hstop]), sentAfter_succ hq, List.countP_append,
          List.countP_append, List.countP_replicate, hcount]
        simp [isSend]

/-- **The clock adds nothing and takes nothing away**: the runs of the loop that come to an end send
as many queries as the runs of `runWithRateLimit` over all the ways it may be stopped. -/
theorem timed_iff_untimed {t : DNSSenderThread} {total : UInt64} (h : t.totalTimeslices = .ok total)
    (h1 : 1 ≤ total.toNat) (n : Nat) :
    (∃ env log leave, t.timedRun env = .ok (log, leave) ∧
      (leave = .completed ∨ leave = .stopped ∨ leave = .timeOver) ∧ log.countP isSend = n) ↔
    ∃ stop, ∀ (σ : Type) (send : σ → Except Abort σ) (s : σ),
      runWithRateLimit send t stop s = repeatSend send n s := by
  have huntimed : ∀ stop (σ : Type) (send : σ → Except Abort σ) (s : σ),
      runWithRateLimit send t stop s = repeatSend send
        (sentAfter total.toNat t.totalQueries (slicesDone stop total.toNat)) s := by
    intro stop σ send s
    rw [runWithRateLimit_slices send h h1, sliceLoop_eq, totalQueries]
  constructor
  · rintro ⟨env, log, leave, hrun, hleave, rfl⟩
    obtain ⟨total', ⟨loop, leave'⟩, h', -, hloop, rfl, rfl⟩ := timedRun_ok hrun
    cases h'.symm.trans h
    obtain ⟨hcompleted, hbroken, -, -⟩ := timedSliceLoop_left hloop
    obtain ⟨k, hk1, hkT, hsent⟩ : ∃ k, 1 ≤ k ∧ k ≤ total.toNat ∧
        loop.countP isSend = sentAfter total.toNat t.totalQueries k := by
      rcases hleave with hleave | hleave
      · exact ⟨total.toNat, h1, le_rfl, (hcompleted hleave).1⟩
      · exact hbroken hleave
    refine ⟨fun rest => rest == total.toNat - k, fun σ send s => ?_⟩
    rw [huntimed, slicesDone_eq (by omega), countP_before, hsent]
    congr 2
    omega
  · rintro ⟨stop, hstop⟩
    have hn : sentAfter total.toNat t.totalQueries (slicesDone stop total.toNat) = n := by
      have hcount := (huntimed stop Nat (fun k => .ok (k + 1)) 0).symm.trans (hstop Nat _ 0)
      rw [repeatSend_count, repeatSend_count] at hcount
      simpa using hcount
    have hmicrotime : ∀ _ : Nat, (t.runtime.toInt : ℚ) - 1 < 0 + t.runtime.toInt := by
      intro _
      linarith
    obtain ⟨nsec, log, leave, hloop, hleave, hcount⟩ :=
      exists_timedSliceLoop stop t.timeslice hmicrotime total.toNat t.totalQueries 0 (0 + 1 / 10)
    let env : SliceEnv := ⟨0, 0, nsec, stop, fun _ => t.runtime.toInt - 1⟩
    refine ⟨env, _, leave, timedRun_eq h h1 (hloop env rfl rfl), hleave.imp_right .inl, ?_⟩
    rw [countP_before, hcount, hn]

theorem timed_iff_untimed_second : ∃ stop, ∀ (σ : Type) (send : σ → Except Abort σ) (s : σ),
    runWithRateLimit send halves stop s = repeatSend send 2 s := by
  have h : halves.totalTimeslices = .ok 2 := by decide +kernel
  exact (timed_iff_untimed h (by decide) 2).1 ⟨_, _, _, halves_completed, .inl rfl, rfl⟩

end

end DNSSenderThread

namespace DNSSender

open DNSSenderThread

variable {s v : DNSSender} {n R r : Int32}

/-- The time slice of a step is the one of all its threads. -/
theorem run_timeslice (hr : r ≠ 0) {procNetDev : Bytes} (hv : s.run r procNetDev = .ok v) :
    v.timeslices = (s.calcTimeslice r).timeslices ∧
      ∀ w ∈ v.threadpool, w.thread.timeslice = v.timeslices / 1000 := by
  obtain ⟨u, sys1, receiver, hu, rfl⟩ := run_ok hv
  obtain ⟨pool, hm, rfl⟩ := setRates_ok hu
  simp only [if_pos hr] at hm ⊢
  refine ⟨rfl, ?_⟩
  intro w hw
  obtain ⟨w0, hw0, rfl⟩ := List.mem_map.1 hw
  obtain ⟨w1, -, hset⟩ := Run.mem_of_mapM_ok hm hw0
  obtain ⟨share, -, -, -, rfl⟩ := setRate_ok hset
  rfl

/-- A slice of a thread has its part of the rate, however the numbers are rounded: with the shortest
slice of 0.1 ms the number of slices is exact, and with a longer one a thread has no more queries
than slices. -/
theorem totalQueries_le (hn : 1 ≤ n.toInt) (hr : 1 ≤ r.toInt) (hs : s.threadCount = n)
    {t : DNSSenderThread} (hlim : t.Limited R.toInt (r.toInt / n.toInt))
    (hτ : t.timeslice = (s.calcTimeslice r).timeslices / 1000) {total : UInt64}
    (h : t.totalTimeslices = .ok total) (h1 : 1 ≤ total.toNat) :
    (t.totalQueries.toNat : ℚ) ≤ total.toNat * (t.timeslice * r.toInt / n.toInt) := by
  obtain ⟨hms, htotal⟩ := totalTimeslices_floor h h1
  have hpos : 0 < t.timeslice := by
    have := hlim.timeslice_ge
    linarith
  rw [hlim.runtime] at hms htotal
  have hn' : (0 : ℚ) < n.toInt := by exact_mod_cast hn
  have hr' : (0 : ℚ) < r.toInt := by exact_mod_cast hr
  have hR : 1 ≤ R.toInt := by
    have hfloor : 1 ≤ ⌊(R.toInt : ℚ) / t.timeslice⌋ := by omega
    have hquot : (1 : ℚ) ≤ R.toInt / t.timeslice := by exact_mod_cast Int.le_floor.1 hfloor
    have hle := (le_div_iff₀ hpos).1 hquot
    have hlt : (0 : ℚ) < R.toInt := by linarith
    exact_mod_cast hlt
  have hq0 : 0 ≤ r.toInt / n.toInt := Int.ediv_nonneg (by omega) (by omega)
  have hQ : (t.totalQueries.toNat : ℤ) = R.toInt * (r.toInt / n.toInt) := by
    have hprod : 0 ≤ R.toInt * (r.toInt / n.toInt) := Int.mul_nonneg (by omega) hq0
    have := hlim.queries hR hms
    rw [totalQueries, this]
    omega
  have hQ' : (t.totalQueries.toNat : ℚ) = R.toInt * ((r.toInt / n.toInt : ℤ) : ℚ) := by
    exact_mod_cast hQ
  have hshare : ((r.toInt / n.toInt : ℤ) : ℚ) ≤ r.toInt / n.toInt := by
    rw [le_div_iff₀ hn']
    exact_mod_cast Int.ediv_mul_le r.toInt (by omega)
  have hR' : (0 : ℚ) ≤ R.toInt := by exact_mod_cast (by omega : 0 ≤ R.toInt)
  subst hs
  simp only [calcTimeslice] at hτ
  split at hτ
  · -- `R * 10000` slices
    have hfloor : (total.toNat : ℤ) = R.toInt * 10000 := by
      rw [htotal, hτ, show (R.toInt : ℚ) / (1 / 10 / 1000) = ((R.toInt * 10000 : ℤ) : ℚ) by
        push_cast; ring]
      exact Int.floor_intCast _
    have hfloor' : (total.toNat : ℚ) = R.toInt * 10000 := by exact_mod_cast hfloor
    rw [hQ', hfloor', hτ]
    calc (R.toInt : ℚ) * ((r.toInt / s.threadCount.toInt : ℤ) : ℚ)
        ≤ R.toInt * (r.toInt / s.threadCount.toInt) := mul_le_mul_of_nonneg_left hshare hR'
      _ = R.toInt * 10000 * (1 / 10 / 1000 * r.toInt / s.threadCount.toInt) := by ring
  · -- one query per slice
    have hone : t.timeslice * r.toInt / s.threadCount.toInt = 1 := by
      rw [hτ]
      field_simp
    have hle : t.totalQueries.toNat ≤ (total.toNat : ℤ) := by
      rw [htotal, hQ]
      refine Int.le_floor.2 ?_
      rw [le_div_iff₀ hpos]
      push_cast
      have hτ' : t.timeslice = s.threadCount.toInt / r.toInt := by
        rw [hτ]
        field_simp
      rw [hτ', mul_assoc]
      refine (mul_le_mul_of_nonneg_left ?_ hR').trans_eq (mul_one _)
      rw [← mul_div_assoc, div_le_one hr']
      exact_mod_cast Int.ediv_mul_le r.toInt (by omega)
    rw [hone, mul_one]
    exact_mod_cast hle

/-- What a thread has done by the time its clock has moved on by `e`. -/
def DoneWithin (e : ℚ) (w : Worker) (done : List SliceEvent) : Prop :=
  ∃ env log leave, w.thread.timedRun env = .ok (log, leave) ∧ done <+: log ∧
    ∀ now, .getNsec now ∈ done → now ≤ env.now + e

/-- **The rate is never exceeded**: in a load step with the rate `r`, by the time the clocks have
moved on by `e`, all threads together have sent at most `r * (e + timeslice)` queries. -/
theorem rate_never_exceeded {s0 u : DNSSender} {mem : Nat → Block 4096} (h0 : s0.threadpool = [])
    (hu : Reached s0 mem u) (hn : 1 ≤ s0.threadCount.toInt) (hr : 1 ≤ r.toInt)
    {procNetDev : Bytes} (hv : u.run r procNetDev = .ok v) {e : ℚ} (he : 0 ≤ e)
    {logs : List (List SliceEvent)} (hlogs : List.Forall₂ (DoneWithin e) v.threadpool logs) :
    (((logs.map (·.countP isSend)).sum : ℕ) : ℚ) ≤ r.toInt * (e + v.timeslices / 1000) := by
  have h := reached_prepared h0 hu
  obtain ⟨hts, hτ⟩ := run_timeslice (ne_zero_of_one_le hr) hv
  have hlim := run_thread h hn hr hv
  have hlen : (v.threadpool.length : ℤ) = s0.threadCount.toInt := by
    obtain ⟨⟨hl, -, -⟩, hcount, -⟩ := h.run hv
    rw [hcount] at hl
    omega
  have hn' : (0 : ℚ) < s0.threadCount.toInt := by exact_mod_cast hn
  have hpos : 0 < v.timeslices / 1000 := by
    have := (timeslices_calcTimeslice u hr).1
    rw [hts]
    linarith
  -- the part of each thread
  have hpart : ∀ w ∈ v.threadpool, ∀ done, DoneWithin e w done → (done.countP isSend : ℚ) ≤
      r.toInt * (e + v.timeslices / 1000) / s0.threadCount.toInt := by
    rintro w hw done ⟨env, log, leave, hrun, hdone, hclock⟩
    have hrate := timedRun_rate hrun (by rw [hτ w hw]; exact hpos)
      (fun total htotal h1 => totalQueries_le hn hr h.2.1 (hlim w hw)
        (by rw [hτ w hw, hts]) htotal h1) he hdone hclock
    rw [hτ w hw] at hrate
    refine hrate.trans_eq ?_
    generalize v.timeslices / 1000 = τ at hpos
    field_simp
  refine (Timetable.sum_le_of_forall₂ hlogs hpart).trans_eq ?_
  rw [show ((v.threadpool.length : ℕ) : ℚ) = s0.threadCount.toInt by exact_mod_cast hlen]
  field_simp

/-- Two threads with two queries per second each, in their first slice. -/
theorem rate_never_exceeded_first_slice : ∃ u v logs,
    Reached (threadsFor 2 1) (fun _ => .zero 4096) u ∧ u.run 4 [] = .ok v ∧
      List.Forall₂ (DoneWithin 0) v.threadpool logs ∧
      (((logs.map (·.countP isSend)).sum : ℕ) : ℚ) ≤
        (4 : Int32).toInt * (0 + v.timeslices / 1000) := by
  obtain ⟨s, hu⟩ := exists_reached 2 1 fun _ => .zero 4096
  have h := reached_prepared rfl hu
  obtain ⟨v, hv⟩ := exists_run (r := 4) h (by decide) (by decide) (by decide)
  have hdone : ∀ w ∈ v.threadpool, ∃ done, DoneWithin 0 w done := by
    intro w hw
    have hlim := run_thread h (by decide) (by decide) hv w hw
    obtain ⟨total, htotal, h1⟩ := totalTimeslices_ok (t := w.thread) (by rw [hlim.runtime]; decide)
      (by rw [hlim.runtime]; decide) hlim.timeslice_ge hlim.timeslice_le
    refine ⟨_, ⟨0, 0, [], fun _ => false, fun _ => 0⟩, _, _, timedRun_eq htotal h1 rfl,
      List.prefix_rfl, ?_⟩
    obtain ⟨rest, hrest⟩ := Nat.exists_eq_add_of_le' h1
    simp [hrest, timedSliceLoop, endSlice, waitLoop]
  obtain ⟨logs, hlogs⟩ : ∃ logs, List.Forall₂ (DoneWithin 0) v.threadpool logs := by
    revert hdone
    generalize v.threadpool = pool
    intro hdone
    induction pool with
    | nil => exact ⟨[], .nil⟩
    | cons w pool ih =>
      obtain ⟨done, hw⟩ := hdone w List.mem_cons_self
      obtain ⟨logs, hlogs⟩ := ih fun w hw => hdone w (List.mem_cons_of_mem _ hw)
      exact ⟨done :: logs, .cons hw hlogs⟩
  exact ⟨s, v, logs, hu, hv, hlogs,
    rate_never_exceeded rfl hu (by decide) (by decide) hv le_rfl hlogs⟩

end DNSSender

end Dnsmeter
