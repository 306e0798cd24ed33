import Dnsmeter.Proof.LiveStats

/-!
# The loss figure

`getResults` subtracts the answers from the queries in `unsigned` and repairs the difference if there
are more answers; `presentResults` and `saveResultsToCsv` divide it by the number of queries, whatever
that is.

* `lostExact_getResults`, `lostExact_stats`: the number of lost queries never wraps around, in any
  state and in any report of a running step.
* `lossDefined_iff`: the percentage is a number iff `counter_send` is not 0; it lies between 0 and 100.
* `loss_figure_iff`: so it is in a step iff a query was sent in full (`2 ^ 64` of them wrap to 0).
-/

namespace Dnsmeter

open DNSSender (Call)

/-! ## The difference -/

/-- The lost queries are the sent ones less the answers, if there are not more of these. -/
def Results.LostExact (result : Results) : Prop :=
  result.packagesLost.toNat = result.counterSend.toNat - result.counterReceived.toNat

theorem lostExact_setPackagesLost (result : Results) :
    (DNSSender.setPackagesLost result).LostExact := by
  show (if result.counterReceived > result.counterSend then (0 : UInt64)
    else result.counterSend - result.counterReceived).toNat =
    result.counterSend.toNat - result.counterReceived.toNat
  by_cases h : result.counterReceived > result.counterSend
  · have hlt : result.counterSend.toNat < result.counterReceived.toNat := h
    rw [if_pos h, Nat.sub_eq_zero_of_le hlt.le]
    rfl
  · rw [if_neg h]
    exact UInt64.toNat_sub_of_le _ _ (UInt64.not_lt.1 h)

theorem lostExact_getResults (s : DNSSender) : s.getResults.LostExact :=
  lostExact_setPackagesLost _

/-- The reports of a running step, whose reads interleave with the counting. -/
theorem lostExact_step (l : Live) (e : LiveEvent) :
    ∀ st ∈ statsOf (l.step e).2.toList, st.result.LostExact := by
  have hnone : ∀ st ∈ statsOf (none : Option Output).toList, st.result.LostExact := by simp [statsOf]
  cases e with
  | act i a =>
    have hact : statsOf ((l.sender.act i a).2.map Output.call).toList = [] := by
      cases (l.sender.act i a).2 <;> rfl
    show ∀ st ∈ statsOf ((l.sender.act i a).2.map Output.call).toList, _
    rw [hact]
    simp
  | countPacket buffer size tp =>
    simp only [Live.step]
    split
    · exact hnone
    split
    · simp [statsOf, Output.stats?]
    · exact hnone
  | showCurrentStats runtime =>
    simp only [Live.step]
    split <;> exact hnone
  | next =>
    simp only [Live.step]
    split
    · exact hnone
    rename_i r hr
    unfold Live.next
    split
    · exact hnone
    · intro st hst
      have hst' : st = Stats.of r.runtime (DNSSender.setPackagesLost r.result)
          l.sender.visPrevResults := by simpa [statsOf, Output.stats?] using hst
      rw [hst']
      exact lostExact_setPackagesLost r.result

theorem lostExact_stats {l0 l : Live} {evs : List LiveEvent} {outs : List Output}
    (h : Run.trace Live.step l0 evs = (l, outs)) : ∀ st ∈ statsOf outs, st.result.LostExact := by
  refine Run.trace_inv_of_eq (I := fun _ outs => ∀ st ∈ statsOf outs, st.result.LostExact) ?_ ?_ h
  · intro l outs e h
    rw [statsOf_append, List.forall_mem_append]
    exact ⟨h, lostExact_step l e⟩
  · simp [statsOf]

/-! ## The percentage -/

namespace DNSSender

/-- The percentage of lost queries is a number between 0 and 100, and it is what `presentResults`
prints and what `saveResultsToCsv` writes. -/
structure LossDefined (s : DNSSender) : Prop where
  send_ne_zero : s.getResults.counterSend ≠ 0
  percent : ∃ q : ℚ, 0 ≤ q ∧ q ≤ 100 ∧
    q = s.getResults.packagesLost.toNat * 100 / s.getResults.counterSend.toNat ∧
    (∀ s' p, s.presentResults s.getResults = .ok (s', p) →
      p.queriesLost = (s.getResults.packagesLost, some q)) ∧
    ∀ lines file, s.saveResultsToCsv (some lines) s.getResults = .ok file →
      ∃ line, file = some (lines ++ [line]) ∧ line.lostrate = some q

theorem presentResults_lost {s s' : DNSSender} {result : Results} {p : Presented}
    (h : s.presentResults result = .ok (s', p)) :
    p.queriesLost = (result.packagesLost, lostrate result) := by
  obtain ⟨queriesSend, -, h⟩ := Run.bind_ok_iff.1 h
  obtain ⟨queriesRcv, -, h⟩ := Run.bind_ok_iff.1 h
  obtain ⟨errors, -, h⟩ := Run.bind_ok_iff.1 h
  obtain ⟨errors0Byte, -, h⟩ := Run.bind_ok_iff.1 h
  obtain ⟨errorcodes, -, h⟩ := Run.bind_ok_iff.1 h
  cases h
  rfl

theorem saveResultsToCsv_lost {s : DNSSender} {result : Results} {lines : List CsvLine}
    {file : Option (List CsvLine)} (h : s.saveResultsToCsv (some lines) result = .ok file) :
    ∃ line, file = some (lines ++ [line]) ∧ line.lostrate = lostrate result := by
  obtain ⟨qpsSend, -, h⟩ := Run.bind_ok_iff.1 h
  obtain ⟨qpsReceived, -, h⟩ := Run.bind_ok_iff.1 h
  obtain ⟨qpsErrors, -, h⟩ := Run.bind_ok_iff.1 h
  cases h
  exact ⟨_, rfl, rfl⟩

/-- **When the percentage is well defined.** -/
theorem lossDefined_iff {s : DNSSender} : s.LossDefined ↔ s.getResults.counterSend ≠ 0 := by
  refine ⟨LossDefined.send_ne_zero, fun hne => ?_⟩
  have hnat : s.getResults.counterSend.toNat ≠ 0 := fun h => hne (UInt64.toNat_inj.1 h)
  have hsome : lostrate s.getResults = some
      (s.getResults.packagesLost.toNat * 100 / s.getResults.counterSend.toNat : ℚ) :=
    if_neg (Nat.cast_ne_zero.2 hnat)
  refine ⟨hne, _, ?_, ?_, rfl, ?_, ?_⟩
  · positivity
  · have hpos : (0 : ℚ) < s.getResults.counterSend.toNat := by
      exact_mod_cast Nat.pos_of_ne_zero hnat
    have hle : (s.getResults.packagesLost.toNat : ℚ) ≤ s.getResults.counterSend.toNat := by
      have hlost := lostExact_getResults s
      exact_mod_cast hlost.le.trans (Nat.sub_le _ _)
    rw [div_le_iff₀ hpos]
    linarith
  · intro s' p h
    rw [presentResults_lost h, hsome]
  · intro lines file h
    rw [← hsome]
    exact saveResultsToCsv_lost h

/-! ## The figures that are no quotient of counters -/

variable {s : DNSSender}

theorem perSecond_ok (h : 1 ≤ s.runtime.toInt) (counter : UInt64) :
    ∃ q, s.perSecond counter = .ok q := by
  have hR : (1 : ℚ) ≤ s.runtime.toInt := by exact_mod_cast h
  have hdiv : divDouble counter.toNat s.runtime.toInt =
      some (counter.toNat / s.runtime.toInt : ℚ) := if_neg (by linarith)
  have h0 : (0 : ℚ) ≤ counter.toNat / s.runtime.toInt := by positivity
  have hlt : (counter.toNat / s.runtime.toInt : ℚ) < 2 ^ 64 := by
    have hc : (counter.toNat : ℚ) < 2 ^ 64 := by exact_mod_cast counter.toNat_lt
    rw [div_lt_iff₀ (by linarith)]
    nlinarith
  simp only [perSecond, hdiv, toPpluint64]
  rw [if_pos ⟨by linarith, hlt⟩]
  exact ⟨_, rfl⟩

theorem queriesLine_ok (h : 1 ≤ s.runtime.toInt) (counter bytes : UInt64) :
    ∃ line, s.queriesLine counter bytes = .ok line := by
  obtain ⟨qps, hq⟩ := perSecond_ok h counter
  obtain ⟨bps, hb⟩ := perSecond_ok h bytes
  exact ⟨_, Run.bind_ok_iff.2 ⟨qps, hq, Run.bind_ok_iff.2 ⟨bps, hb, rfl⟩⟩⟩

theorem errorsLine_ok (h : 1 ≤ s.runtime.toInt) (counter : UInt64) :
    ∃ line, s.errorsLine counter = .ok line := by
  obtain ⟨qps, hq⟩ := perSecond_ok h counter
  unfold errorsLine
  split
  · exact ⟨_, rfl⟩
  · exact ⟨_, Run.bind_ok_iff.2 ⟨qps, hq, rfl⟩⟩

/-- With a positive run time both functions return, whatever was counted. -/
theorem presentResults_ok (h : 1 ≤ s.runtime.toInt) (result : Results) :
    ∃ s' p, s.presentResults result = .ok (s', p) := by
  have hs : 1 ≤ s.presentNetwork.1.runtime.toInt := h
  obtain ⟨queriesSend, h1⟩ := queriesLine_ok hs result.counterSend result.bytesSend
  obtain ⟨queriesRcv, h2⟩ := queriesLine_ok hs result.counterReceived result.bytesReceived
  obtain ⟨errors, h3⟩ := errorsLine_ok hs result.counterErrors
  obtain ⟨errors0Byte, h4⟩ := errorsLine_ok hs result.counter0bytes
  obtain ⟨errorcodes, h5⟩ := Run.exists_mapM_ok (l := List.finRange 255)
    fun i _ => errorsLine_ok hs (result.counterErrorcodes i)
  exact ⟨_, _, Run.bind_ok_iff.2 ⟨_, h1, Run.bind_ok_iff.2 ⟨_, h2, Run.bind_ok_iff.2 ⟨_, h3,
    Run.bind_ok_iff.2 ⟨_, h4, Run.bind_ok_iff.2 ⟨_, h5, rfl⟩⟩⟩⟩⟩⟩

theorem saveResultsToCsv_ok (h : 1 ≤ s.runtime.toInt) (csvFile : Option (List CsvLine))
    (result : Results) : ∃ file, s.saveResultsToCsv csvFile result = .ok file := by
  cases csvFile with
  | none => exact ⟨none, rfl⟩
  | some lines =>
    obtain ⟨qpsSend, h1⟩ := perSecond_ok h result.counterSend
    obtain ⟨qpsReceived, h2⟩ := perSecond_ok h result.counterReceived
    obtain ⟨qpsErrors, h3⟩ := perSecond_ok h result.counterErrors
    exact ⟨_, Run.bind_ok_iff.2 ⟨_, h1, Run.bind_ok_iff.2 ⟨_, h2, Run.bind_ok_iff.2 ⟨_, h3, rfl⟩⟩⟩⟩

/-! ## A load step -/

/-- What `getResults` adds up is what was sent. -/
theorem counterSend_getResults {outs : List Output} (h : Counted s outs) (hstarted : AllStarted s) :
    s.getResults.counterSend = .ofNat ((callsOf outs).countP Call.sent) := by
  have htotals := h.accounted.totals_getResults hstarted
  rw [sum_totals] at htotals
  exact congrArg Totals.send htotals

theorem runtime_step (l : Live) (e : LiveEvent) : (l.step e).1.sender.runtime = l.sender.runtime := by
  cases e with
  | act i a =>
    obtain ⟨threadpool, payload, hs, -⟩ := l.sender.act_frame i a
    simp only [Live.step, hs]
  | countPacket buffer size tp =>
    simp only [Live.step]
    split
    · rfl
    split <;> rfl
  | showCurrentStats runtime =>
    simp only [Live.step]
    split <;> rfl
  | next =>
    simp only [Live.step]
    split
    · rfl
    unfold Live.next
    split <;> rfl

/-- **When the loss figure is well defined**: a load step from any state the program reaches, any
interleaving of the threads, any results of `sendto`, any answers, with or without a receiver. -/
theorem loss_figure_iff {s0 u v : DNSSender} {mem : Nat → Block 4096} {r : Int32}
    {procNetDev : Bytes} {evs : List LiveEvent} {l : Live} {outs : List Output}
    (h0 : s0.threadpool = []) (hu : Reached s0 mem u) (hv : u.run r procNetDev = .ok v)
    (hevs : Run.trace Live.step ⟨v, none⟩ evs = (l, outs)) :
    (∀ s : DNSSender, s.getResults.LostExact) ∧ (∀ st ∈ statsOf outs, st.result.LostExact) ∧
    (1 ≤ s0.runtime.toInt →
      (∃ s' p, l.sender.presentResults l.sender.getResults = .ok (s', p)) ∧
        ∀ csvFile, ∃ file, l.sender.saveResultsToCsv csvFile l.sender.getResults = .ok file) ∧
    (AllStarted l.sender →
      (l.sender.LossDefined ↔ (callsOf outs).countP Call.sent % 2 ^ 64 ≠ 0)) := by
  have hprepared := reached_prepared h0 hu
  have hcounted : Counted l.sender outs :=
    Run.trace_inv_of_eq (I := fun (l : Live) outs => Counted l.sender outs) (fun _ _ e h => h.step e)
      (Live.Unreported.run hprepared hv).counted hevs
  have hruntime : l.sender.runtime = s0.runtime := by
    have hrun : (Run.trace Live.step ⟨v, none⟩ evs).1.sender.runtime = s0.runtime :=
      Run.trace_state_inv (J := fun l : Live => l.sender.runtime = s0.runtime)
        (fun l e h => (runtime_step l e).trans h) (hprepared.run hv).2.2
    rwa [hevs] at hrun
  refine ⟨lostExact_getResults, lostExact_stats hevs, fun hR => ?_, fun hstarted => ?_⟩
  · rw [← hruntime] at hR
    exact ⟨presentResults_ok hR _, fun csvFile => saveResultsToCsv_ok hR csvFile _⟩
  · rw [lossDefined_iff, counterSend_getResults hcounted hstarted, not_iff_not, ← UInt64.toNat_inj,
      UInt64.toNat_ofNat']
    rfl

/-- One query sent, two answers. -/
theorem loss_figure_one_query : ∃ s v l outs,
    oneQueryReceived.prepareThreads (fun _ => .zero 4096) = .ok s ∧ s.run 0 [] = .ok v ∧
    Run.trace Live.step ⟨v, none⟩ [.act 0 .start, .act 0 (.pass (passOf 45 0)),
      .countPacket (List.replicate 60 0) 60 none, .countPacket (List.replicate 60 0) 60 none] =
        (l, outs) ∧
    l.sender.getResults.counterReceived = 2 ∧ l.sender.LossDefined := by
  obtain ⟨s, v, l, outs, hs, hv, hevs, hreceived, hstarted, hsent⟩ : ∃ s v l outs,
      oneQueryReceived.prepareThreads (fun _ => .zero 4096) = .ok s ∧ s.run 0 [] = .ok v ∧
      Run.trace Live.step ⟨v, none⟩ [.act 0 .start, .act 0 (.pass (passOf 45 0)),
        .countPacket (List.replicate 60 0) 60 none, .countPacket (List.replicate 60 0) 60 none] =
          (l, outs) ∧
      l.sender.getResults.counterReceived = 2 ∧ (∀ w ∈ l.sender.threadpool, w.state ≠ .waiting) ∧
      (callsOf outs).countP Call.sent = 1 :=
    ⟨_, _, _, _, rfl, rfl, rfl, by decide +kernel, by decide +kernel, by decide +kernel⟩
  refine ⟨s, v, l, outs, hs, hv, hevs, hreceived, ?_⟩
  have hfigure := loss_figure_iff rfl ⟨s, [], hs, rfl⟩ hv hevs
  refine (hfigure.2.2.2 hstarted).2 ?_
  rw [hsent]
  decide

/-- Every `sendto` of the step fails: the percentage is 0 divided by 0. -/
theorem loss_figure_all_failed : ∃ s v l outs s' p,
    oneQueryReceived.prepareThreads (fun _ => .zero 4096) = .ok s ∧ s.run 0 [] = .ok v ∧
    Run.trace Live.step ⟨v, none⟩ [.act 0 .start, .act 0 (.pass (passOf (-1) 101)), .act 0 .finish] =
      (l, outs) ∧
    (∀ w ∈ l.sender.threadpool, w.state = .idle) ∧ l.sender.getResults.counterErrors = 1 ∧
    l.sender.presentResults l.sender.getResults = .ok (s', p) ∧ p.queriesLost = (0, none) ∧
    ¬ l.sender.LossDefined := by
  obtain ⟨s, v, l, outs, hs, hv, hevs, hidle, herrors, hsend, hlost⟩ : ∃ s v l outs,
      oneQueryReceived.prepareThreads (fun _ => .zero 4096) = .ok s ∧ s.run 0 [] = .ok v ∧
      Run.trace Live.step ⟨v, none⟩ [.act 0 .start, .act 0 (.pass (passOf (-1) 101)),
        .act 0 .finish] = (l, outs) ∧
      (∀ w ∈ l.sender.threadpool, w.state = .idle) ∧ l.sender.getResults.counterErrors = 1 ∧
      l.sender.getResults.counterSend = 0 ∧
      (l.sender.getResults.packagesLost, lostrate l.sender.getResults) = (0, none) ∧
      1 ≤ l.sender.runtime.toInt :=
    ⟨_, _, _, _, rfl, rfl, rfl, by decide +kernel, by decide +kernel, by decide +kernel,
      by decide +kernel, by decide +kernel⟩
  obtain ⟨s', p, hp⟩ := presentResults_ok hlost.2 l.sender.getResults
  refine ⟨s, v, l, outs, s', p, hs, hv, hevs, hidle, herrors, hp, ?_, fun h => h.send_ne_zero hsend⟩
  rw [presentResults_lost hp, hlost.1]

end DNSSender

end Dnsmeter
