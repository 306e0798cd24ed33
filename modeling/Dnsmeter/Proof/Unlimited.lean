import Dnsmeter.Proof.RealTime

/-!
# The loop without a rate limit

`runWithoutRateLimit` looks at the clock and at the stop flag once in 10001 calls. `LoopStep` is what
can happen to a thread that is in it or behind it (`RunStep.loopStep`).

* `InBlocks`: what such a thread has sent, kept by every step.
* `unlimited_in_blocks`: it sends whole blocks of 10001 queries, no more than one of them behind the
  end of the run time, and no more than one when it is told to stop.
-/

namespace Dnsmeter

open DNSSender (Call)

/-- The program is in `stopThreads()`, or at its end. -/
def Program.Stopping (p : Program) : Prop := p.pc = .stopThreads ∨ p.pc.ended = true

theorem Program.Stopping.moves {p p' : Program} {o : Option Program.Output} (h : p.Stopping)
    (hm : p.Moves p' o) : p'.Stopping := by
  have hno : ∀ {pc : MainPc}, p.pc = pc → pc.ended = false → pc = .stopThreads := by
    rintro pc rfl hl
    exact h.resolve_right (by simp [hl])
  cases hm with
  | finished hpc => cases hno hpc rfl
  | runError hpc => cases hno hpc rfl
  | startSession hpc => cases hno hpc rfl
  | leaveWait hpc => cases hno hpc rfl
  | interrupted hpc => cases hno hpc rfl
  | mainError => exact .inr (catchException_ended _)
  | results hd =>
    cases hd with
    | session hpc => cases hno hpc rfl
    | interrupted => exact .inr rfl
  | csvError => exact .inr (catchException_ended _)
  | _ => exact h

/-- In the loop without a rate limit, or behind it. -/
def RunPc.unlimited : RunPc → Prop
  | .runWithoutRateLimit _ _ | .loopLeft | .waitForTimeout _ _ => True
  | _ => False

namespace TimedProgram

/-- What a step at the time `now` does to a thread in the loop without a rate limit or behind it: its
place behind the step and the calls that have returned; `stop` is whether it is told to stop. -/
inductive LoopStep (now : ℚ) (stop : Prop) : RunPc → RunPc → List ℚ → Prop
  | stay (pc : RunPc) : LoopStep now stop pc pc []
  | call {pc : Nat} {endTime : ℚ} (hle : pc ≤ 10000) : LoopStep now stop
      (.runWithoutRateLimit pc endTime) (.runWithoutRateLimit (pc + 1) endTime) [now]
  | test {pc : Nat} {endTime : ℚ} (hgt : 10000 < pc) (hgo : ¬ stop) (hnow : now ≤ endTime) :
      LoopStep now stop (.runWithoutRateLimit pc endTime) (.runWithoutRateLimit 0 endTime) []
  | leave {pc : Nat} {endTime : ℚ} (hgt : 10000 < pc) (h : stop ∨ endTime < now) :
      LoopStep now stop (.runWithoutRateLimit pc endTime) .loopLeft []
  | wait (endTime check : ℚ) : LoopStep now stop .loopLeft (.waitForTimeout endTime check) []
  | look (endTime check check' : ℚ) :
      LoopStep now stop (.waitForTimeout endTime check) (.waitForTimeout endTime check') []

theorem LoopStep.time {now t : ℚ} {stop : Prop} {pc pc' : RunPc} {new : List ℚ}
    (h : LoopStep now stop pc pc' new) (ht : t ∈ new) : t = now := by
  cases h with
  | call => exact List.mem_singleton.1 ht
  | _ => cases ht

variable {p p' : TimedProgram} {now : ℚ} {e : Event} {o : Option (ℚ × Program.Output)} {i : Nat}

theorem RunStep.loopStep {pc : RunPc} {new : List ℚ} (h : p.RunStep now i pc new)
    (hpc : (p.runPc i).unlimited) : LoopStep now (p.program.pc = .stopThreads) (p.runPc i) pc new := by
  cases h with
  | stay => exact .stay _
  | call hw hs h =>
    generalize p.runPc i = pc0 at h hpc
    cases pc0 with
    | runWithoutRateLimit pc endTime =>
      simp only [RunPc.called] at h
      split at h
      · cases h
      · rename_i hle
        cases h
        exact .call (not_lt.1 hle)
    | loopLeft | waitForTimeout => cases h
    | slice | checkTime | undefined => cases hpc
  | goOn hw hs h =>
    generalize p.runPc i = pc0 at h hpc
    cases pc0 with
    | runWithoutRateLimit pc endTime =>
      simp only [DNSSenderThread.goOn, threadShouldStop, decide_eq_true_eq] at h
      split at h
      · rename_i hgt
        split at h
        · rename_i hleave
          cases h
          exact .leave hgt hleave
        · rename_i hgo
          cases h
          obtain ⟨hstop, hnow⟩ := not_or.1 hgo
          exact .test hgt hstop (not_lt.1 hnow)
      · cases h
        exact .stay _
    | loopLeft =>
      cases h
      exact .wait _ _
    | waitForTimeout endTime check =>
      simp only [DNSSenderThread.goOn] at h
      split at h
      · split at h
        · split at h
          · cases h
          · cases h
            exact .look _ _ _
        · cases h
          exact .stay _
      · cases h
    | slice | checkTime | undefined => cases hpc

/-! ## Whole blocks -/

/-- What a thread has sent that is at `runPc`: whole blocks and the calls of the one it is in; `due` is
whether it has a reason to leave the loop. -/
def InBlocks (endTime : ℚ) (sent : List ℚ) (due : Prop) : RunPc → Prop
  | .runWithoutRateLimit pc endTime' => endTime' = endTime ∧ pc ≤ 10001 ∧
    (∃ k, sent.length = 10001 * k + pc) ∧ sent.countP (endTime < ·) ≤ pc
  | .loopLeft | .waitForTimeout _ _ =>
    (∃ k, sent.length = 10001 * (k + 1)) ∧ sent.countP (endTime < ·) ≤ 10001 ∧ due
  | _ => False

variable {endTime : ℚ} {calls new : List ℚ} {due due' stop : Prop} {pc pc' : RunPc}

theorem InBlocks.mono (h : InBlocks endTime calls due pc) (hdue : due → due') :
    InBlocks endTime calls due' pc := by
  cases pc with
  | slice | checkTime | undefined => exact h
  | runWithoutRateLimit => exact h
  | loopLeft => exact ⟨h.1, h.2.1, hdue h.2.2⟩
  | waitForTimeout => exact ⟨h.1, h.2.1, hdue h.2.2⟩

theorem InBlocks.loopStep (h : InBlocks endTime calls due pc) (hle : ∀ t ∈ calls, t ≤ now)
    (hs : LoopStep now stop pc pc' new) (hstop : stop → due) (hnow : endTime < now → due) :
    InBlocks endTime (calls ++ new) due pc' := by
  cases hs with
  | stay =>
    rw [List.append_nil]
    exact h
  | call hpc =>
    obtain ⟨rfl, -, ⟨k, hk⟩, hlate⟩ := h
    refine ⟨rfl, by omega, ⟨k, ?_⟩, ?_⟩
    · rw [List.length_append, hk, List.length_singleton, Nat.add_assoc]
    · rw [List.countP_append]
      exact Nat.add_le_add hlate List.countP_le_length
  | test hgt hgo hbefore =>
    obtain ⟨rfl, hpc, ⟨k, hk⟩, -⟩ := h
    rw [List.append_nil]
    refine ⟨rfl, Nat.zero_le _, ⟨k + 1, by omega⟩, (List.countP_eq_zero.2 fun t ht => ?_).le⟩
    rw [decide_eq_true_eq, not_lt]
    exact (hle t ht).trans hbefore
  | leave hgt hleave =>
    obtain ⟨rfl, hpc, ⟨k, hk⟩, hlate⟩ := h
    rw [List.append_nil]
    exact ⟨⟨k, by omega⟩, hlate.trans hpc, hleave.elim hstop hnow⟩
  | wait =>
    rw [List.append_nil]
    exact h
  | look =>
    rw [List.append_nil]
    exact h

/-- What a thread that is told to stop has sent since then. -/
def OneBlock (calls : List ℚ) : RunPc → Prop
  | .runWithoutRateLimit pc _ => calls.length ≤ pc ∧ pc ≤ 10001
  | .loopLeft | .waitForTimeout _ _ => calls.length ≤ 10001
  | _ => False

theorem OneBlock.loopStep (h : OneBlock calls pc) (hs : LoopStep now stop pc pc' new)
    (hstop : stop) : OneBlock (calls ++ new) pc' := by
  cases hs with
  | stay =>
    rw [List.append_nil]
    exact h
  | call hpc =>
    refine ⟨?_, by omega⟩
    rw [List.length_append]
    exact Nat.add_le_add_right h.1 1
  | test hgt hgo => exact absurd hstop hgo
  | leave =>
    rw [List.append_nil]
    exact h.1.trans h.2
  | wait =>
    rw [List.append_nil]
    exact h
  | look =>
    rw [List.append_nil]
    exact h

theorem InBlocks.unlimited (h : InBlocks endTime calls due pc) : pc.unlimited := by
  cases pc with
  | runWithoutRateLimit | loopLeft | waitForTimeout => trivial
  | slice | checkTime | undefined => exact h

theorem OneBlock.unlimited (h : OneBlock calls pc) : pc.unlimited := by
  cases pc with
  | runWithoutRateLimit | loopLeft | waitForTimeout => trivial
  | slice | checkTime | undefined => exact h

theorem InBlocks.le (h : InBlocks endTime calls due pc) : calls.countP (endTime < ·) ≤ 10001 := by
  cases pc with
  | slice | checkTime | undefined => exact h.elim
  | runWithoutRateLimit => exact h.2.2.2.trans h.2.1
  | loopLeft => exact h.2.1
  | waitForTimeout => exact h.2.1

theorem InBlocks.oneBlock (h : InBlocks endTime calls due pc) : OneBlock [] pc := by
  cases pc with
  | slice | checkTime | undefined => exact h
  | runWithoutRateLimit => exact ⟨Nat.zero_le _, h.2.1⟩
  | loopLeft => exact Nat.zero_le _
  | waitForTimeout => exact Nat.zero_le _

/-- What holds of a thread behind its entry into the loop. -/
def InLoop (i : Nat) (endTime : ℚ) (p : TimedProgram) (now : ℚ)
    (out : List (ℚ × Program.Output)) : Prop :=
  (∀ t ∈ sent i out, t ≤ now) ∧
    InBlocks endTime (sent i out) (p.program.Stopping ∨ endTime < now) (p.runPc i)

theorem InLoop.step {out : List (ℚ × Program.Output)} (h : InLoop i endTime p now out)
    (he : e ≠ .enter i) : InLoop i endTime (p.step (now, e)).1 now
      (out ++ (p.step (now, e)).2.toList) := by
  rcases step_cases p now e with hskip | ⟨hl, hd⟩
  · rw [hskip, Option.toList_none, List.append_nil]
    exact h
  · obtain ⟨hle, hblocks⟩ := h
    have hs := (hd.runStep he).loopStep hblocks.unlimited
    rw [InLoop, sent_append]
    refine ⟨fun t ht => ?_, ?_⟩
    · rcases List.mem_append.1 ht with ht | ht
      · exact hle t ht
      · exact (hs.time ht).le
    · exact (hblocks.loopStep hle hs (fun h => .inl (.inl h)) .inr).mono
        (.imp_left fun h => h.moves (hd.moves hl))

theorem OneBlock.le (h : OneBlock calls pc) : calls.length ≤ 10001 := by
  cases pc with
  | slice | checkTime | undefined => exact h.elim
  | runWithoutRateLimit => exact h.1.trans h.2
  | loopLeft => exact h
  | waitForTimeout => exact h

theorem OneBlock.step {out : List (ℚ × Program.Output)}
    (h : p.program.Stopping ∧ OneBlock (sent i out) (p.runPc i)) (he : e ≠ .enter i) :
    (p.step (now, e)).1.program.Stopping ∧
      OneBlock (sent i (out ++ (p.step (now, e)).2.toList)) ((p.step (now, e)).1.runPc i) := by
  rcases step_cases p now e with hskip | ⟨hl, hd⟩
  · rw [hskip, Option.toList_none, List.append_nil]
    exact h
  · obtain ⟨hstop, hone⟩ := h
    refine ⟨hstop.moves (hd.moves hl), ?_⟩
    rw [sent_append]
    exact hone.loopStep ((hd.runStep he).loopStep hone.unlimited) (hstop.resolve_right (by simp [hl]))

/-- A thread that is told to stop sends one block more at most. -/
theorem OneBlock.run {events : List (ℚ × Event)} {out : List (ℚ × Program.Output)}
    (hstop : p.program.Stopping) (h : OneBlock [] (p.runPc i)) (hagain : ∀ e ∈ events, e.2 ≠ .enter i)
    (hrun : Run.trace TimedProgram.step p events = (p', out)) : (sent i out).length ≤ 10001 := by
  have hend : (Run.trace TimedProgram.step p events).1.program.Stopping ∧
      OneBlock (sent i ([] ++ (Run.trace TimedProgram.step p events).2))
        ((Run.trace TimedProgram.step p events).1.runPc i) :=
    Run.trace_inv_of_forall (P := fun e : ℚ × Event => e.2 ≠ .enter i)
      (I := fun (p : TimedProgram) out => p.program.Stopping ∧ OneBlock (sent i out) (p.runPc i))
      (fun _ _ _ he h => OneBlock.step h he) hagain ⟨hstop, h⟩
  rw [hrun, List.nil_append] at hend
  exact hend.2.le

theorem InLoop.later {endTime now' : ℚ} {out : List (ℚ × Program.Output)}
    (h : InLoop i endTime p now out) (hle : now ≤ now') : InLoop i endTime p now' out :=
  ⟨fun t ht => (h.1 t ht).trans hle, h.2.mono (.imp_right fun hlt => hlt.trans_le hle)⟩

/-- **The loop without a rate limit**: whatever the other threads do, a thread that enters it at the
time `s` sends whole blocks of 10001 queries, leaves it only when the run time is over or it is told to
stop, sends no more than 10001 queries behind the end of the run time, and no more than 10001 once the
main thread is in `stopThreads()`. -/
theorem unlimited_in_blocks {q : TimedProgram} {w : Worker} {s : ℚ} {events : List (ℚ × Event)}
    {out : List (ℚ × Program.Output)} (hl : q.program.pc.ended = false) (hw : q.worker i = some w)
    (hwait : w.state = .waiting) (hloop : w.thread.loop = .runWithoutRateLimit)
    (hclock : (s :: events.map Prod.fst).Pairwise (· ≤ ·))
    (hnow : ∀ c ∈ s :: events.map Prod.fst, c ≤ now) (hagain : ∀ e ∈ events, e.2 ≠ .enter i)
    (hrun : Run.trace step q ((s, .enter i) :: events) = (p, out)) :
    InBlocks (s + w.thread.runtime.toInt) (sent i out)
      (p.program.Stopping ∨ s + w.thread.runtime.toInt < now) (p.runPc i) ∧
    (sent i out).countP (s + w.thread.runtime.toInt < ·) ≤ 10001 ∧
    ∀ events1 events2 p1 out1, events = events1 ++ events2 →
      Run.trace step q ((s, .enter i) :: events1) = (p1, out1) → p1.program.pc = .stopThreads →
        (sent i out).length ≤ (sent i out1).length + 10001 := by
  have henter : q.step (s, .enter i) =
      ((q.setRunPc i (w.thread.enterLoop s)).act i .start, none) := by
    simp only [TimedProgram.step, hl, Bool.false_eq_true, if_false]
    exact enter_eq hl hw hwait
  have hstart : InLoop i (s + w.thread.runtime.toInt) (q.step (s, .enter i)).1 s [] := by
    have hpc : (q.step (s, .enter i)).1.runPc i =
        .runWithoutRateLimit 0 (s + w.thread.runtime.toInt) := by
      rw [henter]
      refine (runPc_setRunPc i _).trans ?_
      rw [DNSSenderThread.enterLoop, hloop]
    refine ⟨List.forall_mem_nil _, ?_⟩
    rw [hpc]
    exact ⟨rfl, Nat.zero_le _, ⟨0, rfl⟩, le_rfl⟩
  have hcons : ∀ events, Run.trace step q ((s, .enter i) :: events) =
      Run.trace step (q.step (s, .enter i)).1 events := fun events => by
    rw [Run.trace, henter]
    rfl
  have hinLoop : ∀ {events now p out}, (s :: events.map Prod.fst).Pairwise (· ≤ ·) →
      (∀ c ∈ s :: events.map Prod.fst, c ≤ now) → (∀ e ∈ events, e.2 ≠ .enter i) →
      Run.trace step q ((s, .enter i) :: events) = (p, out) →
      InLoop i (s + w.thread.runtime.toInt) p now out := by
    intro events now p out hclock hnow hagain hrun
    have h := Run.trace_inv_timed
      (I := fun p now out => InLoop i (s + w.thread.runtime.toInt) p now out)
      (P := fun e => e ≠ .enter i) (fun _ _ _ _ hle h => h.later hle)
      (fun _ _ _ _ he h => h.step he) hagain hclock hnow hstart
    rw [← hcons, hrun] at h
    exact h
  have hall := hinLoop hclock hnow hagain hrun
  refine ⟨hall.2, hall.2.le, ?_⟩
  rintro events1 events2 p1 out1 rfl hrun1 hpc
  have hsub : ∀ e ∈ events1, e ∈ events1 ++ events2 := fun e he => List.mem_append_left _ he
  have hbefore : (s :: events1.map Prod.fst).Sublist (s :: (events1 ++ events2).map Prod.fst) :=
    ((List.sublist_append_left events1 events2).map Prod.fst).cons_cons s
  have h1 : InLoop i (s + w.thread.runtime.toInt) p1 now out1 :=
    hinLoop (hclock.sublist hbefore) (fun c hc => hnow c (hbefore.subset hc))
      (fun e he => hagain e (hsub e he)) hrun1
  have hsplit : Run.trace step q (((s, .enter i) :: events1) ++ events2) = _ :=
    Run.trace_append ((s, .enter i) :: events1) events2 q
  rw [List.cons_append, hrun, hrun1] at hsplit
  obtain ⟨-, rfl⟩ := Prod.mk.inj hsplit
  rw [sent_append, List.length_append]
  exact Nat.add_le_add_left (OneBlock.run (.inl hpc) h1.2.oneBlock
    (fun e he => hagain e (List.mem_append_right _ he)) rfl) _

/-- The thread sends a query, the program is interrupted, and the thread sends another one. -/
def queryBeforeStop : List (ℚ × Event) :=
  [(1, .pass 0 (passOf 45 0)), (2, .sigint), (2, .main []), (2, .main [])]

theorem unlimited_in_blocks_two_queries : ∃ q p p1 out out1,
    Run.trace step q ((0, .enter 0) :: (queryBeforeStop ++ [(3, .pass 0 (passOf 45 0))])) = (p, out) ∧
    Run.trace step q ((0, .enter 0) :: queryBeforeStop) = (p1, out1) ∧
    sent 0 out = [1, 3] ∧ sent 0 out1 = [1] ∧
    InBlocks 10 (sent 0 out) (p.program.Stopping ∨ (10 : ℚ) < 3) (p.runPc 0) ∧
    (sent 0 out).length ≤ (sent 0 out1).length + 10001 := by
  obtain ⟨s, q, out0, w, p, p1, out, out1, -, -, hl, hw, hwait, hloop, hruntime, hrun, hrun1, hpc, hsent,
      hsent1⟩ : ∃ s q out0 w p p1 out out1,
      DNSSender.oneQuery.prepareThreads (fun _ => .zero 4096) = .ok s ∧
      Run.trace step (start s 2 [0] none) [(0, .main [])] = (q, out0) ∧
      q.program.pc.ended = false ∧ q.worker 0 = some w ∧ w.state = .waiting ∧
      w.thread.loop = .runWithoutRateLimit ∧ w.thread.runtime = 10 ∧
      Run.trace step q ((0, .enter 0) :: (queryBeforeStop ++ [(3, .pass 0 (passOf 45 0))])) =
        (p, out) ∧
      Run.trace step q ((0, .enter 0) :: queryBeforeStop) = (p1, out1) ∧
      p1.program.pc = .stopThreads ∧ sent 0 out = [1, 3] ∧ sent 0 out1 = [1] :=
    ⟨_, _, _, _, _, _, _, _, rfl, rfl, by decide +kernel, rfl, by decide +kernel, by decide +kernel,
      by decide +kernel, rfl, rfl, by decide +kernel, by decide +kernel, by decide +kernel⟩
  have hnow : ∀ c ∈ (0 : ℚ) ::
      (queryBeforeStop ++ [(3, Event.pass 0 (passOf 45 0))]).map Prod.fst, c ≤ 3 := by
    decide +kernel
  have hagain : ∀ e ∈ queryBeforeStop ++ [(3, Event.pass 0 (passOf 45 0))], e.2 ≠ .enter 0 := by
    simp [queryBeforeStop]
  obtain ⟨hblocks, -, hstopped⟩ := unlimited_in_blocks hl hw hwait hloop (by decide +kernel) hnow
    hagain hrun
  have hend : (0 : ℚ) + w.thread.runtime.toInt = 10 := by
    rw [hruntime]
    decide +kernel
  rw [hend] at hblocks
  exact ⟨q, p, p1, out, out1, hrun, hrun1, hsent, hsent1, hblocks,
    hstopped queryBeforeStop _ p1 out1 rfl hrun1 hpc⟩

end TimedProgram

end Dnsmeter
