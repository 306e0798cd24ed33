import Dnsmeter.Proof.RealTime
import Mathlib.Data.Finset.Order
import Mathlib.Tactic.Linarith

/-!
# The end of a session in real time

A thread is in its `run` until the timeout behind its last query is over (`Waits`), and so the main
thread waits and the receiver is at work.

* `answers_awaited`: as long as the timeout behind a query is not over the receiver is at work, and no
  results are shown.
-/

namespace Dnsmeter

open DNSSender (Call)

/-- The receiver thread changes its counters, its place and the socket's buffer, nothing else. -/
theorem Program.receiver_frame (p : Program) (ok : Bool) (tp : Option Timeval) :
    ∃ receiver receiverPc socketBuffer, (p.receiver ok tp).1 =
      { p with sender := { p.sender with receiver }, receiverPc, socketBuffer } := by
  unfold Program.receiver
  split
  · exact ⟨_, _, _, rfl⟩
  · rename_i r hpc hr
    split
    · unfold Program.receive
      split
      · exact ⟨_, _, _, rfl⟩
      · rename_i frame socketBuffer hb
        rw [RawSocketReceiver.receive_eq r.socket r.counter (some frame, tp)]
        exact ⟨_, _, _, rfl⟩
    · exact ⟨_, _, _, rfl⟩
  · exact ⟨_, _, _, rfl⟩
  · exact ⟨_, _, _, rfl⟩

/-- No results are shown in the waiting loop. -/
theorem Program.not_waiting_of_results {p p' : Program} {o : Output} (hm : p.Moves p' (some o))
    (ho : o.results?.isSome = true) : p.pc ≠ .waiting := by
  have hdue : ∀ {next}, p.Due next → p.pc ≠ .waiting := by
    intro next hd hpc
    cases hd with
    | session h => cases hpc.symm.trans h
    | interrupted h => cases hpc.symm.trans h
  generalize hout : some o = out at hm
  cases hm with
  | results hd => exact hdue hd
  | csvError hd => exact hdue hd
  | act hl i a =>
    obtain ⟨c, -, rfl⟩ := Option.map_eq_some_iff.1 hout.symm
    cases ho
  | runError | startSession | clear | receive | arrive =>
    cases hout
    cases ho
  | skip | finished | leaveWait | interrupted | mainError | receiver | sigint => cases hout

/-- While the main thread waits for the end of a session, the receiver is at work. -/
def Program.Listening (p : Program) : Prop :=
  p.pc = .waiting → p.sender.receiver.isSome = true → p.receiverPc ≠ .idle

theorem Program.Listening.moves {p p' : Program} {o : Option Output} (h : p.Listening)
    (hm : p.Moves p' o) : p'.Listening := by
  have hended : ∀ e : Abort, catchException e ≠ .waiting := by
    intro e heq
    have hend := catchException_ended e
    rw [heq] at hend
    cases hend
  cases hm with
  | skip => exact h
  | finished => exact nofun
  | runError => exact fun hpc => absurd hpc (hended _)
  | startSession =>
    intro _ hr
    dsimp only at hr ⊢
    rw [if_pos hr]
    nofun
  | leaveWait => exact nofun
  | interrupted => exact nofun
  | mainError => exact fun hpc => absurd hpc (hended _)
  | results hd => cases hd <;> exact nofun
  | csvError => exact fun hpc => absurd hpc (hended _)
  | act hl i a =>
    obtain ⟨threadpool, payload, hs, -⟩ := p.sender.act_frame i a
    intro hpc hr
    rw [hs] at hr
    exact h hpc hr
  | clear => exact fun _ _ => nofun
  | receive => exact fun _ _ => nofun
  | receiver hl hr =>
    rcases hr with ⟨-, rfl⟩ | ⟨-, rfl⟩ | ⟨-, -, hstop⟩
    · exact fun _ _ => nofun
    · exact fun _ _ => nofun
    · exact fun hpc => nomatch hpc.symm.trans hstop
  | arrive => exact h
  | sigint => exact h

theorem RunPc.called_ne_waitForTimeout {pc pc' : RunPc} (h : pc.called = some pc')
    (endTime check : ℚ) : pc' ≠ .waitForTimeout endTime check := by
  unfold RunPc.called at h
  split at h
  · cases h
    nofun
  · split at h
    · cases h
    · cases h
      nofun
  · cases h

namespace DNSSenderThread

variable {t : DNSSenderThread} {timeout : Int32} {now : ℚ} {shouldStop : Bool} {pc : RunPc}

theorem enterSlice_ne_waitForTimeout (rest : Nat) (queriesRest : UInt64)
    (nextTimeslice nextChecktime endTime endTime' check : ℚ) :
    t.enterSlice rest queriesRest nextTimeslice nextChecktime endTime ≠
      .waitForTimeout endTime' check := by
  cases rest <;> nofun

/-- How a thread comes to wait for answers. -/
theorem goOn_waitForTimeout {endTime check : ℚ}
    (h : t.goOn timeout now shouldStop pc = some (.waitForTimeout endTime check)) :
    endTime = now + timeout.toInt ∨ ∃ check', pc = .waitForTimeout endTime check' := by
  have hslice : ∀ {rest queriesRest nextTimeslice nextChecktime endTime'},
      some (t.enterSlice rest queriesRest nextTimeslice nextChecktime endTime') ≠
        some (.waitForTimeout endTime check) :=
    fun h => enterSlice_ne_waitForTimeout _ _ _ _ _ _ _ (Option.some.inj h)
  unfold goOn at h
  split at h
  · split at h
    · split at h <;> cases h
    · split at h
      · split at h <;> cases h
      · exact absurd h hslice
  · split at h
    · cases h
    · exact absurd h hslice
  · split at h
    · split at h <;> cases h
    · cases h
  · cases h
    exact .inl rfl
  · split at h
    · split at h
      · split at h
        · cases h
        · cases h
          exact .inr ⟨_, rfl⟩
      · cases h
        exact .inr ⟨_, rfl⟩
    · cases h
  · cases h
    exact .inr ⟨check, rfl⟩

/-- When `run` returns. -/
theorem goOn_none (h : t.goOn timeout now shouldStop pc = none) : ∃ endTime check,
    pc = .waitForTimeout endTime check ∧ (shouldStop = true ∨ endTime ≤ now) := by
  unfold goOn at h
  split at h
  · split at h
    · split at h <;> cases h
    · split at h
      · split at h <;> cases h
      · cases h
  · split at h <;> cases h
  · split at h
    · split at h <;> cases h
    · cases h
  · cases h
  · rename_i endTime check
    refine ⟨endTime, check, rfl, ?_⟩
    split at h
    · split at h
      · split at h
        · rename_i hstop
          exact .inl hstop
        · cases h
      · cases h
    · rename_i hover
      exact .inr (not_lt.1 hover)
  · cases h

end DNSSenderThread

namespace TimedProgram

variable {p p' : TimedProgram} {now : ℚ} {e : Event} {o : Option (ℚ × Program.Output)}

/-- While the main thread is waiting nothing but a thread itself changes the pool, and it goes on
when no thread is running any more, or it is interrupted. -/
theorem program_waiting {e' : Program.Event} (he : e.program? = some e')
    (hpc : p.program.pc = .waiting) :
    (p.program.step e').1.sender.threadpool = p.program.sender.threadpool ∧
    ((p.program.step e').1.pc = .waiting ∨ p.program.running = false ∨
      p.program.stopFlag = true) := by
  have hl : ¬ p.program.pc.ended = true := by rw [hpc]; exact Bool.false_ne_true
  unfold Program.step
  rw [if_neg hl]
  cases e with
  | main procNetDev =>
    cases he
    dsimp only
    unfold Program.main
    rw [hpc]
    dsimp only
    split
    · exact ⟨rfl, .inl hpc⟩
    · rename_i h
      refine ⟨rfl, .inr ?_⟩
      cases hw : p.program.running <;> simp_all
  | receiver ok tp =>
    cases he
    obtain ⟨receiver, receiverPc, socketBuffer, hp⟩ := p.program.receiver_frame ok tp
    dsimp only
    rw [hp]
    exact ⟨rfl, .inl hpc⟩
  | arrive frame =>
    cases he
    exact ⟨rfl, .inl hpc⟩
  | sigint =>
    cases he
    exact ⟨rfl, .inl hpc⟩
  | enter | pass | goOn => cases he

theorem running_of_worker {i : Nat} {w : Worker} (hw : p.worker i = some w)
    (hrun : w.state = .running) : p.program.running = true := by
  cases h : p.program.running with
  | true => rfl
  | false =>
    cases hrun.symm.trans (Program.running_eq_false.1 h w (List.mem_of_getElem? hw))

/-! ## Waiting for answers -/

/-- Thread `i` has not ended with an exception. -/
def Unraised (i : Nat) (out : List (ℚ × Program.Output)) : Prop :=
  ∀ t env e thread payload, (t, .call ⟨i, env, .raised e thread payload⟩) ∉ out

/-- Thread `i` does not leave `run` before the timeout behind `t` is over. -/
structure Waits (p : TimedProgram) (i : Nat) (t : ℚ) : Prop where
  pc : p.program.pc = .waiting
  running : ∃ w, p.worker i = some w ∧ w.state = .running
  until_end : ∀ endTime check, p.runPc i = .waitForTimeout endTime check →
    t + p.timeout.toInt ≤ endTime

variable {i : Nat} {t : ℚ}

theorem Waits.act_other {j : Nat} (h : p.Waits i t) (hne : j ≠ i) (a : Action) :
    (p.act j a).Waits i t := by
  obtain ⟨w, hw, hrun⟩ := h.running
  exact ⟨h.pc, ⟨w, (act_worker_ne hne a).trans hw, hrun⟩, h.until_end⟩

theorem Waits.setRunPc {j : Nat} {pc : RunPc} (h : p.Waits i t) (hpc : j = i →
      ∀ endTime check, pc = .waitForTimeout endTime check → t + p.timeout.toInt ≤ endTime) :
    (p.setRunPc j pc).Waits i t := by
  refine ⟨h.pc, h.running, fun endTime check heq => ?_⟩
  by_cases hji : j = i
  · rw [hji, runPc_setRunPc] at heq
    exact hpc hji endTime check heq
  · rw [setRunPc_ne (Ne.symm hji)] at heq
    exact h.until_end endTime check heq

/-- A pass that does not end the thread. -/
theorem Waits.pass (now : ℚ) {j : Nat} {env : SendEnv} (h : p.Waits i t) (hnow : Unraised i
      ((p.program.sender.act j (.pass env)).2.map fun c => (now, Program.Output.call c)).toList) :
    (p.act j (.pass env)).Waits i t := by
  by_cases hji : j = i
  · subst hji
    obtain ⟨w, hw, hrun⟩ := h.running
    obtain ⟨w', p', r, hacts, hw', ho⟩ := act_worker hw (.pass env)
    refine ⟨h.pc, ⟨w', hw', ?_⟩, h.until_end⟩
    cases hacts with
    | skip => exact hrun
    | returned => rfl
    | raised =>
      rw [ho] at hnow
      exact absurd List.mem_cons_self (hnow now env _ _ _)
  · exact h.act_other hji _

/-- **A thread that waits goes on waiting** until the timeout is over. -/
theorem Waits.does (h : p.Waits i t) (hd : p.Does now e p' o) (ht : t ≤ now)
    (hstop : p.program.stopFlag = false) (hnow : Unraised i o.toList) :
    p'.Waits i t ∨ t + p.timeout.toInt ≤ now := by
  obtain ⟨w, hw, hrun⟩ := h.running
  cases hd with
  | skip => exact .inl h
  | @program e e' he =>
    obtain ⟨hpool, hpc⟩ := program_waiting he h.pc
    rcases hpc with hpc | hidle | hset
    · refine .inl ⟨hpc, ⟨w, ?_, hrun⟩, h.until_end⟩
      rw [worker, take, hpool]
      exact hw
    · cases hidle.symm.trans (running_of_worker hw hrun)
    · cases hstop.symm.trans hset
  | @enter j v hv hs =>
    have hji : j ≠ i := by
      rintro rfl
      cases hw.symm.trans hv
      cases hrun.symm.trans hs
    exact .inl ((h.setRunPc fun hj => absurd hj hji).act_other hji _)
  | returned hpc hc =>
    refine .inl ((h.pass now ?_).setRunPc fun _ endTime check heq => ?_)
    · rw [hc]
      exact hnow
    · exact absurd heq (RunPc.called_ne_waitForTimeout hpc endTime check)
  | notReturned hpc ho hr =>
    refine .inl (h.pass now ?_)
    rw [← ho]
    exact hnow
  | @goOn j v hv hs pc hgo =>
    refine .inl (h.setRunPc fun hj endTime check heq => ?_)
    rw [hj, heq] at hgo
    rcases DNSSenderThread.goOn_waitForTimeout hgo with rfl | ⟨check', hpc⟩
    · linarith
    · exact h.until_end endTime check' hpc
  | @finish j v hv hs hret =>
    by_cases hji : j = i
    · rw [hji] at hret
      obtain ⟨endTime, check, hpc, hover⟩ := DNSSenderThread.goOn_none hret
      rcases hover with hover | hover
      · cases h.pc.symm.trans (of_decide_eq_true hover)
      · exact .inr ((h.until_end endTime check hpc).trans hover)
    · exact .inl (h.act_other hji _)

/-- The thread of a call that has not raised an exception waits for the answer. -/
theorem waits_of_call {j : Nat} {env : SendEnv} {c : Call} (hl : p.program.pc.ended = false)
    (hc : p.program.Control) (hstop : p.program.stopFlag = false)
    (hcall : (p.program.sender.act j (.pass env)).2 = some c)
    (hloop : ∀ endTime check, p.runPc j ≠ .waitForTimeout endTime check)
    (hnow : Unraised c.thread [(now, .call c)]) : (p.act j (.pass env)).Waits c.thread now := by
  obtain ⟨w, hw, hrunning⟩ := running_of_call hcall
  obtain ⟨w', p', r, hacts, hw', ho⟩ := act_worker hw (.pass env)
  rw [ho] at hcall
  cases hacts with
  | skip => cases hcall
  | raised hrun =>
    cases hcall
    exact absurd List.mem_cons_self (hnow now env _ _ _)
  | returned hrun =>
    cases hcall
    refine ⟨?_, ⟨_, hw', rfl⟩, fun endTime check hpc => absurd hpc (hloop endTime check)⟩
    have hrunning : p.program.running = true := running_of_worker hw hrunning
    show p.program.pc = .waiting
    cases hpc : p.program.pc with
    | waiting => rfl
    | nextRate => cases hrunning.symm.trans (hc.nextRate hpc).1
    | threadStop =>
      rcases hc.threadStop hpc with hidle | hset
      · cases hrunning.symm.trans hidle
      · cases hstop.symm.trans hset
    | stopThreads => cases hstop.symm.trans (hc.stopThreads hpc).2
    | exited code =>
      rw [hpc] at hl
      cases hl
    | undefined e =>
      rw [hpc] at hl
      cases hl

theorem Does.calls {c : Call} (hl : p.program.pc.ended = false) (hc : p.program.Control)
    (hstop : p.program.stopFlag = false) (h : p.Does now e p' o) (ho : o = some (t, .call c))
    (hnow : Unraised c.thread [(t, .call c)]) : t = now ∧ p'.Waits c.thread now := by
  have hmap : ∀ {r : Option Call}, (r.map fun c => (now, Program.Output.call c)) =
      some (t, .call c) → t = now ∧ r = some c := by
    intro r hr
    obtain ⟨c', hc', heq⟩ := Option.map_eq_some_iff.1 hr
    cases heq
    exact ⟨rfl, hc'⟩
  cases h with
  | @program _ e' he =>
    obtain ⟨o', ho', heq⟩ := Option.map_eq_some_iff.1 ho
    cases heq
    exact absurd ho' (program_not_call he c)
  | @returned j pc hpc env thread payload d hr =>
    cases ho
    refine ⟨rfl, (waits_of_call hl hc hstop hr ?_ hnow).setRunPc fun _ endTime check heq => ?_⟩
    · exact fun endTime check heq => nomatch (congrArg RunPc.called heq).symm.trans hpc
    · exact absurd heq (RunPc.called_ne_waitForTimeout hpc endTime check)
  | @notReturned j pc hpc env o hmapped hret =>
    obtain ⟨rfl, hr⟩ := hmap (hmapped.symm.trans ho)
    refine ⟨rfl, waits_of_call hl hc hstop hr ?_ hnow⟩
    exact fun endTime check heq => nomatch (congrArg RunPc.called heq).symm.trans hpc
  | skip | enter | goOn | finish => cases ho

theorem Unraised.append {out out' : List (ℚ × Program.Output)} :
    Unraised i (out ++ out') ↔ Unraised i out ∧ Unraised i out' := by
  simp only [Unraised, List.mem_append, not_or, forall_and]

/-- The timeout behind the calls of a log is over at the time `now`. -/
def AllOver (timeout : Int32) (now : ℚ) (out : List (ℚ × Program.Output)) : Prop :=
  ∀ pre t c post, out = pre ++ (t, .call c) :: post → Unraised c.thread ((t, .call c) :: post) →
    t + timeout.toInt ≤ now

/-- The program at the time `now`, and what it has put out. -/
structure Awaiting (timeout : Int32) (p : TimedProgram) (now : ℚ)
    (out : List (ℚ × Program.Output)) : Prop where
  control : p.program.Control
  listening : p.program.Listening
  timeout_eq : p.timeout = timeout
  calls : p.program.stopFlag = false → ∀ pre t c post, out = pre ++ (t, .call c) :: post →
    Unraised c.thread ((t, .call c) :: post) →
      t ≤ now ∧ (p.Waits c.thread t ∨ t + timeout.toInt ≤ now)
  results : p.program.stopFlag = false → ∀ pre b post, out = pre ++ b :: post →
    b.2.results?.isSome = true → AllOver timeout b.1 pre

section
variable {timeout : Int32} {out : List (ℚ × Program.Output)}

theorem stopFlag_before (hl : p.program.pc.ended = false) (hd : p.Does now e p' o)
    (h : p'.program.stopFlag = false) : p.program.stopFlag = false := by
  by_contra hne
  have hkept := (Program.left_moves (by simpa using hne) (hd.moves hl)).1
  cases h.symm.trans hkept

theorem Awaiting.step (h : p.Awaiting timeout now out) (e : Event) :
    (p.step (now, e)).1.Awaiting timeout now (out ++ (p.step (now, e)).2.toList) := by
  rcases step_cases p now e with hskip | ⟨hl, hd⟩
  · rw [hskip, Option.toList_none, List.append_nil]
    exact h
  · refine ⟨h.control.moves (hd.moves hl), h.listening.moves (hd.moves hl),
      hd.timeout.trans h.timeout_eq, ?_, ?_⟩
    · intro hset pre t c post hpos hraised
      have hstop := stopFlag_before hl hd hset
      rcases Run.concat_eq_position hpos with ⟨post', hout, rfl⟩ | ⟨-, ho, rfl⟩
      · rw [← List.cons_append] at hraised
        obtain ⟨hbefore, hnow⟩ := Unraised.append.1 hraised
        obtain ⟨ht, hwaits | hover⟩ := h.calls hstop pre t c post' hout hbefore
        · rw [← h.timeout_eq]
          exact ⟨ht, hwaits.does hd ht hstop hnow⟩
        · exact ⟨ht, .inr hover⟩
      · obtain ⟨rfl, hwaits⟩ := hd.calls hl h.control hstop ho hraised
        exact ⟨le_rfl, .inl hwaits⟩
    · intro hset
      have hstop := stopFlag_before hl hd hset
      refine Run.entries_concat (h.results hstop) fun b ho hres pre t c post hpos hraised => ?_
      obtain ⟨-, hwaits | hover⟩ := h.calls hstop pre t c post hpos hraised
      · -- the main thread does not show results while it waits
        have hm := hd.moves hl
        rw [ho, Option.map_some] at hm
        exact absurd hwaits.pc (Program.not_waiting_of_results hm hres)
      · rw [hd.stamp ho]
        exact hover

theorem Awaiting.later {now' : ℚ} (h : p.Awaiting timeout now out) (hle : now ≤ now') :
    p.Awaiting timeout now' out := by
  refine ⟨h.control, h.listening, h.timeout_eq, ?_, h.results⟩
  intro hstop pre t c post hpos hraised
  obtain ⟨ht, hwaits | hover⟩ := h.calls hstop pre t c post hpos hraised
  · exact ⟨ht.trans hle, .inl hwaits⟩
  · exact ⟨ht.trans hle, .inr (hover.trans hle)⟩

/-- **The answers are awaited**: in every run that is not interrupted, as long as the timeout behind a
call of `sendPacket` is not over the main thread waits for the end of the session and the receiver is
at work; results are shown only when the timeout behind every call before them is over; and all this
is a run of `Program`, with what holds of those. Only a call whose thread ends with an exception is not
waited for. -/
theorem answers_awaited {s0 s : DNSSender} {mem : Nat → Block 4096} (h0 : s0.threadpool = [])
    (hs : s0.prepareThreads mem = .ok s) {rates : List Int32}
    {csvFile : Option (List DNSSender.CsvLine)} {events : List (ℚ × Event)}
    (hclock : (events.map Prod.fst).Pairwise (· ≤ ·))
    (hrun : Run.trace step (start s timeout rates csvFile) events = (p, out))
    (hstop : p.program.stopFlag = false) :
    (∀ pre t c post now, out = pre ++ (t, .call c) :: post →
      Unraised c.thread ((t, .call c) :: post) → (∀ e ∈ events, e.1 ≤ now) →
      now < t + timeout.toInt →
        p.program.pc = .waiting ∧
        (p.program.sender.receiver.isSome = true → p.program.receiverPc ≠ .idle)) ∧
    (∀ pre T res presented post, out = pre ++ (T, .results res presented) :: post →
      AllOver timeout T pre) ∧
    ∃ es, Run.trace Program.step (.start s rates csvFile) es =
      (p.program, out.map Prod.snd) := by
  have hstart : ∀ now, (start s timeout rates csvFile).Awaiting timeout now [] := fun now => by
    refine ⟨(Program.known_start h0 hs rates csvFile).control, nofun, rfl, ?_, ?_⟩
    · intro _ pre t c post hnil
      simp at hnil
    · intro _ pre b post hnil
      simp at hnil
  have hend : ∀ now, (∀ e ∈ events, e.1 ≤ now) → p.Awaiting timeout now out := fun now hnow =>
    Run.trace_inv_timed_of_eq (I := fun p now out => p.Awaiting timeout now out)
      (fun _ _ _ _ hle h => h.later hle) (fun _ _ _ e h => h.step e) hstart hclock hnow hrun
  refine ⟨?_, ?_, exists_program_run hrun⟩
  · intro pre t c post now hpos hraised hnow hlt
    have h := hend now hnow
    obtain ⟨-, hwaits | hover⟩ := h.calls hstop pre t c post hpos hraised
    · exact ⟨hwaits.pc, h.listening hwaits.pc⟩
    · exact absurd hlt (not_lt.2 hover)
  · intro pre T res presented post hpos
    obtain ⟨now, hnow⟩ := (events.map Prod.fst).toFinset.exists_le
    refine (hend now fun e he => hnow e.1 ?_).results hstop pre _ post hpos rfl
    rw [List.mem_toFinset]
    exact List.mem_map_of_mem he

end

/-- One query, one second later the end of the loop; the answer comes within the timeout. -/
def oneQueryAwaited : List (ℚ × Event) :=
  [(0, .main []), (0, .receiver true none), (0, .enter 0), (0, .pass 0 (passOf 45 0)), (1, .goOn 0),
    (1, .goOn 0), (1, .goOn 0), (3 / 2, .arrive answerFrame), (3 / 2, .receiver true none)]

/-- The end of that session. -/
def timeoutOver : List (ℚ × Event) :=
  [(3, .goOn 0), (3, .main []), (3, .receiver true none), (3, .main []), (3, .main [])]

/-- An entry at a place of the log. -/
theorem entry_of_getElem {out : List (ℚ × Program.Output)} {k : Nat}
    {f : ℚ × Program.Output → Bool} (h : (out[k]?).any f = true) :
    ∃ b, f b = true ∧ out = out.take k ++ b :: out.drop (k + 1) := by
  obtain ⟨b, hb, hf⟩ := (Option.any_eq_true f _).1 h
  obtain ⟨hlt, hget⟩ := List.getElem?_eq_some_iff.1 hb
  exact ⟨b, hf, by rw [← hget, ← List.drop_eq_getElem_cons, List.take_append_drop]⟩

theorem exists_call {t : ℚ} {o : Program.Output} (h : returned (some (t, o)) = true) :
    ∃ c, o = .call c := by
  cases o with
  | call c => exact ⟨c, rfl⟩
  | _ => cases h

theorem exists_results {o : Program.Output} (h : o.results?.isSome = true) :
    ∃ res presented, o = .results res presented := by
  cases o with
  | results res presented => exact ⟨res, presented, rfl⟩
  | _ => cases h

theorem unraised_of_all {out : List (ℚ × Program.Output)} {i : Nat}
    (h : out.all (fun b => b.2.call?.isNone || returned (some b)) = true) : Unraised i out := by
  intro t env e thread payload hmem
  cases List.all_eq_true.1 h _ hmem

theorem answers_awaited_one_query : ∃ s p q out1 out,
    { Program.listening with runtime := 1 }.prepareThreads (fun _ => .zero 4096) = .ok s ∧
    Run.trace step (start s 2 [1] none) oneQueryAwaited = (p, out1) ∧
    p.program.pc = .waiting ∧ p.program.receiverPc ≠ .idle ∧
    Run.trace step (start s 2 [1] none) (oneQueryAwaited ++ timeoutOver) = (q, out) ∧
    q.program.pc = .exited 0 ∧
    ∃ pre res presented post, out = pre ++ (3, .results res presented) :: post ∧
      AllOver 2 3 pre := by
  obtain ⟨s, p, q, out1, out, hs, hrun1, hstop1, hcall, hall, hreceiver, hrun, hstop, hexit, hres⟩ :
      ∃ s p q out1 out,
      { Program.listening with runtime := 1 }.prepareThreads (fun _ => .zero 4096) = .ok s ∧
      Run.trace step (start s 2 [1] none) oneQueryAwaited = (p, out1) ∧
      p.program.stopFlag = false ∧ (out1[2]?).any (fun b => returned (some b) ∧ b.1 = 0) = true ∧
      out1.all (fun b => b.2.call?.isNone || returned (some b)) = true ∧
      p.program.sender.receiver.isSome = true ∧
      Run.trace step (start s 2 [1] none) (oneQueryAwaited ++ timeoutOver) = (q, out) ∧
      q.program.stopFlag = false ∧ q.program.pc = .exited 0 ∧
      (out[5]?).any (fun b => b.2.results?.isSome ∧ b.1 = 3) = true :=
    ⟨_, _, _, _, _, rfl, rfl, by decide +kernel, by decide +kernel, by decide +kernel,
      by decide +kernel, rfl, by decide +kernel, by decide +kernel, by decide +kernel⟩
  obtain ⟨hwaiting, -, -⟩ := answers_awaited rfl hs (by decide +kernel) hrun1 hstop1
  obtain ⟨-, hresults, -⟩ := answers_awaited rfl hs (by decide +kernel) hrun hstop
  obtain ⟨⟨t, o⟩, hP, hout1⟩ := entry_of_getElem hcall
  obtain ⟨hret, rfl⟩ := of_decide_eq_true hP
  obtain ⟨c, rfl⟩ := exists_call hret
  obtain ⟨⟨T, o⟩, hP, hout⟩ := entry_of_getElem hres
  obtain ⟨hresult, rfl⟩ := of_decide_eq_true hP
  obtain ⟨res, presented, rfl⟩ := exists_results hresult
  have hraised : Unraised c.thread ((0, .call c) :: out1.drop 3) := by
    refine unraised_of_all (List.all_eq_true.2 fun b hb => List.all_eq_true.1 hall b ?_)
    rw [hout1]
    exact List.mem_append_right _ hb
  obtain ⟨hpc, hlisten⟩ := hwaiting _ 0 c _ (7 / 4) hout1 hraised (by decide +kernel)
    (by decide +kernel)
  exact ⟨s, p, q, out1, out, hs, hrun1, hpc, hlisten hreceiver, hrun, hexit, _, res, presented, _,
    hout, hresults _ 3 res presented _ hout⟩

end TimedProgram

end Dnsmeter
