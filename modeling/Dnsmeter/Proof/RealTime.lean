import Dnsmeter.Proof.MainLoop
import Dnsmeter.RealTime

/-!
# The steps of the program in real time

`Does` says once what a step can do (`does_step`). Forgetting the times, a run is a run of `Program`
(`exists_program_run`), so all that holds of those runs holds here.

* `RunStep`: what a step does to one of the sender threads (`Does.runStep`), whatever the others do.
-/

namespace Dnsmeter

open DNSSender (Call)

namespace TimedProgram

/-- The step of a thread in the pool. -/
def act (p : TimedProgram) (i : Nat) (a : Action) : TimedProgram :=
  { p with program := { p.program with sender := (p.program.sender.act i a).1 } }

/-- What is not done by a sender thread. -/
def Event.program? : Event → Option Program.Event
  | .main procNetDev => some (.main procNetDev)
  | .receiver ok tp => some (.receiver ok tp)
  | .arrive frame => some (.arrive frame)
  | .sigint => some .sigint
  | _ => none

/-- What a step can do at the time `now`. -/
inductive Does (p : TimedProgram) (now : ℚ) :
    Event → TimedProgram → Option (ℚ × Program.Output) → Prop
  | skip {e : Event} : Does p now e p none
  | program {e : Event} {e' : Program.Event} (he : e.program? = some e') :
      Does p now e (p.take now e').1 (p.take now e').2
  | enter {i : Nat} {w : Worker} (hw : p.worker i = some w) (hs : w.state = .waiting) :
      Does p now (.enter i) ((p.setRunPc i (w.thread.enterLoop now)).act i .start) none
  | returned {i : Nat} {pc : RunPc} (hpc : (p.runPc i).called = some pc) {env : SendEnv}
      {t : DNSSenderThread} {payload : PayloadFile} {d : Bytes}
      (hc : (p.program.sender.act i (.pass env)).2 = some ⟨i, env, .returned t payload d⟩) :
      Does p now (.pass i env) ((p.act i (.pass env)).setRunPc i pc)
        (some (now, .call ⟨i, env, .returned t payload d⟩))
  | notReturned {i : Nat} {pc : RunPc} (hpc : (p.runPc i).called = some pc) {env : SendEnv}
      {o : Option (ℚ × Program.Output)}
      (ho : o = (p.program.sender.act i (.pass env)).2.map fun c => (now, .call c))
      (hr : TimedProgram.returned o = false) : Does p now (.pass i env) (p.act i (.pass env)) o
  | goOn {i : Nat} {w : Worker} (hw : p.worker i = some w) (hs : w.state = .running) {pc : RunPc}
      (h : w.thread.goOn p.timeout now p.threadShouldStop (p.runPc i) = some pc) :
      Does p now (.goOn i) (p.setRunPc i pc) none
  | finish {i : Nat} {w : Worker} (hw : p.worker i = some w) (hs : w.state = .running)
      (h : w.thread.goOn p.timeout now p.threadShouldStop (p.runPc i) = none) :
      Does p now (.goOn i) (p.act i .finish) none

variable {p p' : TimedProgram} {now : ℚ} {e : Event} {o : Option (ℚ × Program.Output)}

@[simp] theorem runPc_setRunPc (i : Nat) (pc : RunPc) : (p.setRunPc i pc).runPc i = pc :=
  Function.update_self ..

theorem setRunPc_ne {i j : Nat} (h : i ≠ j) (pc : RunPc) :
    (p.setRunPc j pc).runPc i = p.runPc i :=
  Function.update_of_ne h ..

theorem take_act (hl : p.program.pc.ended = false) (i : Nat) (a : Action) : p.take now (.act i a) =
    (p.act i a, (p.program.sender.act i a).2.map fun c => (now, .call c)) := by
  simp only [take, act, Program.step, hl, Bool.false_eq_true, if_false, Option.map_map]
  rfl

/-- Only a pass puts out a call. -/
theorem act_output {s : DNSSender} {i : Nat} {a : Action} (h : ∀ env, a ≠ .pass env) :
    (s.act i a).2 = none := by
  rcases s.act_spec i a with ⟨-, hs⟩ | ⟨w, w', p', r, -, -, hs⟩
  · rw [hs]
  · rw [hs]
    cases a with
    | pass env => exact absurd rfl (h env)
    | start => rfl
    | finish => rfl

theorem act_start {s : DNSSender} {i : Nat} : (s.act i .start).2 = none :=
  act_output fun _ h => by cases h

theorem act_finish {s : DNSSender} {i : Nat} : (s.act i .finish).2 = none :=
  act_output fun _ h => by cases h

/-- A call that has returned. -/
theorem call_of_returned {i : Nat} {env : SendEnv}
    (h : returned ((p.program.sender.act i (.pass env)).2.map fun c => (now, .call c)) = true) :
    ∃ t payload d, (p.program.sender.act i (.pass env)).2 = some ⟨i, env, .returned t payload d⟩ := by
  rcases p.program.sender.act_spec i (.pass env) with ⟨-, hs⟩ | ⟨w, w', p', r, -, hacts, hs⟩
  · rw [hs] at h
    cases h
  rw [hs] at h ⊢
  cases hacts with
  | skip => cases h
  | returned hrun ht => exact ⟨_, _, _, rfl⟩
  | raised hrun ht => cases h

theorem does_pass (hl : p.program.pc.ended = false) (i : Nat) (env : SendEnv) :
    p.Does now (.pass i env) (p.pass now i env).1 (p.pass now i env).2 := by
  unfold pass
  split
  · rename_i pc hpc
    rw [take_act hl]
    dsimp only
    split
    · rename_i hr
      obtain ⟨t, payload, d, hc⟩ := call_of_returned hr
      rw [hc]
      exact .returned hpc hc
    · rename_i hr
      exact .notReturned hpc rfl (by simpa using hr)
  · exact .skip

theorem does_goOn (hl : p.program.pc.ended = false) (i : Nat) :
    p.Does now (.goOn i) (p.goOn now i).1 (p.goOn now i).2 := by
  unfold goOn
  split
  · rename_i w hw
    split
    · rename_i hs
      split
      · rename_i pc h
        exact .goOn hw hs h
      · rename_i h
        rw [take_act hl, act_finish]
        exact .finish hw hs h
    · exact .skip
  · exact .skip

theorem enter_eq (hl : p.program.pc.ended = false) {i : Nat} {w : Worker} (hw : p.worker i = some w)
    (hs : w.state = .waiting) :
    p.enter now i = ((p.setRunPc i (w.thread.enterLoop now)).act i .start, none) := by
  have htake : (p.setRunPc i (w.thread.enterLoop now)).take now (.act i .start) =
      ((p.setRunPc i (w.thread.enterLoop now)).act i .start, none) := by
    rw [take_act (by exact hl), act_start]
    rfl
  simp only [enter, hw, hs, if_true, htake]

theorem does_enter (hl : p.program.pc.ended = false) (i : Nat) :
    p.Does now (.enter i) (p.enter now i).1 (p.enter now i).2 := by
  cases hw : p.worker i with
  | none =>
    simp only [enter, hw]
    exact .skip
  | some w =>
    by_cases hs : w.state = .waiting
    · rw [enter_eq hl hw hs]
      exact .enter hw hs
    · simp only [enter, hw, hs, if_false]
      exact .skip

/-- **What a step can do.** -/
theorem does_step (p : TimedProgram) (now : ℚ) (e : Event) :
    p.Does now e (p.step (now, e)).1 (p.step (now, e)).2 := by
  unfold step
  dsimp only
  split
  · exact .skip
  · rename_i hended
    have hl : p.program.pc.ended = false := by simpa using hended
    cases e with
    | main | receiver | arrive | sigint => exact .program rfl
    | enter i => exact does_enter hl i
    | pass i env => exact does_pass hl i env
    | goOn i => exact does_goOn hl i

/-- A step behind the end, or one of those. -/
theorem step_cases (p : TimedProgram) (now : ℚ) (e : Event) :
    p.step (now, e) = (p, none) ∨ p.program.pc.ended = false ∧
      p.Does now e (p.step (now, e)).1 (p.step (now, e)).2 := by
  cases hl : p.program.pc.ended with
  | true => exact .inl (by simp [step, hl])
  | false => exact .inr ⟨rfl, does_step p now e⟩

/-! ## The runs of the program -/

/-- A step is a step of `Program`, or nothing happens there. -/
theorem Does.program_step (hl : p.program.pc.ended = false) (h : p.Does now e p' o) :
    p'.program = p.program ∧ o = none ∨
    ∃ e', p.program.step e' = (p'.program, o.map Prod.snd) := by
  have hact : ∀ (i : Nat) (a : Action), p.program.step (.act i a) =
      ((p.act i a).program, (p.program.sender.act i a).2.map .call) := fun i a => by
    simp only [Program.step, hl, Bool.false_eq_true, if_false]
    rfl
  have hcalls : ∀ r : Option Call, r.map Program.Output.call =
      (r.map fun c => (now, Program.Output.call c)).map Prod.snd := fun r => by
    cases r <;> rfl
  cases h with
  | skip => exact .inl ⟨rfl, rfl⟩
  | @program _ e' he =>
    refine .inr ⟨e', ?_⟩
    cases hout : (p.program.step e').2 <;> simp [take, Prod.ext_iff, hout]
  | enter hw hs => exact .inr ⟨_, by rw [hact _ .start, act_start]; rfl⟩
  | returned hpc hc => exact .inr ⟨_, by rw [hact _ (.pass _), hc]; rfl⟩
  | notReturned hpc ho hr => exact .inr ⟨_, by rw [hact _ (.pass _), ho, hcalls]⟩
  | goOn => exact .inl ⟨rfl, rfl⟩
  | finish => exact .inr ⟨_, by rw [hact _ .finish, act_finish]; rfl⟩

theorem Does.moves (hl : p.program.pc.ended = false) (h : p.Does now e p' o) :
    p.program.Moves p'.program (o.map Prod.snd) := by
  rcases h.program_step hl with ⟨hp, ho⟩ | ⟨e', he⟩
  · rw [hp, ho]
    exact .skip
  · have hm := p.program.moves_step e'
    rwa [he] at hm

/-- **Without its times a run is a run of `Program`.** -/
theorem exists_program_run : ∀ {events : List (ℚ × Event)} {p p' : TimedProgram}
    {out : List (ℚ × Program.Output)}, Run.trace step p events = (p', out) →
      ∃ es, Run.trace Program.step p.program es = (p'.program, out.map Prod.snd)
  | [], p, _, _, h => by
    cases h
    exact ⟨[], rfl⟩
  | (now, e) :: events, p, p', out, h => by
    obtain ⟨es, hes⟩ : ∃ es, Run.trace Program.step p.program es =
        ((p.step (now, e)).1.program, (p.step (now, e)).2.toList.map Prod.snd) := by
      rcases step_cases p now e with hskip | ⟨hl, hd⟩
      · exact ⟨[], by rw [hskip]; rfl⟩
      · rcases hd.program_step hl with ⟨hp, ho⟩ | ⟨e', he⟩
        · exact ⟨[], by rw [hp, ho]; rfl⟩
        · refine ⟨[e'], ?_⟩
          rw [Run.trace, he]
          cases (p.step (now, e)).2 <;> rfl
    obtain ⟨es', hes'⟩ : ∃ es', Run.trace Program.step (p.step (now, e)).1.program es' =
        ((Run.trace step (p.step (now, e)).1 events).1.program,
          (Run.trace step (p.step (now, e)).1 events).2.map Prod.snd) := exists_program_run rfl
    cases h
    refine ⟨es ++ es', ?_⟩
    simp only [Run.trace_append, hes, hes', List.map_append]

/-! ## The threads -/

theorem act_worker_ne {i j : Nat} (h : i ≠ j) (a : Action) : (p.act i a).worker j = p.worker j := by
  rcases p.program.sender.act_spec i a with ⟨-, hs⟩ | ⟨w, w', p', r, -, -, hs⟩
  · simp only [worker, act, hs]
  · simp only [worker, act, hs, List.getElem?_set_ne h]

theorem act_worker {i : Nat} {w : Worker} (hw : p.worker i = some w) (a : Action) :
    ∃ w' p' r, w.Acts p.program.sender.payload a w' p' r ∧ (p.act i a).worker i = some w' ∧
      (p.program.sender.act i a).2 = DNSSender.callOf i a r := by
  rcases p.program.sender.act_spec i a with ⟨hnone, -⟩ | ⟨w1, w', p', r, hw1, hacts, hs⟩
  · cases hw.symm.trans hnone
  · cases hw.symm.trans hw1
    have hi : i < p.program.sender.threadpool.length := (List.getElem?_eq_some_iff.1 hw).1
    refine ⟨w', p', r, hacts, ?_, by rw [hs]⟩
    simp only [worker, act, hs, List.getElem?_set_self hi]

/-- Calls are made by the sender threads only. -/
theorem program_not_call {q : Program} {e' : Program.Event} (he : e.program? = some e') (c : Call) :
    (q.step e').2 ≠ some (.call c) := by
  unfold Program.step
  split
  · nofun
  cases e with
  | main procNetDev =>
    cases he
    dsimp only
    have hshow : ∀ (q : Program) next, (q.showResults next).2 ≠ some (.call c) := by
      intro q next
      unfold Program.showResults
      dsimp only
      repeat' split
      all_goals nofun
    unfold Program.main
    split
    · split
      · nofun
      · split <;> nofun
    · split <;> nofun
    · split
      · nofun
      · split
        · nofun
        · dsimp only
          split
          · nofun
          · exact hshow _ _
    · split
      · nofun
      · exact hshow _ _
    · nofun
    · nofun
  | receiver ok tp =>
    cases he
    dsimp only
    unfold Program.receiver Program.receive
    repeat' split
    all_goals nofun
  | arrive | sigint => cases he; nofun
  | enter | pass | goOn => cases he

theorem Does.timeout (h : p.Does now e p' o) : p'.timeout = p.timeout := by
  cases h <;> rfl

theorem Does.stamp {b : ℚ × Program.Output} (h : p.Does now e p' o) (ho : o = some b) :
    b.1 = now := by
  have hmap : ∀ {γ : Type} {r : Option γ} {f : γ → Program.Output},
      (r.map fun c => (now, f c)) = some b → b.1 = now := by
    intro γ r f hr
    obtain ⟨c, -, rfl⟩ := Option.map_eq_some_iff.1 hr
    rfl
  cases h with
  | program => exact hmap ho
  | returned =>
    cases ho
    rfl
  | notReturned hpc hmapped => exact hmap (hmapped.symm.trans ho)
  | skip | enter | goOn | finish => cases ho

/-! ## One thread -/

/-- When the calls of thread `i` have returned. -/
def sent (i : Nat) (out : List (ℚ × Program.Output)) : List ℚ :=
  (out.filter fun b => returned (some b) ∧ b.2.call?.map Call.thread = some i).map Prod.fst

/-- What a step at the time `now` does to thread `i`: its place in `run` behind the step, and the calls
that have returned. -/
inductive RunStep (p : TimedProgram) (now : ℚ) (i : Nat) : RunPc → List ℚ → Prop
  | stay : RunStep p now i (p.runPc i) []
  | call {w : Worker} (hw : p.worker i = some w) (hs : w.state = .running) {pc : RunPc}
      (h : (p.runPc i).called = some pc) : RunStep p now i pc [now]
  | goOn {w : Worker} (hw : p.worker i = some w) (hs : w.state = .running) {pc : RunPc}
      (h : w.thread.goOn p.timeout now p.threadShouldStop (p.runPc i) = some pc) :
      RunStep p now i pc []

variable {i : Nat}

theorem sent_append (out out' : List (ℚ × Program.Output)) :
    sent i (out ++ out') = sent i out ++ sent i out' := by
  rw [sent, List.filter_append, List.map_append]
  rfl

theorem sent_of_not_returned (h : returned o = false) : sent i o.toList = [] := by
  cases o with
  | none => rfl
  | some b => simp [sent, h]

theorem sent_of_other {j : Nat} (hne : j ≠ i) (a : Action) : sent i
    ((p.program.sender.act j a).2.map fun c => (now, Program.Output.call c)).toList = [] := by
  cases hc : (p.program.sender.act j a).2 with
  | none => rfl
  | some c =>
    have hthread : c.thread = j := by
      rcases p.program.sender.act_spec j a with ⟨-, hs⟩ | ⟨w, w', p', r, -, -, hs⟩
      · rw [hs] at hc
        cases hc
      · rw [hs] at hc
        exact DNSSender.thread_of_callOf (Option.mem_toList.2 hc)
    simp [sent, Program.Output.call?, hthread, hne]

theorem sent_of_program {e' : Program.Event} (he : e.program? = some e') :
    sent i (p.take now e').2.toList = [] := by
  refine sent_of_not_returned ?_
  cases hout : (p.program.step e').2 with
  | none => simp [take, hout, returned]
  | some o' =>
    cases o' with
    | call c => exact absurd hout (program_not_call he c)
    | _ => simp [take, hout, returned]

theorem running_of_call {env : SendEnv} {c : Call}
    (h : (p.program.sender.act i (.pass env)).2 = some c) :
    ∃ w, p.worker i = some w ∧ w.state = .running := by
  rcases p.program.sender.act_spec i (.pass env) with ⟨-, hs⟩ | ⟨w, w', p', r, hw, hacts, hs⟩
  · rw [hs] at h
    cases h
  · rw [hs] at h
    cases hacts with
    | skip => cases h
    | returned hrun => exact ⟨w, hw, hrun⟩
    | raised hrun => exact ⟨w, hw, hrun⟩

/-- **What a step does to thread `i`**, unless the thread enters its `run` there. -/
theorem Does.runStep (h : p.Does now e p' o) (he : e ≠ .enter i) :
    p.RunStep now i (p'.runPc i) (sent i o.toList) := by
  have hstay : ∀ {pc : RunPc} {l : List ℚ}, pc = p.runPc i → l = [] → p.RunStep now i pc l := by
    rintro pc l rfl rfl
    exact .stay
  have hother : ∀ {j : Nat} (q : TimedProgram) (pc : RunPc), j ≠ i → q.runPc = p.runPc →
      (q.setRunPc j pc).runPc i = p.runPc i := by
    intro j q pc hji hq
    rw [setRunPc_ne (Ne.symm hji), hq]
  cases h with
  | skip => exact .stay
  | program he' => exact hstay rfl (sent_of_program he')
  | @enter j w hw hs =>
    have hji : j ≠ i := fun h => he (by rw [h])
    exact hstay (hother p _ hji rfl) rfl
  | @returned j pc hpc env thread payload d hc =>
    by_cases hji : j = i
    · subst hji
      rw [runPc_setRunPc]
      have hsent : sent j (some (now, Program.Output.call
          ⟨j, env, .returned thread payload d⟩)).toList = [now] := by
        simp [sent, TimedProgram.returned, Program.Output.call?]
      obtain ⟨w, hw, hs⟩ := running_of_call hc
      rw [hsent]
      exact .call hw hs hpc
    · refine hstay (hother (p.act j (.pass env)) pc hji rfl) ?_
      have hsent : sent i ((p.program.sender.act j (.pass env)).2.map fun c =>
          (now, Program.Output.call c)).toList = [] := sent_of_other hji (.pass env)
      rwa [hc, Option.map_some] at hsent
  | notReturned hpc ho hr => exact hstay rfl (sent_of_not_returned hr)
  | @goOn j w hw hs pc hgo =>
    by_cases hji : j = i
    · subst hji
      rw [runPc_setRunPc]
      exact .goOn hw hs hgo
    · exact hstay (hother p pc hji rfl) rfl
  | finish => exact .stay

end TimedProgram

end Dnsmeter
