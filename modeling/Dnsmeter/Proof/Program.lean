import Dnsmeter.Lib.Sections
import Dnsmeter.Proof.Counters
import Dnsmeter.Proof.Thread
import Dnsmeter.Program

/-!
# The steps of the running program

`Moves` says once what a step of the program can do (`moves_step`); the invariants of a run are
derived from it.

* `Control`: where the main thread, the sender threads and the receiver are at the same time.
* `conserved_run`: no frame is lost or read twice.
-/

namespace Dnsmeter

open DNSSender (Call)

namespace Program.Output

/-- The marks of the log: a session starts, and its results are shown. -/
def isMark : Output → Bool
  | .startSession _ => true
  | .results _ _ => true
  | _ => false

def call? : Output → Option Call
  | .call c => some c
  | _ => none

/-- What the receiver gets from the socket and the clock. -/
def receive? : Output → Option (Option Bytes × Option Timeval)
  | .receive frame tp => some (some frame, tp)
  | _ => none

def arrive? : Output → Option Bytes
  | .arrive frame => some frame
  | _ => none

def session? : Output → Option Int32
  | .startSession queryrate => some queryrate
  | _ => none

def results? : Output → Option Results
  | .results result _ => some result
  | _ => none

end Program.Output

namespace Program

/-- The results are due; the main thread is at `next` behind them. -/
inductive Due (p : Program) : MainPc → Prop
  | session (hpc : p.pc = .threadStop) (hr : p.receiverPc = .idle) (hf : p.stopFlag = false) :
      Due p .nextRate
  | interrupted (hpc : p.pc = .stopThreads) (ht : p.running = false) : Due p (.exited 0)

/-- What a step can do. -/
inductive Moves (p : Program) : Program → Option Output → Prop
  | skip : Moves p p none
  | finished (hpc : p.pc = .nextRate) (hr : p.rates = []) : Moves p { p with pc := .exited 0 } none
  | runError {queryrate : Int32} {rates : List Int32} {procNetDev : Bytes} {e : Abort}
      (hpc : p.pc = .nextRate) (hr : p.rates = queryrate :: rates)
      (h : p.sender.run queryrate procNetDev = .error e) :
      Moves p { p with rates, pc := catchException e } (some (.startSession queryrate))
  | startSession {queryrate : Int32} {rates : List Int32} {procNetDev : Bytes} {s : DNSSender}
      (hpc : p.pc = .nextRate) (hr : p.rates = queryrate :: rates)
      (h : p.sender.run queryrate procNetDev = .ok s) :
      Moves p { p with
        sender := { s with receiver := p.sender.receiver }
        receiverPc := if p.sender.receiver.isSome then .waiting else .idle
        rates
        pc := .waiting } (some (.startSession queryrate))
  | leaveWait (hpc : p.pc = .waiting) (h : p.running = false ∨ p.stopFlag = true) :
      Moves p { p with pc := .threadStop } none
  | interrupted {sys2 : SystemStat} (hpc : p.pc = .threadStop) (hr : p.receiverPc = .idle)
      (hf : p.stopFlag = true) :
      Moves p { p with sender := { p.sender with sys2 }, pc := .stopThreads } none
  | mainError (sys2 : SystemStat) {e : Abort} (hpc : p.pc = .threadStop ∨ p.pc = .stopThreads) :
      Moves p { p with sender := { p.sender with sys2 }, pc := catchException e } none
  | results {sys1 sys2 : SystemStat} {presented : DNSSender.Presented} {next : MainPc}
      {csvFile : Option (List DNSSender.CsvLine)} (hd : p.Due next)
      (h : p.sender.saveResultsToCsv p.csvFile p.sender.getResults = .ok csvFile) :
      Moves p { p with sender := { p.sender with sys1, sys2 }, csvFile, pc := next }
        (some (.results p.sender.getResults presented))
  | csvError {sys1 sys2 : SystemStat} {presented : DNSSender.Presented} {next : MainPc} {e : Abort}
      (hd : p.Due next) :
      Moves p { p with sender := { p.sender with sys1, sys2 }, pc := catchException e }
        (some (.results p.sender.getResults presented))
  | act (hl : p.pc.ended = false) (i : Nat) (a : Action) :
      Moves p { p with sender := (p.sender.act i a).1 } ((p.sender.act i a).2.map .call)
  | clear {r : DNSReceiverThread} (hl : p.pc.ended = false) (hr : p.receiverPc = .waiting)
      (h : p.sender.receiver = some r) :
      Moves p { p with
        sender := { p.sender with receiver := some { r with counter := r.counter.clear } }
        receiverPc := .socketReady } (some .clear)
  | receive {r : DNSReceiverThread} {frame : Bytes} {socketBuffer : List Bytes}
      (hl : p.pc.ended = false) (tp : Option Timeval) (hr : p.receiverPc = .socketReady)
      (h : p.sender.receiver = some r) (hb : p.socketBuffer = frame :: socketBuffer) :
      Moves p { p with
        sender := { p.sender with receiver := some ⟨(r.socket.answer (some frame, tp)).1,
          (r.socket.answer (some frame, tp)).2.toList.foldl Counter.countAnswer r.counter⟩ }
        socketBuffer
        receiverPc := .shouldStop } (some (.receive frame tp))
  | receiver (hl : p.pc.ended = false) {pc : ReceiverPc} (h : p.receiverPc = .socketReady ∧ pc = .shouldStop ∨
      p.receiverPc = .shouldStop ∧ pc = .socketReady ∨
      p.receiverPc = .shouldStop ∧ pc = .idle ∧ p.pc = .threadStop) :
      Moves p { p with receiverPc := pc } none
  | arrive (hl : p.pc.ended = false) (frame : Bytes) :
      Moves p { p with socketBuffer := p.socketBuffer ++ [frame] } (some (.arrive frame))
  | sigint (hl : p.pc.ended = false) : Moves p { p with stopFlag := true } none

/-- `presentResults` leaves all but the two samples alone. -/
theorem presentResults_sender {s s' : DNSSender} {result : Results} {presented : DNSSender.Presented}
    (h : s.presentResults result = .ok (s', presented)) :
    ∃ sys1 sys2, s' = { s with sys1, sys2 } := by
  obtain ⟨_, -, h⟩ := Run.bind_ok_iff.1 h
  obtain ⟨_, -, h⟩ := Run.bind_ok_iff.1 h
  obtain ⟨_, -, h⟩ := Run.bind_ok_iff.1 h
  obtain ⟨_, -, h⟩ := Run.bind_ok_iff.1 h
  obtain ⟨_, -, h⟩ := Run.bind_ok_iff.1 h
  cases h
  exact ⟨_, _, rfl⟩

variable {p : Program}

theorem moves_showResults (sys2 : SystemStat) {next : MainPc} (hd : p.Due next)
    (hpc : p.pc = .threadStop ∨ p.pc = .stopThreads) :
    p.Moves (showResults { p with sender := { p.sender with sys2 } } next).1
      (showResults { p with sender := { p.sender with sys2 } } next).2 := by
  simp only [showResults]
  split
  · exact .mainError sys2 hpc
  · rename_i s' presented hp
    obtain ⟨sys1', sys2', rfl⟩ := presentResults_sender hp
    split
    · exact .csvError hd
    · rename_i csvFile hc
      exact .results hd hc

theorem moves_main (procNetDev : Bytes) : p.Moves (p.main procNetDev).1 (p.main procNetDev).2 := by
  unfold main
  split
  · rename_i hpc
    split
    · rename_i hr
      exact .finished hpc hr
    · rename_i queryrate rates hr
      split
      · rename_i e h
        exact .runError hpc hr h
      · rename_i s h
        exact .startSession hpc hr h
  · rename_i hpc
    split
    · exact .skip
    · rename_i h
      refine .leaveWait hpc ?_
      cases hw : p.running <;> simp_all
  · rename_i hpc
    split
    · exact .skip
    · rename_i hr
      have hr' : p.receiverPc = .idle := not_not.1 hr
      split
      · exact .mainError p.sender.sys2 (.inl hpc)
      · rename_i sys2 h
        dsimp only
        split
        · rename_i hf
          exact .interrupted hpc hr' hf
        · rename_i hf
          exact moves_showResults sys2 (.session hpc hr' (by simpa using hf)) (.inl hpc)
  · rename_i hpc
    split
    · exact .skip
    · rename_i hw
      exact moves_showResults p.sender.sys2 (.interrupted hpc (by simpa using hw))
        (.inr hpc)
  · exact .skip
  · exact .skip

theorem moves_receiver (hl : p.pc.ended = false) (ok : Bool) (tp : Option Timeval) :
    p.Moves (p.receiver ok tp).1 (p.receiver ok tp).2 := by
  unfold receiver
  split
  · rename_i r hr h
    exact .clear hl hr h
  · rename_i r hr h
    split
    · unfold receive
      split
      · exact .receiver hl (.inl ⟨hr, rfl⟩)
      · rename_i frame socketBuffer hb
        rw [RawSocketReceiver.receive_eq r.socket r.counter (some frame, tp)]
        exact .receive hl tp hr h hb
    · exact .receiver hl (.inl ⟨hr, rfl⟩)
  · rename_i hr h
    refine .receiver hl ?_
    by_cases hpc : p.pc = .threadStop
    · rw [if_pos hpc]
      exact .inr (.inr ⟨hr, rfl, hpc⟩)
    · rw [if_neg hpc]
      exact .inr (.inl ⟨hr, rfl⟩)
  · exact .skip

/-- **What a step can do.** -/
theorem moves_step (p : Program) (e : Event) : p.Moves (p.step e).1 (p.step e).2 := by
  unfold step
  split
  · exact .skip
  · rename_i hended
    have hl : p.pc.ended = false := by simpa using hended
    cases e with
    | main procNetDev => exact moves_main procNetDev
    | act i a => exact .act hl i a
    | receiver ok tp => exact moves_receiver hl ok tp
    | arrive frame => exact .arrive hl frame
    | sigint => exact .sigint hl

/-! ## Control -/

theorem running_eq_false : p.running = false ↔ ∀ w ∈ p.sender.threadpool, w.state = .idle := by
  simp [running]

/-- Threads that are not running do nothing. -/
theorem act_of_not_running (h : p.running = false) (i : Nat) (a : Action) :
    p.sender.act i a = (p.sender, none) := by
  rcases p.sender.act_spec i a with ⟨-, hs⟩ | ⟨w, w', p', r, hw, hacts, hs⟩
  · exact hs
  have hidle := running_eq_false.1 h w (List.mem_of_getElem? hw)
  rw [hs]
  cases hacts with
  | skip =>
    have hset : p.sender.threadpool.set i w = p.sender.threadpool := by
      obtain ⟨hi, rfl⟩ := List.getElem?_eq_some_iff.1 hw
      exact List.set_getElem_self hi
    have hcall : DNSSender.callOf i a none = none := by cases a <;> rfl
    rw [hset, hcall]
  | start hwait => cases hidle.symm.trans hwait
  | noPayload hwait => cases hidle.symm.trans hwait
  | finish hrun => cases hidle.symm.trans hrun
  | returned hrun => cases hidle.symm.trans hrun
  | raised hrun => cases hidle.symm.trans hrun

/-- Where the threads are when the main thread is at a place. -/
structure Control (p : Program) : Prop where
  nextRate : p.pc = .nextRate → p.running = false ∧ p.receiverPc = .idle
  threadStop : p.pc = .threadStop → p.running = false ∨ p.stopFlag = true
  stopThreads : p.pc = .stopThreads → p.receiverPc = .idle ∧ p.stopFlag = true
  receiver : p.receiverPc ≠ .idle → p.sender.receiver.isSome

theorem catchException_ended (e : Abort) : (catchException e).ended = true := by
  unfold catchException
  split <;> rfl

theorem control_of_ended (h : p.pc.ended = true)
    (hr : p.receiverPc ≠ .idle → p.sender.receiver.isSome) : p.Control := by
  refine ⟨?_, ?_, ?_, hr⟩
  all_goals
    intro hpc
    rw [hpc] at h
    cases h

theorem Control.moves {p' : Program} {o : Option Output} (h : p.Control) (hm : p.Moves p' o) :
    p'.Control := by
  cases hm with
  | skip => exact h
  | finished => exact control_of_ended rfl h.receiver
  | runError => exact control_of_ended (catchException_ended _) h.receiver
  | startSession hpc hr hrun =>
    refine ⟨nofun, nofun, nofun, ?_⟩
    intro hidle
    by_contra hnone
    simp_all
  | leaveWait hpc hw => exact ⟨nofun, fun _ => hw, nofun, h.receiver⟩
  | interrupted hpc hr hf => exact ⟨nofun, nofun, fun _ => ⟨hr, hf⟩, h.receiver⟩
  | mainError => exact control_of_ended (catchException_ended _) h.receiver
  | results hd =>
    cases hd with
    | session hpc hr hf =>
      have hw : p.running = false := (h.threadStop hpc).resolve_right (by simp [hf])
      exact ⟨fun _ => ⟨hw, hr⟩, nofun, nofun, h.receiver⟩
    | interrupted => exact control_of_ended rfl h.receiver
  | csvError => exact control_of_ended (catchException_ended _) h.receiver
  | act hl i a =>
    obtain ⟨threadpool, payload, hs, -⟩ := p.sender.act_frame i a
    have hidle : p.running = false →
        (running { p with sender := (p.sender.act i a).1 }) = false := by
      intro hw
      rw [act_of_not_running hw]
      exact hw
    refine ⟨fun hpc => ⟨hidle (h.nextRate hpc).1, (h.nextRate hpc).2⟩,
      fun hpc => (h.threadStop hpc).imp_left hidle, h.stopThreads, ?_⟩
    intro hr
    rw [hs]
    exact h.receiver hr
  | clear hl hr =>
    refine ⟨?_, h.threadStop, ?_, fun _ => rfl⟩
    · intro hpc
      cases hr.symm.trans (h.nextRate hpc).2
    · intro hpc
      cases hr.symm.trans (h.stopThreads hpc).1
  | receive hl tp hr =>
    refine ⟨?_, h.threadStop, ?_, fun _ => rfl⟩
    · intro hpc
      cases hr.symm.trans (h.nextRate hpc).2
    · intro hpc
      cases hr.symm.trans (h.stopThreads hpc).1
  | @receiver hl pc hr =>
    have hne : p.receiverPc ≠ .idle := by
      rcases hr with ⟨hr, -⟩ | ⟨hr, -⟩ | ⟨hr, -⟩ <;> simp [hr]
    refine ⟨?_, h.threadStop, ?_, fun _ => h.receiver hne⟩
    · exact fun hpc => absurd (h.nextRate hpc).2 hne
    · exact fun hpc => absurd (h.stopThreads hpc).1 hne
  | arrive => exact ⟨h.nextRate, h.threadStop, h.stopThreads, h.receiver⟩
  | sigint =>
    exact ⟨h.nextRate, fun _ => .inr rfl, fun hpc => ⟨(h.stopThreads hpc).1, rfl⟩, h.receiver⟩

/-! ## The frames -/

theorem conserved_moves {p' : Program} {o : Option Output} {out : List Output} (hm : p.Moves p' o)
    (h : out.filterMap Output.arrive? =
      (out.filterMap Output.receive?).filterMap Prod.fst ++ p.socketBuffer) :
    (out ++ o.toList).filterMap Output.arrive? =
      ((out ++ o.toList).filterMap Output.receive?).filterMap Prod.fst ++ p'.socketBuffer := by
  cases hm with
  | receive hl tp hr hs hb =>
    simp [List.filterMap_cons, Output.arrive?, Output.receive?, h, hb]
  | act hl i a =>
    cases hc : (p.sender.act i a).2 <;>
      simp [List.filterMap_cons, Output.arrive?, Output.receive?, h]
  | _ => simp [List.filterMap_cons, Output.arrive?, Output.receive?, h]

/-- **No frame is lost or read twice**: the frames that came are those read, in the same order, and
those the socket still holds. -/
theorem conserved_run {events : List Event} {p' : Program} {out : List Output}
    (h : Run.trace step p events = (p', out)) (hb : p.socketBuffer = []) :
    out.filterMap Output.arrive? =
      (out.filterMap Output.receive?).filterMap Prod.fst ++ p'.socketBuffer :=
  Run.trace_inv_of_eq (I := fun p out => out.filterMap Output.arrive? =
      (out.filterMap Output.receive?).filterMap Prod.fst ++ p.socketBuffer)
    (fun p _ e hp => conserved_moves (moves_step p e) hp) (by simp [hb]) h

end Program

end Dnsmeter
