import Dnsmeter.Program
import Dnsmeter.TimedLoop

/-!
# The running program in real time (`run` in `dns_sender_thread.cpp`)

The program of `Program` with the times at which its steps are taken. Each sender thread has its place
in `run`, with what it has read from the clock there, and leaves its loop and its `run` when the source
says so. A step that reads the clock reads the time it is taken at; the threads sleep between steps.

Times are exact numbers of seconds where the source has `double`.
-/

namespace Dnsmeter

/-- Where a sender thread is in its `run`; read only while the thread is running. -/
inductive RunPc where
  /-- In a slice of `runWithRateLimit` that still has `queries` to send, with `next_timeslice`,
  `next_checktime` and `end`; behind it there are `rest` slices with `queriesRest` queries. -/
  | slice (rest : Nat) (queriesRest : UInt64) (queries : Nat)
      (nextTimeslice nextChecktime endTime : ℚ)
  /-- Behind a slice, at the test of the run time. -/
  | checkTime (rest : Nat) (queriesRest : UInt64) (nextTimeslice nextChecktime endTime : ℚ)
  /-- In the loop of `runWithoutRateLimit`, with `pc` and `end`. -/
  | runWithoutRateLimit (pc : Nat) (endTime : ℚ)
  /-- Behind the loop. -/
  | loopLeft
  /-- In the loop of `waitForTimeout`, with `end` and `next_checktime`. -/
  | waitForTimeout (endTime nextChecktime : ℚ)
  /-- Undefined behaviour. -/
  | undefined (e : Abort)
deriving DecidableEq

namespace DNSSenderThread

/-- The head of the slice loop, with the slices and the queries that are left. -/
def enterSlice (t : DNSSenderThread) : Nat → UInt64 → ℚ → ℚ → ℚ → RunPc
  | 0, _, _, _, _ => .loopLeft
  | rest + 1, queriesRest, nextTimeslice, nextChecktime, endTime =>
    let timeslicesRest : UInt64 := .ofNat (rest + 1)
    let queriesPerTimeslice :=
      if timeslicesRest = 1 then queriesRest else queriesRest / timeslicesRest
    .slice rest (queriesRest - queriesPerTimeslice) queriesPerTimeslice.toNat
      (nextTimeslice + t.timeslice) nextChecktime endTime

/-- The start of the loop `run` takes. -/
def enterLoop (t : DNSSenderThread) (now : ℚ) : RunPc :=
  let endTime := now + t.runtime.toInt
  match t.loop with
  | .runWithRateLimit =>
    match t.totalTimeslices with
    | .error e => .undefined e
    | .ok total =>
      if total = 0 then .undefined .divByZero
      else t.enterSlice total.toNat (.ofInt t.runtime.toInt * t.queryrate) now (now + 1 / 10) endTime
  | .runWithoutRateLimit => .runWithoutRateLimit 0 endTime

/-- What the thread does behind its calls of `sendPacket`; `none`: `run` returns. -/
def goOn (t : DNSSenderThread) (timeout : Int32) (now : ℚ) (shouldStop : Bool) :
    RunPc → Option RunPc
  | .slice rest queriesRest 0 nextTimeslice nextChecktime endTime =>
    if now < nextTimeslice then
      -- `tv_nsec` of the sleep
      match toLong ((nextTimeslice - now) * 1000000000) with
      | .error e => some (.undefined e)
      | .ok _ => some (.slice rest queriesRest 0 nextTimeslice nextChecktime endTime)
    else if now > nextChecktime then
      if shouldStop then some .loopLeft
      else some (.checkTime rest queriesRest nextTimeslice (now + 1 / 10) endTime)
    else some (t.enterSlice rest queriesRest nextTimeslice nextChecktime endTime)
  | .checkTime rest queriesRest nextTimeslice nextChecktime endTime =>
    if now ≥ endTime then some .loopLeft
    else some (t.enterSlice rest queriesRest nextTimeslice nextChecktime endTime)
  | .runWithoutRateLimit pc endTime =>
    if pc > 10000 then
      if shouldStop ∨ now > endTime then some .loopLeft else some (.runWithoutRateLimit 0 endTime)
    else some (.runWithoutRateLimit pc endTime)
  | .loopLeft => some (.waitForTimeout (now + timeout.toInt) (now + 1 / 10))
  | .waitForTimeout endTime nextChecktime =>
    if now < endTime then
      if now > nextChecktime then
        if shouldStop then none else some (.waitForTimeout endTime (now + 1 / 10))
      else some (.waitForTimeout endTime nextChecktime)
    else none
  | pc => some pc

end DNSSenderThread

/-- The place behind a call of `sendPacket`, if this is where one is made. -/
def RunPc.called : RunPc → Option RunPc
  | .slice rest queriesRest (queries + 1) nextTimeslice nextChecktime endTime =>
    some (.slice rest queriesRest queries nextTimeslice nextChecktime endTime)
  | .runWithoutRateLimit pc endTime =>
    if pc > 10000 then none else some (.runWithoutRateLimit (pc + 1) endTime)
  | _ => none

structure TimedProgram where
  program : Program
  /-- What `setTimeout` gives to every thread. -/
  timeout : Int32
  runPc : Nat → RunPc

namespace TimedProgram

/-- Behind `prepareThreads`. -/
def start (sender : DNSSender) (timeout : Int32) (rates : List Int32)
    (csvFile : Option (List DNSSender.CsvLine)) : TimedProgram where
  program := .start sender rates csvFile
  timeout
  runPc _ := .loopLeft

inductive Event where
  | main (procNetDev : Bytes)
  | receiver (ok : Bool) (tp : Option Timeval)
  | arrive (frame : Bytes)
  | sigint
  /-- Thread `i` enters `run`. -/
  | enter (i : Nat)
  /-- Thread `i` takes one pass of the loop of `sendPacket`. -/
  | pass (i : Nat) (env : SendEnv)
  /-- Thread `i` goes on behind its calls. -/
  | goOn (i : Nat)

def worker (p : TimedProgram) (i : Nat) : Option Worker := p.program.sender.threadpool[i]?

def setRunPc (p : TimedProgram) (i : Nat) (pc : RunPc) : TimedProgram :=
  { p with runPc := Function.update p.runPc i pc }

/-- A step of the program at the time `now`. -/
def take (p : TimedProgram) (now : ℚ) (e : Program.Event) :
    TimedProgram × Option (ℚ × Program.Output) :=
  ({ p with program := (p.program.step e).1 }, (p.program.step e).2.map fun o => (now, o))

/-- `threadShouldStop()` of a sender thread. -/
def threadShouldStop (p : TimedProgram) : Bool := p.program.pc = .stopThreads

def enter (p : TimedProgram) (now : ℚ) (i : Nat) : TimedProgram × Option (ℚ × Program.Output) :=
  match p.worker i with
  | some w =>
    if w.state = .waiting then (p.setRunPc i (w.thread.enterLoop now)).take now (.act i .start)
    else (p, none)
  | none => (p, none)

/-- Whether a call of `sendPacket` has returned. -/
def returned : Option (ℚ × Program.Output) → Bool
  | some (_, .call ⟨_, _, .returned _ _ _⟩) => true
  | _ => false

def pass (p : TimedProgram) (now : ℚ) (i : Nat) (env : SendEnv) :
    TimedProgram × Option (ℚ × Program.Output) :=
  match (p.runPc i).called with
  | some pc =>
    let (p, out) := p.take now (.act i (.pass env))
    if returned out then (p.setRunPc i pc, out) else (p, out)
  | none => (p, none)

def goOn (p : TimedProgram) (now : ℚ) (i : Nat) : TimedProgram × Option (ℚ × Program.Output) :=
  match p.worker i with
  | some w =>
    if w.state = .running then
      match w.thread.goOn p.timeout now p.threadShouldStop (p.runPc i) with
      | some pc => (p.setRunPc i pc, none)
      | none => p.take now (.act i .finish)
    else (p, none)
  | none => (p, none)

/-- One step at the time `now`; there is none behind the end. -/
def step (p : TimedProgram) : ℚ × Event → TimedProgram × Option (ℚ × Program.Output)
  | (now, e) =>
    if p.program.pc.ended then (p, none) else
      match e with
      | .main procNetDev => p.take now (.main procNetDev)
      | .receiver ok tp => p.take now (.receiver ok tp)
      | .arrive frame => p.take now (.arrive frame)
      | .sigint => p.take now .sigint
      | .enter i => p.enter now i
      | .pass i env => p.pass now i env
      | .goOn i => p.goOn now i

end TimedProgram

end Dnsmeter
