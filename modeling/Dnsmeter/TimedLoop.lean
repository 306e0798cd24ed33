import Dnsmeter.SenderThread

/-!
# `runWithRateLimit` with its clock

The slice loop of `dns_sender_thread.cpp` as the log of what the thread does: it sends the queries
of the slice, reads `getNsec` and sleeps until the slice is over, and looks at most every 0.1 s
whether it has to stop. The clock gives its readings one by one, in any order; where the readings end
the loop is still running, so the logs of all lists of readings show the loop at every moment.

Times are exact numbers of seconds where the source has `double`. `total_idle` is never read.
-/

namespace Dnsmeter

/-- Conversion of a `double` to `long`: toward zero, undefined outside of the range. -/
def toLong (x : ℚ) : Except Abort Int :=
  if -2 ^ 63 - 1 < x ∧ x < 2 ^ 63 then .ok (if 0 ≤ x then ⌊x⌋ else ⌈x⌉) else .error .conversion

inductive SliceEvent where
  | sendPacket
  | getNsec (now : ℚ)
  | nanosleep (tvNsec : Int)
  | threadShouldStop (stop : Bool)
  | getMicrotime (now : ℚ)
deriving DecidableEq

/-- Why the log ends; `running`: the readings of the clock are used up. -/
inductive Leave where
  | running
  | completed
  | stopped
  | timeOver
  | aborted (e : Abort)
deriving DecidableEq

/-- What the loop reads: `now` and `start` before it, `nsec` in it; what a test behind a slice finds
goes by the number of slices that are left. -/
structure SliceEnv where
  now : ℚ
  start : ℚ
  nsec : List ℚ
  shouldStop : Nat → Bool
  microtime : Nat → ℚ

namespace DNSSenderThread

/-- The loop that sleeps until `nextTimeslice`: the reading it is left with and those left. -/
def waitLoop (nextTimeslice : ℚ) : List ℚ → List SliceEvent × Except Leave (ℚ × List ℚ)
  | [] => ([], .error .running)
  | now :: nsec =>
    if now < nextTimeslice then
      match toLong ((nextTimeslice - now) * 1000000000) with
      | .error e => ([.getNsec now], .error (.aborted e))
      | .ok tvNsec =>
        let waited := waitLoop nextTimeslice nsec
        (.getNsec now :: .nanosleep tvNsec :: waited.1, waited.2)
    else ([.getNsec now], .ok (now, nsec))

/-- The test behind a slice: `nextChecktime` behind it, unless the loop is left. -/
def checkTime (env : SliceEnv) (endTime : ℚ) (rest : Nat) (now nextChecktime : ℚ) :
    List SliceEvent × Except Leave ℚ :=
  if now > nextChecktime then
    if env.shouldStop rest then ([.threadShouldStop true], .error .stopped)
    else if env.microtime rest ≥ endTime then
      ([.threadShouldStop false, .getMicrotime (env.microtime rest)], .error .timeOver)
    else ([.threadShouldStop false, .getMicrotime (env.microtime rest)], .ok (now + 1 / 10))
  else ([], .ok nextChecktime)

/-- What follows the queries of a slice: the sleep and the test. -/
def endSlice (env : SliceEnv) (endTime : ℚ) (rest : Nat) (nextTimeslice nextChecktime : ℚ)
    (nsec : List ℚ) : List SliceEvent × Except Leave (ℚ × List ℚ) :=
  let waited := waitLoop nextTimeslice nsec
  match waited.2 with
  | .error leave => (waited.1, .error leave)
  | .ok (now, nsec) =>
    let checked := checkTime env endTime rest now nextChecktime
    (waited.1 ++ checked.1, checked.2.map fun nextChecktime => (nextChecktime, nsec))

/-- `sliceLoop` with the clock. -/
def timedSliceLoop (env : SliceEnv) (timeslice endTime : ℚ) :
    Nat → UInt64 → ℚ → ℚ → List ℚ → List SliceEvent × Leave
  | 0, _, _, _, _ => ([], .completed)
  | rest + 1, queriesRest, nextTimeslice, nextChecktime, nsec =>
    let nextTimeslice := nextTimeslice + timeslice
    let timeslicesRest : UInt64 := .ofNat (rest + 1)
    let queriesPerTimeslice :=
      if timeslicesRest = 1 then queriesRest else queriesRest / timeslicesRest
    let sent := List.replicate queriesPerTimeslice.toNat .sendPacket
    let ended := endSlice env endTime rest nextTimeslice nextChecktime nsec
    match ended.2 with
    | .error leave => (sent ++ ended.1, leave)
    | .ok (nextChecktime, nsec) =>
      let next := timedSliceLoop env timeslice endTime rest (queriesRest - queriesPerTimeslice)
        nextTimeslice nextChecktime nsec
      (sent ++ ended.1 ++ next.1, next.2)

/-- `runWithRateLimit` with the clock. -/
def timedRun (t : DNSSenderThread) (env : SliceEnv) : Except Abort (List SliceEvent × Leave) := do
  let total ← t.totalTimeslices
  let queriesRest := .ofInt t.runtime.toInt * t.queryrate
  if total = 0 then
    throw .divByZero
  let loop := timedSliceLoop env t.timeslice (env.start + t.runtime.toInt) total.toNat queriesRest
    env.now (env.now + 1 / 10) env.nsec
  return (.getNsec env.now :: .getMicrotime env.start :: loop.1, loop.2)

end DNSSenderThread

end Dnsmeter
