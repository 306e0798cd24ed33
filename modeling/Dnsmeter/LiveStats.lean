import Dnsmeter.Sender

/-!
# The report of a running load step (`dns_sender.cpp`)

While the threads of a step run, the main thread calls `showCurrentStats` every second: `getResults`
reads the counters, one after the other and without a lock, and the difference to the last report is
printed. A step of `Live` is an action of a sender thread, a `count_packet` of the receiver, or the
next read of the main thread.

The three reads behind `rtt_avg` are taken as one.
-/

namespace Dnsmeter

namespace DNSSender

/-! ## The reads of `getResults` -/

/-- A statement of `getResults`, by the counter it reads. -/
inductive Read where
  | packetsSend (i : Nat)
  | bytesSend (i : Nat)
  | errors (i : Nat)
  | counter0bytes (i : Nat)
  | errorCode (i : Nat) (err : Fin 255)
  | numPkgs
  | bytesRcv
  | rttTotal
  | rttAvg
  | rttMin
  | rttMax
  | rcode (i : Fin 16)
  | truncated
deriving DecidableEq, Repr

namespace Read

/-- The loop body for the `i`-th thread. -/
def ofThread (i : Nat) : List Read :=
  packetsSend i :: bytesSend i :: errors i :: counter0bytes i ::
    (List.finRange 255).map (errorCode i)

/-- The part behind `if (Receiver)`. -/
def ofReceiver : List Read :=
  [numPkgs, bytesRcv, rttTotal, rttAvg, rttMin, rttMax] ++ (List.finRange 16).map rcode ++
    [truncated]

/-- The statement: what it makes of `result` in the state `s`. -/
def exec (s : DNSSender) (result : Results) (r : Read) : Results :=
  match r with
  | packetsSend i => onThread i fun t =>
    { result with counterSend := result.counterSend + t.counterPacketsSend }
  | bytesSend i => onThread i fun t =>
    { result with bytesSend := result.bytesSend + t.counterBytesSend }
  | errors i => onThread i fun t =>
    { result with counterErrors := result.counterErrors + t.errors }
  | counter0bytes i => onThread i fun t =>
    { result with counter0bytes := result.counter0bytes + t.counter0bytes }
  | errorCode i err => onThread i fun t =>
    { result with
      counterErrorcodes := Function.update result.counterErrorcodes err
        (result.counterErrorcodes err + t.getCounterErrorCode err) }
  | numPkgs => onCounter fun c => { result with counterReceived := c.numPkgs }
  | bytesRcv => onCounter fun c => { result with bytesReceived := c.bytesRcv }
  | rttTotal => onCounter fun c => { result with rttTotal := c.rttTotal }
  | rttAvg => onCounter fun c =>
    { result with rttAvg := if c.numPkgs ≠ 0 then c.rttTotal / c.numPkgs.toNat else 0 }
  | rttMin => onCounter fun c => { result with rttMin := c.rttMin }
  | rttMax => onCounter fun c => { result with rttMax := c.rttMax }
  | rcode i => onCounter fun c =>
    { result with rcodes := Function.update result.rcodes i (c.rcodes i) }
  | truncated => onCounter fun c => { result with truncated := c.truncated }
where
  onThread (i : Nat) (f : DNSSenderThread → Results) : Results :=
    match s.threadpool[i]? with
    | some w => f w.thread
    | none => result
  onCounter (f : Counter → Results) : Results :=
    match s.receiver with
    | some r => f r.counter
    | none => result

end Read

/-- The reads of a call of `getResults`, in its order. -/
def reads (s : DNSSender) : List Read :=
  (List.range s.threadpool.length).flatMap Read.ofThread ++
    if s.receiver.isSome then Read.ofReceiver else []

/-- The end of `getResults`. -/
def setPackagesLost (result : Results) : Results :=
  { result with
    packagesLost := if result.counterReceived > result.counterSend then 0
      else result.counterSend - result.counterReceived }

end DNSSender

open DNSSender (Read Call)

/-! ## `showCurrentStats` -/

/-- The line `showCurrentStats` prints: the time and what came since the last line, data in KB. -/
structure StatsLine where
  h : Nat
  m : Nat
  s : Nat
  queriesSend : UInt64
  queriesRcv : UInt64
  dataSend : UInt64
  dataRcv : UInt64

/-- A finished call of `showCurrentStats`: its two locals and the line. -/
structure Stats where
  result : Results
  diff : Results
  line : StatsLine

/-- `showCurrentStats` behind `getResults`; `runtime` is the time since the start of the step. -/
def Stats.of (runtime : Nat) (result visPrevResults : Results) : Stats :=
  let diff := result.sub visPrevResults
  let h := runtime / 3600
  let m := (runtime - h * 3600) / 60
  { result
    diff
    line := ⟨h, m, runtime - h * 3600 - m * 60, diff.counterSend, diff.counterReceived,
      diff.bytesSend / 1024, diff.bytesReceived / 1024⟩ }

/-! ## A load step with its reports -/

/-- A call of `showCurrentStats` under way. -/
structure Report where
  runtime : Nat
  result : Results
  todo : List Read

structure Live where
  sender : DNSSender
  report : Option Report

inductive LiveEvent where
  /-- A sender thread acts. -/
  | act (i : Nat) (a : Action)
  /-- The receiver counts a packet. -/
  | countPacket (buffer : Bytes) (size : UInt64) (tp : Option Timeval)
  /-- The main thread enters `showCurrentStats`. -/
  | showCurrentStats (runtime : Nat)
  /-- The main thread goes on in it: the next read, or the end. -/
  | next

inductive Output where
  | call (c : Call)
  | counted (size : UInt64)
  | stats (st : Stats)

namespace Live

/-- What the main thread does in `showCurrentStats`. -/
def next (l : Live) (r : Report) : Live × Option Output :=
  match r.todo with
  | read :: todo =>
    ({ l with report := some { r with result := read.exec l.sender r.result, todo } }, none)
  | [] =>
    let st := Stats.of r.runtime (DNSSender.setPackagesLost r.result) l.sender.visPrevResults
    (⟨{ l.sender with visPrevResults := st.result }, none⟩, some (.stats st))

/-- There is one main thread: it enters `showCurrentStats` when it has left the last call. A
`count_packet` that would read outside of its buffer does not happen. -/
def step (l : Live) : LiveEvent → Live × Option Output
  | .act i a => ({ l with sender := (l.sender.act i a).1 }, (l.sender.act i a).2.map .call)
  | .countPacket buffer size tp => match l.sender.receiver with
    | none => (l, none)
    | some r => match countPacket r.counter buffer size tp with
      | .ok counter =>
        ({ l with sender := { l.sender with receiver := some { r with counter } } },
          some (.counted size))
      | .error _ => (l, none)
  | .showCurrentStats runtime => match l.report with
    | none => ({ l with report := some ⟨runtime, .cleared, l.sender.reads⟩ }, none)
    | some _ => (l, none)
  | .next => match l.report with
    | none => (l, none)
    | some r => l.next r

end Live

end Dnsmeter
