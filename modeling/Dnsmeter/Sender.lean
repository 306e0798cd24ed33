import Dnsmeter.Receiver
import Dnsmeter.SenderThread
import Dnsmeter.SystemStat

/-!
# The program's main object (`dns_sender.cpp`)

`DNSSender` owns the payload, the pool of sender threads and the receiver. A load step is a call of
`run`, which gives every thread its share of the rate and starts them, followed by what the threads
do, in any interleaving; then `getResults` adds up the counters, `presentResults` prints them and
`saveResultsToCsv` appends them to the CSV file.

The threads share nothing but the payload, and `getQuery` locks it: a pass of the loop of
`sendPacket` is one access to the payload followed by work on the thread's own data, so the passes
are the steps that interleave.

The fields that only the command line and `main` use are those of `Settings` (`CommandLine`).
-/

namespace Dnsmeter

open DNSSenderThread (SendResult)

/-! ## Results -/

structure Results where
  queryrate : Int32
  counterSend : UInt64
  counterReceived : UInt64
  bytesSend : UInt64
  bytesReceived : UInt64
  counterErrors : UInt64
  packagesLost : UInt64
  counter0bytes : UInt64
  counterErrorcodes : Fin 255 → UInt64
  rcodes : Fin 16 → UInt64
  truncated : UInt64
  rttTotal : ℚ
  rttAvg : ℚ
  rttMin : ℚ
  rttMax : ℚ

/-- `Results()` and `clear`. -/
def Results.cleared : Results where
  queryrate := 0
  counterSend := 0
  counterReceived := 0
  bytesSend := 0
  bytesReceived := 0
  counterErrors := 0
  packagesLost := 0
  counter0bytes := 0
  counterErrorcodes := fun _ => 0
  rcodes := fun _ => 0
  truncated := 0
  rttTotal := 0
  rttAvg := 0
  rttMin := 0
  rttMax := 0

/-- `operator-`. -/
def Results.sub (second first : Results) : Results where
  queryrate := second.queryrate - first.queryrate
  counterSend := second.counterSend - first.counterSend
  counterReceived := second.counterReceived - first.counterReceived
  bytesSend := second.bytesSend - first.bytesSend
  bytesReceived := second.bytesReceived - first.bytesReceived
  counterErrors := second.counterErrors - first.counterErrors
  packagesLost := second.packagesLost - first.packagesLost
  counter0bytes := second.counter0bytes - first.counter0bytes
  counterErrorcodes := fun i => second.counterErrorcodes i - first.counterErrorcodes i
  rcodes := fun i => second.rcodes i - first.rcodes i
  truncated := second.truncated - first.truncated
  rttTotal := second.rttTotal - first.rttTotal
  rttAvg :=
    let counterReceived := second.counterReceived - first.counterReceived
    if counterReceived ≠ 0 then (second.rttTotal - first.rttTotal) / counterReceived.toNat else 0
  rttMin := second.rttMin - first.rttMin
  rttMax := second.rttMax - first.rttMax

/-! ## The thread pool -/

/-- A thread of the pool: `waiting` was started and has not entered its `run`. -/
inductive ThreadState where
  | idle
  | waiting
  | running
deriving DecidableEq, Repr

structure Worker where
  thread : DNSSenderThread
  state : ThreadState

/-- What a thread does next: it enters `run`, takes one pass of the loop of `sendPacket`, or leaves
`run`. -/
inductive Action where
  | start
  | pass (env : SendEnv)
  | finish

/-- An action its state does not allow does not happen. An exception ends the thread. -/
def Worker.act (w : Worker) (payload : PayloadFile) :
    Action → Worker × PayloadFile × Option SendResult
  | .start => match w.state, w.thread.start with
    | .waiting, .ok thread => (⟨thread, .running⟩, payload, none)
    | .waiting, .error _ => (⟨w.thread, .idle⟩, payload, none)
    | _, _ => (w, payload, none)
  | .pass env => match w.state, w.thread.sendPacket payload [env] with
    | .running, .returned thread payload datagram =>
      (⟨thread, .running⟩, payload, some (.returned thread payload datagram))
    | .running, .looping thread payload =>
      (⟨thread, .running⟩, payload, some (.looping thread payload))
    | .running, .raised e thread payload =>
      (⟨thread, .idle⟩, payload, some (.raised e thread payload))
    | _, _ => (w, payload, none)
  | .finish => match w.state with
    | .running => (⟨w.thread, .idle⟩, payload, none)
    | _ => (w, payload, none)

/-! ## `DNSSender` -/

structure DNSSender where
  threadpool : List Worker
  targetIP : IPAddress
  targetPort : Int32
  sourceIP : IPAddress
  sourceNet : IPNetwork
  interfaceName : Bytes
  payload : PayloadFile
  receiver : Option DNSReceiverThread
  visPrevResults : Results
  sys1 : SystemStat
  sys2 : SystemStat
  runtime : Int32
  threadCount : Int32
  dnssecRate : Int
  timeslices : ℚ
  spoofingEnabled : Bool
  spoofFromPcap : Bool

namespace DNSSender

/-- The constructor. -/
def new : DNSSender where
  threadpool := []
  targetIP := ⟨0⟩
  targetPort := 53
  sourceIP := ⟨0⟩
  sourceNet := ⟨0, 0, by decide⟩
  interfaceName := []
  payload := .new
  receiver := none
  visPrevResults := .cleared
  sys1 := .new
  sys2 := .new
  runtime := 10
  threadCount := 1
  dnssecRate := 0
  timeslices := 1
  spoofingEnabled := false
  spoofFromPcap := false

/-- One pass of the loop of `prepareThreads`. -/
def prepareThread (s : DNSSender) (mem : Block 4096) : Except Abort DNSSenderThread := do
  let t := (DNSSenderThread.new mem).setDestination s.targetIP s.targetPort
  let t ← (t.setRuntime s.runtime).setTimeslice s.timeslices
  let t := (t.setDNSSECRate s.dnssecRate).setPayload s.payload
  return if s.spoofingEnabled then
    if s.spoofFromPcap then t.setSourcePcap else t.setSourceNet s.sourceNet
  else t.setSourceIP s.sourceIP

/-- `prepareThreads`; `mem i` is the memory the `i`-th thread allocates. -/
def prepareThreads (s : DNSSender) (mem : Nat → Block 4096) : Except Abort DNSSender := do
  let threads ← (List.range s.threadCount.toInt.toNat).mapM fun i => s.prepareThread (mem i)
  return { s with threadpool := s.threadpool ++ threads.map fun t => ⟨t, .idle⟩ }

def calcTimeslice (s : DNSSender) (queryrate : Int32) : DNSSender :=
  let timeslices : ℚ := 1000 / queryrate.toInt * s.threadCount.toInt
  { s with timeslices := if timeslices < 1 / 10 then 1 / 10 else timeslices }

/-- The loop of `run` over the pool: every thread gets its share of the rate and the time slice. -/
def setRate (s : DNSSender) (queryrate : Int32) (w : Worker) : Except Abort Worker := do
  let share ← divInt queryrate s.threadCount
  let thread ← (w.thread.setQueryRate (.ofInt share.toInt)).setTimeslice s.timeslices
  return { w with thread }

/-- The rates of a load step: `run` up to the end of that loop. -/
def setRates (s : DNSSender) (queryrate : Int32) : Except Abort DNSSender := do
  let s := if queryrate ≠ 0 then s.calcTimeslice queryrate else s
  let threadpool ← s.threadpool.mapM (s.setRate queryrate)
  return { s with threadpool }

/-- `threadpool.startThreads()`. -/
def startThreads (s : DNSSender) : DNSSender :=
  { s with threadpool := s.threadpool.map fun w => { w with state := .waiting } }

/-- `run` up to its waiting loop; the receiver clears its counters when it starts. -/
def run (s : DNSSender) (queryrate : Int32) (procNetDev : Bytes) : Except Abort DNSSender := do
  let s ← s.setRates queryrate
  let sys1 ← sampleSensorData s.sys1 procNetDev
  let receiver := s.receiver.map fun r => { r with counter := r.counter.clear }
  return startThreads { s with visPrevResults := .cleared, sys1, receiver }

/-- One thread's part of `getResults`. -/
def addThread (result : Results) (t : DNSSenderThread) : Results :=
  { result with
    counterSend := result.counterSend + t.counterPacketsSend
    bytesSend := result.bytesSend + t.counterBytesSend
    counterErrors := result.counterErrors + t.errors
    counter0bytes := result.counter0bytes + t.counter0bytes
    counterErrorcodes := fun i => result.counterErrorcodes i + t.getCounterErrorCode i }

/-- The receiver's part of `getResults`. -/
def addReceiver (result : Results) (counter : Counter) : Results :=
  { result with
    counterReceived := counter.numPkgs
    bytesReceived := counter.bytesRcv
    rttTotal := counter.rttTotal
    rttAvg := if counter.numPkgs ≠ 0 then counter.rttTotal / counter.numPkgs.toNat else 0
    rttMin := counter.rttMin
    rttMax := counter.rttMax
    rcodes := counter.rcodes
    truncated := counter.truncated }

def getResults (s : DNSSender) : Results :=
  let result := (s.threadpool.map Worker.thread).foldl addThread .cleared
  let result := match s.receiver with
    | some r => addReceiver result r.counter
    | none => result
  { result with
    packagesLost := if result.counterReceived > result.counterSend then 0
      else result.counterSend - result.counterReceived }

/-! ## `presentResults` -/

def rcodeNames : List String :=
  ["OK", "FORMAT", "SRVFAIL", "NAME", "NOTIMPL", "REFUSED", "YXDOMAIN", "YXRRSET", "NXRRSET",
    "NOTAUTH", "NOTZONE", "11", "12", "13", "14", "15"]

/-- The line `DNS RCODES`: names and counts; the loop stops before entry 15. -/
def presentRcodes (result : Results) : List (String × UInt64) :=
  ((List.finRange 16).filter fun i => i.val < 15 ∧ result.rcodes i ≠ 0).map fun i : Fin 16 =>
    (rcodeNames.getD i "", result.rcodes i)

/-- The line `network if`: what was transmitted and received on the interface during the step.
`operator[]` of the two maps creates the entry that is missing. -/
def presentNetwork (s : DNSSender) : DNSSender × Network × Network :=
  let (net1, interfaces1) := s.sys1.interfaces.getOrCreate s.interfaceName .default
  let (net2, interfaces2) := s.sys2.interfaces.getOrCreate s.interfaceName .default
  ({ s with
      sys1 := { s.sys1 with interfaces := interfaces1 }
      sys2 := { s.sys2 with interfaces := interfaces2 } },
    Network.getDelta net1.transmit net2.transmit, Network.getDelta net1.receive net2.receive)

/-- A quotient of `double`s; `none` if it is no number (`nan` or `inf`). -/
def divDouble (x y : ℚ) : Option ℚ := if y = 0 then none else some (x / y)

/-- `(double)packages_lost * 100.0 / (double)counter_send`. -/
def lostrate (result : Results) : Option ℚ :=
  divDouble (result.packagesLost.toNat * 100) result.counterSend.toNat

/-- `(ppluint64)((double)counter / (double)Runtime)`. -/
def perSecond (s : DNSSender) (counter : UInt64) : Except Abort UInt64 :=
  match divDouble counter.toNat s.runtime.toInt with
  | some q => toPpluint64 q
  | none => .error .conversion

/-- A line `DNS Queries send` or `DNS Queries rcv`: the count, per second, in KB, in MBit. -/
structure QueriesLine where
  counter : UInt64
  qps : UInt64
  kb : UInt64
  mbit : UInt64

def queriesLine (s : DNSSender) (counter bytes : UInt64) : Except Abort QueriesLine := do
  let qps ← s.perSecond counter
  let bps ← s.perSecond bytes
  return ⟨counter, qps, bytes / 1024, bps / (1024 * 1024)⟩

/-- A line `Errors`: the count, per second. -/
structure ErrorsLine where
  counter : UInt64
  qps : UInt64

/-- A line that is printed if there is something to count. -/
def errorsLine (s : DNSSender) (counter : UInt64) : Except Abort (Option ErrorsLine) :=
  if counter = 0 then .ok none else do
    return some ⟨counter, ← s.perSecond counter⟩

/-- What `presentResults` prints. -/
structure Presented where
  /-- `network if`: packets and KB. -/
  pktSend : UInt64
  pktRcv : UInt64
  dataSend : UInt64
  dataRcv : UInt64
  queriesSend : QueriesLine
  queriesRcv : QueriesLine
  /-- `DNS Queries lost`: the count, in percent. -/
  queriesLost : UInt64 × Option ℚ
  /-- `DNS rtt`, in milliseconds. -/
  rttAvg : ℚ
  rttMin : ℚ
  rttMax : ℚ
  truncated : UInt64
  rcodes : List (String × UInt64)
  errors : Option ErrorsLine
  errors0Byte : Option ErrorsLine
  /-- `Errors` by error code. -/
  errorcodes : List (Option ErrorsLine)

def presentResults (s : DNSSender) (result : Results) : Except Abort (DNSSender × Presented) := do
  let (s, transmit, received) := s.presentNetwork
  let queriesSend ← s.queriesLine result.counterSend result.bytesSend
  let queriesRcv ← s.queriesLine result.counterReceived result.bytesReceived
  let errors ← s.errorsLine result.counterErrors
  let errors0Byte ← s.errorsLine result.counter0bytes
  let errorcodes ← (List.finRange 255).mapM fun i => s.errorsLine (result.counterErrorcodes i)
  return (s, {
    pktSend := transmit.packets
    pktRcv := received.packets
    dataSend := transmit.bytes / 1024
    dataRcv := received.bytes / 1024
    queriesSend, queriesRcv
    queriesLost := (result.packagesLost, lostrate result)
    rttAvg := result.rttAvg * 1000
    rttMin := result.rttMin * 1000
    rttMax := result.rttMax * 1000
    truncated := result.truncated
    rcodes := presentRcodes result
    errors, errors0Byte, errorcodes })

/-! ## `saveResultsToCsv` -/

structure CsvLine where
  qpsSend : UInt64
  qpsReceived : UInt64
  qpsErrors : UInt64
  lostrate : Option ℚ
  rttAvg : ℚ
  rttMin : ℚ
  rttMax : ℚ

/-- `saveResultsToCsv` on the lines of the CSV file, `none` if it is not open. -/
def saveResultsToCsv (s : DNSSender) (csvFile : Option (List CsvLine)) (result : Results) :
    Except Abort (Option (List CsvLine)) :=
  match csvFile with
  | none => .ok none
  | some lines => do
    let line : CsvLine := {
      qpsSend := ← s.perSecond result.counterSend
      qpsReceived := ← s.perSecond result.counterReceived
      qpsErrors := ← s.perSecond result.counterErrors
      lostrate := lostrate result
      rttAvg := result.rttAvg * 1000
      rttMin := result.rttMin * 1000
      rttMax := result.rttMax * 1000 }
    return some (lines ++ [line])

/-! ## Runs -/

/-- One step of the program behind `prepareThreads`: the main thread enters the next load step, or a
thread of the pool acts. -/
inductive Event where
  | run (queryrate : Int32) (procNetDev : Bytes)
  | act (i : Nat) (a : Action)

/-- A call of `sendPacket`, or a pass of one that goes on: by which thread, what `sendto` returned,
and how it ended. -/
structure Call where
  thread : Nat
  env : SendEnv
  result : SendResult

/-- The call an action of thread `i` puts out. -/
def callOf (i : Nat) : Action → Option SendResult → Option Call
  | .pass env, some result => some ⟨i, env, result⟩
  | _, _ => none

def act (s : DNSSender) (i : Nat) (a : Action) : DNSSender × Option Call :=
  match s.threadpool[i]? with
  | some w =>
    let (w, payload, result) := w.act s.payload a
    ({ s with threadpool := s.threadpool.set i w, payload }, callOf i a result)
  | none => (s, none)

/-- `run` waits for the threads of the step before. If it raises, the program ends. -/
def step (s : DNSSender) : Event → DNSSender × Option Call
  | .run queryrate procNetDev =>
    if s.threadpool.all (·.state = .idle) then
      match s.run queryrate procNetDev with
      | .ok s => (s, none)
      | .error _ => (s, none)
    else (s, none)
  | .act i a => s.act i a

end DNSSender

end Dnsmeter
