import Dnsmeter.Sender

/-!
# The running program (`main` and `run` in `dns_sender.cpp`, `dns_receiver_thread.cpp`)

`main` behind `prepareThreads`, with everything that runs beside it: the sender threads, the thread
that receives, the frames the socket holds for it, and the signal handler that sets `stopFlag`. One
step is what the main thread does next, an action of a sender thread, the next statement of the
receiver, a frame that arrives, or SIGINT; they come in any order.

`threadStart` and `startThreads` let a thread enter its `run` at some later time, `threadStop` and
`stopThreads` wait until it has left it. The report of the waiting loop of `run` reads the counters
and changes nothing else (`LiveStats`).
-/

namespace Dnsmeter

open DNSSender (Call)

/-- Where the main thread is. -/
inductive MainPc where
  /-- At the head of the loop over the rates. -/
  | nextRate
  /-- In the waiting loop of `run`. -/
  | waiting
  /-- In `Receiver->threadStop()`. -/
  | threadStop
  /-- In `threadpool.stopThreads()`. -/
  | stopThreads
  | exited (code : Nat)
  /-- Undefined behaviour. -/
  | undefined (e : Abort)
deriving DecidableEq

def MainPc.ended : MainPc → Bool
  | .exited _ | .undefined _ => true
  | _ => false

/-- Where the receiver thread is; `idle`: not in its `run`. -/
inductive ReceiverPc where
  | idle
  /-- Started, but not in its `run` yet. -/
  | waiting
  /-- At `if (Socket.socketReady())`. -/
  | socketReady
  /-- At `if (this->threadShouldStop())`. -/
  | shouldStop
deriving DecidableEq

/-- What can be seen of the program, in the order it happens. -/
inductive Program.Output where
  /-- `# Start Session`, the line `run` starts with. -/
  | startSession (queryrate : Int32)
  | call (c : Call)
  | arrive (frame : Bytes)
  /-- `counter.clear()` at the start of the receiver. -/
  | clear
  | receive (frame : Bytes) (tp : Option Timeval)
  | results (result : Results) (presented : DNSSender.Presented)

structure Program where
  sender : DNSSender
  receiverPc : ReceiverPc
  /-- The frames in the socket's receive buffer. -/
  socketBuffer : List Bytes
  stopFlag : Bool
  rates : List Int32
  csvFile : Option (List DNSSender.CsvLine)
  pc : MainPc

namespace Program

/-- Behind `prepareThreads`. -/
def start (sender : DNSSender) (rates : List Int32) (csvFile : Option (List DNSSender.CsvLine)) :
    Program where
  sender
  receiverPc := .idle
  socketBuffer := []
  stopFlag := false
  rates
  csvFile
  pc := .nextRate

/-- `catch (const ppl7::Exception& e)` of `main`. -/
def catchException (e : Abort) : MainPc := if e.isException then .exited 1 else .undefined e

/-- `threadpool.running()`. -/
def running (p : Program) : Bool := p.sender.threadpool.any (·.state ≠ .idle)

/-- `getResults`, `presentResults` and `saveResultsToCsv`, and on to `next`. None of them throws; what
goes wrong there is undefined. -/
def showResults (p : Program) (next : MainPc) : Program × Option Output :=
  let results := p.sender.getResults
  match p.sender.presentResults results with
  | .error e => ({ p with pc := catchException e }, none)
  | .ok (sender, presented) =>
    match sender.saveResultsToCsv p.csvFile results with
    | .error e => ({ p with sender, pc := catchException e }, some (.results results presented))
    | .ok csvFile => ({ p with sender, csvFile, pc := next }, some (.results results presented))

/-- The main thread; `procNetDev` is what `sampleSensorData` reads. -/
def main (p : Program) (procNetDev : Bytes) : Program × Option Output :=
  match p.pc with
  | .nextRate =>
    match p.rates with
    | [] => ({ p with pc := .exited 0 }, none)
    | queryrate :: rates =>
      match p.sender.run queryrate procNetDev with
      | .error e => ({ p with rates, pc := catchException e }, some (.startSession queryrate))
      | .ok sender =>
        -- the receiver clears its counters when it enters its `run`
        ({ p with
            sender := { sender with receiver := p.sender.receiver }
            receiverPc := if p.sender.receiver.isSome then .waiting else .idle
            rates
            pc := .waiting }, some (.startSession queryrate))
  | .waiting =>
    if p.running ∧ !p.stopFlag then (p, none) else ({ p with pc := .threadStop }, none)
  | .threadStop =>
    if p.receiverPc ≠ .idle then (p, none) else
      match sampleSensorData p.sender.sys2 procNetDev with
      | .error e => ({ p with pc := catchException e }, none)
      | .ok sys2 =>
        let p := { p with sender := { p.sender with sys2 } }
        if p.stopFlag then ({ p with pc := .stopThreads }, none) else p.showResults .nextRate
  | .stopThreads => if p.running then (p, none) else p.showResults (.exited 0)
  | .exited _ | .undefined _ => (p, none)

/-- `Socket.receive(counter)` with the first frame of the socket's buffer. -/
def receive (p : Program) (r : DNSReceiverThread) (tp : Option Timeval) : Program × Option Output :=
  match p.socketBuffer with
  | [] => ({ p with receiverPc := .shouldStop }, none)
  | frame :: socketBuffer =>
    match r.socket.receive r.counter (some frame) tp with
    | .error e => ({ p with pc := .undefined e }, none)
    | .ok (socket, counter) =>
      ({ p with
          sender := { p.sender with receiver := some ⟨socket, counter⟩ }
          socketBuffer
          receiverPc := .shouldStop }, some (.receive frame tp))

/-- The receiver thread: the next statement of its `run`; `ok` is whether `select` and `recvfrom`
succeed if there is a frame. -/
def receiver (p : Program) (ok : Bool) (tp : Option Timeval) : Program × Option Output :=
  match p.receiverPc, p.sender.receiver with
  | .waiting, some r =>
    let r := { r with counter := r.counter.clear }
    ({ p with sender := { p.sender with receiver := some r }, receiverPc := .socketReady },
      some .clear)
  | .socketReady, some r =>
    if ok then p.receive r tp else ({ p with receiverPc := .shouldStop }, none)
  | .shouldStop, some _ =>
    ({ p with receiverPc := if p.pc = .threadStop then .idle else .socketReady }, none)
  | _, _ => (p, none)

inductive Event where
  | main (procNetDev : Bytes)
  | act (i : Nat) (a : Action)
  | receiver (ok : Bool) (tp : Option Timeval)
  | arrive (frame : Bytes)
  | sigint

/-- One step; there is none behind the end. -/
def step (p : Program) (e : Event) : Program × Option Output :=
  if p.pc.ended then (p, none) else
    match e with
    | .main procNetDev => p.main procNetDev
    | .act i a =>
      let (sender, call) := p.sender.act i a
      ({ p with sender }, call.map .call)
    | .receiver ok tp => p.receiver ok tp
    | .arrive frame =>
      ({ p with socketBuffer := p.socketBuffer ++ [frame] }, some (.arrive frame))
    | .sigint => ({ p with stopFlag := true }, none)

end Program

end Dnsmeter
