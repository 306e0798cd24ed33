import Dnsmeter.Packet
import Dnsmeter.PayloadFile
import Mathlib.Logic.Function.Basic

/-!
# The sender thread (`dns_sender_thread.cpp`, `raw_socket_sender.cpp`)

`sendPacket` draws a query from the shared payload, builds the datagram in the thread's packet,
hands it to `sendto` and counts the outcome. `run` resets the counters and calls `sendPacket` in
one of two loops, with or without a rate limit. The loops are written over an arbitrary `send`
action: what they do to `sendPacket` is how often they call it.

`DnssecRate` is in 0..100 and `dnsseccounter` below 200, so both are integers without a width.
`timeout`, `verbose`, `duration`, `destination` and `sourcenet` are not read by what is modelled.
-/

namespace Dnsmeter

/-- What one pass of the loop of `sendPacket` gets from its environment: the clock, the two calls
of `ppl7::rand`, the result of `sendto` and `errno`. -/
structure SendEnv where
  tp : Option Timeval
  randIP : Rand
  randPort : Rand
  n : Int
  errno : Nat

structure DNSSenderThread where
  /-- `sin_addr` and `sin_port` of the socket's destination. -/
  dest : UInt32
  destPort : UInt16
  pkt : Packet
  sourceip : IPAddress
  hasPayload : Bool
  buffer : Block 4096
  queryrate : UInt64
  counterPacketsSend : UInt64
  errors : UInt64
  counter0bytes : UInt64
  counterBytesSend : UInt64
  counterErrorcodes : Fin 255 → UInt64
  spoofingNetStart : UInt32
  spoofingNetSize : UInt32
  runtime : Int32
  dnssecRate : Int
  dnsseccounter : Int
  timeslice : ℚ
  spoofingEnabled : Bool
  payloadIsPcap : Bool
  spoofingFromPcap : Bool

namespace DNSSenderThread

/-- The constructor; `mem` is what `malloc` returns. -/
def new (mem : Block 4096) : DNSSenderThread where
  dest := 0xffffffff
  destPort := 0
  pkt := Packet.new
  sourceip := ⟨0⟩
  hasPayload := false
  buffer := mem
  queryrate := 0
  counterPacketsSend := 0
  errors := 0
  counter0bytes := 0
  counterBytesSend := 0
  counterErrorcodes := fun _ => 0
  spoofingNetStart := 0
  spoofingNetSize := 0
  runtime := 10
  dnssecRate := 0
  dnsseccounter := 0
  timeslice := 0
  spoofingEnabled := false
  payloadIsPcap := false
  spoofingFromPcap := false

/-! ## Configuration -/

def setDestination (t : DNSSenderThread) (ip : IPAddress) (port : Int32) : DNSSenderThread :=
  { t with
    dest := ip.sAddr
    destPort := htons (.ofInt port.toInt)
    pkt := t.pkt.setDestination ip port }

def setPayload (t : DNSSenderThread) (payload : PayloadFile) : DNSSenderThread :=
  { t with hasPayload := true, payloadIsPcap := payload.payloadIsPcap }

def setRuntime (t : DNSSenderThread) (seconds : Int32) : DNSSenderThread :=
  { t with runtime := seconds }

def setDNSSECRate (t : DNSSenderThread) (rate : Int) : DNSSenderThread :=
  { t with dnssecRate := rate }

def setQueryRate (t : DNSSenderThread) (qps : UInt64) : DNSSenderThread :=
  { t with queryrate := qps }

def setTimeslice (t : DNSSenderThread) (ms : ℚ) : Except Abort DNSSenderThread :=
  if ms = 0 ∨ ms > 1000 then .error .invalidArguments
  else .ok { t with timeslice := ms / 1000 }

def setSourceIP (t : DNSSenderThread) (ip : IPAddress) : DNSSenderThread :=
  { t with sourceip := ip, spoofingEnabled := false }

/-- `setSourceNet`: `powl(2, 32)` does not fit and becomes 0. -/
def setSourceNet (t : DNSSenderThread) (net : IPNetwork) : DNSSenderThread :=
  { t with
    spoofingEnabled := true
    spoofingNetStart := ntohl net.first.sAddr
    spoofingNetSize := .ofNat (2 ^ (32 - net.prefixlen)) }

def setSourcePcap (t : DNSSenderThread) : DNSSenderThread :=
  { t with spoofingEnabled := true, spoofingFromPcap := true }

/-! ## `sendPacket` -/

def PCAP_HEADER_SIZE : Nat := 14 + 20 + 8

/-- The first part of the loop body: the query in `buffer` and its `query_size`, a `size_t`. -/
def fillBuffer (t : DNSSenderThread) (bap : Bytes) : Except Abort (DNSSenderThread × UInt64) :=
  let querySize : UInt64 := .ofNat bap.length
  if t.payloadIsPcap then do
    let querySize := querySize - .ofNat PCAP_HEADER_SIZE
    let buffer ← memcpy t.buffer 0 (← readMem bap PCAP_HEADER_SIZE querySize.toNat)
    return ({ t with buffer }, querySize)
  else do
    let buffer ← memcpy t.buffer 0 bap
    let dnsseccounter := t.dnsseccounter + t.dnssecRate
    if dnsseccounter ≥ 100 then
      let (buffer, size) ← addDnssecToQuery buffer 0 querySize.toNat 4096
      return ({ t with buffer, dnsseccounter := dnsseccounter - 100 }, .ofNat size)
    return ({ t with buffer, dnsseccounter }, querySize)

/-- The source of the datagram: from the frame, from the spoofed network, or the own address. -/
def chooseSource (t : DNSSenderThread) (pkt : Packet) (bap : Bytes) (env : SendEnv) :
    Except Abort Packet :=
  if t.spoofingEnabled then
    if t.spoofingFromPcap then pkt.useSourceFromPcap bap
    else .ok ((pkt.randomSourceIP t.spoofingNetStart t.spoofingNetSize env.randIP).randomSourcePort
      env.randPort)
  else .ok (pkt.randomSourcePort env.randPort)

/-- `RawSocketSender::send`: the block `ptr()[0 .. size())` goes to `sendto`. -/
def send (t : DNSSenderThread) : Except Abort (DNSSenderThread × Bytes) :=
  if t.dest = 0xffffffff then .error .unknownDestination
  else
    let pkt := t.pkt.ptr
    .ok ({ t with pkt }, pkt.buffer.load 0 pkt.size)

/-- The counters after `sendto` returned `n`. -/
def account (t : DNSSenderThread) (n : Int) (errno : Nat) : DNSSenderThread :=
  if n > 0 ∧ n = t.pkt.size then
    { t with
      counterPacketsSend := t.counterPacketsSend + 1
      counterBytesSend := t.counterBytesSend + .ofNat t.pkt.size }
  else if n < 0 then
    { t with
      counterErrorcodes := if h : errno < 255 then
        Function.update t.counterErrorcodes ⟨errno, h⟩ (t.counterErrorcodes ⟨errno, h⟩ + 1)
        else t.counterErrorcodes
      errors := t.errors + 1 }
  else { t with counter0bytes := t.counter0bytes + 1 }

/-- One pass of the loop: the thread, the payload and the datagram sent, or the exception with the
state it is raised in. -/
def trySend (t : DNSSenderThread) (payload : PayloadFile) (env : SendEnv) :
    Except (Abort × DNSSenderThread × PayloadFile) (DNSSenderThread × PayloadFile × Bytes) :=
  match payload.getQuery with
  | .error e => .error (e, t, payload)
  | .ok (bap, payload) =>
    match t.fillBuffer bap with
    | .error e => .error (e, t, payload)
    | .ok (t, querySize) =>
      match t.pkt.setPayload t.buffer.bytes querySize with
      | .error e => .error (e, t, payload)
      | .ok pkt =>
        match t.chooseSource pkt bap env with
        | .error e => .error (e, { t with pkt }, payload)
        | .ok pkt =>
          let t := { t with pkt := pkt.setDnsId (getQueryTimestamp env.tp) }
          match t.send with
          | .error e => .error (e, t, payload)
          | .ok (t, datagram) => .ok (t.account env.n env.errno, payload, datagram)

/-- How a call of `sendPacket` ends; `looping`: not within the passes given. -/
inductive SendResult where
  | returned (t : DNSSenderThread) (payload : PayloadFile) (datagram : Bytes)
  | raised (e : Abort) (t : DNSSenderThread) (payload : PayloadFile)
  | looping (t : DNSSenderThread) (payload : PayloadFile)

/-- `sendPacket`: after `UnknownRRType` and `InvalidDNSQuery` the loop goes on. -/
def sendPacket (t : DNSSenderThread) (payload : PayloadFile) : List SendEnv → SendResult
  | [] => .looping t payload
  | env :: envs =>
    match t.trySend payload env with
    | .ok (t, payload, datagram) => .returned t payload datagram
    | .error (.unknownRRType _, t, payload) => sendPacket t payload envs
    | .error (.invalidDNSQuery _, t, payload) => sendPacket t payload envs
    | .error (e, t, payload) => .raised e t payload

/-! ## `run` -/

/-- `run` up to its loop. -/
def start (t : DNSSenderThread) : Except Abort DNSSenderThread :=
  if !t.hasPayload then .error (.nullPointer "payload not set!") else
  .ok { t with
    pkt := if !t.spoofingEnabled then t.pkt.setSource t.sourceip 0x4567 else t.pkt
    dnsseccounter := 0
    counterPacketsSend := 0
    counterBytesSend := 0
    counter0bytes := 0
    errors := 0
    counterErrorcodes := fun _ => 0 }

section
variable {σ : Type} (send : σ → Except Abort σ)

def repeatSend : Nat → σ → Except Abort σ
  | 0, s => .ok s
  | n + 1, s => do repeatSend n (← send s)

/-- The slices still to do in `runWithRateLimit`: `timeslicesRest` of them, `queriesRest` queries.
`stop` tells whether the loop is left after a slice (`threadShouldStop`, or the run time is over). -/
def sliceLoop (stop : Nat → Bool) : Nat → UInt64 → σ → Except Abort σ
  | 0, _, s => .ok s
  | rest + 1, queriesRest, s => do
    let timeslicesRest : UInt64 := .ofNat (rest + 1)
    let queriesPerTimeslice :=
      if timeslicesRest = 1 then queriesRest else queriesRest / timeslicesRest
    let s ← repeatSend send queriesPerTimeslice.toNat s
    if stop rest then return s
    sliceLoop stop rest (queriesRest - queriesPerTimeslice) s

/-- The number of slices: `runtime * 1000` is an `int`, the quotient a `double`. -/
def totalTimeslices (t : DNSSenderThread) : Except Abort UInt64 := do
  let ms ← mulInt t.runtime 1000
  if t.timeslice = 0 then
    throw .conversion
  toPpluint64 (ms.toInt / (t.timeslice * 1000))

/-- `runWithRateLimit`; the line it prints divides by the number of slices. -/
def runWithRateLimit (t : DNSSenderThread) (stop : Nat → Bool) (s : σ) : Except Abort σ := do
  let total ← t.totalTimeslices
  let queriesRest := .ofInt t.runtime.toInt * t.queryrate
  if total = 0 then
    throw .divByZero
  sliceLoop send stop total.toNat queriesRest s

/-- `runWithoutRateLimit`: 10001 calls between two tests; `stop` tells what the test after each
block finds, `blocks` bounds their number. -/
def runWithoutRateLimit (stop : Nat → Bool) : Nat → σ → Except Abort σ
  | 0, s => .ok s
  | blocks + 1, s => do
    let s ← repeatSend send 10001 s
    if stop blocks then return s
    runWithoutRateLimit stop blocks s

end

/-- The loop `run` takes. -/
inductive Loop where
  | runWithRateLimit
  | runWithoutRateLimit
deriving DecidableEq, Repr

def loop (t : DNSSenderThread) : Loop :=
  if t.queryrate > 0 then .runWithRateLimit else .runWithoutRateLimit

/-- `run` behind `start`, up to `waitForTimeout`. -/
def runLoop {σ : Type} (send : σ → Except Abort σ) (t : DNSSenderThread) (stop : Nat → Bool)
    (blocks : Nat) (s : σ) : Except Abort σ :=
  match t.loop with
  | .runWithRateLimit => runWithRateLimit send t stop s
  | .runWithoutRateLimit => runWithoutRateLimit send stop blocks s

/-- `getCounterErrorCode`. -/
def getCounterErrorCode (t : DNSSenderThread) (err : Nat) : UInt64 :=
  if h : err < 255 then t.counterErrorcodes ⟨err, h⟩ else 0

end DNSSenderThread

end Dnsmeter
