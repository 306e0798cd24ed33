import Dnsmeter.Query
import Dnsmeter.Lib.Bpf
import Mathlib.Logic.Function.Basic

/-!
# The receiver (`raw_socket_receiver.cpp`, `dns_receiver_thread.cpp`)

`RawSocketReceiver::receive` (Linux) reads one frame into a reused buffer, filters it in user space
and counts it; on FreeBSD the same filter is a BPF program that `setSource` installs. The counters
are cleared when the thread's `run` starts.
-/

namespace Dnsmeter

/-! ## Counters -/

structure Counter where
  numPkgs : UInt64
  bytesRcv : UInt64
  rcodes : Fin 16 → UInt64
  truncated : UInt64
  rttTotal : ℚ
  rttMin : ℚ
  rttMax : ℚ

namespace Counter

/-- `Counter::Counter` on uninitialised memory: the loop over `rcodes` stops before entry 15. -/
def new (rcodes : Fin 16 → UInt64) : Counter where
  numPkgs := 0
  bytesRcv := 0
  rcodes := fun i => if i.val < 15 then 0 else rcodes i
  truncated := 0
  rttTotal := 0
  rttMin := 0
  rttMax := 0

/-- `Counter::clear`, with the constructor's loop. -/
def clear (c : Counter) : Counter where
  numPkgs := 0
  bytesRcv := 0
  rcodes := fun i => if i.val < 15 then 0 else c.rcodes i
  truncated := 0
  rttTotal := 0
  rttMin := 0
  rttMax := 0

/-- The body of `count_packet` behind the overlay of the DNS header. -/
def count (c : Counter) (dns : DNSHeader) (size : UInt64) (tp : Option Timeval) : Counter :=
  let rd := getQueryRTT tp (ntohs dns.id)
  { numPkgs := c.numPkgs + 1
    bytesRcv := c.bytesRcv + size
    rttTotal := c.rttTotal + rd
    rttMin := if rd < c.rttMin ∨ c.rttMin = 0 then rd else c.rttMin
    rttMax := if rd > c.rttMax then rd else c.rttMax
    rcodes := if h : dns.rcode.toNat < 16 then
      Function.update c.rcodes ⟨dns.rcode.toNat, h⟩ (c.rcodes ⟨dns.rcode.toNat, h⟩ + 1)
      else c.rcodes
    truncated := if dns.tc ≠ 0 then c.truncated + 1 else c.truncated }

end Counter

/-- The DNS header behind Ethernet, IP and UDP headers. -/
def dnsHeaderAt (buffer : Bytes) : Except Abort DNSHeader :=
  match (buffer.drop (14 + 20 + 8)).take 4 with
  | [b0, b1, b2, b3] => .ok (.ofBytes b0 b1 b2 b3)
  | _ => .error .outOfBounds

/-- `count_packet`; `buffer` is the memory from the frame's first byte on. -/
def countPacket (c : Counter) (buffer : Bytes) (size : UInt64) (tp : Option Timeval) :
    Except Abort Counter := do
  return c.count (← dnsHeaderAt buffer) size tp

/-! ## The raw socket -/

/-- The Linux `RawSocketReceiver`: `SourcePort` is kept in network order. -/
structure RawSocketReceiver where
  sourceIP : IPAddress
  sourcePort : UInt16
  buffer : Block 4096

namespace RawSocketReceiver

def setSource (r : RawSocketReceiver) (ip : IPAddress) (port : Int32) : RawSocketReceiver :=
  { r with sourceIP := ip, sourcePort := htons (.ofInt port.toInt) }

/-- The BPF program of `setSource` on FreeBSD. -/
def bpfProgram (ip : IPAddress) (port : Int32) : List Bpf.Insn :=
  let sip := htonl ip.sAddr
  [.ld .h 12,
    .jeq 0x0800 0 7,
    .ld .w 26,
    .jeq sip 0 5,
    .ld .b 23,
    .jeq 17 0 3,
    .ld .h 34,
    .jeq (.ofInt port.toInt) 0 1,
    .ret 0xffffffff,
    .ret 0]

/-- `recvfrom` of a frame: what does not fit into the buffer is cut off. -/
def recvfrom (r : RawSocketReceiver) (frame : Bytes) : RawSocketReceiver × Nat :=
  ({ r with buffer := r.buffer.store 0 (frame.take 4096) (by rw [List.length_take]; omega) },
    (frame.take 4096).length)

/-- The tests of `receive` on the buffer, with `bufused` bytes just received. -/
def passes (r : RawSocketReceiver) (bufused : Nat) : Bool :=
  34 ≤ bufused ∧ r.buffer.load16 12 (by decide) = htons 0x0800 ∧
    r.buffer.load8 14 (by decide) >>> 4 = 4 ∧
    r.buffer.load32 26 (by decide) = r.sourceIP.sAddr ∧
    r.buffer.load16 34 (by decide) = r.sourcePort

/-- `receive`; `frame` is `none` if `recvfrom` fails. -/
def receive (r : RawSocketReceiver) (c : Counter) (frame : Option Bytes) (tp : Option Timeval) :
    Except Abort (RawSocketReceiver × Counter) :=
  match frame with
  | none => .ok (r, c)
  | some frame => do
    let (r, bufused) := r.recvfrom frame
    if r.passes bufused then
      return (r, ← countPacket c r.buffer.bytes (.ofNat bufused) tp)
    return (r, c)

end RawSocketReceiver

/-! ## The thread -/

structure DNSReceiverThread where
  socket : RawSocketReceiver
  counter : Counter

/-- `DNSReceiverThread::run`: `counter.clear()`, then one `receive` for each time the socket is
ready, until the thread is stopped. -/
def DNSReceiverThread.run (t : DNSReceiverThread) :
    List (Option Bytes × Option Timeval) → Except Abort DNSReceiverThread :=
  go { t with counter := t.counter.clear }
where
  go (t : DNSReceiverThread) : List (Option Bytes × Option Timeval) → Except Abort DNSReceiverThread
    | [] => .ok t
    | (frame, tp) :: events => do
      let (socket, counter) ← t.socket.receive t.counter frame tp
      go { socket, counter } events

end Dnsmeter
