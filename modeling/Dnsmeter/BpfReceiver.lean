import Dnsmeter.Receiver

/-!
# The receiver on FreeBSD (`raw_socket_receiver.cpp` with `DNSMETER_USE_BPF`)

The kernel hands over many frames at once. It puts a `struct bpf_hdr` before each and starts each
record at a multiple of the word size. `read_buffer` goes from record to record and counts the frame
of each one. `receive` gets the records by `read`, or shares two zero-copy buffers with the kernel:
a buffer whose generation has changed is full, and is handed back behind `read_buffer`.
-/

namespace Dnsmeter

/-- The fields of `struct bpf_hdr` behind its 16-byte time stamp. -/
structure BpfHdr where
  bhCaplen : UInt32
  bhDatalen : UInt32
  bhHdrlen : UInt16
deriving DecidableEq, Repr

/-- The header laid over the memory at `off`. -/
def bpfHdrAt (mem : Bytes) (off : Nat) : Except Abort BpfHdr :=
  match (mem.drop (off + 16)).take 10 with
  | [c0, c1, c2, c3, d0, d1, d2, d3, h0, h1] =>
    .ok ⟨ofLe32 c0 c1 c2 c3, ofLe32 d0 d1 d2 d3, ofLe16 h0 h1⟩
  | _ => .error .outOfBounds

/-- `sizeof(long)`. -/
def BPF_ALIGNMENT : UInt64 := 8

def BPF_WORDALIGN (x : UInt64) : UInt64 := (x + (BPF_ALIGNMENT - 1)) &&& ~~~(BPF_ALIGNMENT - 1)

/-- `bh_caplen + bh_hdrlen` is an `unsigned int`. -/
def BpfHdr.chunkSize (h : BpfHdr) : UInt64 :=
  BPF_WORDALIGN (h.bhCaplen + h.bhHdrlen.toUInt32).toUInt64

section
variable {σ : Type} (count : σ → Nat → UInt64 → Option Timeval → Except Abort σ)

/-- `read_buffer` over the memory at `ptr`, with `count_packet` an action that gets the offset of the
frame, its size and the clock. The passes get their clock values from the list; the result is `none`
if there are more passes than values. -/
def readBuffer (mem : Bytes) (size : UInt64) : List (Option Timeval) → UInt64 → σ →
    Except Abort (Option σ)
  | [], done, s => .ok (if done < size then none else some s)
  | tp :: tps, done, s =>
    if done < size then do
      let bpfh ← bpfHdrAt mem done.toNat
      if bpfh.bhCaplen = 0 ∨ bpfh.bhHdrlen = 0 then
        return some s
      let s ← count s (done.toNat + bpfh.bhHdrlen.toNat)
        (bpfh.chunkSize - bpfh.bhDatalen.toUInt64) tp
      readBuffer mem size tps (done + bpfh.chunkSize) s
    else .ok (some s)

end

/-- `count_packet` on the frame at `off`. -/
def countPacketAt (mem : Bytes) (c : Counter) (off : Nat) (size : UInt64) (tp : Option Timeval) :
    Except Abort Counter :=
  countPacket c (mem.drop off) size tp

/-! ## `receive` -/

/-- A zero-copy buffer: the fields of `struct bpf_zbuf_header`, and the memory behind its 32 bytes. -/
structure ZBuffer where
  bzhKernelGen : UInt32
  bzhKernelLen : UInt32
  bzhUserGen : UInt32
  memory : Bytes
deriving DecidableEq, Repr

/-- `sizeof(struct bpf_zbuf_header)`. -/
def ZBUF_HEADER_SIZE : UInt64 := 32

/-- `buffer_acknowledge`. -/
def ZBuffer.acknowledge (z : ZBuffer) : ZBuffer := { z with bzhUserGen := z.bzhKernelGen }

/-- `buffer_check`. -/
def ZBuffer.check (z : ZBuffer) : Bool := z.bzhUserGen ≠ z.bzhKernelGen

section
variable {σ : Type} (count : Bytes → σ → Nat → UInt64 → Option Timeval → Except Abort σ)

/-- `read_zbuffer`; `count_packet` is an action that gets the memory too. -/
def readZbuffer (z : ZBuffer) (tps : List (Option Timeval)) (s : σ) :
    Except Abort (Option (ZBuffer × σ)) := do
  let size := z.bzhKernelLen.toUInt64 - ZBUF_HEADER_SIZE
  return (← readBuffer (count z.memory) z.memory size tps 0 s).map fun s => (z.acknowledge, s)

/-- One of the two buffers in `receive`. -/
def receiveZbuffer (z : ZBuffer) (tps : List (Option Timeval)) (s : σ) :
    Except Abort (Option (ZBuffer × σ)) :=
  if z.check then readZbuffer count z tps s else .ok (some (z, s))

/-- `receive` with `useZeroCopyBuffer`; the passes over the two buffers have their own clock values. -/
def receiveZeroCopy (bufa bufb : ZBuffer) (tpsa tpsb : List (Option Timeval)) (s : σ) :
    Except Abort (Option (ZBuffer × ZBuffer × σ)) := do
  match ← receiveZbuffer count bufa tpsa s with
  | none => return none
  | some (bufa, s) =>
    return (← receiveZbuffer count bufb tpsb s).map fun r => (bufa, r.1, r.2)

end

/-! ## What the kernel puts into the buffer -/

/-- A record: the time stamp, the bytes between `struct bpf_hdr` and the frame, the captured bytes,
the length of the frame on the wire, and the bytes up to the next record. -/
structure BpfRecord where
  tstamp : Bytes
  gap : Bytes
  data : Bytes
  datalen : UInt32
  pad : Bytes
  length_tstamp : tstamp.length = 16
  hdrlen_lt : 26 + gap.length < 2 ^ 16
  caplen_lt : 26 + gap.length + data.length < 2 ^ 32
  aligned : (26 + gap.length + data.length + pad.length) % 8 = 0
  length_pad : pad.length < 8

namespace BpfRecord

def hdrlen (r : BpfRecord) : Nat := 26 + r.gap.length

def bytes (r : BpfRecord) : Bytes :=
  r.tstamp ++ le32 (.ofNat r.data.length) ++ le32 r.datalen ++ le16 (.ofNat r.hdrlen) ++ r.gap ++
    r.data ++ r.pad

end BpfRecord

def bpfLayout (records : List BpfRecord) : Bytes := records.flatMap BpfRecord.bytes

/-- `bh_hdrlen` on Ethernet: the frame's network header is aligned, so `struct bpf_hdr` and the 14
bytes of the Ethernet header end at a multiple of the word size. -/
def bpfHdrlenEthernet : Nat := (26 + 14 + 7) / 8 * 8 - 14

end Dnsmeter
