import Dnsmeter.BpfReceiver
import Mathlib.Logic.Function.Basic

/-!
# The zero-copy buffers while the kernel fills them (`raw_socket_receiver.cpp` with `DNSMETER_USE_BPF`)

`receiveZeroCopy` is `receive` as if nothing ran beside it. Here the thread that calls `receive` again
and again takes one step at a time (a test of `buffer_check`, a pass of the loop of `read_buffer`, the
load and the store of `buffer_acknowledge`) and the kernel writes and hands over in between. By the
protocol of the two generations the kernel touches a buffer only while they agree.
-/

namespace Dnsmeter

/-- `bz_bufa` and `bz_bufb` of `struct bpf_zbuf`. -/
inductive BzBuf where
  | bufa
  | bufb
deriving DecidableEq

/-- The buffer that `receive` looks at next. -/
def BzBuf.next : BzBuf → BzBuf
  | .bufa => .bufb
  | .bufb => .bufa

/-- Where the receiving thread is. -/
inductive ZeroCopyPc where
  | check (b : BzBuf)
  /-- In `read_buffer`, before a pass. -/
  | readBuffer (b : BzBuf) (size done : UInt64)
  /-- `buffer_acknowledge` before it loads `bzh_kernel_gen`. -/
  | load (b : BzBuf)
  /-- `buffer_acknowledge` before `atomic_store_rel_int`. -/
  | store (b : BzBuf) (gen : UInt32)
  | undefined (e : Abort)

structure ZeroCopy (σ : Type) where
  zbuf : BzBuf → ZBuffer
  pc : ZeroCopyPc
  counter : σ

/-- What the kernel hands over: the length it sets and the memory. -/
structure Batch where
  kernelLen : UInt32
  memory : Bytes
deriving DecidableEq

def ZBuffer.batch (z : ZBuffer) : Batch := ⟨z.bzhKernelLen, z.memory⟩

inductive ZeroCopy.Output where
  | handOver (b : BzBuf) (batch : Batch)
  | acknowledge (b : BzBuf) (batch : Batch)
deriving DecidableEq

inductive ZeroCopy.Event where
  /-- The next step of the receiving thread, with the clock it finds. -/
  | receive (tp : Option Timeval)
  /-- The kernel puts packets into a buffer. -/
  | write (b : BzBuf) (memory : Bytes)
  /-- The kernel sets `bzh_kernel_len` and then the next `bzh_kernel_gen`. -/
  | handOver (b : BzBuf) (len : UInt32)

namespace ZeroCopy

section
variable {σ : Type} (count : Bytes → σ → Nat → UInt64 → Option Timeval → Except Abort σ)

/-- A pass of the loop of `read_buffer`. -/
def readPass (z : ZeroCopy σ) (b : BzBuf) (size done : UInt64) (tp : Option Timeval) : ZeroCopy σ :=
  let mem := (z.zbuf b).memory
  if done < size then
    match bpfHdrAt mem done.toNat with
    | .error e => { z with pc := .undefined e }
    | .ok bpfh =>
      if bpfh.bhCaplen = 0 ∨ bpfh.bhHdrlen = 0 then { z with pc := .load b } else
        match count mem z.counter (done.toNat + bpfh.bhHdrlen.toNat)
            (bpfh.chunkSize - bpfh.bhDatalen.toUInt64) tp with
        | .error e => { z with pc := .undefined e }
        | .ok counter => { z with counter, pc := .readBuffer b size (done + bpfh.chunkSize) }
  else { z with pc := .load b }

/-- The receiving thread. -/
def receive (z : ZeroCopy σ) (tp : Option Timeval) : ZeroCopy σ × Option Output :=
  match z.pc with
  | .check b =>
    let zhdr := z.zbuf b
    if zhdr.check then
      ({ z with pc := .readBuffer b (zhdr.bzhKernelLen.toUInt64 - ZBUF_HEADER_SIZE) 0 }, none)
    else ({ z with pc := .check b.next }, none)
  | .readBuffer b size done => (z.readPass count b size done tp, none)
  | .load b => ({ z with pc := .store b (z.zbuf b).bzhKernelGen }, none)
  | .store b gen =>
    ({ z with
        zbuf := Function.update z.zbuf b { z.zbuf b with bzhUserGen := gen }
        pc := .check b.next }, some (.acknowledge b (z.zbuf b).batch))
  | .undefined _ => (z, none)

def step (z : ZeroCopy σ) (e : Event) : ZeroCopy σ × Option Output :=
  match e with
  | .receive tp => z.receive count tp
  | .write b memory =>
    if (z.zbuf b).check then (z, none) else
      ({ z with zbuf := Function.update z.zbuf b { z.zbuf b with memory } }, none)
  | .handOver b len =>
    let zhdr := z.zbuf b
    if zhdr.check then (z, none) else
      let zhdr := { zhdr with bzhKernelLen := len, bzhKernelGen := zhdr.bzhKernelGen + 1 }
      ({ z with zbuf := Function.update z.zbuf b zhdr }, some (.handOver b zhdr.batch))

end

end ZeroCopy

end Dnsmeter
