import Dnsmeter.Lib.Handoff
import Dnsmeter.Lib.Run
import Dnsmeter.Proof.BpfModes
import Dnsmeter.ZeroCopy

/-!
# Nothing is lost between the kernel and the counters

The receiving thread and the kernel share the two zero-copy buffers without a lock.

* `Shared`: each buffer hands over its batches by the protocol of the generations (`Handoff`), and
  what the thread has read of a buffer is what `read_buffer` makes of its unchanged contents.
* `every_batch_counted_once`: in every interleaving each batch is read once and as it was handed over,
  and the counters are those of one `read_zbuffer` after the other.
* `receive_undisturbed`: `receiveZeroCopy` is one of the interleavings.
-/

namespace Dnsmeter

/-- The batch as the kernel lays it out: records with the headers `hs`. -/
def Batch.Holds (x : Batch) (hs : List BpfHdr) : Prop :=
  ∃ data rest, LaidOut data 0 hs ∧ x.memory = data ++ rest ∧ x.kernelLen.toNat = data.length

namespace ZeroCopy

/-! ## The account of the batches -/

def Output.handed? (b : BzBuf) : Output → Option Batch
  | .handOver b' x => if b' = b then some x else none
  | _ => none

def Output.taken? (b : BzBuf) : Output → Option Batch
  | .acknowledge b' x => if b' = b then some x else none
  | _ => none

def Output.batch? : Output → Option Batch
  | .acknowledge _ x => some x
  | _ => none

/-- The batches the kernel handed over in a buffer. -/
def handed (b : BzBuf) (out : List Output) : List Batch := out.filterMap (Output.handed? b)

/-- The batches of a buffer that were read and handed back. -/
def taken (b : BzBuf) (out : List Output) : List Batch := out.filterMap (Output.taken? b)

/-- All of these, in the order they were read. -/
def batches (out : List Output) : List Batch := out.filterMap Output.batch?

variable {σ : Type} {count : Bytes → σ → Nat → UInt64 → Option Timeval → Except Abort σ} {s0 : σ}

/-- One `read_zbuffer` after the other, each on the batch it was called for. -/
inductive Counted (count : Bytes → σ → Nat → UInt64 → Option Timeval → Except Abort σ) (s0 : σ) :
    List Batch → σ → Prop
  | nil : Counted count s0 [] s0
  | snoc {bs : List Batch} {s s' : σ} {zhdr : ZBuffer} {tps : List (Option Timeval)}
      (h : Counted count s0 bs s)
      (hread : readZbuffer count zhdr tps s = .ok (some (zhdr.acknowledge, s'))) :
      Counted count s0 (bs ++ [zhdr.batch]) s'

/-- How far the thread is with the buffer it reads, behind the batches `bs`. -/
inductive Reading (count : Bytes → σ → Nat → UInt64 → Option Timeval → Except Abort σ) (s0 : σ)
    (zbuf : BzBuf → ZBuffer) (bs : List Batch) : ZeroCopyPc → σ → Prop
  | check {b : BzBuf} {c : σ} (h : Counted count s0 bs c) : Reading count s0 zbuf bs (.check b) c
  | readBuffer {b : BzBuf} {done : UInt64} {s c : σ} {tps : List (Option Timeval)}
      (hcheck : (zbuf b).check = true) (h : Counted count s0 bs s)
      (hread : ∀ rest, Dnsmeter.readBuffer (count (zbuf b).memory) (zbuf b).memory
          ((zbuf b).bzhKernelLen.toUInt64 - ZBUF_HEADER_SIZE) (tps ++ rest) 0 s =
        Dnsmeter.readBuffer (count (zbuf b).memory) (zbuf b).memory
          ((zbuf b).bzhKernelLen.toUInt64 - ZBUF_HEADER_SIZE) rest done c) :
      Reading count s0 zbuf bs
        (.readBuffer b ((zbuf b).bzhKernelLen.toUInt64 - ZBUF_HEADER_SIZE) done) c
  | load {b : BzBuf} {s c : σ} {tps : List (Option Timeval)} (hcheck : (zbuf b).check = true)
      (h : Counted count s0 bs s)
      (hread : readZbuffer count (zbuf b) tps s = .ok (some ((zbuf b).acknowledge, c))) :
      Reading count s0 zbuf bs (.load b) c
  | store {b : BzBuf} {s c : σ} {tps : List (Option Timeval)} (hcheck : (zbuf b).check = true)
      (h : Counted count s0 bs s)
      (hread : readZbuffer count (zbuf b) tps s = .ok (some ((zbuf b).acknowledge, c))) :
      Reading count s0 zbuf bs (.store b (zbuf b).bzhKernelGen) c
  | undefined {e : Abort} {c : σ} : Reading count s0 zbuf bs (.undefined e) c

/-- The kernel leaves a buffer alone that the thread reads. -/
theorem Reading.of_kernel {zbuf : BzBuf → ZBuffer} {bs : List Batch} {pc : ZeroCopyPc} {c : σ}
    (h : Reading count s0 zbuf bs pc c) {b : BzBuf} (hb : (zbuf b).check = false) (zhdr : ZBuffer) :
    Reading count s0 (Function.update zbuf b zhdr) bs pc c := by
  have hother : ∀ {b'}, (zbuf b').check = true → Function.update zbuf b zhdr b' = zbuf b' := by
    intro b' hcheck
    apply Function.update_of_ne
    rintro rfl
    rw [hcheck] at hb
    cases hb
  cases h with
  | check h => exact .check h
  | readBuffer hcheck h hread =>
    have heq := hother hcheck
    rw [← heq] at hcheck hread ⊢
    exact .readBuffer hcheck h hread
  | load hcheck h hread =>
    have heq := hother hcheck
    rw [← heq] at hcheck hread
    exact .load hcheck h hread
  | store hcheck h hread =>
    have heq := hother hcheck
    rw [← heq] at hcheck hread ⊢
    exact .store hcheck h hread
  | undefined => exact .undefined

theorem readZbuffer_of_readBuffer {zhdr : ZBuffer} {tps : List (Option Timeval)} {s c : σ}
    (h : readBuffer (count zhdr.memory) zhdr.memory
      (zhdr.bzhKernelLen.toUInt64 - ZBUF_HEADER_SIZE) tps 0 s = .ok (some c)) :
    readZbuffer count zhdr tps s = .ok (some (zhdr.acknowledge, c)) := by
  rw [readZbuffer, h]
  rfl

/-- A pass of the loop. -/
theorem Reading.readPass {z : ZeroCopy σ} {bs : List Batch} {b : BzBuf} {size done : UInt64}
    (h : Reading count s0 z.zbuf bs (.readBuffer b size done) z.counter) (tp : Option Timeval) :
    Reading count s0 z.zbuf bs (z.readPass count b size done tp).pc
      (z.readPass count b size done tp).counter ∧
    (z.readPass count b size done tp).zbuf = z.zbuf := by
  cases h with
  | @readBuffer _ _ s _ tps hcheck h hread =>
    unfold ZeroCopy.readPass
    dsimp only
    split
    · rename_i hlt
      have hpass := hread [tp]
      split
      · exact ⟨.undefined, rfl⟩
      · rename_i bpfh hhdr
        split
        · rename_i hzero
          refine ⟨.load hcheck h (readZbuffer_of_readBuffer (hpass.trans ?_)), rfl⟩
          rw [Dnsmeter.readBuffer, if_pos hlt, hhdr]
          simp only [bind, Except.bind, if_pos hzero]
          rfl
        · rename_i hzero
          split
          · exact ⟨.undefined, rfl⟩
          · rename_i counter hcount
            have hnext : ∀ rest, Dnsmeter.readBuffer (count (z.zbuf b).memory) (z.zbuf b).memory
                ((z.zbuf b).bzhKernelLen.toUInt64 - ZBUF_HEADER_SIZE) (tps ++ [tp] ++ rest) 0 s =
                Dnsmeter.readBuffer (count (z.zbuf b).memory) (z.zbuf b).memory
                  ((z.zbuf b).bzhKernelLen.toUInt64 - ZBUF_HEADER_SIZE) rest
                  (done + bpfh.chunkSize) counter := by
              intro rest
              rw [List.append_assoc, List.singleton_append, hread, Dnsmeter.readBuffer, if_pos hlt,
                hhdr]
              simp only [bind, Except.bind, if_neg hzero, hcount]
            exact ⟨.readBuffer hcheck h hnext, rfl⟩
    · rename_i hge
      refine ⟨.load hcheck h (readZbuffer_of_readBuffer ((hread []).trans ?_)), rfl⟩
      rw [Dnsmeter.readBuffer, if_neg hge]

/-! ## The invariant -/

/-- What the kernel and the thread know of each other. -/
structure Shared (count : Bytes → σ → Nat → UInt64 → Option Timeval → Except Abort σ) (s0 : σ)
    (z : ZeroCopy σ) (out : List Output) : Prop where
  conserved : ∀ b, Handoff.Conserved (z.zbuf b).bzhKernelGen (z.zbuf b).bzhUserGen (z.zbuf b).batch
    (handed b out) (taken b out)
  reading : Reading count s0 z.zbuf (batches out) z.pc z.counter

theorem check_iff {zhdr : ZBuffer} : zhdr.check = true ↔ zhdr.bzhUserGen ≠ zhdr.bzhKernelGen := by
  simp [ZBuffer.check]

variable {z z' : ZeroCopy σ} {out : List Output}

/-- A step that puts out nothing and leaves the buffers alone. -/
theorem Shared.silent (h : Shared count s0 z out) (hbuf : z'.zbuf = z.zbuf)
    (hreading : Reading count s0 z.zbuf (batches out) z'.pc z'.counter) :
    Shared count s0 z' (out ++ []) := by
  rw [List.append_nil]
  refine ⟨fun b => ?_, ?_⟩
  · rw [hbuf]
    exact h.conserved b
  · rw [hbuf]
    exact hreading

/-- The buffer `b` is given back. -/
theorem Shared.store {b : BzBuf} {s : σ} {tps : List (Option Timeval)} (h : Shared count s0 z out)
    (hcheck : (z.zbuf b).check = true) (hcounted : Counted count s0 (batches out) s)
    (hread : readZbuffer count (z.zbuf b) tps s = .ok (some ((z.zbuf b).acknowledge, z.counter))) :
    Shared count s0 { z with
        zbuf := Function.update z.zbuf b { z.zbuf b with bzhUserGen := (z.zbuf b).bzhKernelGen }
        pc := .check b.next } (out ++ [.acknowledge b (z.zbuf b).batch]) := by
  constructor
  case reading =>
    have hbatches : batches (out ++ [.acknowledge b (z.zbuf b).batch]) =
        batches out ++ [(z.zbuf b).batch] := List.filterMap_append
    rw [hbatches]
    exact .check (.snoc hcounted hread)
  case conserved =>
    intro b'
    by_cases hb : b' = b
    · subst hb
      have hhanded : handed b' (out ++ [.acknowledge b' (z.zbuf b').batch]) = handed b' out := by
        simp [handed, Output.handed?, List.filterMap_cons]
      have htaken : taken b' (out ++ [.acknowledge b' (z.zbuf b').batch]) =
          taken b' out ++ [(z.zbuf b').batch] := by
        simp [taken, Output.taken?]
      rw [hhanded, htaken]
      simp only [Function.update_self]
      exact (h.conserved b').take (check_iff.1 hcheck)
    · have hhanded : handed b' (out ++ [.acknowledge b (z.zbuf b).batch]) = handed b' out := by
        simp [handed, Output.handed?, List.filterMap_cons]
      have htaken : taken b' (out ++ [.acknowledge b (z.zbuf b).batch]) = taken b' out := by
        simp [taken, Output.taken?, Ne.symm hb]
      rw [hhanded, htaken]
      simp only [Function.update_of_ne hb]
      exact h.conserved b'

theorem Shared.receive (h : Shared count s0 z out) (tp : Option Timeval) :
    Shared count s0 (z.receive count tp).1 (out ++ (z.receive count tp).2.toList) := by
  obtain ⟨zbuf, pc, counter⟩ := z
  have hreading : Reading count s0 zbuf (batches out) pc counter := h.reading
  cases hreading with
  | @check b _ hcounted =>
    simp only [ZeroCopy.receive]
    by_cases hcheck : (zbuf b).check = true
    · rw [if_pos hcheck]
      have hstart : ∀ rest, readBuffer (count (zbuf b).memory) (zbuf b).memory
          ((zbuf b).bzhKernelLen.toUInt64 - ZBUF_HEADER_SIZE) ([] ++ rest) 0 counter =
          readBuffer (count (zbuf b).memory) (zbuf b).memory
            ((zbuf b).bzhKernelLen.toUInt64 - ZBUF_HEADER_SIZE) rest 0 counter := fun _ => rfl
      exact h.silent rfl (.readBuffer hcheck hcounted hstart)
    · rw [if_neg hcheck]
      exact h.silent rfl (.check hcounted)
  | readBuffer =>
    obtain ⟨hpass, hbuf⟩ := h.reading.readPass tp
    exact h.silent hbuf hpass
  | load hcheck hcounted hread => exact h.silent rfl (.store hcheck hcounted hread)
  | store hcheck hcounted hread => exact h.store hcheck hcounted hread
  | undefined => exact h.silent rfl .undefined

/-- The kernel writes into its buffer. -/
theorem Shared.write {b : BzBuf} (h : Shared count s0 z out) (hb : (z.zbuf b).check = false)
    (memory : Bytes) : Shared count s0
      { z with zbuf := Function.update z.zbuf b { z.zbuf b with memory } } (out ++ []) := by
  rw [List.append_nil]
  refine ⟨fun b' => ?_, h.reading.of_kernel hb _⟩
  by_cases hne : b' = b
  · subst hne
    simp only [Function.update_self]
    apply (h.conserved b').write
    by_contra hne
    rw [check_iff.2 hne] at hb
    cases hb
  · simp only [Function.update_of_ne hne]
    exact h.conserved b'

/-- The kernel hands its buffer over. -/
theorem Shared.handOver {b : BzBuf} (h : Shared count s0 z out) (hb : (z.zbuf b).check = false)
    (len : UInt32) : Shared count s0
      { z with zbuf := Function.update z.zbuf b { z.zbuf b with
          bzhKernelLen := len
          bzhKernelGen := (z.zbuf b).bzhKernelGen + 1 } }
      (out ++ [.handOver b ⟨len, (z.zbuf b).memory⟩]) := by
  have hgen : (z.zbuf b).bzhUserGen = (z.zbuf b).bzhKernelGen := by
    by_contra hne
    rw [check_iff.2 hne] at hb
    cases hb
  constructor
  case reading =>
    have hbatches : batches (out ++ [.handOver b ⟨len, (z.zbuf b).memory⟩]) = batches out := by
      simp [batches, Output.batch?, List.filterMap_cons]
    rw [hbatches]
    exact h.reading.of_kernel hb _
  case conserved =>
    intro b'
    have htaken : taken b' (out ++ [.handOver b ⟨len, (z.zbuf b).memory⟩]) = taken b' out := by
      simp [taken, Output.taken?, List.filterMap_cons]
    rw [htaken]
    by_cases hne : b' = b
    · subst hne
      have hhanded : handed b' (out ++ [.handOver b' ⟨len, (z.zbuf b').memory⟩]) =
          handed b' out ++ [⟨len, (z.zbuf b').memory⟩] := by
        simp [handed, Output.handed?]
      have hnew : (z.zbuf b').bzhKernelGen + 1 ≠ (z.zbuf b').bzhKernelGen := by
        intro heq
        exact absurd (add_eq_left.1 heq) (by decide)
      rw [hhanded]
      simp only [Function.update_self]
      exact ((h.conserved b').write hgen ⟨len, (z.zbuf b').memory⟩).handOver hgen hnew
    · have hhanded : handed b' (out ++ [.handOver b ⟨len, (z.zbuf b).memory⟩]) = handed b' out := by
        simp [handed, Output.handed?, Ne.symm hne]
      rw [hhanded]
      simp only [Function.update_of_ne hne]
      exact h.conserved b'

theorem Shared.step (h : Shared count s0 z out) (e : Event) :
    Shared count s0 (z.step count e).1 (out ++ (z.step count e).2.toList) := by
  cases e with
  | receive tp => exact h.receive tp
  | write b memory =>
    simp only [ZeroCopy.step]
    split
    · exact h.silent rfl h.reading
    · rename_i hb
      exact h.write (by simpa using hb) memory
  | handOver b len =>
    simp only [ZeroCopy.step]
    split
    · exact h.silent rfl h.reading
    · rename_i hb
      exact h.handOver (by simpa using hb) len

/-! ## The packets -/

/-- More clock values than there are passes change nothing. -/
theorem readBuffer_append {count : σ → Nat → UInt64 → Option Timeval → Except Abort σ} {mem : Bytes}
    {size done : UInt64} {tps : List (Option Timeval)} {s s' : σ}
    (h : readBuffer count mem size tps done s = .ok (some s')) (more : List (Option Timeval)) :
    readBuffer count mem size (tps ++ more) done s = .ok (some s') := by
  induction tps generalizing done s with
  | nil =>
    rw [readBuffer] at h
    split at h
    · cases h
    · rename_i hge
      cases more with
      | nil => rw [List.append_nil, readBuffer, if_neg hge, ← h]
      | cons tp more => rw [List.nil_append, readBuffer, if_neg hge, ← h]
  | cons tp tps ih =>
    rw [List.cons_append]
    rw [readBuffer] at h ⊢
    split
    · rename_i hlt
      rw [if_pos hlt] at h
      obtain ⟨bpfh, hhdr, h⟩ := Run.bind_ok_iff.1 h
      rw [hhdr]
      simp only [bind, Except.bind] at h ⊢
      split
      · rename_i hzero
        rw [if_pos hzero] at h
        exact h
      · rename_i hzero
        rw [if_neg hzero] at h
        obtain ⟨s1, hcount, h⟩ := Run.bind_ok_iff.1 h
        rw [hcount]
        exact ih h
    · rename_i hge
      rw [if_neg hge] at h
      exact h

/-- A read batch adds its records. -/
theorem numPkgs_readZbuffer {zhdr zhdr' : ZBuffer} {tps : List (Option Timeval)} {c c' : Counter}
    {hs : List BpfHdr} (hlay : zhdr.batch.Holds hs)
    (h : readZbuffer countPacketAt zhdr tps c = .ok (some (zhdr', c'))) :
    c'.numPkgs = c.numPkgs + .ofNat hs.length := by
  obtain ⟨data, rest, hlaid, hmem, hlen⟩ := hlay
  have hmore : readZbuffer countPacketAt zhdr (tps ++ List.replicate hs.length none) c =
      .ok (some (zhdr', c')) := by
    rw [readZbuffer] at h ⊢
    obtain ⟨r, hr, h⟩ := Run.bind_ok_iff.1 h
    cases r with
    | none => cases h
    | some s =>
      rw [readBuffer_append hr]
      exact h
  have hl : hs.length ≤ (tps ++ List.replicate hs.length none).length := by simp
  rw [readZbuffer_eq countPacketAt hlaid hmem hlen hl] at hmore
  obtain ⟨c1, hall, hsome⟩ := map_eq_ok hmore
  cases hsome
  rw [numPkgs_countAll (by rw [length_hdrCalls]; exact hl) hall, length_hdrCalls]

theorem numPkgs_counted {c c' : Counter} {bs : List Batch} {records : Batch → List BpfHdr}
    (h : Counted countPacketAt c bs c') (hlay : ∀ x ∈ bs, x.Holds (records x)) :
    c'.numPkgs = c.numPkgs + .ofNat (bs.flatMap records).length := by
  induction h with
  | nil => exact (add_zero _).symm
  | @snoc bs s s' zhdr tps hcounted hread ih =>
    rw [List.forall_mem_append, List.forall_mem_singleton] at hlay
    rw [numPkgs_readZbuffer hlay.2 hread, ih hlay.1, List.flatMap_append, List.length_append,
      UInt64.ofNat_add, add_assoc, List.flatMap_singleton]

/-! ## Every interleaving -/

/-- The buffers as the constructor of `RawSocketReceiver` leaves them, before the first `receive`. -/
def init (mem : BzBuf → Bytes) (s0 : σ) : ZeroCopy σ where
  zbuf := fun b => ⟨0, 0, 0, mem b⟩
  pc := .check .bufa
  counter := s0

theorem shared_init (mem : BzBuf → Bytes) : Shared count s0 (init mem s0) [] :=
  ⟨fun _ => .empty rfl [], .check .nil⟩

/-- What was read is what was taken of the two buffers. -/
theorem batches_perm (out : List Output) :
    (batches out).Perm (taken .bufa out ++ taken .bufb out) := by
  induction out with
  | nil => exact .nil
  | cons o out ih =>
    cases o with
    | handOver b x => exact ih
    | acknowledge b x =>
      cases b with
      | bufa => exact ih.cons x
      | bufb => exact (ih.cons x).trans List.perm_middle.symm

/-- **Every batch is counted once**: in every interleaving of the receiving thread and the kernel, the
batches handed over in a buffer are those read, in their order and as they were handed over, and at
most one that still lies in the buffer; whenever the thread is between two buffers, the counters are
those of one `read_zbuffer` after the other over the batches read, and have one packet for each
record in them. -/
theorem every_batch_counted_once {mem : BzBuf → Bytes} {c : Counter} {events : List Event}
    {z : ZeroCopy Counter} (hrun : Run.trace (step countPacketAt) (init mem c) events = (z, out)) :
    (∀ b, ∃ pending, handed b out = taken b out ++ pending ∧ pending.length ≤ 1 ∧
      ∀ x ∈ pending, x = (z.zbuf b).batch) ∧
    (batches out).Perm (taken .bufa out ++ taken .bufb out) ∧
    ∀ b, z.pc = .check b → Counted countPacketAt c (batches out) z.counter ∧
      ∀ records : Batch → List BpfHdr, (∀ x ∈ batches out, x.Holds (records x)) →
        z.counter.numPkgs = c.numPkgs + .ofNat ((batches out).flatMap records).length := by
  have hshared : Shared countPacketAt c z out :=
    Run.trace_inv_of_eq (fun _ _ e h => h.step e) (shared_init mem) hrun
  refine ⟨fun b => (hshared.conserved b).exists_pending, batches_perm out, fun b hpc => ?_⟩
  have hcounted : Counted countPacketAt c (batches out) z.counter := by
    have hreading := hshared.reading
    rw [hpc] at hreading
    cases hreading with
    | check h => exact h
  exact ⟨hcounted, fun records hlay => numPkgs_counted hcounted hlay⟩

/-- Two records in either buffer; the second one is filled while the first one is read. -/
def bothFilled : List Event :=
  [.write .bufa twoRecords, .handOver .bufa 174, .receive none, .receive none,
    .write .bufb twoRecords, .receive none, .handOver .bufb 174, .receive none, .receive none,
    .receive none, .receive none, .receive none, .receive none, .receive none, .receive none,
    .receive none]

theorem every_batch_counted_once_two_buffers : ∃ z out,
    Run.trace (step countPacketAt) (init (fun _ => []) .zero) bothFilled = (z, out) ∧
    handed .bufa out = [⟨174, twoRecords⟩] ∧ handed .bufb out = [⟨174, twoRecords⟩] ∧
    batches out = [⟨174, twoRecords⟩, ⟨174, twoRecords⟩] ∧
    Counted countPacketAt .zero (batches out) z.counter ∧ z.counter.numPkgs = 4 := by
  obtain ⟨z, out, hrun, hbufa, hbufb, hbatches, b, hpc⟩ : ∃ z out,
      Run.trace (step countPacketAt) (init (fun _ => []) .zero) bothFilled = (z, out) ∧
      handed .bufa out = [⟨174, twoRecords⟩] ∧ handed .bufb out = [⟨174, twoRecords⟩] ∧
      batches out = [⟨174, twoRecords⟩, ⟨174, twoRecords⟩] ∧ ∃ b, z.pc = .check b :=
    ⟨_, _, rfl, by decide +kernel, by decide +kernel, by decide +kernel, .bufa, rfl⟩
  obtain ⟨hcounted, hrecords⟩ := (every_batch_counted_once hrun).2.2 b hpc
  have hlen : twoRecords.length = 174 := by
    simp only [twoRecords, List.length_append, List.length_replicate]
    rfl
  have hlay : LaidOut twoRecords 0 [⟨60, 60, 26⟩, ⟨60, 60, 26⟩] :=
    .record (by decide) (by decide) (by decide)
      (.last (by decide) (by decide) (by decide) (by rw [hlen]; decide))
  have hholds : ∀ x ∈ batches out, x.Holds [⟨60, 60, 26⟩, ⟨60, 60, 26⟩] := by
    intro x hx
    rw [hbatches] at hx
    obtain rfl : x = ⟨174, twoRecords⟩ := by simpa using hx
    exact ⟨twoRecords, [], hlay, (List.append_nil _).symm, by rw [hlen]; decide⟩
  have hnum := hrecords (fun _ => [⟨60, 60, 26⟩, ⟨60, 60, 26⟩]) hholds
  rw [hbatches] at hnum
  exact ⟨z, out, hrun, hbufa, hbufb, hbatches, hcounted, hnum⟩

/-! ## `receive` undisturbed -/

/-- The loop of `read_buffer`, pass by pass. -/
theorem readBuffer_undisturbed {zbuf : BzBuf → ZBuffer} {b : BzBuf} {size done : UInt64}
    {tps : List (Option Timeval)} {s s' : σ}
    (h : readBuffer (count (zbuf b).memory) (zbuf b).memory size tps done s = .ok (some s')) :
    ∃ tps' : List (Option Timeval), (Run.trace (step count) ⟨zbuf, .readBuffer b size done, s⟩
      (tps'.map .receive)).1 = ⟨zbuf, .load b, s'⟩ := by
  induction tps generalizing done s with
  | nil =>
    rw [readBuffer] at h
    split at h
    · cases h
    · rename_i hge
      cases h
      refine ⟨[none], ?_⟩
      simp [Run.trace, step, receive, ZeroCopy.readPass, hge]
  | cons tp tps ih =>
    rw [readBuffer] at h
    split at h
    · rename_i hlt
      obtain ⟨bpfh, hhdr, h⟩ := Run.bind_ok_iff.1 h
      split at h
      · rename_i hzero
        cases h
        refine ⟨[tp], ?_⟩
        simp [Run.trace, step, receive, ZeroCopy.readPass, hlt, hhdr, hzero]
      · rename_i hzero
        obtain ⟨s1, hcount, h⟩ := Run.bind_ok_iff.1 h
        obtain ⟨tps', hrun⟩ := ih h
        refine ⟨tp :: tps', ?_⟩
        rw [List.map_cons, Run.trace]
        simp only [step, receive, ZeroCopy.readPass, if_pos hlt, hhdr, if_neg hzero, hcount]
        exact hrun
    · rename_i hge
      cases h
      refine ⟨[tp], ?_⟩
      simp [Run.trace, step, receive, ZeroCopy.readPass, hge]

theorem receiveZbuffer_undisturbed {zbuf : BzBuf → ZBuffer} {b : BzBuf}
    {tps : List (Option Timeval)} {s s' : σ} {zhdr : ZBuffer}
    (h : receiveZbuffer count (zbuf b) tps s = .ok (some (zhdr, s'))) :
    ∃ tps' : List (Option Timeval), (Run.trace (step count) ⟨zbuf, .check b, s⟩
      (tps'.map .receive)).1 = ⟨Function.update zbuf b zhdr, .check b.next, s'⟩ := by
  unfold receiveZbuffer at h
  split at h
  · rename_i hcheck
    rw [readZbuffer] at h
    obtain ⟨r, hread, h⟩ := Run.bind_ok_iff.1 h
    cases r with
    | none => cases h
    | some s1 =>
      cases h
      obtain ⟨tps', hrun⟩ := readBuffer_undisturbed hread
      refine ⟨none :: (tps' ++ [none, none]), ?_⟩
      rw [List.map_cons, List.map_append, Run.trace]
      simp only [step, receive, if_pos hcheck]
      rw [Run.trace_append, hrun]
      rfl
  · rename_i hcheck
    cases h
    refine ⟨[none], ?_⟩
    simp [Run.trace, step, receive, hcheck]

/-- **`receive` undisturbed**: what `receiveZeroCopy` does to the two buffers and the counters, the
thread does step by step if the kernel does nothing meanwhile. -/
theorem receive_undisturbed {zbuf : BzBuf → ZBuffer} {tpsa tpsb : List (Option Timeval)} {s s' : σ}
    {bufa bufb : ZBuffer} (h : receiveZeroCopy count (zbuf .bufa) (zbuf .bufb) tpsa tpsb s =
      .ok (some (bufa, bufb, s'))) :
    ∃ tps : List (Option Timeval), (Run.trace (step count) ⟨zbuf, .check .bufa, s⟩
      (tps.map .receive)).1 =
        ⟨Function.update (Function.update zbuf .bufa bufa) .bufb bufb, .check .bufa, s'⟩ := by
  unfold receiveZeroCopy at h
  obtain ⟨ra, ha, h⟩ := Run.bind_ok_iff.1 h
  cases ra with
  | none => cases h
  | some ra =>
    obtain ⟨zhdr, s1⟩ := ra
    obtain ⟨rb, hb, h⟩ := Run.bind_ok_iff.1 h
    cases rb with
    | none => cases h
    | some rb =>
      cases h
      obtain ⟨tpsa', hruna⟩ := receiveZbuffer_undisturbed ha
      have hother : Function.update zbuf .bufa bufa .bufb = zbuf .bufb :=
        Function.update_of_ne (by decide) bufa zbuf
      rw [← hother] at hb
      obtain ⟨tpsb', hrunb⟩ := receiveZbuffer_undisturbed hb
      refine ⟨tpsa' ++ tpsb', ?_⟩
      rw [List.map_append, Run.trace_append, hruna]
      exact hrunb

end ZeroCopy

end Dnsmeter
