import Dnsmeter.BpfReceiver
import Dnsmeter.Lib.Align
import Dnsmeter.Proof.Counters
import Dnsmeter.Proof.Filter

/-!
# The records of a BPF buffer

* `readBuffer_walk`: `read_buffer` counts every record it comes to once, in order, at its frame.
* `bpfHdrAt_record`, `toNat_chunkSize`: the header of a record and the way to the next one.
* `readBuffer_layout`: so every record of a buffer is counted.
* `received_bytes_iff`: the bytes it counts are the frames' only if there is no frame; the Linux
  `receive` counts the lengths of the frames.
-/

namespace Dnsmeter

open Datagram

/-! ## `read_buffer` -/

/-- A chunk is rounded up to a multiple of the word size. -/
theorem BpfHdr.toNat_chunkSize {h : BpfHdr} (hlt : h.bhHdrlen.toNat + h.bhCaplen.toNat < 2 ^ 32) :
    h.chunkSize.toNat = Align.up 3 (h.bhHdrlen.toNat + h.bhCaplen.toNat) := by
  have hsum : (h.bhCaplen + h.bhHdrlen.toUInt32).toUInt64.toNat =
      h.bhHdrlen.toNat + h.bhCaplen.toNat := by
    rw [UInt32.toNat_toUInt64, UInt32.toNat_add, UInt16.toNat_toUInt32]
    omega
  rw [← hsum]
  exact Align.toNat_mask (by rw [hsum]; omega)

/-- The headers `read_buffer` finds from `off` on, up to `size`. -/
inductive Walk (mem : Bytes) (size : Nat) : Nat → List BpfHdr → Prop
  | done {off : Nat} : size ≤ off → off < 2 ^ 64 → Walk mem size off []
  | record {off : Nat} {h : BpfHdr} {hs : List BpfHdr} : off < size → off < 2 ^ 64 →
      bpfHdrAt mem off = .ok h → 0 < h.bhCaplen.toNat → 0 < h.bhHdrlen.toNat →
      Walk mem size (off + h.chunkSize.toNat) hs → Walk mem size off (h :: hs)

/-- The calls of `count_packet` for the records at `off`: the offset of the frame and the size. -/
def hdrCalls : Nat → List BpfHdr → List (Nat × UInt64)
  | _, [] => []
  | off, h :: hs => (off + h.bhHdrlen.toNat, h.chunkSize - h.bhDatalen.toUInt64) ::
      hdrCalls (off + h.chunkSize.toNat) hs

theorem length_hdrCalls (off : Nat) (hs : List BpfHdr) : (hdrCalls off hs).length = hs.length := by
  induction hs generalizing off with
  | nil => rfl
  | cons h hs ih => rw [hdrCalls, List.length_cons, ih, List.length_cons]

section
variable {σ : Type} (count : σ → Nat → UInt64 → Option Timeval → Except Abort σ)

/-- Calls one after the other. -/
def countAll : List (Nat × UInt64) → List (Option Timeval) → σ → Except Abort σ
  | call :: calls, tp :: tps, s => do countAll calls tps (← count s call.1 call.2 tp)
  | _, _, s => .ok s

/-- **`read_buffer` counts every record it comes to once, in order, at its frame.** -/
theorem readBuffer_walk {mem : Bytes} {size : UInt64} {off : Nat} {hs : List BpfHdr}
    (h : Walk mem size.toNat off hs) {tps : List (Option Timeval)} (htps : hs.length ≤ tps.length)
    (s : σ) : readBuffer count mem size tps (.ofNat off) s =
      (countAll count (hdrCalls off hs) tps s).map some := by
  induction h generalizing tps s with
  | @done off hend hlt =>
    have hstop : ¬ UInt64.ofNat off < size := by
      rw [UInt64.lt_iff_toNat_lt, Tally.toNat_ofNat hlt]
      omega
    cases tps with
    | nil =>
      simp only [readBuffer, if_neg hstop, hdrCalls, countAll]
      rfl
    | cons tp tps =>
      simp only [readBuffer, if_neg hstop, hdrCalls, countAll]
      rfl
  | @record off hdr hs hstart hlt hhdr hcap hlen _ ih =>
    cases tps with
    | nil => exact absurd htps (by simp)
    | cons tp tps =>
      have hdone := Tally.toNat_ofNat hlt
      have hcond : UInt64.ofNat off < size := by
        rw [UInt64.lt_iff_toNat_lt, hdone]
        exact hstart
      have hstop : ¬ (hdr.bhCaplen = 0 ∨ hdr.bhHdrlen = 0) := by
        rintro (h | h)
        · rw [h] at hcap
          exact absurd hcap (by decide)
        · rw [h] at hlen
          exact absurd hlen (by decide)
      have hnext : UInt64.ofNat off + hdr.chunkSize = .ofNat (off + hdr.chunkSize.toNat) := by
        rw [UInt64.ofNat_add, UInt64.ofNat_toNat]
      simp only [readBuffer, if_pos hcond, hdone, hhdr, if_neg hstop, hnext, hdrCalls, countAll, bind,
        Except.bind]
      cases count s (off + hdr.bhHdrlen.toNat) (hdr.chunkSize - hdr.bhDatalen.toUInt64) tp with
      | error e => rfl
      | ok s' => exact ih (by simpa using htps) s'

end

/-! ## The records in memory -/

namespace BpfRecord

variable (r : BpfRecord)

theorem length_bytes : r.bytes.length = r.hdrlen + r.data.length + r.pad.length := by
  simp only [bytes, hdrlen, List.length_append, r.length_tstamp, le32, length_le16, List.length_cons,
    List.length_nil]

/-- The header the kernel wrote. -/
def hdr : BpfHdr := ⟨.ofNat r.data.length, r.datalen, .ofNat r.hdrlen⟩

theorem toNat_bhCaplen : r.hdr.bhCaplen.toNat = r.data.length := by
  have := r.caplen_lt
  simp only [hdr, UInt32.toNat_ofNat']
  omega

theorem toNat_bhHdrlen : r.hdr.bhHdrlen.toNat = r.hdrlen := by
  have := r.hdrlen_lt
  simp only [hdr, UInt16.toNat_ofNat', hdrlen]
  omega

/-- **A chunk is a record with its padding.** -/
theorem toNat_chunkSize : r.hdr.chunkSize.toNat = r.bytes.length := by
  have hlt := r.caplen_lt
  have halign := r.aligned
  have hpad := r.length_pad
  rw [BpfHdr.toNat_chunkSize (by rw [r.toNat_bhHdrlen, r.toNat_bhCaplen]; exact hlt), r.toNat_bhHdrlen,
    r.toNat_bhCaplen, r.length_bytes, Align.up, hdrlen]
  omega

/-- The header read back from memory. -/
theorem bpfHdrAt_record (pre suf : Bytes) :
    bpfHdrAt (pre ++ (r.bytes ++ suf)) pre.length = .ok r.hdr := by
  have hdrop : (pre ++ (r.bytes ++ suf)).drop (pre.length + 16) =
      le32 (.ofNat r.data.length) ++ le32 r.datalen ++ le16 (.ofNat r.hdrlen) ++
        (r.gap ++ r.data ++ r.pad ++ suf) := by
    rw [← List.drop_drop, List.drop_left' rfl]
    simp only [bytes, List.append_assoc]
    exact List.drop_left' r.length_tstamp
  have h32 : ∀ v : UInt32, ofLe32 (.ofNat v.toNat) (.ofNat (v.toNat / 256))
      (.ofNat (v.toNat / 65536)) (.ofNat (v.toNat / 16777216)) = v :=
    fun v => ofLe32_eq_iff.2 rfl
  have h16 : ∀ v : UInt16, ofLe16 (.ofNat v.toNat) (.ofNat (v.toNat / 256)) = v :=
    fun v => ofLe16_eq_iff.2 rfl
  rw [bpfHdrAt, hdrop]
  simp only [le32, le16, List.cons_append, List.nil_append, List.take_succ_cons, List.take_zero, h32,
    h16]
  rfl

end BpfRecord

/-- The calls of `count_packet` for the records at `off`. -/
def bpfCalls : Nat → List BpfRecord → List (Nat × UInt64)
  | _, [] => []
  | off, r :: records =>
    (off + r.hdrlen, r.hdr.chunkSize - r.datalen.toUInt64) ::
      bpfCalls (off + r.bytes.length) records

theorem hdrCalls_map_hdr (off : Nat) (records : List BpfRecord) :
    hdrCalls off (records.map BpfRecord.hdr) = bpfCalls off records := by
  induction records generalizing off with
  | nil => rfl
  | cons r records ih =>
    rw [List.map_cons, hdrCalls, bpfCalls, r.toNat_bhHdrlen, r.toNat_chunkSize, ih]
    rfl

/-- `read_buffer` comes to every record, though the last one may lack its padding. -/
theorem walk_layout {records : List BpfRecord} (pre : Bytes) {rest : Bytes} {size : Nat}
    (hdata : ∀ r ∈ records, r.data ≠ [])
    (hmem : pre.length + (bpfLayout records).length < 2 ^ 64)
    (hsize : size ≤ pre.length + (bpfLayout records).length)
    (hlast : pre.length + (bpfLayout records).length < size + 8) :
    Walk (pre ++ (bpfLayout records ++ rest)) size pre.length (records.map BpfRecord.hdr) := by
  induction records generalizing pre with
  | nil =>
    simp only [bpfLayout, List.flatMap_nil, List.length_nil, Nat.add_zero] at hmem hsize
    exact .done hsize hmem
  | cons r records ih =>
    have hlen := r.length_bytes
    have hpos : 0 < r.data.length := List.length_pos_iff.2 (hdata r List.mem_cons_self)
    have hlay : bpfLayout (r :: records) = r.bytes ++ bpfLayout records := rfl
    rw [hlay, List.length_append] at hmem hsize hlast
    have hpre : pre.length + r.bytes.length = (pre ++ r.bytes).length := List.length_append.symm
    simp only [BpfRecord.hdrlen] at hlen
    rw [hlay, List.append_assoc]
    refine .record (by omega) (by omega) (r.bpfHdrAt_record pre _) ?_ ?_ ?_
    · rw [r.toNat_bhCaplen]
      exact hpos
    · rw [r.toNat_bhHdrlen, BpfRecord.hdrlen]
      omega
    · rw [r.toNat_chunkSize, hpre, ← List.append_assoc]
      exact ih (pre ++ r.bytes) (fun x hx => hdata x (List.mem_cons_of_mem r hx))
        (by rw [← hpre]; omega) (by rw [← hpre]; omega) (by rw [← hpre]; omega)

/-- **Every record of a buffer is counted.** -/
theorem readBuffer_layout {σ : Type} (count : σ → Nat → UInt64 → Option Timeval → Except Abort σ)
    {records : List BpfRecord} {rest : Bytes} {tps : List (Option Timeval)} (s : σ)
    (hdata : ∀ r ∈ records, r.data ≠ []) (hmem : (bpfLayout records).length < 2 ^ 64)
    (htps : records.length ≤ tps.length) :
    readBuffer count (bpfLayout records ++ rest) (.ofNat (bpfLayout records).length) tps 0 s =
      (countAll count (bpfCalls 0 records) tps s).map some := by
  have hsize := Tally.toNat_ofNat hmem
  have hwalk : Walk (bpfLayout records ++ rest) (UInt64.ofNat (bpfLayout records).length).toNat 0
      (records.map BpfRecord.hdr) :=
    walk_layout [] hdata (by simpa using hmem) (by simp [hsize]) (by simp [hsize])
  rw [← hdrCalls_map_hdr]
  exact readBuffer_walk count hwalk (by rw [List.length_map]; exact htps) s

/-! ## The bytes counted -/

theorem bytesRcv_countPacketAt {mem : Bytes} {c c' : Counter} {off : Nat} {size : UInt64}
    {tp : Option Timeval} (h : countPacketAt mem c off size tp = .ok c') :
    c'.bytesRcv = c.bytesRcv + size := by
  obtain ⟨dns, -, hc⟩ := Run.bind_ok_iff.1 h
  cases hc
  rfl

theorem bytesRcv_countAll {mem : Bytes} {calls : List (Nat × UInt64)} {tps : List (Option Timeval)}
    {c c' : Counter} (hl : calls.length ≤ tps.length)
    (h : countAll (countPacketAt mem) calls tps c = .ok c') :
    c'.bytesRcv = c.bytesRcv + (calls.map Prod.snd).sum := by
  induction calls generalizing tps c with
  | nil =>
    cases h
    simp
  | cons call calls ih =>
    cases tps with
    | nil => exact absurd hl (by simp)
    | cons tp tps =>
      obtain ⟨c1, h1, h2⟩ := Run.bind_ok_iff.1 h
      rw [ih (by simpa using hl) h2, bytesRcv_countPacketAt h1, List.map_cons, List.sum_cons,
        add_assoc]

/-- A frame that the kernel captured whole, on Ethernet. -/
structure BpfRecord.Whole (r : BpfRecord) (frame : Bytes) : Prop where
  data : r.data = frame
  datalen : r.datalen.toNat = frame.length
  hdrlen : r.hdrlen = bpfHdrlenEthernet

section
variable {r : BpfRecord} {frame : Bytes}

/-- The size of a record does not wrap: it is what the record has besides the frame. -/
theorem BpfRecord.Whole.size (h : r.Whole frame) :
    r.datalen.toUInt64 ≤ r.hdr.chunkSize ∧
      (r.hdr.chunkSize - r.datalen.toUInt64).toNat = 26 + r.pad.length := by
  have hlen := r.length_bytes
  have hchunk := r.toNat_chunkSize
  have h26 : r.hdrlen = 26 := h.hdrlen
  rw [hlen, h.data, h26] at hchunk
  have hdl : r.datalen.toUInt64.toNat = frame.length := by
    rw [UInt32.toNat_toUInt64, h.datalen]
  have hle : r.datalen.toUInt64 ≤ r.hdr.chunkSize := by
    rw [UInt64.le_iff_toNat_le, hdl, hchunk]
    omega
  refine ⟨hle, ?_⟩
  rw [UInt64.toNat_sub_of_le _ _ hle, hchunk, hdl]
  omega

end

theorem BpfRecord.whole_of_mem {records : List BpfRecord} {frames : List Bytes} {r : BpfRecord}
    (h : List.Forall₂ BpfRecord.Whole records frames) (hr : r ∈ records) :
    ∃ f ∈ frames, r.Whole f := by
  induction h with
  | nil => cases hr
  | @cons r' f records frames hw _ ih =>
    rcases List.mem_cons.1 hr with rfl | hr
    · exact ⟨f, List.mem_cons_self, hw⟩
    · obtain ⟨g, hg, hw'⟩ := ih hr
      exact ⟨g, List.mem_cons_of_mem f hg, hw'⟩

/-- The sizes of whole frames add up to the headers and the padding. -/
theorem sum_bpfCalls {records : List BpfRecord} {frames : List Bytes}
    (h : List.Forall₂ BpfRecord.Whole records frames) (off : Nat) :
    ((bpfCalls off records).map Prod.snd).sum =
      .ofNat (records.map fun r => 26 + r.pad.length).sum := by
  induction h generalizing off with
  | nil => rfl
  | @cons r frame records frames hr _ ih =>
    have hsize : r.hdr.chunkSize - r.datalen.toUInt64 = .ofNat (26 + r.pad.length) := by
      rw [← UInt64.toNat_inj, hr.size.2, UInt64.toNat_ofNat', Nat.mod_eq_of_lt]
      have := r.length_pad
      omega
    rw [bpfCalls, List.map_cons, List.sum_cons, ih, hsize, List.map_cons, List.sum_cons]
    exact (UInt64.ofNat_add _ _).symm

/-- Headers and padding are shorter than the frames the filter accepts. -/
theorem sum_size_le {records : List BpfRecord} {frames : List Bytes}
    (h : List.Forall₂ BpfRecord.Whole records frames) (hl : ∀ f ∈ frames, 36 ≤ f.length) :
    (records.map fun r => 26 + r.pad.length).sum + 3 * frames.length ≤
      (frames.map List.length).sum ∧
    (frames.map List.length).sum ≤ (bpfLayout records).length := by
  induction h with
  | nil => exact ⟨Nat.le_refl _, Nat.le_refl _⟩
  | @cons r frame records frames hr _ ih =>
    obtain ⟨h1, h2⟩ := ih fun f hf => hl f (List.mem_cons_of_mem _ hf)
    have hlen := r.length_bytes
    have hpad := r.length_pad
    have hframe := hl frame List.mem_cons_self
    have hlay : bpfLayout (r :: records) = r.bytes ++ bpfLayout records := rfl
    rw [hr.data] at hlen
    simp only [List.map_cons, List.sum_cons, List.length_cons, hlay, List.length_append]
    omega

/-! ## The Linux receiver -/

theorem bytesRcv_foldl (as : List Answer) (c : Counter) :
    (as.foldl Counter.countAnswer c).bytesRcv = c.bytesRcv + (as.map Answer.size).sum := by
  induction as generalizing c with
  | nil => simp
  | cons a as ih =>
    rw [List.foldl_cons, ih, List.map_cons, List.sum_cons, ← add_assoc]
    rfl

namespace RawSocketReceiver

variable {ip : IPAddress} {port : Int32}

/-- The frames from the source that `receive` has room for. -/
structure Receivable (ip : IPAddress) (port : Int32) (frame : Bytes) : Prop where
  source : FromSource ip port frame
  version : ∃ b, slice frame 14 1 = [b] ∧ b >>> 4 = 4
  length_ge : 36 ≤ frame.length
  length_le : frame.length ≤ 4096

/-- `receive` counts such a frame with its length. -/
theorem answer_receivable {r : RawSocketReceiver} (hr : r = r.setSource ip port) {frame : Bytes}
    (h : Receivable ip port frame) (tp : Option Timeval) :
    (r.answer (some frame, tp)).1 = (r.answer (some frame, tp)).1.setSource ip port ∧
      (r.answer (some frame, tp)).2.map Answer.size = some (.ofNat frame.length) := by
  have hpass := (passes_iff r h.length_ge).2 ⟨h.source, h.version⟩
  rw [← hr] at hpass
  have hlen : (r.recvfrom frame).2 = frame.length := by
    simp only [recvfrom, List.length_take, Nat.min_eq_right h.length_le]
  refine ⟨?_, ?_⟩
  · rw [hr]
    rfl
  · rw [hlen] at hpass
    simp only [answer, hlen, if_pos hpass, Option.map_some]

theorem sizes_answers {frames : List Bytes} {tps : List (Option Timeval)} {r : RawSocketReceiver}
    (hr : r = r.setSource ip port) (h : ∀ f ∈ frames, Receivable ip port f)
    (hl : frames.length ≤ tps.length) :
    (r.answers ((frames.zip tps).map fun e => (some e.1, e.2))).2.map Answer.size =
      frames.map fun f => .ofNat f.length := by
  induction frames generalizing tps r with
  | nil => rfl
  | cons f frames ih =>
    cases tps with
    | nil => exact absurd hl (by simp)
    | cons tp tps =>
      obtain ⟨hr', hsize⟩ := answer_receivable hr (h f List.mem_cons_self) tp
      have hrest := ih hr' (fun x hx => h x (List.mem_cons_of_mem f hx)) (by simpa using hl)
      obtain ⟨a, ha, hasize⟩ := Option.map_eq_some_iff.1 hsize
      simp only [answers, List.zip_cons_cons, List.map_cons, Run.trace, ha, Option.toList_some,
        List.cons_append, List.nil_append, hasize] at hrest ⊢
      rw [hrest]

end RawSocketReceiver

theorem sum_ofNat_length (frames : List Bytes) :
    (frames.map fun f => UInt64.ofNat f.length).sum = .ofNat (frames.map List.length).sum := by
  induction frames with
  | nil => rfl
  | cons f frames ih =>
    rw [List.map_cons, List.sum_cons, ih, List.map_cons, List.sum_cons, UInt64.ofNat_add]

open RawSocketReceiver in
/-- **Received bytes on the two platforms**: the BPF path counts the lengths of the frames only if
there is none, though no size wraps; the Linux path counts them always. -/
theorem received_bytes_iff {ip : IPAddress} {port : Int32} (h1 : 1 ≤ port.toInt)
    (h2 : port.toInt ≤ 65535) {frames : List Bytes}
    (hacc : ∀ f ∈ frames, ∃ v, Bpf.run (bpfProgram ip port) f = some v ∧ v ≠ 0)
    {records : List BpfRecord} (hrec : List.Forall₂ BpfRecord.Whole records frames)
    (hmem : (bpfLayout records).length < 2 ^ 64) (rest : Bytes) {tps : List (Option Timeval)}
    (htps : frames.length ≤ tps.length) (c : Counter) :
    ((∃ c', readBuffer (countPacketAt (bpfLayout records ++ rest)) (bpfLayout records ++ rest)
        (.ofNat (bpfLayout records).length) tps 0 c = .ok (some c') ∧
      c'.bytesRcv = c.bytesRcv + .ofNat (frames.map List.length).sum) ↔ frames = []) ∧
    (∀ r ∈ records, r.datalen.toUInt64 ≤ r.hdr.chunkSize) ∧
    ((∀ f ∈ frames, f.length ≤ 4096 ∧ ∃ b, slice f 14 1 = [b] ∧ b >>> 4 = 4) →
      ∀ r : RawSocketReceiver, ∃ t', DNSReceiverThread.run.go ⟨r.setSource ip port, c⟩
          ((frames.zip tps).map fun e => (some e.1, e.2)) = .ok t' ∧
        t'.counter.bytesRcv = c.bytesRcv + .ofNat (frames.map List.length).sum) := by
  have hbpf : ∀ f ∈ frames, 36 ≤ f.length ∧ FromSource ip port f := by
    intro f hf
    obtain ⟨hl, hs, -⟩ := (bpfProgram_run h1 h2).1 (hacc f hf)
    exact ⟨hl, hs⟩
  obtain ⟨hless, hmore⟩ := sum_size_le hrec fun f hf => (hbpf f hf).1
  have hlr : records.length = frames.length := hrec.length_eq
  have hdata : ∀ r ∈ records, r.data ≠ [] := by
    intro r hr hnil
    obtain ⟨f, hf, hw⟩ := BpfRecord.whole_of_mem hrec hr
    have h36 := (hbpf f hf).1
    rw [← hw.data, hnil] at h36
    exact absurd h36 (by decide)
  have hread : readBuffer (countPacketAt (bpfLayout records ++ rest)) (bpfLayout records ++ rest)
      (.ofNat (bpfLayout records).length) tps 0 c =
      (countAll (countPacketAt (bpfLayout records ++ rest)) (bpfCalls 0 records) tps c).map some :=
    readBuffer_layout _ c hdata hmem (by omega)
  refine ⟨⟨?_, ?_⟩, ?_, ?_⟩
  · rintro ⟨c', hc', hbytes⟩
    rw [hread] at hc'
    obtain ⟨c1, hall, hsome⟩ : ∃ c1, countAll (countPacketAt (bpfLayout records ++ rest))
        (bpfCalls 0 records) tps c = .ok c1 ∧ some c1 = some c' := by
      cases hall : countAll (countPacketAt (bpfLayout records ++ rest)) (bpfCalls 0 records) tps c with
      | error e =>
        rw [hall] at hc'
        cases hc'
      | ok c1 =>
        rw [hall] at hc'
        exact ⟨c1, rfl, Except.ok.inj hc'⟩
    cases hsome
    rw [bytesRcv_countAll (by rw [← hdrCalls_map_hdr, length_hdrCalls, List.length_map]; omega) hall,
      sum_bpfCalls hrec, add_right_inj, ← UInt64.toNat_inj, Tally.toNat_ofNat (by omega), Tally.toNat_ofNat (by omega)] at hbytes
    rw [← List.length_eq_zero_iff]
    omega
  · rintro rfl
    cases hrec
    refine ⟨c, hread.trans ?_, ?_⟩
    · cases tps <;> rfl
    · simp
  · intro r hr
    obtain ⟨f, -, hw⟩ := BpfRecord.whole_of_mem hrec hr
    exact hw.size.1
  · intro hf r
    refine ⟨_, DNSReceiverThread.go_eq _ _, ?_⟩
    rw [bytesRcv_foldl, sizes_answers rfl (fun f hfm => ⟨(hbpf f hfm).2, (hf f hfm).2, (hbpf f hfm).1,
      (hf f hfm).1⟩) htps, sum_ofNat_length]

/-- The record of a frame of 54 bytes, which needs no padding. -/
def recordOf (frame : Bytes) (h : frame.length = 54) : BpfRecord where
  tstamp := List.replicate 16 0
  gap := []
  data := frame
  datalen := 54
  pad := []
  length_tstamp := rfl
  hdrlen_lt := by decide
  caplen_lt := by
    rw [h]
    decide
  aligned := by
    rw [h]
    rfl
  length_pad := by decide

open RawSocketReceiver in
theorem received_bytes_one_frame : ∃ t', DNSReceiverThread.run.go
      ⟨setSource ⟨⟨0⟩, 0, .zero 4096⟩ ⟨0x0a000001⟩ 53, .zero⟩ [(some (frameFrom 17), none)] = .ok t' ∧
    t'.counter.bytesRcv = 54 := by
  have hacc : ∀ f ∈ [frameFrom 17],
      ∃ v, Bpf.run (bpfProgram ⟨0x0a000001⟩ 53) f = some v ∧ v ≠ 0 := by
    intro f hf
    rw [List.mem_singleton.1 hf]
    exact ⟨0xffffffff, by decide, by decide⟩
  have hrec : List.Forall₂ BpfRecord.Whole [recordOf (frameFrom 17) rfl] [frameFrom 17] :=
    .cons ⟨rfl, rfl, rfl⟩ .nil
  have h := received_bytes_iff (by decide) (by decide) hacc hrec (by decide) []
    (show [frameFrom 17].length ≤ [(none : Option Timeval)].length from Nat.le_refl _) .zero
  refine h.2.2 ?_ ⟨⟨0⟩, 0, .zero 4096⟩
  intro f hf
  rw [List.mem_singleton.1 hf]
  exact ⟨by decide, 0x45, by decide, by decide⟩

/-- The BPF path counts 26 bytes for the same frame: the header of its record. -/
theorem bpf_counts_header : ∃ c', readBuffer
      (countPacketAt (bpfLayout [recordOf (RawSocketReceiver.frameFrom 17) rfl]))
      (bpfLayout [recordOf (RawSocketReceiver.frameFrom 17) rfl]) 80 [none] 0 .zero = .ok (some c') ∧
    (bpfLayout [recordOf (RawSocketReceiver.frameFrom 17) rfl]).length = 80 ∧
    (RawSocketReceiver.frameFrom 17).length = 54 ∧
    (∃ v, Bpf.run (RawSocketReceiver.bpfProgram ⟨0x0a000001⟩ 53) (RawSocketReceiver.frameFrom 17) =
      some v ∧ v ≠ 0) ∧
    c'.bytesRcv = Counter.zero.bytesRcv + 26 :=
  ⟨_, rfl, by decide, by decide, ⟨0xffffffff, by decide, by decide⟩, by decide⟩

end Dnsmeter
