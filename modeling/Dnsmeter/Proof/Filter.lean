import Dnsmeter.Receiver

/-!
# The two receive filters

The Linux `receive` compares fields of the frame in memory, FreeBSD runs the BPF program of
`setSource`. The BPF program tests one field more, the protocol of the IP header.

* `bpfProgram_run`, `bpf_accepts_iff`: what the program accepts, for any packet.
* `passes_iff`: what `receive` counts, for any frame that reaches to the source port.
* `filters_agree_iff`: on which frames the two decide alike.
-/

namespace Dnsmeter.RawSocketReceiver

open Datagram

/-- The fields the BPF program tests. -/
def bpfTests (ip : IPAddress) (port : Int32) : List Bpf.Test :=
  [⟨.h, 12, 0x0800⟩, ⟨.w, 26, htonl ip.sAddr⟩, ⟨.b, 23, 17⟩, ⟨.h, 34, .ofInt port.toInt⟩]

theorem bpfProgram_eq_conj (ip : IPAddress) (port : Int32) :
    bpfProgram ip port = Bpf.conj (bpfTests ip port) := rfl

/-- The frame is an IPv4 frame from the given address and, behind a header of 20 bytes, the given
port. -/
structure FromSource (ip : IPAddress) (port : Int32) (frame : Bytes) : Prop where
  ethertype : slice frame 12 2 = [0x08, 0x00]
  address : slice frame 26 4 = be32 ip.addr
  port : slice frame 34 2 = be16 (.ofInt port.toInt)

section
variable {ip : IPAddress} {port : Int32} {frame : Bytes}

theorem toNat_ofInt_port (h1 : 1 ≤ port.toInt) (h2 : port.toInt ≤ 65535) :
    (UInt32.ofInt port.toInt).toNat = port.toInt.toNat := by
  simp only [UInt32.ofInt, UInt32.toNat_ofNat']
  omega

theorem be16_ofInt_port (h1 : 1 ≤ port.toInt) (h2 : port.toInt ≤ 65535) :
    Bpf.Size.encode .h (.ofInt port.toInt) = be16 (.ofInt port.toInt) := by
  rw [Bpf.Size.encode, toNat_ofInt_port h1 h2]
  congr 1
  simp only [UInt16.ofInt, ← UInt16.toNat_inj, UInt16.toNat_ofNat']
  omega

/-- The program tests fields one after the other; a frame passes all tests iff it is a UDP frame from
the source. -/
theorem holds_bpfTests (h1 : 1 ≤ port.toInt) (h2 : port.toInt ≤ 65535) :
    (∀ t ∈ bpfTests ip port, t.Holds frame) ↔
      36 ≤ frame.length ∧ FromSource ip port frame ∧ slice frame 23 1 = [17] := by
  have hsip : Bpf.Size.encode .w (htonl ip.sAddr) = be32 ip.addr := by
    rw [IPAddress.sAddr, htonl_htonl]
    rfl
  simp only [bpfTests, List.forall_mem_cons, Bpf.Test.Holds, Bpf.Size.bytes, hsip,
    be16_ofInt_port h1 h2]
  constructor
  · rintro ⟨⟨-, he⟩, ⟨-, ha⟩, ⟨-, hu⟩, ⟨hl, hp⟩, -⟩
    exact ⟨by omega, ⟨he, ha, hp⟩, hu⟩
  · rintro ⟨hl, ⟨he, ha, hp⟩, hu⟩
    exact ⟨⟨by omega, he⟩, ⟨by omega, ha⟩, ⟨by omega, hu⟩, ⟨by omega, hp⟩, by simp⟩

/-- The program returns a constant, whatever the frame. -/
theorem run_bpfProgram (h1 : 1 ≤ port.toInt) (h2 : port.toInt ≤ 65535) :
    Bpf.run (bpfProgram ip port) frame =
      some (if ∀ t ∈ bpfTests ip port, t.Holds frame then 0xffffffff else 0) := by
  have hk : ∀ t ∈ bpfTests ip port, t.size.Fits t.k := by
    have := toNat_ofInt_port h1 h2
    simp only [bpfTests, List.forall_mem_cons, Bpf.Size.Fits, this]
    exact ⟨by decide, trivial, by decide, by omega, by simp⟩
  rw [bpfProgram_eq_conj, Bpf.run_conj hk]

/-- **The BPF program accepts the UDP frames from the source.** -/
theorem bpfProgram_run (h1 : 1 ≤ port.toInt) (h2 : port.toInt ≤ 65535) :
    (∃ v, Bpf.run (bpfProgram ip port) frame = some v ∧ v ≠ 0) ↔
      36 ≤ frame.length ∧ FromSource ip port frame ∧ slice frame 23 1 = [17] := by
  rw [run_bpfProgram h1 h2, ← holds_bpfTests h1 h2]
  split
  · rename_i h
    exact iff_of_true ⟨_, rfl, by decide⟩ h
  · rename_i h
    refine iff_of_false ?_ h
    rintro ⟨v, hv, hne⟩
    cases hv
    exact hne rfl

/-- **What the installed program accepts**: for any frame it comes to a `ret` of its own, and the value
returned is not 0 iff the frame reaches to the port and holds the four fields. -/
theorem bpf_accepts_iff (ip : IPAddress) (port : Int32) (h1 : 1 ≤ port.toInt)
    (h2 : port.toInt ≤ 65535) (frame : Bytes) :
    ∃ v, Bpf.run (bpfProgram ip port) frame = some v ∧
      (v ≠ 0 ↔ 36 ≤ frame.length ∧ slice frame 12 2 = [0x08, 0x00] ∧
        slice frame 26 4 = be32 ip.addr ∧ slice frame 23 1 = [17] ∧
        slice frame 34 2 = be16 (.ofInt port.toInt)) := by
  refine ⟨_, run_bpfProgram h1 h2, ?_⟩
  have hall : (∀ t ∈ bpfTests ip port, t.Holds frame) ↔ _ := holds_bpfTests h1 h2
  constructor
  · intro hv
    split at hv
    · rename_i h
      obtain ⟨hl, hs, hu⟩ := hall.1 h
      exact ⟨hl, hs.ethertype, hs.address, hu, hs.port⟩
    · exact absurd rfl hv
  · rintro ⟨hl, he, ha, hu, hp⟩
    rw [if_pos (hall.2 ⟨hl, ⟨he, ha, hp⟩, hu⟩)]
    decide

/-- A range of the buffer that the frame filled. -/
theorem load_recvfrom (r : RawSocketReceiver) {off len : Nat} (h : off + len ≤ 4096)
    (hf : off + len ≤ frame.length) : (r.recvfrom frame).1.buffer.load off len = slice frame off len := by
  simp only [recvfrom]
  rw [Block.load_store_within _ _ (Nat.zero_le _) (by rw [List.length_take]; omega), Nat.sub_zero,
    slice, List.drop_take, List.take_take, Nat.min_eq_left (by omega)]

/-- **What `receive` counts**: IPv4 frames from the source, of any protocol. -/
theorem passes_iff (r : RawSocketReceiver) (hl : 36 ≤ frame.length) :
    ((r.setSource ip port).recvfrom frame).1.passes ((r.setSource ip port).recvfrom frame).2 = true ↔
      FromSource ip port frame ∧ ∃ b, slice frame 14 1 = [b] ∧ b >>> 4 = 4 := by
  have hlen : 34 ≤ ((r.setSource ip port).recvfrom frame).2 := by
    simp only [recvfrom, List.length_take]
    omega
  have hv : slice frame 14 1 =
      [((r.setSource ip port).recvfrom frame).1.buffer.load8 14 (by decide)] := by
    rw [← load_recvfrom (r.setSource ip port) (by decide) (by omega)]
    exact Block.load_one _ _
  simp only [passes, decide_eq_true_eq, Block.load16_eq_iff, Block.load32_eq_iff]
  rw [load_recvfrom _ (by decide) (by omega), load_recvfrom _ (by decide) (by omega),
    load_recvfrom _ (by decide) (by omega), le16_htons, hv]
  simp only [recvfrom, setSource, IPAddress.sAddr, le32_htonl, le16_htons]
  constructor
  · rintro ⟨-, he, hb, ha, hp⟩
    exact ⟨⟨he, ha, hp⟩, _, rfl, hb⟩
  · rintro ⟨⟨he, ha, hp⟩, b, hb, h4⟩
    cases hb
    exact ⟨hlen, he, h4, ha, hp⟩

/-- **Where the filters agree**: on the IPv4 frames that carry UDP or do not come from the source. -/
theorem filters_agree_iff (r : RawSocketReceiver) (h1 : 1 ≤ port.toInt) (h2 : port.toInt ≤ 65535)
    (hl : 54 ≤ frame.length) (h4 : ∃ b, slice frame 14 1 = [b] ∧ b >>> 4 = 4) :
    (((r.setSource ip port).recvfrom frame).1.passes ((r.setSource ip port).recvfrom frame).2 = true ↔
      ∃ v, Bpf.run (bpfProgram ip port) frame = some v ∧ v ≠ 0) ↔
    (slice frame 23 1 = [17] ∨ ¬ FromSource ip port frame) := by
  rw [passes_iff r (by omega), bpfProgram_run h1 h2, and_iff_left h4]
  have hl' : 36 ≤ frame.length := by omega
  constructor
  · intro h
    by_cases hs : FromSource ip port frame
    · exact .inl (h.1 hs).2.2
    · exact .inr hs
  · rintro (hu | hs)
    · exact ⟨fun hs => ⟨hl', hs, hu⟩, fun h => h.2.1⟩
    · exact ⟨fun h => absurd h hs, fun h => absurd h.2.1 hs⟩

end

/-- An IPv4 frame of the given protocol from 10.0.0.1 port 53. -/
def frameFrom (protocol : UInt8) : Bytes :=
  List.replicate 12 0 ++ [0x08, 0x00, 0x45] ++ List.replicate 8 0 ++ [protocol, 0, 0, 10, 0, 0, 1] ++
    List.replicate 4 0 ++ [0, 53] ++ List.replicate 18 0

theorem bpf_accepts_answer : ∃ v, Bpf.run (bpfProgram ⟨0x0a000001⟩ 53) (frameFrom 17) = some v ∧
    v ≠ 0 := by
  obtain ⟨v, hv, hiff⟩ := bpf_accepts_iff ⟨0x0a000001⟩ 53 (by decide) (by decide) (frameFrom 17)
  exact ⟨v, hv, hiff.2 (by decide)⟩

/-- A receiver for 10.0.0.1 port 53. -/
def receiverOf (frame : Bytes) : RawSocketReceiver × Nat :=
  (setSource ⟨⟨0⟩, 0, .zero 4096⟩ ⟨0x0a000001⟩ 53).recvfrom frame

theorem filters_agree_udp : (receiverOf (frameFrom 17)).1.passes (receiverOf (frameFrom 17)).2 = true ↔
    ∃ v, Bpf.run (bpfProgram ⟨0x0a000001⟩ 53) (frameFrom 17) = some v ∧ v ≠ 0 :=
  (filters_agree_iff ⟨⟨0⟩, 0, .zero 4096⟩ (by decide) (by decide) (by decide)
    ⟨0x45, by decide, by decide⟩).2 (.inl (by decide))

theorem filters_disagree_tcp : 54 ≤ (frameFrom 6).length ∧
    (receiverOf (frameFrom 6)).1.passes (receiverOf (frameFrom 6)).2 = true ∧
    ¬ ∃ v, Bpf.run (bpfProgram ⟨0x0a000001⟩ 53) (frameFrom 6) = some v ∧ v ≠ 0 := by
  refine ⟨by decide, by decide +kernel, ?_⟩
  have h : Bpf.run (bpfProgram ⟨0x0a000001⟩ 53) (frameFrom 6) = some 0 := by decide
  rintro ⟨v, hv, hne⟩
  rw [h] at hv
  cases hv
  exact hne rfl

end Dnsmeter.RawSocketReceiver
