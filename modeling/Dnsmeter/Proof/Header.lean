import Dnsmeter.Proof.PacketInv

/-!
# The packet's header over a call of `sendPacket`

* `isUdp_ptr`: what `ptr` returns for a packet whose checksums are not current is the datagram its
  header fields say.
* `SameHeader`: what an operation that `sendPacket` uses leaves in the header.
* `setPayload_of_le`, `useSourceFromPcap_of_le`, `load_setDnsId`: what they accept and write.
-/

namespace Dnsmeter.Packet

open Datagram

variable {p q : Packet}

/-- **The datagram of a packet**, once its checksums are computed. -/
theorem isUdp_ptr {src dst : UInt32} {sport dport : UInt16} (h : p.Shape)
    (hv : p.chksumValid = false) (hsrc : p.buffer.load 12 4 = be32 src)
    (hdst : p.buffer.load 16 4 = be32 dst) (hsport : p.buffer.load 20 2 = be16 sport)
    (hdport : p.buffer.load 22 2 = be16 dport) :
    IsUdp src sport dst dport 64 (p.buffer.load 28 p.payloadSize) p.ptr.datagram := by
  have hfit := p.payload_fits
  simp only [HDRSZ, ISZ, USZ, MAXPACKETSIZE] at hfit
  have hlen : (p.buffer.load 28 p.payloadSize).length = p.payloadSize :=
    Block.length_load (by unfold MAXPACKETSIZE; omega)
  have hptr : p.ptr = p.updateChecksums := by rw [ptr, hv]; rfl
  have hfield : ∀ off len, off + len ≤ 10 ∨ 12 ≤ off → off + len ≤ 26 →
      slice p.updateChecksums.datagram off len = p.buffer.load off len := by
    intro off len h1 h2
    rw [slice_datagram _ (by omega), p.load_updateChecksums h1 (.inl h2)]
  have htp := h.ttl_protocol
  rw [p.buffer.load_append 8 1 1, p.buffer.load_one (by decide),
    p.buffer.load_one (by decide)] at htp
  simp only [List.cons_append, List.nil_append, List.cons.injEq, and_true] at htp
  rw [hptr]
  constructor
  case length =>
    rw [hlen]
    exact Block.length_load (by rw [Nat.zero_add]; exact payload_fits _)
  case version_ihl => rw [hfield 0 1 (by omega) (by omega), h.version_ihl]
  case ip_len => rw [hfield 2 2 (by omega) (by omega), h.ip_len, hlen]
  case ip_len_fits => rw [hlen]; omega
  case ttl =>
    rw [hfield 8 1 (by omega) (by omega), p.buffer.load_one (by decide), htp.1]
  case protocol =>
    rw [hfield 9 1 (by omega) (by omega), p.buffer.load_one (by decide), htp.2]
  case src => rw [hfield 12 4 (by omega) (by omega), hsrc]
  case dst => rw [hfield 16 4 (by omega) (by omega), hdst]
  case sport => rw [hfield 20 2 (by omega) (by omega), hsport]
  case dport => rw [hfield 22 2 (by omega) (by omega), hdport]
  case uh_ulen => rw [hfield 24 2 (by omega) (by omega), h.uh_ulen, hlen]
  case payload =>
    rw [drop_datagram, p.load_updateChecksums (.inr (by omega)) (.inr (by omega))]
    congr 1
    simp only [size, HDRSZ, ISZ, USZ, payloadSize_updateChecksums]
    omega
  case checksums => exact p.updateChecksums_ok

/-- Outside of the two checksums `ptr` leaves the buffer alone. -/
theorem load_ptr (p : Packet) {off len : Nat} (h1 : off + len ≤ 10 ∨ 12 ≤ off)
    (h2 : off + len ≤ 26 ∨ 28 ≤ off) : p.ptr.buffer.load off len = p.buffer.load off len := by
  unfold ptr
  split
  · rfl
  · exact p.load_updateChecksums h1 h2

theorem size_ptr (p : Packet) : p.ptr.size = p.size := by
  unfold ptr
  split <;> rfl

/-- `q` has the header of `p` but for the lengths, the checksums and the source port; if `own` is
set it has its source address too. -/
structure SameHeader (own : Bool) (p q : Packet) : Prop where
  shape : p.Shape → q.Shape
  dst : q.buffer.load 16 4 = p.buffer.load 16 4
  dport : q.buffer.load 22 2 = p.buffer.load 22 2
  src : own = true → q.buffer.load 12 4 = p.buffer.load 12 4

namespace SameHeader

variable {own : Bool}

theorem refl (own : Bool) (p : Packet) : SameHeader own p p := ⟨id, rfl, rfl, fun _ => rfl⟩

theorem trans {r : Packet} (h : SameHeader own p q) (g : SameHeader own q r) : SameHeader own p r :=
  ⟨fun hp => g.shape (h.shape hp), g.dst.trans h.dst, g.dport.trans h.dport,
    fun ho => (g.src ho).trans (h.src ho)⟩

theorem assign16 {off : Nat} {v : UInt16} {hb : off + 2 ≤ MAXPACKETSIZE}
    (ho : off = 20 ∨ 28 ≤ off) : SameHeader own p (p.assign16 off v hb) :=
  ⟨fun h => h.assign16 (by omega), Block.load_store16_disjoint _ hb (by omega),
    Block.load_store16_disjoint _ hb (by omega),
    fun _ => Block.load_store16_disjoint _ hb (by omega)⟩

/-- A new source address. -/
theorem assign32 {v : UInt32} {hb : 12 + 4 ≤ MAXPACKETSIZE} :
    SameHeader false p (p.assign32 12 v hb) :=
  ⟨fun h => h.assign32 (by omega), Block.load_store32_disjoint _ hb (by omega),
    Block.load_store32_disjoint _ hb (by omega), fun ho => by cases ho⟩

theorem setPayload {payload : Bytes} {size : UInt64} (h : p.setPayload payload size = .ok q) :
    SameHeader own p q := by
  obtain ⟨hl, hs, rfl⟩ := setPayload_ok h
  have hload : ∀ off len, 4 ≤ off → off + len ≤ 24 →
      (p.setLengths (p.buffer.store HDRSZ (payload.take size.toNat)
        (by rw [List.length_take]; omega)) size.toNat hs).buffer.load off len =
      p.buffer.load off len := by
    intro off len h1 h2
    simp only [setLengths, Packet.assign16]
    rw [Block.load_store16_disjoint _ _ (by omega), Block.load_store16_disjoint _ _ (by omega)]
    exact Block.load_store_disjoint _ _ (.inl (by simp only [HDRSZ, ISZ, USZ]; omega))
  exact ⟨fun h => h.setLengths fun _ _ ho => Block.load_store_disjoint _ _ (.inl ho),
    hload 16 4 (by omega) (by omega), hload 22 2 (by omega) (by omega),
    fun _ => hload 12 4 (by omega) (by omega)⟩

theorem useSourceFromPcap {pkt : Bytes} (h : p.useSourceFromPcap pkt = .ok q) :
    SameHeader false p q := by
  refine ⟨fun hs => hs.useSourceFromPcap h, ?_, ?_, fun ho => by cases ho⟩
  all_goals
    obtain ⟨a, s, -, -, rfl⟩ := useSourceFromPcap_ok h
    rw [Block.load_store16_disjoint _ _ (by omega), Block.load_store32_disjoint _ _ (by omega)]

theorem ptr : SameHeader own p p.ptr :=
  ⟨Shape.ptr, p.load_ptr (by omega) (by omega), p.load_ptr (by omega) (by omega),
    fun _ => p.load_ptr (by omega) (by omega)⟩

end SameHeader

/-- A frame that reaches behind its UDP ports is accepted. -/
theorem useSourceFromPcap_of_le (p : Packet) {pkt : Bytes} (h : 36 ≤ pkt.length) :
    ∃ q, p.useSourceFromPcap pkt = .ok q := by
  have h4 : ((pkt.drop 26).take 4).length = 4 := by
    rw [List.length_take, List.length_drop]
    omega
  have h2 : ((pkt.drop 34).take 2).length = 2 := by
    rw [List.length_take, List.length_drop]
    omega
  unfold useSourceFromPcap
  obtain ⟨s0, s1, hs⟩ := List.length_eq_two.1 h2
  rw [hs]
  match (pkt.drop 26).take 4, h4 with
  | [a0, a1, a2, a3], _ => exact ⟨_, rfl⟩

/-- A payload that fits is accepted. -/
theorem setPayload_of_le (p : Packet) (payload : Bytes) (size : UInt64)
    (hl : size.toNat ≤ payload.length) (hs : HDRSZ + size.toNat ≤ MAXPACKETSIZE) :
    ∃ q, p.setPayload payload size = .ok q ∧ q.payloadSize = size.toNat ∧ q.chksumValid = false ∧
      q.buffer.load 28 size.toNat = payload.take size.toNat := by
  have hguard : ¬ size + .ofNat HDRSZ > .ofNat MAXPACKETSIZE := by
    have hadd : (size + .ofNat HDRSZ).toNat = size.toNat + 28 := by
      rw [UInt64.toNat_add, show (UInt64.ofNat HDRSZ).toNat = 28 from rfl, Nat.mod_eq_of_lt]
      simp only [HDRSZ, ISZ, USZ, MAXPACKETSIZE] at hs
      omega
    rw [gt_iff_lt, UInt64.lt_iff_toNat_lt, hadd,
      show (UInt64.ofNat MAXPACKETSIZE).toNat = 4096 from rfl]
    simp only [HDRSZ, ISZ, USZ, MAXPACKETSIZE] at hs
    omega
  refine ⟨_, by rw [setPayload, if_neg hguard, dif_pos ⟨hl, hs⟩], rfl, rfl, ?_⟩
  simp only [setLengths, Packet.assign16]
  rw [Block.load_store16_disjoint _ _ (by omega), Block.load_store16_disjoint _ _ (by omega)]
  exact Block.load_store_self _ _ (by rw [List.length_take]; omega)

/-- The id over the first two bytes of the payload. -/
theorem load_setDnsId {p : Packet} (id : UInt16) (h : 2 ≤ p.payloadSize) :
    (p.setDnsId id).buffer.load 28 p.payloadSize =
      be16 id ++ (p.buffer.load 28 p.payloadSize).drop 2 := by
  obtain ⟨k, hk⟩ : ∃ k, p.payloadSize = 0 + 2 + k := ⟨p.payloadSize - 2, by omega⟩
  have hdrop : (p.buffer.load 28 (0 + 2 + k)).drop 2 = p.buffer.load 30 k := by
    simp only [Block.load, List.drop_take, List.drop_drop]
    congr 1
    omega
  rw [hk, hdrop, ← le16_htons]
  exact p.buffer.load_store16_mid (by decide) 28 0 k rfl

end Dnsmeter.Packet
