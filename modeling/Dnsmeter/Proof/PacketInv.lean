import Dnsmeter.Proof.Checksum
import Dnsmeter.Lib.Run

/-!
# The packet's invariants

* `Shape`: the constant header fields and the two length fields are what the constructor and the
  last new payload put there; kept by every operation (`Shape.call`).
* `Coherent`: the checksum cache. If `chksum_valid` is set, both checksums match the datagram the
  buffer holds. Every operation that changes the buffer clears the flag, except
  `useSourceFromPcap`: called with the flag set it keeps the packet coherent iff the source it
  copies leaves both sums as they are modulo `0xffff` (`coherent_useSourceFromPcap`).
-/

namespace Dnsmeter.Packet

open OnesComp Datagram

/-! ## The header -/

structure Shape (p : Packet) : Prop where
  version_ihl : p.buffer.load 0 1 = [0x45]
  ttl_protocol : p.buffer.load 8 2 = [64, 17]
  ip_len : p.buffer.load 2 2 = be16 (.ofNat (28 + p.payloadSize))
  uh_ulen : p.buffer.load 24 2 = be16 (.ofNat (8 + p.payloadSize))

section
variable {p : Packet}

theorem Shape.new : Packet.new.Shape :=
  ⟨by decide +kernel, by decide +kernel, by decide +kernel, by decide +kernel⟩

/-- An assignment beside the constant fields and the lengths keeps the shape. -/
theorem Shape.of_load {q : Packet} (h : p.Shape) (hs : q.payloadSize = p.payloadSize)
    (hl : ∀ off len, off + len ≤ 4 ∨ off = 8 ∧ len = 2 ∨ off = 24 ∧ len = 2 →
      q.buffer.load off len = p.buffer.load off len) : q.Shape := by
  obtain ⟨h1, h2, h3, h4⟩ := h
  refine ⟨?_, ?_, ?_, ?_⟩
  · rw [hl 0 1 (by omega), h1]
  · rw [hl 8 2 (by omega), h2]
  · rw [hl 2 2 (by omega), h3, hs]
  · rw [hl 24 2 (by omega), h4, hs]

theorem Shape.assign16 (h : p.Shape) {off : Nat} {v : UInt16} {hb : off + 2 ≤ MAXPACKETSIZE}
    (ho : 4 ≤ off ∧ off + 2 ≤ 8 ∨ 10 ≤ off ∧ off + 2 ≤ 24 ∨ 26 ≤ off) :
    (p.assign16 off v hb).Shape :=
  h.of_load rfl fun _ _ _ => Block.load_store16_disjoint _ hb (by omega)

theorem Shape.assign32 (h : p.Shape) {off : Nat} {v : UInt32} {hb : off + 4 ≤ MAXPACKETSIZE}
    (ho : 10 ≤ off ∧ off + 4 ≤ 24) : (p.assign32 off v hb).Shape :=
  h.of_load rfl fun _ _ _ => Block.load_store32_disjoint _ hb (by omega)

/-- A new payload behind the headers sets the lengths. -/
theorem Shape.setLengths (h : p.Shape) {b : Block MAXPACKETSIZE} {size : Nat}
    {hs : HDRSZ + size ≤ MAXPACKETSIZE}
    (hb : ∀ off len, off + len ≤ HDRSZ → b.load off len = p.buffer.load off len) :
    (p.setLengths b size hs).Shape := by
  simp only [HDRSZ, ISZ, USZ] at hb
  refine ⟨?_, ?_, ?_, ?_⟩
  · simp [Packet.setLengths, Packet.assign16, hb, h.version_ihl]
  · simp [Packet.setLengths, Packet.assign16, hb, h.ttl_protocol]
  · simp [Packet.setLengths, Packet.assign16, HDRSZ, ISZ, USZ]
  · simp [Packet.setLengths, Packet.assign16, USZ]

theorem Shape.updateChecksums (h : p.Shape) : p.updateChecksums.Shape :=
  h.of_load rfl fun _ _ _ => p.load_updateChecksums (by omega) (by omega)

theorem Shape.ptr (h : p.Shape) : p.ptr.Shape := by
  unfold Packet.ptr
  split
  · exact h
  · exact h.updateChecksums

/-! ## What the fallible operations do -/

/-- `useSourceFromPcap` copies four and two bytes of the frame and nothing else. -/
theorem useSourceFromPcap_ok {q : Packet} {pkt : Bytes} (h : p.useSourceFromPcap pkt = .ok q) :
    ∃ (a : UInt32) (s : UInt16), slice pkt 26 4 = le32 a ∧ slice pkt 34 2 = le16 s ∧
      q = { p with buffer := (p.buffer.store32 12 a (by decide)).store16 20 s (by decide) } := by
  unfold useSourceFromPcap at h
  split at h
  · rename_i a0 a1 a2 a3 s0 s1 ha hs
    cases h
    exact ⟨ofLe32 a0 a1 a2 a3, ofLe16 s0 s1, by rw [le32_ofLe32]; exact ha,
      by rw [le16_ofLe16]; exact hs, rfl⟩
  · cases h

theorem Shape.useSourceFromPcap {q : Packet} {pkt : Bytes} (h : p.Shape)
    (hc : p.useSourceFromPcap pkt = .ok q) : q.Shape := by
  obtain ⟨a, s, -, -, rfl⟩ := useSourceFromPcap_ok hc
  refine h.of_load rfl ?_
  intro off len ho
  rw [Block.load_store16_disjoint _ _ (by omega), Block.load_store32_disjoint _ _ (by omega)]

theorem setPayload_ok {q : Packet} {payload : Bytes} {size : UInt64}
    (h : p.setPayload payload size = .ok q) :
    ∃ (hl : size.toNat ≤ payload.length) (hs : HDRSZ + size.toNat ≤ MAXPACKETSIZE),
      q = p.setLengths (p.buffer.store HDRSZ (payload.take size.toNat)
        (by rw [List.length_take]; omega)) size.toNat hs := by
  unfold setPayload at h
  split at h
  · cases h
  · split at h
    · rename_i hc
      cases h
      exact ⟨hc.1, hc.2, rfl⟩
    · cases h

end

theorem memcpy_ok {n : Nat} {b c : Block n} {off : Nat} {src : Bytes}
    (h : memcpy b off src = .ok c) : ∃ hb : off + src.length ≤ n, c = b.store off src hb := by
  unfold memcpy at h
  split at h
  · rename_i hb
    cases h
    exact ⟨hb, rfl⟩
  · cases h

/-- `c` agrees with `b` below `base`. -/
def SameBelow {n : Nat} (base : Nat) (b c : Block n) : Prop :=
  ∀ off len, off + len ≤ base → c.load off len = b.load off len

theorem SameBelow.memcpy {n base off : Nat} {a b c : Block n} {src : Bytes}
    (hs : SameBelow base a b) (h : Dnsmeter.memcpy b off src = .ok c) (ho : base ≤ off) :
    SameBelow base a c := by
  obtain ⟨hb, rfl⟩ := memcpy_ok h
  intro o len hl
  rw [Block.load_store_disjoint _ _ (.inl (by omega)), hs o len hl]

theorem addDnssecToQuery_below {n base querysize size : Nat} {udp : Int32} {a b c : Block n}
    (hs : SameBelow base a b) (h : addDnssecToQuery b base querysize udp = .ok (c, size)) :
    SameBelow base a c := by
  unfold addDnssecToQuery at h
  simp only [bind, Except.bind] at h
  split at h
  · cases h
  split at h
  · cases h
  rename_i b1 h1
  split at h
  · cases h
  rename_i b2 h2
  split at h
  · cases h
  rename_i b3 h3
  simp only [pure, Except.pure, Except.ok.injEq, Prod.mk.injEq] at h
  obtain ⟨rfl, -⟩ := h
  exact ((hs.memcpy h1 (by omega)).memcpy h2 (by omega)).memcpy h3 (by omega)

theorem makeQuery_below {n : Nat} (res : ResMkquery) (query : Bytes) (b : Block n)
    (base buffersize : Nat) (dnssec : Bool) (udp : Int32) :
    SameBelow base b (makeQuery res query b base buffersize dnssec udp).1 := by
  have hrefl : SameBelow base b b := fun _ _ _ => rfl
  unfold makeQuery
  split
  · split
    · dsimp only
      split
      · exact hrefl
      · rename_i b1 h1
        have hb1 : SameBelow base b b1 := hrefl.memcpy h1 (Nat.le_refl _)
        split
        · exact hb1
        split
        · exact hb1
        split
        · rename_i h2
          exact addDnssecToQuery_below hb1 h2
        · exact hb1
    · exact hrefl
  · exact hrefl

theorem setPayloadDNSQuery_ok {p q : Packet} {res : ResMkquery} {query : Bytes} {dnssec : Bool}
    (h : p.call res (.setPayloadDNSQuery query dnssec) = .ok q) :
    ∃ b size, ∃ hs : HDRSZ + size ≤ MAXPACKETSIZE, SameBelow HDRSZ p.buffer b ∧
      q = p.setLengths b size hs := by
  simp only [call, setPayloadDNSQuery] at h
  have hb := makeQuery_below res query p.buffer HDRSZ MAXPACKETSIZE_minus_HDRSZ dnssec 4096
  split at h
  · rename_i buffer size hr
    rw [hr] at hb
    split at h
    · rename_i hs
      cases h
      exact ⟨buffer, size, hs, hb, rfl⟩
    · cases h
  · cases h

/-- **Every operation keeps the shape.** -/
theorem Shape.call {res : ResMkquery} {p q : Packet} {op : Op} (h : p.Shape)
    (hc : p.call res op = .ok q) : q.Shape := by
  cases op with
  | setSource ip port => cases hc; exact (h.assign32 (by decide)).assign16 (by decide)
  | setDestination ip port => cases hc; exact (h.assign32 (by decide)).assign16 (by decide)
  | setPayload payload size =>
    obtain ⟨hl, hs, rfl⟩ := setPayload_ok hc
    exact h.setLengths fun _ _ ho => Block.load_store_disjoint _ _ (.inl ho)
  | setPayloadDNSQuery query dnssec =>
    obtain ⟨b, size, hs, hb, rfl⟩ := setPayloadDNSQuery_ok hc
    exact h.setLengths hb
  | setDnsId id => cases hc; exact h.assign16 (by decide)
  | setIpId id => cases hc; exact h.assign16 (by decide)
  | randomSourceIPNet net r => cases hc; exact h.assign32 (by decide)
  | randomSourceIP start size r => cases hc; exact h.assign32 (by decide)
  | randomSourcePort r => cases hc; exact h.assign16 (by decide)
  | useSourceFromPcap pkt => exact h.useSourceFromPcap hc
  | ptr => cases hc; exact h.ptr

/-! ## The checksum cache -/

/-- The datagram a buffer holds, delimited by its own `ip_len`. -/
def bufferDatagram (b : Block MAXPACKETSIZE) : Bytes :=
  match b.load 2 2 with
  | [hi, lo] => b.load 0 (ofBe16 hi lo).toNat
  | _ => []

def Coherent (p : Packet) : Prop :=
  p.chksumValid = true → ChecksumsOk (bufferDatagram p.buffer)

theorem Shape.bufferDatagram {p : Packet} (h : p.Shape) :
    bufferDatagram p.buffer = p.datagram := by
  have hfit := p.payload_fits
  simp only [HDRSZ, ISZ, USZ, MAXPACKETSIZE] at hfit
  unfold Packet.bufferDatagram
  rw [h.ip_len]
  show p.buffer.load 0 (ofBe16 _ _).toNat = _
  rw [ofBe16_be16, UInt16.toNat_ofNat', Nat.mod_eq_of_lt (by omega)]
  rfl

/-! The two host-order sums, with the words of the source address and port apart. -/

theorem leSum_ip (b : Block MAXPACKETSIZE) :
    leSum (b.load 0 20) = leSum (b.load 12 4) + (leSum (b.load 0 12) + leSum (b.load 16 4)) := by
  rw [b.load_append 0 16 4, b.load_append 0 12 4,
    leSum_append _ _ (by rw [List.length_append, Block.length_load (by decide),
      Block.length_load (by decide)]),
    leSum_append _ _ (by rw [Block.length_load (by decide)])]
  simp only [Nat.zero_add]
  omega

theorem leSum_udp (p : Packet) :
    leSum (pseudoHeader p.datagram ++ p.datagram.drop 20) =
      leSum (p.buffer.load 12 4) + leSum (p.buffer.load 20 2) +
        (leSum (p.buffer.load 16 4) + leSum (0 :: p.buffer.load 9 1) +
          leSum (p.buffer.load 24 2) + leSum (p.buffer.load 22 6 ++ p.buffer.load 28 p.payloadSize)) := by
  have hl : p.size - 20 = 2 + (6 + p.payloadSize) := by
    simp only [size, HDRSZ, ISZ, USZ]; omega
  have hlen : ∀ off len, off + len ≤ 28 → (p.buffer.load off len).length = len :=
    fun _ _ h => Block.length_load (by unfold MAXPACKETSIZE; omega)
  rw [pseudoHeader, p.drop_datagram, hl, Block.load_append, Block.load_append,
    p.slice_datagram (by omega), p.slice_datagram (by omega), p.slice_datagram (by omega),
    p.slice_datagram (by omega)]
  simp only [Nat.reduceAdd]
  rw [List.append_assoc _ [0], List.singleton_append, leSum_append _ _ (by simp [hlen]),
    leSum_append _ _ (by simp [hlen]), leSum_append _ _ (by simp [hlen]),
    leSum_append _ _ (by simp [hlen]), leSum_append (p.buffer.load 20 2) _ (by simp [hlen])]
  omega

/-- The first byte of the header and the protocol keep the sums positive. -/
theorem Shape.leSum_pos {p : Packet} (h : p.Shape) :
    0 < leSum (p.buffer.load 0 12) ∧ 0 < leSum (0 :: p.buffer.load 9 1) := by
  constructor
  · obtain ⟨b, hb⟩ : ∃ b, p.buffer.load 1 1 = [b] := ⟨_, p.buffer.load_one (by decide)⟩
    rw [p.buffer.load_append 0 1 11, p.buffer.load_append (0 + 1) 1 10, h.version_ihl, hb]
    simp only [leSum, List.cons_append, List.nil_append, leWords, List.sum_cons]
    have : (0x45 : UInt8).toNat = 69 := rfl
    omega
  · have h2 := h.ttl_protocol
    rw [p.buffer.load_append 8 1 1] at h2
    obtain ⟨b, hb⟩ : ∃ b, p.buffer.load 8 1 = [b] := ⟨_, p.buffer.load_one (by decide)⟩
    rw [hb] at h2
    simp only [List.cons_append, List.nil_append, List.cons.injEq, Nat.reduceAdd] at h2
    rw [h2.2]
    decide

/-- The source `useSourceFromPcap` copies adds the same to both sums as the one in the packet. -/
def SameSums (p : Packet) (pkt : Bytes) : Prop :=
  leSum (slice pkt 26 4) ≡ leSum (p.buffer.load 12 4) [MOD 65535] ∧
    leSum (slice pkt 34 2) ≡ leSum (p.buffer.load 20 2) [MOD 65535]

theorem checksumsOk_iff {p : Packet} (h : p.Shape) : ChecksumsOk p.datagram ↔
    65535 ∣ leSum (p.buffer.load 0 20) ∧
      65535 ∣ leSum (pseudoHeader p.datagram ++ p.datagram.drop 20) := by
  obtain ⟨h1, h2⟩ := h.leSum_pos
  have hi := leSum_ip p.buffer
  have hu := p.leSum_udp
  constructor
  · rintro ⟨hip, hudp⟩
    rw [take_datagram] at hip
    exact ⟨((verifies_iff_leSum _).1 hip).2, ((verifies_iff_leSum _).1 hudp).2⟩
  · rintro ⟨hip, hudp⟩
    refine ⟨?_, (verifies_iff_leSum _).2 ⟨by omega, hudp⟩⟩
    rw [take_datagram]
    exact (verifies_iff_leSum _).2 ⟨by omega, hip⟩

/-- **With current checksums, `useSourceFromPcap` keeps the cache right iff it leaves both sums as
they are.** -/
theorem checksumsOk_useSourceFromPcap {p q : Packet} {pkt : Bytes} (h : p.Shape)
    (hok : ChecksumsOk p.datagram) (hc : p.useSourceFromPcap pkt = .ok q) :
    ChecksumsOk q.datagram ↔ p.SameSums pkt := by
  have hq : q.Shape := h.useSourceFromPcap hc
  rw [checksumsOk_iff h, leSum_ip, leSum_udp] at hok
  rw [checksumsOk_iff hq, leSum_ip, leSum_udp]
  obtain ⟨a, s, ha, hs, rfl⟩ := useSourceFromPcap_ok hc
  simp (disch := omega) only [Block.load_store16_disjoint, Block.load_store32_disjoint,
    Block.load_store16_self, Block.load_store32_self, SameSums, ha, hs]
  unfold Nat.ModEq
  omega

/-- The condition on a call: `useSourceFromPcap` meets no current checksums that it spoils. -/
def StepOk (p : Packet) : Op → Prop
  | .useSourceFromPcap pkt => p.chksumValid = true → p.SameSums pkt
  | _ => True

theorem Shape.coherent_ptr {p : Packet} (h : p.Shape) (hI : p.Coherent) :
    ChecksumsOk (Packet.bufferDatagram p.ptr.buffer) := by
  rw [h.ptr.bufferDatagram]
  unfold Packet.ptr
  split
  · rename_i hv
    rw [← h.bufferDatagram]
    exact hI hv
  · exact p.updateChecksums_ok

/-- A call leads from a coherent packet to a coherent one iff it meets the condition. -/
theorem coherent_call {res : ResMkquery} {p q : Packet} {op : Op} (h : p.Shape) (hI : p.Coherent)
    (hc : p.call res op = .ok q) : q.Coherent ↔ p.StepOk op := by
  have invalid : ∀ {r : Packet}, r.chksumValid = false → r.Coherent :=
    fun hr hv => absurd (hr.symm.trans hv) (by decide)
  cases op with
  | setPayload payload size =>
    obtain ⟨hl, hs, rfl⟩ := setPayload_ok hc
    exact iff_of_true (invalid rfl) trivial
  | setPayloadDNSQuery query dnssec =>
    obtain ⟨b, size, hs, hb, rfl⟩ := setPayloadDNSQuery_ok hc
    exact iff_of_true (invalid rfl) trivial
  | useSourceFromPcap pkt =>
    have hq : q.Shape := h.call hc
    have hv : q.chksumValid = p.chksumValid := by
      obtain ⟨a, s, -, -, rfl⟩ := useSourceFromPcap_ok hc
      rfl
    unfold Coherent StepOk
    rw [hv, hq.bufferDatagram]
    apply forall_congr'
    intro hpv
    exact checksumsOk_useSourceFromPcap h (by rw [← h.bufferDatagram]; exact hI hpv) hc
  | ptr =>
    cases hc
    exact iff_of_true (fun _ => h.coherent_ptr hI) trivial
  | _ =>
    cases hc
    exact iff_of_true (invalid rfl) trivial

/-- **The checksum cache over whole runs**: from a fresh packet, `chksum_valid` implies right
checksums in every state exactly when every call meets its condition; then every `ptr()` returns a
buffer with right checksums. -/
theorem coherent_run {res : ResMkquery} {ops : List Op} {t : Packet}
    (he : Run.exec (call res) Packet.new ops = .ok t) :
    (Run.AllStates (call res) Coherent Packet.new ops ↔
      Run.AllSteps (call res) StepOk Packet.new ops) ∧
    (Run.AllSteps (call res) StepOk Packet.new ops → ∀ pre post u, ops = pre ++ .ptr :: post →
      Run.exec (call res) Packet.new pre = .ok u → ChecksumsOk (bufferDatagram u.ptr.buffer)) := by
  have hJ : ∀ p op q, p.Shape → call res p op = .ok q → q.Shape := fun _ _ _ h hc => h.call hc
  have hI : ∀ p op q, p.Shape → p.Coherent → call res p op = .ok q →
      (q.Coherent ↔ p.StepOk op) := fun _ _ _ h hI hc => coherent_call h hI hc
  have h0 : Packet.new.Coherent := fun hv => absurd hv (by decide)
  have hiff := Run.allStates_iff_allSteps hJ hI Shape.new h0 he
  refine ⟨hiff, ?_⟩
  intro hs pre post u hops hu
  exact (Run.exec_inv hJ Shape.new hu).coherent_ptr (hiff.2 hs pre _ u hops hu)

/-- A captured frame from 10.0.0.1 port 4660. -/
def staleFrame : Bytes := List.replicate 26 0 ++ [10, 0, 0, 1] ++ List.replicate 4 0 ++ [18, 52]

def noResolver : ResMkquery := fun _ _ _ => ⟨-1, [], []⟩

theorem coherent_run_before_ptr : ChecksumsOk (bufferDatagram
    ((Packet.new.setSource ⟨167772161⟩ 4660).ptr.buffer)) := by
  have he : Run.exec (call noResolver) Packet.new [.setSource ⟨167772161⟩ 4660, .ptr] =
    .ok (Packet.new.setSource ⟨167772161⟩ 4660).ptr := rfl
  refine (coherent_run he).2 (?_) [.setSource ⟨167772161⟩ 4660] [] _ rfl rfl
  intro pre op post t h _
  have hm : op ∈ [Op.setSource ⟨167772161⟩ 4660, .ptr] := by rw [h]; simp
  rcases List.mem_cons.1 hm with rfl | hm
  · trivial
  · cases List.mem_singleton.1 hm
    trivial

theorem ptr_stale_after_useSourceFromPcap : ∃ p, Run.exec (call noResolver) Packet.new
    [.ptr, .useSourceFromPcap staleFrame] = .ok p ∧ p.chksumValid = true ∧
      ¬ ChecksumsOk (bufferDatagram p.ptr.buffer) :=
  ⟨_, rfl, by decide +kernel, by decide +kernel⟩

end Dnsmeter.Packet
