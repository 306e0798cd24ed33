import Dnsmeter.Packet
import Dnsmeter.Lib.Datagram

/-!
# The packet's checksums

`updateChecksums_ok`: after `updateChecksums` the datagram in the buffer passes both of the
receiver's tests (`Datagram.ChecksumsOk`), whatever the packet held before. `in_cksum` sums the
words as the host loads them (`inCksum_eq`); its complement, stored back in host order over the
zeroed field, makes the string verify in network order (`OnesComp.verifies_patch`).
-/

namespace Dnsmeter

open OnesComp Datagram

theorem inCksumLoop_eq : ∀ (w : Bytes) (sum : Nat), inCksumLoop w sum = sum + leSum w
  | [], sum => by simp [inCksumLoop, leSum, leWords]
  | [b], sum => by simp [inCksumLoop, leSum, leWords]
  | lo :: hi :: w, sum => by
    rw [inCksumLoop, inCksumLoop_eq w]
    simp only [leSum, leWords, List.sum_cons]
    omega

/-- `in_cksum` is the complement of the host-order sum with its carries folded. -/
theorem inCksum_eq (w : Bytes) : inCksum w = complement (leSum w) := by
  simp only [inCksum, inCksumLoop_eq, Nat.zero_add, complement, fold]

theorem leSum_padded (w : Bytes) (k : Nat) (h : k = w.length % 2) :
    leSum (w ++ List.replicate k 0) = leSum w := by
  rcases Nat.mod_two_eq_zero_or_one w.length with h0 | h1
  · rw [h, h0, List.replicate_zero, List.append_nil]
  · rw [h, h1]
    exact leSum_pad w h1

namespace Packet

/-- The datagram in the buffer: `ptr()[0 .. size())`. -/
def datagram (p : Packet) : Bytes := p.buffer.load 0 p.size

theorem slice_datagram (p : Packet) {off len : Nat} (h : off + len ≤ 28) :
    slice p.datagram off len = p.buffer.load off len := by
  rw [datagram, slice_load _ _ (by simp only [size, HDRSZ, ISZ, USZ]; omega), Nat.zero_add]

theorem take_datagram (p : Packet) : p.datagram.take 20 = p.buffer.load 0 20 := by
  rw [← p.slice_datagram (by decide : 0 + 20 ≤ 28), slice, List.drop_zero]

theorem drop_datagram (p : Packet) (off : Nat) :
    p.datagram.drop off = p.buffer.load off (p.size - off) := by
  simp only [datagram, Block.load, List.drop_zero, List.drop_take]

/-- The bytes the UDP checksum covers, around the field `uh_sum`. -/
theorem pseudo_datagram (p : Packet) :
    pseudoHeader p.datagram ++ p.datagram.drop 20 =
      udpCbuf (p.buffer.load 0 20) (p.buffer.load 20 8) (p.buffer.load 28 p.payloadSize) := by
  have hl : p.size - 20 = 8 + p.payloadSize := by simp only [size, HDRSZ, ISZ, USZ]; omega
  show _ = slice _ 12 4 ++ slice _ 16 4 ++ [0] ++ slice _ 9 1 ++ slice _ 4 2 ++ _ ++ _
  rw [pseudoHeader, p.drop_datagram, hl, Block.load_append, p.slice_datagram (by omega),
    p.slice_datagram (by omega), p.slice_datagram (by omega), p.slice_datagram (by omega),
    slice_load _ _ (by omega), slice_load _ _ (by omega), slice_load _ _ (by omega),
    slice_load _ _ (by omega)]
  simp only [Nat.zero_add, Nat.reduceAdd, List.append_assoc]

/-! ## `updateChecksums` -/

/-- The IP header with its checksum stored over a zeroed field. -/
theorem verifies_ip (b : Block MAXPACKETSIZE) (h : 10 + 2 ≤ MAXPACKETSIZE) :
    Verifies ((b.store16 10 (inCksum ((b.store16 10 0 h).load 0 20)) h).load 0 20) := by
  have hmid : ∀ v : UInt16,
      (b.store16 10 v h).load 0 20 = b.load 0 10 ++ le16 v ++ b.load 12 8 :=
    fun v => b.load_store16_mid h 0 10 8 rfl
  have hlt := leSum_le ((b.store16 10 0 h).load 0 20)
  rw [Block.length_load (by decide)] at hlt
  rw [hmid] at hlt ⊢
  rw [hmid, inCksum_eq]
  exact verifies_patch (by rw [Block.length_load (by decide)]) (by omega)

/-- `udpCbuf` around the field `uh_sum` of the UDP header. -/
theorem udpCbuf_eq (ip udp6 payload : Bytes) (v : UInt16) (h : udp6.length = 6) :
    udpCbuf ip (udp6 ++ le16 v) payload =
      (slice ip 12 4 ++ slice ip 16 4 ++ [0] ++ slice ip 9 1 ++ slice udp6 4 2 ++ udp6) ++ le16 v ++
        payload := by
  have h4 : ((udp6 ++ le16 v).drop 4).take 2 = (udp6.drop 4).take 2 := by
    rw [List.drop_append_of_le_length (by omega), List.take_append_of_le_length (by simp; omega)]
  simp only [udpCbuf, slice, h4, List.append_assoc]

/-- The pseudo header, UDP header and payload with the checksum stored over a zeroed field. -/
theorem verifies_udp (ip udp6 payload : Bytes) (hi : ip.length = 20) (hu : udp6.length = 6)
    (hp : payload.length ≤ 65535) :
    Verifies (udpCbuf ip (udp6 ++ le16 (udpCksum ip (udp6 ++ le16 0) payload)) payload) := by
  have hlen : (slice ip 12 4 ++ slice ip 16 4 ++ [0] ++ slice ip 9 1 ++ slice udp6 4 2 ++
      udp6).length = 18 := by
    simp only [slice, List.length_append, List.length_take, List.length_drop, hi, hu,
      List.length_singleton]
    omega
  have hlt := leSum_le (udpCbuf ip (udp6 ++ le16 0) payload)
  rw [udpCksum, inCksum_eq, leSum_padded _ _ (by
    rw [udpCbuf_eq _ _ _ _ hu, List.length_append, List.length_append, hlen, length_le16]; omega)]
  rw [udpCbuf_eq _ _ _ _ hu] at hlt ⊢
  rw [udpCbuf_eq _ _ _ _ hu]
  rw [List.length_append, List.length_append, hlen, length_le16] at hlt
  exact verifies_patch (by rw [hlen]) (by omega)

section
variable (p : Packet)

@[simp] theorem payloadSize_updateChecksums : p.updateChecksums.payloadSize = p.payloadSize := rfl
@[simp] theorem chksumValid_updateChecksums : p.updateChecksums.chksumValid = true := rfl

/-- `updateChecksums` writes the two checksum fields only. -/
theorem load_updateChecksums {off len : Nat} (h1 : off + len ≤ 10 ∨ 12 ≤ off)
    (h2 : off + len ≤ 26 ∨ 28 ≤ off) :
    p.updateChecksums.buffer.load off len = p.buffer.load off len := by
  simp [updateChecksums, h1, h2]

/-- **`updateChecksums` makes both checksums right.** -/
theorem updateChecksums_ok : ChecksumsOk p.updateChecksums.datagram := by
  have hfit := p.payload_fits
  simp only [HDRSZ, ISZ, USZ, MAXPACKETSIZE] at hfit
  constructor
  · rw [take_datagram]
    have := verifies_ip p.buffer (by decide)
    simpa [updateChecksums, ISZ] using this
  · rw [pseudo_datagram, payloadSize_updateChecksums]
    have hudp : ∀ (b : Block MAXPACKETSIZE) (v : UInt16) (h : 26 + 2 ≤ MAXPACKETSIZE),
        (b.store16 26 v h).load 20 8 = b.load 20 6 ++ le16 v := by
      intro b v h
      rw [b.load_store16_mid h 20 6 0 rfl, Block.load_len_zero, List.append_nil]
    have := verifies_udp (p.updateChecksums.buffer.load 0 20) (p.buffer.load 20 6)
      (p.buffer.load 28 p.payloadSize) (Block.length_load (by decide))
      (Block.length_load (by decide)) (by rw [Block.length_load (by unfold MAXPACKETSIZE; omega)]; omega)
    simpa [updateChecksums, hudp, ISZ, USZ, HDRSZ] using this

/-! ## The value that means no checksum -/

/-- What the UDP checksum covers: the pseudo header, the UDP header with a zero in the checksum's
place, and the payload. -/
def udpCovered : Bytes :=
  pseudoHeader p.datagram ++ (slice p.datagram 20 6 ++ [0, 0]) ++ p.datagram.drop 28

theorem udpCovered_eq : p.udpCovered = udpCbuf (p.buffer.load 0 20) (p.buffer.load 20 6 ++ le16 0)
    (p.buffer.load 28 p.payloadSize) := by
  have hl : p.size - 28 = p.payloadSize := by simp only [size, HDRSZ, ISZ, USZ]; omega
  rw [udpCovered, pseudoHeader, udpCbuf_eq _ _ _ _ (Block.length_load (by decide)), p.drop_datagram,
    hl, p.slice_datagram (by omega), p.slice_datagram (by omega), p.slice_datagram (by omega),
    p.slice_datagram (by omega), p.slice_datagram (by omega), slice_load _ _ (by omega),
    slice_load _ _ (by omega), slice_load _ _ (by omega), slice_load _ _ (by omega)]
  simp only [Nat.zero_add, Nat.reduceAdd, List.append_assoc]
  rfl

/-- The checksum does not cover the first bytes of the IP header, which hold the IP checksum. -/
theorem udpCbuf_store16 (v : UInt16) (h : 10 + 2 ≤ MAXPACKETSIZE) (udp6 payload : Bytes)
    (hu : udp6.length = 6) :
    udpCbuf ((p.buffer.store16 10 v h).load 0 20) (udp6 ++ le16 0) payload =
      udpCbuf (p.buffer.load 0 20) (udp6 ++ le16 0) payload := by
  have hload : ∀ off len, 12 ≤ off ∨ off + len ≤ 10 → off + len ≤ 20 →
      slice ((p.buffer.store16 10 v h).load 0 20) off len = slice (p.buffer.load 0 20) off len := by
    intro off len h1 h2
    rw [slice_load _ _ h2, slice_load _ _ h2, Block.load_store16_disjoint _ h (by omega)]
  rw [udpCbuf_eq _ _ _ _ hu, udpCbuf_eq _ _ _ _ hu, hload 12 4 (by omega) (by omega),
    hload 16 4 (by omega) (by omega), hload 9 1 (by omega) (by omega)]

/-- The checksum `updateChecksums` stores. -/
theorem load_uh_sum : p.updateChecksums.buffer.load 26 2 = le16 (complement (leSum p.udpCovered)) := by
  have hudp : ∀ (b : Block MAXPACKETSIZE) (h : 26 + 2 ≤ MAXPACKETSIZE),
      (b.store16 26 0 h).load 20 8 = b.load 20 6 ++ le16 0 := by
    intro b h
    rw [b.load_store16_mid h 20 6 0 rfl, Block.load_len_zero, List.append_nil]
  have h6 : (p.buffer.load 20 6).length = 6 := Block.length_load (by decide)
  have hstored : p.updateChecksums.buffer.load 26 2 = le16 (udpCksum (p.updateChecksums.buffer.load 0 20)
      (p.buffer.load 20 6 ++ le16 0) (p.buffer.load 28 p.payloadSize)) := by
    simp [updateChecksums, hudp, ISZ, USZ, HDRSZ]
  have hip : p.updateChecksums.buffer.load 0 20 = (p.buffer.store16 10
      (inCksum ((p.buffer.store16 10 0 (by decide)).load 0 20)) (by decide)).load 0 20 := by
    simp [updateChecksums, ISZ]
  rw [hstored, hip, udpCksum, p.udpCbuf_store16 _ _ _ _ h6, ← udpCovered_eq, inCksum_eq, leSum_padded]
  rw [udpCovered_eq, udpCbuf_eq _ _ _ _ h6]
  simp only [List.length_append, length_le16, slice, List.length_take, List.length_drop, h6,
    List.length_singleton, Block.length_load (show 0 + 20 ≤ MAXPACKETSIZE by decide)]
  omega

/-- **When the stored UDP checksum is not the value for "no checksum"**: unless what it covers sums to
`0xffff` without it. -/
theorem uh_sum_nonzero_iff :
    p.updateChecksums.buffer.load16 26 (by decide) ≠ 0 ↔ OnesComp.sum (beWords p.udpCovered) ≠ 0xffff := by
  have hlt : leSum p.udpCovered < 2 ^ 32 := by
    have hfit := p.payload_fits
    have hle := leSum_le p.udpCovered
    have hlen : p.udpCovered.length ≤ 20 + 4096 := by
      simp only [udpCovered, pseudoHeader, slice, List.length_append, List.length_take,
        List.length_drop, List.length_cons, List.length_nil, datagram]
      rw [Block.length_load (by rw [Nat.zero_add]; exact hfit)]
      simp only [HDRSZ, ISZ, USZ, MAXPACKETSIZE, size] at hfit ⊢
      omega
    omega
  rw [not_iff_not, Block.load16_eq_iff, load_uh_sum]
  have hzero : le16 (complement (leSum p.udpCovered)) = le16 0 ↔ complement (leSum p.udpCovered) = 0 :=
    ⟨fun h => by rw [← UInt16.toNat_inj, ← leSum_le16, h, leSum_le16], fun h => by rw [h]⟩
  rw [hzero, complement_eq_zero_iff hlt]
  exact (verifies_iff_leSum _).symm

end

/-- A query of 17 bytes from 10.0.0.2 port 17767 to 10.0.0.1 port 53, with the id 42525. -/
def uncheckedPacket : Except Abort Packet :=
  (((new.setSource ⟨0x0a000002⟩ 17767).setDestination ⟨0x0a000001⟩ 53).setPayload
    (List.replicate 17 0) 17).map (·.setDnsId 42525)

theorem uh_sum_zero : ∃ p, uncheckedPacket = .ok p ∧
    p.updateChecksums.buffer.load16 26 (by decide) = 0 :=
  ⟨_, rfl, by decide +kernel⟩

end Packet

end Dnsmeter
