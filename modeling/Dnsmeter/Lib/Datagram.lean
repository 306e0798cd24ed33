import Dnsmeter.Lib.OnesComp

/-!
# IPv4/UDP datagrams

The wire format of a UDP datagram in an IPv4 packet without options, as a property of its bytes:
20 bytes of IP header, 8 bytes of UDP header, the payload.
-/

namespace Datagram

open OnesComp

def slice (d : Bytes) (off len : Nat) : Bytes := (d.drop off).take len

/-- The pseudo header of the UDP checksum: source, destination, zero, protocol, UDP length. -/
def pseudoHeader (d : Bytes) : Bytes :=
  slice d 12 4 ++ slice d 16 4 ++ [0] ++ slice d 9 1 ++ slice d 24 2

/-- Both checksums match the addresses, ports, lengths and payload of the datagram. -/
structure ChecksumsOk (d : Bytes) : Prop where
  ip : Verifies (d.take 20)
  udp : Verifies (pseudoHeader d ++ d.drop 20)

instance (d : Bytes) : Decidable (ChecksumsOk d) :=
  decidable_of_iff (Verifies (d.take 20) ∧ Verifies (pseudoHeader d ++ d.drop 20))
    ⟨fun h => ⟨h.1, h.2⟩, fun h => ⟨h.ip, h.udp⟩⟩

/-- `d` is the datagram of `payload` from `src`, `sport` to `dst`, `dport`. -/
structure IsUdp (src : UInt32) (sport : UInt16) (dst : UInt32) (dport : UInt16) (ttl : UInt8)
    (payload : Bytes) (d : Bytes) : Prop where
  length : d.length = 28 + payload.length
  version_ihl : slice d 0 1 = [0x45]
  ip_len : slice d 2 2 = be16 (.ofNat (28 + payload.length))
  ip_len_fits : 28 + payload.length < 2 ^ 16
  ttl : slice d 8 1 = [ttl]
  protocol : slice d 9 1 = [17]
  src : slice d 12 4 = be32 src
  dst : slice d 16 4 = be32 dst
  sport : slice d 20 2 = be16 sport
  dport : slice d 22 2 = be16 dport
  uh_ulen : slice d 24 2 = be16 (.ofNat (8 + payload.length))
  payload : d.drop 28 = payload
  checksums : ChecksumsOk d

/-- A slice of a range of a block is a range of the block. -/
theorem slice_load {n : Nat} (b : Block n) (o : Nat) {len off l : Nat} (h : off + l ≤ len) :
    slice (b.load o len) off l = b.load (o + off) l := by
  simp only [slice, Block.load]
  rw [List.drop_take, List.take_take, Nat.min_eq_left (by omega), List.drop_drop]

end Datagram
