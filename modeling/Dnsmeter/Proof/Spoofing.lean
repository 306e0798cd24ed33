import Dnsmeter.Lib.Subnet
import Dnsmeter.SenderThread

/-!
# Spoofed source addresses

`setSourceNet` keeps the first address of the network and the number of its addresses as
`unsigned int`s, so the number of a /0 is 0 and the end of the topmost network is computed around
`2 ^ 32`.

* `toNat_last`: `start + size - 1` is the last address all the same.
* `randomSourceIP_covers`: the addresses a call can write are those of the network, and the overload
  for an `IPNetwork` writes the same ones.
-/

namespace Dnsmeter

/-! ## The interval of a network -/

namespace IPNetwork

variable (net : IPNetwork)

theorem toNat_first : net.first.addr.toNat =
    net.addr.toNat / 2 ^ (32 - net.prefixlen) * 2 ^ (32 - net.prefixlen) := by
  have hlt := net.addr.toNat_lt
  have hle := Nat.div_mul_le_self net.addr.toNat (2 ^ (32 - net.prefixlen))
  show (UInt32.ofNat _).toNat = _
  rw [UInt32.toNat_ofNat', Nat.mod_eq_of_lt (by omega)]

theorem first_add_size_le : net.first.addr.toNat + 2 ^ (32 - net.prefixlen) ≤ 2 ^ 32 := by
  have hpow : 2 ^ (32 - net.prefixlen) * 2 ^ net.prefixlen = 2 ^ 32 := by
    rw [← pow_add, Nat.sub_add_cancel net.prefixlen_le]
  have hq : net.addr.toNat / 2 ^ (32 - net.prefixlen) < 2 ^ net.prefixlen := by
    rw [Nat.div_lt_iff_lt_mul (Nat.two_pow_pos _), Nat.mul_comm, hpow]
    exact net.addr.toNat_lt
  calc net.first.addr.toNat + 2 ^ (32 - net.prefixlen)
      = (net.addr.toNat / 2 ^ (32 - net.prefixlen) + 1) * 2 ^ (32 - net.prefixlen) := by
        rw [net.toNat_first, Nat.add_mul, Nat.one_mul]
    _ ≤ 2 ^ net.prefixlen * 2 ^ (32 - net.prefixlen) := Nat.mul_le_mul_right _ hq
    _ = 2 ^ 32 := by rw [Nat.mul_comm, hpow]

/-- The last address of a network, computed in `unsigned int`. -/
theorem toNat_last : (net.first.addr + .ofNat (2 ^ (32 - net.prefixlen)) - 1).toNat =
    net.first.addr.toNat + 2 ^ (32 - net.prefixlen) - 1 := by
  have hend := net.first_add_size_le
  have hpos : 0 < 2 ^ (32 - net.prefixlen) := Nat.two_pow_pos _
  rw [UInt32.toNat_sub, UInt32.toNat_add, UInt32.toNat_ofNat', show (1 : UInt32).toNat = 1 from rfl]
  generalize 2 ^ (32 - net.prefixlen) = k at *
  have := net.first.addr.toNat_lt
  omega

/-- The same in `size_t`. -/
theorem toNat_last64 : (net.first.addr.toUInt64 + .ofNat (2 ^ (32 - net.prefixlen)) - 1).toNat =
    net.first.addr.toNat + 2 ^ (32 - net.prefixlen) - 1 := by
  have hend := net.first_add_size_le
  have hpos : 0 < 2 ^ (32 - net.prefixlen) := Nat.two_pow_pos _
  rw [UInt64.toNat_sub, UInt64.toNat_add, UInt64.toNat_ofNat', UInt32.toNat_toUInt64,
    show (1 : UInt64).toNat = 1 from rfl]
  generalize 2 ^ (32 - net.prefixlen) = k at *
  omega

/-- The addresses whose first `prefixlen` bits are those of the network. -/
def addresses : Set UInt32 := {a | Subnet.SamePrefix 32 net.prefixlen a.toNat net.addr.toNat}

theorem mem_addresses {a : UInt32} : a ∈ net.addresses ↔ net.first.addr.toNat ≤ a.toNat ∧
    a.toNat ≤ net.first.addr.toNat + 2 ^ (32 - net.prefixlen) - 1 := by
  rw [net.toNat_first]
  exact Subnet.samePrefix_iff a.toNat_lt net.addr.toNat_lt

end IPNetwork

/-! ## What `ppl7::rand` can return -/

/-- A call that returns `v` where it may. -/
def Rand.returning (v : Nat) : Rand where
  rand lo hi := if lo ≤ v ∧ v ≤ hi then v else lo
  mem_Icc lo hi h := by
    split
    · assumption
    · exact ⟨Nat.le_refl lo, h⟩

theorem be32_inj {a b : UInt32} : be32 a = be32 b ↔ a = b := by
  refine ⟨?_, fun h => by rw [h]⟩
  intro h
  rw [← le32_htonl, ← le32_htonl] at h
  have hab : htonl a = htonl b := by
    rw [← ofLe32_eq_iff.2 (rfl : _ = le32 (htonl a)), ← ofLe32_eq_iff.2 (rfl : _ = le32 (htonl b))]
    simp only [le32, List.cons.injEq, and_true] at h
    rw [h.1, h.2.1, h.2.2.1, h.2.2.2]
  rw [← htonl_htonl a, hab, htonl_htonl]

namespace Packet

/-- The source addresses a call can write, over the values of `ppl7::rand` in it. -/
def sources (call : Rand → Packet) : Set UInt32 := {a | ∃ r, (call r).buffer.load 12 4 = be32 a}

/-- A call that writes a random number of an interval. -/
theorem mem_sources_assign32 {p : Packet} {lo hi : Nat} (hle : lo ≤ hi) (hhi : hi < 2 ^ 32)
    (h : 12 + 4 ≤ MAXPACKETSIZE) {a : UInt32} :
    a ∈ sources (fun r => p.assign32 12 (htonl (.ofNat (r.rand lo hi))) h) ↔
      lo ≤ a.toNat ∧ a.toNat ≤ hi := by
  have hmem : a ∈ sources (fun r => p.assign32 12 (htonl (.ofNat (r.rand lo hi))) h) ↔
      ∃ r : Rand, UInt32.ofNat (r.rand lo hi) = a := by
    simp only [sources, Set.mem_ofPred_eq, assign32, Block.load_store32_self, le32_htonl, be32_inj]
  rw [hmem]
  constructor
  · rintro ⟨r, rfl⟩
    have hr := r.mem_Icc lo hi hle
    rw [UInt32.toNat_ofNat', Nat.mod_eq_of_lt (by omega)]
    exact hr
  · intro ha
    refine ⟨.returning a.toNat, ?_⟩
    simp only [Rand.returning, if_pos ha]
    exact UInt32.ofNat_toNat

/-- **Spoofed addresses cover exactly the network**, in both overloads. -/
theorem randomSourceIP_covers (t : DNSSenderThread) (net : IPNetwork) (p : Packet) :
    sources (p.randomSourceIP (t.setSourceNet net).spoofingNetStart
        (t.setSourceNet net).spoofingNetSize) = net.addresses ∧
      sources (p.randomSourceIPNet net) = net.addresses := by
  have hpos : 0 < 2 ^ (32 - net.prefixlen) := Nat.two_pow_pos _
  have hend := net.first_add_size_le
  have hstart : ntohl net.first.sAddr = net.first.addr := htonl_htonl _
  constructor
  · ext a
    rw [net.mem_addresses]
    unfold randomSourceIP
    simp only [DNSSenderThread.setSourceNet, hstart, net.toNat_last]
    exact mem_sources_assign32 (by omega) (by omega) _
  · ext a
    rw [net.mem_addresses]
    unfold randomSourceIPNet
    simp only [hstart, net.toNat_last64]
    exact mem_sources_assign32 (by omega) (by omega) _

end Packet

end Dnsmeter
