import Dnsmeter.Packet
import Dnsmeter.Receiver
import Mathlib.Tactic.NormNum

/-!
# Round trip times

The sender puts `getQueryTimestamp` of the send time into the DNS id, the receiver recovers the
round trip time from the id of the answer. The time stamp is the send time's tick (100
microseconds) modulo the 6-second cycle of 60000 ticks (`toNat_getQueryTimestamp`), the difference
is taken in that cycle (`toNat_queryRTTTicks`; for any start `toNat_queryRTTTicks_eq`).
-/

namespace Dnsmeter

open Datagram

namespace Timeval

/-- Microseconds. -/
def time (t : Timeval) : Nat := t.sec * 1000000 + t.usec

def tick (t : Timeval) : Nat := t.time / 100

end Timeval

theorem Timeval.tick_eq (t : Timeval) : t.tick = t.sec * 10000 + t.usec / 100 := by
  simp only [Timeval.tick, Timeval.time]
  omega

theorem toNat_getQueryTimestamp (t : Timeval) :
    (getQueryTimestamp (some t)).toNat = t.tick % 60000 := by
  have hu : t.usec / 100 < 10000 := by have := t.usec_lt; omega
  simp only [getQueryTimestamp, UInt16.toNat_ofNat', t.tick_eq]
  generalize t.usec / 100 = u at hu
  have hlt : t.sec % 6 * 10000 + u < 60000 := by omega
  have hsplit : t.sec * 10000 + u = 60000 * (t.sec / 6) + (t.sec % 6 * 10000 + u) := by omega
  rw [hsplit, Nat.mul_add_mod, Nat.mod_eq_of_lt hlt, Nat.mod_eq_of_lt (by omega)]

/-- Where in the cycle a clock is; at its start if it cannot be read. -/
def cycleTick : Option Timeval → Nat
  | some t => t.tick % 60000
  | none => 0

theorem cycleTick_lt (tp : Option Timeval) : cycleTick tp < 60000 := by
  cases tp with
  | none => decide
  | some t => exact Nat.mod_lt _ (by decide)

theorem toNat_getQueryTimestamp_eq (tp : Option Timeval) :
    (getQueryTimestamp tp).toNat = cycleTick tp := by
  cases tp with
  | none => rfl
  | some t => exact toNat_getQueryTimestamp t

/-- The ticks for any id: behind the clock, at most a cycle ahead of it, or further. -/
theorem toNat_queryRTTTicks_eq (tp : Option Timeval) (start : UInt16) :
    (queryRTTTicks tp start).toNat =
      if start.toNat ≤ cycleTick tp then cycleTick tp - start.toNat
      else if start.toNat ≤ 60000 + cycleTick tp then 60000 + cycleTick tp - start.toNat
      else 65536 + 60000 + cycleTick tp - start.toNat := by
  have hn := toNat_getQueryTimestamp_eq tp
  have hlt := cycleTick_lt tp
  have hs := start.toNat_lt
  simp only [queryRTTTicks]
  generalize getQueryTimestamp tp = now at hn ⊢
  generalize cycleTick tp = n at hn hlt ⊢
  by_cases h : start.toNat ≤ n
  · rw [if_neg (by rw [UInt16.lt_iff_toNat_lt]; omega), if_pos h,
      UInt16.toNat_sub_of_le _ _ (by rw [UInt16.le_iff_toNat_le]; omega), hn]
  · rw [if_pos (by rw [UInt16.lt_iff_toNat_lt]; omega), if_neg h, UInt16.ofInt,
      UInt16.toNat_ofNat']
    split <;> omega

/-- The difference in the cycle, for a start in the cycle. -/
theorem toNat_queryRTTTicks (r : Timeval) {start : UInt16} {m : Nat} (hm : start.toNat = m)
    (hs : m < 60000) :
    (queryRTTTicks (some r) start).toNat =
      if r.tick % 60000 < m then 60000 - m + r.tick % 60000 else r.tick % 60000 - m := by
  rw [toNat_queryRTTTicks_eq, hm, cycleTick]
  by_cases h : m ≤ r.tick % 60000
  · rw [if_pos h, if_neg (Nat.not_lt.2 h)]
  · rw [if_neg h, if_pos (by omega), if_pos (Nat.not_le.1 h)]
    omega

/-- The id an answer carries back is the time stamp `setDnsId` was called with. -/
theorem ntohs_id_setDnsId {p : Packet} {id : UInt16} {frame : Bytes} {dns : DNSHeader}
    (hd : dnsHeaderAt frame = .ok dns)
    (hid : slice frame 42 2 = (p.setDnsId id).buffer.load HDRSZ 2) : ntohs dns.id = id := by
  unfold dnsHeaderAt at hd
  split at hd
  · rename_i b0 b1 b2 b3 hb
    cases hd
    have h2 : slice frame 42 2 = [b0, b1] := by
      have := congrArg (List.take 2) hb
      rwa [List.take_take] at this
    rw [h2] at hid
    simp only [Packet.setDnsId, Packet.assign16, Block.load_store16_self, le16_htons, be16,
      List.cons.injEq, and_true] at hid
    simp only [DNSHeader.ofBytes, ntohs_ofLe16, hid.1, hid.2, ofBe16_be16]
  · cases hd

/-- **RTT decoding undoes the time stamp**: for a query stamped at `s` whose answer, with the same
two id bytes, is counted at `r`, the measured time is the tick difference modulo the cycle; below
one cycle it is the tick difference itself, within one tick of the time passed. -/
theorem queryRTT_roundTrip {s r : Timeval} (hsr : s.time ≤ r.time) {p : Packet} {frame : Bytes}
    {dns : DNSHeader} (hd : dnsHeaderAt frame = .ok dns)
    (hid : slice frame 42 2 =
      (p.setDnsId (getQueryTimestamp (some s))).buffer.load HDRSZ 2) :
    (queryRTTTicks (some r) (ntohs dns.id)).toNat = (r.tick - s.tick) % 60000 ∧
    getQueryRTT (some r) (ntohs dns.id) = ((r.tick - s.tick) % 60000 : ℕ) / 10000 ∧
    (r.tick - s.tick < 60000 →
      getQueryRTT (some r) (ntohs dns.id) = (r.tick - s.tick : ℕ) / 10000 ∧
      r.time - s.time < 100 * (r.tick - s.tick) + 100 ∧
      100 * (r.tick - s.tick) < r.time - s.time + 100) := by
  have ht : (queryRTTTicks (some r) (ntohs dns.id)).toNat = (r.tick - s.tick) % 60000 := by
    have hle : s.tick ≤ r.tick := Nat.div_le_div_right hsr
    rw [ntohs_id_setDnsId hd hid,
      toNat_queryRTTTicks r (toNat_getQueryTimestamp s) (Nat.mod_lt _ (by decide))]
    generalize s.tick = a at hle
    generalize r.tick = b at hle
    split <;> omega
  have hg : getQueryRTT (some r) (ntohs dns.id) = ((r.tick - s.tick) % 60000 : ℕ) / 10000 := by
    rw [getQueryRTT, ht]
  refine ⟨ht, hg, fun hlt => ⟨by rw [hg, Nat.mod_eq_of_lt hlt], ?_⟩⟩
  simp only [Timeval.tick] at hlt ⊢
  omega

/-- A query sent at 5.999950 s and answered at 6.000250 s, across the cycle's boundary. -/
theorem queryRTT_roundTrip_cycle :
    getQueryRTT (some ⟨6, 250, by decide⟩) (ntohs (DNSHeader.ofBytes 234 95 128 0).id) = 3 / 10000 := by
  have hd : dnsHeaderAt (List.replicate 42 0 ++ [234, 95, 128, 0]) =
    .ok (DNSHeader.ofBytes 234 95 128 0) := rfl
  have hid : slice (List.replicate 42 0 ++ [234, 95, 128, 0]) 42 2 =
      (Packet.new.setDnsId (getQueryTimestamp (some ⟨5, 999950, by decide⟩))).buffer.load HDRSZ 2 := by
    decide +kernel
  have h := (queryRTT_roundTrip (r := ⟨6, 250, by decide⟩) (by decide) hd hid).2.2 (by decide)
  rw [h.1]
  norm_num [Timeval.tick, Timeval.time]

end Dnsmeter
