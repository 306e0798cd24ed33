import Dnsmeter.Proof.QueryBuffer
import Dnsmeter.Lib.Dns
import Mathlib.Tactic.IntervalCases

/-!
# `AddDnssecToQuery` on a DNS message

* `addDnssecToQuery_ok`: the bytes in the buffer afterwards (`addOpt`), and that no others change.
* `decode_addOpt`: what they mean.
* `addDnssecToQuery_message`: the message with AD set and the OPT record, and nothing else changed.
-/

namespace Dnsmeter

open Datagram

/-- A query with AD set, an ARCOUNT of 1 and the OPT record behind it. -/
def addOpt (udp : Int32) (query : Bytes) : Bytes :=
  query.take 3 ++ (slice query 3 1).map (· ||| 32) ++ slice query 4 6 ++ be16 1 ++ query.drop 12 ++
    dnsOpt udp

/-- A store of one byte at 3, of two at 10 and of a string at the end of a query. -/
theorem load_stores {n base : Nat} {b : Block n} {query flags : Bytes} (arcount opt : Bytes)
    (hb : b.load base query.length = query) (h12 : 12 ≤ query.length) (hf : flags.length = 1)
    (ha : arcount.length = 2) (h3 : base + 3 + flags.length ≤ n) (h10 : base + 10 + arcount.length ≤ n)
    (ho : base + query.length + opt.length ≤ n) :
    (((b.store (base + 3) flags h3).store (base + 10) arcount h10).store (base + query.length) opt
      ho).load base (query.length + opt.length) =
    query.take 3 ++ flags ++ slice query 4 6 ++ arcount ++ query.drop 12 ++ opt := by
  have hslice : ∀ off len, off + len ≤ query.length → b.load (base + off) len = slice query off len := by
    intro off len h
    conv_rhs => rw [← hb, slice_load _ _ h]
  have h1 : (b.store (base + 3) flags h3).load base 10 = query.take 3 ++ flags ++ slice query 4 6 := by
    have hmid := b.load_store_mid h3 base 3 6 rfl
    have h0 := hslice 0 3 (by omega)
    rw [hf] at hmid
    rw [Nat.add_zero] at h0
    rw [hmid, h0, Nat.add_assoc base 3 1, hslice (3 + 1) 6 (by omega)]
    rfl
  have h2 : (b.store (base + 3) flags h3).load (base + 12) (query.length - 12) = query.drop 12 := by
    rw [Block.load_store_disjoint _ _ (.inr (by omega)), hslice _ _ (by omega), slice]
    exact List.take_of_length_le (by rw [List.length_drop])
  have hmid := (b.store (base + 3) flags h3).load_store_mid h10 base 10 (query.length - 12) rfl
  rw [ha, show 10 + 2 + (query.length - 12) = query.length by omega, h1, Nat.add_assoc base 10 2, h2]
    at hmid
  rw [Block.load_append, Block.load_store_disjoint _ _ (.inl (by omega)), hmid,
    Block.load_store_self _ _ rfl]

/-- **The bytes `AddDnssecToQuery` leaves behind**, at any place of any buffer with room for them. -/
theorem addDnssecToQuery_ok {n base : Nat} {b : Block n} {query : Bytes} (udp : Int32)
    (hb : b.load base query.length = query) (h12 : 12 ≤ query.length)
    (hn : base + query.length + 11 ≤ n) :
    ∃ c, addDnssecToQuery b base query.length udp = .ok (c, query.length + 11) ∧
      c.load base (query.length + 11) = addOpt udp query ∧
      Block.SameOutside base (base + query.length + 11) b c := by
  have h12n : base + 12 ≤ n := by omega
  have hflags : b.load (base + 3) 1 = slice query 3 1 := by
    conv_rhs => rw [← hb, slice_load _ _ (by omega)]
  have hlen := length_flags b h12n
  have hload := load_stores (le16 (htons 1)) (dnsOpt udp) hb h12 hlen (length_le16 _)
    (by rw [hlen]; omega) (by rw [length_le16]; omega) hn
  refine ⟨_, addDnssecToQuery_eq b udp h12n hn, ?_, ?_⟩
  · rw [length_dnsOpt] at hload
    rw [hload, hflags, le16_htons, addOpt]
  · have hsize := length_dnsOpt udp
    have hone := length_le16 (htons 1)
    refine (((Block.SameOutside.refl _ _ b).store _ ?_ ?_).store _ ?_ ?_).store _ ?_ ?_
    all_goals omega

/-! ## What the bytes mean -/

/-- The record: the root's, type 41, the UDP payload size as class, and of the TTL only the DO bit. -/
def optRecord (udp : Int32) : Dns.Record where
  owner := []
  rtype := 41
  rclass := .ofInt udp.toInt
  ttl := 0x8000
  rdata := [.bytes []]

/-- The bytes of the record. -/
theorem dnsOpt_eq (udp : Int32) : dnsOpt udp =
    [0, 0, 41] ++ be16 (.ofInt udp.toInt) ++ [0, 0, 128, 0, 0, 0] := by
  rw [dnsOpt, le16_htons, le16_htons, le16_htons]
  rfl

section
variable {query : Bytes} (udp : Int32)

theorem length_addOpt (h12 : 12 ≤ query.length) : (addOpt udp query).length = query.length + 11 := by
  simp only [addOpt, slice, List.length_append, List.length_take, List.length_map, List.length_drop,
    length_dnsOpt, be16, List.length_cons, List.length_nil]
  omega

/-- The bytes by their place. -/
theorem addOpt_cons (b0 b1 b2 b3 b4 b5 b6 b7 b8 b9 b10 b11 : UInt8) (rest : Bytes) :
    addOpt udp ([b0, b1, b2, b3, b4, b5, b6, b7, b8, b9, b10, b11] ++ rest) =
      [b0, b1, b2, b3 ||| 32, b4, b5, b6, b7, b8, b9, 0, 1] ++ (rest ++ dnsOpt udp) := by
  rw [addOpt]
  simp only [slice, List.cons_append, List.nil_append, List.take_succ_cons, List.take_zero,
    List.drop_succ_cons, List.drop_zero, List.map_cons, List.map_nil, List.append_assoc]
  rfl

/-- **The message with the OPT record.** -/
theorem decode_addOpt {msg : Dns.Message} (h : Dns.decode query = some msg)
    (hadd : msg.additional = []) : Dns.decode (addOpt udp query) =
      some { msg with
        header := { msg.header with ad := true }
        additional := [optRecord udp] } := by
  have h12 := Dns.le_length_of_decode h
  have hlen := length_addOpt udp h12
  obtain ⟨_, _, _, _, _, _, _, hhdr, _⟩ := Dns.message_eq_some.1 (Dns.decode_eq_some.1 h)
  match query, h12 with
  | b0 :: b1 :: b2 :: b3 :: b4 :: b5 :: b6 :: b7 :: b8 :: b9 :: b10 :: b11 :: rest, _ =>
  rw [show b0 :: b1 :: b2 :: b3 :: b4 :: b5 :: b6 :: b7 :: b8 :: b9 :: b10 :: b11 :: rest =
    [b0, b1, b2, b3, b4, b5, b6, b7, b8, b9, b10, b11] ++ rest from rfl] at h hhdr hlen ⊢
  have hbytes := addOpt_cons udp b0 b1 b2 b3 b4 b5 b6 b7 b8 b9 b10 b11 rest
  rw [hbytes] at hlen ⊢
  obtain ⟨c0, c1, f, g, h0, h1, h2, h3, hof, -⟩ := Dns.header_eq_some.1 hhdr
  cases h0
  cases h1
  cases h2
  cases h3
  refine Dns.decode_append_record h hadd ?_ ?_ ?_ ?_ ?_
  · refine Dns.header_eq_some.2 ⟨b0, b1, b2, b3 ||| 32, rfl, rfl, rfl, rfl, ?_, rfl⟩
    rw [Dns.Header.ofBytes_ad, hof]
  · intro i h4 h10
    interval_cases i <;> rfl
  · exact Decoder.u16_eq_some.2 ⟨0, 1, rfl, rfl, by decide, rfl⟩
  · intro i b hi hb
    rw [List.getElem?_append_right hi] at hb ⊢
    have hrest : rest[i - 12]? = some b := hb
    show (rest ++ dnsOpt udp)[i - 12]? = some b
    rw [List.getElem?_append_left (List.getElem?_eq_some_iff.1 hrest).1]
    exact hrest
  · have hsame : ([b0, b1, b2, b3, b4, b5, b6, b7, b8, b9, b10, b11] ++ rest).length =
        ([b0, b1, b2, b3 ||| 32, b4, b5, b6, b7, b8, b9, 0, 1] ++ rest).length := rfl
    have hdrop : (([b0, b1, b2, b3 ||| 32, b4, b5, b6, b7, b8, b9, 0, 1] ++
        (rest ++ dnsOpt udp)).drop
          ([b0, b1, b2, b3, b4, b5, b6, b7, b8, b9, b10, b11] ++ rest).length).take 11 = dnsOpt udp := by
      rw [← List.append_assoc, hsame, List.drop_left]
      rfl
    rw [hlen]
    have hrec := Dns.record_root (hdrop.trans (dnsOpt_eq udp)) (by decide)
    rw [ofBe16_be16] at hrec
    exact hrec

end

/-- **`AddDnssecToQuery` keeps the message well formed and changes nothing else**, for every message
without additional records and every place of every buffer with room for 11 more bytes. -/
theorem addDnssecToQuery_message {n base : Nat} {b : Block n} {query : Bytes} {msg : Dns.Message}
    (udp : Int32) (hb : b.load base query.length = query) (h : Dns.decode query = some msg)
    (hadd : msg.additional = []) (hn : base + query.length + 11 ≤ n) :
    ∃ c, addDnssecToQuery b base query.length udp = .ok (c, query.length + 11) ∧
      Dns.decode (c.load base (query.length + 11)) = some { msg with
        header := { msg.header with ad := true }
        additional := [{
          owner := []
          rtype := 41
          rclass := .ofInt udp.toInt
          ttl := 0x00008000
          rdata := [.bytes []] }] } ∧
      Block.SameOutside base (base + query.length + 11) b c := by
  obtain ⟨c, hc, hload, hout⟩ := addDnssecToQuery_ok udp hb (Dns.le_length_of_decode h) hn
  refine ⟨c, hc, ?_, hout⟩
  rw [hload]
  exact decode_addOpt udp h hadd

/-- The message of `www.denic.de A`. -/
def denicMessage : Dns.Message where
  header := ⟨0, false, 0, false, false, true, false, false, false, false, 0⟩
  question := [⟨[ascii "www", ascii "denic", ascii "de"], 1, 1⟩]
  answer := []
  authority := []
  additional := []

theorem addDnssecToQuery_denic : ∃ c : Block 64,
    addDnssecToQuery ((Block.zero 64).store 7 denicQuery (by decide)) 7 30 4096 = .ok (c, 41) ∧
      (Dns.decode (c.load 7 41)).map Dns.Message.additional =
        some [⟨[], 41, 4096, 0x8000, [.bytes []]⟩] := by
  have hlen : denicQuery.length = 30 := by decide
  have hb : ((Block.zero 64).store 7 denicQuery (by decide)).load 7 denicQuery.length = denicQuery :=
    Block.load_store_self _ _ rfl
  obtain ⟨c, hc, hdec, -⟩ := addDnssecToQuery_message 4096 hb
    (show Dns.decode denicQuery = some denicMessage by decide +kernel) rfl (by decide)
  refine ⟨c, hc, ?_⟩
  rw [show 41 = denicQuery.length + 11 from rfl, hdec]
  rfl

end Dnsmeter
