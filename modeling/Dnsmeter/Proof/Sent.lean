import Dnsmeter.Proof.Bounds

/-!
# What a call of `sendPacket` sends

* `trySend_datagram`: the payload of a datagram is what the buffer holds, with the time stamp as id.
* `trySend_frame`: a captured frame is sent unaltered; `trySend_query`: a compiled query is sent as it
  is, or with AD and the OPT record, as the accumulator has it.
* `InRange`: the accumulator stays in 0..99, whether a call returns or raises.
-/

namespace Dnsmeter

open Datagram

/-! ## What is sent -/

theorem drop_load {n : Nat} (b : Block n) (o len j : Nat) :
    (b.load o len).drop j = b.load (o + j) (len - j) := by
  simp only [Block.load, List.drop_take, List.drop_drop]

namespace DNSSenderThread

variable {t t' : DNSSenderThread} {p p' : PayloadFile} {env : SendEnv} {d bap : Bytes}

/-- A frame that ends before its UDP header does is read out of bounds. -/
theorem fillBuffer_short (hp : t.payloadIsPcap = true) (h : frame.length < 42) :
    t.fillBuffer frame = .error .outOfBounds := by
  have hwrap : frame.length <
      PCAP_HEADER_SIZE + (UInt64.ofNat frame.length - .ofNat PCAP_HEADER_SIZE).toNat := by
    have hle : frame.length % 2 ^ 64 = frame.length := Nat.mod_eq_of_lt (by omega)
    simp only [PCAP_HEADER_SIZE, UInt64.toNat_sub, UInt64.toNat_ofNat', hle]
    omega
  have hread : readMem frame PCAP_HEADER_SIZE
      (UInt64.ofNat frame.length - .ofNat PCAP_HEADER_SIZE).toNat = .error .outOfBounds :=
    if_neg (Nat.not_le.2 hwrap)
  simp only [fillBuffer, hp, if_true, hread, bind, Except.bind]

theorem load_chooseSource {pkt pkt' : Packet} (h : t.chooseSource pkt bap env = .ok pkt') {off : Nat}
    (ho : 28 ≤ off) (len : Nat) : pkt'.buffer.load off len = pkt.buffer.load off len := by
  unfold chooseSource at h
  split at h
  · split at h
    · obtain ⟨a, port, -, -, rfl⟩ := Packet.useSourceFromPcap_ok h
      rw [Block.load_store16_disjoint _ _ (by omega), Block.load_store32_disjoint _ _ (by omega)]
    · cases h
      simp only [Packet.randomSourcePort, Packet.randomSourceIP, Packet.assign16, Packet.assign32]
      rw [Block.load_store16_disjoint _ _ (by omega), Block.load_store32_disjoint _ _ (by omega)]
  · cases h
    exact Block.load_store16_disjoint _ (by decide) (by omega)

theorem dnsseccounter_account (t : DNSSenderThread) (n : Int) (errno : Nat) :
    (t.account n errno).dnsseccounter = t.dnsseccounter := by
  unfold account
  split
  · rfl
  split <;> rfl

/-- **The payload of a datagram** is what the thread's buffer holds, with the time stamp over its
first two bytes. -/
theorem trySend_datagram (h : t.trySend p env = .ok (t', p', d)) : ∃ bap t1 qs,
    p.getQuery = .ok (bap, p') ∧ t.fillBuffer bap = .ok (t1, qs) ∧
      t'.dnsseccounter = t1.dnsseccounter ∧ d.length = 28 + qs.toNat ∧
      d.drop 30 = (t1.buffer.load 0 qs.toNat).drop 2 ∧
      (2 ≤ qs.toNat → d.drop 28 =
        be16 (getQueryTimestamp env.tp) ++ (t1.buffer.load 0 qs.toNat).drop 2) := by
  obtain ⟨bap, t1, qs, pkt1, pkt2, hq, hfill, hset, hsrc, -, ht', hd⟩ := trySend_ok h
  obtain ⟨hl, hfit, -⟩ := Packet.setPayload_ok hset
  obtain ⟨pkt, hset', hsize1, -, hload1⟩ := Packet.setPayload_of_le _ _ _ hl hfit
  cases hset.symm.trans hset'
  have hsize : pkt2.payloadSize = qs.toNat := (payloadSize_chooseSource hsrc).trans hsize1
  have hload2 : pkt2.buffer.load 28 qs.toNat = t1.buffer.load 0 qs.toNat := by
    rw [load_chooseSource hsrc (Nat.le_refl 28), hload1]
    rfl
  have hdsize : (pkt2.setDnsId (getQueryTimestamp env.tp)).ptr.size = 28 + qs.toNat := by
    rw [Packet.size_ptr, ← hsize]
    rfl
  rw [hdsize] at hd
  refine ⟨bap, t1, qs, hq, hfill, ?_, ?_, ?_, ?_⟩
  · rw [ht', dnsseccounter_account]
  · rw [hd, Block.length_load]
    rw [Nat.zero_add]
    exact hfit
  · rw [hd, drop_load, show 0 + 30 = 28 + 2 from rfl, show 28 + qs.toNat - 30 = qs.toNat - 2 by omega,
      Packet.load_ptr _ (by omega) (by omega), ← hload2, drop_load]
    exact Block.load_store16_disjoint _ (by decide) (.inr (Nat.le_refl 30))
  · intro h2
    have hid := Packet.load_setDnsId (getQueryTimestamp env.tp) (show 2 ≤ pkt2.payloadSize by omega)
    rw [hsize, hload2] at hid
    rw [hd, drop_load, show 28 + qs.toNat - 28 = qs.toNat by omega,
      Packet.load_ptr _ (by omega) (by omega), Nat.zero_add, hid]

/-- **A captured frame is sent unaltered**: behind the id the datagram has the frame's message. -/
theorem trySend_frame (h : t.trySend p env = .ok (t', p', d)) (hp : t.payloadIsPcap = true)
    (hq : p.getQuery = .ok (bap, p')) (hlen : bap.length ≤ 4096) :
    d.length = 28 + (bap.length - 42) ∧ d.drop 30 = bap.drop 44 ∧
      t'.dnsseccounter = t.dnsseccounter := by
  obtain ⟨bap', t1, qs, hq', hfill, hcount, hdlen, hdrop, -⟩ := trySend_datagram h
  cases hq.symm.trans hq'
  have h42 : 42 ≤ bap.length := by
    by_contra hlt
    rw [fillBuffer_short hp (Nat.not_le.1 hlt)] at hfill
    cases hfill
  obtain ⟨buffer, querySize, hfill', hsize, hload⟩ := fillBuffer_pcap hp h42 hlen
  cases hfill.symm.trans hfill'
  refine ⟨by rw [hdlen, hsize], ?_, hcount⟩
  rw [hdrop, hsize]
  show (buffer.load 0 (bap.length - 42)).drop 2 = _
  rw [hload, List.drop_drop]

end DNSSenderThread

/-! ## What a datagram carries -/

/-- What `res_mkquery` makes of a name: a message with one question and no record. -/
def PlainQuery (query : Bytes) : Prop :=
  ∃ msg, Dns.decode query = some msg ∧ msg.question.length = 1 ∧ msg.answer = [] ∧
    msg.authority = [] ∧ msg.additional = []

theorem PlainQuery.length {query : Bytes} (h : PlainQuery query) :
    12 ≤ query.length ∧ query.length ≤ 271 := by
  obtain ⟨msg, hdec, hq, ha, hn, hr⟩ := h
  exact ⟨Dns.le_length_of_decode hdec, Dns.length_le_of_question hdec hq ha hn hr⟩

/-- The number of OPT records in the message of a datagram. -/
def optRecords (d : Bytes) : Nat :=
  match Dns.decode (d.drop 28) with
  | some msg => (msg.answer ++ msg.authority ++ msg.additional).countP (·.rtype = 41)
  | none => 0

/-- The message of a datagram has AD set and an OPT record among the additional ones. -/
def carriesOpt (d : Bytes) : Bool :=
  match Dns.decode (d.drop 28) with
  | some msg => msg.header.ad && msg.additional.any (·.rtype = 41)
  | none => false

namespace DNSSenderThread

variable {t t' : DNSSenderThread} {p p' : PayloadFile} {env : SendEnv} {d bap : Bytes}

/-- **A compiled query is sent as it is, or with AD and the OPT record**, as the accumulator has it. -/
theorem trySend_query (h : t.trySend p env = .ok (t', p', d)) (hp : t.payloadIsPcap = false)
    (hq : p.getQuery = .ok (bap, p')) (hplain : PlainQuery bap) :
    carriesOpt d = decide (100 ≤ t.dnsseccounter + t.dnssecRate) ∧
      optRecords d = (carriesOpt d).toNat ∧
      t'.dnsseccounter = if 100 ≤ t.dnsseccounter + t.dnssecRate
        then t.dnsseccounter + t.dnssecRate - 100 else t.dnsseccounter + t.dnssecRate := by
  obtain ⟨bap', t1, qs, hq', hfill, hcount, -, -, hpayload⟩ := trySend_datagram h
  cases hq.symm.trans hq'
  obtain ⟨h12, h271⟩ := hplain.length
  obtain ⟨msg, hdec, -, ha, hn, hr⟩ := hplain
  obtain ⟨buffer, querySize, hfill', hsize, -, hload⟩ := fillBuffer_text hp h12 h271
  cases hfill.symm.trans hfill'
  by_cases hdue : 100 ≤ t.dnsseccounter + t.dnssecRate
  · simp only [if_pos hdue] at hsize hload hcount ⊢
    have hopt := decode_addOpt 4096 hdec hr
    rw [show addOpt 4096 bap = withOpt bap from rfl] at hopt
    have h2 := Dns.le_length_of_decode hopt
    have hsent := hpayload (by omega)
    rw [hsize, hload] at hsent
    have hd := Dns.decode_setId hopt (getQueryTimestamp env.tp)
    rw [← hsent] at hd
    have hmark : carriesOpt d = true := by
      rw [carriesOpt, hd]
      rfl
    refine ⟨hmark.trans (decide_eq_true hdue).symm, ?_, hcount⟩
    rw [hmark]
    simp only [optRecords, hd, ha, hn]
    decide
  · simp only [if_neg hdue] at hsize hload hcount ⊢
    have hsent := hpayload (by omega)
    rw [hsize, hload] at hsent
    have hd := Dns.decode_setId hdec (getQueryTimestamp env.tp)
    rw [← hsent] at hd
    have hmark : carriesOpt d = false := by
      simp [carriesOpt, hd, hr]
    refine ⟨hmark.trans (decide_eq_false hdue).symm, ?_, hcount⟩
    rw [hmark]
    simp [optRecords, hd, ha, hn, hr]

/-! ## The accumulator -/

/-- The accumulator is in its range. -/
def InRange (t : DNSSenderThread) : Prop := 0 ≤ t.dnsseccounter ∧ t.dnsseccounter ≤ 99

theorem InRange.fillBuffer {t1 : DNSSenderThread} {qs : UInt64} (h : t.InRange)
    (h0 : 0 ≤ t.dnssecRate) (h100 : t.dnssecRate ≤ 100) (hf : t.fillBuffer bap = .ok (t1, qs)) :
    t1.InRange := by
  unfold InRange at h ⊢
  simp only [DNSSenderThread.fillBuffer, bind, Except.bind, pure, Except.pure] at hf
  split at hf
  · split at hf
    · cases hf
    split at hf
    · cases hf
    cases hf
    exact h
  · split at hf
    · cases hf
    split at hf
    · split at hf
      · cases hf
      cases hf
      dsimp only
      omega
    · cases hf
      dsimp only
      omega

/-- **A call keeps the accumulator in its range**, whether it returns or raises. -/
theorem InRange.trySend_ok (h : t.InRange) (h0 : 0 ≤ t.dnssecRate) (h100 : t.dnssecRate ≤ 100)
    (ht : t.trySend p env = .ok (t', p', d)) : t'.InRange := by
  obtain ⟨bap, t1, qs, -, hfill, hcount, -⟩ := trySend_datagram ht
  have h1 := h.fillBuffer h0 h100 hfill
  unfold InRange at h1 ⊢
  rw [hcount]
  exact h1

theorem InRange.trySend_error {e : Abort} (h : t.InRange) (h0 : 0 ≤ t.dnssecRate)
    (h100 : t.dnssecRate ≤ 100) (ht : t.trySend p env = .error (e, t', p')) : t'.InRange := by
  rcases DNSSenderThread.trySend_error ht with ⟨-, rfl, -⟩ | ⟨bap, -, ⟨-, rfl⟩ | ⟨t1, qs, hf, hrest⟩⟩
  · exact h
  · exact h
  have h1 := h.fillBuffer h0 h100 hf
  rcases hrest with ⟨-, rfl⟩ | ⟨pkt1, -, ⟨-, rfl⟩ | ⟨pkt2, -, -, -, rfl⟩⟩
  · exact h1
  · exact h1
  · exact h1

theorem dnsseccounter_start (h : t.start = .ok t') : t'.dnsseccounter = 0 := by
  unfold start at h
  split at h
  · cases h
  · cases h
    rfl

end DNSSenderThread

end Dnsmeter
