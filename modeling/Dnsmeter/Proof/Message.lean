import Dnsmeter.SenderThread
import Dnsmeter.Proof.Opt
import Dnsmeter.Lib.Tally

/-!
# The message of a cache entry

* `addDnssecToQuery_withOpt`: `AddDnssecToQuery` turns the query in the buffer into the query with
  the OPT record.
* `fillBuffer_message`: `sendPacket` puts the message a cache entry stands for into the thread's
  buffer, whatever the buffer held before.
-/

namespace Dnsmeter

open Datagram

/-- A query with AD set, an ARCOUNT of 1 and the OPT record behind it. -/
def withOpt (query : Bytes) : Bytes :=
  query.take 3 ++ (slice query 3 1).map (· ||| 32) ++ slice query 4 6 ++ [0, 1] ++ query.drop 12 ++
    [0, 0, 41, 16, 0, 0, 0, 128, 0, 0, 0]

/-- The DNS message of a cache entry: what a captured frame has behind its headers; a compiled
query, with the OPT record if one is due. -/
def message (isPcap due : Bool) (entry : Bytes) : Bytes :=
  if isPcap then entry.drop 42 else if due then withOpt entry else entry

/-- The sizes of the entries: a frame with a DNS header, or a compiled query. -/
def EntryOk (isPcap : Bool) (entry : Bytes) : Prop :=
  if isPcap then 54 ≤ entry.length ∧ entry.length ≤ 4096
  else 12 ≤ entry.length ∧ entry.length ≤ 271

instance (isPcap : Bool) (entry : Bytes) : Decidable (EntryOk isPcap entry) :=
  inferInstanceAs (Decidable (if isPcap then 54 ≤ entry.length ∧ entry.length ≤ 4096
    else 12 ≤ entry.length ∧ entry.length ≤ 271))

theorem le_length_message {isPcap due : Bool} {entry : Bytes} (h : EntryOk isPcap entry) :
    2 ≤ (message isPcap due entry).length := by
  unfold EntryOk at h
  unfold message
  split
  · rename_i hp
    rw [if_pos hp] at h
    rw [List.length_drop]
    omega
  · rename_i hp
    rw [if_neg hp] at h
    split
    · simp only [withOpt, List.length_append, List.length_cons]
      omega
    · omega

/-! ## Filling the buffer -/

theorem addDnssecToQuery_withOpt {n : Nat} {b : Block n} {query : Bytes}
    (hb : b.load 0 query.length = query) (h12 : 12 ≤ query.length) (hn : query.length + 11 ≤ n) :
    ∃ c, addDnssecToQuery b 0 query.length 4096 = .ok (c, query.length + 11) ∧
      c.load 0 (query.length + 11) = withOpt query := by
  obtain ⟨c, hc, hload, -⟩ := addDnssecToQuery_ok 4096 hb h12 (by omega)
  exact ⟨c, hc, hload⟩

namespace DNSSenderThread

variable {t t' : DNSSenderThread} {bap : Bytes}

/-- `query_size -= PCAP_HEADER_SIZE` does not wrap. -/
theorem toNat_sub_header (h1 : 42 ≤ bap.length) (h2 : bap.length ≤ 4096) :
    (UInt64.ofNat bap.length - .ofNat PCAP_HEADER_SIZE).toNat = bap.length - 42 := by
  have hsize : (UInt64.ofNat bap.length).toNat = bap.length := Tally.toNat_ofNat (by omega)
  have hle : UInt64.ofNat PCAP_HEADER_SIZE ≤ .ofNat bap.length := by
    rw [UInt64.le_iff_toNat_le, hsize]
    exact h1
  rw [UInt64.toNat_sub_of_le _ _ hle, hsize]
  rfl

/-- A captured frame: what is behind its headers. -/
theorem fillBuffer_pcap (hp : t.payloadIsPcap = true) (h1 : 42 ≤ bap.length)
    (h2 : bap.length ≤ 4096) : ∃ buffer querySize,
      t.fillBuffer bap = .ok ({ t with buffer }, querySize) ∧ querySize.toNat = bap.length - 42 ∧
      buffer.load 0 (bap.length - 42) = bap.drop 42 := by
  have hsize := toNat_sub_header h1 h2
  have hread : readMem bap PCAP_HEADER_SIZE (bap.length - 42) = .ok (bap.drop 42) := by
    rw [readMem_of_le (by simp only [PCAP_HEADER_SIZE]; omega), slice]
    exact congrArg _ (List.take_of_length_le (by rw [List.length_drop]; exact Nat.le_refl _))
  have hlen : (bap.drop 42).length = bap.length - 42 := List.length_drop
  refine ⟨t.buffer.store 0 (bap.drop 42) (by omega), _, ?_, hsize,
    Block.load_store_self _ _ hlen.symm⟩
  simp only [fillBuffer, hp, if_true, hsize, hread, bind, Except.bind, pure, Except.pure]
  rw [memcpy_of_le (by omega)]

/-- A compiled query: as it is, or with the OPT record. -/
theorem fillBuffer_text (hp : t.payloadIsPcap = false) (h1 : 12 ≤ bap.length)
    (h2 : bap.length ≤ 271) : ∃ buffer querySize,
      let due := 100 ≤ t.dnsseccounter + t.dnssecRate
      let m := if due then withOpt bap else bap
      t.fillBuffer bap = .ok ({ t with
        buffer
        dnsseccounter := if due then t.dnsseccounter + t.dnssecRate - 100
          else t.dnsseccounter + t.dnssecRate }, querySize) ∧
      querySize.toNat = m.length ∧ m.length ≤ 282 ∧ buffer.load 0 m.length = m := by
  have hcopy : memcpy t.buffer 0 bap = .ok (t.buffer.store 0 bap (by omega)) := memcpy_of_le _
  have hload : (t.buffer.store 0 bap (by omega)).load 0 bap.length = bap :=
    Block.load_store_self _ _ rfl
  by_cases hdue : 100 ≤ t.dnsseccounter + t.dnssecRate
  · obtain ⟨c, hadd, hc⟩ := addDnssecToQuery_withOpt hload h1 (by omega)
    have hlen : (withOpt bap).length = bap.length + 11 := by
      rw [← hc, Block.length_load (by omega)]
    refine ⟨c, .ofNat (bap.length + 11), ?_, ?_⟩
    · simp only [fillBuffer, hp, Bool.false_eq_true, if_false, hcopy, bind, Except.bind, pure,
        Except.pure, ge_iff_le, hdue, if_true, Tally.toNat_ofNat (Nat.lt_of_le_of_lt h2 (by decide)), hadd]
    · simp only [hdue, if_true, hlen]
      exact ⟨Tally.toNat_ofNat (by omega), by omega, hc⟩
  · refine ⟨t.buffer.store 0 bap (by omega), .ofNat bap.length, ?_, ?_⟩
    · simp only [fillBuffer, hp, Bool.false_eq_true, if_false, hcopy, bind, Except.bind, pure,
        Except.pure, ge_iff_le, hdue]
    · simp only [hdue, if_false]
      exact ⟨Tally.toNat_ofNat (by omega), by omega, hload⟩

/-- **The entry's message is in the buffer.** -/
theorem fillBuffer_message (hb : EntryOk t.payloadIsPcap bap) :
    ∃ buffer dnsseccounter querySize,
      t.fillBuffer bap = .ok ({ t with buffer, dnsseccounter }, querySize) ∧
      let m := message t.payloadIsPcap (100 ≤ t.dnsseccounter + t.dnssecRate) bap
      querySize.toNat = m.length ∧ m.length ≤ 4054 ∧ buffer.load 0 m.length = m := by
  unfold EntryOk at hb
  rcases Bool.eq_false_or_eq_true t.payloadIsPcap with hp | hp
  · rw [if_pos hp] at hb
    obtain ⟨buffer, querySize, hf, hsize, hload⟩ := fillBuffer_pcap hp (Nat.le_trans (by decide) hb.1) hb.2
    have hlen : (bap.drop 42).length = bap.length - 42 := List.length_drop
    refine ⟨buffer, t.dnsseccounter, querySize, hf, ?_⟩
    simp only [message, hp, if_true, hlen]
    exact ⟨hsize, by omega, hload⟩
  · rw [hp, if_neg (by decide)] at hb
    obtain ⟨buffer, querySize, hf, hsize, hle, hload⟩ := fillBuffer_text hp hb.1 hb.2
    refine ⟨buffer, _, querySize, hf, ?_⟩
    simp only [message, hp, Bool.false_eq_true, if_false, decide_eq_true_eq]
    exact ⟨hsize, by omega, hload⟩

end DNSSenderThread

end Dnsmeter
