import Dnsmeter.Proof.PcapFile
import Dnsmeter.Proof.InCksum

/-!
# The buffers on the send path

A message goes through three buffers of 4096 bytes: the one of the thread, the packet's behind 28
bytes of headers, and `cbuf` of `udp_cksum` behind 20 bytes, where `in_cksum` adds it up in an `int`.
`Packet` computes the checksums on strings and unbounded numbers; here they are computed as the
source does, every write and every addition checked.

* `udpCksumBuf_eq`, `updateChecksumsInt_eq`: on what fits into the buffers the two agree, so nothing
  overflows.
* `fillBuffer_fits`: what `sendPacket` puts into the thread's buffer.
* `send_in_bounds`: every call, in every state the program reaches.
-/

namespace Dnsmeter

open Datagram OnesComp

/-! ## `udp_cksum` -/

/-- A write at the pointer `p`, which then moves behind it. -/
def writeNext {n : Nat} (s : Block n × Nat) (src : Bytes) : Except Abort (Block n × Nat) := do
  return (← memcpy s.1 s.2 src, s.2 + src.length)

/-- `udp_cksum` on its `cbuf`: the pseudo header, the UDP header and the payload are written one
behind the other, then `in_cksum` reads them with the pad byte. -/
def udpCksumBuf (iphdr udp payload : Bytes) : Except Abort UInt16 := do
  let (cbuf, _) ← [slice iphdr 12 4, slice iphdr 16 4, [0], slice iphdr 9 1, slice udp 4 2,
    slice udp 0 USZ, payload].foldlM writeNext (Block.zero MAXPACKETSIZE, 0)
  inCksumInt (← readMem cbuf.bytes 0 (4 * 3 + USZ + payload.length + payload.length % 2))

/-- A block that holds `xs` and zeros behind it. -/
def Filled {n : Nat} (b : Block n) (xs : Bytes) : Prop :=
  b.bytes = xs ++ List.replicate (n - xs.length) 0

/-- A write at the end of what is there. -/
theorem Filled.writeNext {n : Nat} {b : Block n} {xs : Bytes} (h : Filled b xs) (src : Bytes)
    (hfit : xs.length + src.length ≤ n) :
    ∃ c, writeNext (b, xs.length) src = .ok (c, (xs ++ src).length) ∧ Filled c (xs ++ src) := by
  refine ⟨b.store xs.length src hfit, ?_, ?_⟩
  · rw [Dnsmeter.writeNext, memcpy_of_le hfit, List.length_append]
    rfl
  · unfold Filled at h ⊢
    simp only [Block.store, h]
    rw [List.take_left' rfl, ← List.drop_drop, List.drop_left' rfl, List.drop_replicate,
      List.append_assoc, List.length_append, Nat.sub_sub]

theorem Filled.foldlM_writeNext {n : Nat} (srcs : List Bytes) {b : Block n} {xs : Bytes}
    (h : Filled b xs) (hfit : xs.length + srcs.flatten.length ≤ n) :
    ∃ c p, srcs.foldlM Dnsmeter.writeNext (b, xs.length) = .ok (c, p) ∧
      Filled c (xs ++ srcs.flatten) := by
  induction srcs generalizing b xs with
  | nil => exact ⟨b, xs.length, rfl, by rw [List.flatten_nil, List.append_nil]; exact h⟩
  | cons src srcs ih =>
    rw [List.flatten_cons, List.length_append] at hfit
    obtain ⟨c, hc, hfill⟩ := h.writeNext src (by omega)
    obtain ⟨d, p, hd, hfill'⟩ := ih hfill (by rw [List.length_append]; omega)
    refine ⟨d, p, ?_, ?_⟩
    · rw [List.foldlM_cons, hc]
      exact hd
    · rw [List.flatten_cons, ← List.append_assoc]
      exact hfill'

/-- **`udp_cksum` stays inside `cbuf`.** -/
theorem udpCksumBuf_eq {iphdr udp payload : Bytes} (hi : iphdr.length = 20) (hu : udp.length = 8)
    (hp : payload.length ≤ 4074) : udpCksumBuf iphdr udp payload = .ok (udpCksum iphdr udp payload) := by
  have hflat : [slice iphdr 12 4, slice iphdr 16 4, [0], slice iphdr 9 1, slice udp 4 2,
      slice udp 0 USZ, payload].flatten = udpCbuf iphdr udp payload := by
    have hudp : slice udp 0 USZ = udp := List.take_of_length_le (by rw [List.drop_zero, hu]; rfl)
    rw [hudp]
    simp only [List.flatten_cons, List.flatten_nil, List.append_nil, udpCbuf, slice,
      List.append_assoc]
  have hlen : (udpCbuf iphdr udp payload).length = 20 + payload.length := by
    simp only [udpCbuf, List.length_append, List.length_take, List.length_drop, hi, hu,
      List.length_singleton]
    omega
  have hzero : Filled (Block.zero MAXPACKETSIZE) [] := rfl
  obtain ⟨cbuf, p, hc, hfill⟩ := hzero.foldlM_writeNext [slice iphdr 12 4, slice iphdr 16 4, [0],
    slice iphdr 9 1, slice udp 4 2, slice udp 0 USZ, payload]
    (by rw [hflat, hlen, List.length_nil, MAXPACKETSIZE]; omega)
  rw [hflat, List.nil_append] at hfill
  -- the pad byte behind an odd payload is one of the zeros
  have hread : readMem cbuf.bytes 0 (4 * 3 + USZ + payload.length + payload.length % 2) =
      .ok (udpCbuf iphdr udp payload ++ List.replicate (payload.length % 2) 0) := by
    rw [readMem_of_le (by rw [cbuf.length_eq, USZ, MAXPACKETSIZE]; omega), slice, List.drop_zero,
      hfill, List.take_append, List.take_of_length_le (by rw [hlen, USZ]; omega),
      List.take_replicate, hlen, USZ, MAXPACKETSIZE,
      show min (4 * 3 + 8 + payload.length + payload.length % 2 - (20 + payload.length))
        (4096 - (20 + payload.length)) = payload.length % 2 by omega]
  refine Run.bind_ok_iff.2 ⟨(cbuf, p), hc, Run.bind_ok_iff.2 ⟨_, hread, inCksumInt_eq ?_⟩⟩
  rw [List.length_append, List.length_replicate, hlen]
  omega

namespace Packet

/-- The two checksum fields lie in the buffer. -/
theorem ipChksum_fits : 10 + 2 ≤ MAXPACKETSIZE := by decide

theorem udpChksum_fits : 26 + 2 ≤ MAXPACKETSIZE := by decide

/-- `updateChecksums` with the two functions. -/
def updateChecksumsInt (p : Packet) : Except Abort Packet := do
  let b := p.buffer.store16 10 0 ipChksum_fits
  let b := b.store16 10 (← inCksumInt (b.load 0 ISZ)) ipChksum_fits
  let b := b.store16 26 0 udpChksum_fits
  let b := b.store16 26
    (← udpCksumBuf (b.load 0 ISZ) (b.load ISZ USZ) (b.load HDRSZ p.payloadSize)) udpChksum_fits
  return { p with buffer := b, chksumValid := true }

/-- **No overflow in the checksums** of a packet whose message came through the thread's buffer. -/
theorem updateChecksumsInt_eq {p : Packet} (h : p.payloadSize ≤ 4074) :
    p.updateChecksumsInt = .ok p.updateChecksums := by
  have hlen : ∀ (b : Block MAXPACKETSIZE) off len, off + len ≤ 4096 → (b.load off len).length = len :=
    fun b off len h => Block.length_load h
  have hfit := p.payload_fits
  simp only [HDRSZ, ISZ, USZ, MAXPACKETSIZE] at hfit
  refine Run.bind_ok_iff.2 ⟨_, inCksumInt_eq ?_, Run.bind_ok_iff.2 ⟨_, udpCksumBuf_eq ?_ ?_ ?_, rfl⟩⟩
  · rw [hlen _ _ _ (by decide)]
    decide
  · exact hlen _ _ _ (by decide)
  · exact hlen _ _ _ (by decide)
  · rw [hlen _ _ _ (by simp only [HDRSZ, ISZ, USZ]; omega)]
    exact h

end Packet

/-! ## `sendPacket` -/

/-- The cache entries: a captured frame with Ethernet, IP and UDP headers, or a compiled query, which
`res_mkquery` makes at most 12 + 255 + 4 bytes long. -/
def EntryFits (isPcap : Bool) (entry : Bytes) : Prop :=
  if isPcap then 42 ≤ entry.length ∧ entry.length ≤ 4096 else entry.length ≤ 12 + 255 + 4

instance (isPcap : Bool) (entry : Bytes) : Decidable (EntryFits isPcap entry) :=
  inferInstanceAs (Decidable (if isPcap then 42 ≤ entry.length ∧ entry.length ≤ 4096
    else entry.length ≤ 12 + 255 + 4))

namespace DNSSenderThread

variable {t : DNSSenderThread} {bap : Bytes}

/-- **The thread's buffer**: the message and the 11 bytes behind it fit, and leave room for the
headers in the packet. -/
theorem fillBuffer_fits (h : EntryFits t.payloadIsPcap bap) : ∃ buffer dnsseccounter querySize,
    t.fillBuffer bap = .ok ({ t with buffer, dnsseccounter }, querySize) ∧
      querySize.toNat ≤ 4096 - 42 := by
  unfold EntryFits at h
  rcases Bool.eq_false_or_eq_true t.payloadIsPcap with hp | hp
  · rw [if_pos hp] at h
    obtain ⟨buffer, querySize, hf, hsize, -⟩ := fillBuffer_pcap hp h.1 h.2
    exact ⟨buffer, t.dnsseccounter, querySize, hf, by omega⟩
  · rw [hp, if_neg (by decide)] at h
    have hcopy : memcpy t.buffer 0 bap = .ok (t.buffer.store 0 bap (by omega)) := memcpy_of_le _
    have hsize : (UInt64.ofNat bap.length).toNat = bap.length := Tally.toNat_ofNat (by omega)
    by_cases hdue : 100 ≤ t.dnsseccounter + t.dnssecRate
    · obtain ⟨c, hadd⟩ : ∃ c, addDnssecToQuery (t.buffer.store 0 bap (by omega)) 0 bap.length 4096 =
          .ok (c, bap.length + 11) :=
        ⟨_, addDnssecToQuery_eq _ 4096 (by decide) (show 0 + bap.length + 11 ≤ 4096 by omega)⟩
      refine ⟨c, t.dnsseccounter + t.dnssecRate - 100, .ofNat (bap.length + 11), ?_, ?_⟩
      · simp only [fillBuffer, hp, Bool.false_eq_true, if_false, hcopy, bind, Except.bind, pure,
          Except.pure, ge_iff_le, hdue, if_true, hsize, hadd]
      · rw [Tally.toNat_ofNat (by omega)]
        omega
    · refine ⟨t.buffer.store 0 bap (by omega), t.dnsseccounter + t.dnssecRate, .ofNat bap.length, ?_,
        by omega⟩
      simp only [fillBuffer, hp, Bool.false_eq_true, if_false, hcopy, bind, Except.bind, pure,
        Except.pure, ge_iff_le, hdue]

theorem payloadSize_chooseSource {pkt pkt' : Packet} {env : SendEnv}
    (h : t.chooseSource pkt bap env = .ok pkt') : pkt'.payloadSize = pkt.payloadSize := by
  unfold chooseSource at h
  split at h
  · split at h
    · obtain ⟨a, port, -, -, rfl⟩ := Packet.useSourceFromPcap_ok h
      rfl
    · cases h
      rfl
  · cases h
    rfl

/-- The only failure of the source's choice: an entry that ends before the port. -/
theorem chooseSource_error {pkt : Packet} {env : SendEnv} {e : Abort}
    (h : t.chooseSource pkt bap env = .error e) :
    e = .outOfBounds ∧ t.spoofingEnabled = true ∧ t.spoofingFromPcap = true ∧ bap.length < 36 := by
  unfold chooseSource at h
  split at h
  · rename_i hs
    split at h
    · rename_i hp
      refine ⟨?_, hs, hp, ?_⟩
      · unfold Packet.useSourceFromPcap at h
        split at h
        · cases h
        · cases h
          rfl
      · by_contra hlt
        obtain ⟨pkt', hok⟩ := pkt.useSourceFromPcap_of_le (show 36 ≤ bap.length by omega)
        rw [hok] at h
        cases h
    · cases h
  · cases h

/-- **What can leave a pass** that draws an entry that fits: the broadcast address as target, and a
source read from a query that is no frame. -/
theorem trySend_raises {p p' payload' : PayloadFile} {t' : DNSSenderThread} {env : SendEnv} {e : Abort}
    (h : EntryFits t.payloadIsPcap bap) (hq : p.getQuery = .ok (bap, payload'))
    (ht : t.trySend p env = .error (e, t', p')) :
    e = .unknownDestination ∧ t.dest = 0xffffffff ∨
      e = .outOfBounds ∧ t.spoofingEnabled = true ∧ t.spoofingFromPcap = true ∧
        t.payloadIsPcap = false ∧ bap.length < 36 := by
  obtain ⟨buffer, dnsseccounter, querySize, hf, hsize⟩ := fillBuffer_fits h
  obtain ⟨pkt1, hp, -⟩ := t.pkt.setPayload_of_le buffer.bytes querySize
    (by rw [buffer.length_eq]; omega) (by simp only [HDRSZ, ISZ, USZ, MAXPACKETSIZE]; omega)
  rcases trySend_error ht with ⟨hq', -, -⟩ | ⟨bap', hq', hrest⟩
  · cases hq.symm.trans hq'
  cases hq.symm.trans hq'
  rcases hrest with ⟨hf', -⟩ | ⟨t2, qs, hf', hrest⟩
  · cases hf.symm.trans hf'
  cases hf.symm.trans hf'
  rcases hrest with ⟨hp', -⟩ | ⟨pkt1', hp', ⟨hc, -⟩ | ⟨pkt2, -, rfl, hdest, -⟩⟩
  · cases hp.symm.trans hp'
  · obtain ⟨rfl, hspoof, hpcap, hlt⟩ := chooseSource_error hc
    refine .inr ⟨rfl, hspoof, hpcap, ?_, hlt⟩
    by_contra htrue
    rw [EntryFits, if_pos (by simpa using htrue)] at h
    omega
  · exact .inl ⟨rfl, hdest⟩

/-- A call of `sendPacket` that draws `entry` stays inside the buffers. -/
structure InBounds (t : DNSSenderThread) (entry : Bytes) (env : SendEnv) : Prop where
  /-- The thread's buffer and the packet's, and `cbuf` with the `int` of `in_cksum`. -/
  buffers : ∃ t1 querySize pkt1, t.fillBuffer entry = .ok (t1, querySize) ∧
    t1.pkt.setPayload t1.buffer.bytes querySize = .ok pkt1 ∧
    ∀ pkt2, t1.chooseSource pkt1 entry env = .ok pkt2 →
      (pkt2.setDnsId (getQueryTimestamp env.tp)).updateChecksumsInt =
        .ok (pkt2.setDnsId (getQueryTimestamp env.tp)).updateChecksums
  /-- What can leave the call: the broadcast address as target, and a source read from a query
  that is no frame. -/
  raises : ∀ (payload payload' : PayloadFile), payload.getQuery = .ok (entry, payload') →
    ∀ envs e t' p', t.sendPacket payload (env :: envs) = .raised e t' p' →
      e = .unknownDestination ∨
        e = .outOfBounds ∧ t.spoofingFromPcap = true ∧ t.payloadIsPcap = false ∧ entry.length < 36

/-- **The bounds of a call**, for every entry that fits. -/
theorem inBounds_of_fits (h : EntryFits t.payloadIsPcap bap) (env : SendEnv) :
    t.InBounds bap env := by
  obtain ⟨buffer, dnsseccounter, querySize, hf, hsize⟩ := fillBuffer_fits h
  obtain ⟨pkt1, hp, hsize1, -, -⟩ := t.pkt.setPayload_of_le buffer.bytes querySize
    (by rw [buffer.length_eq]; omega) (by simp only [HDRSZ, ISZ, USZ, MAXPACKETSIZE]; omega)
  refine ⟨⟨_, querySize, pkt1, hf, hp, ?_⟩, ?_⟩
  · intro pkt2 hc
    apply Packet.updateChecksumsInt_eq
    show pkt2.payloadSize ≤ 4074
    rw [payloadSize_chooseSource hc, hsize1]
    omega
  · intro payload payload' hq envs e t' p' hr
    rw [sendPacket_cons] at hr
    split at hr
    · cases hr
    rename_i e1 t1 p1 ht
    cases hr
    rcases trySend_raises h hq ht with ⟨he, -⟩ | ⟨he, -, hpcap, htext, hlt⟩
    · exact .inl he
    · exact .inr ⟨he, hpcap, htext, hlt⟩

end DNSSenderThread

namespace DNSSender

/-- **No buffer overflows on the send path**: in every state the program reaches, every call of a
running thread. In particular no `BufferOverflow` leaves `sendPacket`. -/
theorem send_in_bounds {s0 u : DNSSender} {mem : Nat → Block 4096} {i : Nat} {w : Worker}
    {entry : Bytes} {p : PayloadFile} (h0 : s0.threadpool = [])
    (hfits : ∀ entry ∈ s0.payload.querycache, EntryFits s0.payload.payloadIsPcap entry)
    (hu : Reached s0 mem u) (hw : u.threadpool[i]? = some w)
    (hq : u.payload.getQuery = .ok (entry, p)) (env : SendEnv) (envs : List SendEnv) :
    w.thread.InBounds entry env ∧
      ∀ size max t' p', w.thread.sendPacket u.payload (env :: envs) ≠
        .raised (.bufferOverflow size max) t' p' := by
  have hwired := reached_wired h0 hu w (List.mem_of_getElem? hw)
  have hentry : EntryFits w.thread.payloadIsPcap entry := by
    rw [hwired.configured.payloadIsPcap]
    exact hfits entry (reached_draw hu hq)
  have hin := DNSSenderThread.inBounds_of_fits hentry env
  refine ⟨hin, ?_⟩
  intro size max t' p' hr
  rcases hin.raises u.payload p hq envs _ _ _ hr with h | ⟨h, -⟩
  · cases h
  · cases h

/-- One thread on a frame of 4096 bytes and one of 42. -/
def extremeFrames : DNSSender :=
  { twoFrames with payload := ⟨2, [frame 4060, frame 6], 0, true⟩ }

theorem send_in_bounds_extreme : ∃ u w, Reached extremeFrames (fun _ => .zero 4096) u ∧
    u.threadpool[0]? = some w ∧ w.thread.InBounds (frame 4060) (passOf 4082 0) := by
  obtain ⟨s, u, hs, hu, hpool, hq⟩ : ∃ s u,
      extremeFrames.prepareThreads (fun _ => .zero 4096) = .ok s ∧
      u = (Run.trace step s [.run 0 [], .act 0 .start]).1 ∧
      u.threadpool[0]?.map Worker.state = some .running ∧
      u.payload.getQuery.map Prod.fst = .ok (frame 4060) :=
    ⟨_, _, rfl, rfl, rfl, rfl⟩
  obtain ⟨w, hw, -⟩ := Option.map_eq_some_iff.1 hpool
  have hreach : Reached extremeFrames (fun _ => .zero 4096) u := ⟨s, _, hs, hu⟩
  have hfits : ∀ entry ∈ extremeFrames.payload.querycache,
      EntryFits extremeFrames.payload.payloadIsPcap entry := by
    have hlen : ∀ n, (frame n).length = 36 + n := by
      intro n
      simp only [frame, List.length_append, List.length_replicate, List.length_cons, List.length_nil]
    have h : ∀ n, 6 ≤ n → n ≤ 4060 → EntryFits true (frame n) := by
      intro n h1 h2
      rw [EntryFits, if_pos rfl, hlen]
      omega
    intro entry he
    rcases List.mem_cons.1 he with rfl | he
    · exact h 4060 (by decide) (by decide)
    · rw [List.mem_singleton.1 he]
      exact h 6 (by decide) (by decide)
  cases hq' : u.payload.getQuery with
  | error e =>
    rw [hq'] at hq
    cases hq
  | ok r =>
    obtain ⟨entry, p⟩ := r
    rw [hq'] at hq
    cases hq
    exact ⟨u, w, hreach, hw, (send_in_bounds rfl hfits hreach hw hq' (passOf 4082 0) []).1⟩

end DNSSender

end Dnsmeter
