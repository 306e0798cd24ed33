import Dnsmeter.Lib.Tally
import Dnsmeter.Proof.RoundRobin
import Dnsmeter.Proof.Wire

/-!
# Pcap files

`loadAndCompilePcapFile` looks at fixed offsets behind the pointer that `pcap_next` returns. It does
not ask whether the record was captured that far, nor for the protocol and the header length in the
IP header, but `sendPacket` later cuts off 42 bytes.

* `collect_eq`: what the loop puts into the cache, and its count.
* `reached_draw`: what a thread draws is an entry of the cache.
* `frames_safe_iff`: when every frame is long enough, and what follows for every later call of
  `sendPacket`.
* `queries_replayed_iff`: when the frames are the UDP queries of the file.
-/

namespace Dnsmeter

open Datagram

namespace PayloadFile

/-- The loop of `loadAndCompilePcapFile`. -/
def collect (p : PayloadFile) (records : List PcapRecord) : PayloadFile :=
  records.foldl (fun p r => if isQuery r then p.push r.data else p) p

/-- The payload when the loop starts. -/
def pcapStart (p : PayloadFile) : PayloadFile :=
  { p with payloadIsPcap := true, validLinesInQueryFile := 0 }

theorem collect_eq (records : List PcapRecord) (p : PayloadFile) :
    p.collect records = { p with
      querycache := p.querycache ++ (records.filter isQuery).map PcapRecord.data
      validLinesInQueryFile := p.validLinesInQueryFile + .ofNat (records.filter isQuery).length } := by
  induction records generalizing p with
  | nil => simp [collect]
  | cons r records ih =>
    have hcons : p.collect (r :: records) = (if isQuery r then p.push r.data else p).collect records :=
      rfl
    rw [hcons, ih, List.filter_cons]
    by_cases h : isQuery r = true
    · simp only [h, if_true, push, List.map_cons, List.append_assoc, List.singleton_append,
        List.length_cons, Tally.ofNat_succ]
      rw [add_assoc, add_comm 1]
    · simp only [h, Bool.false_eq_true, if_false]

section
variable {openOffline : PcapOpenOffline} {filename : String} {content : Bytes}
  {records : List PcapRecord} (ho : openOffline content = .ok records)

include ho

/-- The loader behind `pcap_open_offline`. -/
theorem loadAndCompilePcapFile_eq (p : PayloadFile) :
    loadAndCompilePcapFile openOffline p filename content =
      if (p.pcapStart.collect records).validLinesInQueryFile = 0 then
        .error (.invalidQueryFile ("No valid Queries found in pcap file [" ++ filename ++ "]"))
      else .ok (p.pcapStart.collect records) := by
  unfold loadAndCompilePcapFile
  simp only [ho]
  rfl

theorem collect_of_ok {p q : PayloadFile}
    (h : loadAndCompilePcapFile openOffline p filename content = .ok q) :
    q = p.pcapStart.collect records := by
  rw [loadAndCompilePcapFile_eq ho] at h
  split at h
  · cases h
  · cases h
    rfl

end

/-- The tests of the loop, byte by byte. -/
theorem isQuery_iff {r : PcapRecord} : isQuery r = true ↔ r.caplen ≤ 4096 ∧
    [r.peek 12, r.peek 13] = [0x08, 0x00] ∧ r.peek 14 >>> 4 = 4 ∧
    [r.peek 36, r.peek 37] = [0, 53] ∧ r.peek 44 >>> 7 = 0 ∧ (r.peek 44 >>> 3) &&& 15 = 0 := by
  have h1 : le16 (htons 0x0800) = [0x08, 0x00] := by
    rw [le16_htons]
    rfl
  have h2 : le16 (htons 53) = [0, 53] := by
    rw [le16_htons]
    rfl
  simp only [isQuery, decide_eq_true_eq, ofLe16_eq_iff, h1, h2, DNSHeader.ofBytes]

theorem length_data_of_isQuery {r : PcapRecord} (h : isQuery r = true) : r.data.length ≤ 4096 :=
  (isQuery_iff.1 h).1

/-- `getQuery` hands out an entry of the cache and leaves the cache alone. -/
theorem getQuery_ok {p p' : PayloadFile} {bap : Bytes} (h : p.getQuery = .ok (bap, p')) :
    bap ∈ p.querycache ∧ p'.querycache = p.querycache := by
  unfold getQuery at h
  split at h
  · rename_i entry hentry
    cases h
    exact ⟨List.mem_of_getElem? hentry, rfl⟩
  · cases h

end PayloadFile

namespace DNSSender

open PayloadFile

theorem querycache_acts {w w' : Worker} {p p' : PayloadFile} {a : Action}
    {r : Option DNSSenderThread.SendResult} (h : w.Acts p a w' p' r) :
    p'.querycache = p.querycache := by
  cases h with
  | skip => rfl
  | start => rfl
  | noPayload => rfl
  | finish => rfl
  | returned _ ht =>
    obtain ⟨bap, t1, qs, pkt1, pkt2, hq, -⟩ := DNSSenderThread.trySend_ok ht
    exact (getQuery_ok hq).2
  | raised _ ht =>
    rcases DNSSenderThread.trySend_error ht with ⟨-, -, rfl⟩ | ⟨bap, hq, -⟩
    · rfl
    · exact (getQuery_ok hq).2

/-- **A property of the payload that no draw breaks** holds in every state the program reaches. -/
theorem reached_payload {J : PayloadFile → Prop} {s0 u : DNSSender} {mem : Nat → Block 4096}
    (hJ : ∀ {w w' : Worker} {p p' a r}, J p → w.Acts p a w' p' r → J p') (h0 : J s0.payload)
    (hu : Reached s0 mem u) : J u.payload := by
  obtain ⟨s, evs, hs, rfl⟩ := hu
  obtain ⟨threads, -, hs'⟩ := Run.bind_ok_iff.1 hs
  cases hs'
  refine Run.trace_state_inv (J := fun v : DNSSender => J v.payload) ?_ h0
  intro v e hv
  cases e with
  | run r procNetDev =>
    have hnone : (v.step (.run r procNetDev)).2 = none := by
      simp only [step]
      split
      · split <;> rfl
      · rfl
    rw [payload_step_of_none hnone]
    exact hv
  | act i a =>
    simp only [step]
    rcases v.act_spec i a with ⟨-, hs⟩ | ⟨w, w', p', r, -, hacts, hs⟩
    · rw [hs]
      exact hv
    · rw [hs]
      exact hJ hv hacts

/-- **What a thread draws is an entry of the payload the program started with.** -/
theorem reached_draw {s0 u : DNSSender} {mem : Nat → Block 4096} (hu : Reached s0 mem u)
    {entry : Bytes} {p : PayloadFile} (hq : u.payload.getQuery = .ok (entry, p)) :
    entry ∈ s0.payload.querycache := by
  have hcache : u.payload.querycache = s0.payload.querycache :=
    reached_payload (J := fun p => p.querycache = s0.payload.querycache)
      (fun hp hacts => (querycache_acts hacts).trans hp) rfl hu
  rw [← hcache]
  exact (getQuery_ok hq).1

/-! ## Frames that are long enough -/

/-- A record cut off before the end of the DNS header that passes the tests on what lies in the
capture buffer. -/
structure TruncatedQuery (r : PcapRecord) : Prop where
  caplen : r.caplen < 14 + 20 + 8 + 12
  ethertype : [r.peek 12, r.peek 13] = [0x08, 0x00]
  version : r.peek 14 >>> 4 = 4
  dport : [r.peek 36, r.peek 37] = [0, 53]
  qr : r.peek 44 >>> 7 = 0
  opcode : (r.peek 44 >>> 3) &&& 15 = 0

/-- What a call of `sendPacket` does with a frame: the size does not wrap, the copied range lies in
the frame and in the buffer, the guard of `setPayload` is computed without a wrap and passes, and the
source is read from captured bytes. -/
structure FrameSafe (t : DNSSenderThread) (frame : Bytes) (env : SendEnv) : Prop where
  size : (UInt64.ofNat frame.length - .ofNat DNSSenderThread.PCAP_HEADER_SIZE).toNat =
    frame.length - 42 ∧ 42 ≤ frame.length
  sent : ∃ t1 querySize pkt1 pkt2, t.fillBuffer frame = .ok (t1, querySize) ∧
    querySize.toNat = frame.length - 42 ∧
    (querySize + .ofNat HDRSZ).toNat = querySize.toNat + HDRSZ ∧
    querySize.toNat + HDRSZ ≤ MAXPACKETSIZE ∧
    t1.pkt.setPayload t1.buffer.bytes querySize = .ok pkt1 ∧
    t1.chooseSource pkt1 frame env = .ok pkt2
  source : ∀ pkt : Packet, ∃ pkt', pkt.useSourceFromPcap frame = .ok pkt'

theorem Wired.frameSafe {s : DNSSender} {w : Worker} {frame : Bytes} (h : s.Wired w)
    (hrun : w.state = .running) (hp : s.payload.payloadIsPcap = true) (h1 : 54 ≤ frame.length)
    (h2 : frame.length ≤ 4096) (env : SendEnv) : FrameSafe w.thread frame env := by
  have hentry : EntryOk s.payload.payloadIsPcap frame := by
    rw [hp]
    exact ⟨h1, h2⟩
  obtain ⟨t1, querySize, pkt1, pkt2, hf, hset, hc, -, -⟩ := h.built hrun (fun _ _ => hp) hentry env
  obtain ⟨buffer, querySize', hf', hsize, -⟩ :=
    DNSSenderThread.fillBuffer_pcap (h.configured.payloadIsPcap.trans hp) (by omega) h2
  cases hf.symm.trans hf'
  refine ⟨⟨DNSSenderThread.toNat_sub_header (by omega) h2, by omega⟩,
    ⟨_, querySize, pkt1, pkt2, hf, hsize, ?_, ?_, hset, hc⟩, ?_⟩
  · rw [UInt64.toNat_add, show (UInt64.ofNat HDRSZ).toNat = HDRSZ from rfl]
    simp only [HDRSZ, ISZ, USZ]
    omega
  · simp only [HDRSZ, ISZ, USZ, MAXPACKETSIZE]
    omega
  · intro pkt
    exact pkt.useSourceFromPcap_of_le (by omega)

/-- Every frame the loader caches is long enough, and so every later call of `sendPacket`, in any
program that starts with the loaded payload, is safe. -/
structure FramesSafe (openOffline : PcapOpenOffline) (filename : String) (content : Bytes)
    (records : List PcapRecord) : Prop where
  captured : ∀ frame ∈ (PayloadFile.new.pcapStart.collect records).querycache,
    14 + 20 + 8 + 12 ≤ frame.length
  calls : ∀ q, loadAndCompilePcapFile openOffline .new filename content = .ok q →
    ∀ (s0 : DNSSender) (mem : Nat → Block 4096) (u : DNSSender), s0.payload = { q with it := 0 } →
      s0.threadpool = [] → Reached s0 mem u →
      ∀ (i : Nat) (w : Worker) (frame : Bytes) (p : PayloadFile), u.threadpool[i]? = some w →
        w.state = .running → u.payload.getQuery = .ok (frame, p) →
        ∀ env, FrameSafe w.thread frame env

/-- The frames in the cache are records that passed the tests. -/
theorem mem_collect {records : List PcapRecord} {frame : Bytes}
    (h : frame ∈ (PayloadFile.new.pcapStart.collect records).querycache) :
    ∃ r ∈ records, isQuery r = true ∧ r.data = frame := by
  rw [collect_eq] at h
  obtain ⟨r, hr, rfl⟩ := List.mem_map.1 h
  exact ⟨r, (List.mem_filter.1 hr).1, (List.mem_filter.1 hr).2, rfl⟩

/-- **When the frames handed to the sender are long enough**: no truncated record of the file passes
for a query. -/
theorem frames_safe_iff {openOffline : PcapOpenOffline} {filename : String} {content : Bytes}
    {records : List PcapRecord} (ho : openOffline content = .ok records) :
    FramesSafe openOffline filename content records ↔ ∀ r ∈ records, ¬ TruncatedQuery r := by
  constructor
  · intro h r hr ht
    have hq : isQuery r = true := by
      rw [isQuery_iff]
      have hlt := ht.caplen
      exact ⟨by omega, ht.ethertype, ht.version, ht.dport, ht.qr, ht.opcode⟩
    have hmem : r.data ∈ (PayloadFile.new.pcapStart.collect records).querycache := by
      rw [collect_eq]
      exact List.mem_map_of_mem (List.mem_filter.2 ⟨hr, hq⟩)
    exact absurd (h.captured r.data hmem) (Nat.not_le.2 ht.caplen)
  · intro h
    have hlen : ∀ frame ∈ (PayloadFile.new.pcapStart.collect records).querycache,
        54 ≤ frame.length ∧ frame.length ≤ 4096 := by
      intro frame hf
      obtain ⟨r, hr, hq, rfl⟩ := mem_collect hf
      refine ⟨?_, length_data_of_isQuery hq⟩
      by_contra hlt
      obtain ⟨-, he, hv, hd, hqr, hop⟩ := isQuery_iff.1 hq
      exact h r hr ⟨Nat.not_le.1 hlt, he, hv, hd, hqr, hop⟩
    refine ⟨fun frame hf => (hlen frame hf).1, ?_⟩
    intro q hload s0 mem u hs0 h0 hu i w frame p hw hrun hdraw env
    have hq := collect_of_ok ho hload
    have hmem : frame ∈ (PayloadFile.new.pcapStart.collect records).querycache := by
      have := reached_draw hu hdraw
      rw [hs0, hq] at this
      exact this
    have hpcap : s0.payload.payloadIsPcap = true := by
      rw [hs0, hq, collect_eq]
      rfl
    exact (reached_wired h0 hu w (List.mem_of_getElem? hw)).frameSafe hrun hpcap
      (hlen frame hmem).1 (hlen frame hmem).2 env

/-- A frame of 54 bytes from 192.0.2.1 to port 53, with the given byte 14 and protocol. -/
def queryFrame (versionAndLength protocol : UInt8) : Bytes :=
  List.replicate 12 0 ++ [0x08, 0x00, versionAndLength] ++ List.replicate 8 0 ++
    [protocol, 0, 0, 192, 0, 2, 1, 0, 0, 0, 0, 0x12, 0x34, 0, 53] ++ List.replicate 16 0

/-- A pcap file of Ethernet frames: its header, and behind it each record, captured up to the given
length. -/
def pcapFileOf (records : List Bytes) : Bytes :=
  [0xd4, 0xc3, 0xb2, 0xa1, 2, 0, 4, 0, 0, 0, 0, 0, 0, 0, 0, 0, 0, 0, 4, 0, 1, 0, 0, 0] ++
    records.flatMap fun data =>
      List.replicate 8 0 ++ le32 (.ofNat data.length) ++ le32 54 ++ data

/-- What libpcap returns for a file with one record. -/
def oneRecord : PcapOpenOffline := fun content => .ok [⟨content.drop 40, fun _ => 0⟩]

/-- What libpcap returns for a file with a record of 54 and one of 20 bytes: behind the second one
the buffer holds the first. -/
def longThenShort : PcapOpenOffline := fun content =>
  .ok [⟨slice content 40 54, fun _ => 0⟩, ⟨slice content 110 20, fun i => content.getD (40 + i) 0⟩]

theorem frames_safe_one_query : FramesSafe oneRecord "f.pcap" (pcapFileOf [queryFrame 0x45 17])
    [⟨queryFrame 0x45 17, fun _ => 0⟩] := by
  have ho : oneRecord (pcapFileOf [queryFrame 0x45 17]) = .ok [⟨queryFrame 0x45 17, fun _ => 0⟩] := rfl
  refine (frames_safe_iff ho).2 ?_
  intro r hr ht
  rw [List.mem_singleton.1 hr] at ht
  exact absurd ht.caplen (by decide)

/-- A query cut off behind 20 bytes, in the buffer of the query before it, is cached. The call that
draws it reads out of bounds. -/
theorem truncated_frame_cached : ∃ q,
    loadAndCompilePcapFile longThenShort .new "f.pcap"
      (pcapFileOf [queryFrame 0x45 17, (queryFrame 0x45 17).take 20]) = .ok q ∧
    q.querycache = [queryFrame 0x45 17, (queryFrame 0x45 17).take 20] ∧
    (((DNSSenderThread.new (.zero 4096)).setPayload q).fillBuffer
      ((queryFrame 0x45 17).take 20)).map Prod.snd = .error .outOfBounds ∧
    ∃ records, longThenShort (pcapFileOf [queryFrame 0x45 17, (queryFrame 0x45 17).take 20]) =
        .ok records ∧
      ¬ FramesSafe longThenShort "f.pcap"
        (pcapFileOf [queryFrame 0x45 17, (queryFrame 0x45 17).take 20]) records := by
  refine ⟨_, rfl, by decide +kernel, by decide +kernel, _, rfl, ?_⟩
  intro h
  have hlen := h.captured ((queryFrame 0x45 17).take 20) (by decide +kernel)
  exact absurd hlen (by decide)

/-! ## The queries of the file -/

/-- The records to be replayed: IPv4 and UDP, with an IP header of 20 bytes, to port 53, with QR and
opcode 0. -/
def isUdpQuery (r : PcapRecord) : Bool :=
  let b := fun i => r.data.getD i 0
  r.data.length ≤ 4096 ∧ slice r.data 12 2 = [0x08, 0x00] ∧ b 14 >>> 4 = 4 ∧ b 14 &&& 15 = 5 ∧
    b 23 = 17 ∧ slice r.data 36 2 = [0, 53] ∧ b 44 >>> 7 = 0 ∧ (b 44 >>> 3) &&& 15 = 0

/-- The cache is the queries of the file, in order, the count is their number, and the loader raises
iff there is none. -/
structure QueriesReplayed (openOffline : PcapOpenOffline) (filename : String) (content : Bytes)
    (records : List PcapRecord) : Prop where
  cached : (PayloadFile.new.pcapStart.collect records).querycache =
    (records.filter isUdpQuery).map PcapRecord.data
  counted : (PayloadFile.new.pcapStart.collect records).validLinesInQueryFile.toNat =
    (records.filter isUdpQuery).length
  loaded : ∀ q, loadAndCompilePcapFile openOffline .new filename content = .ok q →
    q = PayloadFile.new.pcapStart.collect records
  raises : (∃ msg, loadAndCompilePcapFile openOffline .new filename content =
    .error (.invalidQueryFile msg)) ↔ records.filter isUdpQuery = []

theorem peek_eq {r : PcapRecord} {i : Nat} (h : i < r.data.length) : r.peek i = r.data.getD i 0 := by
  rw [PcapRecord.peek, List.getD_eq_getElem?_getD, List.getD_eq_getElem?_getD,
    List.getElem?_eq_getElem h]
  rfl

theorem slice_two {data : Bytes} {i : Nat} (h : i + 1 < data.length) :
    slice data i 2 = [data.getD i 0, data.getD (i + 1) 0] := by
  rw [slice, List.drop_eq_getElem_cons (by omega), List.drop_eq_getElem_cons h,
    List.getD_eq_getElem?_getD, List.getD_eq_getElem?_getD, List.getElem?_eq_getElem (by omega),
    List.getElem?_eq_getElem h]
  rfl

/-- On a record that holds all headers, a query to be replayed is one of the two tests more. -/
theorem isUdpQuery_iff {r : PcapRecord} (hl : 54 ≤ r.caplen) :
    isUdpQuery r = true ↔ isQuery r = true ∧ r.data.getD 23 0 = 17 ∧ r.data.getD 14 0 &&& 15 = 5 := by
  have hb : ∀ i, i < 54 → r.peek i = r.data.getD i 0 :=
    fun i hi => peek_eq (Nat.lt_of_lt_of_le hi hl)
  have hs : ∀ i, i + 1 < 54 → slice r.data i 2 = [r.data.getD i 0, r.data.getD (i + 1) 0] :=
    fun i hi => slice_two (Nat.lt_of_lt_of_le hi hl)
  rw [isQuery_iff, hb 12 (by decide), hb 13 (by decide), hb 14 (by decide), hb 36 (by decide),
    hb 37 (by decide), hb 44 (by decide)]
  simp only [isUdpQuery, decide_eq_true_eq, hs 12 (by decide), hs 36 (by decide)]
  constructor
  · rintro ⟨hc, he, hv, hihl, hproto, hd, hq, ho⟩
    exact ⟨⟨hc, he, hv, hd, hq, ho⟩, hproto, hihl⟩
  · rintro ⟨⟨hc, he, hv, hd, hq, ho⟩, hproto, hihl⟩
    exact ⟨hc, he, hv, hihl, hproto, hd, hq, ho⟩

/-- A filter by a stronger test that keeps as many elements is the same filter. -/
theorem forall_of_length_filter {α : Type} {p q : α → Bool} {l : List α}
    (hpq : ∀ x ∈ l, q x = true → p x = true) (hlen : (l.filter q).length = (l.filter p).length) :
    ∀ x ∈ l, p x = true → q x = true := by
  have hsub : (l.filter p).filter q = l.filter q := by
    rw [List.filter_filter]
    apply List.filter_congr
    intro x hx
    by_cases h : q x = true
    · simp [h, hpq x hx h]
    · simp [h]
  have heq : (l.filter p).filter q = l.filter p :=
    List.filter_sublist.eq_of_length (by rw [hsub, hlen])
  intro x hx hp
  exact List.filter_eq_self.1 heq x (List.mem_filter.2 ⟨hx, hp⟩)

/-- **When only the UDP queries are replayed**: every record that passes the tests of the loop
carries UDP behind an IP header of 20 bytes, and the counter does not wrap. -/
theorem queries_replayed_iff {openOffline : PcapOpenOffline} {filename : String} {content : Bytes}
    {records : List PcapRecord} (ho : openOffline content = .ok records)
    (hl : ∀ r ∈ records, 54 ≤ r.caplen) :
    QueriesReplayed openOffline filename content records ↔
      (∀ r ∈ records, isQuery r = true → r.data.getD 23 0 = 17 ∧ r.data.getD 14 0 &&& 15 = 5) ∧
        records.countP isQuery < 2 ^ 64 := by
  have hweak : ∀ r ∈ records, isUdpQuery r = true → isQuery r = true :=
    fun r hr h => ((isUdpQuery_iff (hl r hr)).1 h).1
  have hcount : (PayloadFile.new.pcapStart.collect records).validLinesInQueryFile =
      .ofNat (records.filter isQuery).length := by
    rw [collect_eq]
    exact UInt64.zero_add _
  have hcache : (PayloadFile.new.pcapStart.collect records).querycache =
      (records.filter isQuery).map PcapRecord.data := by
    rw [collect_eq]
    rfl
  rw [List.countP_eq_length_filter]
  constructor
  · intro h
    have hlen : (records.filter isUdpQuery).length = (records.filter isQuery).length := by
      have := congrArg List.length (h.cached.symm.trans hcache)
      rwa [List.length_map, List.length_map] at this
    refine ⟨?_, ?_⟩
    · intro r hr hq
      exact ((isUdpQuery_iff (hl r hr)).1 (forall_of_length_filter hweak hlen r hr hq)).2
    · have := h.counted
      rw [hcount, hlen] at this
      rw [← this]
      exact UInt64.toNat_lt _
  · rintro ⟨hudp, hlt⟩
    have hsame : records.filter isUdpQuery = records.filter isQuery := by
      apply List.filter_congr
      intro r hr
      rw [Bool.eq_iff_iff, isUdpQuery_iff (hl r hr)]
      exact ⟨fun h => h.1, fun h => ⟨h, hudp r hr h⟩⟩
    have hnat : (UInt64.ofNat (records.filter isQuery).length).toNat =
        (records.filter isQuery).length := Tally.toNat_ofNat hlt
    refine ⟨by rw [hsame, hcache], by rw [hsame, hcount, hnat], fun q hq => collect_of_ok ho hq, ?_⟩
    rw [loadAndCompilePcapFile_eq ho, hcount, hsame, ← List.length_eq_zero_iff]
    split
    · rename_i h0
      exact iff_of_true ⟨_, rfl⟩ (Tally.eq_zero_of_ofNat hlt h0)
    · rename_i h0
      refine iff_of_false ?_ fun h => h0 (by rw [h]; rfl)
      rintro ⟨msg, hmsg⟩
      cases hmsg

theorem queries_replayed_one_query : QueriesReplayed oneRecord "f.pcap"
    (pcapFileOf [queryFrame 0x45 17]) [⟨queryFrame 0x45 17, fun _ => 0⟩] := by
  have ho : oneRecord (pcapFileOf [queryFrame 0x45 17]) = .ok [⟨queryFrame 0x45 17, fun _ => 0⟩] := rfl
  refine (queries_replayed_iff ho ?_).2 ⟨?_, by decide⟩
  · intro r hr
    rw [List.mem_singleton.1 hr]
    decide
  · intro r hr _
    rw [List.mem_singleton.1 hr]
    decide

/-- A TCP segment to port 53 is replayed. -/
theorem tcp_segment_replayed : ∃ q,
    loadAndCompilePcapFile oneRecord .new "f.pcap" (pcapFileOf [queryFrame 0x45 6]) = .ok q ∧
    q.querycache = [queryFrame 0x45 6] ∧ 54 ≤ (queryFrame 0x45 6).length ∧
    isUdpQuery ⟨queryFrame 0x45 6, fun _ => 0⟩ = false ∧
    ¬ QueriesReplayed oneRecord "f.pcap" (pcapFileOf [queryFrame 0x45 6])
      [⟨queryFrame 0x45 6, fun _ => 0⟩] := by
  refine ⟨_, rfl, by decide, by decide, by decide, ?_⟩
  intro h
  obtain ⟨msg, hmsg⟩ := h.raises.2 (by decide)
  cases hmsg

end DNSSender

end Dnsmeter
