import Dnsmeter.Proof.Header
import Dnsmeter.Proof.Message
import Dnsmeter.Proof.Spoofing
import Dnsmeter.Proof.Thread

/-!
# The queries on the wire

* `chooseSource_chosen`: the source in the packet is the one chosen in the call.
* `Wired`: every thread the program has, in every state it reaches, holds the target in its packet
  and, when it runs with its own address, that address (`reached_wired`).
* `wire_format`: every datagram handed to `sendto`.
-/

namespace Dnsmeter

open Datagram

namespace DNSSenderThread

variable {t t' : DNSSenderThread} {bap : Bytes}

/-! ## The source -/

theorem sameHeader_chooseSource {pkt pkt' : Packet} {env : SendEnv}
    (h : t.chooseSource pkt bap env = .ok pkt') :
    Packet.SameHeader (!t.spoofingEnabled) pkt pkt' := by
  unfold chooseSource at h
  split at h
  · rename_i hs
    rw [hs]
    split at h
    · exact .useSourceFromPcap h
    · cases h
      exact Packet.SameHeader.assign32.trans (.assign16 (.inl rfl))
  · cases h
    exact .assign16 (.inl rfl)

/-- `run` gives the packet the own address, unless the source is spoofed. -/
theorem start_pkt (h : t.start = .ok t') : Packet.SameHeader false t.pkt t'.pkt ∧
    (t.spoofingEnabled = false → t'.pkt.buffer.load 12 4 = be32 t.sourceip.addr) := by
  unfold start at h
  split at h
  · cases h
  cases h
  dsimp only
  rcases Bool.eq_false_or_eq_true t.spoofingEnabled with hs | hs
  · rw [hs]
    exact ⟨.refl _ _, fun h => by cases h⟩
  · rw [hs]
    refine ⟨Packet.SameHeader.assign32.trans (.assign16 (.inl rfl)), ?_⟩
    intro _
    exact (Block.load_store16_disjoint _ (by decide) (by omega)).trans
      ((Block.load_store32_self _ (by decide)).trans (le32_htonl _))

theorem sameHeader_trySend_ok {p p' : PayloadFile} {env : SendEnv} {d : Bytes}
    (h : t.trySend p env = .ok (t', p', d)) :
    Packet.SameHeader (!t.spoofingEnabled) t.pkt t'.pkt := by
  obtain ⟨bap, t1, qs, pkt1, pkt2, -, hf, hp, hc, -, rfl, -⟩ := trySend_ok h
  obtain ⟨buffer, dnsseccounter, rfl⟩ := fillBuffer_ok hf
  rw [pkt_account]
  exact (Packet.SameHeader.setPayload hp).trans ((sameHeader_chooseSource hc).trans
    ((Packet.SameHeader.assign16 (.inr (by decide))).trans .ptr))

theorem sameHeader_trySend_error {p p' : PayloadFile} {env : SendEnv} {e : Abort}
    (h : t.trySend p env = .error (e, t', p')) :
    Packet.SameHeader (!t.spoofingEnabled) t.pkt t'.pkt := by
  rcases trySend_error h with ⟨-, rfl, -⟩ | ⟨bap, -, ⟨-, rfl⟩ | ⟨t1, qs, hf, hrest⟩⟩
  · exact .refl _ _
  · exact .refl _ _
  obtain ⟨buffer, dnsseccounter, rfl⟩ := fillBuffer_ok hf
  rcases hrest with ⟨-, rfl⟩ | ⟨pkt1, hp, ⟨-, rfl⟩ | ⟨pkt2, hc, -, -, rfl⟩⟩
  · exact .refl _ _
  · exact .setPayload hp
  · exact (Packet.SameHeader.setPayload hp).trans ((sameHeader_chooseSource hc).trans
      (.assign16 (.inr (by decide))))

end DNSSenderThread

namespace DNSSender

/-- The source address and port of a call: those of the captured frame, a random address of the
network with a random port, or the own address with a random port. -/
def chosenSource (s : DNSSender) (entry : Bytes) (env : SendEnv) : UInt32 × UInt16 :=
  let port := .ofNat (env.randPort.rand 1024 65535)
  if s.spoofingEnabled then
    if s.spoofFromPcap then (beWord32 (slice entry 26 4), beWord16 (slice entry 34 2))
    else
      let first := s.sourceNet.first.addr.toNat
      (.ofNat (env.randIP.rand first (first + 2 ^ (32 - s.sourceNet.prefixlen) - 1)), port)
  else (s.sourceIP.addr, port)

/-- The fields `prepareThreads` sets that `sendPacket` reads. -/
structure Configured (s : DNSSender) (t : DNSSenderThread) : Prop where
  dest : t.dest = s.targetIP.sAddr
  payloadIsPcap : t.payloadIsPcap = s.payload.payloadIsPcap
  dnssecRate : t.dnssecRate = s.dnssecRate
  spoofingEnabled : t.spoofingEnabled = s.spoofingEnabled
  sourceip : s.spoofingEnabled = false → t.sourceip = s.sourceIP
  spoofingFromPcap : s.spoofingEnabled = true → t.spoofingFromPcap = s.spoofFromPcap
  net : s.spoofingEnabled = true → s.spoofFromPcap = false →
    t.spoofingNetStart = s.sourceNet.first.addr ∧
      t.spoofingNetSize = .ofNat (2 ^ (32 - s.sourceNet.prefixlen))

theorem Configured.same {s : DNSSender} {t t' : DNSSenderThread} (h : s.Configured t)
    (hc : DNSSenderThread.SameConfig t t') : s.Configured t' :=
  ⟨hc.dest.trans h.dest, hc.payloadIsPcap.trans h.payloadIsPcap, hc.dnssecRate.trans h.dnssecRate,
    hc.spoofingEnabled.trans h.spoofingEnabled, fun hs => hc.sourceip.trans (h.sourceip hs),
    fun hs => hc.spoofingFromPcap.trans (h.spoofingFromPcap hs),
    fun hs hp => ⟨hc.spoofingNetStart.trans (h.net hs hp).1,
      hc.spoofingNetSize.trans (h.net hs hp).2⟩⟩

/-- **The source is the one chosen in this call.** -/
theorem chooseSource_chosen {s : DNSSender} {t : DNSSenderThread} {pkt : Packet} {entry : Bytes}
    (env : SendEnv) (hc : s.Configured t)
    (hpcap : s.spoofingEnabled = true → s.spoofFromPcap = true → s.payload.payloadIsPcap = true)
    (hb : EntryOk s.payload.payloadIsPcap entry)
    (hown : s.spoofingEnabled = false → pkt.buffer.load 12 4 = be32 s.sourceIP.addr)
    (hv : pkt.chksumValid = false) :
    ∃ pkt', t.chooseSource pkt entry env = .ok pkt' ∧ pkt'.chksumValid = false ∧
      pkt'.payloadSize = pkt.payloadSize ∧
      (∀ len, pkt'.buffer.load 28 len = pkt.buffer.load 28 len) ∧
      pkt'.buffer.load 12 4 = be32 (s.chosenSource entry env).1 ∧
      pkt'.buffer.load 20 2 = be16 (s.chosenSource entry env).2 := by
  unfold DNSSenderThread.chooseSource chosenSource
  rw [hc.spoofingEnabled]
  by_cases hs : s.spoofingEnabled = true
  · rw [if_pos hs, if_pos hs, hc.spoofingFromPcap hs]
    by_cases hp : s.spoofFromPcap = true
    · rw [EntryOk, if_pos (hpcap hs hp)] at hb
      rw [if_pos hp, if_pos hp]
      obtain ⟨pkt', hq⟩ := pkt.useSourceFromPcap_of_le (Nat.le_trans (by decide) hb.1)
      refine ⟨pkt', hq, ?_⟩
      obtain ⟨a, port, ha, hport, rfl⟩ := Packet.useSourceFromPcap_ok hq
      refine ⟨hv, rfl, ?_, ?_, ?_⟩
      · intro len
        rw [Block.load_store16_disjoint _ _ (by omega), Block.load_store32_disjoint _ _ (by omega)]
      · rw [Block.load_store16_disjoint _ _ (by omega), Block.load_store32_self, ha, be32_beWord32]
      · rw [Block.load_store16_self, hport, be16_beWord16]
    · rw [if_neg hp, if_neg hp]
      obtain ⟨hstart, hsize⟩ := hc.net hs (by simpa using hp)
      refine ⟨_, rfl, rfl, rfl, ?_, ?_, ?_⟩
      · intro len
        simp only [Packet.randomSourcePort, Packet.randomSourceIP, Packet.assign16, Packet.assign32]
        rw [Block.load_store16_disjoint _ _ (by omega), Block.load_store32_disjoint _ _ (by omega)]
      · simp only [Packet.randomSourcePort, Packet.randomSourceIP, Packet.assign16, Packet.assign32]
        rw [Block.load_store16_disjoint _ _ (by omega), Block.load_store32_self, le32_htonl, hstart,
          hsize, IPNetwork.toNat_last]
      · simp only [Packet.randomSourcePort, Packet.assign16]
        rw [Block.load_store16_self, le16_htons]
  · rw [if_neg hs, if_neg hs]
    refine ⟨_, rfl, rfl, rfl, ?_, ?_, ?_⟩
    · intro len
      exact Block.load_store16_disjoint _ (by decide) (by omega)
    · exact (Block.load_store16_disjoint _ (by decide) (by omega)).trans (hown (by simpa using hs))
    · simp only [Packet.randomSourcePort, Packet.assign16]
      rw [Block.load_store16_self, le16_htons]

/-! ## The threads -/

/-- The header a thread's packet has between two calls. -/
structure Wired (s : DNSSender) (w : Worker) : Prop where
  configured : s.Configured w.thread
  shape : w.thread.pkt.Shape
  dst : w.thread.pkt.buffer.load 16 4 = be32 s.targetIP.addr
  dport : w.thread.pkt.buffer.load 22 2 = be16 (.ofInt s.targetPort.toInt)
  src : w.state = .running → s.spoofingEnabled = false →
    w.thread.pkt.buffer.load 12 4 = be32 s.sourceIP.addr

theorem prepareThread_configured {s : DNSSender} {mem : Block 4096} {t : DNSSenderThread}
    (h : s.prepareThread mem = .ok t) :
    s.Configured t ∧ t.pkt = Packet.new.setDestination s.targetIP s.targetPort := by
  obtain ⟨t1, h1, h2⟩ := Run.bind_ok_iff.1 h
  have ht1 : t1.dest = s.targetIP.sAddr ∧
      t1.pkt = Packet.new.setDestination s.targetIP s.targetPort ∧ t1.spoofingFromPcap = false := by
    unfold DNSSenderThread.setTimeslice at h1
    split at h1
    · cases h1
    · cases h1
      exact ⟨rfl, rfl, rfl⟩
  cases h2
  by_cases hs : s.spoofingEnabled = true
  · rw [if_pos hs]
    by_cases hp : s.spoofFromPcap = true
    · rw [if_pos hp]
      exact ⟨⟨ht1.1, rfl, rfl, hs.symm, fun h => absurd hs (by simp [h]), fun _ => hp.symm,
        fun _ h => absurd hp (by simp [h])⟩, ht1.2.1⟩
    · rw [if_neg hp]
      rw [Bool.not_eq_true] at hp
      exact ⟨⟨ht1.1, rfl, rfl, hs.symm, fun h => absurd hs (by simp [h]),
        fun _ => ht1.2.2.trans hp.symm, fun _ _ => ⟨htonl_htonl _, rfl⟩⟩, ht1.2.1⟩
  · rw [if_neg hs]
    rw [Bool.not_eq_true] at hs
    exact ⟨⟨ht1.1, rfl, rfl, hs.symm, fun _ => rfl, fun h => absurd hs (by simp [h]),
      fun h => absurd hs (by simp [h])⟩, ht1.2.1⟩

theorem Wired.new {s : DNSSender} {mem : Block 4096} {t : DNSSenderThread}
    (h : s.prepareThread mem = .ok t) : s.Wired ⟨t, .idle⟩ := by
  obtain ⟨hc, hp⟩ := prepareThread_configured h
  refine ⟨hc, ?_, ?_, ?_, fun hr => by cases hr⟩
  · rw [hp]
    exact (Packet.Shape.new.assign32 (by decide)).assign16 (by decide)
  · simp only [hp, Packet.setDestination, Packet.assign16, Packet.assign32]
    rw [Block.load_store16_disjoint _ _ (by omega), Block.load_store32_self]
    exact le32_htonl _
  · simp only [hp, Packet.setDestination, Packet.assign16, Packet.assign32]
    rw [Block.load_store16_self]
    exact le16_htons _

theorem Wired.of_sameHeader {own : Bool} {s : DNSSender} {w : Worker} {t : DNSSenderThread}
    {state : ThreadState} (h : s.Wired w) (hc : DNSSenderThread.SameConfig w.thread t)
    (hp : Packet.SameHeader own w.thread.pkt t.pkt)
    (hsrc : s.spoofingEnabled = false → t.pkt.buffer.load 12 4 = be32 s.sourceIP.addr) :
    s.Wired ⟨t, state⟩ :=
  ⟨h.configured.same hc, hp.shape h.shape, hp.dst.trans h.dst, hp.dport.trans h.dport,
    fun _ hs => hsrc hs⟩

/-- A call leaves the thread wired, whether it returns or raises. -/
theorem Wired.sendPacket {s : DNSSender} {w : Worker} {t : DNSSenderThread} {state : ThreadState}
    (h : s.Wired w) (hrun : w.state = .running) (hc : DNSSenderThread.SameConfig w.thread t)
    (hp : Packet.SameHeader (!w.thread.spoofingEnabled) w.thread.pkt t.pkt) :
    s.Wired ⟨t, state⟩ := by
  apply h.of_sameHeader hc hp
  intro hs
  have hown : (!w.thread.spoofingEnabled) = true := by
    rw [h.configured.spoofingEnabled, hs]
    rfl
  exact (hp.src hown).trans (h.src hrun hs)

theorem Wired.start {s : DNSSender} {w : Worker} {t : DNSSenderThread} (h : s.Wired w)
    (ht : w.thread.start = .ok t) : s.Wired ⟨t, .running⟩ := by
  obtain ⟨hp, hsrc⟩ := DNSSenderThread.start_pkt ht
  apply h.of_sameHeader (sameConfig_start ht) hp
  intro hs
  rw [hsrc (h.configured.spoofingEnabled.trans hs), h.configured.sourceip hs]

theorem Wired.acts {s : DNSSender} {w w' : Worker} {p p' : PayloadFile} {a : Action}
    {r : Option DNSSenderThread.SendResult} (h : s.Wired w) (ha : w.Acts p a w' p' r) :
    s.Wired w' := by
  cases ha with
  | skip => exact h
  | start _ hs => exact h.start hs
  | noPayload => exact ⟨h.configured, h.shape, h.dst, h.dport, fun hr => by cases hr⟩
  | finish => exact ⟨h.configured, h.shape, h.dst, h.dport, fun hr => by cases hr⟩
  | returned hw ht =>
    exact h.sendPacket hw (sameConfig_trySend_ok ht) (DNSSenderThread.sameHeader_trySend_ok ht)
  | raised hw ht =>
    exact h.sendPacket hw (sameConfig_trySend_error ht) (DNSSenderThread.sameHeader_trySend_error ht)

/-- **Every thread the program has is wired**, in every state it reaches. -/
theorem reached_wired {s0 u : DNSSender} {mem : Nat → Block 4096} (h0 : s0.threadpool = [])
    (hu : Reached s0 mem u) : ∀ w ∈ u.threadpool, s0.Wired w :=
  reached_pool (fun _ _ h => .new h)
    (fun _ _ _ h => ⟨⟨h.configured.dest, h.configured.payloadIsPcap, h.configured.dnssecRate,
      h.configured.spoofingEnabled, h.configured.sourceip, h.configured.spoofingFromPcap,
      h.configured.net⟩, h.shape, h.dst, h.dport, fun hr => by cases hr⟩)
    (fun _ _ _ _ _ _ h ha => h.acts ha) h0 hu

/-! ## A call -/

/-- The payload of the datagram: the message with the time stamp as its id. -/
def wirePayload (s : DNSSender) (dnsseccounter : Int) (entry : Bytes) (env : SendEnv) : Bytes :=
  be16 (getQueryTimestamp env.tp) ++
    (message s.payload.payloadIsPcap (100 ≤ dnsseccounter + s.dnssecRate) entry).drop 2

/-- The packet a call builds, before its checksums are computed. -/
structure Built (s : DNSSender) (dnsseccounter : Int) (entry : Bytes) (env : SendEnv)
    (pkt : Packet) : Prop where
  shape : pkt.Shape
  chksumValid : pkt.chksumValid = false
  src : pkt.buffer.load 12 4 = be32 (s.chosenSource entry env).1
  dst : pkt.buffer.load 16 4 = be32 s.targetIP.addr
  sport : pkt.buffer.load 20 2 = be16 (s.chosenSource entry env).2
  dport : pkt.buffer.load 22 2 = be16 (.ofInt s.targetPort.toInt)
  payload : pkt.buffer.load 28 pkt.payloadSize = s.wirePayload dnsseccounter entry env

/-- A call of a running thread up to `send`. -/
theorem Wired.built {s : DNSSender} {w : Worker} {entry : Bytes} (h : s.Wired w)
    (hrun : w.state = .running)
    (hpcap : s.spoofingEnabled = true → s.spoofFromPcap = true → s.payload.payloadIsPcap = true)
    (hb : EntryOk s.payload.payloadIsPcap entry) (env : SendEnv) :
    ∃ t1 querySize pkt1 pkt2, w.thread.fillBuffer entry = .ok (t1, querySize) ∧
      t1.pkt.setPayload t1.buffer.bytes querySize = .ok pkt1 ∧
      t1.chooseSource pkt1 entry env = .ok pkt2 ∧ t1.dest = s.targetIP.sAddr ∧
      s.Built w.thread.dnsseccounter entry env (pkt2.setDnsId (getQueryTimestamp env.tp)) := by
  have hentry : EntryOk w.thread.payloadIsPcap entry := by
    rw [h.configured.payloadIsPcap]
    exact hb
  obtain ⟨buffer, dnsseccounter, querySize, hf, hsize, hle, hload⟩ :=
    DNSSenderThread.fillBuffer_message hentry
  rw [h.configured.payloadIsPcap, h.configured.dnssecRate] at hsize hle hload
  have h2 : 2 ≤ (message s.payload.payloadIsPcap
      (100 ≤ w.thread.dnsseccounter + s.dnssecRate) entry).length := le_length_message hb
  obtain ⟨pkt1, hp, hsize1, hv1, hload1⟩ := w.thread.pkt.setPayload_of_le
    buffer.bytes querySize (by rw [buffer.length_eq]; omega)
    (by rw [hsize]; simp only [HDRSZ, ISZ, USZ, MAXPACKETSIZE]; omega)
  have hh1 : Packet.SameHeader true w.thread.pkt pkt1 := .setPayload hp
  have hc1 : s.Configured { w.thread with buffer, dnsseccounter } :=
    h.configured.same (.work w.thread w.thread.pkt buffer dnsseccounter)
  obtain ⟨pkt2, hc, hv2, hsize2, hload2, hsrc, hsport⟩ := chooseSource_chosen env hc1 hpcap hb
    (fun hs => (hh1.src rfl).trans (h.src hrun hs)) hv1
  have hh2 := DNSSenderThread.sameHeader_chooseSource hc
  refine ⟨_, querySize, pkt1, pkt2, hf, hp, hc, hc1.dest, ?_⟩
  have hbeside : ∀ off len, off + len ≤ 28 → (pkt2.setDnsId (getQueryTimestamp env.tp)).buffer.load
      off len = pkt2.buffer.load off len :=
    fun off len ho => Block.load_store16_disjoint _ (by decide) (.inl ho)
  refine ⟨(hh2.shape (hh1.shape h.shape)).assign16 (by decide), rfl, ?_, ?_, ?_, ?_, ?_⟩
  · rw [hbeside 12 4 (by omega), hsrc]
  · rw [hbeside 16 4 (by omega), hh2.dst, hh1.dst, h.dst]
  · rw [hbeside 20 2 (by omega), hsport]
  · rw [hbeside 22 2 (by omega), hh2.dport, hh1.dport, h.dport]
  · have hmsg : pkt2.buffer.load 28 pkt2.payloadSize = message s.payload.payloadIsPcap
        (100 ≤ w.thread.dnsseccounter + s.dnssecRate) entry := by
      rw [hload2, hsize2, hsize1, hload1, hsize]
      exact hload
    show (pkt2.setDnsId _).buffer.load 28 pkt2.payloadSize = _
    rw [Packet.load_setDnsId _ (by omega), hmsg]
    rfl

/-- **The wire format of every query sent**: in any state the program reaches, a running thread that
draws `entry` hands to `sendto` one datagram from the chosen source to the target, with the entry's
message. A broadcast target is refused before that. -/
theorem wire_format {s0 u : DNSSender} {mem : Nat → Block 4096} {i : Nat} {w : Worker}
    {entry : Bytes} {p : PayloadFile} (h0 : s0.threadpool = [])
    (hpcap : s0.spoofingEnabled = true → s0.spoofFromPcap = true → s0.payload.payloadIsPcap = true)
    (hu : Reached s0 mem u) (hw : u.threadpool[i]? = some w) (hrun : w.state = .running)
    (hq : u.payload.getQuery = .ok (entry, p)) (hb : EntryOk s0.payload.payloadIsPcap entry)
    (env : SendEnv) (envs : List SendEnv) :
    (s0.targetIP.addr = 0xffffffff →
      ∃ t, w.thread.sendPacket u.payload (env :: envs) = .raised .unknownDestination t p) ∧
    (s0.targetIP.addr ≠ 0xffffffff →
      ∃ t d, w.thread.sendPacket u.payload (env :: envs) = .returned t p d ∧
        IsUdp (s0.chosenSource entry env).1 (s0.chosenSource entry env).2 s0.targetIP.addr
          (.ofInt s0.targetPort.toInt) 64 (s0.wirePayload w.thread.dnsseccounter entry env) d) := by
  have hwired := reached_wired h0 hu w (List.mem_of_getElem? hw)
  obtain ⟨t1, querySize, pkt1, pkt2, hf, hp, hc, hdest, hbuilt⟩ :=
    hwired.built hrun hpcap hb env
  have hsAddr : s0.targetIP.sAddr = 0xffffffff ↔ s0.targetIP.addr = 0xffffffff := by
    refine ⟨?_, ?_⟩
    · intro h
      rw [← htonl_htonl s0.targetIP.addr, show htonl s0.targetIP.addr = 0xffffffff from h]
      decide
    · intro h
      rw [IPAddress.sAddr, h]
      decide
  refine ⟨?_, ?_⟩
  · intro hd
    have hbroad : t1.dest = 0xffffffff := hdest.trans (hsAddr.2 hd)
    rw [DNSSenderThread.sendPacket_cons]
    simp only [DNSSenderThread.trySend, hq, hf, hp, hc, DNSSenderThread.send, hbroad, if_true]
    exact ⟨_, rfl⟩
  · intro hd
    have hbroad : t1.dest ≠ 0xffffffff := fun h => hd (hsAddr.1 (hdest.symm.trans h))
    rw [DNSSenderThread.sendPacket_cons]
    simp only [DNSSenderThread.trySend, hq, hf, hp, hc, DNSSenderThread.send, hbroad, if_false]
    refine ⟨_, _, rfl, ?_⟩
    rw [← hbuilt.payload]
    exact Packet.isUdp_ptr hbuilt.shape hbuilt.chksumValid hbuilt.src hbuilt.dst hbuilt.sport
      hbuilt.dport

/-- A captured frame of `36 + n` bytes from 192.0.2.1, port 4660. -/
def frame (n : Nat) : Bytes :=
  List.replicate 26 0 ++ [192, 0, 2, 1] ++ List.replicate 4 0 ++ [0x12, 0x34] ++ List.replicate n 7

/-- One thread that spoofs the sources of two frames, the second one shorter and of odd length. -/
def twoFrames : DNSSender :=
  { DNSSender.new with
    targetIP := ⟨0x0a000001⟩
    payload := ⟨2, [frame 24, frame 19], 0, true⟩
    spoofingEnabled := true
    spoofFromPcap := true }

theorem wire_format_second_frame : ∃ u w t d, Reached twoFrames (fun _ => .zero 4096) u ∧
    u.threadpool[0]? = some w ∧ u.payload.getQuery = .ok (frame 19, twoFrames.payload) ∧
    w.thread.sendPacket u.payload [passOf 41 0] = .returned t twoFrames.payload d ∧
    IsUdp 0xc0000201 4660 0x0a000001 53 64 ([0, 0] ++ List.replicate 11 7) d := by
  obtain ⟨s, u, hs, hu, hpool, hq⟩ : ∃ s u,
      twoFrames.prepareThreads (fun _ => .zero 4096) = .ok s ∧
      u = (Run.trace step s [.run 0 [], .act 0 .start, .act 0 (.pass (passOf 46 0))]).1 ∧
      u.threadpool[0]?.map Worker.state = some .running ∧
      u.payload.getQuery = .ok (frame 19, twoFrames.payload) :=
    ⟨_, _, rfl, rfl, by decide +kernel, by decide +kernel⟩
  obtain ⟨w, hw, hrun⟩ := Option.map_eq_some_iff.1 hpool
  have hreach : Reached twoFrames (fun _ => .zero 4096) u := ⟨s, _, hs, hu⟩
  obtain ⟨t, d, hd, hudp⟩ := (wire_format rfl (fun _ _ => rfl) hreach hw hrun hq (by decide)
    (passOf 41 0) []).2 (by decide)
  exact ⟨u, w, t, d, hreach, hw, hq, hd, hudp⟩

end DNSSender

end Dnsmeter
