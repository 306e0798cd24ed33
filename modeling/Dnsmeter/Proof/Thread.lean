import Dnsmeter.Sender
import Dnsmeter.Lib.Run

/-!
# What the threads do

* `trySend_ok`, `trySend_error`: a pass of the loop of `sendPacket`, step by step. It draws one query
  whether it succeeds or not.
* `sendPacket_cons`: no pass ends with one of the exceptions `sendPacket` goes on after, so a call is
  one pass.
* `SameConfig`: what `prepareThreads` sets up stays as it is.
* `reached_prepared`, `reached_pool`: the thread pool in every state the program reaches.
-/

namespace Dnsmeter

namespace DNSSenderThread

variable {t t' : DNSSenderThread} {p p' : PayloadFile} {env : SendEnv} {bap d : Bytes}

/-- The fields only `prepareThreads` sets. -/
structure SameConfig (t t' : DNSSenderThread) : Prop where
  dest : t'.dest = t.dest
  destPort : t'.destPort = t.destPort
  sourceip : t'.sourceip = t.sourceip
  hasPayload : t'.hasPayload = t.hasPayload
  spoofingNetStart : t'.spoofingNetStart = t.spoofingNetStart
  spoofingNetSize : t'.spoofingNetSize = t.spoofingNetSize
  runtime : t'.runtime = t.runtime
  dnssecRate : t'.dnssecRate = t.dnssecRate
  spoofingEnabled : t'.spoofingEnabled = t.spoofingEnabled
  payloadIsPcap : t'.payloadIsPcap = t.payloadIsPcap
  spoofingFromPcap : t'.spoofingFromPcap = t.spoofingFromPcap

namespace SameConfig

theorem refl (t : DNSSenderThread) : SameConfig t t :=
  ⟨rfl, rfl, rfl, rfl, rfl, rfl, rfl, rfl, rfl, rfl, rfl⟩

theorem trans {t u v : DNSSenderThread} (h : SameConfig t u) (g : SameConfig u v) :
    SameConfig t v :=
  ⟨g.dest.trans h.dest, g.destPort.trans h.destPort, g.sourceip.trans h.sourceip,
    g.hasPayload.trans h.hasPayload, g.spoofingNetStart.trans h.spoofingNetStart,
    g.spoofingNetSize.trans h.spoofingNetSize, g.runtime.trans h.runtime,
    g.dnssecRate.trans h.dnssecRate, g.spoofingEnabled.trans h.spoofingEnabled,
    g.payloadIsPcap.trans h.payloadIsPcap, g.spoofingFromPcap.trans h.spoofingFromPcap⟩

/-- The fields a thread works with are not part of its configuration. -/
theorem work (t : DNSSenderThread) (pkt : Packet) (buffer : Block 4096) (dnsseccounter : Int) :
    SameConfig t { t with pkt, buffer, dnsseccounter } :=
  ⟨rfl, rfl, rfl, rfl, rfl, rfl, rfl, rfl, rfl, rfl, rfl⟩

end SameConfig

/-! ## A pass of `sendPacket` -/

theorem fillBuffer_ok {t1 : DNSSenderThread} {qs : UInt64} (h : t.fillBuffer bap = .ok (t1, qs)) :
    ∃ buffer dnsseccounter, t1 = { t with buffer, dnsseccounter } := by
  simp only [fillBuffer, bind, Except.bind, pure, Except.pure] at h
  split at h
  · split at h
    · cases h
    split at h
    · cases h
    cases h
    exact ⟨_, _, rfl⟩
  · split at h
    · cases h
    split at h
    · split at h
      · cases h
      cases h
      exact ⟨_, _, rfl⟩
    · cases h
      exact ⟨_, _, rfl⟩

theorem sameConfig_account (t : DNSSenderThread) (n : Int) (errno : Nat) :
    SameConfig t (t.account n errno) := by
  unfold account
  split
  · exact ⟨rfl, rfl, rfl, rfl, rfl, rfl, rfl, rfl, rfl, rfl, rfl⟩
  split
  · exact ⟨rfl, rfl, rfl, rfl, rfl, rfl, rfl, rfl, rfl, rfl, rfl⟩
  · exact ⟨rfl, rfl, rfl, rfl, rfl, rfl, rfl, rfl, rfl, rfl, rfl⟩

theorem pkt_account (t : DNSSenderThread) (n : Int) (errno : Nat) :
    (t.account n errno).pkt = t.pkt := by
  unfold account
  split
  · rfl
  split <;> rfl

/-- The steps of a pass that hands a datagram to `sendto`. -/
theorem trySend_ok (h : t.trySend p env = .ok (t', p', d)) :
    ∃ bap t1 qs pkt1 pkt2, p.getQuery = .ok (bap, p') ∧ t.fillBuffer bap = .ok (t1, qs) ∧
      t1.pkt.setPayload t1.buffer.bytes qs = .ok pkt1 ∧
      t1.chooseSource pkt1 bap env = .ok pkt2 ∧ t1.dest ≠ 0xffffffff ∧
      (let pkt := (pkt2.setDnsId (getQueryTimestamp env.tp)).ptr
       t' = { t1 with pkt }.account env.n env.errno ∧ d = pkt.buffer.load 0 pkt.size) := by
  unfold trySend at h
  split at h
  · cases h
  rename_i bap p1 hq
  split at h
  · cases h
  rename_i t1 qs hf
  split at h
  · cases h
  rename_i pkt1 hp
  split at h
  · cases h
  rename_i pkt2 hc
  simp only [send] at h
  split at h
  · cases h
  rename_i t2 d2 hs
  split at hs
  · cases hs
  rename_i hd
  cases hs
  cases h
  exact ⟨bap, t1, qs, pkt1, pkt2, hq, hf, hp, hc, hd, rfl, rfl⟩

/-- The steps of a pass that raises: how far it came, and the state it leaves. -/
theorem trySend_error {e : Abort} (h : t.trySend p env = .error (e, t', p')) :
    p.getQuery = .error e ∧ t' = t ∧ p' = p ∨
    ∃ bap, p.getQuery = .ok (bap, p') ∧
      (t.fillBuffer bap = .error e ∧ t' = t ∨
      ∃ t1 qs, t.fillBuffer bap = .ok (t1, qs) ∧
        (t1.pkt.setPayload t1.buffer.bytes qs = .error e ∧ t' = t1 ∨
        ∃ pkt1, t1.pkt.setPayload t1.buffer.bytes qs = .ok pkt1 ∧
          (t1.chooseSource pkt1 bap env = .error e ∧ t' = { t1 with pkt := pkt1 } ∨
          ∃ pkt2, t1.chooseSource pkt1 bap env = .ok pkt2 ∧ e = .unknownDestination ∧
            t1.dest = 0xffffffff ∧
            t' = { t1 with pkt := pkt2.setDnsId (getQueryTimestamp env.tp) }))) := by
  unfold trySend at h
  split at h
  · rename_i e' hq
    cases h
    exact .inl ⟨hq, rfl, rfl⟩
  rename_i bap p1 hq
  split at h
  · rename_i e' hf
    cases h
    exact .inr ⟨bap, hq, .inl ⟨hf, rfl⟩⟩
  rename_i t1 qs hf
  split at h
  · rename_i e' hp
    cases h
    exact .inr ⟨bap, hq, .inr ⟨_, qs, hf, .inl ⟨hp, rfl⟩⟩⟩
  rename_i pkt1 hp
  split at h
  · rename_i e' hc
    cases h
    exact .inr ⟨bap, hq, .inr ⟨t1, qs, hf, .inr ⟨pkt1, hp, .inl ⟨hc, rfl⟩⟩⟩⟩
  rename_i pkt2 hc
  simp only [send] at h
  split at h
  · rename_i e' hs
    split at hs
    · rename_i hd
      cases hs
      cases h
      exact .inr ⟨bap, hq, .inr ⟨t1, qs, hf, .inr ⟨pkt1, hp, .inr ⟨pkt2, hc, rfl, hd, rfl⟩⟩⟩⟩
    · cases hs
  · cases h

/-- A pass that returns changes the packet, the buffer and the counters. -/
theorem trySend_ok_eq (h : t.trySend p env = .ok (t', p', d)) : ∃ pkt buffer dnsseccounter,
    t' = account { t with pkt, buffer, dnsseccounter } env.n env.errno ∧
      d = pkt.buffer.load 0 pkt.size := by
  obtain ⟨bap, t1, qs, pkt1, pkt2, -, hf, -, -, -, ht', hd⟩ := trySend_ok h
  obtain ⟨buffer, dnsseccounter, rfl⟩ := fillBuffer_ok hf
  exact ⟨_, buffer, dnsseccounter, ht', hd⟩

/-- A pass that raises changes the packet and the buffer at most. -/
theorem trySend_error_eq {e : Abort} (h : t.trySend p env = .error (e, t', p')) :
    ∃ pkt buffer dnsseccounter, t' = { t with pkt, buffer, dnsseccounter } := by
  rcases trySend_error h with ⟨-, rfl, -⟩ | ⟨bap, -, ⟨-, rfl⟩ | ⟨t1, qs, hf, hrest⟩⟩
  · exact ⟨_, _, _, rfl⟩
  · exact ⟨_, _, _, rfl⟩
  obtain ⟨buffer, dnsseccounter, rfl⟩ := fillBuffer_ok hf
  rcases hrest with ⟨-, rfl⟩ | ⟨pkt1, -, ⟨-, rfl⟩ | ⟨pkt2, -, -, -, rfl⟩⟩
  · exact ⟨_, _, _, rfl⟩
  · exact ⟨_, _, _, rfl⟩
  · exact ⟨_, _, _, rfl⟩

end DNSSenderThread

/-- The exceptions after which `sendPacket` goes on. -/
def Abort.retries : Abort → Bool
  | .unknownRRType _ | .invalidDNSQuery _ => true
  | _ => false

def NoRetry {α : Type} (x : Except Abort α) : Prop := ∀ e, x = .error e → e.retries = false

namespace NoRetry

theorem ok {α : Type} (a : α) : NoRetry (.ok a) := fun _ h => by cases h

theorem error {α : Type} {e : Abort} (he : e.retries = false) : NoRetry (.error e : Except Abort α) :=
  fun _ h => by cases h; exact he

theorem bind {α β : Type} {x : Except Abort α} {f : α → Except Abort β} (hx : NoRetry x)
    (hf : ∀ a, NoRetry (f a)) : NoRetry (x >>= f) := by
  cases x with
  | ok a => exact hf a
  | error e => exact error (hx e rfl)

theorem memcpy {n : Nat} (b : Block n) (off : Nat) (src : Bytes) : NoRetry (memcpy b off src) := by
  unfold Dnsmeter.memcpy
  split
  · exact ok _
  · exact error rfl

theorem readMem (mem : Bytes) (off len : Nat) : NoRetry (readMem mem off len) := by
  unfold Dnsmeter.readMem
  split
  · exact ok _
  · exact error rfl

theorem addDnssecToQuery {n : Nat} (b : Block n) (base querysize : Nat) (udp : Int32) :
    NoRetry (addDnssecToQuery b base querysize udp) :=
  bind (readMem _ _ _) fun _ => bind (memcpy _ _ _) fun _ => bind (memcpy _ _ _) fun _ =>
    bind (memcpy _ _ _) fun _ => ok _

theorem getQuery (p : PayloadFile) : NoRetry p.getQuery := by
  unfold PayloadFile.getQuery
  split
  · exact ok _
  · exact error rfl

theorem fillBuffer (t : DNSSenderThread) (bap : Bytes) : NoRetry (t.fillBuffer bap) := by
  unfold DNSSenderThread.fillBuffer
  split
  · exact bind (readMem _ _ _) fun _ => bind (memcpy _ _ _) fun _ => ok _
  · apply bind (memcpy _ _ _)
    intro _
    dsimp only
    split
    · exact bind (addDnssecToQuery _ _ _ _) fun _ => ok _
    · exact ok _

theorem setPayload (p : Packet) (payload : Bytes) (size : UInt64) :
    NoRetry (p.setPayload payload size) := by
  unfold Packet.setPayload
  split
  · exact error rfl
  split
  · exact ok _
  · exact error rfl

theorem chooseSource (t : DNSSenderThread) (pkt : Packet) (bap : Bytes) (env : SendEnv) :
    NoRetry (t.chooseSource pkt bap env) := by
  unfold DNSSenderThread.chooseSource
  split
  · split
    · unfold Packet.useSourceFromPcap
      split
      · exact ok _
      · exact error rfl
    · exact ok _
  · exact ok _

end NoRetry

namespace DNSSenderThread

variable {t t' : DNSSenderThread} {p p' : PayloadFile} {env : SendEnv}

theorem trySend_not_retries {e : Abort} (h : t.trySend p env = .error (e, t', p')) :
    e.retries = false := by
  rcases trySend_error h with ⟨hq, -, -⟩ | ⟨bap, -, ⟨hf, -⟩ | ⟨t1, qs, -, ⟨hp, -⟩ | ⟨pkt1, -, ⟨hc, -⟩ |
    ⟨pkt2, -, rfl, -, -⟩⟩⟩⟩
  · exact NoRetry.getQuery p e hq
  · exact NoRetry.fillBuffer t bap e hf
  · exact NoRetry.setPayload t1.pkt t1.buffer.bytes qs e hp
  · exact NoRetry.chooseSource t1 pkt1 bap env e hc
  · rfl

/-- **A call of `sendPacket` is one pass of its loop.** -/
theorem sendPacket_cons (t : DNSSenderThread) (p : PayloadFile) (env : SendEnv)
    (envs : List SendEnv) : t.sendPacket p (env :: envs) = match t.trySend p env with
      | .ok (t', p', d) => .returned t' p' d
      | .error (e, t', p') => .raised e t' p' := by
  rw [sendPacket]
  cases h : t.trySend p env with
  | ok r => rfl
  | error r =>
    obtain ⟨e, t', p'⟩ := r
    have hr := trySend_not_retries h
    cases e <;> first | rfl | cases hr

end DNSSenderThread

/-- A pass in which `gettimeofday` fails, `ppl7::rand` returns its lower bound, and `sendto` returns
`n`. -/
def passOf (n : Int) (errno : Nat) : SendEnv :=
  let low : Rand := ⟨fun lo _ => lo, fun _ _ h => ⟨Nat.le_refl _, h⟩⟩
  ⟨none, low, low, n, errno⟩

/-! ## The thread pool -/

open DNSSenderThread

theorem sameConfig_trySend_ok {t t' : DNSSenderThread} {p p' : PayloadFile} {env : SendEnv}
    {d : Bytes} (h : t.trySend p env = .ok (t', p', d)) : SameConfig t t' := by
  obtain ⟨pkt, buffer, dnsseccounter, rfl, -⟩ := trySend_ok_eq h
  exact (SameConfig.work t pkt buffer dnsseccounter).trans (sameConfig_account _ _ _)

theorem sameConfig_trySend_error {t t' : DNSSenderThread} {p p' : PayloadFile} {env : SendEnv}
    {e : Abort} (h : t.trySend p env = .error (e, t', p')) : SameConfig t t' := by
  obtain ⟨pkt, buffer, dnsseccounter, rfl⟩ := trySend_error_eq h
  exact .work t pkt buffer dnsseccounter

theorem sameConfig_start {t t' : DNSSenderThread} (h : t.start = .ok t') : SameConfig t t' := by
  unfold start at h
  split at h
  · cases h
  · cases h
    exact ⟨rfl, rfl, rfl, rfl, rfl, rfl, rfl, rfl, rfl, rfl, rfl⟩

/-- What an action does to the thread and the payload, and what it puts out. -/
inductive Worker.Acts (w : Worker) (p : PayloadFile) :
    Action → Worker → PayloadFile → Option DNSSenderThread.SendResult → Prop
  | skip {a : Action} : Acts w p a w p none
  | start {t : DNSSenderThread} : w.state = .waiting → w.thread.start = .ok t →
      Acts w p .start ⟨t, .running⟩ p none
  | noPayload : w.state = .waiting → w.thread.hasPayload = false →
      Acts w p .start ⟨w.thread, .idle⟩ p none
  | finish : w.state = .running → Acts w p .finish ⟨w.thread, .idle⟩ p none
  | returned {env : SendEnv} {t : DNSSenderThread} {p' : PayloadFile} {d : Bytes} :
      w.state = .running → w.thread.trySend p env = .ok (t, p', d) →
      Acts w p (.pass env) ⟨t, .running⟩ p' (some (.returned t p' d))
  | raised {env : SendEnv} {e : Abort} {t : DNSSenderThread} {p' : PayloadFile} :
      w.state = .running → w.thread.trySend p env = .error (e, t, p') →
      Acts w p (.pass env) ⟨t, .idle⟩ p' (some (.raised e t p'))

theorem Worker.acts (w : Worker) (p : PayloadFile) (a : Action) :
    w.Acts p a (w.act p a).1 (w.act p a).2.1 (w.act p a).2.2 := by
  cases a with
  | start =>
    cases hw : w.state with
    | waiting =>
      cases hs : w.thread.start with
      | ok t =>
        simp only [Worker.act, hw, hs]
        exact .start hw hs
      | error e =>
        have hp : w.thread.hasPayload = false := by
          unfold DNSSenderThread.start at hs
          split at hs
          · rename_i h
            simpa using h
          · cases hs
        simp only [Worker.act, hw, hs]
        exact .noPayload hw hp
    | idle => simp only [Worker.act, hw]; exact .skip
    | running => simp only [Worker.act, hw]; exact .skip
  | finish =>
    cases hw : w.state with
    | running => simp only [Worker.act, hw]; exact .finish hw
    | idle => simp only [Worker.act, hw]; exact .skip
    | waiting => simp only [Worker.act, hw]; exact .skip
  | pass env =>
    cases hw : w.state with
    | running =>
      cases ht : w.thread.trySend p env with
      | ok r =>
        simp only [Worker.act, hw, sendPacket_cons, ht]
        exact .returned hw ht
      | error r =>
        simp only [Worker.act, hw, sendPacket_cons, ht]
        exact .raised hw ht
    | idle => simp only [Worker.act, hw]; exact .skip
    | waiting => simp only [Worker.act, hw]; exact .skip

theorem Worker.Acts.config {w w' : Worker} {p p' : PayloadFile} {a : Action}
    {r : Option DNSSenderThread.SendResult} (h : w.Acts p a w' p' r) :
    SameConfig w.thread w'.thread := by
  cases h with
  | skip => exact .refl _
  | start _ hs => exact sameConfig_start hs
  | noPayload => exact .refl _
  | finish => exact .refl _
  | returned _ ht => exact sameConfig_trySend_ok ht
  | raised _ ht => exact sameConfig_trySend_error ht

/-! ## The states the program reaches -/

namespace DNSSender

/-- The pool `prepareThreads` sets up. -/
structure Prepared (s : DNSSender) : Prop where
  length : s.threadpool.length = s.threadCount.toInt.toNat
  runtime : ∀ w ∈ s.threadpool, w.thread.runtime = s.runtime
  hasPayload : ∀ w ∈ s.threadpool, w.thread.hasPayload = true

/-- `u` is reached behind a call of `prepareThreads` on `s0`, in any number of load steps. -/
def Reached (s0 : DNSSender) (mem : Nat → Block 4096) (u : DNSSender) : Prop :=
  ∃ s evs, s0.prepareThreads mem = .ok s ∧ u = (Run.trace step s evs).1

theorem prepareThread_ok {s : DNSSender} {mem : Block 4096} {t : DNSSenderThread}
    (h : s.prepareThread mem = .ok t) : t.runtime = s.runtime ∧ t.hasPayload = true := by
  obtain ⟨t1, h1, h2⟩ := Run.bind_ok_iff.1 h
  have ht1 : t1.runtime = s.runtime := by
    unfold DNSSenderThread.setTimeslice at h1
    split at h1
    · cases h1
    · cases h1
      rfl
  cases h2
  split
  · split
    · exact ⟨ht1, rfl⟩
    · exact ⟨ht1, rfl⟩
  · exact ⟨ht1, rfl⟩

theorem prepareThreads_ok {s0 s : DNSSender} {mem : Nat → Block 4096} (h0 : s0.threadpool = [])
    (h : s0.prepareThreads mem = .ok s) :
    s.Prepared ∧ s.threadCount = s0.threadCount ∧ s.runtime = s0.runtime := by
  obtain ⟨threads, hm, hs⟩ := Run.bind_ok_iff.1 h
  cases hs
  have hw : ∀ w ∈ s0.threadpool ++ threads.map (Worker.mk · .idle),
      w.thread.runtime = s0.runtime ∧ w.thread.hasPayload = true := by
    intro w hw
    rw [h0, List.nil_append] at hw
    obtain ⟨t, ht, rfl⟩ := List.mem_map.1 hw
    obtain ⟨i, -, hi⟩ := Run.mem_of_mapM_ok hm ht
    exact prepareThread_ok hi
  refine ⟨⟨?_, fun w h => (hw w h).1, fun w h => (hw w h).2⟩, rfl, rfl⟩
  simp only [h0, List.nil_append, List.length_map, Run.length_of_mapM_ok hm, List.length_range]

theorem setRate_ok {s : DNSSender} {r : Int32} {w w' : Worker} (h : s.setRate r w = .ok w') :
    ∃ share, divInt r s.threadCount = .ok share ∧ s.timeslices ≠ 0 ∧ s.timeslices ≤ 1000 ∧
      w' = { w with thread := { w.thread with
        queryrate := .ofInt share.toInt
        timeslice := s.timeslices / 1000 } } := by
  obtain ⟨share, hd, h⟩ := Run.bind_ok_iff.1 h
  obtain ⟨t, ht, h⟩ := Run.bind_ok_iff.1 h
  unfold DNSSenderThread.setTimeslice at ht
  split at ht
  · cases ht
  · rename_i hc
    cases ht
    cases h
    rw [not_or, not_lt] at hc
    exact ⟨share, hd, hc.1, hc.2, rfl⟩

theorem setRates_ok {s v : DNSSender} {r : Int32} (h : s.setRates r = .ok v) :
    ∃ pool, (s.threadpool.mapM
        ((if r ≠ 0 then s.calcTimeslice r else s).setRate r) = .ok pool) ∧
      v = { (if r ≠ 0 then s.calcTimeslice r else s) with threadpool := pool } := by
  obtain ⟨pool, hp, hv⟩ := Run.bind_ok_iff.1 h
  cases hv
  refine ⟨pool, ?_, rfl⟩
  by_cases hr : r ≠ 0
  · rw [if_pos hr] at hp ⊢
    exact hp
  · rw [if_neg hr] at hp ⊢
    exact hp

theorem run_ok {s v : DNSSender} {r : Int32} {procNetDev : Bytes} (h : s.run r procNetDev = .ok v) :
    ∃ u sys1 receiver, s.setRates r = .ok u ∧
      v = startThreads { u with visPrevResults := .cleared, sys1, receiver } := by
  obtain ⟨u, hu, h⟩ := Run.bind_ok_iff.1 h
  obtain ⟨sys1, -, h⟩ := Run.bind_ok_iff.1 h
  cases h
  exact ⟨u, sys1, _, hu, rfl⟩

theorem act_spec (s : DNSSender) (i : Nat) (a : Action) :
    s.threadpool[i]? = none ∧ s.act i a = (s, none) ∨
    ∃ w w' p' r, s.threadpool[i]? = some w ∧ w.Acts s.payload a w' p' r ∧
      s.act i a = ({ s with threadpool := s.threadpool.set i w', payload := p' }, callOf i a r) := by
  cases h : s.threadpool[i]? with
  | none => exact .inl ⟨rfl, by simp only [act, h]⟩
  | some w =>
    refine .inr ⟨w, _, _, _, rfl, w.acts s.payload a, ?_⟩
    simp only [act, h]

/-- An action changes one thread and the payload's position, nothing else. -/
theorem act_frame (s : DNSSender) (i : Nat) (a : Action) : ∃ threadpool payload,
    (s.act i a).1 = { s with threadpool, payload } ∧ threadpool.length = s.threadpool.length := by
  rcases s.act_spec i a with ⟨-, hs⟩ | ⟨w, w', p', r, -, -, hs⟩
  · rw [hs]
    exact ⟨s.threadpool, s.payload, rfl, rfl⟩
  · rw [hs]
    exact ⟨_, p', rfl, List.length_set⟩

theorem thread_of_callOf {i : Nat} {a : Action} {r : Option SendResult} {c : Call}
    (h : c ∈ (callOf i a r).toList) : c.thread = i := by
  rw [Option.mem_toList] at h
  cases a with
  | pass env =>
    cases r with
    | some result => cases h; rfl
    | none => cases h
  | start => cases h
  | finish => cases h

/-- **A relation between a worker and its calls that its actions keep** is kept for the whole pool. -/
theorem calls_act {P : Worker → List Call → Prop} {s : DNSSender} {calls : List Call} (i : Nat)
    (a : Action)
    (hact : ∀ w w' p' r calls, P w calls → w.Acts s.payload a w' p' r →
      P w' (calls ++ (callOf i a r).toList))
    (h : ∀ j w, s.threadpool[j]? = some w → P w (calls.filter (·.thread = j))) :
    ∀ j w, (s.act i a).1.threadpool[j]? = some w →
      P w ((calls ++ (s.act i a).2.toList).filter (·.thread = j)) := by
  rcases s.act_spec i a with ⟨-, hs⟩ | ⟨w, w', p', r, hw, hacts, hs⟩
  · rw [hs, Option.toList_none, List.append_nil]
    exact h
  rw [hs]
  have hi : i < s.threadpool.length := (List.getElem?_eq_some_iff.1 hw).1
  intro j x hx
  by_cases hij : i = j
  · subst hij
    rw [List.getElem?_set_self hi] at hx
    cases hx
    have hfilter : (callOf i a r).toList.filter (·.thread = i) = (callOf i a r).toList :=
      List.filter_eq_self.2 fun c hc => by simpa using thread_of_callOf hc
    rw [List.filter_append, hfilter]
    exact hact w _ p' r _ (h i w hw) hacts
  · rw [List.getElem?_set_ne hij] at hx
    have hfilter : (callOf i a r).toList.filter (·.thread = j) = [] :=
      List.filter_eq_nil_iff.2 fun c hc => by simpa [thread_of_callOf hc] using hij
    rw [List.filter_append, hfilter, List.append_nil]
    exact h j x hx

/-- The calls of a load step so far, each by a thread of the pool: `P` holds of every worker and its
calls, `J` of the payload. -/
structure CallsOk (P : Worker → List Call → Prop) (J : PayloadFile → Prop) (s : DNSSender)
    (calls : List Call) : Prop where
  payload : J s.payload
  thread_lt : ∀ c ∈ calls, c.thread < s.threadpool.length
  worker : ∀ i w, s.threadpool[i]? = some w → P w (calls.filter (·.thread = i))

section
variable {P : Worker → List Call → Prop} {J : PayloadFile → Prop}
  (hJ : ∀ {w w' : Worker} {p p' a r}, J p → w.Acts p a w' p' r → J p')
  (hact : ∀ {w w' : Worker} {p p' a r} i calls, J p → P w calls → w.Acts p a w' p' r →
    P w' (calls ++ (callOf i a r).toList))

include hJ hact

theorem CallsOk.act {s : DNSSender} {calls : List Call} (h : CallsOk P J s calls) (i : Nat)
    (a : Action) : CallsOk P J (s.act i a).1 (calls ++ (s.act i a).2.toList) := by
  refine ⟨?_, ?_, calls_act i a (fun w w' p' r cs hcs hacts => hact i cs h.payload hcs hacts) h.worker⟩
  · rcases s.act_spec i a with ⟨-, hs⟩ | ⟨w, w', p', r, -, hacts, hs⟩
    · rw [hs]
      exact h.payload
    · rw [hs]
      exact hJ h.payload hacts
  · intro c hc
    rcases s.act_spec i a with ⟨-, hs⟩ | ⟨w, w', p', r, hw, -, hs⟩
    · rw [hs, Option.toList_none, List.append_nil] at hc
      rw [hs]
      exact h.thread_lt c hc
    · rw [hs] at hc ⊢
      rw [List.length_set]
      rcases List.mem_append.1 hc with hc | hc
      · exact h.thread_lt c hc
      · rw [thread_of_callOf hc]
        exact (List.getElem?_eq_some_iff.1 hw).1

/-- **They hold in every state of a load step.** -/
theorem CallsOk.trace {v : DNSSender} (h0 : J v.payload) (h : ∀ w ∈ v.threadpool, P w [])
    (acts : List (Nat × Action)) :
    CallsOk P J (Run.trace (fun s a => s.act a.1 a.2) v acts).1
      (Run.trace (fun s a => s.act a.1 a.2) v acts).2 := by
  have hstart : CallsOk P J v [] :=
    ⟨h0, fun c hc => (by cases hc), fun i w hw => h w (List.mem_of_getElem? hw)⟩
  exact Run.trace_inv_of_eq (fun s calls a hs => hs.act hJ hact a.1 a.2) hstart rfl

end

/-! What a worker of the pool was before: the pool invariants follow from these. -/

theorem mem_setRates {s v : DNSSender} {r : Int32} {w' : Worker} (hv : s.setRates r = .ok v)
    (hw' : w' ∈ v.threadpool) : ∃ w ∈ s.threadpool, ∃ queryrate timeslice,
      w' = { w with thread := { w.thread with queryrate, timeslice } } := by
  obtain ⟨pool, hm, rfl⟩ := setRates_ok hv
  obtain ⟨w, hw, hset⟩ := Run.mem_of_mapM_ok hm hw'
  obtain ⟨share, -, -, -, rfl⟩ := setRate_ok hset
  exact ⟨w, hw, _, _, rfl⟩

theorem mem_run {s v : DNSSender} {r : Int32} {procNetDev : Bytes} {w' : Worker}
    (hv : s.run r procNetDev = .ok v) (hw' : w' ∈ v.threadpool) :
    ∃ w ∈ s.threadpool, ∃ queryrate timeslice,
      w' = ⟨{ w.thread with queryrate, timeslice }, .waiting⟩ := by
  obtain ⟨u, sys1, receiver, hu, rfl⟩ := run_ok hv
  obtain ⟨w1, hw1, rfl⟩ := List.mem_map.1 hw'
  obtain ⟨w, hw, queryrate, timeslice, rfl⟩ := mem_setRates hu hw1
  exact ⟨w, hw, queryrate, timeslice, rfl⟩

theorem mem_act {s : DNSSender} {i : Nat} {a : Action} {w' : Worker}
    (hw' : w' ∈ (s.act i a).1.threadpool) : w' ∈ s.threadpool ∨
      ∃ w ∈ s.threadpool, ∃ p' r, w.Acts s.payload a w' p' r := by
  rcases s.act_spec i a with ⟨-, hs⟩ | ⟨w, w1, p', r, hw, hacts, hs⟩
  · rw [hs] at hw'
    exact .inl hw'
  rw [hs] at hw'
  rcases List.mem_or_eq_of_mem_set hw' with hmem | rfl
  · exact .inl hmem
  · exact .inr ⟨w, List.mem_of_getElem? hw, p', r, hacts⟩

/-- **A property of the workers that no step breaks** holds of the whole pool. -/
theorem pool_step {P : Worker → Prop}
    (hrun : ∀ (w : Worker) queryrate timeslice, P w →
      P ⟨{ w.thread with queryrate, timeslice }, .waiting⟩)
    (hact : ∀ (w w' : Worker) p a p' r, P w → w.Acts p a w' p' r → P w') {s : DNSSender}
    (h : ∀ w ∈ s.threadpool, P w) (e : Event) : ∀ w ∈ (s.step e).1.threadpool, P w := by
  intro w' hw'
  cases e with
  | run r procNetDev =>
    simp only [step] at hw'
    split at hw'
    · split at hw'
      · rename_i v hv
        obtain ⟨w, hw, queryrate, timeslice, rfl⟩ := mem_run hv hw'
        exact hrun w queryrate timeslice (h w hw)
      · exact h w' hw'
    · exact h w' hw'
  | act i a =>
    rcases mem_act hw' with hw | ⟨w, hw, p', r, hacts⟩
    · exact h w' hw
    · exact hact w w' _ _ p' r (h w hw) hacts

/-- The pool is as `prepareThreads` set it up for `n` threads and the run time `R`. -/
def PreparedFor (n R : Int32) (s : DNSSender) : Prop :=
  s.Prepared ∧ s.threadCount = n ∧ s.runtime = R

variable {n R : Int32}

theorem PreparedFor.setRates {s v : DNSSender} {r : Int32} (h : s.PreparedFor n R)
    (hv : s.setRates r = .ok v) : v.PreparedFor n R := by
  obtain ⟨⟨hl, hr, hp⟩, hn, hR⟩ := h
  have hcount : (if r ≠ 0 then s.calcTimeslice r else s).threadCount = s.threadCount := by
    split <;> rfl
  have hrun : (if r ≠ 0 then s.calcTimeslice r else s).runtime = s.runtime := by
    split <;> rfl
  refine ⟨⟨?_, ?_, ?_⟩, ?_⟩
  · obtain ⟨pool, hm, rfl⟩ := setRates_ok hv
    rw [Run.length_of_mapM_ok hm, hl]
    exact congrArg (·.toInt.toNat) hcount.symm
  · intro w' hw'
    obtain ⟨w, hw, queryrate, timeslice, rfl⟩ := mem_setRates hv hw'
    obtain ⟨pool, -, rfl⟩ := setRates_ok hv
    exact (hr w hw).trans hrun.symm
  · intro w' hw'
    obtain ⟨w, hw, queryrate, timeslice, rfl⟩ := mem_setRates hv hw'
    exact hp w hw
  · obtain ⟨pool, -, rfl⟩ := setRates_ok hv
    exact ⟨hcount.trans hn, hrun.trans hR⟩

theorem PreparedFor.run {s v : DNSSender} {r : Int32} {procNetDev : Bytes} (h : s.PreparedFor n R)
    (hv : s.run r procNetDev = .ok v) : v.PreparedFor n R := by
  obtain ⟨u, sys1, receiver, hu, rfl⟩ := run_ok hv
  obtain ⟨⟨hl, hr, hp⟩, hn, hR⟩ := h.setRates hu
  refine ⟨⟨?_, ?_, ?_⟩, hn, hR⟩
  · simpa [startThreads] using hl
  · intro w hw
    obtain ⟨w0, hw0, rfl⟩ := List.mem_map.1 hw
    exact hr w0 hw0
  · intro w hw
    obtain ⟨w0, hw0, rfl⟩ := List.mem_map.1 hw
    exact hp w0 hw0

theorem PreparedFor.act {s : DNSSender} (h : s.PreparedFor n R) (i : Nat) (a : Action) :
    (s.act i a).1.PreparedFor n R := by
  obtain ⟨⟨hl, hr, hp⟩, hn, hR⟩ := h
  have hs : (s.act i a).1.threadpool.length = s.threadpool.length ∧
      (s.act i a).1.threadCount = s.threadCount ∧ (s.act i a).1.runtime = s.runtime := by
    obtain ⟨threadpool, payload, hs, hlen⟩ := s.act_frame i a
    rw [hs]
    exact ⟨hlen, rfl, rfl⟩
  refine ⟨⟨hs.1.trans (by rw [hl, hs.2.1]), ?_, ?_⟩,
    hs.2.1.trans hn, hs.2.2.trans hR⟩
  · intro w' hw'
    rw [hs.2.2]
    rcases mem_act hw' with hw | ⟨w, hw, p', r, hacts⟩
    · exact hr w' hw
    · exact hacts.config.runtime.trans (hr w hw)
  · intro w' hw'
    rcases mem_act hw' with hw | ⟨w, hw, p', r, hacts⟩
    · exact hp w' hw
    · exact hacts.config.hasPayload.trans (hp w hw)

theorem PreparedFor.step {s : DNSSender} (h : s.PreparedFor n R) (e : Event) :
    (s.step e).1.PreparedFor n R := by
  cases e with
  | run r procNetDev =>
    simp only [DNSSender.step]
    split
    · split
      · rename_i v hv
        exact h.run hv
      · exact h
    · exact h
  | act i a => exact h.act i a

/-- **The pool in every state the program reaches.** -/
theorem reached_prepared {s0 u : DNSSender} {mem : Nat → Block 4096} (h0 : s0.threadpool = [])
    (h : Reached s0 mem u) : u.PreparedFor s0.threadCount s0.runtime := by
  obtain ⟨s, evs, hs, rfl⟩ := h
  exact Run.trace_state_inv (J := PreparedFor s0.threadCount s0.runtime)
    (fun _ e h => PreparedFor.step h e) (prepareThreads_ok h0 hs)

/-- **A property of the workers in every state the program reaches.** -/
theorem reached_pool {P : Worker → Prop} {s0 u : DNSSender} {mem : Nat → Block 4096}
    (hnew : ∀ m t, s0.prepareThread m = .ok t → P ⟨t, .idle⟩)
    (hrun : ∀ (w : Worker) queryrate timeslice, P w →
      P ⟨{ w.thread with queryrate, timeslice }, .waiting⟩)
    (hact : ∀ (w w' : Worker) p a p' r, P w → w.Acts p a w' p' r → P w')
    (h0 : s0.threadpool = []) (h : Reached s0 mem u) : ∀ w ∈ u.threadpool, P w := by
  obtain ⟨s, evs, hs, rfl⟩ := h
  refine Run.trace_state_inv (J := fun s : DNSSender => ∀ w ∈ s.threadpool, P w)
    (fun _ e h => pool_step hrun hact h e) ?_
  obtain ⟨threads, hm, hs⟩ := Run.bind_ok_iff.1 hs
  cases hs
  intro w hw
  rw [h0, List.nil_append] at hw
  obtain ⟨t, ht, rfl⟩ := List.mem_map.1 hw
  obtain ⟨i, -, hi⟩ := Run.mem_of_mapM_ok hm ht
  exact hnew _ t hi

end DNSSender

end Dnsmeter
