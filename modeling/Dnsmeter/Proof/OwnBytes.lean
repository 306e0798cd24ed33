import Dnsmeter.Proof.Counters
import Dnsmeter.Proof.Filter

/-!
# Frames and the bytes left in the buffer

`receive` reads every frame into the same buffer and accepts it from 34 bytes on, but the filter
looks at bytes 34 and 35 and `count_packet` at bytes 42 to 45: a shorter frame is judged on what an
earlier one left there.

* `answer_of_le`: a frame that holds all headers is judged on its own bytes.
* `answer_short_iff`: which shorter frames are counted, and from which buffer.
* `own_bytes_iff`: the counters are a fold over the frames alone, at every moment, iff no frame of
  34 to 53 bytes is counted.
-/

namespace Dnsmeter

open Datagram

namespace RawSocketReceiver

/-- The answer that a frame is by its own bytes: Ethernet, IP, UDP and DNS headers, from the
source. -/
def ownAnswer (ip : IPAddress) (port : UInt16) (e : Option Bytes × Option Timeval) : Option Answer :=
  match e.1 with
  | none => none
  | some frame =>
    let b := fun i => frame.getD i 0
    if 54 ≤ frame.length ∧ slice frame 12 2 = [0x08, 0x00] ∧ b 14 >>> 4 = 4 ∧
        slice frame 26 4 = be32 ip.addr ∧ slice frame 34 2 = le16 port then
      some ⟨.ofBytes (b 42) (b 43) (b 44) (b 45), .ofNat (min 4096 frame.length), e.2, by
        simp only [DNSHeader.ofBytes, UInt8.toNat_and]
        exact Nat.lt_succ_of_le Nat.and_le_right⟩
    else none

/-- The per-frame function: it sees the frame and the clock. -/
def judge (ip : IPAddress) (port : UInt16) (c : Counter) (e : Option Bytes × Option Timeval) :
    Counter :=
  match ownAnswer ip port e with
  | some a => c.countAnswer a
  | none => c

/-- A frame too short for the headers that `receive` counts: the port it sees is the buffer's, the
frame followed by what was there before. -/
structure CountedShort (r : RawSocketReceiver) (frame : Bytes) : Prop where
  length_ge : 34 ≤ frame.length
  length_lt : frame.length < 54
  ethertype : slice frame 12 2 = [0x08, 0x00]
  version : frame.getD 14 0 >>> 4 = 4
  address : slice frame 26 4 = be32 r.sourceIP.addr
  port : slice (frame ++ r.buffer.bytes.drop frame.length) 34 2 = le16 r.sourcePort

section
variable {r : RawSocketReceiver} {frame : Bytes}

theorem load8_recvfrom {i : Nat} (h : i < 4096) (hf : i < frame.length) :
    (r.recvfrom frame).1.buffer.load8 i h = frame.getD i 0 := by
  have hload := load_recvfrom r (show i + 1 ≤ 4096 by omega) (show i + 1 ≤ frame.length by omega)
  rw [Block.load_one _ h, slice, List.drop_eq_getElem_cons hf] at hload
  rw [List.getD_eq_getElem?_getD, List.getElem?_eq_getElem hf]
  exact (List.cons.inj hload).1

/-- The tests of `receive`, on a frame that passes the length test. -/
theorem passes_recvfrom_iff (hl : 34 ≤ frame.length) :
    (r.recvfrom frame).1.passes (r.recvfrom frame).2 = true ↔
      slice frame 12 2 = [0x08, 0x00] ∧ frame.getD 14 0 >>> 4 = 4 ∧
        slice frame 26 4 = be32 r.sourceIP.addr ∧
        (r.recvfrom frame).1.buffer.load 34 2 = le16 r.sourcePort := by
  have hlen : 34 ≤ (r.recvfrom frame).2 := by
    simp only [recvfrom, List.length_take]
    omega
  have h16 : le16 (htons 0x0800) = [0x08, 0x00] := by
    rw [le16_htons]
    rfl
  simp only [passes, decide_eq_true_eq, Block.load16_eq_iff, Block.load32_eq_iff, hlen, true_and]
  rw [load_recvfrom _ (by decide) (by omega), load_recvfrom _ (by decide) (by omega),
    load8_recvfrom _ (by omega), h16, show (r.recvfrom frame).1.sourceIP = r.sourceIP from rfl,
    IPAddress.sAddr, le32_htonl]
  exact Iff.rfl

/-- **A frame that holds all headers is judged on its own bytes.** -/
theorem answer_of_le (tp : Option Timeval) (hl : 54 ≤ frame.length) :
    (r.answer (some frame, tp)).2 = ownAnswer r.sourceIP r.sourcePort (some frame, tp) := by
  have hpass := passes_recvfrom_iff (r := r) (show 34 ≤ frame.length by omega)
  rw [load_recvfrom r (by decide) (by omega)] at hpass
  have hb : ∀ i (h : i < 4096), i < 54 →
      (r.recvfrom frame).1.buffer.load8 i h = frame.getD i 0 :=
    fun i h hi => load8_recvfrom h (by omega)
  have hsize : (r.recvfrom frame).2 = min 4096 frame.length := by
    simp only [recvfrom, List.length_take]
  simp only [answer, ownAnswer, hb 42 (by decide) (by decide), hb 43 (by decide) (by decide),
    hb 44 (by decide) (by decide), hb 45 (by decide) (by decide), hsize]
  rw [hsize] at hpass
  by_cases h : (r.recvfrom frame).1.passes (min 4096 frame.length) = true
  · rw [if_pos h, if_pos ⟨hl, hpass.1 h⟩]
  · rw [if_neg h, if_neg (fun hp => h (hpass.2 hp.2))]

theorem ownAnswer_short (hl : frame.length < 54) (ip : IPAddress) (port : UInt16)
    (tp : Option Timeval) :
    ownAnswer ip port (some frame, tp) = none :=
  if_neg fun h => absurd h.1 (by omega)

/-- **Which shorter frames are counted.** -/
theorem answer_short_iff (tp : Option Timeval) (hl : frame.length < 54) :
    (r.answer (some frame, tp)).2 ≠ none ↔ r.CountedShort frame := by
  have hbytes : (r.recvfrom frame).1.buffer.bytes = frame ++ r.buffer.bytes.drop frame.length := by
    simp only [recvfrom, Block.store, List.take_zero, List.nil_append,
      List.take_of_length_le (show frame.length ≤ 4096 by omega), Nat.zero_add]
  have hsome : (r.answer (some frame, tp)).2 ≠ none ↔
      (r.recvfrom frame).1.passes (r.recvfrom frame).2 = true := by
    simp only [answer]
    by_cases h : (r.recvfrom frame).1.passes (r.recvfrom frame).2 = true
    · simp [h]
    · simp [h]
  rw [hsome]
  rcases Nat.lt_or_ge frame.length 34 with hlt | hge
  · have hfail : (r.recvfrom frame).1.passes (r.recvfrom frame).2 = false := by
      have : ¬ 34 ≤ (r.recvfrom frame).2 := by
        simp only [recvfrom, List.length_take]
        omega
      simp only [passes, this, false_and, decide_false]
    rw [hfail]
    refine iff_of_false (by decide) ?_
    intro h
    exact absurd h.length_ge (by omega)
  · rw [passes_recvfrom_iff hge, Block.load, hbytes]
    constructor
    · rintro ⟨he, hv, ha, hp⟩
      exact ⟨hge, hl, he, hv, ha, hp⟩
    · intro h
      exact ⟨h.ethertype, h.version, h.address, h.port⟩

/-- An event that does not count a short frame is judged on its own bytes. -/
theorem answer_eq_own (e : Option Bytes × Option Timeval)
    (h : ∀ frame, e.1 = some frame → ¬ r.CountedShort frame) :
    (r.answer e).2 = ownAnswer r.sourceIP r.sourcePort e := by
  obtain ⟨frame, tp⟩ := e
  cases frame with
  | none => rfl
  | some frame =>
    rcases Nat.lt_or_ge frame.length 54 with hlt | hge
    · rw [ownAnswer_short hlt]
      by_contra hne
      exact h frame rfl ((answer_short_iff tp hlt).1 hne)
    · exact answer_of_le tp hge

/-- `receive` keeps the address and the port it filters by. -/
theorem source_answers (es : List (Option Bytes × Option Timeval)) :
    (r.answers es).1.sourceIP = r.sourceIP ∧ (r.answers es).1.sourcePort = r.sourcePort := by
  have hstep : ∀ (s : RawSocketReceiver) e,
      s.sourceIP = r.sourceIP ∧ s.sourcePort = r.sourcePort →
      (s.answer e).1.sourceIP = r.sourceIP ∧ (s.answer e).1.sourcePort = r.sourcePort := by
    rintro s ⟨frame, tp⟩ h
    cases frame <;> exact h
  exact Run.trace_state_inv (J := fun s : RawSocketReceiver =>
    s.sourceIP = r.sourceIP ∧ s.sourcePort = r.sourcePort) hstep ⟨rfl, rfl⟩

theorem answers_snoc (r : RawSocketReceiver) (es : List (Option Bytes × Option Timeval))
    (e : Option Bytes × Option Timeval) :
    (r.answers (es ++ [e])).2 = (r.answers es).2 ++ ((r.answers es).1.answer e).2.toList := by
  rw [answers_append]
  simp only [answers, Run.trace, List.append_nil]

end

end RawSocketReceiver

namespace DNSReceiverThread

open RawSocketReceiver

/-- No frame of the run is counted that is too short for its headers. -/
def NoShort (t : DNSReceiverThread) (es : List (Option Bytes × Option Timeval)) : Prop :=
  ∀ pre frame tp post t', es = pre ++ (some frame, tp) :: post → t.run pre = .ok t' →
    ¬ t'.socket.CountedShort frame

/-- The counters are those of the frames' own bytes. -/
def OwnCounters (t : DNSReceiverThread) (es : List (Option Bytes × Option Timeval)) : Prop :=
  ∃ t', t.run es = .ok t' ∧
    t'.counter = es.foldl (judge t.socket.sourceIP t.socket.sourcePort) t.counter.clear

section
variable {t : DNSReceiverThread} {es : List (Option Bytes × Option Timeval)}

theorem NoShort.of_append {post : List (Option Bytes × Option Timeval)}
    (h : t.NoShort (es ++ post)) : t.NoShort es := by
  intro pre frame tp post' t' hes ht'
  exact h pre frame tp (post' ++ post) t' (by simp [hes]) ht'

theorem foldl_judge (ip : IPAddress) (port : UInt16) (es : List (Option Bytes × Option Timeval))
    (c : Counter) : es.foldl (judge ip port) c =
      (es.filterMap (ownAnswer ip port)).foldl Counter.countAnswer c := by
  induction es generalizing c with
  | nil => rfl
  | cons e es ih =>
    rw [List.foldl_cons, List.filterMap_cons, ih]
    cases h : ownAnswer ip port e with
    | none => simp only [judge, h]
    | some a => simp only [judge, h, List.foldl_cons]

/-- One event more: the answers counted stay those of the frames' own bytes. -/
theorem answers_eq_own (h : t.NoShort es) : (t.socket.answers es).2 =
    es.filterMap (ownAnswer t.socket.sourceIP t.socket.sourcePort) := by
  induction es using List.reverseRecOn with
  | nil => rfl
  | append_singleton es e ih =>
    have hsrc := source_answers (r := t.socket) es
    have hown : ((t.socket.answers es).1.answer e).2 =
        ownAnswer t.socket.sourceIP t.socket.sourcePort e := by
      rw [← hsrc.1, ← hsrc.2]
      apply answer_eq_own
      intro frame he
      obtain ⟨frame', tp⟩ := e
      cases he
      exact h es frame tp [] _ rfl (run_eq t es)
    rw [answers_snoc, ih h.of_append, List.filterMap_append, hown, List.filterMap_cons,
      List.filterMap_nil]
    cases ownAnswer t.socket.sourceIP t.socket.sourcePort e <;> rfl

theorem ownCounters_of_noShort (h : t.NoShort es) : t.OwnCounters es := by
  refine ⟨_, run_eq t es, ?_⟩
  rw [foldl_judge, ← answers_eq_own h, Counter.foldl_clear]

/-- A short frame that is counted shows in the number of packets. -/
theorem not_countedShort {frame : Bytes} {tp : Option Timeval} {t' : DNSReceiverThread}
    (h : t.OwnCounters es) (h' : t.OwnCounters (es ++ [(some frame, tp)]))
    (ht' : t.run es = .ok t') : ¬ t'.socket.CountedShort frame := by
  intro hshort
  obtain ⟨u, hu, hc⟩ := h
  obtain ⟨v, hv, hd⟩ := h'
  rw [run, go_eq] at hu ht' hv
  cases hu
  cases ht'
  cases hv
  have hne := (answer_short_iff tp hshort.length_lt).2 hshort
  obtain ⟨a, ha⟩ := Option.ne_none_iff_exists'.1 hne
  rw [foldl_judge] at hc hd
  rw [List.filterMap_append, List.filterMap_cons, ownAnswer_short hshort.length_lt,
    List.filterMap_nil, List.append_nil, ← hc] at hd
  have hans : (t.socket.answers (es ++ [(some frame, tp)])).2 = (t.socket.answers es).2 ++ [a] := by
    rw [answers_snoc]
    exact congrArg _ (congrArg Option.toList ha)
  have hnum := congrArg Counter.numPkgs hd
  simp only [hans, Counter.numPkgs_foldl, List.length_append, List.length_singleton,
    Tally.ofNat_succ, ← add_assoc] at hnum
  exact absurd (add_eq_left.1 hnum) (by decide)

/-- **When each frame is judged on its own bytes**: at every moment of the run the counters are the
fold of the per-frame function iff no frame too short for its headers is counted; and two such runs
whose frames that are answers agree have the same counters. -/
theorem own_bytes_iff (t : DNSReceiverThread) (es : List (Option Bytes × Option Timeval)) :
    ((∀ pre post, es = pre ++ post → t.OwnCounters pre) ↔ t.NoShort es) ∧
    ∀ es' u u', t.NoShort es → t.NoShort es' → t.run es = .ok u → t.run es' = .ok u' →
      es.filterMap (ownAnswer t.socket.sourceIP t.socket.sourcePort) =
        es'.filterMap (ownAnswer t.socket.sourceIP t.socket.sourcePort) →
      u.counter = u'.counter := by
  refine ⟨⟨?_, ?_⟩, ?_⟩
  · intro h pre frame tp post t' hes ht'
    have hpre := h pre ((some frame, tp) :: post) hes
    have hstep := h (pre ++ [(some frame, tp)]) post (by simp [hes])
    exact not_countedShort hpre hstep ht'
  · intro h pre post hes
    subst hes
    exact ownCounters_of_noShort h.of_append
  · intro es' u u' h h' hu hu' heq
    obtain ⟨v, hv, hc⟩ := ownCounters_of_noShort h
    obtain ⟨v', hv', hc'⟩ := ownCounters_of_noShort h'
    cases hu.symm.trans hv
    cases hu'.symm.trans hv'
    rw [hc, hc', foldl_judge, foldl_judge, heq]

end

/-- A frame that is no answer and has the port 53 where a UDP header has it. -/
def portFrame : Bytes := List.replicate 34 0 ++ [0, 53]

/-- An Ethernet and an IP header from 10.0.0.1, and nothing behind them. -/
def shortFrame : Bytes := answerFrame.take 34

theorem own_bytes_answer : answerReceiver.OwnCounters [(some answerFrame, none)] := by
  refine ((own_bytes_iff answerReceiver [(some answerFrame, none)]).1.2 ?_) _ [] rfl
  rintro pre frame tp post t' hes - hshort
  cases pre with
  | nil =>
    cases hes
    exact absurd hshort.length_lt (by decide)
  | cons e pre =>
    have := congrArg List.length hes
    simp at this

/-- What `portFrame` leaves in the buffer decides whether `shortFrame` is counted. -/
theorem not_per_frame : ¬ ∃ g : Counter → Option Bytes × Option Timeval → Counter,
    ∀ es t', answerReceiver.run es = .ok t' →
      t'.counter = es.foldl g answerReceiver.counter.clear := by
  rintro ⟨g, hg⟩
  have hrun : ∀ es, (answerReceiver.socket.answers es).2.foldl Counter.countAnswer
      answerReceiver.counter.clear = es.foldl g answerReceiver.counter.clear :=
    fun es => hg es _ (by rw [run, go_eq])
  have h1 : (answerReceiver.socket.answers [(some portFrame, none)]).2 = [] :=
    List.eq_nil_of_length_eq_zero (by decide +kernel)
  have hport := hrun [(some portFrame, none)]
  have hshort := hrun [(some shortFrame, none)]
  have hboth := hrun [(some portFrame, none), (some shortFrame, none)]
  rw [h1] at hport
  simp only [List.foldl_nil, List.foldl_cons] at hport hshort hboth
  rw [← hport, ← hshort] at hboth
  have hnum := congrArg Counter.numPkgs hboth
  rw [Counter.numPkgs_foldl, Counter.numPkgs_foldl] at hnum
  exact absurd hnum (by decide +kernel)

end DNSReceiverThread

end Dnsmeter
