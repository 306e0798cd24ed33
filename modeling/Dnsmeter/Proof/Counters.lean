import Dnsmeter.Sender
import Dnsmeter.Lib.Run
import Dnsmeter.Lib.Tally

/-!
# The receiver's counters

`run` clears the counters and counts the answers of its load step, but `clear` and the constructor
leave `rcodes[15]` alone and `presentResults` does not print it.

* `run_eq`: the counters after any part of a step are the cleared ones with the step's answers
  counted, in order.
* `count_carry`, `clear_eq_carry`: what `clear` leaves in `rcodes[15]` is carried through the step
  and changes nothing else.
* `counters_belong_iff`: at every moment of every step the counters belong to the step and the
  printed figures account for it, iff no answer has rcode 15 and the memory held a 0 there.
-/

namespace Dnsmeter

/-- A counted frame: its DNS header, its size and the clock when it was counted. -/
structure Answer where
  dns : DNSHeader
  size : UInt64
  tp : Option Timeval
  rcode_lt : dns.rcode.toNat < 16

/-- The rcode the loops leave out. -/
def Answer.isRcode15 (a : Answer) : Bool := a.dns.rcode = 15

namespace Counter

def countAnswer (c : Counter) (a : Answer) : Counter := c.count a.dns a.size a.tp

/-- A counter with all fields 0. -/
def zero : Counter := new fun _ => 0

/-- `c` with `g` more in `rcodes[15]`. -/
def carry (c : Counter) (g : UInt64) : Counter :=
  { c with rcodes := Function.update c.rcodes 15 (c.rcodes 15 + g) }

theorem rcodes_countAnswer (c : Counter) (a : Answer) : (c.countAnswer a).rcodes =
    Function.update c.rcodes ⟨_, a.rcode_lt⟩ (c.rcodes ⟨_, a.rcode_lt⟩ + 1) := by
  simp only [countAnswer, count, dif_pos a.rcode_lt]

theorem count_carry (c : Counter) (g : UInt64) (a : Answer) :
    (c.carry g).countAnswer a = (c.countAnswer a).carry g := by
  have hr : ((c.carry g).countAnswer a).rcodes = ((c.countAnswer a).carry g).rcodes := by
    funext i
    simp only [carry, rcodes_countAnswer, Function.update_apply]
    by_cases h15 : (15 : Fin 16) = ⟨_, a.rcode_lt⟩
    · rw [← h15]
      by_cases hi : i = 15 <;> simp [hi, add_right_comm]
    · by_cases hi : i = 15
      · subst hi
        simp [h15]
      · simp [hi, Ne.symm h15]
  exact congrArg (fun r => { (c.countAnswer a) with rcodes := r }) hr

theorem clear_eq_carry (c : Counter) : c.clear = zero.carry (c.rcodes 15) := by
  have hr : c.clear.rcodes = (zero.carry (c.rcodes 15)).rcodes := by
    funext i
    simp only [clear, zero, new, carry, Function.update_apply]
    by_cases hi : i = 15
    · subst hi
      simp
    · have : i.val < 15 := by omega
      simp [hi, this]
  exact congrArg (fun r => { zero with rcodes := r }) hr

theorem foldl_carry (g : UInt64) : ∀ (as : List Answer) (c : Counter),
    as.foldl countAnswer (c.carry g) = (as.foldl countAnswer c).carry g
  | [], _ => rfl
  | a :: as, c => by
    rw [List.foldl_cons, count_carry, foldl_carry g as]
    rfl

/-- The counters of a step: those of its answers alone, and what was left in `rcodes[15]`. -/
theorem foldl_clear (c : Counter) (as : List Answer) :
    as.foldl countAnswer c.clear = (as.foldl countAnswer zero).carry (c.rcodes 15) := by
  rw [clear_eq_carry, foldl_carry]

/-! ## The counters of the answers alone -/

theorem numPkgs_foldl : ∀ (as : List Answer) (c : Counter),
    (as.foldl countAnswer c).numPkgs = c.numPkgs + .ofNat as.length
  | [], c => by simp
  | a :: as, c => by
    rw [List.foldl_cons, numPkgs_foldl as, List.length_cons, Tally.ofNat_succ]
    simp only [countAnswer, count]
    rw [add_assoc, add_comm 1]

theorem truncated_foldl : ∀ (as : List Answer) (c : Counter),
    (as.foldl countAnswer c).truncated = c.truncated + .ofNat (as.countP (·.dns.tc ≠ 0))
  | [], c => by simp
  | a :: as, c => by
    rw [List.foldl_cons, truncated_foldl as, List.countP_cons]
    by_cases h : a.dns.tc = 0
    · simp [countAnswer, count, h]
    · simp only [countAnswer, count, h, ne_eq, not_false_eq_true, if_true, decide_true]
      rw [Tally.ofNat_succ, add_assoc, add_comm 1]

theorem sum_rcodes_foldl : ∀ (as : List Answer) (c : Counter),
    ∑ i, (as.foldl countAnswer c).rcodes i = (∑ i, c.rcodes i) + .ofNat as.length
  | [], c => by simp
  | a :: as, c => by
    rw [List.foldl_cons, sum_rcodes_foldl as, rcodes_countAnswer, Tally.sum_update_add,
      List.length_cons, Tally.ofNat_succ, add_assoc, add_comm 1]

theorem rcode15_foldl : ∀ (as : List Answer) (c : Counter),
    (as.foldl countAnswer c).rcodes 15 = c.rcodes 15 + .ofNat (as.countP Answer.isRcode15)
  | [], c => by simp
  | a :: as, c => by
    rw [List.foldl_cons, rcode15_foldl as, rcodes_countAnswer, List.countP_cons]
    by_cases h : a.isRcode15 = true
    · have h15 : (⟨a.dns.rcode.toNat, a.rcode_lt⟩ : Fin 16) = 15 := by
        have : a.dns.rcode = 15 := by simpa [Answer.isRcode15] using h
        exact Fin.ext (congrArg UInt8.toNat this)
      rw [h15, Function.update_self, if_pos h, Tally.ofNat_succ, add_assoc, add_comm 1]
    · have h15 : (15 : Fin 16) ≠ ⟨a.dns.rcode.toNat, a.rcode_lt⟩ := by
        intro he
        have : a.dns.rcode.toNat = 15 := congrArg Fin.val he.symm
        exact h (by simpa [Answer.isRcode15, ← UInt8.toNat_inj] using this)
      rw [Function.update_of_ne h15, if_neg h, Nat.add_zero]

end Counter

/-! ## What is printed -/

/-- The figures of the line `DNS RCODES` and the entry it leaves out. -/
theorem sum_presentRcodes (result : Results) :
    ((DNSSender.presentRcodes result).map Prod.snd).sum + result.rcodes 15 =
      ∑ i, result.rcodes i := by
  have hlast : ∀ i : Fin 15, (i.castSucc : Fin 16).val < 15 := fun i => i.2
  have hterm : ∀ i : Fin 16, (if decide (i.val < 15 ∧ result.rcodes i ≠ 0) = true
      then result.rcodes i else 0) = if i.val < 15 then result.rcodes i else 0 := by
    intro i
    by_cases h : result.rcodes i = 0 <;> simp [h]
  simp only [DNSSender.presentRcodes, List.map_map, Function.comp_def]
  rw [Tally.sum_map_filter _ fun i => result.rcodes i, ← Fin.sum_univ_def]
  simp only [hterm]
  have h15 : (15 : Fin 16) = Fin.last 15 := rfl
  rw [Fin.sum_univ_castSucc, Fin.sum_univ_castSucc result.rcodes, h15]
  simp only [hlast, if_true, Fin.val_last, Nat.lt_irrefl, if_false, add_zero]

/-- The counters are those of the answers, conserved and complete, and so is what is printed. -/
structure Belongs (t : DNSReceiverThread) (as : List Answer) : Prop where
  counters : t.counter = as.foldl Counter.countAnswer Counter.zero
  conserved : ∑ i, t.counter.rcodes i = t.counter.numPkgs
  received : t.counter.numPkgs = .ofNat as.length
  truncated : t.counter.truncated = .ofNat (as.countP (·.dns.tc ≠ 0))
  printed : ∀ s : DNSSender, s.receiver = some t →
    ((DNSSender.presentRcodes s.getResults).map Prod.snd).sum = s.getResults.counterReceived

theorem belongs_iff {t : DNSReceiverThread} {as : List Answer} {g : UInt64}
    (h : t.counter = (as.foldl Counter.countAnswer Counter.zero).carry g) :
    Belongs t as ↔ g = 0 ∧ UInt64.ofNat (as.countP Answer.isRcode15) = 0 := by
  have h15 := Counter.rcode15_foldl as Counter.zero
  have hsum := Counter.sum_rcodes_foldl as Counter.zero
  have hnum := Counter.numPkgs_foldl as Counter.zero
  have htc := Counter.truncated_foldl as Counter.zero
  have hz : ∑ i, Counter.zero.rcodes i = 0 := by decide
  have hres : ∀ s : DNSSender, s.receiver = some t →
      s.getResults.rcodes = t.counter.rcodes ∧ s.getResults.counterReceived = t.counter.numPkgs := by
    intro s hs
    simp only [DNSSender.getResults, hs, DNSSender.addReceiver, and_self]
  have hz15 : Counter.zero.rcodes 15 = 0 := rfl
  rw [hz15, zero_add] at h15
  rw [hz, zero_add] at hsum
  rw [show Counter.zero.numPkgs = 0 from rfl, zero_add] at hnum
  rw [show Counter.zero.truncated = 0 from rfl, zero_add] at htc
  constructor
  · intro hb
    have hg : g = 0 := by
      have hc := congrArg (fun c => c.rcodes 15) (h.symm.trans hb.counters)
      simpa [Counter.carry] using hc
    refine ⟨hg, ?_⟩
    obtain ⟨hr, hn⟩ := hres { DNSSender.new with receiver := some t } rfl
    have hp := hb.printed { DNSSender.new with receiver := some t } rfl
    have hs := sum_presentRcodes { DNSSender.new with receiver := some t }.getResults
    rw [hp, hr, hn, hb.conserved, hb.counters, h15] at hs
    exact add_eq_left.1 hs
  · rintro ⟨rfl, h0⟩
    have hc : t.counter = as.foldl Counter.countAnswer Counter.zero := by
      rw [h]
      simp [Counter.carry]
    rw [h0] at h15
    refine ⟨hc, by rw [hc, hsum, hnum], by rw [hc, hnum], by rw [hc, htc], ?_⟩
    intro s hs
    obtain ⟨hr, hn⟩ := hres s hs
    have hp := sum_presentRcodes s.getResults
    rw [hr, hc, h15, add_zero, hsum] at hp
    rw [hp, hn, hc, hnum]

/-! ## The receiver -/

namespace RawSocketReceiver

/-- The socket after a `receive`, and the answer it counts. -/
def answer (r : RawSocketReceiver) (e : Option Bytes × Option Timeval) :
    RawSocketReceiver × Option Answer :=
  match e.1 with
  | none => (r, none)
  | some frame =>
    let (r, bufused) := r.recvfrom frame
    let b := fun i (h : i < 4096) => r.buffer.load8 i h
    let dns := DNSHeader.ofBytes (b 42 (by decide)) (b 43 (by decide)) (b 44 (by decide))
      (b 45 (by decide))
    (r, if r.passes bufused then some ⟨dns, .ofNat bufused, e.2, by
      simp only [dns, DNSHeader.ofBytes, UInt8.toNat_and]
      exact Nat.lt_succ_of_le Nat.and_le_right⟩ else none)

/-- The answers counted in a series of `receive`s. -/
def answers : RawSocketReceiver → List (Option Bytes × Option Timeval) →
    RawSocketReceiver × List Answer :=
  Run.trace answer

theorem answers_append (r : RawSocketReceiver) (l m : List (Option Bytes × Option Timeval)) :
    r.answers (l ++ m) =
      (((r.answers l).1.answers m).1, (r.answers l).2 ++ ((r.answers l).1.answers m).2) :=
  Run.trace_append l m r

/-- An event adds at most one answer. -/
theorem countP_answers_singleton (r : RawSocketReceiver) (p : Answer → Bool)
    (e : Option Bytes × Option Timeval) : (r.answers [e]).2.countP p ≤ 1 := by
  apply Nat.le_trans List.countP_le_length
  simp only [answers, Run.trace, List.append_nil]
  cases (r.answer e).2 <;> simp

theorem dnsHeaderAt_buffer (b : Block 4096) : dnsHeaderAt b.bytes = .ok (.ofBytes
    (b.load8 42 (by decide)) (b.load8 43 (by decide)) (b.load8 44 (by decide))
    (b.load8 45 (by decide))) := by
  have h : (b.bytes.drop (14 + 20 + 8)).take 4 = [b.load8 42 (by decide), b.load8 43 (by decide),
      b.load8 44 (by decide), b.load8 45 (by decide)] := by
    show b.load 42 4 = _
    rw [b.load_append 42 1 3, b.load_append 43 1 2, b.load_append 44 1 1, b.load_one (by decide),
      b.load_one (by decide), b.load_one (by decide), b.load_one (by decide)]
    rfl
  rw [dnsHeaderAt, h]

/-- `receive` never fails, and counts the answer if there is one. -/
theorem receive_eq (r : RawSocketReceiver) (c : Counter) (e : Option Bytes × Option Timeval) :
    r.receive c e.1 e.2 =
      .ok ((r.answer e).1, (r.answer e).2.toList.foldl Counter.countAnswer c) := by
  obtain ⟨frame, tp⟩ := e
  cases frame with
  | none => rfl
  | some frame =>
    simp only [receive, answer, countPacket, dnsHeaderAt_buffer]
    by_cases h : (r.recvfrom frame).1.passes (r.recvfrom frame).2 = true
    · rw [if_pos h, if_pos h]
      rfl
    · rw [if_neg h, if_neg h]
      rfl

end RawSocketReceiver

namespace DNSReceiverThread

variable {socket : RawSocketReceiver} {mem : Fin 16 → UInt64}

theorem go_eq : ∀ (es : List (Option Bytes × Option Timeval)) (t : DNSReceiverThread),
    run.go t es = .ok ⟨(t.socket.answers es).1,
      (t.socket.answers es).2.foldl Counter.countAnswer t.counter⟩
  | [], _ => rfl
  | e :: es, t => by
    simp only [run.go, RawSocketReceiver.receive_eq, RawSocketReceiver.answers, Run.trace,
      List.foldl_append]
    exact go_eq es _

/-- **A step, or its first part, counts its answers into the cleared counters.** -/
theorem run_eq (t : DNSReceiverThread) (es : List (Option Bytes × Option Timeval)) :
    t.run es = .ok ⟨(t.socket.answers es).1,
      ((t.socket.answers es).2.foldl Counter.countAnswer Counter.zero).carry
        (t.counter.rcodes 15)⟩ := by
  rw [run, go_eq, Counter.foldl_clear]

theorem belongs_run_iff {t t' : DNSReceiverThread} {es : List (Option Bytes × Option Timeval)}
    (h : t.run es = .ok t') : Belongs t' (t.socket.answers es).2 ↔
      t.counter.rcodes 15 = 0 ∧
        UInt64.ofNat ((t.socket.answers es).2.countP Answer.isRcode15) = 0 := by
  rw [run_eq] at h
  cases h
  exact belongs_iff rfl

/-- Whole steps one after the other: `rcodes[15]` is never cleared. -/
theorem exec_run : ∀ (steps : List (List (Option Bytes × Option Timeval))) (t : DNSReceiverThread),
    ∃ t', Run.exec run t steps = .ok t' ∧ t'.socket = (t.socket.answers steps.flatten).1 ∧
      t'.counter.rcodes 15 = t.counter.rcodes 15 +
        .ofNat ((t.socket.answers steps.flatten).2.countP Answer.isRcode15)
  | [], t => ⟨t, rfl, rfl, (add_zero _).symm⟩
  | step :: steps, t => by
    obtain ⟨t', he, hs, hr⟩ := exec_run steps ⟨(t.socket.answers step).1,
      ((t.socket.answers step).2.foldl Counter.countAnswer Counter.zero).carry (t.counter.rcodes 15)⟩
    refine ⟨t', Run.exec_cons_ok.2 ⟨_, run_eq t step, he⟩, ?_, ?_⟩
    · rw [hs, List.flatten_cons, RawSocketReceiver.answers_append]
    · rw [hr, List.flatten_cons, RawSocketReceiver.answers_append, List.countP_append,
        UInt64.ofNat_add, ← add_assoc]
      congr 1
      simp only [Counter.carry, Function.update_self, Counter.rcode15_foldl]
      rw [show Counter.zero.rcodes 15 = 0 from rfl, zero_add, add_comm]

/-- The counters `cur` of a step after `earlier` steps belong to the step. -/
def BelongsAt (socket : RawSocketReceiver) (mem : Fin 16 → UInt64)
    (earlier : List (List (Option Bytes × Option Timeval)))
    (cur : List (Option Bytes × Option Timeval)) : Prop :=
  ∃ t t', Run.exec run ⟨socket, .new mem⟩ earlier = .ok t ∧ t.run cur = .ok t' ∧
    Belongs t' (t.socket.answers cur).2

theorem belongsAt_iff (earlier : List (List (Option Bytes × Option Timeval)))
    (cur : List (Option Bytes × Option Timeval)) :
    BelongsAt socket mem earlier cur ↔
      mem 15 + .ofNat ((socket.answers earlier.flatten).2.countP Answer.isRcode15) = 0 ∧
      UInt64.ofNat (((socket.answers earlier.flatten).1.answers cur).2.countP Answer.isRcode15) =
        0 := by
  obtain ⟨t, he, hs, hr⟩ := exec_run earlier ⟨socket, .new mem⟩
  have hr' : t.counter.rcodes 15 = mem 15 +
    .ofNat ((socket.answers earlier.flatten).2.countP Answer.isRcode15) := hr
  rw [← hr', ← hs, ← belongs_run_iff (run_eq t cur)]
  constructor
  · rintro ⟨u, u', hu, hu', h⟩
    cases he.symm.trans hu
    cases (run_eq t cur).symm.trans hu'
    exact h
  · exact fun h => ⟨t, _, he, run_eq t cur, h⟩

/-- A part of the run without rcode 15. -/
theorem countP_answers_eq_zero {l m n : List (Option Bytes × Option Timeval)}
    (h : ∀ a ∈ (socket.answers (l ++ (m ++ n))).2, a.isRcode15 = false) :
    (socket.answers l).2.countP Answer.isRcode15 = 0 ∧
      ((socket.answers l).1.answers m).2.countP Answer.isRcode15 = 0 := by
  simp only [RawSocketReceiver.answers_append, List.mem_append] at h
  simp only [List.countP_eq_zero, Bool.not_eq_true]
  exact ⟨fun a ha => h a (.inl ha), fun a ha => h a (.inr (.inl ha))⟩

section
variable {steps : List (List (Option Bytes × Option Timeval))}
  (h : ∀ earlier cur rest later, steps = earlier ++ (cur ++ rest) :: later →
    BelongsAt socket mem earlier cur)

include h

/-- Within a step: one event at a time, each adds at most one answer. -/
theorem countP_step_eq_zero {earlier : List (List (Option Bytes × Option Timeval))}
    {cur : List (Option Bytes × Option Timeval)} : ∀ {rest later},
      steps = earlier ++ (cur ++ rest) :: later →
      ((socket.answers earlier.flatten).1.answers cur).2.countP Answer.isRcode15 = 0 := by
  induction cur using List.reverseRecOn with
  | nil => exact fun _ => rfl
  | append_singleton cur e ih =>
    intro rest later hs
    have hcur := @ih (e :: rest) later (by rw [hs, List.append_assoc]; rfl)
    have hb := ((belongsAt_iff _ _).1 (h earlier (cur ++ [e]) rest later hs)).2
    rw [RawSocketReceiver.answers_append, List.countP_append, hcur, Nat.zero_add] at hb ⊢
    have hle := RawSocketReceiver.countP_answers_singleton
      ((socket.answers earlier.flatten).1.answers cur).1 Answer.isRcode15 e
    exact Tally.eq_zero_of_ofNat (by omega) hb

/-- Step after step. -/
theorem countP_steps_eq_zero {earlier : List (List (Option Bytes × Option Timeval))} :
    ∀ {later}, steps = earlier ++ later →
      (socket.answers earlier.flatten).2.countP Answer.isRcode15 = 0 := by
  induction earlier using List.reverseRecOn with
  | nil => exact fun _ => rfl
  | append_singleton earlier step ih =>
    intro later hs
    have hs' : steps = earlier ++ (step ++ []) :: later := by simp [hs]
    rw [List.flatten_append, RawSocketReceiver.answers_append, List.countP_append,
      @ih (step :: later) (by simp [hs]), List.flatten_singleton, countP_step_eq_zero h hs']

end

/-- **The counters over load steps**: at every moment of every step they belong to the step iff no
answer of any step has rcode 15 and, unless there is no step, the memory had a 0 in `rcodes[15]`. -/
theorem counters_belong_iff (socket : RawSocketReceiver) (mem : Fin 16 → UInt64)
    (steps : List (List (Option Bytes × Option Timeval))) :
    (∀ earlier cur rest later, steps = earlier ++ (cur ++ rest) :: later →
      BelongsAt socket mem earlier cur) ↔
    (steps = [] ∨ mem 15 = 0) ∧ ∀ a ∈ (socket.answers steps.flatten).2, a.dns.rcode ≠ 15 := by
  have hrcode : ∀ a : Answer, a.dns.rcode ≠ 15 ↔ a.isRcode15 = false := by
    intro a
    simp [Answer.isRcode15]
  simp only [hrcode]
  constructor
  · intro h
    refine ⟨?_, ?_⟩
    · cases steps with
      | nil => exact .inl rfl
      | cons step later =>
        have h0 := ((belongsAt_iff _ _).1 (h [] [] step later rfl)).1
        exact .inr (by simpa [RawSocketReceiver.answers, Run.trace] using h0)
    · have h0 := countP_steps_eq_zero h (List.append_nil steps).symm
      simpa [List.countP_eq_zero] using h0
  · rintro ⟨hmem, h⟩ earlier cur rest later hs
    have hne : steps ≠ [] := by simp [hs]
    have hm : mem 15 = 0 := hmem.resolve_left hne
    have hflat : steps.flatten = earlier.flatten ++ (cur ++ (rest ++ later.flatten)) := by
      simp [hs]
    rw [hflat] at h
    obtain ⟨h1, h2⟩ := countP_answers_eq_zero h
    exact (belongsAt_iff _ _).2 ⟨by rw [hm, h1]; rfl, by rw [h2]; rfl⟩

/-- An answer with rcode 15 from 10.0.0.1 port 53. -/
def rcode15Frame : Bytes :=
  List.replicate 12 0 ++ [0x08, 0x00, 0x45] ++ List.replicate 8 0 ++ [17, 0, 0, 10, 0, 0, 1] ++
    List.replicate 4 0 ++ [0, 53] ++ List.replicate 9 0 ++ [15] ++ List.replicate 8 0

theorem rcode15_carried_over : ∃ t t',
    Run.exec run ⟨⟨⟨0x0a000001⟩, htons 53, .zero 4096⟩, .new fun _ => 0⟩
      [[(some rcode15Frame, none)]] = .ok t ∧ t.run [] = .ok t' ∧
    (let s := { DNSSender.new with receiver := some t }
     DNSSender.presentRcodes s.getResults = [] ∧ s.getResults.counterReceived = 1) ∧
    t'.counter.numPkgs = 0 ∧ ∑ i, t'.counter.rcodes i = 1 :=
  ⟨_, _, rfl, rfl, by decide +kernel, by decide +kernel, by decide +kernel⟩

end DNSReceiverThread

/-- An answer with id 0 from 10.0.0.1 port 53. -/
def answerFrame : Bytes :=
  List.replicate 12 0 ++ [0x08, 0x00, 0x45] ++ List.replicate 8 0 ++ [17, 0, 0, 10, 0, 0, 1] ++
    List.replicate 4 0 ++ [0, 53] ++ List.replicate 8 0 ++ [128] ++ List.replicate 9 0

/-- The receiver that waits for it. -/
def answerReceiver : DNSReceiverThread := ⟨⟨⟨0x0a000001⟩, htons 53, .zero 4096⟩, .new fun _ => 0⟩

end Dnsmeter
