import Dnsmeter.Proof.Thread
import Dnsmeter.Lib.Tally

/-!
# Send accounting

The five totals of a thread, of a call and of the results are added up in one monoid.

* `totals_trySend_ok`, `totals_trySend_error`: a call adds its own totals to those of its thread, one
  that raises adds nothing.
* `Accounted`: in every state of a load step, a thread that has started has the totals of the calls
  it has made since; kept by every action of every thread (`Accounted.act`).
* `totals_getResults`: `getResults` adds up the threads.
* `send_accounting`: the results of a step are those of its calls.
-/

namespace Dnsmeter

/-! ## Totals -/

structure Totals where
  send : UInt64
  errors : UInt64
  zero : UInt64
  bytes : UInt64
  errorcodes : UInt64

namespace Totals

instance : Zero Totals := ⟨⟨0, 0, 0, 0, 0⟩⟩
instance : Add Totals := ⟨fun a b => ⟨a.send + b.send, a.errors + b.errors, a.zero + b.zero,
  a.bytes + b.bytes, a.errorcodes + b.errorcodes⟩⟩

theorem zero_def : (0 : Totals) = ⟨0, 0, 0, 0, 0⟩ := rfl

theorem add_def (a b : Totals) : a + b = ⟨a.send + b.send, a.errors + b.errors, a.zero + b.zero,
  a.bytes + b.bytes, a.errorcodes + b.errorcodes⟩ := rfl

instance : AddCommMonoid Totals where
  add_assoc a b c := by simp [add_def, add_assoc]
  zero_add a := by simp [add_def, zero_def]
  add_zero a := by simp [add_def, zero_def]
  add_comm a b := by simp [add_def, add_comm]
  nsmul := nsmulRec

end Totals

def DNSSenderThread.totals (t : DNSSenderThread) : Totals :=
  ⟨t.counterPacketsSend, t.errors, t.counter0bytes, t.counterBytesSend,
    ∑ i, t.counterErrorcodes i⟩

def Results.totals (r : Results) : Totals :=
  ⟨r.counterSend, r.counterErrors, r.counter0bytes, r.bytesSend, ∑ i, r.counterErrorcodes i⟩

/-! ## A call -/

open DNSSenderThread

namespace DNSSender.Call

/-- The length of the datagram handed to `sendto`, if the call came to that. -/
def size? (c : Call) : Option Nat :=
  match c.result with
  | .returned _ _ d => some d.length
  | _ => none

def size (c : Call) : Nat := c.size?.getD 0

/-- An exception left the call. -/
def raised (c : Call) : Bool :=
  match c.result with
  | .raised _ _ _ => true
  | _ => false

/-- `sendto` took the whole datagram. -/
def sent (c : Call) : Bool := 0 < c.env.n ∧ c.size? = some c.env.n.toNat

/-- `sendto` failed. -/
def failed (c : Call) : Bool := c.size?.isSome ∧ c.env.n < 0

/-- `sendto` took nothing, or a part. -/
def short (c : Call) : Bool := c.size?.isSome ∧ 0 ≤ c.env.n ∧ ¬ c.sent

/-- `sendto` failed with an `errno` that has a counter. -/
def coded (c : Call) : Bool := c.failed ∧ c.env.errno < 255

def totals (c : Call) : Totals where
  send := if c.sent then 1 else 0
  errors := if c.failed then 1 else 0
  zero := if c.short then 1 else 0
  bytes := .ofNat (if c.sent then c.size else 0)
  errorcodes := if c.coded then 1 else 0

end DNSSender.Call

open DNSSender (Call)

theorem totals_account (t : DNSSenderThread) (n : Int) (errno : Nat) : (t.account n errno).totals =
    t.totals +
      if 0 < n ∧ n = t.pkt.size then ⟨1, 0, 0, .ofNat t.pkt.size, 0⟩
      else if n < 0 then ⟨0, 1, 0, 0, if errno < 255 then 1 else 0⟩
      else ⟨0, 0, 1, 0, 0⟩ := by
  unfold account
  split
  · simp [totals, Totals.add_def]
  split
  · by_cases he : errno < 255
    · simp only [totals, Totals.add_def, dif_pos he, if_pos he, add_zero, Tally.sum_update_add]
    · simp [totals, Totals.add_def, he]
  · simp [totals, Totals.add_def]

/-- A call of which `sendto` got `size` bytes and returned `n`. -/
theorem totals_of_size? {c : Call} {size : Nat} (h : c.size? = some size) : c.totals =
    if 0 < c.env.n ∧ c.env.n = size then ⟨1, 0, 0, .ofNat size, 0⟩
    else if c.env.n < 0 then ⟨0, 1, 0, 0, if c.env.errno < 255 then 1 else 0⟩
    else ⟨0, 0, 1, 0, 0⟩ := by
  have hsent : c.sent = true ↔ 0 < c.env.n ∧ c.env.n = size := by
    simp only [Call.sent, h, decide_eq_true_eq, Option.some.injEq]
    omega
  have hfailed : c.failed = true ↔ c.env.n < 0 := by simp [Call.failed, h]
  have hcoded : c.coded = true ↔ c.env.n < 0 ∧ c.env.errno < 255 := by
    simp [Call.coded, hfailed]
  have hshort : c.short = true ↔ 0 ≤ c.env.n ∧ ¬ (0 < c.env.n ∧ c.env.n = size) := by
    simp only [Call.short, h, decide_eq_true_eq, Option.isSome_some, true_and, hsent]
  simp only [Call.totals, Call.size, hsent, hfailed, hcoded, hshort, h, Option.getD_some]
  split
  · rename_i hs
    rw [if_neg (by omega), if_neg (by omega), if_neg (by omega)]
  split
  · rename_i hs hn
    rw [if_neg (by omega)]
    simp [hn]
  · rename_i hs hn
    rw [if_pos ⟨by omega, hs⟩, if_neg fun h => hn h.1]
    rfl

/-- What `sendto` gets is the packet. -/
theorem length_trySend {t t' : DNSSenderThread} {p p' : PayloadFile} {env : SendEnv} {d : Bytes}
    (h : t.trySend p env = .ok (t', p', d)) : d.length = t'.pkt.size := by
  obtain ⟨pkt, buffer, dnsseccounter, rfl, rfl⟩ := trySend_ok_eq h
  rw [pkt_account]
  exact Block.length_load (by rw [Nat.zero_add]; exact Packet.payload_fits _)

/-- **A call adds its totals to those of its thread.** -/
theorem totals_trySend_ok {t t' : DNSSenderThread} {p p' : PayloadFile} {env : SendEnv} {d : Bytes}
    (h : t.trySend p env = .ok (t', p', d)) (i : Nat) :
    t'.totals = t.totals + (⟨i, env, .returned t' p' d⟩ : Call).totals := by
  have hlen := length_trySend h
  obtain ⟨pkt, buffer, dnsseccounter, ht', -⟩ := trySend_ok_eq h
  rw [ht', pkt_account] at hlen
  rw [totals_of_size? (show (⟨i, env, .returned t' p' d⟩ : Call).size? = some d.length from rfl),
    hlen, ht', totals_account]
  rfl

theorem totals_trySend_error {t t' : DNSSenderThread} {p p' : PayloadFile} {env : SendEnv}
    {e : Abort} (h : t.trySend p env = .error (e, t', p')) : t'.totals = t.totals := by
  obtain ⟨pkt, buffer, dnsseccounter, rfl⟩ := trySend_error_eq h
  rfl

theorem totals_start {t t' : DNSSenderThread} (h : t.start = .ok t') : t'.totals = 0 := by
  unfold start at h
  split at h
  · cases h
  · cases h
    simp [totals, Totals.zero_def]

/-! ## A load step -/

/-- A thread and the calls it has made since it was started. -/
structure WorkerAccounted (w : Worker) (calls : List Call) : Prop where
  hasPayload : w.thread.hasPayload = true
  waiting : w.state = .waiting → calls = []
  totals : w.state ≠ .waiting → w.thread.totals = (calls.map Call.totals).sum

theorem WorkerAccounted.acts {w w' : Worker} {calls : List Call} {p p' : PayloadFile} {a : Action}
    {r : Option SendResult} (h : WorkerAccounted w calls) (ha : w.Acts p a w' p' r) (i : Nat) :
    WorkerAccounted w' (calls ++ (DNSSender.callOf i a r).toList) := by
  have hpay := ha.config.hasPayload.trans h.hasPayload
  cases ha with
  | skip =>
    have hcall : DNSSender.callOf i a none = none := by cases a <;> rfl
    rw [hcall, Option.toList_none, List.append_nil]
    exact h
  | start hw hs =>
    have hcalls : calls ++ (DNSSender.callOf i .start none).toList = [] := by
      rw [h.waiting hw]
      rfl
    rw [hcalls]
    exact ⟨hpay, fun _ => rfl, fun _ => totals_start hs⟩
  | noPayload hw hn => exact absurd (h.hasPayload.symm.trans hn) (by decide)
  | finish hw =>
    refine ⟨hpay, fun hi => (by cases hi), ?_⟩
    intro _
    simpa [DNSSender.callOf] using h.totals (by rw [hw]; decide)
  | @returned env t p' d hw ht =>
    refine ⟨hpay, fun hi => (by cases hi), ?_⟩
    intro _
    have hsum := h.totals (by rw [hw]; decide)
    simp only [DNSSender.callOf, Option.toList_some, List.map_append, List.sum_append, List.map_cons,
      List.map_nil, List.sum_singleton, ← hsum]
    exact totals_trySend_ok ht i
  | @raised env e t p' hw ht =>
    refine ⟨hpay, fun hi => (by cases hi), ?_⟩
    intro _
    have hsum := h.totals (by rw [hw]; decide)
    have hzero : (⟨i, env, .raised e t p'⟩ : Call).totals = 0 := by
      simp [Call.totals, Call.sent, Call.failed, Call.short, Call.coded, Call.size?, Totals.zero_def]
    simp only [DNSSender.callOf, Option.toList_some, List.map_append, List.sum_append, List.map_cons,
      List.map_nil, List.sum_singleton, ← hsum, hzero, add_zero]
    exact totals_trySend_error ht

namespace DNSSender

/-- The calls of a step so far, each by a thread of the pool, account for every thread's totals. -/
structure Accounted (s : DNSSender) (calls : List Call) : Prop where
  thread_lt : ∀ c ∈ calls, c.thread < s.threadpool.length
  ended : ∀ c ∈ calls, c.raised = false → c.size?.isSome
  worker : ∀ i w, s.threadpool[i]? = some w → WorkerAccounted w (calls.filter (·.thread = i))

/-- No call goes on for ever: it is over after one pass. -/
theorem ended_of_acts {w w' : Worker} {p p' : PayloadFile} {i : Nat} {a : Action}
    {r : Option SendResult} {c : Call} (h : w.Acts p a w' p' r) (hc : c ∈ (callOf i a r).toList)
    (hr : c.raised = false) : c.size?.isSome := by
  rw [Option.mem_toList] at hc
  cases h with
  | skip => cases a <;> cases hc
  | start => cases hc
  | noPayload => cases hc
  | finish => cases hc
  | returned => cases hc; rfl
  | raised => cases hc; cases hr

theorem Accounted.act {s : DNSSender} {calls : List Call} (h : s.Accounted calls) (i : Nat)
    (a : Action) : (s.act i a).1.Accounted (calls ++ (s.act i a).2.toList) := by
  rcases s.act_spec i a with ⟨-, hs⟩ | ⟨w, w', p', r, hw, hacts, hs⟩
  · rw [hs, Option.toList_none, List.append_nil]
    exact h
  rw [hs]
  have hi : i < s.threadpool.length := (List.getElem?_eq_some_iff.1 hw).1
  refine ⟨?_, ?_, ?_⟩
  · intro c hc
    rw [List.length_set]
    rcases List.mem_append.1 hc with hc | hc
    · exact h.thread_lt c hc
    · rw [thread_of_callOf hc]
      exact hi
  · intro c hc
    rcases List.mem_append.1 hc with hc | hc
    · exact h.ended c hc
    · exact ended_of_acts hacts hc
  · have hworker := calls_act (P := WorkerAccounted) i a
      (fun w w' p' r cs hcs hacts => hcs.acts hacts i) h.worker
    rwa [hs] at hworker

/-- All threads wait: no calls yet, whatever the counters hold. -/
theorem accounted_run {n R r : Int32} {u v : DNSSender} {procNetDev : Bytes}
    (h : u.PreparedFor n R) (hv : u.run r procNetDev = .ok v) : v.Accounted [] := by
  have hp := (h.run hv).1.hasPayload
  obtain ⟨u1, sys1, receiver, -, rfl⟩ := run_ok hv
  refine ⟨fun c hc => (by cases hc), fun c hc => (by cases hc),
    fun i w hw => ⟨hp w (List.mem_of_getElem? hw), fun _ => rfl, ?_⟩⟩
  intro hne
  obtain ⟨w0, -, rfl⟩ := List.mem_map.1 (List.mem_of_getElem? hw)
  exact absurd rfl hne

/-! ## The results -/

theorem totals_addThread (result : Results) (t : DNSSenderThread) :
    (addThread result t).totals = result.totals + t.totals := by
  simp only [addThread, Results.totals, DNSSenderThread.totals, getCounterErrorCode, Totals.add_def,
    Fin.is_lt, dif_pos, Fin.eta, Finset.sum_add_distrib]

theorem totals_foldl_addThread : ∀ (ts : List DNSSenderThread) (result : Results),
    (ts.foldl addThread result).totals = result.totals + (ts.map DNSSenderThread.totals).sum
  | [], result => by simp
  | t :: ts, result => by
    rw [List.foldl_cons, totals_foldl_addThread ts, totals_addThread, List.map_cons, List.sum_cons,
      add_assoc]

/-- `getResults` adds up the threads of the pool. -/
theorem totals_getResults (s : DNSSender) :
    s.getResults.totals = (s.threadpool.map (·.thread.totals)).sum := by
  have hfold := totals_foldl_addThread (s.threadpool.map Worker.thread) .cleared
  have hz : Results.cleared.totals = 0 := by simp [Results.totals, Results.cleared, Totals.zero_def]
  rw [hz, zero_add, List.map_map] at hfold
  have hres : s.getResults.totals =
      ((s.threadpool.map Worker.thread).foldl addThread .cleared).totals := by
    unfold getResults
    cases s.receiver <;> rfl
  rw [hres, hfold]
  rfl

/-- **The results of a step in which every thread has started are the totals of its calls.** -/
theorem Accounted.totals_getResults {s : DNSSender} {calls : List Call} (h : s.Accounted calls)
    (hstarted : ∀ w ∈ s.threadpool, w.state ≠ .waiting) :
    s.getResults.totals = (calls.map Call.totals).sum := by
  rw [DNSSender.totals_getResults, ← Tally.sum_fin_get,
    ← Tally.sum_by_key Call.thread Call.totals h.thread_lt]
  apply Finset.sum_congr rfl
  intro i _
  have hw : s.threadpool[i.val]? = some (s.threadpool.get i) := List.getElem?_eq_getElem i.2
  exact (h.worker i _ hw).totals (hstarted _ (List.get_mem _ _))

/-! ## Counting the calls -/

theorem sum_totals : ∀ calls : List Call, (calls.map Call.totals).sum =
    ⟨.ofNat (calls.countP Call.sent), .ofNat (calls.countP Call.failed),
      .ofNat (calls.countP Call.short), .ofNat ((calls.filter Call.sent).map Call.size).sum,
      .ofNat (calls.countP Call.coded)⟩
  | [] => rfl
  | c :: calls => by
    have hcount : ∀ p : Call → Bool, (.ofNat ((c :: calls).countP p) : UInt64) =
        (if p c then 1 else 0) + .ofNat (calls.countP p) := by
      intro p
      rw [← Tally.sum_map_ite, ← Tally.sum_map_ite, List.map_cons, List.sum_cons]
    rw [List.map_cons, List.sum_cons, sum_totals calls, hcount, hcount, hcount, hcount,
      Tally.sum_map_filter, Tally.sum_map_filter, List.map_cons, List.sum_cons, UInt64.ofNat_add]
    rfl

/-- A call that came to `sendto` has exactly one of three outcomes. -/
theorem one_outcome {c : Call} (h : c.size?.isSome) :
    c.sent = true ∧ c.failed = false ∧ c.short = false ∨
    c.sent = false ∧ c.failed = true ∧ c.short = false ∨
    c.sent = false ∧ c.failed = false ∧ c.short = true := by
  have hn : c.sent = true → 0 < c.env.n := by
    intro hs
    simp only [Call.sent, decide_eq_true_eq] at hs
    exact hs.1
  simp only [Call.failed, Call.short, h, true_and]
  by_cases hs : c.sent = true
  · have := hn hs
    exact .inl ⟨hs, by simp; omega, by simp [hs]⟩
  · rw [Bool.not_eq_true] at hs
    by_cases hneg : c.env.n < 0
    · exact .inr (.inl ⟨hs, by simpa using hneg, by simp; omega⟩)
    · exact .inr (.inr ⟨hs, by simpa using hneg, by simp [hs]; omega⟩)

theorem countP_outcomes : ∀ {calls : List Call}, (∀ c ∈ calls, c.size?.isSome) →
    calls.countP Call.sent + calls.countP Call.failed + calls.countP Call.short = calls.length
  | [], _ => rfl
  | c :: calls, h => by
    have hrest := countP_outcomes fun c' hc' => h c' (List.mem_cons_of_mem c hc')
    simp only [List.countP_cons, List.length_cons]
    rcases one_outcome (h c List.mem_cons_self) with ⟨h1, h2, h3⟩ | ⟨h1, h2, h3⟩ | ⟨h1, h2, h3⟩
    all_goals
      simp only [h1, h2, h3, if_true, Bool.false_eq_true, if_false]
      omega

/-- The counters are those of the calls, modulo `2 ^ 64`. -/
structure CountsCalls (x : Totals) (calls : List Call) : Prop where
  send : x.send = .ofNat (calls.countP Call.sent)
  errors : x.errors = .ofNat (calls.countP Call.failed)
  zero : x.zero = .ofNat (calls.countP Call.short)
  bytes : x.bytes = .ofNat ((calls.filter Call.sent).map Call.size).sum
  errorcodes : x.errorcodes = .ofNat (calls.countP Call.coded)
  total : x.send + x.errors + x.zero = .ofNat calls.length

theorem countsCalls_sum {calls : List Call} (h : ∀ c ∈ calls, c.size?.isSome) :
    CountsCalls (calls.map Call.totals).sum calls := by
  rw [sum_totals]
  refine ⟨rfl, rfl, rfl, rfl, rfl, ?_⟩
  rw [← UInt64.ofNat_add, ← UInt64.ofNat_add, countP_outcomes h]

/-- The call `c` took the thread from `t` to `t'`: exactly one of the three counters grew. -/
def OneCounter (t t' : DNSSenderThread) (c : Call) : Prop :=
  c.sent = true ∧ t'.counterPacketsSend = t.counterPacketsSend + 1 ∧ t'.errors = t.errors ∧
    t'.counter0bytes = t.counter0bytes ∨
  c.failed = true ∧ t'.counterPacketsSend = t.counterPacketsSend ∧ t'.errors = t.errors + 1 ∧
    t'.counter0bytes = t.counter0bytes ∨
  c.short = true ∧ t'.counterPacketsSend = t.counterPacketsSend ∧ t'.errors = t.errors ∧
    t'.counter0bytes = t.counter0bytes + 1

theorem oneCounter_of_totals {t t' : DNSSenderThread} {c : Call} (hc : c.size?.isSome)
    (h : t'.totals = t.totals + c.totals) : OneCounter t t' c := by
  obtain ⟨hsend, herrors, hzero, -, -⟩ := Totals.mk.inj h
  change t'.counterPacketsSend = t.counterPacketsSend + if c.sent then 1 else 0 at hsend
  change t'.errors = t.errors + if c.failed then 1 else 0 at herrors
  change t'.counter0bytes = t.counter0bytes + if c.short then 1 else 0 at hzero
  rcases one_outcome hc with ⟨h1, h2, h3⟩ | ⟨h1, h2, h3⟩ | ⟨h1, h2, h3⟩
  all_goals
    simp only [h1, h2, h3, if_true, Bool.false_eq_true, if_false, add_zero] at hsend herrors hzero
  · exact .inl ⟨h1, hsend, herrors, hzero⟩
  · exact .inr (.inl ⟨h2, hsend, herrors, hzero⟩)
  · exact .inr (.inr ⟨h3, hsend, herrors, hzero⟩)

/-- A call that returns draws one query and is counted once. -/
theorem sendPacket_returned {t t' : DNSSenderThread} {p p' : PayloadFile} {env : SendEnv}
    {envs : List SendEnv} {d : Bytes} (h : t.sendPacket p (env :: envs) = .returned t' p' d)
    (i : Nat) : (∃ bap, p.getQuery = .ok (bap, p')) ∧ d.length = t'.pkt.size ∧
      OneCounter t t' ⟨i, env, .returned t' p' d⟩ := by
  rw [sendPacket_cons] at h
  split at h
  · rename_i t1 p1 d1 ht
    cases h
    refine ⟨?_, ?_, oneCounter_of_totals rfl (totals_trySend_ok ht i)⟩
    · obtain ⟨bap, t1, qs, pkt1, pkt2, hq, -⟩ := trySend_ok ht
      exact ⟨bap, hq⟩
    · exact length_trySend ht
  · cases h

/-- **Send accounting**: a load step from any state the program reaches, any number of threads, any
interleaving of their calls and any results of `sendto`. -/
theorem send_accounting {s0 u v e : DNSSender} {mem : Nat → Block 4096} {r : Int32}
    {procNetDev : Bytes} {acts : List (Nat × Action)} {calls : List Call}
    (h0 : s0.threadpool = []) (hu : Reached s0 mem u) (hv : u.run r procNetDev = .ok v)
    (hstep : Run.trace (fun s a => s.act a.1 a.2) v acts = (e, calls))
    (hraised : ∀ c ∈ calls, c.raised = false)
    (hend : ∀ w ∈ e.threadpool, w.state ≠ .waiting) :
    (∀ (t t' : DNSSenderThread) p p' env envs d i,
      t.sendPacket p (env :: envs) = .returned t' p' d →
        (∃ bap, p.getQuery = .ok (bap, p')) ∧ d.length = t'.pkt.size ∧
          OneCounter t t' ⟨i, env, .returned t' p' d⟩) ∧
    (∀ i w, e.threadpool[i]? = some w →
      CountsCalls w.thread.totals (calls.filter (·.thread = i))) ∧
    CountsCalls e.getResults.totals calls := by
  have hacc : Accounted e calls := Run.trace_inv_of_eq (fun s os a h => h.act a.1 a.2)
    (accounted_run (reached_prepared h0 hu) hv) hstep
  have hsome : ∀ c ∈ calls, c.size?.isSome := fun c hc => hacc.ended c hc (hraised c hc)
  refine ⟨fun t t' p p' env envs d i h => sendPacket_returned h i, ?_, ?_⟩
  · intro i w hw
    rw [(hacc.worker i w hw).totals (hend w (List.mem_of_getElem? hw))]
    exact countsCalls_sum fun c hc => hsome c (List.mem_of_mem_filter hc)
  · rw [hacc.totals_getResults hend]
    exact countsCalls_sum hsome

/-- One thread, one query of 17 bytes, the target 10.0.0.1. -/
def oneQuery : DNSSender :=
  { DNSSender.new with
    targetIP := ⟨0x0a000001⟩
    payload := ⟨1, [List.replicate 17 0], 0, false⟩ }

/-- `sendto` takes the whole datagram of 45 bytes. -/
theorem send_accounting_one_call : ∃ s v e calls,
    oneQuery.prepareThreads (fun _ => .zero 4096) = .ok s ∧ s.run 0 [] = .ok v ∧
    Run.trace (fun s a => s.act a.1 a.2) v [(0, .start), (0, .pass (passOf 45 0))] = (e, calls) ∧
    calls.length = 1 ∧ calls.countP Call.sent = 1 ∧ CountsCalls e.getResults.totals calls := by
  obtain ⟨s, v, e, calls, hs, hv, hstep, hlen, hsent, hraised, hend⟩ : ∃ s v e calls,
      oneQuery.prepareThreads (fun _ => .zero 4096) = .ok s ∧ s.run 0 [] = .ok v ∧
      Run.trace (fun s a => s.act a.1 a.2) v [(0, .start), (0, .pass (passOf 45 0))] = (e, calls) ∧
      calls.length = 1 ∧ calls.countP Call.sent = 1 ∧ (∀ c ∈ calls, c.raised = false) ∧
      ∀ w ∈ e.threadpool, w.state ≠ .waiting :=
    ⟨_, _, _, _, rfl, rfl, rfl, by decide +kernel, by decide +kernel, by decide +kernel,
      by decide +kernel⟩
  exact ⟨s, v, e, calls, hs, hv, hstep, hlen, hsent,
    (send_accounting rfl ⟨s, [], hs, rfl⟩ hv hstep hraised hend).2.2⟩

end DNSSender

end Dnsmeter
