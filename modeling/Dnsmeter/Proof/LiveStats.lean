import Dnsmeter.LiveStats
import Dnsmeter.Proof.Accounting
import Dnsmeter.Proof.Counters
import Dnsmeter.Lib.Snapshot

/-!
# The reports of a running load step

A report reads the counters one after the other while the threads keep counting. No snapshot shows
the counters of one moment, but each of its four figures is at least that of the last one.

* `getResults_eq_reads`: with nothing in between, the reads of a report are `getResults`.
* `Live.Inv`: the counters are those of the calls and of the packets counted so far, and the report
  under way has read values between the last snapshot's and theirs; kept by every step (`Inv.step`).
* `Live.Inv.trueIncrement`: the difference a report prints does not wrap.
* `live_stats_add_up`: in every load step the differences are true increments and sum to the last
  snapshot.
-/

namespace Dnsmeter

open DNSSender (Call Read)

namespace DNSSender

/-! ## The reads at one moment -/

theorem foldl_errorCode {s : DNSSender} {i : Nat} {w : Worker} (hw : s.threadpool[i]? = some w) :
    ∀ (l : List (Fin 255)) (result : Results), l.Nodup →
      (l.map (Read.errorCode i)).foldl (Read.exec s) result =
        { result with
          counterErrorcodes := fun j => if j ∈ l then
            result.counterErrorcodes j + w.thread.getCounterErrorCode j
            else result.counterErrorcodes j }
  | [], result, _ => by simp
  | e :: l, result, hl => by
    obtain ⟨he, hl⟩ := List.nodup_cons.1 hl
    rw [List.map_cons, List.foldl_cons, foldl_errorCode hw l _ hl]
    simp only [Read.exec, Read.exec.onThread, hw]
    congr 1
    funext j
    by_cases hj : j = e
    · subst hj
      simp [he]
    · simp [hj]

theorem foldl_ofThread {s : DNSSender} {i : Nat} {w : Worker} (hw : s.threadpool[i]? = some w)
    (result : Results) :
    (Read.ofThread i).foldl (Read.exec s) result = addThread result w.thread := by
  simp only [Read.ofThread, List.foldl_cons, foldl_errorCode hw _ _ (List.nodup_finRange 255),
    List.mem_finRange, if_true]
  simp only [Read.exec, Read.exec.onThread, hw, addThread]

theorem foldl_rcode {s : DNSSender} {r : DNSReceiverThread} (hr : s.receiver = some r) :
    ∀ (l : List (Fin 16)) (result : Results), (l.map Read.rcode).foldl (Read.exec s) result =
      { result with rcodes := fun j => if j ∈ l then r.counter.rcodes j else result.rcodes j }
  | [], result => by simp
  | i :: l, result => by
    rw [List.map_cons, List.foldl_cons, foldl_rcode hr l]
    simp only [Read.exec, Read.exec.onCounter, hr]
    congr 1
    funext j
    by_cases hj : j = i
    · subst hj
      simp
    · simp [hj]

theorem foldl_ofReceiver {s : DNSSender} {r : DNSReceiverThread} (hr : s.receiver = some r)
    (result : Results) :
    Read.ofReceiver.foldl (Read.exec s) result = addReceiver result r.counter := by
  simp only [Read.ofReceiver, List.foldl_append, List.foldl_cons, List.foldl_nil, foldl_rcode hr,
    List.mem_finRange, if_true]
  simp only [Read.exec, Read.exec.onCounter, hr, addReceiver]

theorem foldl_threads (s : DNSSender) (result : Results) :
    ((List.range s.threadpool.length).flatMap Read.ofThread).foldl (Read.exec s) result =
      (s.threadpool.map Worker.thread).foldl addThread result := by
  -- the first `n` threads, by induction on `n`
  have hn : ∀ n ≤ s.threadpool.length,
      ((List.range n).flatMap Read.ofThread).foldl (Read.exec s) result =
        ((s.threadpool.take n).map Worker.thread).foldl addThread result := by
    intro n
    induction n with
    | zero => intro _; rfl
    | succ n ih =>
      intro hle
      have hw : s.threadpool[n]? = some s.threadpool[n] := List.getElem?_eq_getElem hle
      have htake : s.threadpool.take (n + 1) = s.threadpool.take n ++ [s.threadpool[n]] := by
        rw [List.take_add_one, hw, Option.toList_some]
      rw [List.range_succ, List.flatMap_append, List.foldl_append, ih (by omega), htake,
        List.map_append, List.foldl_append, List.flatMap_singleton, foldl_ofThread hw]
      rfl
  have hall := hn _ (Nat.le_refl _)
  rwa [List.take_length] at hall

/-- **The reads of a report are those of `getResults`.** -/
theorem getResults_eq_reads (s : DNSSender) :
    s.getResults = setPackagesLost (s.reads.foldl (Read.exec s) .cleared) := by
  rw [reads, List.foldl_append, foldl_threads]
  cases hr : s.receiver with
  | none =>
    simp only [getResults, hr]
    rfl
  | some r =>
    simp only [getResults, hr, Option.isSome_some, if_true, foldl_ofReceiver hr]
    rfl

theorem nodup_reads (s : DNSSender) : s.reads.Nodup := by
  have hthread : ∀ i, (Read.ofThread i).Nodup := by
    intro i
    simp [Read.ofThread, List.nodup_map_iff_inj_on (List.nodup_finRange 255)]
  have howner : ∀ i j, i ≠ j → List.Disjoint (Read.ofThread i) (Read.ofThread j) := by
    intro i j hij
    simp [Read.ofThread, List.Disjoint, hij, Ne.symm hij]
  have hreceiver : Read.ofReceiver.Nodup := by decide
  have hthreads : ((List.range s.threadpool.length).flatMap Read.ofThread).Nodup := by
    rw [List.nodup_flatMap]
    exact ⟨fun i _ => hthread i, List.nodup_range.imp fun h => howner _ _ h⟩
  rw [reads, List.nodup_append]
  refine ⟨hthreads, ?_, ?_⟩
  · split
    · exact hreceiver
    · exact List.nodup_nil
  · intro a ha b hb hab
    subst hab
    obtain ⟨i, -, ha⟩ := List.mem_flatMap.1 ha
    split at hb
    · simp only [Read.ofReceiver, Read.ofThread] at ha hb
      cases a <;> simp at ha hb
    · cases hb

/-! ## The four figures -/

/-- The figures of the printed line. -/
inductive Figure where
  | counterSend
  | counterReceived
  | bytesSend
  | bytesReceived
deriving DecidableEq, Repr

end DNSSender

open DNSSender (Figure)

def Results.figure (r : Results) : Figure → UInt64
  | .counterSend => r.counterSend
  | .counterReceived => r.counterReceived
  | .bytesSend => r.bytesSend
  | .bytesReceived => r.bytesReceived

@[simp] theorem Results.figure_cleared (k : Figure) : Results.cleared.figure k = 0 := by
  cases k <;> rfl

@[simp] theorem Results.figure_sub (second first : Results) (k : Figure) :
    (second.sub first).figure k = second.figure k - first.figure k := by
  cases k <;> rfl

@[simp] theorem figure_setPackagesLost (r : Results) (k : Figure) :
    (DNSSender.setPackagesLost r).figure k = r.figure k := by
  cases k <;> rfl

namespace DNSSender

/-- The figure a read goes into. -/
def Read.figure : Read → Option Figure
  | .packetsSend _ => some .counterSend
  | .bytesSend _ => some .bytesSend
  | .numPkgs => some .counterReceived
  | .bytesRcv => some .bytesReceived
  | _ => none

/-- The counter a read finds. -/
def Read.value (s : DNSSender) : Read → UInt64
  | .packetsSend i => (s.threadpool[i]?.map (·.thread.counterPacketsSend)).getD 0
  | .bytesSend i => (s.threadpool[i]?.map (·.thread.counterBytesSend)).getD 0
  | .numPkgs => (s.receiver.map (·.counter.numPkgs)).getD 0
  | .bytesRcv => (s.receiver.map (·.counter.bytesRcv)).getD 0
  | _ => 0

/-- A read adds the counter to its figure; the receiver's overwrite a 0. -/
theorem figure_exec (s : DNSSender) {result : Results} {r : Read} {k : Figure}
    (h0 : r = .numPkgs ∨ r = .bytesRcv → r.figure = some k → result.figure k = 0) :
    (r.exec s result).figure k =
      result.figure k + if r.figure = some k then r.value s else 0 := by
  cases r with
  | packetsSend i =>
    simp only [Read.exec, Read.exec.onThread, Read.figure, Read.value]
    cases s.threadpool[i]? <;> cases k <;> simp [Results.figure]
  | bytesSend i =>
    simp only [Read.exec, Read.exec.onThread, Read.figure, Read.value]
    cases s.threadpool[i]? <;> cases k <;> simp [Results.figure]
  | numPkgs =>
    simp only [Read.exec, Read.exec.onCounter, Read.figure, Read.value] at h0 ⊢
    cases s.receiver <;> cases k <;> simp_all [Results.figure]
  | bytesRcv =>
    simp only [Read.exec, Read.exec.onCounter, Read.figure, Read.value] at h0 ⊢
    cases s.receiver <;> cases k <;> simp_all [Results.figure]
  | errors i | counter0bytes i | errorCode i err =>
    simp only [Read.exec, Read.exec.onThread, Read.figure]
    cases s.threadpool[i]? <;> cases k <;> simp [Results.figure]
  | rttTotal | rttAvg | rttMin | rttMax | rcode i | truncated =>
    simp only [Read.exec, Read.exec.onCounter, Read.figure]
    cases s.receiver <;> cases k <;> simp [Results.figure]

end DNSSender

/-! ## What the counters count -/

namespace Output

def call? : Output → Option Call
  | call c => some c
  | _ => none

def size? : Output → Option UInt64
  | counted size => some size
  | _ => none

def stats? : Output → Option Stats
  | stats st => some st
  | _ => none

end Output

/-- The calls of the sender threads, the sizes of the packets counted, the reports printed. -/
def callsOf (outs : List Output) : List Call := outs.filterMap Output.call?
def sizesOf (outs : List Output) : List UInt64 := outs.filterMap Output.size?
def statsOf (outs : List Output) : List Stats := outs.filterMap Output.stats?

/-- What a figure counts of the calls and of the packets, without a bound. -/
def DNSSender.Figure.count (k : Figure) (calls : List Call) (sizes : List UInt64) : Nat :=
  match k with
  | .counterSend => calls.countP Call.sent
  | .bytesSend => ((calls.filter Call.sent).map Call.size).sum
  | .counterReceived => sizes.length
  | .bytesReceived => (sizes.map UInt64.toNat).sum

/-- What has been counted in a part of a load step. -/
def DNSSender.Figure.total (k : Figure) (outs : List Output) : Nat :=
  k.count (callsOf outs) (sizesOf outs)

/-- The counter a read would find if counters had no bound. -/
def exact (outs : List Output) : Read → Nat
  | .packetsSend i => Figure.counterSend.count ((callsOf outs).filter (·.thread = i)) []
  | .bytesSend i => Figure.bytesSend.count ((callsOf outs).filter (·.thread = i)) []
  | .numPkgs => Figure.counterReceived.count [] (sizesOf outs)
  | .bytesRcv => Figure.bytesReceived.count [] (sizesOf outs)
  | _ => 0

theorem count_append (k : Figure) (calls calls' : List Call) (sizes sizes' : List UInt64) :
    k.count (calls ++ calls') (sizes ++ sizes') = k.count calls sizes + k.count calls' sizes' := by
  cases k <;> simp [Figure.count]

theorem total_append (k : Figure) (outs outs' : List Output) :
    k.total (outs ++ outs') = k.total outs + k.total outs' := by
  simp only [Figure.total, callsOf, sizesOf, List.filterMap_append, count_append]

theorem exact_le_append (outs outs' : List Output) (r : Read) :
    exact outs r ≤ exact (outs ++ outs') r := by
  cases r with
  | packetsSend i | bytesSend i =>
    simp only [exact, callsOf, List.filterMap_append, List.filter_append]
    exact (count_append _ _ _ [] []) ▸ Nat.le_add_right _ _
  | numPkgs | bytesRcv =>
    simp only [exact, sizesOf, List.filterMap_append]
    exact (count_append _ [] [] _ _) ▸ Nat.le_add_right _ _
  | _ => exact Nat.le_refl 0

/-- Calls added up thread by thread. -/
theorem sum_count_threads {k : Figure} (hk : k = .counterSend ∨ k = .bytesSend) {n : Nat}
    {calls : List Call} (h : ∀ c ∈ calls, c.thread < n) (sizes : List UInt64) :
    ((List.range n).map fun i => k.count (calls.filter (·.thread = i)) []).sum =
      k.count calls sizes := by
  -- both figures are sums over the calls
  obtain ⟨f, hf⟩ : ∃ f : Call → Nat, ∀ calls sizes, k.count calls sizes = (calls.map f).sum := by
    rcases hk with rfl | rfl
    · refine ⟨fun c => if c.sent then 1 else 0, fun calls _ => ?_⟩
      rw [Figure.count, ← Tally.sum_map_filter, List.countP_eq_length_filter, List.map_const',
        List.sum_replicate, smul_eq_mul, Nat.mul_one]
    · exact ⟨fun c => if c.sent then c.size else 0, fun calls _ => Tally.sum_map_filter _ _ calls⟩
  simp only [hf]
  rw [← Tally.sum_by_key Call.thread f h, ← List.sum_ofFn, List.ofFn_eq_map,
    ← List.map_coe_finRange_eq_range, List.map_map]
  rfl

theorem total_ofThread (k : Figure) (v : Read → Nat) (i : Nat) :
    Snapshot.total Read.figure v k (Read.ofThread i) = match k with
      | .counterSend => v (.packetsSend i)
      | .bytesSend => v (.bytesSend i)
      | _ => 0 := by
  have hcodes : Snapshot.total Read.figure v k ((List.finRange 255).map (Read.errorCode i)) = 0 := by
    apply Snapshot.total_eq_zero
    intro r hr
    obtain ⟨e, -, rfl⟩ := List.mem_map.1 hr
    exact Option.some_ne_none k |>.symm
  simp only [Read.ofThread, Snapshot.total_cons, hcodes]
  cases k <;> simp [Read.figure]

theorem total_ofReceiver (k : Figure) (v : Read → Nat) :
    Snapshot.total Read.figure v k Read.ofReceiver = match k with
      | .counterReceived => v .numPkgs
      | .bytesReceived => v .bytesRcv
      | _ => 0 := by
  have hcodes : Snapshot.total Read.figure v k ((List.finRange 16).map Read.rcode) = 0 := by
    apply Snapshot.total_eq_zero
    intro r hr
    obtain ⟨e, -, rfl⟩ := List.mem_map.1 hr
    exact Option.some_ne_none k |>.symm
  simp only [Read.ofReceiver, Snapshot.total_append, Snapshot.total_cons, Snapshot.total_nil, hcodes]
  cases k <;> simp [Read.figure]

/-- Read at one moment, the counters are at most what has been counted. -/
theorem total_exact_le {s : DNSSender} {outs : List Output}
    (h : ∀ c ∈ callsOf outs, c.thread < s.threadpool.length) (k : Figure) :
    Snapshot.total Read.figure (exact outs) k s.reads ≤ k.total outs := by
  have hthreads : k = .counterSend ∨ k = .bytesSend →
      ((List.range s.threadpool.length).map fun i =>
        k.count ((callsOf outs).filter (·.thread = i)) []).sum = k.total outs :=
    fun hk => sum_count_threads hk h (sizesOf outs)
  have hnone : k = .counterSend ∨ k = .bytesSend → Snapshot.total Read.figure (exact outs) k
      (if s.receiver.isSome then Read.ofReceiver else []) = 0 := by
    intro hk
    split
    · rw [total_ofReceiver]
      rcases hk with rfl | rfl <;> rfl
    · rfl
  rw [DNSSender.reads, Snapshot.total_append, Snapshot.total_flatMap]
  simp only [total_ofThread]
  cases k with
  | counterSend | bytesSend =>
    rw [hnone (by decide)]
    exact Nat.le_of_eq (hthreads (by decide))
  | counterReceived | bytesReceived =>
    rw [List.map_const', List.sum_replicate, smul_eq_mul, Nat.mul_zero, Nat.zero_add]
    split
    · rw [total_ofReceiver]
      exact Nat.le_refl _
    · exact Nat.zero_le _

/-! ## The counters while the step runs -/

@[simp] theorem callsOf_append (outs outs' : List Output) :
    callsOf (outs ++ outs') = callsOf outs ++ callsOf outs' := List.filterMap_append

@[simp] theorem sizesOf_append (outs outs' : List Output) :
    sizesOf (outs ++ outs') = sizesOf outs ++ sizesOf outs' := List.filterMap_append

@[simp] theorem statsOf_append (outs outs' : List Output) :
    statsOf (outs ++ outs') = statsOf outs ++ statsOf outs' := List.filterMap_append

/-- The counters are those of the calls and of the packets counted so far, modulo `2 ^ 64`. -/
structure Counted (s : DNSSender) (outs : List Output) : Prop where
  accounted : s.Accounted (callsOf outs)
  numPkgs : ∀ r, s.receiver = some r → r.counter.numPkgs = .ofNat (sizesOf outs).length
  bytesRcv : ∀ r, s.receiver = some r →
    r.counter.bytesRcv = .ofNat ((sizesOf outs).map UInt64.toNat).sum

namespace Counted

variable {s : DNSSender} {outs : List Output}

theorem act (h : Counted s outs) (i : Nat) (a : Action) :
    Counted (s.act i a).1 (outs ++ ((s.act i a).2.map Output.call).toList) := by
  have hcalls : callsOf (outs ++ ((s.act i a).2.map Output.call).toList) =
      callsOf outs ++ (s.act i a).2.toList := by
    cases (s.act i a).2 <;> simp [callsOf, Output.call?]
  have hsizes : sizesOf (outs ++ ((s.act i a).2.map Output.call).toList) = sizesOf outs := by
    cases (s.act i a).2 <;> simp [sizesOf, Output.size?]
  have hreceiver : (s.act i a).1.receiver = s.receiver := by
    obtain ⟨threadpool, payload, hs, -⟩ := s.act_frame i a
    rw [hs]
  refine ⟨?_, ?_, ?_⟩
  · rw [hcalls]
    exact h.accounted.act i a
  · rw [hreceiver, hsizes]
    exact h.numPkgs
  · rw [hreceiver, hsizes]
    exact h.bytesRcv

theorem countPacket (h : Counted s outs) {r : DNSReceiverThread} {buffer : Bytes} {size : UInt64}
    {tp : Option Timeval} {counter : Counter} (hr : s.receiver = some r)
    (hc : countPacket r.counter buffer size tp = .ok counter) :
    Counted { s with receiver := some { r with counter } } (outs ++ [.counted size]) := by
  have hcalls : callsOf (outs ++ [.counted size]) = callsOf outs := by simp [callsOf, Output.call?]
  have hsizes : sizesOf (outs ++ [.counted size]) = sizesOf outs ++ [size] := by
    simp [sizesOf, Output.size?]
  obtain ⟨dns, -, hdns⟩ := Run.bind_ok_iff.1 hc
  cases hdns
  refine ⟨?_, ?_, ?_⟩
  · rw [hcalls]
    exact ⟨h.accounted.thread_lt, h.accounted.ended, h.accounted.worker⟩
  · intro r' hr'
    cases hr'
    rw [hsizes, List.length_append, UInt64.ofNat_add, ← h.numPkgs r hr]
    rfl
  · intro r' hr'
    cases hr'
    rw [hsizes, List.map_append, List.sum_append, UInt64.ofNat_add, ← h.bytesRcv r hr]
    simp [Counter.count]

/-- What a report puts out counts nothing. -/
theorem stats (h : Counted s outs) (st : Stats) : Counted s (outs ++ [.stats st]) := by
  have hcalls : callsOf (outs ++ [.stats st]) = callsOf outs := by simp [callsOf, Output.call?]
  have hsizes : sizesOf (outs ++ [.stats st]) = sizesOf outs := by simp [sizesOf, Output.size?]
  refine ⟨?_, ?_, ?_⟩
  · rw [hcalls]
    exact h.accounted
  · rw [hsizes]
    exact h.numPkgs
  · rw [hsizes]
    exact h.bytesRcv

theorem setPrevResults (h : Counted s outs) (result : Results) :
    Counted { s with visPrevResults := result } outs :=
  ⟨⟨h.accounted.thread_lt, h.accounted.ended, h.accounted.worker⟩, h.numPkgs, h.bytesRcv⟩

/-- **Every step of a load step keeps the count.** -/
theorem step {l : Live} (h : Counted l.sender outs) (e : LiveEvent) :
    Counted (l.step e).1.sender (outs ++ (l.step e).2.toList) := by
  have hidle : Counted l.sender (outs ++ (none : Option Output).toList) := by simpa using h
  cases e with
  | act i a => exact h.act i a
  | countPacket buffer size tp =>
    simp only [Live.step]
    split
    · exact hidle
    rename_i t ht
    split
    · rename_i counter hc
      exact h.countPacket ht hc
    · exact hidle
  | showCurrentStats runtime =>
    simp only [Live.step]
    split <;> exact hidle
  | next =>
    simp only [Live.step]
    split
    · exact hidle
    unfold Live.next
    split
    · exact hidle
    · exact (h.setPrevResults _).stats _

/-- What a read of a report finds. -/
theorem value_eq (h : Counted s outs) (hstarted : ∀ w ∈ s.threadpool, w.state ≠ .waiting)
    {r : Read} (hr : r ∈ s.reads) : r.value s = .ofNat (exact outs r) := by
  have hthread : ∀ i w, s.threadpool[i]? = some w →
      w.thread.totals = (((callsOf outs).filter (·.thread = i)).map Call.totals).sum :=
    fun i w hw => (h.accounted.worker i w hw).totals (hstarted w (List.mem_of_getElem? hw))
  rw [DNSSender.reads, List.mem_append] at hr
  rcases hr with hr | hr
  · obtain ⟨i, hi, hr⟩ := List.mem_flatMap.1 hr
    have hlt : i < s.threadpool.length := List.mem_range.1 hi
    have hw : s.threadpool[i]? = some s.threadpool[i] := List.getElem?_eq_getElem hlt
    have htotals := hthread i _ hw
    rw [DNSSender.sum_totals] at htotals
    have hsend := congrArg Totals.send htotals
    have hbytes := congrArg Totals.bytes htotals
    simp only [Read.ofThread, List.mem_cons, List.mem_map] at hr
    rcases hr with rfl | rfl | rfl | rfl | ⟨e, -, rfl⟩
    · simp only [Read.value, hw, Option.map_some, Option.getD_some]
      exact hsend
    · simp only [Read.value, hw, Option.map_some, Option.getD_some]
      exact hbytes
    · rfl
    · rfl
    · rfl
  · cases hs : s.receiver with
    | none =>
      rw [hs] at hr
      cases hr
    | some t =>
      rw [hs] at hr
      simp only [Option.isSome_some, if_true, Read.ofReceiver, List.mem_append, List.mem_cons,
        List.mem_map] at hr
      cases r with
      | numPkgs =>
        simp only [Read.value, hs, Option.map_some, Option.getD_some]
        exact h.numPkgs t hs
      | bytesRcv =>
        simp only [Read.value, hs, Option.map_some, Option.getD_some]
        exact h.bytesRcv t hs
      | packetsSend i => simp at hr
      | bytesSend i => simp at hr
      | _ => rfl

end Counted

/-! ## A report under way -/

/-- No sender thread is still before its reset. -/
def AllStarted (s : DNSSender) : Prop := ∀ w ∈ s.threadpool, w.state ≠ .waiting

theorem AllStarted.act {s : DNSSender} (h : AllStarted s) (i : Nat) (a : Action) :
    AllStarted (s.act i a).1 := by
  intro w' hw'
  rcases DNSSender.mem_act hw' with hw | ⟨w, hw, p', r, hacts⟩
  · exact h w' hw
  · cases hacts with
    | skip => exact h w' hw
    | start => exact nofun
    | noPayload => exact nofun
    | finish => exact nofun
    | returned => exact nofun
    | raised => exact nofun

theorem reads_act (s : DNSSender) (i : Nat) (a : Action) : (s.act i a).1.reads = s.reads := by
  obtain ⟨threadpool, payload, hs, hlen⟩ := s.act_frame i a
  rw [hs]
  simp only [DNSSender.reads, hlen]

theorem visPrevResults_act (s : DNSSender) (i : Nat) (a : Action) :
    (s.act i a).1.visPrevResults = s.visPrevResults := by
  obtain ⟨threadpool, payload, hs, -⟩ := s.act_frame i a
  rw [hs]

/-- The last snapshot is made of values `prev` the counters have had since, and the report under way
of later values `cur`. -/
structure Live.Reading (l : Live) (outs : List Output) (prev cur : Read → Nat)
    (done todo : List Read) : Prop where
  reading : Snapshot.Reading l.sender.reads (exact outs) prev cur done todo
  last : ∀ k, l.sender.visPrevResults.figure k =
    .ofNat (Snapshot.total Read.figure prev k l.sender.reads)
  idle : l.report = none → done = []
  todo_eq : ∀ r, l.report = some r → r.todo = todo
  result : ∀ r, l.report = some r → ∀ k,
    r.result.figure k = .ofNat (Snapshot.total Read.figure cur k done)

/-- A state of a load step in which every thread has started. -/
structure Live.Inv (l : Live) (outs : List Output) : Prop where
  counted : Counted l.sender outs
  started : AllStarted l.sender
  reading : ∃ prev cur done todo, l.Reading outs prev cur done todo

namespace Live

variable {l : Live} {outs : List Output}

/-- A step of the other threads lets the counters grow. -/
theorem Reading.grow {prev cur : Read → Nat} {done todo : List Read} {s : DNSSender}
    (h : l.Reading outs prev cur done todo) (outs' : List Output) (hreads : s.reads = l.sender.reads)
    (hprev : s.visPrevResults = l.sender.visPrevResults) :
    Reading { l with sender := s } (outs ++ outs') prev cur done todo where
  reading := by
    show Snapshot.Reading s.reads _ _ _ _ _
    rw [hreads]
    exact h.reading.grow (exact_le_append outs outs')
  last := by
    show ∀ k, s.visPrevResults.figure k = .ofNat (Snapshot.total Read.figure prev k s.reads)
    rw [hreads, hprev]
    exact h.last
  idle := h.idle
  todo_eq := h.todo_eq
  result := h.result

/-- The next read of a report. -/
theorem Inv.read (h : l.Inv outs) {r : Report} {read : Read} {todo : List Read}
    (hr : l.report = some r) (htodo : r.todo = read :: todo) :
    Inv { l with report := some { r with result := read.exec l.sender r.result, todo } } outs := by
  obtain ⟨prev, cur, done, todo', hread⟩ := h.reading
  cases (hread.todo_eq r hr).symm.trans htodo
  have hmem : read ∈ l.sender.reads := by
    rw [hread.reading.split]
    exact List.mem_append_right done List.mem_cons_self
  have hnew : read ∉ done := hread.reading.not_mem_done (DNSSender.nodup_reads _)
  refine ⟨h.counted, h.started, prev, Function.update cur read (exact outs read), done ++ [read],
    todo, ⟨hread.reading.read, hread.last, fun hi => (by cases hi), fun r' hr' => ?_,
      fun r' hr' k => ?_⟩⟩
  · cases hr'
    rfl
  · cases hr'
    -- the receiver's figures are 0 before their only read
    have h0 : read = .numPkgs ∨ read = .bytesRcv → read.figure = some k →
        r.result.figure k = 0 := by
      intro hkind hk
      rw [hread.result r hr k, Snapshot.total_eq_zero]
      · rfl
      intro other ho hok
      have hsame : other = read := by
        rcases hkind with rfl | rfl <;> cases hk <;> cases other <;> first | rfl | cases hok
      exact hnew (hsame ▸ ho)
    rw [DNSSender.figure_exec l.sender h0, Snapshot.total_update hnew, UInt64.ofNat_add,
      ← hread.result r hr k]
    congr 1
    split
    · exact h.counted.value_eq h.started hmem
    · rfl

/-- The end of a report: its values are the last snapshot's from now on. -/
theorem Inv.finish (h : l.Inv outs) {r : Report} (hr : l.report = some r) (htodo : r.todo = []) :
    Inv ⟨{ l.sender with visPrevResults := DNSSender.setPackagesLost r.result }, none⟩ outs := by
  obtain ⟨prev, cur, done, todo, hread⟩ := h.reading
  cases (hread.todo_eq r hr).symm.trans htodo
  have hdone : l.sender.reads = done := by
    rw [hread.reading.split, List.append_nil]
  refine ⟨h.counted.setPrevResults _, h.started, cur, cur, [], l.sender.reads,
    ⟨hread.reading.again, fun k => ?_, fun _ => rfl, fun r' hr' => (by cases hr'),
      fun r' hr' => (by cases hr')⟩⟩
  show (DNSSender.setPackagesLost r.result).figure k =
    .ofNat (Snapshot.total Read.figure cur k l.sender.reads)
  rw [figure_setPackagesLost, hread.result r hr k, hdone]

theorem Inv.stats (h : l.Inv outs) (st : Stats) : l.Inv (outs ++ [.stats st]) := by
  obtain ⟨prev, cur, done, todo, hread⟩ := h.reading
  exact ⟨h.counted.stats st, h.started, prev, cur, done, todo, hread.grow [.stats st] rfl rfl⟩

/-- **Every step of every thread keeps the invariant.** -/
theorem Inv.step (h : l.Inv outs) (e : LiveEvent) :
    (l.step e).1.Inv (outs ++ (l.step e).2.toList) := by
  have hidle : l.Inv (outs ++ (none : Option Output).toList) := by simpa using h
  obtain ⟨prev, cur, done, todo, hread⟩ := h.reading
  cases e with
  | act i a =>
    exact ⟨h.counted.act i a, h.started.act i a, prev, cur, done, todo,
      hread.grow _ (reads_act l.sender i a) (visPrevResults_act l.sender i a)⟩
  | countPacket buffer size tp =>
    simp only [Live.step]
    split
    · exact hidle
    rename_i t ht
    split
    · rename_i counter hc
      have hreads : DNSSender.reads { l.sender with receiver := some { t with counter } } =
          l.sender.reads := by simp only [DNSSender.reads, ht, Option.isSome_some]
      exact ⟨h.counted.countPacket ht hc, h.started, prev, cur, done, todo,
        hread.grow [.counted size] hreads rfl⟩
    · exact hidle
  | showCurrentStats runtime =>
    simp only [Live.step]
    split
    · rename_i hnone
      cases hread.idle hnone
      have htodo : l.sender.reads = todo := hread.reading.split
      simp only [Option.toList_none, List.append_nil]
      refine ⟨h.counted, h.started, prev, cur, [], todo, ⟨hread.reading, hread.last, fun _ => rfl,
        fun r hr => ?_, fun r hr k => ?_⟩⟩
      · cases hr
        exact htodo
      · cases hr
        exact Results.figure_cleared k
    · exact hidle
  | next =>
    simp only [Live.step]
    split
    · exact hidle
    rename_i r hr
    unfold Live.next
    split
    · rename_i read rest htodo
      simpa using h.read hr htodo
    · rename_i htodo
      exact (h.finish hr htodo).stats _

end Live

/-! ## The printed differences -/

/-- The report prints what the figures grew by since the snapshot `prev`, bytes in KB. -/
structure TrueIncrement (prev : Results) (st : Stats) : Prop where
  le : ∀ k, prev.figure k ≤ st.result.figure k
  diff : ∀ k, (st.diff.figure k).toNat = (st.result.figure k).toNat - (prev.figure k).toNat
  queriesSend : st.line.queriesSend = st.diff.counterSend
  queriesRcv : st.line.queriesRcv = st.diff.counterReceived
  dataSend : st.line.dataSend.toNat = st.diff.bytesSend.toNat / 1024
  dataRcv : st.line.dataRcv.toNat = st.diff.bytesReceived.toNat / 1024

theorem Live.Inv.trueIncrement {l : Live} {outs : List Output} (h : l.Inv outs)
    (hfits : ∀ k : Figure, k.total outs < 2 ^ 64) {r : Report} (hr : l.report = some r)
    (htodo : r.todo = []) : TrueIncrement l.sender.visPrevResults
      (Stats.of r.runtime (DNSSender.setPackagesLost r.result) l.sender.visPrevResults) := by
  obtain ⟨prev, cur, done, todo, hread⟩ := h.reading
  cases (hread.todo_eq r hr).symm.trans htodo
  have hdone : l.sender.reads = done := by
    rw [hread.reading.split, List.append_nil]
  have hle : ∀ k, l.sender.visPrevResults.figure k ≤ r.result.figure k := by
    intro k
    have hprev := Snapshot.total_le_total Read.figure hread.reading.prev_le k l.sender.reads
    have hcur := Snapshot.total_le_total Read.figure hread.reading.cur_le k l.sender.reads
    have hnow := total_exact_le h.counted.accounted.thread_lt k
    have hlt := hfits k
    rw [UInt64.le_iff_toNat_le, hread.last, hread.result r hr, ← hdone,
      Tally.toNat_ofNat (by omega), Tally.toNat_ofNat (by omega)]
    exact hprev
  refine ⟨fun k => ?_, fun k => ?_, rfl, rfl, rfl, rfl⟩
  · show l.sender.visPrevResults.figure k ≤ (DNSSender.setPackagesLost r.result).figure k
    rw [figure_setPackagesLost]
    exact hle k
  · show (((DNSSender.setPackagesLost r.result).sub _).figure k).toNat =
      ((DNSSender.setPackagesLost r.result).figure k).toNat - _
    rw [Results.figure_sub, figure_setPackagesLost, UInt64.toNat_sub_of_le _ _ (hle k)]

/-- The reports so far, each a true increment over the one before, and the last snapshot. -/
inductive AddsUp : List Stats → Results → Prop where
  | nil : AddsUp [] .cleared
  | report {sts : List Stats} {prev : Results} {st : Stats} :
      AddsUp sts prev → TrueIncrement prev st → AddsUp (sts ++ [st]) st.result

/-- The snapshot of the last of the reports; before the first one, `vis_prev_results.clear()`. -/
def lastResult (sts : List Stats) : Results := (sts.getLast?.map Stats.result).getD .cleared

namespace AddsUp

theorem lastResult_eq {sts : List Stats} {last : Results} (h : AddsUp sts last) :
    lastResult sts = last := by
  cases h with
  | nil => rfl
  | report => simp [lastResult]

/-- The differences telescope. -/
theorem sum_eq {sts : List Stats} {last : Results} (h : AddsUp sts last) (k : Figure) :
    (sts.map fun st => (st.diff.figure k).toNat).sum = (last.figure k).toNat := by
  induction h with
  | nil => simp
  | @report sts prev st _ hst ih =>
    have hle := UInt64.le_iff_toNat_le.1 (hst.le k)
    rw [List.map_append, List.sum_append, ih, List.map_singleton, List.sum_singleton, hst.diff k]
    omega

theorem of_append {last : Results} {before : List Stats} {st : Stats} : ∀ {after : List Stats},
    AddsUp (before ++ st :: after) last →
      ∃ prev, AddsUp before prev ∧ TrueIncrement prev st := by
  intro after h
  generalize hsts : before ++ st :: after = sts at h
  induction h generalizing after with
  | nil => simp at hsts
  | @report sts prev st' hsts' hst' ih =>
    rcases List.eq_nil_or_concat after with rfl | ⟨after', b, rfl⟩
    · obtain ⟨rfl, h1⟩ := List.append_inj' hsts rfl
      cases h1
      exact ⟨prev, hsts', hst'⟩
    · have hcons : (before ++ st :: after') ++ [b] = sts ++ [st'] := by
        rw [← hsts]
        simp
      exact ih (List.append_inj' hcons rfl).1

end AddsUp

theorem Live.Inv.addsUp_step {l : Live} {outs : List Output} (h : l.Inv outs) {sts : List Stats}
    (hsts : AddsUp sts l.sender.visPrevResults) (e : LiveEvent)
    (hfits : ∀ k : Figure, k.total outs < 2 ^ 64) :
    AddsUp (sts ++ statsOf (l.step e).2.toList) (l.step e).1.sender.visPrevResults := by
  have hidle : AddsUp (sts ++ statsOf (none : Option Output).toList) l.sender.visPrevResults := by
    simpa [statsOf] using hsts
  cases e with
  | act i a =>
    have hnone : statsOf ((l.sender.act i a).2.map Output.call).toList = [] := by
      cases (l.sender.act i a).2 <;> rfl
    simp only [Live.step, hnone, visPrevResults_act, List.append_nil]
    exact hsts
  | countPacket buffer size tp =>
    simp only [Live.step]
    split
    · exact hidle
    split
    · exact hidle
    · exact hidle
  | showCurrentStats runtime =>
    simp only [Live.step]
    split
    · exact hidle
    · exact hidle
  | next =>
    simp only [Live.step]
    split
    · exact hidle
    rename_i r hr
    unfold Live.next
    split
    · exact hidle
    · rename_i htodo
      exact .report hsts (h.trueIncrement hfits hr htodo)

/-! ## A load step -/

def LiveEvent.isReport : LiveEvent → Bool
  | .showCurrentStats _ => true
  | _ => false

/-- A load step before its first report. -/
structure Live.Unreported (l : Live) (outs : List Output) : Prop where
  counted : Counted l.sender outs
  report : l.report = none
  last : l.sender.visPrevResults = .cleared
  stats : statsOf outs = []

namespace Live.Unreported

theorem run {u v : DNSSender} {n R r : Int32} {procNetDev : Bytes} (h : u.PreparedFor n R)
    (hv : u.run r procNetDev = .ok v) : Unreported ⟨v, none⟩ [] := by
  have hacc := DNSSender.accounted_run h hv
  obtain ⟨u1, -, hv⟩ := Run.bind_ok_iff.1 hv
  obtain ⟨sys1, -, hv⟩ := Run.bind_ok_iff.1 hv
  cases hv
  refine ⟨⟨hacc, fun t ht => ?_, fun t ht => ?_⟩, rfl, rfl, rfl⟩
  · obtain ⟨t0, -, rfl⟩ := Option.map_eq_some_iff.1 ht
    rfl
  · obtain ⟨t0, -, rfl⟩ := Option.map_eq_some_iff.1 ht
    rfl

theorem step {l : Live} {outs : List Output} (e : LiveEvent) (he : e.isReport = false)
    (h : l.Unreported outs) : (l.step e).1.Unreported (outs ++ (l.step e).2.toList) := by
  have hidle : l.Unreported (outs ++ (none : Option Output).toList) := by simpa using h
  cases e with
  | act i a =>
    have hnone : statsOf ((l.sender.act i a).2.map Output.call).toList = [] := by
      cases (l.sender.act i a).2 <;> rfl
    refine ⟨h.counted.act i a, h.report, (visPrevResults_act l.sender i a).trans h.last, ?_⟩
    rw [statsOf_append, h.stats]
    exact hnone
  | countPacket buffer size tp =>
    simp only [Live.step]
    split
    · exact hidle
    rename_i t ht
    split
    · rename_i counter hc
      refine ⟨h.counted.countPacket ht hc, h.report, h.last, ?_⟩
      rw [statsOf_append, h.stats]
      rfl
    · exact hidle
  | showCurrentStats runtime => cases he
  | next =>
    simp only [Live.step, h.report]
    exact hidle

/-- Once every thread has started, the reports can begin. -/
theorem inv {l : Live} {outs : List Output} (h : l.Unreported outs)
    (hstarted : AllStarted l.sender) : l.Inv outs := by
  refine ⟨h.counted, hstarted, fun _ => 0, fun _ => 0, [], l.sender.reads, ⟨.first _ _, fun k => ?_,
    fun _ => rfl, fun r hr => ?_, fun r hr => ?_⟩⟩
  · rw [h.last, Results.figure_cleared, Snapshot.total_zero]
    rfl
  · cases h.report.symm.trans hr
  · cases h.report.symm.trans hr

end Live.Unreported

/-- From the first report on, the reports add up, unless a counter has wrapped. -/
def Live.Reported (l : Live) (outs : List Output) : Prop :=
  l.Inv outs ∧ ((∀ k : Figure, k.total outs < 2 ^ 64) →
    AddsUp (statsOf outs) l.sender.visPrevResults)

theorem Live.Reported.step {l : Live} {outs : List Output} (h : l.Reported outs) (e : LiveEvent) :
    (l.step e).1.Reported (outs ++ (l.step e).2.toList) := by
  refine ⟨h.1.step e, fun hfits => ?_⟩
  have hbefore : ∀ k : Figure, k.total outs < 2 ^ 64 := by
    intro k
    have := hfits k
    rw [total_append] at this
    omega
  rw [statsOf_append]
  exact h.1.addsUp_step (h.2 hbefore) e hbefore

/-- **The live statistics add up**: a load step from any state the program reaches, any interleaving
of what the sender threads and the receiver do with the reads of the reports. -/
theorem live_stats_add_up {s0 u v : DNSSender} {mem : Nat → Block 4096} {r : Int32}
    {procNetDev : Bytes} {pre es : List LiveEvent} {l e : Live} {outs0 outs : List Output}
    {before after : List Stats} {st : Stats} (h0 : s0.threadpool = [])
    (hu : DNSSender.Reached s0 mem u) (hv : u.run r procNetDev = .ok v)
    (hpre : Run.trace Live.step ⟨v, none⟩ pre = (l, outs0))
    (hfirst : ∀ ev ∈ pre, ev.isReport = false) (hreset : AllStarted l.sender)
    (hes : Run.trace Live.step l es = (e, outs))
    (hfits : ∀ k : Figure, k.total (outs0 ++ outs) < 2 ^ 64)
    (hst : statsOf outs = before ++ st :: after) :
    TrueIncrement (lastResult before) st ∧
    ∀ k, ((before ++ [st]).map fun st => (st.diff.figure k).toNat).sum =
      (st.result.figure k).toNat := by
  have hunreported : l.Unreported outs0 := by
    have h := Run.trace_inv_of_forall (I := Live.Unreported)
      (fun _ _ ev hev h => Live.Unreported.step ev hev h) hfirst
      (Live.Unreported.run (DNSSender.reached_prepared h0 hu) hv)
    rwa [hpre, List.nil_append] at h
  have hreported : e.Reported (outs0 ++ outs) := by
    have hstart : l.Reported outs0 := by
      refine ⟨hunreported.inv hreset, fun _ => ?_⟩
      rw [hunreported.stats, hunreported.last]
      exact .nil
    have h : (Run.trace Live.step l es).1.Reported (outs0 ++ (Run.trace Live.step l es).2) :=
      Run.trace_inv (I := Live.Reported) (fun _ _ ev h => h.step ev) hstart
    rwa [hes] at h
  have hadds := hreported.2 hfits
  rw [statsOf_append, hunreported.stats, List.nil_append, hst] at hadds
  obtain ⟨prev, hbefore, hinc⟩ := hadds.of_append
  exact ⟨hbefore.lastResult_eq ▸ hinc, (AddsUp.report hbefore hinc).sum_eq⟩

/-- A thread sends a query and the receiver counts its answer while the report reads the counters. -/
def queryDuringReport : List LiveEvent :=
  [.showCurrentStats 1, .act 0 (.pass (passOf 45 0)),
    .countPacket (List.replicate 60 0) 60 none] ++ List.replicate 283 .next

/-- `oneQuery` with a receiver. -/
def oneQueryReceived : DNSSender :=
  { DNSSender.oneQuery with receiver := some ⟨⟨⟨0⟩, 0, .zero 4096⟩, .zero⟩ }

theorem live_stats_one_query : ∃ s v l e outs0 outs st,
    oneQueryReceived.prepareThreads (fun _ => .zero 4096) = .ok s ∧ s.run 0 [] = .ok v ∧
    Run.trace Live.step ⟨v, none⟩ [.act 0 .start] = (l, outs0) ∧
    Run.trace Live.step l queryDuringReport = (e, outs) ∧ statsOf outs = [st] ∧
    st.line.queriesSend = 1 ∧ TrueIncrement .cleared st := by
  obtain ⟨s, v, l, e, outs0, outs, hs, hv, hpre, hes, hreset, hfits, hsend⟩ :
      ∃ s v l e outs0 outs,
      oneQueryReceived.prepareThreads (fun _ => .zero 4096) = .ok s ∧ s.run 0 [] = .ok v ∧
      Run.trace Live.step ⟨v, none⟩ [.act 0 .start] = (l, outs0) ∧
      Run.trace Live.step l queryDuringReport = (e, outs) ∧
      (∀ w ∈ l.sender.threadpool, w.state ≠ .waiting) ∧
      (∀ k : Figure, k.total (outs0 ++ outs) < 2 ^ 64) ∧
      (statsOf outs).map (·.line.queriesSend) = [1] :=
    ⟨_, _, _, _, _, _, rfl, rfl, rfl, rfl, by decide +kernel,
      by intro k; cases k <;> decide +kernel, by decide +kernel⟩
  obtain ⟨st, hst⟩ : ∃ st, statsOf outs = [st] := by
    rw [← List.length_eq_one_iff, ← List.length_map (·.line.queriesSend), hsend]
    rfl
  have hinc := live_stats_add_up rfl ⟨s, [], hs, rfl⟩ hv hpre (by decide) hreset hes hfits
    (show statsOf outs = [] ++ st :: [] from hst)
  rw [hst, List.map_singleton, List.cons.injEq] at hsend
  exact ⟨s, v, l, e, outs0, outs, st, hs, hv, hpre, hes, hst, hsend.1, hinc.1⟩

end Dnsmeter
