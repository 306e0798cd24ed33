import Dnsmeter.Lib.Share
import Dnsmeter.Proof.PcapSource
import Dnsmeter.Proof.TextFile

/-!
# The share of queries with DNSSEC

* `CounterOk`, `ShareOk`: the accumulator and the datagrams of a thread in every state of a load step.
* `ShareOk.acts`: an action keeps the share, whether its call hands over a datagram or raises.
* `dnssec_share`: the share among the calls of a load step behind an accepted command line.
-/

namespace Dnsmeter

/-! ## The calls of a load step -/

namespace DNSSender

/-- The datagram of a call. -/
def Call.datagram? (c : Call) : Option Bytes :=
  match c.result with
  | .returned _ _ d => some d
  | _ => none

/-- The thread behind a call. -/
def Call.after (c : Call) : DNSSenderThread :=
  match c.result with
  | .returned t _ _ => t
  | .raised _ t _ => t
  | .looping t _ => t

/-- The datagrams of the calls. -/
def datagrams (calls : List Call) : List Bytes := calls.filterMap Call.datagram?

end DNSSender

open DNSSender (Call callOf datagrams)

/-- A thread and the calls it has made since it was started. -/
structure CounterOk (w : Worker) (calls : List Call) : Prop where
  rate_nonneg : 0 ≤ w.thread.dnssecRate
  rate_le : w.thread.dnssecRate ≤ 100
  running : w.state = .running → w.thread.InRange
  after : ∀ c ∈ calls, c.after.InRange

theorem callOf_none (i : Nat) (a : Action) : callOf i a none = none := by
  cases a <;> rfl

theorem CounterOk.acts {w w' : Worker} {calls : List Call} {p p' : PayloadFile} {a : Action}
    {r : Option DNSSenderThread.SendResult} (h : CounterOk w calls) (ha : w.Acts p a w' p' r)
    (i : Nat) : CounterOk w' (calls ++ (callOf i a r).toList) := by
  have h0 : 0 ≤ w'.thread.dnssecRate := by rw [ha.config.dnssecRate]; exact h.rate_nonneg
  have h100 : w'.thread.dnssecRate ≤ 100 := by rw [ha.config.dnssecRate]; exact h.rate_le
  have hafter : ∀ c : Call, c.after.InRange → ∀ c' ∈ calls ++ [c], c'.after.InRange := by
    intro c hc c' hc'
    rcases List.mem_append.1 hc' with hc' | hc'
    · exact h.after c' hc'
    · rw [List.mem_singleton.1 hc']
      exact hc
  cases ha with
  | skip =>
    rw [callOf_none, Option.toList_none, List.append_nil]
    exact h
  | start hw hs =>
    rw [callOf_none, Option.toList_none, List.append_nil]
    refine ⟨h0, h100, fun _ => ?_, h.after⟩
    unfold DNSSenderThread.InRange
    rw [DNSSenderThread.dnsseccounter_start hs]
    decide
  | noPayload =>
    rw [callOf_none, Option.toList_none, List.append_nil]
    exact ⟨h0, h100, fun hr => (by cases hr), h.after⟩
  | finish =>
    rw [callOf_none, Option.toList_none, List.append_nil]
    exact ⟨h0, h100, fun hr => (by cases hr), h.after⟩
  | returned hw ht =>
    have hin := (h.running hw).trySend_ok h.rate_nonneg h.rate_le ht
    exact ⟨h0, h100, fun _ => hin, hafter _ hin⟩
  | raised hw ht =>
    have hin := (h.running hw).trySend_error h.rate_nonneg h.rate_le ht
    exact ⟨h0, h100, fun hr => (by cases hr), hafter _ hin⟩

/-- The payload while the program runs: the entries it started with, and the iterator at one. -/
def Drawing (cache : List Bytes) (p : PayloadFile) : Prop :=
  p.querycache = cache ∧ p.it < cache.length

theorem Drawing.getQuery {cache : List Bytes} {p : PayloadFile} (h : Drawing cache p) :
    ∃ entry p', p.getQuery = .ok (entry, p') ∧ entry ∈ cache ∧ Drawing cache p' := by
  obtain ⟨rfl, hit⟩ := h
  have hq : p.getQuery = .ok (p.querycache[p.it], { p with
      it := if p.it + 1 = p.querycache.length then 0 else p.it + 1 }) := by
    simp only [PayloadFile.getQuery, List.getElem?_eq_getElem hit]
  refine ⟨_, _, hq, List.getElem_mem hit, rfl, ?_⟩
  dsimp only
  split <;> omega

theorem Drawing.acts {cache : List Bytes} {w w' : Worker} {p p' : PayloadFile} {a : Action}
    {r : Option DNSSenderThread.SendResult} (h : Drawing cache p) (ha : w.Acts p a w' p' r) :
    Drawing cache p' := by
  obtain ⟨entry, p1, hq, -, hp1⟩ := h.getQuery
  cases ha with
  | skip => exact h
  | start => exact h
  | noPayload => exact h
  | finish => exact h
  | returned _ ht =>
    obtain ⟨bap, -, -, hq', -⟩ := DNSSenderThread.trySend_datagram ht
    cases hq.symm.trans hq'
    exact hp1
  | raised _ ht =>
    rcases DNSSenderThread.trySend_error ht with ⟨-, -, rfl⟩ | ⟨bap, hq', -⟩
    · exact h
    · cases hq.symm.trans hq'
      exact hp1

/-- **A thread with compiled queries**: the accumulator is what is left over of the share, and among
any first datagrams the share carries OPT. -/
structure ShareOk (d : Nat) (w : Worker) (calls : List Call) : Prop where
  text : w.thread.payloadIsPcap = false
  rate : w.thread.dnssecRate = d
  waiting : w.state = .waiting → calls = []
  counter : w.state = .running → w.thread.dnsseccounter = (calls.length * d % 100 : Nat)
  /-- A call without datagram is the thread's last. -/
  handed : w.state = .running → ∀ c ∈ calls, c.datagram?.isSome
  handed_init : ∀ c ∈ calls.dropLast, c.datagram?.isSome
  raised : ∀ c ∈ calls, c.datagram? = none →
    w.thread.dest = 0xffffffff ∨ w.thread.spoofingEnabled = true ∧ w.thread.spoofingFromPcap = true
  share : ∀ n ≤ (datagrams calls).length,
    ((datagrams calls).take n).countP carriesOpt = n * d / 100
  single : ∀ x ∈ datagrams calls, optRecords x = (carriesOpt x).toNat

theorem length_datagrams {calls : List Call} (h : ∀ c ∈ calls, c.datagram?.isSome) :
    (datagrams calls).length = calls.length :=
  List.filterMap_length_eq_length.2 h

namespace ShareOk

variable {d : Nat} {w w' : Worker} {calls : List Call}

/-- An action without a call that leaves the thread idle. -/
theorem stop (h : ShareOk d w calls) : ShareOk d ⟨w.thread, .idle⟩ calls :=
  ⟨h.text, h.rate, fun hr => (by cases hr), fun hr => (by cases hr), fun hr => (by cases hr),
    h.handed_init, h.raised, h.share, h.single⟩

/-- A call that hands over a datagram. -/
theorem returned (hd : d ≤ 100) {c : Call} {x : Bytes} {t : DNSSenderThread}
    (h : ShareOk d w calls) (hw : w.state = .running)
    (hconfig : DNSSenderThread.SameConfig w.thread t) (hc : c.datagram? = some x)
    (hmark : carriesOpt x = decide (100 ≤ w.thread.dnsseccounter + w.thread.dnssecRate))
    (hone : optRecords x = (carriesOpt x).toNat)
    (hcount : t.dnsseccounter = if 100 ≤ w.thread.dnsseccounter + w.thread.dnssecRate
      then w.thread.dnsseccounter + w.thread.dnssecRate - 100
      else w.thread.dnsseccounter + w.thread.dnssecRate) :
    ShareOk d ⟨t, .running⟩ (calls ++ [c]) := by
  have hdata : datagrams (calls ++ [c]) = datagrams calls ++ [x] := by
    simp [datagrams, hc]
  have hlen := length_datagrams (h.handed hw)
  rw [h.counter hw, h.rate] at hmark hcount
  generalize hn : calls.length = n at hmark hcount hlen
  have hnext : (t.dnsseccounter = ((n + 1) * d % 100 : Nat)) ∧
      n * d / 100 + (if carriesOpt x then 1 else 0) = (n + 1) * d / 100 := by
    by_cases hdue : 100 ≤ n * d % 100 + d
    · obtain ⟨hdiv, hmod⟩ := Share.marked hdue hd (by decide)
      rw [if_pos (by omega)] at hcount
      rw [hmark, hcount, hdiv, hmod, decide_eq_true (by omega), if_pos rfl]
      omega
    · obtain ⟨hdiv, hmod⟩ := Share.unmarked (by omega : n * d % 100 + d < 100)
      rw [if_neg (by omega)] at hcount
      rw [hmark, hcount, hdiv, hmod, decide_eq_false (by omega), if_neg (by decide)]
      omega
  refine ⟨hconfig.payloadIsPcap.trans h.text, hconfig.dnssecRate.trans h.rate,
    fun hr => (by cases hr), fun _ => ?_, fun _ c' hc' => ?_, fun c' hc' => ?_,
    fun c' hc' hnone => ?_, ?_, ?_⟩
  · rw [List.length_append, List.length_singleton, hn]
    exact hnext.1
  · rcases List.mem_append.1 hc' with hc' | hc'
    · exact h.handed hw c' hc'
    · rw [List.mem_singleton.1 hc', hc]
      rfl
  · rw [List.dropLast_concat] at hc'
    exact h.handed hw c' hc'
  · rw [hconfig.dest, hconfig.spoofingEnabled, hconfig.spoofingFromPcap]
    rcases List.mem_append.1 hc' with hc' | hc'
    · exact h.raised c' hc' hnone
    · rw [List.mem_singleton.1 hc', hc] at hnone
      cases hnone
  · rw [hdata, List.length_append, List.length_singleton, hlen]
    intro m hm
    rcases Nat.lt_or_ge n m with hlt | hle
    · obtain rfl : m = n + 1 := by omega
      rw [List.take_of_length_le (by rw [List.length_append, List.length_singleton, hlen]),
        List.countP_append, List.countP_singleton, ← hnext.2]
      have hall := h.share n (by omega)
      rw [← hlen, List.take_length] at hall
      rw [hall, hlen]
    · rw [List.take_append_of_le_length (by omega)]
      exact h.share m (by omega)
  · rw [hdata]
    intro y hy
    rcases List.mem_append.1 hy with hy | hy
    · exact h.single y hy
    · rw [List.mem_singleton.1 hy]
      exact hone

/-- A call that raises ends the thread. -/
theorem call_raised {c : Call} {t : DNSSenderThread} (h : ShareOk d w calls) (hw : w.state = .running)
    (hconfig : DNSSenderThread.SameConfig w.thread t) (hc : c.datagram? = none)
    (hwhy : w.thread.dest = 0xffffffff ∨
      w.thread.spoofingEnabled = true ∧ w.thread.spoofingFromPcap = true) :
    ShareOk d ⟨t, .idle⟩ (calls ++ [c]) := by
  have hdata : datagrams (calls ++ [c]) = datagrams calls := by
    simp [datagrams, hc]
  refine ⟨hconfig.payloadIsPcap.trans h.text, hconfig.dnssecRate.trans h.rate,
    fun hr => (by cases hr), fun hr => (by cases hr), fun hr => (by cases hr), fun c' hc' => ?_,
    fun c' _ _ => ?_, ?_, ?_⟩
  · rw [List.dropLast_concat] at hc'
    exact h.handed hw c' hc'
  · rw [hconfig.dest, hconfig.spoofingEnabled, hconfig.spoofingFromPcap]
    exact hwhy
  · rw [hdata]
    exact h.share
  · rw [hdata]
    exact h.single

theorem acts {cache : List Bytes} {p p' : PayloadFile} {a : Action}
    {r : Option DNSSenderThread.SendResult} (hd : d ≤ 100)
    (hplain : ∀ entry ∈ cache, PlainQuery entry) (hp : Drawing cache p) (h : ShareOk d w calls)
    (ha : w.Acts p a w' p' r) (i : Nat) : ShareOk d w' (calls ++ (callOf i a r).toList) := by
  have hconfig := ha.config
  obtain ⟨entry, p1, hq, hentry, -⟩ := hp.getQuery
  cases ha with
  | skip =>
    rw [callOf_none, Option.toList_none, List.append_nil]
    exact h
  | start hw hs =>
    rw [callOf_none, Option.toList_none, List.append_nil]
    obtain rfl := h.waiting hw
    refine ⟨hconfig.payloadIsPcap.trans h.text, hconfig.dnssecRate.trans h.rate,
      fun hr => (by cases hr), fun _ => ?_, fun _ c hc => (by cases hc), fun c hc => (by cases hc),
      fun c hc => (by cases hc), h.share, h.single⟩
    rw [DNSSenderThread.dnsseccounter_start hs]
    simp
  | noPayload =>
    rw [callOf_none, Option.toList_none, List.append_nil]
    exact h.stop
  | finish =>
    rw [callOf_none, Option.toList_none, List.append_nil]
    exact h.stop
  | returned hw ht =>
    obtain ⟨bap, -, -, hq', -⟩ := DNSSenderThread.trySend_datagram ht
    cases hq.symm.trans hq'
    obtain ⟨hmark, hone, hcount⟩ := DNSSenderThread.trySend_query ht h.text hq (hplain entry hentry)
    exact h.returned hd hw hconfig rfl hmark hone hcount
  | raised hw ht =>
    have hfits : EntryFits w.thread.payloadIsPcap entry := by
      rw [EntryFits, h.text, if_neg (by decide)]
      exact (hplain entry hentry).length.2
    have hwhy := DNSSenderThread.trySend_raises hfits hq ht
    refine h.call_raised hw hconfig rfl ?_
    rcases hwhy with ⟨-, hdest⟩ | ⟨-, hspoof, hpcap, -⟩
    · exact .inl hdest
    · exact .inr ⟨hspoof, hpcap⟩

end ShareOk

/-! ## The share -/

/-- The calls of a thread in a load step with the rate `d`: any first ones, and those from one to
another, as long as each call up to there hands over a datagram. Only the last may fail to. -/
structure ExactShare (d : Nat) (calls : List Call) : Prop where
  first : ∀ n ≤ calls.length, (∀ c ∈ calls.take n, c.datagram?.isSome) →
    (datagrams (calls.take n)).countP carriesOpt = n * d / 100
  between : ∀ m n, m ≤ n → n ≤ calls.length → (∀ c ∈ calls.take n, c.datagram?.isSome) →
    (datagrams ((calls.take n).drop m)).countP carriesOpt = n * d / 100 - m * d / 100
  handed : ∀ c ∈ calls.dropLast, c.datagram?.isSome
  single : ∀ x ∈ datagrams calls, optRecords x = (carriesOpt x).toNat

theorem ExactShare.nil (d : Nat) : ExactShare d [] := by
  refine ⟨?_, ?_, fun c hc => (by cases hc), fun x hx => (by cases hx)⟩
  · intro n hn _
    obtain rfl : n = 0 := Nat.le_zero.1 hn
    simp [datagrams]
  · intro m n hmn hn _
    obtain rfl : n = 0 := Nat.le_zero.1 hn
    obtain rfl : m = 0 := Nat.le_zero.1 hmn
    simp [datagrams]

theorem datagrams_append (l m : List Call) : datagrams (l ++ m) = datagrams l ++ datagrams m :=
  List.filterMap_append

theorem ShareOk.exactShare {d : Nat} {w : Worker} {calls : List Call} (h : ShareOk d w calls) :
    ExactShare d calls := by
  have hfirst : ∀ n ≤ calls.length, (∀ c ∈ calls.take n, c.datagram?.isSome) →
      (datagrams (calls.take n)).countP carriesOpt = n * d / 100 := by
    intro n hn hall
    have hsplit : datagrams calls = datagrams (calls.take n) ++ datagrams (calls.drop n) := by
      rw [← datagrams_append, List.take_append_drop]
    have hlen : (datagrams (calls.take n)).length = n :=
      (length_datagrams hall).trans (List.length_take_of_le hn)
    have hshare := h.share n (by rw [hsplit, List.length_append, hlen]; exact Nat.le_add_right _ _)
    rwa [hsplit, List.take_left' hlen] at hshare
  refine ⟨hfirst, ?_, h.handed_init, h.single⟩
  intro m n hmn hn hall
  have hm : (calls.take n).take m = calls.take m := by
    rw [List.take_take, Nat.min_eq_left hmn]
  have hcount := hfirst n hn hall
  rw [← List.take_append_drop m (calls.take n), datagrams_append, List.countP_append, hm,
    hfirst m (Nat.le_trans hmn hn) fun c hc => hall c (List.mem_of_mem_take (hm.symm ▸ hc))] at hcount
  omega

/-- A captured frame is sent unaltered: behind the id the datagram has the frame's message. -/
def Unaltered (frame d : Bytes) : Prop :=
  d.length = 28 + (frame.length - 42) ∧ d.drop 30 = frame.drop 44

/-- The calls of a load step of the program `s` up to the state `e`. -/
structure DnssecShare (s e : DNSSender) (calls : List Call) : Prop where
  inRange : ∀ c ∈ calls, c.after.InRange
  text : s.payload.payloadIsPcap = false →
    ∀ i, ExactShare s.dnssecRate.toNat (calls.filter (·.thread = i))
  raised : s.payload.payloadIsPcap = false → ∀ c ∈ calls, c.datagram? = none →
    s.targetIP.sAddr = 0xffffffff ∨ s.spoofingEnabled = true ∧ s.spoofFromPcap = true
  pcap : s.payload.payloadIsPcap = true → ∀ i env t p d,
    (e.act i (.pass env)).2 = some ⟨i, env, .returned t p d⟩ →
      ∃ frame, e.payload.getQuery = .ok (frame, p) ∧ Unaltered frame d

namespace DNSSender

/-- **Every load step** of a program with a rate from 0 to 100 and a payload of compiled queries or
of captured frames. -/
theorem dnssecShare_of_plain {s0 u v : DNSSender} {mem : Nat → Block 4096} {r : Int32}
    {procNetDev : Bytes} (h0 : s0.threadpool = []) (hrate : 0 ≤ s0.dnssecRate ∧ s0.dnssecRate ≤ 100)
    (hdraw : Drawing s0.payload.querycache s0.payload)
    (htext : s0.payload.payloadIsPcap = false → ∀ entry ∈ s0.payload.querycache, PlainQuery entry)
    (hpcap : s0.payload.payloadIsPcap = true →
      ∀ entry ∈ s0.payload.querycache, entry.length ≤ 4096)
    (hu : Reached s0 mem u) (hv : u.run r procNetDev = .ok v) (acts : List (Nat × Action)) :
    DnssecShare s0 (Run.trace (fun s a => s.act a.1 a.2) v acts).1
      (Run.trace (fun s a => s.act a.1 a.2) v acts).2 := by
  have hstart : ∀ w ∈ v.threadpool, s0.Configured w.thread ∧ CounterOk w [] ∧
      (s0.payload.payloadIsPcap = false → ShareOk s0.dnssecRate.toNat w []) := by
    intro w' hw'
    obtain ⟨w, hw, queryrate, timeslice, rfl⟩ := mem_run hv hw'
    have hc := (reached_wired h0 hu w hw).configured
    have hrate' := hc.dnssecRate
    refine ⟨⟨hc.dest, hc.payloadIsPcap, hrate', hc.spoofingEnabled, hc.sourceip,
      hc.spoofingFromPcap, hc.net⟩, ⟨?_, ?_, fun hr => (by cases hr), fun c hc => (by cases hc)⟩,
      fun ht => ⟨hc.payloadIsPcap.trans ht, ?_, fun _ => rfl, fun hr => (by cases hr),
        fun _ c hc => (by cases hc), fun c hc => (by cases hc), fun c hc => (by cases hc), ?_,
        fun x hx => (by cases hx)⟩⟩
    · show 0 ≤ w.thread.dnssecRate
      omega
    · show w.thread.dnssecRate ≤ 100
      omega
    · show w.thread.dnssecRate = _
      omega
    · intro n hn
      obtain rfl : n = 0 := Nat.le_zero.1 hn
      rw [Nat.zero_mul]
      rfl
  have hpayload : v.payload = u.payload := by
    obtain ⟨x, sys1, receiver, hx, rfl⟩ := run_ok hv
    show x.payload = u.payload
    exact payload_setRates hx
  have hdrawing : Drawing s0.payload.querycache v.payload := by
    rw [hpayload]
    exact reached_payload (fun hp ha => hp.acts ha) hdraw hu
  have hend := CallsOk.trace (J := Drawing s0.payload.querycache)
    (P := fun w calls => s0.Configured w.thread ∧ CounterOk w calls ∧
      (s0.payload.payloadIsPcap = false → ShareOk s0.dnssecRate.toNat w calls))
    (fun hp ha => hp.acts ha)
    (fun i calls hp ⟨hc, hcount, hshare⟩ ha => ⟨hc.same ha.config, hcount.acts ha i,
      fun ht => (hshare ht).acts (by omega) (htext ht) hp ha i⟩) hdrawing hstart acts
  generalize Run.trace (fun s a => s.act a.1 a.2) v acts = run at hend ⊢
  obtain ⟨hdraw', hlt, hworker⟩ := hend
  have hmine : ∀ c ∈ run.2, ∃ w, run.1.threadpool[c.thread]? = some w ∧
      c ∈ run.2.filter (·.thread = c.thread) := by
    intro c hc
    exact ⟨_, List.getElem?_eq_getElem (hlt c hc), List.mem_filter.2 ⟨hc, by simp⟩⟩
  refine ⟨?_, ?_, ?_, ?_⟩
  · intro c hc
    obtain ⟨w, hw, hmem⟩ := hmine c hc
    exact (hworker _ w hw).2.1.after c hmem
  · intro ht i
    rcases Nat.lt_or_ge i run.1.threadpool.length with hi | hi
    · exact ((hworker i _ (List.getElem?_eq_getElem hi)).2.2 ht).exactShare
    · have hnone : run.2.filter (·.thread = i) = [] := by
        refine List.filter_eq_nil_iff.2 fun c hc => ?_
        have := hlt c hc
        simp only [decide_eq_true_eq]
        omega
      rw [hnone]
      exact .nil _
  · intro ht c hc hnone
    obtain ⟨w, hw, hmem⟩ := hmine c hc
    obtain ⟨hconf, -, hshare⟩ := hworker _ w hw
    rcases (hshare ht).raised c hmem hnone with hdest | ⟨hspoof, hfrom⟩
    · exact .inl (hconf.dest.symm.trans hdest)
    · have henabled := hconf.spoofingEnabled.symm.trans hspoof
      exact .inr ⟨henabled, (hconf.spoofingFromPcap henabled).symm.trans hfrom⟩
  · intro hp i env t p d hd
    obtain ⟨w, hw, ht⟩ := act_returned hd
    obtain ⟨hconf, -, -⟩ := hworker i w hw
    obtain ⟨frame, p1, hq, hmem, -⟩ := hdraw'.getQuery
    obtain ⟨bap, -, -, hq', -⟩ := DNSSenderThread.trySend_datagram ht
    cases hq.symm.trans hq'
    obtain ⟨hlen, hdrop, -⟩ := DNSSenderThread.trySend_frame ht (hconf.payloadIsPcap.trans hp) hq
      (hpcap hp frame hmem)
    exact ⟨frame, hq, hlen, hdrop⟩

end DNSSender

/-- What `res_mkquery` writes is a message with one question and no record. -/
structure ResMkqueryQueries (res : ResMkquery) : Prop extends ResMkqueryWrites res where
  plain : ∀ name code len, 0 ≤ (res name code len).bytes →
    PlainQuery ((res name code len).written.take (res name code len).bytes.toNat)

namespace PayloadFile

theorem plainQuery_of_lineQuery {res : ResMkquery} (hres : ResMkqueryQueries res) {line query : Bytes}
    (h : lineQuery res line = some query) : PlainQuery query := by
  unfold lineQuery at h
  split at h
  · cases h
  obtain ⟨⟨name, code⟩, -, h⟩ := Option.bind_eq_some_iff.1 h
  dsimp only at h
  split at h
  · cases h
  rename_i hbytes
  cases h
  exact hres.plain name code 4096 (by omega)

/-- **The entries of a loaded payload**: compiled queries, or captured frames of at most 4096 bytes. -/
theorem entries_of_openQueryFile {res : ResMkquery} (hres : ResMkqueryQueries res)
    {openOffline : PcapOpenOffline} {buf : Block 4096} {q : PayloadFile} {filename : String}
    {content : Option Bytes} (h : openQueryFile res openOffline buf .new filename content = .ok q) :
    (q.payloadIsPcap = false → ∀ entry ∈ q.querycache, PlainQuery entry) ∧
      (q.payloadIsPcap = true → ∀ entry ∈ q.querycache, entry.length ≤ 4096) := by
  cases content with
  | none =>
    unfold openQueryFile at h
    split at h <;> cases h
  | some content =>
    obtain ⟨hpcap, hframes⟩ := openQueryFile_payloadIsPcap h
    rw [hpcap]
    refine ⟨fun hd entry hentry => ?_, fun hd entry hentry => ?_⟩
    · unfold openQueryFile at h
      split at h
      · cases h
      split at h
      · cases h
      · cases h
      rename_i content' _ hcontent
      cases hcontent
      dsimp only at h
      rw [hd, if_neg (by decide)] at h
      obtain ⟨p1, h1, h⟩ := Run.bind_ok_iff.1 h
      cases h
      rw [loadAndCompile_eq hres.toResMkqueryWrites] at h1
      split at h1
      · cases h1
      · cases h1
        obtain ⟨line, -, hline⟩ := List.mem_filterMap.1 hentry
        exact plainQuery_of_lineQuery hres hline
    · obtain ⟨records, -, hcache⟩ := hframes hd
      rw [hcache] at hentry
      obtain ⟨r, hr, rfl⟩ := List.mem_map.1 hentry
      exact length_data_of_isQuery (List.mem_filter.1 hr).2

end PayloadFile

namespace Settings

variable {env : Ppl7Env} {argv : List Bytes} {fuel : Nat} {files : Files} {s s1 s2 : Settings}

/-- The rate of an accepted command line. -/
theorem getParameter_dnssecRate (h : getParameter env argv fuel s = .ok s1)
    (hs : 0 ≤ s.dnssecRate ∧ s.dnssecRate ≤ 100) : 0 ≤ s1.dnssecRate ∧ s1.dnssecRate ≤ 100 := by
  obtain ⟨_, _, _, _, _, _, _, _, h, -⟩ := getParameter_getNumbers h
  obtain ⟨rates, -, hrange, rfl⟩ := getNumbers_ok h
  dsimp only
  split
  · rename_i hd
    exact hrange hd
  · exact hs

/-- **The share of queries with DNSSEC**, in every load step behind an accepted command line: exact
at every moment for a text payload, and nothing altered for a pcap payload. -/
theorem dnssec_share {receiver : Option DNSReceiverThread} {mem : Nat → Block 4096}
    {u v : DNSSender} {r : Int32} {procNetDev : Bytes} (hres : ResMkqueryQueries files.resMkquery)
    (hparam : getParameter env argv fuel .new = .ok s1) (hopen : openFiles files s1 = .ok s2)
    (hu : DNSSender.Reached (s2.ready receiver) mem u) (hv : u.run r procNetDev = .ok v)
    (acts : List (Nat × Action)) : 0 ≤ s2.dnssecRate ∧ s2.dnssecRate ≤ 100 ∧
      DnssecShare (s2.ready receiver) (Run.trace (fun s a => s.act a.1 a.2) v acts).1
        (Run.trace (fun s a => s.act a.1 a.2) v acts).2 := by
  have hacc := getParameter_ok hparam
  have hrate := getParameter_dnssecRate hparam (by decide)
  obtain ⟨payload, hload, rfl⟩ := openFiles_ok hopen
  rw [hacc.payload] at hload
  obtain ⟨htext, hpcap⟩ := PayloadFile.entries_of_openQueryFile hres hload
  obtain ⟨hne, hit⟩ := PayloadFile.openQueryFile_ok hload
  have hdraw : Drawing payload.querycache payload :=
    ⟨rfl, by rw [hit]; exact List.length_pos_iff.2 hne⟩
  have h0 : (ready { s1 with payload } receiver).threadpool = [] := hacc.threadpool
  exact ⟨hrate.1, hrate.2,
    DNSSender.dnssecShare_of_plain h0 hrate hdraw htext hpcap hu hv acts⟩

/-- A text file with a query, with a resolver that knows its name. -/
def denicFiles : Files := { twoFiles with resMkquery := denicResolver }

theorem denicResolver_queries : ResMkqueryQueries denicResolver where
  toResMkqueryWrites := PayloadFile.denicResolver_writes
  plain name code len := by
    unfold denicResolver
    split
    · intro _
      exact ⟨denicMessage, by decide +kernel, rfl, rfl, rfl, rfl⟩
    · intro h
      exact absurd h (by decide)

/-- `dnsmeter -q 10.0.0.2 -z TARGET -p f.txt -d RATE`. -/
def dnssecArgv (target rate : String) : List Bytes :=
  ["dnsmeter", "-q", "10.0.0.2", "-z", target, "-p", "f.txt", "-d", rate].map ascii

/-- Numeric addresses are resolved: the broadcast address, and any other text to 10.0.0.1. -/
def numericEnv : Ppl7Env := { plainEnv with
  getHostByName := fun name =>
    .ok [if name = ascii "255.255.255.255" then ⟨0xffffffff⟩ else ⟨0x0a000001⟩] }

theorem openFiles_denic {s1 : Settings} (hname : s1.queryFilename = ascii "f.txt")
    (hcsv : s1.csvFileName = []) (hp : s1.payload = .new) :
    openFiles denicFiles s1 = .ok { s1 with payload := ⟨1, [denicQuery], 0, false⟩ } := by
  have hload : PayloadFile.openQueryFile denicFiles.resMkquery denicFiles.openOffline denicFiles.buf
      .new (text (ascii "f.txt")) (denicFiles.content (ascii "f.txt")) =
        .ok ⟨1, [denicQuery], 0, false⟩ := by decide +kernel
  simp only [openFiles, openCSV, hcsv, if_true, hname, hp, hload]
  rfl

/-- The calls of the first thread in a load step in which it makes the given passes. -/
def callsOfPasses (v : DNSSender) (envs : List SendEnv) : List Call :=
  (Run.trace (fun s (a : Nat × Action) => s.act a.1 a.2) v
    ((0, .start) :: envs.map fun env => (0, .pass env))).2.filter (·.thread = 0)

/-- With `-d 50`, one of two calls sends the OPT record. -/
theorem dnssec_share_half : ∃ s1 s2 s v,
    getParameter numericEnv (dnssecArgv "10.0.0.1" "50") 0 .new = .ok s1 ∧
    openFiles denicFiles s1 = .ok s2 ∧
    (s2.ready none).prepareThreads (fun _ => .zero 4096) = .ok s ∧ s.run 0 [] = .ok v ∧
    (callsOfPasses v [passOf 58 0, passOf 69 0]).map (fun c => c.datagram?.isSome) = [true, true] ∧
    (datagrams (callsOfPasses v [passOf 58 0, passOf 69 0])).countP carriesOpt = 1 := by
  obtain ⟨s1, s2, s, v, h1, h2, hs, hv, htext, hrate, hcalls⟩ : ∃ s1 s2 s v,
      getParameter numericEnv (dnssecArgv "10.0.0.1" "50") 0 .new = .ok s1 ∧
      openFiles denicFiles s1 = .ok s2 ∧
      (s2.ready none).prepareThreads (fun _ => .zero 4096) = .ok s ∧ s.run 0 [] = .ok v ∧
      s2.payload.payloadIsPcap = false ∧ s2.dnssecRate = 50 ∧
      (callsOfPasses v [passOf 58 0, passOf 69 0]).map (fun c => c.datagram?.isSome) =
        [true, true] := by
    refine ⟨_, _, _, _, rfl, openFiles_denic rfl rfl rfl, rfl, rfl, rfl, by decide, ?_⟩
    decide +kernel
  refine ⟨s1, s2, s, v, h1, h2, hs, hv, hcalls, ?_⟩
  have hreach : DNSSender.Reached (s2.ready none) (fun _ => .zero 4096) s := ⟨s, [], hs, rfl⟩
  have hshare := (dnssec_share denicResolver_queries h1 h2 hreach hv ((0, .start) ::
    [passOf 58 0, passOf 69 0].map fun env => (0, .pass env))).2.2.text htext 0
  have hlen : (callsOfPasses v [passOf 58 0, passOf 69 0]).length = 2 := by
    rw [← List.length_map (fun c : Call => c.datagram?.isSome), hcalls]
    rfl
  have hall : ∀ c ∈ callsOfPasses v [passOf 58 0, passOf 69 0], c.datagram?.isSome = true := by
    intro c hc
    have hmem := List.mem_map_of_mem (f := fun c : Call => c.datagram?.isSome) hc
    rw [hcalls] at hmem
    simpa using hmem
  have htake : (callsOfPasses v [passOf 58 0, passOf 69 0]).take 2 =
      callsOfPasses v [passOf 58 0, passOf 69 0] := List.take_of_length_le (Nat.le_of_eq hlen)
  have hfirst := hshare.first 2 (Nat.le_of_eq hlen.symm) fun c hc => hall c (List.mem_of_mem_take hc)
  have hd : (s2.ready none).dnssecRate.toNat = 50 := congrArg Int.toNat hrate
  rw [hd] at hfirst
  rw [← htake]
  exact hfirst

/-- With the broadcast address as target no call hands over a datagram: the first one raises, so with
`-d 100` it lacks the OPT record it should have carried. -/
theorem broadcast_call_without_datagram : ∃ s1 s2 s v,
    getParameter numericEnv (dnssecArgv "255.255.255.255" "100") 0 .new = .ok s1 ∧
    openFiles denicFiles s1 = .ok s2 ∧ s2.dnssecRate = 100 ∧
    s2.payload.payloadIsPcap = false ∧
    (s2.ready none).prepareThreads (fun _ => .zero 4096) = .ok s ∧ s.run 0 [] = .ok v ∧
    (callsOfPasses v [passOf 58 0]).map (fun c => c.datagram?.isSome) = [false] ∧
    ¬ ∀ n ≤ (callsOfPasses v [passOf 58 0]).length,
      (datagrams ((callsOfPasses v [passOf 58 0]).take n)).countP carriesOpt = n * 100 / 100 := by
  obtain ⟨s1, s2, s, v, h1, h2, hrate, htext, hs, hv, hcalls⟩ : ∃ s1 s2 s v,
      getParameter numericEnv (dnssecArgv "255.255.255.255" "100") 0 .new = .ok s1 ∧
      openFiles denicFiles s1 = .ok s2 ∧ s2.dnssecRate = 100 ∧
      s2.payload.payloadIsPcap = false ∧
      (s2.ready none).prepareThreads (fun _ => .zero 4096) = .ok s ∧ s.run 0 [] = .ok v ∧
      (callsOfPasses v [passOf 58 0]).map (fun c => c.datagram?.isSome) = [false] := by
    refine ⟨_, _, _, _, rfl, openFiles_denic rfl rfl rfl, by decide, rfl, rfl, rfl, ?_⟩
    decide +kernel
  refine ⟨s1, s2, s, v, h1, h2, hrate, htext, hs, hv, hcalls, ?_⟩
  intro h
  obtain ⟨c, hc, hnone⟩ : ∃ c, callsOfPasses v [passOf 58 0] = [c] ∧ c.datagram? = none := by
    obtain ⟨c, rest, hc, hnone, hrest⟩ := List.map_eq_cons_iff.1 hcalls
    rw [List.map_eq_nil_iff] at hrest
    exact ⟨c, by rw [hc, hrest], by simpa using hnone⟩
  have hone := h 1 (by rw [hc]; exact Nat.le_refl 1)
  rw [hc] at hone
  simp [datagrams, hnone] at hone

end Settings

end Dnsmeter
