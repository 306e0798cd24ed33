import Dnsmeter.Proof.Accounting
import Dnsmeter.Proof.BpfRecords
import Dnsmeter.Proof.Loss
import Dnsmeter.Proof.Program
import Dnsmeter.Proof.RttStats

/-!
# What the results of a session report

A session is the part of a run between `# Start Session` and its results. `Sending` and `Receiving`
relate the sender threads and the receiver to the calls made and the frames read in the session so
far, whatever else happened in between.

* `results_account_for_session`: the results account for exactly the calls and the answers of their
  session, and nothing is sent or read outside of sessions.
-/

namespace Dnsmeter

open DNSSender (Call Accounted CountsCalls)

def MainPc.inSession : MainPc → Bool
  | .waiting | .threadStop | .stopThreads => true
  | _ => false

/-- Nothing is left to report. -/
def MainPc.reported : MainPc → Bool
  | .nextRate | .exited 0 => true
  | _ => false

namespace DNSSender

variable {s s' : DNSSender}

theorem Accounted.same {cs : List Call} (h : s.Accounted cs) (hs : s'.threadpool = s.threadpool) :
    s'.Accounted cs :=
  ⟨by rw [hs]; exact h.thread_lt, h.ended, by rw [hs]; exact h.worker⟩

theorem PreparedFor.same {n R : Int32} (h : s.PreparedFor n R) (hp : s'.threadpool = s.threadpool)
    (hn : s'.threadCount = s.threadCount) (hr : s'.runtime = s.runtime) : s'.PreparedFor n R := by
  obtain ⟨⟨hlen, hrun, hpay⟩, rfl, rfl⟩ := h
  exact ⟨⟨by rw [hp, hn]; exact hlen, by rw [hp, hr]; exact hrun, by rw [hp]; exact hpay⟩, hn, hr⟩

end DNSSender

namespace Program

def calls (out : List Output) : List Call := out.filterMap Output.call?

def reads (out : List Output) : List (Option Bytes × Option Timeval) :=
  out.filterMap Output.receive?

/-- The log since the session started; behind its results, since then. -/
def session (out : List Output) : List Output := Sections.since Output.isMark out

/-- The log before. -/
def earlier (out : List Output) : List Output := Sections.upTo Output.isMark out

/-- The answers counted in the session, by a receiver that starts with `socket`. -/
def sessionAnswers (socket : RawSocketReceiver) (out : List Output) : List Answer :=
  ((socket.answers (reads (earlier out))).1.answers (reads (session out))).2

variable {p p' : Program} {o : Option Output} {out : List Output}

theorem calls_append (l m : List Output) : calls (l ++ m) = calls l ++ calls m :=
  List.filterMap_append

theorem reads_append (l m : List Output) : reads (l ++ m) = reads l ++ reads m :=
  List.filterMap_append

theorem reads_earlier_session (out : List Output) :
    reads out = reads (earlier out) ++ reads (session out) := by
  rw [← reads_append, earlier, session, Sections.upTo_append_since]

theorem session_mark {b : Output} (h : b.isMark = true) : session (out ++ [b]) = [] :=
  Sections.since_mark out h

theorem session_entry {b : Output} (h : b.isMark = false) :
    session (out ++ [b]) = session out ++ [b] :=
  Sections.since_entry out h

theorem calls_session_entry {b : Output} (h : b.isMark = false) (hc : b.call? = none) :
    calls (session (out ++ [b])) = calls (session out) := by
  rw [session_entry h, calls_append]
  simp [calls, hc]

theorem reads_session_entry {b : Output} (h : b.isMark = false) (hr : b.receive? = none) :
    reads (session (out ++ [b])) = reads (session out) := by
  rw [session_entry h, reads_append]
  simp [reads, hr]

theorem catchException_not_inSession (e : Abort) : (catchException e).inSession = false := by
  unfold catchException
  split <;> rfl

theorem catchException_not_reported (e : Abort) : (catchException e).reported = false := by
  unfold catchException
  split <;> rfl

theorem catchException_ne_exited (e : Abort) : catchException e ≠ .exited 0 := by
  intro h
  have hr := catchException_not_reported e
  rw [h] at hr
  cases hr

theorem Due.inSession {next : MainPc} (h : p.Due next) : p.pc.inSession = true := by
  cases h with
  | session hpc => rw [hpc]; rfl
  | interrupted hpc => rw [hpc]; rfl

/-! ## The sender threads -/

/-- The sender threads have the totals of the calls of the session. -/
structure Sending (n R : Int32) (p : Program) (out : List Output) : Prop where
  prepared : p.sender.PreparedFor n R
  idle : p.pc.reported = true → calls (session out) = []
  accounted : p.pc.inSession = true → p.sender.Accounted (calls (session out))

theorem Sending.moves {n R : Int32} (hc : p.Control) (h : Sending n R p out) (hm : p.Moves p' o) :
    Sending n R p' (out ++ o.toList) := by
  cases hm with
  | skip => simpa using h
  | finished hpc => exact ⟨h.prepared, fun _ => by simpa using h.idle (by rw [hpc]; rfl), nofun⟩
  | runError =>
    refine ⟨h.prepared, fun hr => ?_, fun hs => ?_⟩
    · simp [catchException_not_reported] at hr
    · simp [catchException_not_inSession] at hs
  | @startSession q rates procNetDev v hpc hr hrun =>
    have hcalls : calls (session (out ++ [Output.startSession q])) = [] := by
      rw [session_mark rfl]
      rfl
    refine ⟨DNSSender.PreparedFor.same (h.prepared.run hrun) rfl rfl rfl, nofun, fun _ => ?_⟩
    rw [Option.toList_some, hcalls]
    exact (DNSSender.accounted_run h.prepared hrun).same rfl
  | leaveWait hpc =>
    refine ⟨h.prepared, nofun, fun _ => ?_⟩
    simpa using h.accounted (by rw [hpc]; rfl)
  | interrupted hpc =>
    refine ⟨DNSSender.PreparedFor.same h.prepared rfl rfl rfl, nofun, fun _ => ?_⟩
    rw [Option.toList_none, List.append_nil]
    exact (h.accounted (by rw [hpc]; rfl)).same rfl
  | mainError =>
    refine ⟨DNSSender.PreparedFor.same h.prepared rfl rfl rfl, fun hr => ?_, fun hs => ?_⟩
    · simp [catchException_not_reported] at hr
    · simp [catchException_not_inSession] at hs
  | results hd =>
    refine ⟨DNSSender.PreparedFor.same h.prepared rfl rfl rfl, fun _ => ?_, fun hs => ?_⟩
    · rw [Option.toList_some, session_mark rfl]
      rfl
    · cases hd <;> cases hs
  | csvError =>
    refine ⟨DNSSender.PreparedFor.same h.prepared rfl rfl rfl, fun hr => ?_, fun hs => ?_⟩
    · simp [catchException_not_reported] at hr
    · simp [catchException_not_inSession] at hs
  | act hl i a =>
    have hcalls : calls (session (out ++ ((p.sender.act i a).2.map Output.call).toList)) =
        calls (session out) ++ (p.sender.act i a).2.toList := by
      cases (p.sender.act i a).2 with
      | none => simp
      | some c =>
        rw [Option.map_some, Option.toList_some, session_entry rfl, calls_append]
        rfl
    refine ⟨h.prepared.act i a, fun hr => ?_, fun hs => ?_⟩
    · rw [hcalls, h.idle hr]
      have hpc : p.pc = .nextRate := by
        cases hpc : p.pc <;> simp_all [MainPc.reported, MainPc.ended]
      rw [act_of_not_running (hc.nextRate hpc).1]
      rfl
    · rw [hcalls]
      exact (h.accounted hs).act i a
  | clear =>
    refine ⟨DNSSender.PreparedFor.same h.prepared rfl rfl rfl, fun hr => ?_, fun hs => ?_⟩
    · rw [Option.toList_some, calls_session_entry rfl rfl]
      exact h.idle hr
    · rw [Option.toList_some, calls_session_entry rfl rfl]
      exact (h.accounted hs).same rfl
  | receive =>
    refine ⟨DNSSender.PreparedFor.same h.prepared rfl rfl rfl, fun hr => ?_, fun hs => ?_⟩
    · rw [Option.toList_some, calls_session_entry rfl rfl]
      exact h.idle hr
    · rw [Option.toList_some, calls_session_entry rfl rfl]
      exact (h.accounted hs).same rfl
  | receiver => simpa using ⟨h.prepared, h.idle, h.accounted⟩
  | arrive =>
    refine ⟨h.prepared, fun hr => ?_, fun hs => ?_⟩
    · rw [Option.toList_some, calls_session_entry rfl rfl]
      exact h.idle hr
    · rw [Option.toList_some, calls_session_entry rfl rfl]
      exact h.accounted hs
  | sigint => simpa using ⟨h.prepared, h.idle, h.accounted⟩

/-! ## The receiver -/

/-- The receiver is idle when nothing is left to report. -/
theorem Control.idle_of_reported (h : p.Control) (hl : p.pc.ended = false)
    (hr : p.pc.reported = true) : p.receiverPc = .idle := by
  refine (h.nextRate ?_).2
  cases hpc : p.pc <;> simp_all [MainPc.reported, MainPc.ended]

/-- The receiver has read the frames in the log, and counts those of the session. -/
structure Receiving (socket : RawSocketReceiver) (p : Program) (out : List Output) : Prop where
  idle : p.pc.reported = true → reads (session out) = []
  waiting : p.pc.inSession = true → p.receiverPc = .waiting → reads (session out) = []
  receiver : ∃ t, p.sender.receiver = some t ∧ t.socket = (socket.answers (reads out)).1 ∧
    (p.pc.inSession = true → p.receiverPc ≠ .waiting →
      ∃ g, t.counter = ((sessionAnswers socket out).foldl Counter.countAnswer .zero).carry g)

variable {socket : RawSocketReceiver}

/-- The answers of a log that goes on with a frame. -/
theorem sessionAnswers_receive {frame : Bytes} {tp : Option Timeval} :
    sessionAnswers socket (out ++ [.receive frame tp]) = sessionAnswers socket out ++
      ((socket.answers (reads out)).1.answer (some frame, tp)).2.toList := by
  have hearlier : earlier (out ++ [.receive frame tp]) = earlier out := Sections.upTo_entry out rfl
  have hreads : reads (session (out ++ [.receive frame tp])) =
      reads (session out) ++ [(some frame, tp)] := by
    rw [session_entry rfl, reads_append]
    rfl
  rw [sessionAnswers, hearlier, hreads, RawSocketReceiver.answers_append, ← sessionAnswers,
    reads_earlier_session out, RawSocketReceiver.answers_append]
  simp [RawSocketReceiver.answers, Run.trace]

/-- An entry that is no frame. -/
theorem sessionAnswers_entry {b : Output} (h : b.isMark = false) (hr : b.receive? = none) :
    sessionAnswers socket (out ++ [b]) = sessionAnswers socket out := by
  have hearlier : earlier (out ++ [b]) = earlier out := Sections.upTo_entry out h
  rw [sessionAnswers, hearlier, reads_session_entry h hr, ← sessionAnswers]

theorem reads_entry {b : Output} (hr : b.receive? = none) : reads (out ++ [b]) = reads out := by
  simp [reads, hr]

/-- A step that reads nothing and leaves the receiver alone. -/
theorem Receiving.frame (h : Receiving socket p out)
    (hs : p'.sender.receiver = p.sender.receiver) (hreads : reads (out ++ o.toList) = reads out)
    (hsession : reads (session (out ++ o.toList)) = reads (session out))
    (hanswers : sessionAnswers socket (out ++ o.toList) = sessionAnswers socket out)
    (hidle : p'.pc.reported = true → p.pc.reported = true)
    (hin : p'.pc.inSession = true → p.pc.inSession = true)
    (hpc : p'.receiverPc = .waiting ↔ p.receiverPc = .waiting) :
    Receiving socket p' (out ++ o.toList) := by
  obtain ⟨t, ht, hsocket, hcounter⟩ := h.receiver
  refine ⟨fun hr => ?_, fun hs' hw => ?_, t, hs.trans ht, by rw [hreads, hsocket], fun hs' hw => ?_⟩
  · rw [hsession, h.idle (hidle hr)]
  · rw [hsession, h.waiting (hin hs') (hpc.1 hw)]
  · rw [hanswers]
    exact hcounter (hin hs') (fun hw' => hw (hpc.2 hw'))

/-- The steps of the main thread and of the sender threads. -/
theorem Receiving.entry {b : Output} (h : Receiving socket p out)
    (hs : p'.sender.receiver = p.sender.receiver) (hb : b.isMark = false) (hr : b.receive? = none)
    (hidle : p'.pc.reported = true → p.pc.reported = true)
    (hin : p'.pc.inSession = true → p.pc.inSession = true)
    (hpc : p'.receiverPc = .waiting ↔ p.receiverPc = .waiting) :
    Receiving socket p' (out ++ [b]) :=
  Receiving.frame (o := some b) h hs (reads_entry hr) (reads_session_entry hb hr)
    (sessionAnswers_entry hb hr) hidle hin hpc

theorem Receiving.silent (h : Receiving socket p out)
    (hs : p'.sender.receiver = p.sender.receiver)
    (hidle : p'.pc.reported = true → p.pc.reported = true)
    (hin : p'.pc.inSession = true → p.pc.inSession = true)
    (hpc : p'.receiverPc = .waiting ↔ p.receiverPc = .waiting) :
    Receiving socket p' (out ++ []) :=
  Receiving.frame (o := none) h hs (by simp) (by simp) (by simp) hidle hin hpc

/-- A session starts or is over. -/
theorem Receiving.mark {b : Output} (h : Receiving socket p out)
    (hs : p'.sender.receiver = p.sender.receiver) (hb : b.isMark = true) (hr : b.receive? = none)
    (hin : p'.pc.inSession = true → p'.receiverPc = .waiting) :
    Receiving socket p' (out ++ [b]) := by
  obtain ⟨t, ht, hsocket, -⟩ := h.receiver
  have hnone : reads (session (out ++ [b])) = [] := by
    rw [session_mark hb]
    rfl
  exact ⟨fun _ => hnone, fun _ _ => hnone, t, hs.trans ht, by rw [reads_entry hr, hsocket],
    fun hs' hw => absurd (hin hs') hw⟩

theorem Receiving.moves (hc : p.Control) (h : Receiving socket p out) (hm : p.Moves p' o) :
    Receiving socket p' (out ++ o.toList) := by
  obtain ⟨t, ht, hsocket, hcounter⟩ := h.receiver
  cases hm with
  | skip => simpa using h
  | finished hpc => exact h.silent rfl (fun _ => by rw [hpc]; rfl) nofun .rfl
  | runError => exact h.mark rfl rfl rfl (by simp [catchException_not_inSession])
  | startSession => exact h.mark rfl rfl rfl (fun _ => by simp [ht])
  | leaveWait hpc => exact h.silent rfl nofun (fun _ => by rw [hpc]; rfl) .rfl
  | interrupted hpc => exact h.silent rfl nofun (fun _ => by rw [hpc]; rfl) .rfl
  | mainError =>
    exact h.silent rfl (by simp [catchException_not_reported])
      (by simp [catchException_not_inSession]) .rfl
  | results hd => exact h.mark rfl rfl rfl (by cases hd <;> nofun)
  | csvError => exact h.mark rfl rfl rfl (by simp [catchException_not_inSession])
  | act hl i a =>
    obtain ⟨threadpool, payload, hs, -⟩ := p.sender.act_frame i a
    have hr : (p.sender.act i a).1.receiver = p.sender.receiver := by rw [hs]
    cases (p.sender.act i a).2 with
    | none => exact h.silent hr id id .rfl
    | some c => exact h.entry hr rfl rfl id id .rfl
  | @clear r hl hr hsome =>
    cases hsome.symm.trans ht
    refine ⟨fun hrep => absurd (hc.idle_of_reported hl hrep) (by simp [hr]), nofun, _, rfl, ?_, ?_⟩
    · rw [Option.toList_some, reads_entry rfl]
      exact hsocket
    · intro hs _
      refine ⟨t.counter.rcodes 15, ?_⟩
      rw [Option.toList_some, sessionAnswers_entry rfl rfl, sessionAnswers, h.waiting hs hr]
      exact Counter.clear_eq_carry t.counter
  | @receive r frame socketBuffer hl tp hr hsome hb =>
    cases hsome.symm.trans ht
    refine ⟨fun hrep => absurd (hc.idle_of_reported hl hrep) (by simp [hr]), nofun, _, rfl, ?_, ?_⟩
    · have hreads : reads (out ++ [.receive frame tp]) = reads out ++ [(some frame, tp)] := by
        rw [reads_append]
        rfl
      rw [Option.toList_some, hreads, RawSocketReceiver.answers_append, ← hsocket]
      rfl
    · intro hs _
      obtain ⟨g, hg⟩ := hcounter hs (by simp [hr])
      refine ⟨g, ?_⟩
      rw [Option.toList_some, sessionAnswers_receive, List.foldl_append, ← Counter.foldl_carry,
        ← hsocket, ← hg]
  | receiver hl hr =>
    refine h.silent rfl id id ?_
    rcases hr with ⟨hr, rfl⟩ | ⟨hr, rfl⟩ | ⟨hr, rfl, -⟩ <;> simp [hr]
  | arrive => exact h.entry rfl rfl rfl id id .rfl
  | sigint => exact h.silent rfl id id .rfl

/-- Without a receiver nothing is read. -/
structure Deaf (p : Program) (out : List Output) : Prop where
  receiver : p.sender.receiver = none
  reads : reads out = []

theorem Deaf.moves (hc : p.Control) (h : Deaf p out) (hm : p.Moves p' o) :
    Deaf p' (out ++ o.toList) := by
  have hidle : p.receiverPc = .idle := by
    by_contra hne
    have := hc.receiver hne
    simp [h.receiver] at this
  have hentry : ∀ b : Output, b.receive? = none → Program.reads (out ++ [b]) = [] :=
    fun b hb => (reads_entry hb).trans h.reads
  have hsilent : Program.reads (out ++ []) = [] := by simpa using h.reads
  cases hm with
  | skip => simpa using h
  | runError => exact ⟨h.receiver, hentry _ rfl⟩
  | startSession => exact ⟨h.receiver, hentry _ rfl⟩
  | results => exact ⟨h.receiver, hentry _ rfl⟩
  | csvError => exact ⟨h.receiver, hentry _ rfl⟩
  | arrive => exact ⟨h.receiver, hentry _ rfl⟩
  | act hl i a =>
    obtain ⟨threadpool, payload, hs, -⟩ := p.sender.act_frame i a
    refine ⟨by rw [hs]; exact h.receiver, ?_⟩
    cases (p.sender.act i a).2 with
    | none => exact hsilent
    | some c => exact hentry _ rfl
  | clear hl hr => simp [hidle] at hr
  | receive hl tp hr => simp [hidle] at hr
  | receiver hl hr => simp [hidle] at hr
  | _ => exact ⟨h.receiver, hsilent⟩

/-! ## The results -/

/-- The figures of the receiver are those of the answers, modulo `2 ^ 64`; `rcodes[15]` aside. -/
structure CountsAnswers (res : Results) (as : List Answer) : Prop where
  received : res.counterReceived = .ofNat as.length
  bytes : res.bytesReceived = (as.map Answer.size).sum
  rcodes : ∀ i : Fin 16, i.val < 15 →
    res.rcodes i = .ofNat (as.countP fun a => a.dns.rcode.toNat = i.val)
  truncated : res.truncated = .ofNat (as.countP (·.dns.tc ≠ 0))
  rttTotal : res.rttTotal = ((as.map Answer.ticks).sum : ℕ) / 10000
  rttAvg : as.length % 2 ^ 64 ≠ 0 → res.rttAvg = res.rttTotal / (as.length % 2 ^ 64 : ℕ)
  rttMin : res.rttMin = ((as.map Answer.ticks).foldl Extrema.runMin ⊥ : ℕ) / 10000
  rttMax : res.rttMax = ((as.map Answer.ticks).foldl max ⊥ : ℕ) / 10000

theorem rcodes_foldl (i : Fin 16) : ∀ (as : List Answer) (c : Counter),
    (as.foldl Counter.countAnswer c).rcodes i =
      c.rcodes i + .ofNat (as.countP fun a => a.dns.rcode.toNat = i.val)
  | [], c => by simp
  | a :: as, c => by
    rw [List.foldl_cons, rcodes_foldl i as, Counter.rcodes_countAnswer, List.countP_cons]
    by_cases h : a.dns.rcode.toNat = i.val
    · have hi : (⟨a.dns.rcode.toNat, a.rcode_lt⟩ : Fin 16) = i := Fin.ext h
      rw [hi, Function.update_self, if_pos (by simpa using h), Tally.ofNat_succ, add_assoc,
        add_comm 1]
    · have hi : i ≠ ⟨a.dns.rcode.toNat, a.rcode_lt⟩ := fun he => h (congrArg Fin.val he).symm
      rw [Function.update_of_ne hi, if_neg (by simpa using h), Nat.add_zero]

theorem countsAnswers_getResults {s : DNSSender} {t : DNSReceiverThread} (ht : s.receiver = some t)
    {as : List Answer} {g : UInt64} (h : t.counter = (as.foldl Counter.countAnswer .zero).carry g) :
    CountsAnswers s.getResults as := by
  have hbytes := bytesRcv_foldl as Counter.zero
  have htc := Counter.truncated_foldl as Counter.zero
  have hrtt := Counter.rtt_step as g
  rw [← h] at hrtt
  constructor
  case received => simp only [DNSSender.getResults, ht, DNSSender.addReceiver, h,
    Counter.numPkgs_step]
  case bytes =>
    simp only [DNSSender.getResults, ht, DNSSender.addReceiver, h, Counter.carry]
    rw [hbytes]
    exact zero_add _
  case rcodes =>
    intro i hi
    have hne : i ≠ 15 := fun he => by simp [he] at hi
    simp only [DNSSender.getResults, ht, DNSSender.addReceiver, h, Counter.carry,
      Function.update_of_ne hne, rcodes_foldl]
    have hzero : Counter.zero.rcodes i = 0 := by simp [Counter.zero, Counter.new]
    rw [hzero, zero_add]
  case truncated =>
    simp only [DNSSender.getResults, ht, DNSSender.addReceiver, h, Counter.carry]
    rw [htc]
    exact zero_add _
  case rttTotal =>
    simp only [DNSSender.getResults, ht, DNSSender.addReceiver]
    exact hrtt.rttTotal
  case rttAvg =>
    intro hne
    have hnum : t.counter.numPkgs.toNat = as.length % 2 ^ 64 := by
      rw [h, Counter.numPkgs_step, UInt64.toNat_ofNat']
    have h0 : t.counter.numPkgs ≠ 0 := by
      intro he
      rw [he] at hnum
      exact hne hnum.symm
    simp only [DNSSender.getResults, ht, DNSSender.addReceiver, if_pos h0, hnum]
  case rttMin =>
    simp only [DNSSender.getResults, ht, DNSSender.addReceiver]
    exact hrtt.rttMin
  case rttMax =>
    simp only [DNSSender.getResults, ht, DNSSender.addReceiver]
    exact hrtt.rttMax

/-- The results account for the session in `out`, which a receiver starting as `r` listened to. -/
structure Reports (r : Option DNSReceiverThread) (out : List Output) (res : Results) : Prop where
  calls : CountsCalls res.totals ((calls (session out)).filter fun c => !c.raised)
  answers : ∀ t, r = some t → CountsAnswers res (sessionAnswers t.socket out)
  deaf : r = none → res.counterReceived = 0 ∧ reads out = []
  lost : res.LostExact

/-- A call that raises has no part in the totals. -/
theorem totals_of_raised {c : Call} (h : c.raised = true) : c.totals = 0 := by
  obtain ⟨i, env, result⟩ := c
  cases result <;> simp_all [Call.raised, Call.totals, Call.sent, Call.failed, Call.short,
    Call.coded, Call.size?, Totals.zero_def]

theorem sum_totals_filter : ∀ cs : List Call, (cs.map Call.totals).sum =
    ((cs.filter fun c => !c.raised).map Call.totals).sum
  | [] => rfl
  | c :: cs => by
    rw [List.map_cons, List.sum_cons, sum_totals_filter cs]
    cases h : c.raised with
    | true => rw [List.filter_cons_of_neg (by simp [h]), totals_of_raised h, zero_add]
    | false => rw [List.filter_cons_of_pos (by simp [h]), List.map_cons, List.sum_cons]

/-- What is known at every moment. -/
structure Known (n R : Int32) (r : Option DNSReceiverThread) (p : Program) (out : List Output) :
    Prop where
  control : p.Control
  sending : Sending n R p out
  receiving : ∀ t, r = some t → Receiving t.socket p out
  deaf : r = none → Deaf p out

theorem Known.step {n R : Int32} {r : Option DNSReceiverThread} (h : Known n R r p out)
    (e : Event) : Known n R r (p.step e).1 (out ++ (p.step e).2.toList) :=
  ⟨h.control.moves (moves_step p e), h.sending.moves h.control (moves_step p e),
    fun t ht => (h.receiving t ht).moves h.control (moves_step p e),
    fun hr => (h.deaf hr).moves h.control (moves_step p e)⟩

theorem Known.reports {n R : Int32} {r : Option DNSReceiverThread} {next : MainPc}
    (h : Known n R r p out) (hd : p.Due next) : Reports r out p.sender.getResults := by
  have hs := h.sending.accounted hd.inSession
  have hstopped : p.running = false := by
    cases hd with
    | session hpc _ hf => exact (h.control.threadStop hpc).resolve_right (by simp [hf])
    | interrupted _ ht => exact ht
  have hidle : p.receiverPc = .idle := by
    cases hd with
    | session _ hr => exact hr
    | interrupted hpc => exact (h.control.stopThreads hpc).1
  refine ⟨?_, ?_, ?_, ?_⟩
  · have hstarted : ∀ w ∈ p.sender.threadpool, w.state ≠ .waiting := by
      intro w hw
      rw [running_eq_false.1 hstopped w hw]
      decide
    rw [hs.totals_getResults hstarted, sum_totals_filter]
    refine DNSSender.countsCalls_sum fun c hc => ?_
    obtain ⟨hc, hr⟩ := List.mem_filter.1 hc
    exact hs.ended c hc (by simpa using hr)
  · intro t ht
    obtain ⟨t', ht', -, hcounter⟩ := (h.receiving t ht).receiver
    obtain ⟨g, hg⟩ := hcounter hd.inSession (by rw [hidle]; decide)
    exact countsAnswers_getResults ht' hg
  · intro hr
    have hdeaf := h.deaf hr
    refine ⟨?_, hdeaf.reads⟩
    have hnone : ∀ ts : List DNSSenderThread, ∀ res : Results,
        (ts.foldl DNSSender.addThread res).counterReceived = res.counterReceived := by
      intro ts
      induction ts with
      | nil => exact fun _ => rfl
      | cons t ts ih => exact fun res => ih _
    simp only [DNSSender.getResults, hdeaf.receiver]
    exact hnone _ _
  · exact lostExact_getResults p.sender

theorem Moves.due (hm : p.Moves p' o) {res : Results} {presented : DNSSender.Presented}
    (ho : o = some (.results res presented)) :
    res = p.sender.getResults ∧ ∃ next, p.Due next := by
  cases hm with
  | results hd =>
    cases ho
    exact ⟨rfl, _, hd⟩
  | csvError hd =>
    cases ho
    exact ⟨rfl, _, hd⟩
  | act hl i a => cases hc : (p.sender.act i a).2 <;> simp [hc] at ho
  | _ => cases ho

theorem Moves.nextRate (hm : p.Moves p' o) {q : Int32} (ho : o = some (.startSession q)) :
    p.pc = .nextRate := by
  cases hm with
  | runError hpc => exact hpc
  | startSession hpc => exact hpc
  | act hl i a => cases hc : (p.sender.act i a).2 <;> simp [hc] at ho
  | _ => cases ho

/-- Nothing is sent or read that the session in `out` has to report. -/
def Silent (out : List Output) : Prop := calls (session out) = [] ∧ reads (session out) = []

theorem Known.silent {n R : Int32} {r : Option DNSReceiverThread} (h : Known n R r p out)
    (hr : p.pc.reported = true) : Silent out := by
  refine ⟨h.sending.idle hr, ?_⟩
  cases r with
  | some t => exact (h.receiving t rfl).idle hr
  | none =>
    have hreads := (h.deaf rfl).reads
    rw [reads_earlier_session] at hreads
    exact (List.append_eq_nil_iff.1 hreads).2

theorem prepareThreads_idle {s0 s : DNSSender} {mem : Nat → Block 4096} (h0 : s0.threadpool = [])
    (hs : s0.prepareThreads mem = .ok s) :
    (∀ w ∈ s.threadpool, w.state = .idle) ∧ s.receiver = s0.receiver := by
  obtain ⟨threads, -, hs⟩ := Run.bind_ok_iff.1 hs
  cases hs
  refine ⟨fun w hw => ?_, rfl⟩
  rw [h0, List.nil_append] at hw
  obtain ⟨t, -, rfl⟩ := List.mem_map.1 hw
  rfl

/-- Behind `prepareThreads`. -/
theorem known_start {s0 s : DNSSender} {mem : Nat → Block 4096} (h0 : s0.threadpool = [])
    (hs : s0.prepareThreads mem = .ok s) (rates : List Int32)
    (csvFile : Option (List DNSSender.CsvLine)) :
    Known s0.threadCount s0.runtime s0.receiver (start s rates csvFile) [] := by
  have hprepared : s.PreparedFor s0.threadCount s0.runtime := DNSSender.prepareThreads_ok h0 hs
  obtain ⟨hidle, hreceiver⟩ := prepareThreads_idle h0 hs
  have hstopped : running (start s rates csvFile) = false := running_eq_false.2 hidle
  refine ⟨⟨fun _ => ⟨hstopped, rfl⟩, nofun, nofun, fun h => absurd rfl h⟩,
    ⟨hprepared, fun _ => rfl, nofun⟩, ?_, fun hr => ⟨hreceiver.trans hr, rfl⟩⟩
  intro t ht
  exact ⟨fun _ => rfl, nofun, t, hreceiver.trans ht, rfl, nofun⟩

/-- What an entry says of the log before it. -/
structure Entry (r : Option DNSReceiverThread) (out : List Output) (b : Output) : Prop where
  results : ∀ res presented, b = .results res presented → Reports r out res
  startSession : ∀ queryrate, b = .startSession queryrate → Silent out

theorem Known.entry {n R : Int32} {r : Option DNSReceiverThread} (h : Known n R r p out) {e : Event}
    {b : Output} (hb : (p.step e).2 = some b) : Entry r out b := by
  refine ⟨?_, ?_⟩
  · rintro res presented rfl
    obtain ⟨rfl, next, hd⟩ := (moves_step p e).due hb
    exact h.reports hd
  · rintro queryrate rfl
    have hpc := (moves_step p e).nextRate hb
    exact h.silent (by rw [hpc]; rfl)

/-- Every run behind `prepareThreads`. -/
theorem known_run {s0 s : DNSSender} {mem : Nat → Block 4096} (h0 : s0.threadpool = [])
    (hs : s0.prepareThreads mem = .ok s) {rates : List Int32}
    {csvFile : Option (List DNSSender.CsvLine)} {events : List Event}
    (hrun : Run.trace step (start s rates csvFile) events = (p, out)) :
    Known s0.threadCount s0.runtime s0.receiver p out ∧
      ∀ pre b post, out = pre ++ b :: post → Entry s0.receiver pre b :=
  Run.trace_entries (fun _ _ e h => h.step e) (fun _ _ _ _ h hb => h.entry hb)
    (known_start h0 hs rates csvFile) hrun

/-- **What the results report**: in every run of the program, any interleaving of the main thread,
the sender threads, the receiver, arriving frames and SIGINT, the results of a session, a regular or
an interrupted one, account for exactly the calls made and the frames read since the session
started; nothing is sent or read outside of sessions or left unreported at a regular end; and the
frames that came are those read, in their order, and those the socket still holds. -/
theorem results_account_for_session {s0 s : DNSSender} {mem : Nat → Block 4096}
    (h0 : s0.threadpool = []) (hs : s0.prepareThreads mem = .ok s) {rates : List Int32}
    {csvFile : Option (List DNSSender.CsvLine)} {events : List Event}
    (hrun : Run.trace step (start s rates csvFile) events = (p, out)) :
    (∀ pre res presented post, out = pre ++ .results res presented :: post →
      Reports s0.receiver pre res) ∧
    (∀ pre queryrate post, out = pre ++ .startSession queryrate :: post → Silent pre) ∧
    (p.pc.reported = true → Silent out) ∧
    out.filterMap Output.arrive? = (reads out).filterMap Prod.fst ++ p.socketBuffer := by
  obtain ⟨hknown, hentries⟩ := known_run h0 hs hrun
  refine ⟨?_, ?_, hknown.silent, conserved_run hrun rfl⟩
  · intro pre res presented post hpos
    exact (hentries pre _ post hpos).results res presented rfl
  · intro pre queryrate post hpos
    exact (hentries pre _ post hpos).startSession queryrate rfl

/-- The results at a place of the log. -/
theorem results_of_getElem {k : Nat} (h : ((out[k]?).bind Output.results?).isSome) :
    ∃ res presented, out = out.take k ++ .results res presented :: out.drop (k + 1) := by
  obtain ⟨res, hres⟩ := Option.isSome_iff_exists.1 h
  obtain ⟨b, hb, hbres⟩ := Option.bind_eq_some_iff.1 hres
  obtain ⟨presented, rfl⟩ : ∃ presented, b = .results res presented := by
    cases b <;> simp_all [Output.results?]
  obtain ⟨hlt, hget⟩ := List.getElem?_eq_some_iff.1 hb
  exact ⟨res, presented, by rw [← hget, ← List.drop_eq_getElem_cons, List.take_append_drop]⟩

/-- One query that is sent, with a receiver that listens. -/
def listening : DNSSender := { DNSSender.oneQuery with receiver := some answerReceiver }

/-- A session with one call and one answer, up to the regular end. -/
def oneSession : List Event :=
  [.main [], .receiver true none, .act 0 .start, .act 0 (.pass (passOf 45 0)), .arrive answerFrame,
    .receiver true none, .act 0 .finish, .main [], .receiver true none, .main [], .main []]

theorem results_account_for_one_session : ∃ s p out pre res presented post,
    listening.prepareThreads (fun _ => .zero 4096) = .ok s ∧
    Run.trace step (start s [0] none) oneSession = (p, out) ∧ p.pc = .exited 0 ∧
    out = pre ++ .results res presented :: post ∧ Reports (some answerReceiver) pre res ∧
    Silent out := by
  obtain ⟨s, p, out, hs, hrun, hpc, hres⟩ : ∃ s p out,
      listening.prepareThreads (fun _ => .zero 4096) = .ok s ∧
      Run.trace step (start s [0] none) oneSession = (p, out) ∧ p.pc = .exited 0 ∧
      ((out[5]?).bind Output.results?).isSome :=
    ⟨_, _, _, rfl, rfl, by decide +kernel, by decide +kernel⟩
  obtain ⟨res, presented, hout⟩ := results_of_getElem hres
  obtain ⟨hreports, -, hsilent, -⟩ := results_account_for_session rfl hs hrun
  exact ⟨s, p, out, _, res, presented, _, hs, hrun, hpc, hout,
    hreports _ res presented _ hout, hsilent (by rw [hpc]; rfl)⟩

end Program

end Dnsmeter
