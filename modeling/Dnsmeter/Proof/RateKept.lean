import Dnsmeter.Proof.RealTime
import Dnsmeter.Proof.TimedRun
import Mathlib.Algebra.Order.BigOperators.Group.Finset
import Mathlib.Data.Finset.Order

/-!
# The rate of the running program

A thread with a rate limit has a schedule of slices that starts when it enters its loop. `OnSchedule`
is what holds of it at every place in its `run`; it is kept by every step of every thread
(`Rated.step`).

* `rate_kept`: at no time behind the start of a session have all threads together made more calls than
  the rate of the session allows.
-/

namespace Dnsmeter

open DNSSender (Call)

namespace DNSSenderThread

/-- A thread that has `n` queries behind it in `k` slices, with no more than `c` queries for a slice,
now and later. -/
def InBudget (c : ℚ) (k rest : ℕ) (queriesRest : UInt64) (n : ℕ) : Prop :=
  ∀ j : ℕ, ((n + sentAfter rest queriesRest j : ℕ) : ℚ) ≤ ((k + j : ℕ) : ℚ) * c

variable {c : ℚ} {k rest n : ℕ} {queriesRest : UInt64}

theorem InBudget.le (h : InBudget c k rest queriesRest n) : (n : ℚ) ≤ k * c := by
  have h0 := h 0
  rwa [Nat.add_zero, show sentAfter rest queriesRest 0 = 0 from rfl, Nat.add_zero] at h0

/-- One slice more. -/
theorem InBudget.succ {q : UInt64} (h : InBudget c k (rest + 1) queriesRest n)
    (hq : q = if UInt64.ofNat (rest + 1) = 1 then queriesRest else queriesRest / .ofNat (rest + 1)) :
    InBudget c (k + 1) rest (queriesRest - q) (n + q.toNat) := by
  intro j
  have hj := h (j + 1)
  rwa [sentAfter_succ hq, ← Nat.add_assoc, Nat.add_left_comm k j 1, Nat.add_comm j (k + 1)] at hj

/-- Where a thread that has sent `n` queries is at the time `now` on a schedule of slices of the length
`τ` that starts at `s`. -/
def OnSchedule (s τ c now : ℚ) (n : ℕ) : RunPc → Prop
  | .slice rest queriesRest queries nextTimeslice _ _ => ∃ k : ℕ,
    InBudget c (k + 1) rest queriesRest (n + queries) ∧ nextTimeslice = s + k * τ + τ ∧
      s + k * τ ≤ now
  | .checkTime rest queriesRest nextTimeslice _ _ => ∃ k : ℕ,
    InBudget c k rest queriesRest n ∧ nextTimeslice = s + k * τ ∧ s + k * τ ≤ now
  | .runWithoutRateLimit _ _ => False
  | _ => (n : ℚ) ≤ ((now - s) / τ + 1) * c

section
variable {s τ now : ℚ} {pc : RunPc} {t : DNSSenderThread} {timeout : Int32} {stop : Bool}

/-- The slices that have begun. -/
theorem le_of_begun (hτ : 0 < τ) (hc : 0 ≤ c) (hk : s + k * τ ≤ now) (h : (n : ℚ) ≤ (k + 1) * c) :
    (n : ℚ) ≤ ((now - s) / τ + 1) * c := by
  have hslices : (k : ℚ) ≤ (now - s) / τ := by
    rw [le_div_iff₀ hτ]
    linarith
  exact h.trans (mul_le_mul_of_nonneg_right (by linarith) hc)

theorem OnSchedule.le (h : OnSchedule s τ c now n pc) (hτ : 0 < τ) (hc : 0 ≤ c) :
    (n : ℚ) ≤ ((now - s) / τ + 1) * c := by
  cases pc with
  | slice rest queriesRest queries nextTimeslice nextChecktime endTime =>
    obtain ⟨k, hbudget, -, hk⟩ := h
    refine le_of_begun hτ hc hk ?_
    have hle := hbudget.le
    rw [Nat.cast_add, Nat.cast_add, Nat.cast_one] at hle
    linarith [show (0 : ℚ) ≤ queries from Nat.cast_nonneg queries]
  | checkTime =>
    obtain ⟨k, hbudget, -, hk⟩ := h
    exact le_of_begun hτ hc hk (hbudget.le.trans (by linarith))
  | runWithoutRateLimit => exact h.elim
  | loopLeft | waitForTimeout | undefined => exact h

theorem OnSchedule.later {now' : ℚ} (h : OnSchedule s τ c now n pc) (hτ : 0 < τ) (hc : 0 ≤ c)
    (hle : now ≤ now') : OnSchedule s τ c now' n pc := by
  have hmore : ((now - s) / τ + 1) * c ≤ ((now' - s) / τ + 1) * c := by
    gcongr
  cases pc with
  | slice | checkTime =>
    obtain ⟨k, hbudget, hnext, hk⟩ := h
    exact ⟨k, hbudget, hnext, hk.trans hle⟩
  | runWithoutRateLimit => exact h
  | loopLeft | waitForTimeout | undefined => exact h.trans hmore

/-- At the head of the loop. -/
theorem onSchedule_enterSlice (hτ : t.timeslice = τ) (hpos : 0 < τ) (hc : 0 ≤ c)
    (hbudget : InBudget c k rest queriesRest n) (hk : s + k * τ ≤ now) (nextChecktime endTime : ℚ) :
    OnSchedule s τ c now n (t.enterSlice rest queriesRest (s + k * τ) nextChecktime endTime) := by
  cases rest with
  | zero => exact le_of_begun hpos hc hk (hbudget.le.trans (by linarith))
  | succ rest => exact ⟨k, hbudget.succ rfl, by rw [hτ], hk⟩

theorem OnSchedule.called {pc' : RunPc} (h : OnSchedule s τ c now n pc) (hcall : pc.called = some pc') :
    OnSchedule s τ c now (n + 1) pc' := by
  cases pc with
  | slice rest queriesRest queries nextTimeslice nextChecktime endTime =>
    obtain ⟨k, hbudget, hnext, hk⟩ := h
    cases queries with
    | zero => cases hcall
    | succ queries =>
      cases hcall
      refine ⟨k, ?_, hnext, hk⟩
      rwa [Nat.add_assoc, Nat.add_comm 1 queries]
  | runWithoutRateLimit => exact h.elim
  | checkTime | loopLeft | waitForTimeout | undefined => cases hcall

theorem OnSchedule.goOn {pc' : RunPc} (h : OnSchedule s τ c now n pc) (hτ : t.timeslice = τ)
    (hpos : 0 < τ) (hc : 0 ≤ c) (hgo : t.goOn timeout now stop pc = some pc') :
    OnSchedule s τ c now n pc' := by
  have hle := h.le hpos hc
  cases pc with
  | slice rest queriesRest queries nextTimeslice nextChecktime endTime =>
    cases queries with
    | succ queries =>
      cases hgo
      exact h
    | zero =>
      simp only [DNSSenderThread.goOn] at hgo
      obtain ⟨k, hbudget, rfl, hk⟩ := h
      split at hgo
      · split at hgo
        · cases hgo
          exact hle
        · cases hgo
          exact ⟨k, hbudget, rfl, hk⟩
      · rename_i hover
        -- the slice is over
        have hbegun : s + ((k + 1 : ℕ) : ℚ) * τ ≤ now := by
          have hend := not_lt.1 hover
          rw [Nat.cast_add, Nat.cast_one]
          linarith
        have hnext : s + (k : ℚ) * τ + τ = s + ((k + 1 : ℕ) : ℚ) * τ := by
          rw [Nat.cast_add, Nat.cast_one]
          ring
        rw [Nat.add_zero] at hbudget
        split at hgo
        · split at hgo
          · cases hgo
            exact hle
          · cases hgo
            exact ⟨k + 1, hbudget, hnext, hbegun⟩
        · cases hgo
          rw [hnext]
          exact onSchedule_enterSlice hτ hpos hc hbudget hbegun _ _
  | checkTime rest queriesRest nextTimeslice nextChecktime endTime =>
    simp only [DNSSenderThread.goOn] at hgo
    obtain ⟨k, hbudget, rfl, hk⟩ := h
    split at hgo
    · cases hgo
      exact hle
    · cases hgo
      exact onSchedule_enterSlice hτ hpos hc hbudget hk _ _
  | runWithoutRateLimit => exact h.elim
  | loopLeft =>
    cases hgo
    exact h
  | waitForTimeout endTime check =>
    simp only [DNSSenderThread.goOn] at hgo
    split at hgo
    · split at hgo
      · split at hgo
        · cases hgo
        · cases hgo
          exact h
      · cases hgo
        exact h
    · cases hgo
  | undefined =>
    cases hgo
    exact h

/-- What a thread that starts has: slices of the length `τ`, and at most `c` queries for each. -/
structure PerSlice (t : DNSSenderThread) (τ c : ℚ) : Prop where
  timeslice : t.timeslice = τ
  loop : t.loop = .runWithRateLimit
  queries : ∀ total, t.totalTimeslices = .ok total → 1 ≤ total.toNat →
    (t.totalQueries.toNat : ℚ) ≤ total.toNat * c

/-- The counters and the packet do not matter. -/
theorem PerSlice.congr {t' : DNSSenderThread} (h : t.PerSlice τ c) (hq : t'.queryrate = t.queryrate)
    (hτ : t'.timeslice = t.timeslice) (hR : t'.runtime = t.runtime) : t'.PerSlice τ c := by
  have hslices : t'.totalTimeslices = t.totalTimeslices := by
    rw [totalTimeslices, totalTimeslices, hτ, hR]
  have hqueries : t'.totalQueries = t.totalQueries := by
    rw [totalQueries, totalQueries, hq, hR]
  refine ⟨hτ.trans h.timeslice, ?_, ?_⟩
  · rw [← h.loop, DNSSenderThread.loop, DNSSenderThread.loop, hq]
  · rw [hslices, hqueries]
    exact h.queries

theorem PerSlice.enterLoop (h : t.PerSlice τ c) (hpos : 0 < τ) (hc : 0 ≤ c) (now : ℚ) :
    OnSchedule now τ c now 0 (t.enterLoop now) := by
  have hzero : ((0 : ℕ) : ℚ) ≤ ((now - now) / τ + 1) * c := by
    rw [sub_self, zero_div, zero_add, one_mul, Nat.cast_zero]
    exact hc
  rw [DNSSenderThread.enterLoop, h.loop]
  dsimp only
  split
  · exact hzero
  · rename_i total htotal
    split
    · exact hzero
    · rename_i h0
      have h1 : 1 ≤ total.toNat := by
        by_contra hlt
        exact h0 (UInt64.toNat_inj.1 (show total.toNat = 0 by omega))
      have hbudget : InBudget c 0 total.toNat t.totalQueries 0 := by
        intro j
        rw [Nat.zero_add, Nat.zero_add]
        exact sentAfter_le_linear h1 total.toNat_lt (h.queries total htotal h1) j
      have hbegun : now + ((0 : ℕ) : ℚ) * τ ≤ now := by
        simp
      have hstart := onSchedule_enterSlice h.timeslice hpos hc hbudget hbegun (now + 1 / 10)
        (now + t.runtime.toInt)
      rwa [Nat.cast_zero, zero_mul, add_zero] at hstart

end

end DNSSenderThread

open DNSSenderThread

/-! ## The threads of a session -/

/-- No action changes what the rate of a thread depends on. -/
theorem Worker.Acts.perSlice {w w' : Worker} {p p' : PayloadFile} {a : Action}
    {r : Option DNSSenderThread.SendResult} {τ c : ℚ} (h : w.Acts p a w' p' r)
    (hw : w.thread.PerSlice τ c) : w'.thread.PerSlice τ c := by
  cases h with
  | skip | noPayload | finish => exact hw
  | start _ hs =>
    unfold DNSSenderThread.start at hs
    split at hs
    · cases hs
    · cases hs
      exact hw.congr rfl rfl rfl
  | returned _ ht =>
    obtain ⟨pkt, buffer, dnsseccounter, rfl, -⟩ := trySend_ok_eq ht
    unfold account
    split
    · exact hw.congr rfl rfl rfl
    · split <;> exact hw.congr rfl rfl rfl
  | raised _ ht =>
    obtain ⟨pkt, buffer, dnsseccounter, rfl⟩ := trySend_error_eq ht
    exact hw.congr rfl rfl rfl

/-- A thread does not enter its `run` by anything else. -/
theorem Worker.Acts.waiting_iff {w w' : Worker} {p p' : PayloadFile} {a : Action}
    {r : Option DNSSenderThread.SendResult} (h : w.Acts p a w' p' r) (ha : a ≠ .start) :
    w'.state = .waiting ↔ w.state = .waiting := by
  cases h with
  | skip => exact Iff.rfl
  | start | noPayload => exact absurd rfl ha
  | finish hs | returned hs | raised hs => simp [hs]

namespace Program

variable {p p' : Program} {o : Option Output}

/-- The main thread stays where it is at a call. -/
theorem Moves.pc_of_call (hm : p.Moves p' o) {c : Call} (ho : o = some (.call c)) : p'.pc = p.pc := by
  cases hm with
  | act => rfl
  | runError | startSession | results | csvError | clear | receive | arrive => cases ho
  | skip | finished | leaveWait | interrupted | mainError | receiver | sigint => cases ho

/-- A session starts with the pool that `run` has set up. -/
theorem Moves.started (hm : p.Moves p' o) {r : Int32} (ho : o = some (.startSession r))
    (hl : p'.pc.ended = false) : ∃ procNetDev v, p.sender.run r procNetDev = .ok v ∧
      p'.sender.threadpool = v.threadpool := by
  cases hm with
  | runError => cases (catchException_ended _).symm.trans hl
  | startSession hpc hrates hrun =>
    cases ho
    exact ⟨_, _, hrun, rfl⟩
  | act hl i a =>
    obtain ⟨c, -, hc⟩ := Option.map_eq_some_iff.1 ho
    cases hc
  | results | csvError | clear | receive | arrive => cases ho
  | skip | finished | leaveWait | interrupted | mainError | receiver | sigint => cases ho

end Program

namespace TimedProgram

variable {p p' : TimedProgram} {now : ℚ} {e : Event} {o : Option (ℚ × Program.Output)} {i : Nat}

/-- Only the start of a session touches the pool. -/
theorem program_threadpool {q : Program} {e' : Program.Event} (he : e.program? = some e')
    (hs : ∀ r, (q.step e').2 ≠ some (.startSession r)) :
    (q.step e').1.sender.threadpool = q.sender.threadpool := by
  unfold Program.step at hs ⊢
  split
  · rfl
  rename_i hl
  rw [if_neg hl] at hs
  cases e with
  | main procNetDev =>
    cases he
    dsimp only at hs ⊢
    have hshow : ∀ (q : Program) next,
        (q.showResults next).1.sender.threadpool = q.sender.threadpool := by
      intro q next
      unfold Program.showResults
      dsimp only
      split
      · rfl
      · rename_i s' presented hp
        obtain ⟨sys1, sys2, rfl⟩ := Program.presentResults_sender hp
        split <;> rfl
    unfold Program.main at hs ⊢
    split
    · rename_i hpc
      simp only [hpc] at hs
      split
      · rfl
      · rename_i r rates hrates
        simp only [hrates] at hs
        split at hs <;> exact absurd rfl (hs r)
    · split <;> rfl
    · split
      · rfl
      · split
        · rfl
        · dsimp only
          split
          · rfl
          · exact hshow _ _
    · split
      · rfl
      · exact hshow _ _
    · rfl
    · rfl
  | receiver ok tp =>
    cases he
    dsimp only
    unfold Program.receiver Program.receive
    repeat' split
    all_goals rfl
  | arrive | sigint => cases he; rfl
  | enter | pass | goOn => cases he

theorem act_worker_none (h : p.worker i = none) (j : Nat) (a : Action) :
    (p.act j a).worker i = none := by
  rcases p.program.sender.act_spec j a with ⟨-, hs⟩ | ⟨w, w', p', r, -, -, hs⟩
  · simp only [worker, act, hs]
    exact h
  · simp only [worker, act, hs]
    simp only [worker, List.getElem?_eq_none_iff] at h
    simpa using h

theorem act_worker_acts {w : Worker} (hw : p.worker i = some w) (j : Nat) (a : Action) :
    ∃ w' q q' b r, (p.act j a).worker i = some w' ∧ w.Acts q b w' q' r ∧
      (b = .start → a = .start ∧ j = i) := by
  by_cases hji : j = i
  · subst hji
    obtain ⟨w', q', r, hacts, hw', -⟩ := act_worker hw a
    exact ⟨w', _, q', a, r, hw', hacts, fun hb => ⟨hb, rfl⟩⟩
  · exact ⟨w, p.program.sender.payload, _, .finish, _, (act_worker_ne hji a).trans hw, .skip,
      fun hb => by cases hb⟩

/-- What a step `e` does to thread `i` of the pool, if there is one: an action of the thread. -/
structure Acted (p : TimedProgram) (e : Event) (p' : TimedProgram) (i : Nat) : Prop where
  absent : p.worker i = none → p'.worker i = none
  acts : ∀ w, p.worker i = some w → ∃ w' q q' a r, p'.worker i = some w' ∧ w.Acts q a w' q' r ∧
    (a = .start → e = .enter i)

theorem Acted.same (h : p'.worker i = p.worker i) : Acted p e p' i := by
  refine ⟨fun hnone => h.trans hnone, fun w hw => ?_⟩
  exact ⟨w, p.program.sender.payload, _, .finish, _, h.trans hw, .skip, fun ha => by cases ha⟩

theorem Acted.act (q : TimedProgram) (j : Nat) (a : Action) (h : q.worker i = p.worker i)
    (hstart : a = .start → e = .enter j) : Acted p e (q.act j a) i := by
  refine ⟨fun hnone => act_worker_none (h.trans hnone) j a, fun w hw => ?_⟩
  obtain ⟨w', q1, q', b, r, hw', hacts, hb⟩ := act_worker_acts (h.trans hw) j a
  refine ⟨w', q1, q', b, r, hw', hacts, fun hbs => ?_⟩
  obtain ⟨ha, rfl⟩ := hb hbs
  exact hstart ha

/-- A step that does not start a session. -/
theorem Does.acted (h : p.Does now e p' o) (hs : ∀ b, o = some b → b.2.session? = none) :
    Acted p e p' i := by
  cases h with
  | skip => exact .same rfl
  | @program _ e' he =>
    have hpool : (p.program.step e').1.sender.threadpool = p.program.sender.threadpool := by
      refine program_threadpool he fun r hr => ?_
      have hnone := hs (now, .startSession r) (by rw [take, hr]; rfl)
      cases hnone
    refine .same ?_
    simp only [TimedProgram.worker, take, hpool]
  | @enter j w hw hwait => exact .act (p.setRunPc j _) j .start rfl fun _ => rfl
  | @returned j pc hpc env t payload d hc =>
    have hact : Acted p (.pass j env) (p.act j (.pass env)) i :=
      .act p j (.pass env) rfl fun ha => by cases ha
    exact ⟨hact.absent, hact.acts⟩
  | notReturned hpc ho hr => exact .act p _ (.pass _) rfl fun ha => by cases ha
  | goOn hw hs h => exact .same rfl
  | finish hw hs h => exact .act p _ .finish rfl fun ha => by cases ha

theorem Does.enter_cases (h : p.Does now (.enter i) p' o) : o = none ∧ (p' = p ∨
    ∃ w, p.worker i = some w ∧ w.state = .waiting ∧
      p' = (p.setRunPc i (w.thread.enterLoop now)).act i .start) := by
  cases h with
  | skip => exact ⟨rfl, .inl rfl⟩
  | program he => cases he
  | enter hw hs => exact ⟨rfl, .inr ⟨_, hw, hs, rfl⟩⟩

/-- A thread of a session that started at `S`, with `n` calls since then. -/
structure Rated (S τ c now : ℚ) (w : Worker) (pc : RunPc) (n : ℕ) : Prop where
  perSlice : w.thread.PerSlice τ c
  waiting : w.state = .waiting → n = 0
  onSchedule : w.state ≠ .waiting → ∃ s, S ≤ s ∧ OnSchedule s τ c now n pc

section
variable {S τ c : ℚ} {w : Worker} {pc : RunPc} {n : ℕ}

theorem Rated.le (h : Rated S τ c now w pc n) (hτ : 0 < τ) (hc : 0 ≤ c) (hS : S ≤ now) :
    (n : ℚ) ≤ ((now - S) / τ + 1) * c := by
  by_cases hw : w.state = .waiting
  · have hpos : 0 ≤ (now - S) / τ := div_nonneg (by linarith) hτ.le
    rw [h.waiting hw, Nat.cast_zero]
    exact mul_nonneg (by linarith) hc
  · obtain ⟨s, hs, hon⟩ := h.onSchedule hw
    refine (hon.le hτ hc).trans (mul_le_mul_of_nonneg_right ?_ hc)
    have hsooner : (now - s) / τ ≤ (now - S) / τ := by
      gcongr
    linarith

theorem Rated.later {now' : ℚ} (h : Rated S τ c now w pc n) (hτ : 0 < τ) (hc : 0 ≤ c)
    (hle : now ≤ now') : Rated S τ c now' w pc n := by
  refine ⟨h.perSlice, h.waiting, fun hw => ?_⟩
  obtain ⟨s, hs, hon⟩ := h.onSchedule hw
  exact ⟨s, hs, hon.later hτ hc hle⟩

/-- **Every step of a thread is on its schedule**, also the one by which it enters its loop. -/
theorem Rated.does {w' : Worker} {q q' : PayloadFile} {a : Action}
    {r : Option DNSSenderThread.SendResult} (h : Rated S τ c now w (p.runPc i) n) (hτ : 0 < τ)
    (hc : 0 ≤ c) (hS : S ≤ now) (hw : p.worker i = some w) (hacts : w.Acts q a w' q' r)
    (ha : a = .start → e = .enter i) (hw' : p'.worker i = some w') (hd : p.Does now e p' o) :
    Rated S τ c now w' (p'.runPc i) (n + (sent i o.toList).length) := by
  by_cases he : e = .enter i
  · subst he
    obtain ⟨rfl, rfl | ⟨v, hv, hwait, rfl⟩⟩ := hd.enter_cases
    · cases hw.symm.trans hw'
      exact h
    · cases hw.symm.trans hv
      have hpc : ((p.setRunPc i (w.thread.enterLoop now)).act i .start).runPc i =
          w.thread.enterLoop now := runPc_setRunPc i _
      rw [h.waiting hwait, hpc]
      exact ⟨hacts.perSlice h.perSlice, fun _ => rfl,
        fun _ => ⟨now, hS, h.perSlice.enterLoop hτ hc now⟩⟩
  · have hiff := hacts.waiting_iff fun h => he (ha h)
    have hstep := hd.runStep he
    generalize p'.runPc i = pc' at hstep
    generalize sent i o.toList = new at hstep
    refine ⟨hacts.perSlice h.perSlice, fun hwait => ?_, fun hwait => ?_⟩
    · have hwait' := hiff.1 hwait
      rw [h.waiting hwait', Nat.zero_add]
      cases hstep with
      | stay | goOn => rfl
      | call hv hrun =>
        cases hw.symm.trans hv
        cases hwait'.symm.trans hrun
    · obtain ⟨s, hs, hon⟩ := h.onSchedule fun h => hwait (hiff.2 h)
      refine ⟨s, hs, ?_⟩
      cases hstep with
      | stay => exact hon
      | call hv hrun hcall => exact hon.called hcall
      | goOn hv hrun hgo =>
        cases hw.symm.trans hv
        exact hon.goOn h.perSlice.timeslice hτ hc hgo

/-- The threads of a session that started at `S`; `log` is what was put out since. -/
structure Session (S τ c now : ℚ) (p : TimedProgram) (log : List (ℚ × Program.Output)) : Prop where
  started : S ≤ now
  rated : ∀ i w, p.worker i = some w → Rated S τ c now w (p.runPc i) (sent i log).length
  other : ∀ i, p.worker i = none → sent i log = []

variable {log : List (ℚ × Program.Output)}

theorem Session.later {now' : ℚ} (h : Session S τ c now p log) (hτ : 0 < τ) (hc : 0 ≤ c)
    (hle : now ≤ now') : Session S τ c now' p log :=
  ⟨h.started.trans hle, fun i w hw => (h.rated i w hw).later hτ hc hle, h.other⟩

theorem Session.does (h : Session S τ c now p log) (hτ : 0 < τ) (hc : 0 ≤ c)
    (hd : p.Does now e p' o) (hs : ∀ b, o = some b → b.2.session? = none) :
    Session S τ c now p' (log ++ o.toList) := by
  refine ⟨h.started, fun i w' hw' => ?_, fun i hnone => ?_⟩
  · obtain ⟨hkept, hpool⟩ := hd.acted (i := i) hs
    cases hw : p.worker i with
    | none => cases (hkept hw).symm.trans hw'
    | some w =>
      obtain ⟨w1, q, q', a, r, hw1, hacts, ha⟩ := hpool w hw
      cases hw1.symm.trans hw'
      rw [sent_append, List.length_append]
      exact (h.rated i w hw).does hτ hc h.started hw hacts ha hw' hd
  · obtain ⟨-, hpool⟩ := hd.acted (i := i) hs
    cases hw : p.worker i with
    | some w =>
      obtain ⟨w1, -, -, -, -, hw1, -⟩ := hpool w hw
      cases hw1.symm.trans hnone
    | none =>
      rw [sent_append, h.other i hw, List.nil_append]
      by_cases he : e = .enter i
      · subst he
        rw [hd.enter_cases.1]
        rfl
      · have hstep := hd.runStep he
        generalize p'.runPc i = pc' at hstep
        generalize sent i o.toList = new at hstep
        cases hstep with
        | stay | goOn => rfl
        | call hv => cases hw.symm.trans hv

/-- The calls of all threads together. -/
theorem Session.countP_le (h : Session S τ c now p log) (hτ : 0 < τ) (hc : 0 ≤ c) :
    ((log.countP fun b => returned (some b) : ℕ) : ℚ) ≤
      p.program.sender.threadpool.length * (((now - S) / τ + 1) * c) := by
  let key : ℚ × Program.Output → Nat := fun b => (b.2.call?.map Call.thread).getD 0
  have hsent : ∀ i, ((log.filter fun b => returned (some b)).filter fun b => key b = i).length =
      (sent i log).length := by
    intro i
    rw [sent, List.length_map, List.filter_filter]
    congr 1
    refine List.filter_congr fun b _ => ?_
    obtain ⟨t, o⟩ := b
    cases o with
    | call call =>
      by_cases hi : call.thread = i
      · simp [key, Program.Output.call?, hi]
      · simp [key, Program.Output.call?, hi]
    | _ => simp [returned]
  have hkey : ∀ b ∈ log.filter fun b => returned (some b),
      key b < p.program.sender.threadpool.length := by
    intro b hb
    by_contra hge
    have hnone : p.worker (key b) = none := List.getElem?_eq_none_iff.2 (not_lt.1 hge)
    have hmem : b ∈ (log.filter fun b => returned (some b)).filter fun b' => key b' = key b :=
      List.mem_filter.2 ⟨hb, decide_eq_true rfl⟩
    have hlen := hsent (key b)
    rw [h.other _ hnone, List.length_nil, List.length_eq_zero_iff] at hlen
    rw [hlen] at hmem
    cases hmem
  have hsum := Tally.sum_by_key key (fun _ => (1 : ℚ)) hkey
  have hone : ∀ l : List (ℚ × Program.Output), (l.map fun _ => (1 : ℚ)).sum = l.length := by
    intro l
    simp
  simp only [hone, hsent] at hsum
  rw [List.countP_eq_length_filter, ← hsum]
  refine (Finset.sum_le_card_nsmul _ _ (((now - S) / τ + 1) * c) fun i _ => ?_).trans_eq (by simp)
  obtain ⟨w, hw⟩ : ∃ w, p.worker i = some w := ⟨_, List.getElem?_eq_getElem i.isLt⟩
  exact (h.rated i w hw).le hτ hc h.started

end

/-! ## Whole runs -/

end TimedProgram

namespace DNSSender

variable {s s' : DNSSender} {n R r : Int32}

theorem timeslices_congr (h : s.threadCount = s'.threadCount) :
    (s.calcTimeslice r).timeslices = (s'.calcTimeslice r).timeslices := by
  simp only [calcTimeslice, h]

/-- The queries that may come before their time, one slice of each thread. -/
theorem mul_timeslices (hr : 1 ≤ r.toInt) : (r.toInt : ℚ) * ((s.calcTimeslice r).timeslices / 1000) =
    max (s.threadCount.toInt : ℚ) (r.toInt / 10000) := by
  have hr' : (0 : ℚ) < r.toInt := by exact_mod_cast hr
  have hms : (r.toInt : ℚ) * (1000 / r.toInt * s.threadCount.toInt / 1000) = s.threadCount.toInt := by
    field_simp
  have hlt : 1000 / (r.toInt : ℚ) * s.threadCount.toInt < 1 / 10 ↔
      (s.threadCount.toInt : ℚ) < r.toInt / 10000 := by
    rw [div_mul_eq_mul_div, div_lt_iff₀ hr', lt_div_iff₀ (by norm_num)]
    constructor
    · intro h
      linarith
    · intro h
      linarith
  simp only [calcTimeslice]
  split
  · rename_i h
    rw [max_eq_right (hlt.1 h).le]
    ring
  · rename_i h
    rw [hms, max_eq_left (not_lt.1 fun hc => h (hlt.2 hc))]

/-- What the threads of a load step start with. -/
theorem run_perSlice {v : DNSSender} (h : s.PreparedFor n R) (hn : 1 ≤ n.toInt) (hr : 1 ≤ r.toInt)
    {procNetDev : Bytes} (hv : s.run r procNetDev = .ok v) : ∀ w ∈ v.threadpool,
      w.state = .waiting ∧ w.thread.PerSlice ((s.calcTimeslice r).timeslices / 1000)
        ((s.calcTimeslice r).timeslices / 1000 * r.toInt / n.toInt) := by
  intro w hw
  have hlim := run_thread h hn hr hv w hw
  obtain ⟨hts, hτ⟩ := run_timeslice (ne_zero_of_one_le hr) hv
  have hslice := (hτ w hw).trans (by rw [hts])
  obtain ⟨w0, -, queryrate, timeslice, rfl⟩ := mem_run hv hw
  refine ⟨rfl, hslice, hlim.loop, fun total htotal h1 => ?_⟩
  have hle := totalQueries_le hn hr h.2.1 hlim hslice htotal h1
  rwa [hslice] at hle

end DNSSender

namespace TimedProgram

variable {p p' : TimedProgram} {now : ℚ} {e : Event} {o : Option (ℚ × Program.Output)} {i : Nat}

section
variable {n R r : Int32} {S : ℚ} {log out : List (ℚ × Program.Output)} (s : DNSSender)

/-- The time slice of a session with the rate `r`. -/
def timeslice (r : Int32) : ℚ := (s.calcTimeslice r).timeslices / 1000

/-- The queries for a slice of a thread. -/
def perSlice (r : Int32) : ℚ := timeslice s r * r.toInt / s.threadCount.toInt

variable {s}

theorem timeslice_pos (hr : 1 ≤ r.toInt) : 0 < timeslice s r := by
  have hge := (DNSSender.timeslices_calcTimeslice s hr).1
  rw [timeslice]
  linarith

theorem perSlice_nonneg (hn : 1 ≤ s.threadCount.toInt) (hr : 1 ≤ r.toInt) : 0 ≤ perSlice s r := by
  have hn' : (0 : ℚ) ≤ s.threadCount.toInt := by exact_mod_cast (by omega : 0 ≤ s.threadCount.toInt)
  have hr' : (0 : ℚ) ≤ r.toInt := by exact_mod_cast (by omega : 0 ≤ r.toInt)
  exact div_nonneg (mul_nonneg (timeslice_pos hr).le hr') hn'

/-- What all threads of a session have sent, with the rate `r`. -/
theorem Session.rate (h : Session S (timeslice s r) (perSlice s r) now p log)
    (hn : 1 ≤ s.threadCount.toInt) (hr : 1 ≤ r.toInt)
    (hlen : (p.program.sender.threadpool.length : ℤ) = s.threadCount.toInt) :
    ((log.countP fun b => returned (some b) : ℕ) : ℚ) ≤
      r.toInt * (now - S) + max (s.threadCount.toInt : ℚ) (r.toInt / 10000) := by
  have hn' : (0 : ℚ) < s.threadCount.toInt := by exact_mod_cast hn
  have hpos := timeslice_pos (s := s) hr
  refine (h.countP_le hpos (perSlice_nonneg hn hr)).trans_eq ?_
  rw [← DNSSender.mul_timeslices hr,
    show ((p.program.sender.threadpool.length : ℕ) : ℚ) = s.threadCount.toInt by exact_mod_cast hlen,
    perSlice]
  change _ = (r.toInt : ℚ) * (now - S) + r.toInt * timeslice s r
  generalize timeslice s r = τ at hpos
  field_simp

/-- At the start of a session nothing is sent. -/
theorem Does.startSession (hl : p.program.pc.ended = false) (h : p.Does now e p' o)
    (hp : p.program.sender.PreparedFor n R) (hn : 1 ≤ n.toInt) (hsn : s.threadCount = n)
    {b : ℚ × Program.Output} (ho : o = some b) (hb : b.2 = .startSession r) (hr : 1 ≤ r.toInt)
    (hl' : p'.program.pc.ended = false) : Session now (timeslice s r) (perSlice s r) now p' [] := by
  have hm := h.moves hl
  rw [ho, Option.map_some, hb] at hm
  obtain ⟨procNetDev, v, hrun, hpool⟩ := hm.started rfl hl'
  have hstart := DNSSender.run_perSlice hp hn hr hrun
  obtain ⟨-, hcount, -⟩ := hp
  rw [DNSSender.timeslices_congr (hcount.trans hsn.symm), ← hsn, ← hpool] at hstart
  refine ⟨le_rfl, fun i w hw => ?_, fun _ _ => rfl⟩
  obtain ⟨hwait, hper⟩ := hstart w (List.mem_of_getElem? hw)
  exact ⟨hper, fun _ => rfl, fun hne => absurd hwait hne⟩

/-- The calls of a session up to one of them. -/
def InRate (s : DNSSender) (out : List (ℚ × Program.Output)) (b : ℚ × Program.Output) : Prop :=
  returned (some b) = true → ∀ pre S r log, out = pre ++ (S, .startSession r) :: log →
    (∀ b ∈ log, b.2.session? = none) → 1 ≤ r.toInt →
      (((log ++ [b]).countP fun b => returned (some b) : ℕ) : ℚ) ≤
        r.toInt * (b.1 - S) + max (s.threadCount.toInt : ℚ) (r.toInt / 10000)

/-- The program at the time `now`, and what it has put out. -/
structure RateKept (s : DNSSender) (R : Int32) (p : TimedProgram) (now : ℚ)
    (out : List (ℚ × Program.Output)) : Prop where
  control : p.program.Control
  sending : p.program.Sending s.threadCount R (out.map Prod.snd)
  session : p.program.pc.ended = false → ∀ pre S r log, out = pre ++ (S, .startSession r) :: log →
    (∀ b ∈ log, b.2.session? = none) → 1 ≤ r.toInt →
      Session S (timeslice s r) (perSlice s r) now p log
  calls : ∀ pre b post, out = pre ++ b :: post → InRate s pre b

theorem RateKept.later {now' : ℚ} (h : RateKept s R p now out) (hn : 1 ≤ s.threadCount.toInt)
    (hle : now ≤ now') : RateKept s R p now' out :=
  ⟨h.control, h.sending, fun hl pre S r log hpos hlog hr =>
    (h.session hl pre S r log hpos hlog hr).later (timeslice_pos hr) (perSlice_nonneg hn hr) hle,
    h.calls⟩

theorem RateKept.step (h : RateKept s R p now out) (hn : 1 ≤ s.threadCount.toInt) (e : Event) :
    RateKept s R (p.step (now, e)).1 now (out ++ (p.step (now, e)).2.toList) := by
  rcases step_cases p now e with hskip | ⟨hl, hd⟩
  · rw [hskip, Option.toList_none, List.append_nil]
    exact h
  generalize (p.step (now, e)).1 = p', (p.step (now, e)).2 = o at hd
  have hm := hd.moves hl
  have hsending : p'.program.Sending s.threadCount R ((out ++ o.toList).map Prod.snd) := by
    have hs := h.sending.moves h.control hm
    cases o <;> simpa using hs
  have hsession : p'.program.pc.ended = false → ∀ pre S r log,
      out ++ o.toList = pre ++ (S, .startSession r) :: log → (∀ b ∈ log, b.2.session? = none) →
      1 ≤ r.toInt → Session S (timeslice s r) (perSlice s r) now p' log := by
    intro hl' pre S r log hpos hlog hr
    rcases Run.concat_eq_position hpos with ⟨log', hout, rfl⟩ | ⟨-, ho, rfl⟩
    · refine (h.session hl pre S r log' hout (fun b hb => hlog b (List.mem_append_left _ hb)) hr).does
        (timeslice_pos hr) (perSlice_nonneg hn hr) hd fun b hb => hlog b ?_
      rw [hb]
      exact List.mem_append_right _ List.mem_cons_self
    · have hstamp : S = now := hd.stamp ho
      subst hstamp
      exact hd.startSession hl h.sending.prepared hn rfl ho rfl hr hl'
  refine ⟨h.control.moves hm, hsending, hsession, Run.entries_concat h.calls ?_⟩
  intro b ho hret pre S r log hout hlog hr
  obtain ⟨t, c, rfl⟩ : ∃ t c, b = (t, .call c) := by
    obtain ⟨t, o'⟩ := b
    cases o' with
    | call c => exact ⟨t, c, rfl⟩
    | _ => cases hret
  have hl' : p'.program.pc.ended = false := by
    rw [hm.pc_of_call (by rw [ho, Option.map_some])]
    exact hl
  have hstamp : t = now := hd.stamp ho
  have hkept := hsession hl' pre S r (log ++ [(t, .call c)])
    (by rw [hout, ho, Option.toList_some, List.append_assoc, List.cons_append])
    (fun b hb => (List.mem_append.1 hb).elim (hlog b) fun hb => by rw [List.mem_singleton.1 hb]; rfl)
    hr
  rw [hstamp] at hkept ⊢
  refine hkept.rate hn hr ?_
  obtain ⟨⟨hlen, -, -⟩, hcount, -⟩ := hsending.prepared
  rw [hlen, hcount]
  omega

end

end TimedProgram

end Dnsmeter
