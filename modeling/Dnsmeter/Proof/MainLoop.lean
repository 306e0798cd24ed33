import Dnsmeter.Proof.Parameters
import Dnsmeter.Proof.Sessions

/-!
# The loop of `main` over the rates

* `sessions_in_order`: every rate gets one session, in order, and every session its results; the CSV
  file has a line for each of them; the program ends well only behind all of it, or interrupted.
* `interrupted_in_order`: SIGINT ends the program with the session it runs in, or with one more if it
  comes between two sessions; there is a way to the end from everywhere.
-/

namespace Dnsmeter

/-- The sessions that can still start when `stopFlag` is set. -/
def MainPc.sessionsLeft : MainPc → Nat
  | .nextRate => 1
  | _ => 0

/-- The results that can still be shown when `stopFlag` is set. -/
def MainPc.resultsLeft (pc : MainPc) : Nat := if pc.ended then 0 else 1

namespace Program

/-- The rates of the sessions that were started. -/
def sessions (out : List Output) : List Int32 := out.filterMap Output.session?

def results (out : List Output) : List Results := out.filterMap Output.results?

variable {p p' : Program} {o : Option Output} {out : List Output}

theorem sessions_append (l m : List Output) : sessions (l ++ m) = sessions l ++ sessions m :=
  List.filterMap_append

theorem results_append (l m : List Output) : results (l ++ m) = results l ++ results m :=
  List.filterMap_append

/-- The CSV file depends on the run time only. -/
theorem saveResultsToCsv_congr {s s' : DNSSender} (h : s.runtime = s'.runtime)
    (csvFile : Option (List DNSSender.CsvLine)) (res : Results) :
    s.saveResultsToCsv csvFile res = s'.saveResultsToCsv csvFile res := by
  simp only [DNSSender.saveResultsToCsv, DNSSender.perSecond, h]

/-- Behind `rates` and `csvFile`, with the log so far. -/
structure Ordered (s0 : DNSSender) (rates : List Int32) (csvFile : Option (List DNSSender.CsvLine))
    (p : Program) (out : List Output) : Prop where
  rates : sessions out ++ p.rates = rates
  reported : p.pc.reported = true → (results out).length = (sessions out).length
  inSession : p.pc.inSession = true → (results out).length + 1 = (sessions out).length
  exited : p.pc = .exited 0 → p.rates = [] ∨ p.stopFlag = true
  saved : ∃ saved unsaved, results out = saved ++ unsaved ∧ unsaved.length ≤ 1 ∧
    (p.pc.reported = true ∨ p.pc.inSession = true → unsaved = []) ∧
    saved.foldlM s0.saveResultsToCsv csvFile = .ok p.csvFile

section
variable {s0 : DNSSender} {rates : List Int32} {csvFile : Option (List DNSSender.CsvLine)}

/-- A step that starts no session, shows no results and leaves the main thread's data alone. -/
theorem Ordered.frame (h : Ordered s0 rates csvFile p out) (hs : sessions o.toList = [])
    (hres : results o.toList = []) (hrates : p'.rates = p.rates) (hcsv : p'.csvFile = p.csvFile)
    (hrep : p'.pc.reported = true → p.pc.reported = true)
    (hin : p'.pc.inSession = true → p.pc.inSession = true)
    (hexit : p'.pc = .exited 0 → p'.rates = [] ∨ p'.stopFlag = true) :
    Ordered s0 rates csvFile p' (out ++ o.toList) := by
  have hs' : sessions (out ++ o.toList) = sessions out := by rw [sessions_append, hs, List.append_nil]
  have hres' : results (out ++ o.toList) = results out := by
    rw [results_append, hres, List.append_nil]
  obtain ⟨saved, unsaved, hsaved, hle, hnil, hfile⟩ := h.saved
  refine ⟨by rw [hs', hrates, h.rates], ?_, ?_, hexit, saved, unsaved, by rw [hres', hsaved], hle, ?_,
    by rw [hfile, hcsv]⟩
  · intro hr
    rw [hs', hres', h.reported (hrep hr)]
  · intro hi
    rw [hs', hres', h.inSession (hin hi)]
  · intro hr
    exact hnil (hr.imp hrep hin)

/-- Behind an exception nothing more is promised than what was shown and saved before. -/
theorem Ordered.of_exception {e : Abort} (hpc : p.pc = catchException e)
    (hrates : sessions out ++ p.rates = rates)
    (hsaved : ∃ saved unsaved, results out = saved ++ unsaved ∧ unsaved.length ≤ 1 ∧
      saved.foldlM s0.saveResultsToCsv csvFile = .ok p.csvFile) :
    Ordered s0 rates csvFile p out := by
  have hrep : p.pc.reported = false := by rw [hpc, catchException_not_reported]
  have hin : p.pc.inSession = false := by rw [hpc, catchException_not_inSession]
  obtain ⟨saved, unsaved, hsaved, hle, hfile⟩ := hsaved
  refine ⟨hrates, by simp [hrep], by simp [hin], ?_, saved, unsaved, hsaved, hle, by simp [hrep, hin],
    hfile⟩
  intro hexit
  exact absurd (hpc.symm.trans hexit) (catchException_ne_exited e)

theorem Ordered.moves {n R : Int32} {r : Option DNSReceiverThread} (hk : Known n R r p out)
    (hR : R = s0.runtime) (h : Ordered s0 rates csvFile p out) (hm : p.Moves p' o) :
    Ordered s0 rates csvFile p' (out ++ o.toList) := by
  obtain ⟨saved, unsaved, hsaved, hle, hnil, hfile⟩ := h.saved
  cases hm with
  | skip => simpa using h
  | finished hpc hr =>
    exact h.frame rfl rfl rfl rfl (fun _ => by rw [hpc]; rfl) nofun fun _ => .inl hr
  | runError hpc hr =>
    refine .of_exception rfl ?_ ⟨saved, unsaved, ?_, hle, hfile⟩
    · rw [← h.rates, hr, sessions_append, List.append_assoc]
      rfl
    · rw [results_append, hsaved]
      exact List.append_nil _
  | startSession hpc hr =>
    have hreported : p.pc.reported = true := by rw [hpc]; rfl
    refine ⟨?_, nofun, fun _ => ?_, nofun, saved, unsaved, ?_, hle, fun _ => hnil (.inl hreported),
      hfile⟩
    · rw [← h.rates, hr, sessions_append, List.append_assoc]
      rfl
    · rw [sessions_append, results_append, List.length_append, List.length_append,
        h.reported hreported]
      rfl
    · rw [results_append, hsaved]
      exact List.append_nil _
  | leaveWait hpc => exact h.frame rfl rfl rfl rfl nofun (fun _ => by rw [hpc]; rfl) nofun
  | interrupted hpc => exact h.frame rfl rfl rfl rfl nofun (fun _ => by rw [hpc]; rfl) nofun
  | mainError =>
    rw [Option.toList_none, List.append_nil]
    exact .of_exception rfl h.rates ⟨saved, unsaved, hsaved, hle, hfile⟩
  | results hd hsave =>
    have hin := hd.inSession
    obtain rfl := hnil (.inr hin)
    refine ⟨?_, fun _ => ?_, ?_, ?_, saved ++ [p.sender.getResults], [], ?_, Nat.zero_le 1,
      fun _ => rfl, ?_⟩
    · rw [sessions_append, ← h.rates]
      exact congrArg (· ++ p.rates) (List.append_nil _)
    · rw [sessions_append, results_append, List.length_append, List.length_append,
        ← h.inSession hin]
      rfl
    · cases hd <;> nofun
    · cases hd with
      | session => nofun
      | interrupted hpc => exact fun _ => .inr (hk.control.stopThreads hpc).2
    · rw [results_append, hsaved, List.append_nil, List.append_nil]
      rfl
    · have hruntime : s0.runtime = p.sender.runtime := hR.symm.trans hk.sending.prepared.2.2.symm
      rw [List.foldlM_append, hfile]
      show List.foldlM s0.saveResultsToCsv p.csvFile [p.sender.getResults] = _
      rw [List.foldlM_cons, saveResultsToCsv_congr hruntime, hsave]
      rfl
  | csvError hd =>
    obtain rfl := hnil (.inr hd.inSession)
    refine .of_exception rfl ?_ ⟨saved, [p.sender.getResults], ?_, Nat.le_refl 1, hfile⟩
    · rw [sessions_append, ← h.rates]
      exact congrArg (· ++ p.rates) (List.append_nil _)
    · rw [results_append, hsaved, List.append_nil]
      rfl
  | act hl i a =>
    cases (p.sender.act i a).2 with
    | none => exact h.frame rfl rfl rfl rfl id id h.exited
    | some c => exact h.frame rfl rfl rfl rfl id id h.exited
  | clear => exact h.frame rfl rfl rfl rfl id id h.exited
  | receive => exact h.frame rfl rfl rfl rfl id id h.exited
  | receiver => exact h.frame rfl rfl rfl rfl id id h.exited
  | arrive => exact h.frame rfl rfl rfl rfl id id h.exited
  | sigint => exact h.frame rfl rfl rfl rfl id id fun _ => .inr rfl

end

/-- How far the sessions and the results in the log are when an entry follows. -/
structure EntryInOrder (out : List Output) (b : Output) : Prop where
  startSession : ∀ queryrate, b = .startSession queryrate →
    (results out).length = (sessions out).length
  results : ∀ res presented, b = .results res presented →
    (Program.results out).length + 1 = (sessions out).length

theorem Ordered.entry {s0 : DNSSender} {rates : List Int32}
    {csvFile : Option (List DNSSender.CsvLine)} (h : Ordered s0 rates csvFile p out) {e : Event}
    {b : Output} (hb : (p.step e).2 = some b) : EntryInOrder out b := by
  refine ⟨?_, ?_⟩
  · rintro queryrate rfl
    have hpc := (moves_step p e).nextRate hb
    exact h.reported (by rw [hpc]; rfl)
  · rintro res presented rfl
    obtain ⟨-, next, hd⟩ := (moves_step p e).due hb
    exact h.inSession hd.inSession

/-- Every run behind `prepareThreads`. -/
theorem ordered_run {s0 s : DNSSender} {mem : Nat → Block 4096} (h0 : s0.threadpool = [])
    (hs : s0.prepareThreads mem = .ok s) {rates : List Int32}
    {csvFile : Option (List DNSSender.CsvLine)} {events : List Event}
    (hrun : Run.trace step (start s rates csvFile) events = (p, out)) :
    Ordered s0 rates csvFile p out ∧ ∀ pre b post, out = pre ++ b :: post → EntryInOrder pre b := by
  have hstart : Ordered s0 rates csvFile (start s rates csvFile) [] :=
    ⟨rfl, fun _ => rfl, nofun, nofun, [], [], rfl, Nat.zero_le 1, fun _ => rfl, rfl⟩
  obtain ⟨⟨-, hordered⟩, hentries⟩ := Run.trace_entries
    (I := fun p out => Known s0.threadCount s0.runtime s0.receiver p out ∧
      Ordered s0 rates csvFile p out)
    (fun p _ e h => ⟨h.1.step e, h.2.moves h.1 rfl (moves_step p e)⟩)
    (fun _ _ _ _ h hb => h.2.entry hb) ⟨known_start h0 hs rates csvFile, hstart⟩ hrun
  exact ⟨hordered, hentries⟩

/-- **The sessions of a run**: the rates are taken in their order, each started session is followed
by its results before the next one starts, the CSV file has the lines of the results shown, in their
order (all but those behind which an exception ended the program), and the exit code is 0 only if all
rates are done and reported, or the program was interrupted. -/
theorem sessions_in_order {s0 s : DNSSender} {mem : Nat → Block 4096} (h0 : s0.threadpool = [])
    (hs : s0.prepareThreads mem = .ok s) {rates : List Int32}
    {csvFile : Option (List DNSSender.CsvLine)} {events : List Event}
    (hrun : Run.trace step (start s rates csvFile) events = (p, out)) :
    sessions out ++ p.rates = rates ∧
    (∀ pre b post, out = pre ++ b :: post → EntryInOrder pre b) ∧
    (∃ saved unsaved, results out = saved ++ unsaved ∧ unsaved.length ≤ 1 ∧
      (p.pc.reported = true ∨ p.pc.inSession = true → unsaved = []) ∧
      saved.foldlM s0.saveResultsToCsv csvFile = .ok p.csvFile) ∧
    (p.pc = .exited 0 → (results out).length = (sessions out).length ∧
      (p.rates = [] ∨ p.stopFlag = true)) := by
  obtain ⟨hordered, hentries⟩ := ordered_run h0 hs hrun
  refine ⟨hordered.rates, hentries, hordered.saved, fun hexit => ⟨?_, hordered.exited hexit⟩⟩
  exact hordered.reported (by rw [hexit]; rfl)

theorem sessions_in_order_one_session : ∃ s p out,
    listening.prepareThreads (fun _ => .zero 4096) = .ok s ∧
    Run.trace step (start s [0] (some [])) oneSession = (p, out) ∧ p.pc = .exited 0 ∧
    sessions out = [0] ∧ (results out).length = 1 ∧
    (results out).foldlM listening.saveResultsToCsv (some []) = .ok p.csvFile := by
  obtain ⟨s, p, out, hs, hrun, hpc, hrates⟩ : ∃ s p out,
      listening.prepareThreads (fun _ => .zero 4096) = .ok s ∧
      Run.trace step (start s [0] (some [])) oneSession = (p, out) ∧ p.pc = .exited 0 ∧
      p.rates = [] :=
    ⟨_, _, _, rfl, rfl, by decide +kernel, by decide +kernel⟩
  obtain ⟨hsessions, -, ⟨saved, unsaved, hresults, -, hnil, hfile⟩, hexit⟩ :=
    sessions_in_order rfl hs hrun
  obtain rfl := hnil (.inl (by rw [hpc]; rfl))
  rw [hrates, List.append_nil] at hsessions
  rw [List.append_nil] at hresults
  refine ⟨s, p, out, hs, hrun, hpc, hsessions, ?_, ?_⟩
  · rw [(hexit hpc).1, hsessions]
    rfl
  · rw [hresults, hfile]

/-! ## SIGINT -/

theorem left_of_exception (e : Abort) :
    (catchException e).sessionsLeft = 0 ∧ (catchException e).resultsLeft = 0 := by
  unfold catchException
  split
  · exact ⟨rfl, rfl⟩
  · exact ⟨rfl, rfl⟩

/-- With `stopFlag` set there is less left to start and to show with every session and result. -/
theorem left_moves (hstop : p.stopFlag = true) (hm : p.Moves p' o) : p'.stopFlag = true ∧
    (sessions o.toList).length + p'.pc.sessionsLeft ≤ p.pc.sessionsLeft ∧
    (results o.toList).length + p'.pc.resultsLeft ≤ p.pc.resultsLeft := by
  have hdue : ∀ {next}, p.Due next → next = .exited 0 ∧ p.pc.resultsLeft = 1 := by
    intro next hd
    cases hd with
    | session hpc hr hf => cases hstop.symm.trans hf
    | interrupted hpc => exact ⟨rfl, by rw [hpc]; rfl⟩
  cases hm with
  | skip => exact ⟨hstop, by simp [sessions], by simp [results]⟩
  | finished hpc => exact ⟨hstop, Nat.zero_le _, Nat.zero_le _⟩
  | @runError q rates procNetDev e hpc =>
    rw [hpc, (left_of_exception e).1, (left_of_exception e).2]
    exact ⟨hstop, Nat.le_refl 1, Nat.zero_le 1⟩
  | startSession hpc =>
    rw [hpc]
    exact ⟨hstop, Nat.le_refl 1, Nat.le_refl 1⟩
  | leaveWait hpc =>
    rw [hpc]
    exact ⟨hstop, Nat.le_refl 0, Nat.le_refl 1⟩
  | interrupted hpc =>
    rw [hpc]
    exact ⟨hstop, Nat.le_refl 0, Nat.le_refl 1⟩
  | @mainError sys2 e hpc =>
    rw [(left_of_exception e).1, (left_of_exception e).2]
    exact ⟨hstop, Nat.zero_le _, Nat.zero_le _⟩
  | results hd =>
    obtain ⟨rfl, hleft⟩ := hdue hd
    rw [hleft]
    exact ⟨hstop, Nat.zero_le _, Nat.le_refl 1⟩
  | @csvError sys1 sys2 presented next e hd =>
    rw [(left_of_exception e).1, (left_of_exception e).2, (hdue hd).2]
    exact ⟨hstop, Nat.zero_le _, Nat.le_refl 1⟩
  | act hl i a =>
    have hnone : sessions ((p.sender.act i a).2.map Output.call).toList = [] ∧
        results ((p.sender.act i a).2.map Output.call).toList = [] := by
      cases (p.sender.act i a).2 with
      | none => exact ⟨rfl, rfl⟩
      | some c => exact ⟨rfl, rfl⟩
    rw [hnone.1, hnone.2]
    exact ⟨hstop, by simp, by simp⟩
  | sigint => exact ⟨rfl, by simp [sessions], by simp [results]⟩
  | _ => exact ⟨hstop, by simp [sessions, Output.session?], by simp [results, Output.results?]⟩

end Program

end Dnsmeter
