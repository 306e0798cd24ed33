import Dnsmeter.Sender
import Dnsmeter.Lib.Run
import Mathlib.Algebra.BigOperators.Group.List.Basic
import Mathlib.Data.UInt

/-!
# The network figures over several samples

A `SystemStat` is sampled once in each load step, and its map keeps the entry it has: what a later
sample reads for a known interface is dropped. `sampleNetwork` also passes over interfaces whose
name is a single character.

* `sampleNetwork_eq`: what a sample does to the object, in terms of the interfaces listed.
* `fresh_iff`: when the object holds the counters of the sample afterwards.
* `fresh_run_iff`: the same for every sample of a run, and the figures `presentResults` then prints.
-/

namespace Dnsmeter

instance : Zero Network := ⟨.zero⟩
instance : Add Network := ⟨.add⟩

theorem Network.add_def (a b : Network) : a + b =
    ⟨a.bytes + b.bytes, a.packets + b.packets, a.errs + b.errs, a.drop + b.drop⟩ := rfl

theorem Network.zero_def : (0 : Network) = ⟨0, 0, 0, 0⟩ := rfl

instance : AddCommMonoid Network where
  add_assoc a b c := by simp [Network.add_def, add_assoc]
  zero_add a := by simp [Network.add_def, Network.zero_def]
  add_zero a := by simp [Network.add_def, Network.zero_def]
  add_comm a b := by simp [Network.add_def, add_comm]
  nsmul := nsmulRec

theorem Network.add_eq_left {a b : Network} : a + b = a ↔ b = 0 := by
  cases a
  cases b
  simp [Network.add_def, Network.zero_def]

/-! ## The listing -/

/-- The interface a line shows: what stands before the colon is its name. -/
def lineInterface (line : Bytes) : Option Interface :=
  let buffer := trim line
  let t := instr buffer 58
  if 1 ≤ t then (parseInterface buffer t.toNat).toOption else none

/-- The interfaces the operating system lists. -/
def listing (procNetDev : Bytes) : List Interface :=
  (getsAll 2048 procNetDev).filterMap lineInterface

/-- The names `sampleNetwork` does not pass over. -/
def Interface.isLong (nif : Interface) : Bool := 2 ≤ nif.name.length

theorem name_parseInterface {buffer : Bytes} {t : Nat} {nif : Interface}
    (h : parseInterface buffer t = .ok nif) : nif.name = buffer.take t := by
  simp only [parseInterface, bind, Except.bind] at h
  split at h
  · cases h
  split at h
  · cases h
  cases h
  rfl

theorem instr_lt {s : Bytes} {c : UInt8} (h : 0 ≤ instr s c) : (instr s c).toNat < s.length := by
  unfold instr at h ⊢
  split at h
  · rename_i i hi
    obtain ⟨hlt, -, -⟩ := List.idxOf?_eq_some_iff.1 hi
    exact hlt
  · omega

section
variable {s s' : SystemStat}

theorem sampleLine_eq {line : Bytes} (h : sampleLine s line = .ok s') :
    s' = ((lineInterface line).toList.filter Interface.isLong).foldl .addInterface s := by
  have hlt := @instr_lt (trim line) 58
  simp only [sampleLine] at h
  simp only [lineInterface]
  generalize instr (trim line) 58 = t at h hlt ⊢
  by_cases ht : t > 1
  · rw [if_pos ht] at h
    rw [if_pos (by omega)]
    simp only [bind, Except.bind] at h
    split at h
    · cases h
    · rename_i nif hn
      cases h
      have hlong : nif.isLong = true := by
        have := hlt (by omega)
        simp only [Interface.isLong, name_parseInterface hn, List.length_take, decide_eq_true_eq]
        omega
      simp [hn, Except.toOption, hlong]
  · rw [if_neg ht] at h
    cases h
    -- a name of one character, or no name
    split
    · rename_i h1
      cases hn : parseInterface (trim line) t.toNat with
      | error e => simp [Except.toOption]
      | ok nif =>
        have hshort : nif.isLong = false := by
          simp only [Interface.isLong, name_parseInterface hn, List.length_take,
            decide_eq_false_iff_not]
          omega
        simp [Except.toOption, hshort]
    · rfl

theorem foldlM_sampleLine : ∀ {lines : List Bytes} {s s' : SystemStat},
    lines.foldlM sampleLine s = .ok s' →
      s' = ((lines.filterMap lineInterface).filter Interface.isLong).foldl .addInterface s
  | [], s, s', h => by cases h; rfl
  | line :: lines, s, s', h => by
    simp only [List.foldlM_cons, bind, Except.bind] at h
    split at h
    · cases h
    · rename_i s1 h1
      rw [foldlM_sampleLine h, sampleLine_eq h1, ← List.foldl_append, ← List.filter_append]
      cases hl : lineInterface line <;> simp [hl]

/-- **A sample inserts the interfaces listed into the map and adds them up, but for those with a
short name.** -/
theorem sampleNetwork_eq {procNetDev : Bytes} (h : sampleSensorData s procNetDev = .ok s') :
    s' = ((listing procNetDev).filter Interface.isLong).foldl .addInterface
      { s with netTotal := { s.netTotal with receive := .zero, transmit := .zero } } :=
  foldlM_sampleLine h

end

/-! ## The map and the totals -/

/-- The entry of a name: the one there was, else the first that was added. -/
theorem find?_foldl_addInterface (name : Bytes) : ∀ (l : List Interface) (s : SystemStat),
    (l.foldl SystemStat.addInterface s).interfaces.find? name =
      (s.interfaces.find? name).or (l.find? (·.name = name))
  | [], s => by simp
  | nif :: l, s => by
    rw [List.foldl_cons, find?_foldl_addInterface name l, SystemStat.addInterface,
      InsertMap.find?_insert, Option.or_assoc]
    by_cases h : nif.name = name
    · simp [h]
    · simp [h, Ne.symm h]

theorem netTotal_foldl_addInterface : ∀ (l : List Interface) (s : SystemStat),
    (l.foldl SystemStat.addInterface s).netTotal.receive =
      s.netTotal.receive + (l.map Interface.receive).sum ∧
    (l.foldl SystemStat.addInterface s).netTotal.transmit =
      s.netTotal.transmit + (l.map Interface.transmit).sum
  | [], s => by simp
  | nif :: l, s => by
    obtain ⟨h1, h2⟩ := netTotal_foldl_addInterface l (s.addInterface nif)
    rw [List.foldl_cons, h1, h2, List.map_cons, List.map_cons, List.sum_cons, List.sum_cons,
      ← add_assoc, ← add_assoc]
    exact ⟨rfl, rfl⟩

/-- Among the long names, the first of a name is the first of all. -/
theorem find?_filter_isLong (name : Bytes) (l : List Interface) :
    (l.filter Interface.isLong).find? (·.name = name) =
      if 2 ≤ name.length then l.find? (·.name = name) else none := by
  rw [List.find?_filter]
  split
  · rename_i h
    congr 1
    funext nif
    by_cases hn : nif.name = name
    · simp [hn, Interface.isLong, h]
    · simp [hn]
  · rename_i h
    rw [List.find?_eq_none]
    intro nif _
    by_cases hn : nif.name = name
    · simp [hn, Interface.isLong, h]
    · simp [hn]

theorem sum_isLong_add_sum_short (f : Interface → Network) (l : List Interface) :
    ((l.filter Interface.isLong).map f).sum + ((l.filter (!·.isLong)).map f).sum =
      (l.map f).sum := by
  rw [← List.sum_append, ← List.map_append]
  exact ((List.filter_append_perm _ l).map f).sum_eq

section
variable {s s' : SystemStat} {procNetDev : Bytes} (h : sampleSensorData s procNetDev = .ok s')

include h

theorem find?_sample (name : Bytes) : s'.interfaces.find? name = (s.interfaces.find? name).or
    (if 2 ≤ name.length then (listing procNetDev).find? (·.name = name) else none) := by
  rw [sampleNetwork_eq h, find?_foldl_addInterface, find?_filter_isLong]

theorem netTotal_sample : s'.netTotal.receive =
      (((listing procNetDev).filter Interface.isLong).map Interface.receive).sum ∧
    s'.netTotal.transmit =
      (((listing procNetDev).filter Interface.isLong).map Interface.transmit).sum := by
  obtain ⟨hr, ht⟩ := netTotal_foldl_addInterface ((listing procNetDev).filter Interface.isLong)
    { s with netTotal := { s.netTotal with receive := .zero, transmit := .zero } }
  rw [← sampleNetwork_eq h, show (Network.zero : Network) = 0 from rfl, zero_add] at hr ht
  exact ⟨hr, ht⟩

end

/-! ## When a sample is fresh -/

def Interface.SameCounters (a b : Interface) : Prop :=
  a.receive = b.receive ∧ a.transmit = b.transmit

/-- The object holds the counters of every interface listed, and their sums. -/
structure Fresh (s : SystemStat) (procNetDev : Bytes) : Prop where
  interfaces : ∀ nif ∈ listing procNetDev,
    ∃ e, s.interfaces.find? nif.name = some e ∧ e.SameCounters nif
  receive : s.netTotal.receive = ((listing procNetDev).map Interface.receive).sum
  transmit : s.netTotal.transmit = ((listing procNetDev).map Interface.transmit).sum

/-- Before the sample, the map has no entry with other counters for an interface listed, every
interface that is not in the map has a name of two characters at least and is not listed before with
other counters, and the interfaces with shorter names add nothing to the sums. -/
structure SampleOk (s : SystemStat) (procNetDev : Bytes) : Prop where
  known : ∀ nif ∈ listing procNetDev, ∀ e, s.interfaces.find? nif.name = some e →
    e.SameCounters nif
  unknown : ∀ nif ∈ listing procNetDev, s.interfaces.find? nif.name = none →
    2 ≤ nif.name.length ∧
      ∀ e, (listing procNetDev).find? (·.name = nif.name) = some e → e.SameCounters nif
  short_receive :
    (((listing procNetDev).filter (!·.isLong)).map Interface.receive).sum = 0
  short_transmit :
    (((listing procNetDev).filter (!·.isLong)).map Interface.transmit).sum = 0

/-- **A sample leaves the object fresh iff it finds nothing stale in it.** -/
theorem fresh_iff {s s' : SystemStat} {procNetDev : Bytes}
    (h : sampleSensorData s procNetDev = .ok s') : Fresh s' procNetDev ↔ SampleOk s procNetDev := by
  have hfind := find?_sample h
  obtain ⟨hr, ht⟩ := netTotal_sample h
  have hrecv := sum_isLong_add_sum_short Interface.receive (listing procNetDev)
  have htrans := sum_isLong_add_sum_short Interface.transmit (listing procNetDev)
  constructor
  · intro hf
    refine ⟨?_, ?_, ?_, ?_⟩
    · intro nif hn e he
      obtain ⟨e', he', hc⟩ := hf.interfaces nif hn
      rw [hfind, he, Option.some_or] at he'
      cases he'
      exact hc
    · intro nif hn hnone
      obtain ⟨e', he', hc⟩ := hf.interfaces nif hn
      rw [hfind, hnone, Option.none_or] at he'
      split at he'
      · rename_i hlen
        refine ⟨hlen, ?_⟩
        intro e he
        rw [he] at he'
        cases he'
        exact hc
      · cases he'
    · rw [← hf.receive, hr] at hrecv
      exact Network.add_eq_left.1 hrecv
    · rw [← hf.transmit, ht] at htrans
      exact Network.add_eq_left.1 htrans
  · intro hok
    refine ⟨?_, ?_, ?_⟩
    · intro nif hn
      cases he : s.interfaces.find? nif.name with
      | some e => exact ⟨e, by rw [hfind, he]; rfl, hok.known nif hn e he⟩
      | none =>
        obtain ⟨hlen, hfirst⟩ := hok.unknown nif hn he
        cases hl : (listing procNetDev).find? (·.name = nif.name) with
        | none => exact absurd (List.find?_eq_none.1 hl nif hn) (by simp)
        | some e => exact ⟨e, by rw [hfind, he, if_pos hlen, hl]; rfl, hfirst e hl⟩
    · rw [hr, ← hrecv, hok.short_receive, add_zero]
    · rw [ht, ← htrans, hok.short_transmit, add_zero]

/-! ## Runs -/

/-- What happens to a `SystemStat`: it is sampled, or `presentResults` looks up an interface. -/
inductive StatEvent where
  | sample (procNetDev : Bytes)
  | lookup (name : Bytes)

def SystemStat.step (s : SystemStat) : StatEvent → Except Abort SystemStat
  | .sample procNetDev => sampleSensorData s procNetDev
  | .lookup name => .ok { s with interfaces := (s.interfaces.getOrCreate name .default).2 }

/-- The entry `operator[]` returns when there is one. -/
theorem getOrCreate_of_find? {m : InsertMap Bytes Interface} {name : Bytes} {e : Interface}
    (h : m.find? name = some e) : (m.getOrCreate name .default).1 = e := by
  simp [InsertMap.getOrCreate, InsertMap.find?_insert, h]

/-- Fresh samples at both ends of a step give the figures of the step. -/
theorem presentNetwork_of_fresh {s : DNSSender} {text1 text2 : Bytes} {nif1 nif2 : Interface}
    (h1 : Fresh s.sys1 text1) (h2 : Fresh s.sys2 text2) (hn1 : nif1 ∈ listing text1)
    (hn2 : nif2 ∈ listing text2) (he1 : nif1.name = s.interfaceName)
    (he2 : nif2.name = s.interfaceName) : s.presentNetwork.2 =
      (Network.getDelta nif1.transmit nif2.transmit, Network.getDelta nif1.receive nif2.receive) := by
  obtain ⟨e1, hf1, hr1, ht1⟩ := h1.interfaces nif1 hn1
  obtain ⟨e2, hf2, hr2, ht2⟩ := h2.interfaces nif2 hn2
  rw [he1] at hf1
  rw [he2] at hf2
  simp only [DNSSender.presentNetwork, getOrCreate_of_find? hf1, getOrCreate_of_find? hf2, hr1, ht1,
    hr2, ht2]

/-- **The figures over a run**: every sample leaves the object fresh iff every sample finds nothing
stale in it; and a load step whose two samples do prints what happened on the interface between
them. -/
theorem fresh_run_iff {evs : List StatEvent} {t : SystemStat}
    (he : Run.exec SystemStat.step SystemStat.new evs = .ok t) :
    ((∀ pre text post u u', evs = pre ++ .sample text :: post →
        Run.exec SystemStat.step SystemStat.new pre = .ok u → sampleSensorData u text = .ok u' →
        Fresh u' text) ↔
      ∀ pre text post u, evs = pre ++ .sample text :: post →
        Run.exec SystemStat.step SystemStat.new pre = .ok u → SampleOk u text) ∧
    ∀ (s : DNSSender) (text1 text2 : Bytes) (sys1 sys2 : SystemStat) (nif1 nif2 : Interface),
      SampleOk s.sys1 text1 → SampleOk s.sys2 text2 → sampleSensorData s.sys1 text1 = .ok sys1 →
      sampleSensorData s.sys2 text2 = .ok sys2 → nif1 ∈ listing text1 → nif2 ∈ listing text2 →
      nif1.name = s.interfaceName → nif2.name = s.interfaceName →
      { s with sys1, sys2 }.presentNetwork.2 =
        (Network.getDelta nif1.transmit nif2.transmit,
          Network.getDelta nif1.receive nif2.receive) := by
  refine ⟨⟨?_, ?_⟩, ?_⟩
  · intro h pre text post u hevs hu
    obtain ⟨v, hv, hrest⟩ := Run.exec_append_ok.1 (hevs ▸ he)
    cases hu.symm.trans hv
    obtain ⟨u', hs, -⟩ := Run.exec_cons_ok.1 hrest
    exact (fresh_iff hs).1 (h pre text post u u' hevs hu hs)
  · intro h pre text post u u' hevs hu hs
    exact (fresh_iff hs).2 (h pre text post u hevs hu)
  · intro s text1 text2 sys1 sys2 nif1 nif2 hok1 hok2 hs1 hs2 hn1 hn2 he1 he2
    exact presentNetwork_of_fresh (s := { s with sys1, sys2 }) ((fresh_iff hs1).2 hok1)
      ((fresh_iff hs2).2 hok2) hn1 hn2 he1 he2

/-- A listing of one interface that has transmitted the given number of bytes. -/
def oneInterface (bytes : String) : Bytes := ascii ("eth0: 1 2 3 4 0 0 0 0 " ++ bytes ++ " 6 7 8")

def eth0 (bytes : UInt64) : Interface := ⟨ascii "eth0", ⟨1, 2, 3, 4⟩, ⟨bytes, 6, 7, 8⟩⟩

/-- The object after the first sample. -/
def sampledOnce : SystemStat := ⟨{ eth0 5 with name := [] }, ⟨[(ascii "eth0", eth0 5)]⟩⟩

theorem fresh_run_first_sample : sampleSensorData .new (oneInterface "5") = .ok sampledOnce ∧
    Fresh sampledOnce (oneInterface "5") := by
  have hl : listing (oneInterface "5") = [eth0 5] := by decide +kernel
  have hs : sampleSensorData .new (oneInterface "5") = .ok sampledOnce := by rfl
  have he : Run.exec SystemStat.step .new [.sample (oneInterface "5")] = .ok sampledOnce := hs
  refine ⟨hs, (fresh_run_iff he).1.2 ?_ [] _ [] .new sampledOnce rfl rfl hs⟩
  intro pre text post u hevs hu
  cases pre with
  | nil =>
    cases hevs
    cases hu
    refine ⟨fun _ _ e hk => (by cases hk), ?_, by rw [hl]; rfl, by rw [hl]; rfl⟩
    intro nif hn _
    rw [hl] at hn ⊢
    cases List.mem_singleton.1 hn
    refine ⟨by decide, ?_⟩
    intro e hf
    cases hf
    exact ⟨rfl, rfl⟩
  | cons e pre => cases pre <;> cases hevs

theorem second_sample_stale : ∃ u', sampleSensorData .new (oneInterface "5") = .ok sampledOnce ∧
    sampleSensorData sampledOnce (oneInterface "9") = .ok u' ∧ eth0 9 ∈ listing (oneInterface "9") ∧
    u'.interfaces.find? (ascii "eth0") = some (eth0 5) ∧ ¬ Fresh u' (oneInterface "9") := by
  have hl : eth0 9 ∈ listing (oneInterface "9") := by decide +kernel
  refine ⟨_, by rfl, by rfl, hl, by decide +kernel, ?_⟩
  intro hf
  obtain ⟨e, hfind, hsame⟩ := hf.interfaces _ hl
  cases hfind
  exact absurd hsame.2 (by decide)

end Dnsmeter
