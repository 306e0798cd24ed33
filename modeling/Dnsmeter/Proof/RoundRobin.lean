import Dnsmeter.Proof.Thread
import Dnsmeter.Lib.Turns

/-!
# Queries are dealt out in turn

* `openQueryFile_ok`: a payload that was loaded has a query, and its iterator points to the first.
* `getQuery_mod`: the iterator's position is the number of calls modulo the number of queries.
* `draws_roundRobin`: over any run of the threads, whatever their number, their interleaving and the
  load steps, the queries are dealt out round robin.
-/

namespace Dnsmeter

/-! ## Loading -/

namespace PayloadFile

/-- What counts as a valid line has been put into the cache. -/
def Counted (p : PayloadFile) : Prop := p.validLinesInQueryFile ≠ 0 → p.querycache ≠ []

theorem Counted.push (p : PayloadFile) (query : Bytes) : (p.push query).Counted := by
  intro _ h
  simp [PayloadFile.push] at h

/-- A line adds a query to the cache, or nothing. -/
theorem compileLine_ok {res : ResMkquery} {s s' : PayloadFile × Block 4096} {line : Bytes}
    (h : compileLine res s line = .ok s') : s'.1 = s.1 ∨ ∃ query, s'.1 = s.1.push query := by
  simp only [compileLine] at h
  split at h
  · cases h
    exact .inl rfl
  split at h
  · cases h
    exact .inl rfl
  split at h
  · obtain ⟨query, -, h⟩ := Run.bind_ok_iff.1 h
    cases h
    exact .inr ⟨query, rfl⟩
  · split at h
    · cases h
      exact .inl rfl
    · cases h

theorem compileLine_counted {res : ResMkquery} (s : PayloadFile × Block 4096) (line : Bytes)
    (s' : PayloadFile × Block 4096) (hs : s.1.Counted) (h : compileLine res s line = .ok s') :
    s'.1.Counted := by
  rcases compileLine_ok h with hsame | ⟨query, hpush⟩
  · rw [hsame]
    exact hs
  · rw [hpush]
    exact .push _ _

theorem loadAndCompile_ok {res : ResMkquery} {buf : Block 4096} {p q : PayloadFile} {content : Bytes}
    (h : loadAndCompile res buf p content = .ok q) : q.querycache ≠ [] := by
  obtain ⟨⟨p1, b1⟩, h1, h⟩ := Run.bind_ok_iff.1 h
  have hc : p1.Counted := Run.foldlM_inv (J := fun s => s.1.Counted) compileLine_counted
    (fun h0 => absurd rfl h0) h1
  simp only [pure, Except.pure, bind, Except.bind] at h
  split at h
  · cases h
  · rename_i h0
    cases h
    exact hc h0

theorem foldl_isQuery_counted : ∀ {records : List PcapRecord} {p : PayloadFile}, p.Counted →
    (records.foldl (fun p r => if isQuery r then p.push r.data else p) p).Counted
  | [], _, h => h
  | r :: records, p, h => by
    rw [List.foldl_cons]
    apply foldl_isQuery_counted
    split
    · exact .push _ _
    · exact h

theorem loadAndCompilePcapFile_ok {openOffline : PcapOpenOffline} {p q : PayloadFile}
    {filename : String} {content : Bytes}
    (h : loadAndCompilePcapFile openOffline p filename content = .ok q) : q.querycache ≠ [] := by
  simp only [loadAndCompilePcapFile] at h
  split at h
  · cases h
  · split at h
    · cases h
    · rename_i h0
      cases h
      exact foldl_isQuery_counted (fun h0 => absurd rfl h0) h0

/-- **A loaded payload has a query, and the iterator points to the first.** -/
theorem openQueryFile_ok {res : ResMkquery} {openOffline : PcapOpenOffline} {buf : Block 4096}
    {p q : PayloadFile} {filename : String} {content : Option Bytes}
    (h : openQueryFile res openOffline buf p filename content = .ok q) :
    q.querycache ≠ [] ∧ q.it = 0 := by
  unfold openQueryFile at h
  split at h
  · cases h
  split at h
  · cases h
  · cases h
  · dsimp only at h
    split at h
    · obtain ⟨p1, h1, h⟩ := Run.bind_ok_iff.1 h
      cases h
      have hne := loadAndCompilePcapFile_ok h1
      exact ⟨hne, rfl⟩
    · obtain ⟨p1, h1, h⟩ := Run.bind_ok_iff.1 h
      cases h
      have hne := loadAndCompile_ok h1
      exact ⟨hne, rfl⟩

/-! ## Dealing -/

theorem getQuery_mod {p : PayloadFile} {k : Nat} (hne : p.querycache ≠ [])
    (hit : p.it = k % p.querycache.length) :
    ∃ bap, p.querycache[k % p.querycache.length]? = some bap ∧
      p.getQuery = .ok (bap, { p with it := (k + 1) % p.querycache.length }) := by
  have hn : 0 < p.querycache.length := List.length_pos_iff.2 hne
  have hlt := Nat.mod_lt k hn
  refine ⟨p.querycache.get ⟨_, hlt⟩, List.getElem?_eq_getElem hlt, ?_⟩
  have hnext := Turns.next_mod hn k
  simp only [Turns.next] at hnext
  simp only [getQuery, hit, List.getElem?_eq_getElem hlt, hnext]
  rfl

end PayloadFile

namespace DNSSender

open DNSSenderThread

/-- A call of `getQuery`: by which thread, where the iterator was, what was returned. -/
structure Draw where
  thread : Nat
  pos : Nat
  entry : Except Abort Bytes

/-- A step of the program with the call of `getQuery` it makes. -/
def drawStep (s : DNSSender) (e : Event) : DNSSender × Option Draw :=
  ((s.step e).1, (s.step e).2.map fun call =>
    ⟨call.thread, s.payload.it, s.payload.getQuery.map Prod.fst⟩)

theorem payload_setRates {s v : DNSSender} {r : Int32} (h : s.setRates r = .ok v) :
    v.payload = s.payload := by
  obtain ⟨pool, -, rfl⟩ := setRates_ok h
  show (if r ≠ 0 then s.calcTimeslice r else s).payload = s.payload
  split <;> rfl

/-- Only a call of `getQuery` moves the iterator. -/
theorem payload_step_of_none {s : DNSSender} {e : Event} (h : (s.step e).2 = none) :
    (s.step e).1.payload = s.payload := by
  cases e with
  | run r procNetDev =>
    simp only [step]
    split
    · split
      · rename_i v hv
        obtain ⟨u, sys1, receiver, hu, rfl⟩ := run_ok hv
        show u.payload = s.payload
        exact payload_setRates hu
      · rfl
    · rfl
  | act i a =>
    simp only [step] at h ⊢
    rcases s.act_spec i a with ⟨-, hs⟩ | ⟨w, w', p', r, -, hacts, hs⟩
    · rw [hs]
    rw [hs] at h ⊢
    cases hacts with
    | skip => rfl
    | start => rfl
    | noPayload => rfl
    | finish => rfl
    | returned => cases h
    | raised => cases h

theorem payload_step_of_some {s : DNSSender} {e : Event} {call : Call} {bap : Bytes}
    {p : PayloadFile} (h : (s.step e).2 = some call) (hq : s.payload.getQuery = .ok (bap, p)) :
    (s.step e).1.payload = p := by
  cases e with
  | run r procNetDev =>
    simp only [step] at h
    split at h
    · split at h <;> cases h
    · cases h
  | act i a =>
    simp only [step] at h ⊢
    rcases s.act_spec i a with ⟨-, hs⟩ | ⟨w, w', p', r, -, hacts, hs⟩
    · rw [hs] at h
      cases h
    rw [hs] at h ⊢
    cases hacts with
    | skip => cases a <;> cases h
    | start => cases h
    | noPayload => cases h
    | finish => cases h
    | returned _ ht =>
      obtain ⟨bap', t1, qs, pkt1, pkt2, hq', -⟩ := trySend_ok ht
      cases hq.symm.trans hq'
      rfl
    | raised _ ht =>
      rcases trySend_error ht with ⟨hq', -, -⟩ | ⟨bap', hq', -⟩
      · cases hq.symm.trans hq'
      · cases hq.symm.trans hq'
        rfl

/-- The `k`-th call returns entry `k mod n`, and every entry is handed out the same number of times,
rounded down or up. -/
structure RoundRobin (cache : List Bytes) (draws : List Draw) : Prop where
  nonempty : 1 ≤ cache.length
  entry : ∀ k d, draws[k]? = some d → d.pos = k % cache.length ∧
    ∃ bap, cache[k % cache.length]? = some bap ∧ d.entry = .ok bap
  share : ∀ j < cache.length,
    draws.countP (·.pos = j) = draws.length / cache.length ∨
      draws.countP (·.pos = j) = (draws.length + cache.length - 1) / cache.length

/-- The state after the calls `draws`. -/
structure Dealt (cache : List Bytes) (s : DNSSender) (draws : List Draw) : Prop where
  cache_eq : s.payload.querycache = cache
  it_eq : s.payload.it = draws.length % cache.length
  entry : ∀ k d, draws[k]? = some d → d.pos = k % cache.length ∧
    ∃ bap, cache[k % cache.length]? = some bap ∧ d.entry = .ok bap
  count : ∀ j, draws.countP (·.pos = j) = Nat.count (fun k => k % cache.length = j) draws.length

theorem Dealt.step {cache : List Bytes} (hne : cache ≠ []) {s : DNSSender} {draws : List Draw}
    (h : Dealt cache s draws) (e : Event) :
    Dealt cache (s.drawStep e).1 (draws ++ (s.drawStep e).2.toList) := by
  obtain ⟨rfl, hit, hentry, hcount⟩ := h
  obtain ⟨bap, hbap, hq⟩ := PayloadFile.getQuery_mod hne hit
  simp only [drawStep]
  cases hc : (s.step e).2 with
  | none =>
    have hp := payload_step_of_none hc
    simp only [Option.map_none, Option.toList_none, List.append_nil]
    exact ⟨by rw [hp], by rw [hp, hit], hentry, hcount⟩
  | some call =>
    have hp := payload_step_of_some hc hq
    simp only [Option.map_some, Option.toList_some]
    refine ⟨by rw [hp], by rw [hp, List.length_append]; rfl, ?_, ?_⟩
    · intro k d hk
      rcases Nat.lt_or_ge k draws.length with hlt | hge
      · rw [List.getElem?_append_left hlt] at hk
        exact hentry k d hk
      · rw [List.getElem?_append_right hge] at hk
        rw [List.getElem?_singleton] at hk
        split at hk
        · obtain rfl : k = draws.length := by omega
          cases hk
          exact ⟨hit, bap, hbap, by rw [hq]; rfl⟩
        · cases hk
    · intro j
      rw [List.countP_append, List.length_append, List.length_singleton, Nat.count_succ, hcount j,
        List.countP_singleton]
      simp only [hit, decide_eq_true_eq]

/-- **Round robin**: from a loaded payload on, over all threads, interleavings and load steps. -/
theorem draws_roundRobin {res : ResMkquery} {openOffline : PcapOpenOffline} {buf : Block 4096}
    {p q : PayloadFile} {filename : String} {content : Option Bytes}
    (h : PayloadFile.openQueryFile res openOffline buf p filename content = .ok q)
    {s : DNSSender} (hs : s.payload = q) (evs : List Event) :
    RoundRobin q.querycache (Run.trace drawStep s evs).2 := by
  obtain ⟨hne, hit⟩ := PayloadFile.openQueryFile_ok h
  have h0 : Dealt q.querycache s [] := by
    refine ⟨by rw [hs], ?_, fun k d hk => by simp at hk, fun j => rfl⟩
    rw [hs, hit]
    exact (Nat.zero_mod _).symm
  have hall : Dealt q.querycache (Run.trace drawStep s evs).1 (Run.trace drawStep s evs).2 :=
    Run.trace_inv_of_eq (fun _ _ e hd => hd.step hne e) h0 rfl
  have hn : 0 < q.querycache.length := List.length_pos_iff.2 hne
  refine ⟨hn, hall.entry, ?_⟩
  intro j hj
  rw [hall.count j]
  exact Turns.count_mod_floor_or_ceil hn hj _

/-- A resolver that compiles every name to a query of 17 zero bytes. -/
def zeroResolver : ResMkquery := fun _ _ _ => ⟨17, List.replicate 17 0, []⟩

/-- Two queries. -/
def twoQueries : PayloadFile := ⟨2, [List.replicate 17 0, List.replicate 17 0], 0, false⟩

/-- Two running threads on these queries. -/
def twoThreads : DNSSender :=
  let t := (DNSSenderThread.new (.zero 4096)).setDestination ⟨0x0a000001⟩ 53
  { DNSSender.new with payload := twoQueries, threadpool := [⟨t, .running⟩, ⟨t, .running⟩] }

theorem draws_roundRobin_two_threads : RoundRobin twoQueries.querycache
    (Run.trace drawStep twoThreads
      [.act 1 (.pass (passOf (-1) 1)), .act 0 (.pass (passOf (-1) 1)),
        .act 1 (.pass (passOf (-1) 1))]).2 := by
  have h : PayloadFile.openQueryFile zeroResolver (fun _ => .error "") (.zero 4096) .new "queries"
      (some (ascii "a A\nb A\n")) = .ok twoQueries := by decide +kernel
  exact draws_roundRobin h rfl _

end DNSSender

end Dnsmeter
