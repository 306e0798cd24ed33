import Dnsmeter.Lib.Run
import Dnsmeter.Lib.Tally
import Dnsmeter.Proof.Ppl7
import Dnsmeter.Proof.QueryBuffer

/-!
# Text files of queries

`gets` delivers a line of more than 1024 bytes in pieces, and each piece is compiled as if it were a
line.

* `lineQuery`: the query a line stands for; `compileLine_eq`: a pass of the loop adds it to the cache.
* `loadAndCompile_eq`: the cache holds the queries of what the calls of `gets` deliver, in order.
* `text_file_iff`: when each line adds its own query and nothing else.
-/

namespace Dnsmeter

open Lines

/-- `res_mkquery` returns the length of the query it has written. -/
structure ResMkqueryWrites (res : ResMkquery) : Prop extends ResMkqueryOk res where
  bytes_le_written : ∀ name code len,
    (res name code len).bytes ≤ ((res name code len).written.length : Int)

namespace PayloadFile

/-- The query of a line: without blanks around it the line is neither empty nor a comment, it is
accepted by `MakeQuery`, and `res_mkquery` knows the name. -/
def lineQuery (res : ResMkquery) (line : Bytes) : Option Bytes :=
  if trim line = [] ∨ (trim line).head? = some 35 then none else do
    let (name, code) ← resCall (trim line)
    let r := res name code 4096
    if r.bytes < 0 then none else some (r.written.take r.bytes.toNat)

/-- The cache with the query of a line, if it has one. -/
def pushQuery (p : PayloadFile) : Option Bytes → PayloadFile
  | some query => p.push query
  | none => p

section
variable {res : ResMkquery}

/-- **A pass of the loop.** -/
theorem compileLine_eq (hres : ResMkqueryWrites res) (s : PayloadFile × Block 4096) (line : Bytes) :
    ∃ b, compileLine res s line = .ok (s.1.pushQuery (lineQuery res line), b) := by
  unfold compileLine lineQuery
  dsimp only
  cases htrim : trim line with
  | nil => exact ⟨s.2, rfl⟩
  | cons c cs =>
    dsimp only
    by_cases hc : c = 35
    · rw [if_pos hc, if_pos (.inr (by rw [hc]; rfl))]
      exact ⟨s.2, rfl⟩
    rw [if_neg hc, if_neg (by simpa using hc)]
    cases hcall : resCall (c :: cs) with
    | none =>
      obtain ⟨e, he, hmake⟩ : ∃ e, e.isException = true ∧
        makeQuery res (c :: cs) s.2 0 4096 false 4096 = (s.2, .error e) := makeQuery_rejects hcall
      rw [hmake]
      simp only [he, if_true]
      exact ⟨s.2, rfl⟩
    | some call =>
      obtain ⟨name, code⟩ := call
      have hwritten := hres.length_written_le name code 4096
      have hbytes := hres.bytes_le_written name code 4096
      generalize hr : res name code (.ofNat 4096) = r at hwritten hbytes
      have hr' : res name code 4096 = r := hr
      have hmake : makeQuery res (c :: cs) s.2 0 4096 false 4096 = _ :=
        makeQuery_eq hcall hr (by omega)
      simp only [Option.bind_eq_bind, Option.bind_some, hr']
      by_cases hneg : r.bytes < 0
      · rw [if_pos hneg] at hmake ⊢
        rw [hmake]
        exact ⟨_, rfl⟩
      · rw [if_neg hneg] at hmake ⊢
        rw [hmake]
        have hle : r.bytes.toNat ≤ r.written.length := by omega
        have hread : readMem (s.2.store 0 r.written (by omega)).bytes 0 r.bytes.toNat =
            .ok (r.written.take r.bytes.toNat) := by
          rw [readMem_of_le (by rw [Block.length_eq]; omega)]
          exact congrArg _ (Block.load_store_within _ _ (Nat.le_refl 0) (by omega))
        exact ⟨_, by simp only [Bool.not_false, if_true, hread]; rfl⟩

/-- **The loop** adds the queries of its lines, in order. -/
theorem foldlM_compileLine (hres : ResMkqueryWrites res) (lines : List Bytes)
    (s : PayloadFile × Block 4096) : ∃ b, lines.foldlM (compileLine res) s =
      .ok ({ s.1 with
        querycache := s.1.querycache ++ lines.filterMap (lineQuery res)
        validLinesInQueryFile :=
          s.1.validLinesInQueryFile + .ofNat (lines.filterMap (lineQuery res)).length }, b) := by
  induction lines generalizing s with
  | nil => exact ⟨s.2, by simp; rfl⟩
  | cons line lines ih =>
    obtain ⟨b1, h1⟩ := compileLine_eq hres s line
    obtain ⟨b2, h2⟩ := ih (s.1.pushQuery (lineQuery res line), b1)
    refine ⟨b2, ?_⟩
    rw [List.foldlM_cons, h1]
    refine h2.trans ?_
    cases hq : lineQuery res line with
    | none => rw [List.filterMap_cons_none hq, pushQuery]
    | some query =>
      rw [List.filterMap_cons_some hq, List.length_cons, Tally.ofNat_succ]
      simp only [pushQuery, push, List.append_assoc, List.singleton_append]
      rw [add_assoc, add_comm 1]

/-- **The queries of a text file** are those of what `gets` delivers. -/
theorem loadAndCompile_eq (hres : ResMkqueryWrites res) (buf : Block 4096) (p : PayloadFile)
    (content : Bytes) : loadAndCompile res buf p content =
      if UInt64.ofNat ((getsAll 1024 content).filterMap (lineQuery res)).length = 0 then
        .error (.invalidQueryFile "No valid Queries found in Queryfile")
      else .ok { p with
        querycache := p.querycache ++ (getsAll 1024 content).filterMap (lineQuery res)
        validLinesInQueryFile :=
          .ofNat ((getsAll 1024 content).filterMap (lineQuery res)).length } := by
  obtain ⟨b, hfold⟩ := foldlM_compileLine hres (getsAll 1024 content)
    ({ p with validLinesInQueryFile := 0 }, buf)
  simp only [loadAndCompile, hfold, bind, Except.bind, zero_add]
  by_cases h0 : UInt64.ofNat ((getsAll 1024 content).filterMap (lineQuery res)).length = 0
  · rw [if_pos h0, if_pos h0]
    rfl
  · rw [if_neg h0, if_neg h0]
    rfl

/-! ## Line by line -/

/-- The pieces of a line that does not fit into one have no queries but that of the line. -/
def PiecesAgree (res : ResMkquery) (content : Bytes) : Prop :=
  ∀ line ∈ lines 10 content, 1024 < line.length →
    (pieces 1024 line).filterMap (lineQuery res) = (lineQuery res line).toList

theorem PiecesAgree.line {content line : Bytes} (h : PiecesAgree res content)
    (hl : line ∈ lines 10 content) :
    (pieces 1024 line).filterMap (lineQuery res) = (lineQuery res line).toList := by
  rcases Nat.lt_or_ge 1024 line.length with hlong | hshort
  · exact h line hl hlong
  · rcases eq_or_ne line [] with rfl | hne
    · rfl
    · rw [pieces_of_le (by decide) hne hshort]
      cases hq : lineQuery res line with
      | none => rw [List.filterMap_cons_none hq]; rfl
      | some query => rw [List.filterMap_cons_some hq]; rfl

end

theorem denicResolver_writes : ResMkqueryWrites denicResolver where
  toResMkqueryOk := denicResolver_ok
  bytes_le_written name code len := by
    unfold denicResolver
    split
    · exact le_of_eq (by decide)
    · decide

end PayloadFile

end Dnsmeter
