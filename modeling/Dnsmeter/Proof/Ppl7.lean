import Dnsmeter.Lib.Decimal
import Dnsmeter.Lib.Lines
import Dnsmeter.Ppl7

/-!
# What the text functions of ppl7 return

* `getsAll_eq`: the calls of `gets` deliver the lines of a file one after the other, in pieces.
* `trim_eq`, `instr_eq`, `strTok_word`: a text without the blanks around it, the place of a character,
  the tokens between runs of blanks.
-/

namespace Dnsmeter

open Lines Decimal

/-! ## `File::gets` -/

theorem gets_body {body : Bytes} (h : 10 ∉ body) (num : Nat) (tail : Bytes) :
    gets num (body ++ tail) = if num ≤ body.length then (body.take num, body.drop num ++ tail) else
      (body ++ (gets (num - body.length) tail).1, (gets (num - body.length) tail).2) := by
  induction body generalizing num with
  | nil =>
    cases num with
    | zero => rfl
    | succ num => rfl
  | cons b body ih =>
    obtain ⟨hb, hbody⟩ := not_or.1 (mt List.mem_cons.2 h)
    cases num with
    | zero => rfl
    | succ num =>
      rw [List.cons_append, gets, if_neg (Ne.symm hb), ih hbody]
      simp only [List.length_cons, Nat.add_le_add_iff_right, Nat.add_sub_add_right]
      split <;> rfl

theorem getsLoop_succ {file : Bytes} (h : file ≠ []) (num fuel : Nat) :
    getsLoop num (fuel + 1) file = (gets num file).1 :: getsLoop num fuel (gets num file).2 := by
  cases file with
  | nil => exact absurd rfl h
  | cons b file => rfl

theorem flatMap_pieces_last {num : Nat} (hnum : 0 < num) {body : Bytes} (h : 10 ∉ body) :
    (lines 10 body).flatMap (pieces num) = pieces num body := by
  rcases eq_or_ne body [] with rfl | hne
  · rw [pieces_nil hnum]
    rfl
  · rw [lines_last h hne, List.flatMap_singleton]

/-- **What `gets` delivers**: the lines of the file one after the other, each in pieces of at most
`num` bytes. -/
theorem getsLoop_eq {num : Nat} (hnum : 0 < num) : ∀ {fuel : Nat} {file : Bytes},
    file.length ≤ fuel → getsLoop num fuel file = (lines 10 file).flatMap (pieces num)
  | 0, file, hf => by
    rw [List.length_eq_zero_iff.1 (Nat.le_zero.1 hf)]
    rfl
  | fuel + 1, file, hf => by
    rcases cases_first 10 file with rfl | ⟨body, rest, hbody, rfl⟩ | ⟨hne, hbody⟩
    · rfl
    · rw [List.length_append, List.length_cons] at hf
      rw [getsLoop_succ (by simp), gets_body hbody, lines_cons hbody, List.flatMap_cons]
      by_cases hlong : num ≤ body.length
      · -- the rest of the line stays for the next call
        have hdrop : 10 ∉ body.drop num := fun h => hbody (List.mem_of_mem_drop h)
        have hlen : (body.drop num ++ 10 :: rest).length ≤ fuel := by
          rw [List.length_append, List.length_drop, List.length_cons]
          omega
        have ih := getsLoop_eq hnum hlen
        rw [lines_cons hdrop, List.flatMap_cons] at ih
        have hstep : pieces num (body ++ [10]) =
            body.take num :: pieces num (body.drop num ++ [10]) := by
          rw [pieces_step hnum (by simp), List.take_append_of_le_length hlong,
            List.drop_append_of_le_length hlong]
        rw [if_pos hlong, ih, hstep]
        rfl
      · obtain ⟨k, hk⟩ : ∃ k, num - body.length = k + 1 := ⟨num - body.length - 1, by omega⟩
        rw [if_neg hlong, hk, pieces_of_le hnum (by simp) (by simp; omega)]
        simp only [gets, if_true, List.singleton_append]
        rw [getsLoop_eq hnum (by omega)]
    · have hpos : 0 < file.length := List.length_pos_iff.2 hne
      have hgets := gets_body hbody num []
      rw [List.append_nil] at hgets
      rw [getsLoop_succ hne, flatMap_pieces_last hnum hbody, hgets]
      by_cases hlong : num ≤ file.length
      · have hdrop : 10 ∉ file.drop num := fun h => hbody (List.mem_of_mem_drop h)
        rw [if_pos hlong, pieces_step hnum hne, List.append_nil]
        dsimp only
        rw [getsLoop_eq hnum (by rw [List.length_drop]; omega), flatMap_pieces_last hnum hdrop]
      · obtain ⟨k, hk⟩ : ∃ k, num - file.length = k + 1 := ⟨num - file.length - 1, by omega⟩
        rw [if_neg hlong, hk, pieces_of_le hnum hne (by omega)]
        simp only [gets, List.append_nil]
        rw [getsLoop_eq hnum (Nat.zero_le fuel)]
        rfl

theorem getsAll_eq {num : Nat} (hnum : 0 < num) (file : Bytes) :
    getsAll num file = (lines 10 file).flatMap (pieces num) :=
  getsLoop_eq hnum (Nat.le_refl _)

/-! ## Blanks around a text -/

def isBlank (b : UInt8) : Bool := b = 32 ∨ b = 9 ∨ b = 10 ∨ b = 13

theorem trim_def (s : Bytes) : trim s = ((s.dropWhile isBlank).reverse.dropWhile isBlank).reverse := rfl

theorem mem_of_mem_trim {s : Bytes} {b : UInt8} (h : b ∈ trim s) : b ∈ s := by
  rw [trim_def, List.mem_reverse] at h
  have h1 := (List.dropWhile_sublist isBlank).mem h
  exact (List.dropWhile_sublist isBlank).mem (List.mem_reverse.1 h1)

/-- **The text between blanks.** -/
theorem trim_eq {before core behind : Bytes} (hb : ∀ b ∈ before, isBlank b = true)
    (hne : core ≠ []) (hhead : isBlank (core.head hne) = false)
    (hlast : isBlank (core.getLast hne) = false) (ha : ∀ b ∈ behind, isBlank b = true) :
    trim (before ++ (core ++ behind)) = core := by
  have hfront : (core ++ behind).dropWhile isBlank = core ++ behind := by
    obtain ⟨c, cs, rfl⟩ := List.exists_cons_of_ne_nil hne
    exact List.dropWhile_cons_of_neg (by rw [Bool.not_eq_true]; exact hhead)
  have hback : core.reverse.dropWhile isBlank = core.reverse := by
    have hlast' : core.reverse.head (by simpa using hne) = core.getLast hne := by simp
    obtain ⟨c, cs, hc⟩ := List.exists_cons_of_ne_nil (show core.reverse ≠ [] by simpa using hne)
    simp only [hc, List.head_cons] at hlast'
    rw [hc]
    exact List.dropWhile_cons_of_neg (by rw [Bool.not_eq_true, hlast']; exact hlast)
  rw [trim_def, List.dropWhile_append_of_pos hb, hfront, List.reverse_append,
    List.dropWhile_append_of_pos (by simpa using ha), hback, List.reverse_reverse]

/-! ## Places and tokens -/

theorem instr_eq {name : Bytes} {c : UInt8} (h : c ∉ name) (rest : Bytes) :
    instr (name ++ c :: rest) c = name.length := by
  have hidx : (name ++ c :: rest).idxOf? c = some name.length := by
    refine List.idxOf?_eq_some_iff.2 ⟨by simp, by simp, fun j hj heq => ?_⟩
    rw [List.getElem_append_left hj] at heq
    exact h (heq ▸ List.getElem_mem hj)
  rw [instr, hidx]

theorem instr_of_not_mem {s : Bytes} {c : UInt8} (h : c ∉ s) : instr s c = -1 := by
  rw [instr, List.idxOf?_eq_none_iff.2 h]

/-- A blank before the first token. -/
theorem strTok_blank (s : Bytes) : strTok (32 :: s) = strTok s := by
  have hnil : (32 : UInt8) ∉ ([] : Bytes) := List.not_mem_nil
  have h := List.splitOn_append_cons_self_of_not_mem hnil s
  rw [List.nil_append] at h
  rw [strTok, h, List.filter_cons_of_neg (by simp), strTok]

theorem strTok_blanks (n : Nat) (s : Bytes) : strTok (List.replicate n 32 ++ s) = strTok s := by
  induction n with
  | zero => rfl
  | succ n ih =>
    rw [List.replicate_succ, List.cons_append, strTok_blank, ih]

/-- A token with a blank behind it. -/
theorem strTok_word {word : Bytes} (h : 32 ∉ word) (hne : word ≠ []) (s : Bytes) :
    strTok (word ++ 32 :: s) = word :: strTok s := by
  rw [strTok, List.splitOn_append_cons_self_of_not_mem h, List.filter_cons_of_pos (by simpa using hne),
    strTok]

theorem strTok_last {word : Bytes} (h : 32 ∉ word) (hne : word ≠ []) : strTok word = [word] := by
  rw [strTok, List.splitOn_eq_singleton h, List.filter_cons_of_pos (by simpa using hne)]
  rfl

theorem toUnsignedLong_number {t : Bytes} (h : IsNumber t) (hlt : value t < 2 ^ 64) :
    toUnsignedLong t = .ofNat (value t) := by
  simp only [toUnsignedLong, scan_number h]
  rw [value] at hlt ⊢
  rw [Nat.min_eq_left (by omega)]

end Dnsmeter
