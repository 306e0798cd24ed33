import Mathlib.Data.List.Induction

/-!
# A log cut into sections

Some entries of a log are marks. `since mark l` is the section behind the last mark of `l`, and
`upTo mark l` what is before it, that mark included. A log grows at its end: `since_concat` and
`upTo_concat` say what an entry does to both.
-/

namespace Sections

variable {β : Type} (mark : β → Bool)

/-- The log up to its last mark, and the section behind it. -/
def split (l : List β) : List β × List β :=
  l.foldl (fun s b => if mark b then (s.1 ++ s.2 ++ [b], []) else (s.1, s.2 ++ [b])) ([], [])

def upTo (l : List β) : List β := (split mark l).1

def since (l : List β) : List β := (split mark l).2

variable {mark} {b : β} {l m : List β}

theorem split_concat (l : List β) (b : β) : split mark (l ++ [b]) =
    if mark b then (upTo mark l ++ since mark l ++ [b], []) else (upTo mark l, since mark l ++ [b]) := by
  rw [split, List.foldl_append]
  rfl

theorem since_concat (l : List β) (b : β) :
    since mark (l ++ [b]) = if mark b then [] else since mark l ++ [b] := by
  rw [since, split_concat]
  split <;> rfl

theorem upTo_concat (l : List β) (b : β) : upTo mark (l ++ [b]) =
    if mark b then upTo mark l ++ since mark l ++ [b] else upTo mark l := by
  rw [upTo, split_concat]
  split <;> rfl

theorem since_mark (l : List β) (h : mark b = true) : since mark (l ++ [b]) = [] := by
  rw [since_concat, if_pos h]

theorem since_entry (l : List β) (h : mark b = false) :
    since mark (l ++ [b]) = since mark l ++ [b] := by
  rw [since_concat, if_neg (by simp [h])]

theorem upTo_entry (l : List β) (h : mark b = false) : upTo mark (l ++ [b]) = upTo mark l := by
  rw [upTo_concat, if_neg (by simp [h])]

theorem upTo_append_since (l : List β) : upTo mark l ++ since mark l = l := by
  induction l using List.reverseRecOn with
  | nil => rfl
  | append_singleton l b ih =>
    rw [upTo_concat, since_concat]
    split
    · rw [ih, List.append_nil]
    · rw [← List.append_assoc, ih]

end Sections
