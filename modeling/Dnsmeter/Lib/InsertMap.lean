import Mathlib.Data.List.Basic

/-!
# Maps whose insert keeps the old entry

An association list with the two updates of an ordered map of the C++ library: `insert` does
nothing when the key is present, `getOrCreate` (the map's `operator[]`) creates a default entry when it is
absent.
-/

structure InsertMap (κ α : Type) where
  entries : List (κ × α)
deriving DecidableEq, Repr

namespace InsertMap

variable {κ α : Type} [DecidableEq κ]

def empty : InsertMap κ α := ⟨[]⟩

def find? (m : InsertMap κ α) (k : κ) : Option α := m.entries.lookup k

def insert (m : InsertMap κ α) (k : κ) (v : α) : InsertMap κ α :=
  match m.find? k with
  | some _ => m
  | none => ⟨m.entries ++ [(k, v)]⟩

/-- `m[k]`: the entry and the map that then has it. -/
def getOrCreate (m : InsertMap κ α) (k : κ) (default : α) : α × InsertMap κ α :=
  let m := m.insert k default
  ((m.find? k).getD default, m)

theorem lookup_append_singleton (l : List (κ × α)) (k j : κ) (v : α) :
    (l ++ [(k, v)]).lookup j = (l.lookup j).or (if j = k then some v else none) := by
  rw [List.lookup_append, List.lookup_cons, List.lookup_nil]
  by_cases h : j = k
  · simp [h]
  · simp [h, show (j == k) = false by simpa using h]

/-- The old entry stays; a new one is found under its key only. -/
theorem find?_insert (m : InsertMap κ α) (k j : κ) (v : α) :
    (m.insert k v).find? j = (m.find? j).or (if j = k then some v else none) := by
  unfold insert
  split
  · rename_i w hw
    by_cases h : j = k
    · subst h; simp [hw]
    · simp [h]
  · exact lookup_append_singleton m.entries k j v

end InsertMap
