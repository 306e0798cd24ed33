import Mathlib.Algebra.GroupWithZero.Nat
import Mathlib.Algebra.Order.BigOperators.Group.List
import Mathlib.Algebra.Order.Group.Nat
import Mathlib.Logic.Function.Basic

/-!
# Snapshots of growing counters

Counters `now : ι → Nat` grow while a reader goes through them in a fixed `order`, one read after the
other, and adds each value to one of several fields. The fields it ends with are those of no single
moment, but they still grow from one snapshot to the next: every counter was read later than by the
snapshot before.

* `Reading`: a snapshot under way. It is kept when the counters grow (`Reading.grow`) and by every
  read (`Reading.read`), and at its end the next one can begin (`Reading.again`).
* `total_le_total`: the order of two families of values is that of their fields.
-/

namespace Snapshot

variable {ι κ : Type} [DecidableEq κ]

/-- What the values of the counters in `l` add up to in the field `k`. -/
def total (field : ι → Option κ) (value : ι → Nat) (k : κ) (l : List ι) : Nat :=
  ((l.filter (field · = some k)).map value).sum

section
variable {field : ι → Option κ} {value : ι → Nat} {k : κ}

@[simp] theorem total_nil : total field value k [] = 0 := rfl

theorem total_cons (i : ι) (l : List ι) : total field value k (i :: l) =
    (if field i = some k then value i else 0) + total field value k l := by
  by_cases h : field i = some k <;> simp [total, h]

theorem total_append (l m : List ι) :
    total field value k (l ++ m) = total field value k l + total field value k m := by
  simp [total]

theorem total_flatMap {α : Type} (f : α → List ι) (l : List α) :
    total field value k (l.flatMap f) = (l.map fun a => total field value k (f a)).sum := by
  induction l with
  | nil => rfl
  | cons a l ih => rw [List.flatMap_cons, total_append, ih, List.map_cons, List.sum_cons]

theorem total_eq_zero {l : List ι} (h : ∀ i ∈ l, field i ≠ some k) : total field value k l = 0 := by
  have hnone : l.filter (field · = some k) = [] :=
    List.filter_eq_nil_iff.2 fun i hi => by simpa using h i hi
  rw [total, hnone]
  rfl

@[simp] theorem total_zero (l : List ι) : total field (fun _ => 0) k l = 0 := by
  simp [total]

theorem total_congr {value' : ι → Nat} {l : List ι} (h : ∀ i ∈ l, value i = value' i) :
    total field value k l = total field value' k l := by
  have hmap : (l.filter (field · = some k)).map value = (l.filter (field · = some k)).map value' :=
    List.map_congr_left fun i hi => h i (List.mem_of_mem_filter hi)
  rw [total, total, hmap]

theorem total_le_total (field : ι → Option κ) {value' : ι → Nat} (h : ∀ i, value i ≤ value' i)
    (k : κ) (l : List ι) : total field value k l ≤ total field value' k l :=
  List.sum_le_sum fun i _ => h i

/-- A counter that was not read before is read. -/
theorem total_update [DecidableEq ι] {done : List ι} {i : ι} (hi : i ∉ done) (x : Nat) :
    total field (Function.update value i x) k (done ++ [i]) =
      total field value k done + if field i = some k then x else 0 := by
  have hdone : total field (Function.update value i x) k done = total field value k done := by
    apply total_congr
    intro j hj
    have hne : j ≠ i := fun h => hi (h ▸ hj)
    exact Function.update_of_ne hne _ _
  rw [total_append, hdone, total_cons, Function.update_self, total_nil, Nat.add_zero]

end

/-- A snapshot under way: the reads `done` are behind it, `todo` before it. `prev` are the values the
last snapshot has read; `cur` are those this one has read, and the last one's where it has not. -/
structure Reading (order : List ι) (now prev cur : ι → Nat) (done todo : List ι) : Prop where
  split : order = done ++ todo
  prev_le : ∀ i, prev i ≤ cur i
  cur_le : ∀ i, cur i ≤ now i

namespace Reading

variable {order done todo : List ι} {now now' prev cur : ι → Nat}

theorem first (order : List ι) (now : ι → Nat) :
    Reading order now (fun _ => 0) (fun _ => 0) [] order :=
  ⟨rfl, fun _ => Nat.le_refl 0, fun i => Nat.zero_le (now i)⟩

theorem grow (h : Reading order now prev cur done todo) (hle : ∀ i, now i ≤ now' i) :
    Reading order now' prev cur done todo :=
  ⟨h.split, h.prev_le, fun i => (h.cur_le i).trans (hle i)⟩

theorem read [DecidableEq ι] {i : ι} (h : Reading order now prev cur done (i :: todo)) :
    Reading order now prev (Function.update cur i (now i)) (done ++ [i]) todo := by
  refine ⟨by rw [h.split, List.append_assoc]; rfl, ?_, ?_⟩
  · intro j
    by_cases hj : j = i
    · rw [hj, Function.update_self]
      exact (h.prev_le i).trans (h.cur_le i)
    · rw [Function.update_of_ne hj]
      exact h.prev_le j
  · intro j
    by_cases hj : j = i
    · rw [hj, Function.update_self]
    · rw [Function.update_of_ne hj]
      exact h.cur_le j

theorem again (h : Reading order now prev cur done []) : Reading order now cur cur [] order :=
  ⟨rfl, fun _ => Nat.le_refl _, h.cur_le⟩

theorem not_mem_done {i : ι} (h : Reading order now prev cur done (i :: todo))
    (hnodup : order.Nodup) : i ∉ done := by
  rw [h.split] at hnodup
  intro hi
  exact (List.nodup_append.1 hnodup).2.2 i hi i List.mem_cons_self rfl

end Reading

end Snapshot
