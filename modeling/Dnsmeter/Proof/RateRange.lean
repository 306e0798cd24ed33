import Dnsmeter.Proof.Parameters
import Dnsmeter.Lib.Decimal

/-!
# The range of load steps

`-r first-last,step` is expanded by a loop over `ppluint64`: `i += step` wraps around, and a step of
0 does not move `i` at all.

* `rangeRates_of_lt`: as long as nothing wraps, the loop ends and returns the values of the range.
* `rangeRates_zero`, `lt_length_rangeRates`: with the step 0 it never ends, and after a wrap it goes
  on with small values, so that the list gets too long if it ends at all.
* `query_rates_iff`: the ranges that are expanded to their values.
-/

namespace Dnsmeter

open Decimal

/-- A number as `addf("%llu", i)` prints it. -/
def rendering (v : Nat) : Bytes := ascii (toString v)

namespace Settings

/-! ## The loop -/

theorem rangeRates_succ (last step i : UInt64) (fuel : Nat) (h : i ≤ last) :
    rangeRates last step (fuel + 1) i =
      (rangeRates last step fuel (i + step)).map (rendering i.toNat :: ·) := by
  rw [rangeRates, if_pos h]
  cases rangeRates last step fuel (i + step) with
  | none => rfl
  | some rest => rfl

theorem rangeRates_of_gt (last step i : UInt64) (fuel : Nat) (h : last < i) :
    rangeRates last step (fuel + 1) i = some [] := by
  rw [rangeRates, if_neg (UInt64.not_le.2 h)]

/-- `n` values up to `last` and one beyond it, none of which wraps. -/
theorem rangeRates_of_lt {last step : UInt64} {n : Nat} : ∀ {i fuel : Nat},
    (∀ k < n, i + k * step.toNat ≤ last.toNat) → last.toNat < i + n * step.toNat →
    i + n * step.toNat < 2 ^ 64 → n + 1 ≤ fuel →
      rangeRates last step fuel (.ofNat i) =
        some ((List.range n).map fun k => rendering (i + k * step.toNat)) := by
  induction n with
  | zero =>
    intro i fuel _ hgt hlt hf
    obtain ⟨f, rfl⟩ : ∃ f, fuel = f + 1 := ⟨fuel - 1, by omega⟩
    apply rangeRates_of_gt
    rw [UInt64.lt_iff_toNat_lt, Tally.toNat_ofNat (by omega)]
    omega
  | succ n ih =>
    intro i fuel hle hgt hlt hf
    obtain ⟨f, rfl⟩ : ∃ f, fuel = f + 1 := ⟨fuel - 1, by omega⟩
    have hmul : ∀ k, (k + 1) * step.toNat = step.toNat + k * step.toNat := by
      intro k
      rw [Nat.add_mul, Nat.one_mul, Nat.add_comm]
    rw [hmul] at hgt hlt
    have hi : (UInt64.ofNat i).toNat = i := Tally.toNat_ofNat (by omega)
    have hfirst : UInt64.ofNat i ≤ last := by
      have := hle 0 (Nat.succ_pos n)
      rw [UInt64.le_iff_toNat_le, hi]
      omega
    have hnext : UInt64.ofNat i + step = .ofNat (i + step.toNat) := by
      rw [UInt64.ofNat_add, UInt64.ofNat_toNat]
    have hrest : rangeRates last step f (.ofNat (i + step.toNat)) =
        some ((List.range n).map fun k => rendering (i + step.toNat + k * step.toNat)) := by
      refine ih (fun k hk => ?_) (by omega) (by omega) (by omega)
      have := hle (k + 1) (by omega)
      rw [hmul] at this
      omega
    rw [rangeRates_succ last step _ f hfirst, hnext, hrest, Option.map_some, hi, List.range_succ_eq_map,
      List.map_cons, List.map_map]
    refine congrArg some (congrArg₂ List.cons (by rw [Nat.zero_mul, Nat.add_zero]) ?_)
    apply List.map_congr_left
    intro k _
    show rendering (i + step.toNat + k * step.toNat) = rendering (i + (k + 1) * step.toNat)
    rw [hmul, Nat.add_assoc]

/-- With the step 0 the loop never ends. -/
theorem rangeRates_zero {last i : UInt64} (h : i ≤ last) : ∀ fuel, rangeRates last 0 fuel i = none
  | 0 => rfl
  | fuel + 1 => by
    rw [rangeRates_succ last 0 i fuel h, add_zero, rangeRates_zero h fuel]
    rfl

/-- The loop puts out a value for each pass whose `i` is not beyond `last`, wrapped or not. -/
theorem lt_length_rangeRates {last step : UInt64} {n : Nat} : ∀ {i : UInt64} {fuel : Nat}
    {rates : List Bytes}, (∀ k ≤ n, i + .ofNat k * step ≤ last) →
      rangeRates last step fuel i = some rates → n < rates.length := by
  induction n with
  | zero =>
    intro i fuel rates hle h
    have hfirst : i ≤ last := by simpa using hle 0 (Nat.le_refl 0)
    cases fuel with
    | zero => cases h
    | succ fuel =>
      rw [rangeRates_succ last step i fuel hfirst] at h
      obtain ⟨rest, -, rfl⟩ := Option.map_eq_some_iff.1 h
      exact Nat.succ_pos _
  | succ n ih =>
    intro i fuel rates hle h
    have hfirst : i ≤ last := by simpa using hle 0 (Nat.zero_le _)
    cases fuel with
    | zero => cases h
    | succ fuel =>
      rw [rangeRates_succ last step i fuel hfirst] at h
      obtain ⟨rest, hrest, rfl⟩ := Option.map_eq_some_iff.1 h
      refine Nat.succ_lt_succ (ih (fun k hk => ?_) hrest)
      have hk' := hle (k + 1) (by omega)
      rw [Tally.ofNat_succ, add_mul, one_mul, add_comm (UInt64.ofNat k * step)] at hk'
      rw [add_assoc]
      exact hk'

/-! ## The values of a range -/

/-- The rates are the values `first`, `first + step`, ... up to the last one that is not beyond `last`,
in increasing order. -/
def IsRange (first last step : Nat) (rates : List Bytes) : Prop :=
  ∃ vs : List Nat, rates = vs.map rendering ∧ vs.Pairwise (· < ·) ∧
    ∀ v, v ∈ vs ↔ v ≤ last ∧ ∃ k, v = first + k * step

/-- The number of values of a range that is not empty. -/
def rangeLength (first last step : Nat) : Nat := (last - first) / step + 1

section
variable {first last step : Nat}

theorem le_iff_lt_rangeLength (hle : first ≤ last) (hstep : 1 ≤ step) (k : Nat) :
    first + k * step ≤ last ↔ k < rangeLength first last step := by
  rw [rangeLength, Nat.lt_succ_iff, Nat.le_div_iff_mul_le hstep]
  omega

theorem isRange_values (hle : first ≤ last) (hstep : 1 ≤ step) : IsRange first last step
    ((List.range (rangeLength first last step)).map fun k => rendering (first + k * step)) := by
  refine ⟨(List.range (rangeLength first last step)).map fun k => first + k * step, ?_, ?_, ?_⟩
  · rw [List.map_map]
    rfl
  · refine List.pairwise_map.2 (List.pairwise_lt_range.imp ?_)
    intro j k hjk
    have := Nat.mul_lt_mul_of_pos_right hjk hstep
    omega
  · intro v
    simp only [List.mem_map, List.mem_range, ← le_iff_lt_rangeLength hle hstep]
    constructor
    · rintro ⟨k, hk, rfl⟩
      exact ⟨hk, k, rfl⟩
    · rintro ⟨hv, k, rfl⟩
      exact ⟨k, hv, rfl⟩

/-- No list of the values is longer. -/
theorem length_le_of_isRange (hle : first ≤ last) (hstep : 1 ≤ step) {rates : List Bytes}
    (h : IsRange first last step rates) : rates.length ≤ rangeLength first last step := by
  obtain ⟨vs, rfl, hsorted, hmem⟩ := h
  have hsub : vs ⊆ (List.range (rangeLength first last step)).map fun k => first + k * step := by
    intro v hv
    obtain ⟨hv, k, rfl⟩ := (hmem v).1 hv
    exact List.mem_map.2 ⟨k, List.mem_range.2 ((le_iff_lt_rangeLength hle hstep k).1 hv), rfl⟩
  have hnodup : vs.Nodup := hsorted.imp fun h => Nat.ne_of_lt h
  simpa using (hnodup.subperm hsub).length_le

/-- The empty range. -/
theorem isRange_nil (hgt : last < first) : IsRange first last step [] := by
  refine ⟨[], rfl, .nil, fun v => ⟨fun h => by simp at h, ?_⟩⟩
  rintro ⟨hv, k, rfl⟩
  omega

end

/-- A range whose first value beyond the end wraps: that value is small again. -/
theorem wrapped_le {a b s : Nat} (hle : a ≤ b) (hb : b < 2 ^ 64) (hs : s < 2 ^ 64) (hpos : 1 ≤ s)
    (hwrap : 2 ^ 64 ≤ a + rangeLength a b s * s) {k : Nat} (hk : k ≤ rangeLength a b s) :
    (UInt64.ofNat a + .ofNat k * .ofNat s) ≤ UInt64.ofNat b := by
  rw [UInt64.le_iff_toNat_le, ← UInt64.ofNat_mul, ← UInt64.ofNat_add, UInt64.toNat_ofNat',
    Tally.toNat_ofNat hb]
  rcases Nat.lt_or_eq_of_le hk with hlt | rfl
  · have := (le_iff_lt_rangeLength hle hpos k).2 hlt
    rw [Nat.mod_eq_of_lt (by omega)]
    exact this
  · have hlast : a + (b - a) / s * s ≤ b := (le_iff_lt_rangeLength hle hpos _).2 (Nat.lt_succ_self _)
    rw [rangeLength, Nat.add_mul, Nat.one_mul] at hwrap ⊢
    omega

theorem isRange_rangeRates_iff {a b s : Nat} (ha : a < 2 ^ 64) (hb : b < 2 ^ 64) (hs : s < 2 ^ 64) :
    (∃ n rates, IsRange a b s rates ∧
      ∀ fuel ≥ n, rangeRates (.ofNat b) (.ofNat s) fuel (.ofNat a) = some rates) ↔
    b < a ∨ 1 ≤ s ∧ a + rangeLength a b s * s < 2 ^ 64 := by
  have hbn := Tally.toNat_ofNat hb
  have hsn := Tally.toNat_ofNat hs
  have han := Tally.toNat_ofNat ha
  constructor
  · rintro ⟨n, rates, hrange, hrates⟩
    have hloop := hrates n (Nat.le_refl n)
    by_contra hcond
    rw [not_or, not_lt] at hcond
    obtain ⟨hle, hcond⟩ := hcond
    rcases Nat.eq_zero_or_pos s with rfl | hpos
    · have hzero : rangeRates (.ofNat b) (.ofNat 0) n (.ofNat a) = none :=
        rangeRates_zero (by rw [UInt64.le_iff_toNat_le, han, hbn]; exact hle) n
      rw [hzero] at hloop
      cases hloop
    · have hwrap : 2 ^ 64 ≤ a + rangeLength a b s * s := by
        by_contra hlt
        exact hcond ⟨hpos, not_le.1 hlt⟩
      have hmany := lt_length_rangeRates (fun k hk => wrapped_le hle hb hs hpos hwrap hk) hloop
      have hfew := length_le_of_isRange hle hpos hrange
      omega
  · intro hcond
    rcases Nat.lt_or_ge b a with hgt | hle
    · refine ⟨1, [], isRange_nil hgt, fun fuel hf => ?_⟩
      obtain ⟨f, rfl⟩ : ∃ f, fuel = f + 1 := ⟨fuel - 1, by omega⟩
      apply rangeRates_of_gt
      rw [UInt64.lt_iff_toNat_lt, han, hbn]
      exact hgt
    · rcases hcond with hgt | ⟨hpos, hlt⟩
      · omega
      refine ⟨rangeLength a b s + 1, _, isRange_values hle hpos, fun fuel hf => ?_⟩
      have hbeyond := (le_iff_lt_rangeLength hle hpos (rangeLength a b s)).not.2 (Nat.lt_irrefl _)
      have hloop : rangeRates (.ofNat b) (.ofNat s) fuel (.ofNat a) = some
          ((List.range (rangeLength a b s)).map fun k => rendering (a + k * (UInt64.ofNat s).toNat)) := by
        apply rangeRates_of_lt
        · intro k hk
          rw [hsn, hbn]
          exact (le_iff_lt_rangeLength hle hpos k).2 hk
        · rw [hsn, hbn]
          exact not_le.1 hbeyond
        · rw [hsn]
          exact hlt
        · exact hf
      rw [hsn] at hloop
      exact hloop

/-! ## `getQueryRates` -/

/-- `^([0-9]+)-([0-9]+),([0-9]+)$` matches the text, with these groups. -/
structure RangeText (text first last step : Bytes) : Prop where
  text : text = first ++ [45] ++ last ++ [44] ++ step
  first : IsNumber first
  last : IsNumber last
  step : IsNumber step

/-- What the program relies on for the text: `pregMatch` finds the groups, and `toUnsignedInt64` reads
the numbers. -/
structure Reads (env : Ppl7Env) (text first last step : Bytes) : Prop where
  groups : env.pregMatch "/^([0-9]+)-([0-9]+),([0-9]+)$" text = some [text, first, last, step]
  first : env.toUnsignedInt64 first = .ofNat (value first)
  last : env.toUnsignedInt64 last = .ofNat (value last)
  step : env.toUnsignedInt64 step = .ofNat (value step)

/-- **The ranges that are expanded to their values**: those with a positive step whose first value
beyond the end does not wrap, and the empty ones. -/
theorem query_rates_iff {env : Ppl7Env} {text first last step : Bytes}
    (ht : RangeText text first last step) (henv : Reads env text first last step)
    (hfirst : value first < 2 ^ 64) (hlast : value last < 2 ^ 64) (hstep : value step < 2 ^ 64) :
    (∃ n rates, IsRange (value first) (value last) (value step) rates ∧
      ∀ fuel ≥ n, getQueryRates env fuel text = some rates) ↔
    value last < value first ∨ 1 ≤ value step ∧
      value first + rangeLength (value first) (value last) (value step) * value step < 2 ^ 64 := by
  have hne : text ≠ [] := by
    rw [ht.text]
    simp
  have hget : ∀ fuel, getQueryRates env fuel text =
      rangeRates (.ofNat (value last)) (.ofNat (value step)) fuel (.ofNat (value first)) := by
    intro fuel
    simp only [getQueryRates, if_neg hne, henv.groups, List.getD_cons_zero, List.getD_cons_succ,
      henv.first, henv.last, henv.step]
  simp only [hget]
  exact isRange_rangeRates_iff hfirst hlast hstep

/-- ppl7 with the match of a range: the texts around the first `-` and the first `,` behind it. -/
def rangeEnv : Ppl7Env :=
  { plainEnv with
    pregMatch := fun _ text => match text.splitOn 45 with
      | [first, rest] => match rest.splitOn 44 with
        | [last, step] => some [text, first, last, step]
        | _ => none
      | _ => none }

theorem query_rates_three_steps : ∃ rates n, IsRange 10 30 10 rates ∧
    ∀ fuel ≥ n, getQueryRates rangeEnv fuel (ascii "10-30,10") = some rates := by
  have ht : RangeText (ascii "10-30,10") (ascii "10") (ascii "30") (ascii "10") :=
    ⟨by decide, by decide +kernel, by decide +kernel, by decide +kernel⟩
  have henv : Reads rangeEnv (ascii "10-30,10") (ascii "10") (ascii "30") (ascii "10") :=
    ⟨by decide, by decide, by decide, by decide⟩
  obtain ⟨n, rates, hrange, hrates⟩ :=
    (query_rates_iff ht henv (by decide) (by decide) (by decide)).2 (.inr (by decide))
  exact ⟨rates, n, hrange, hrates⟩

/-- `-r 10-30,0` is accepted by the pattern, and the loop never ends. -/
theorem zero_step_never_ends : RangeText (ascii "10-30,0") (ascii "10") (ascii "30") (ascii "0") ∧
    Reads rangeEnv (ascii "10-30,0") (ascii "10") (ascii "30") (ascii "0") ∧
    ∀ fuel, getQueryRates rangeEnv fuel (ascii "10-30,0") = none := by
  refine ⟨⟨by decide, by decide +kernel, by decide +kernel, by decide +kernel⟩,
    ⟨by decide, by decide, by decide, by decide⟩, fun fuel => ?_⟩
  have hloop : getQueryRates rangeEnv fuel (ascii "10-30,0") = rangeRates 30 0 fuel 10 := rfl
  rw [hloop]
  exact rangeRates_zero (by decide) fuel

end Settings

end Dnsmeter
