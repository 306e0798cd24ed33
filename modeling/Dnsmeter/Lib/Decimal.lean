import Dnsmeter.Lib.Block
import Mathlib.Data.List.TakeWhile
import Mathlib.Data.Nat.Digits.Lemmas

/-!
# Decimal numbers in text

A number is a non-empty string of the digits `0` to `9`, `value` what it denotes. A scan of the digits
at the start of a text that is a number takes all of it (`scan_number`). `print n` is the number without
leading zeros that denotes `n` (`value_print`).
-/

namespace Decimal

def IsDigit (b : UInt8) : Prop := 48 ≤ b ∧ b ≤ 57

instance (b : UInt8) : Decidable (IsDigit b) := inferInstanceAs (Decidable (_ ∧ _))

structure IsNumber (t : Bytes) : Prop where
  ne_nil : t ≠ []
  digits : ∀ b ∈ t, IsDigit b

instance (t : Bytes) : Decidable (IsNumber t) :=
  have : Decidable (∀ b ∈ t, IsDigit b) := List.decidableBAll IsDigit t
  decidable_of_iff (t ≠ [] ∧ ∀ b ∈ t, IsDigit b) ⟨fun h => ⟨h.1, h.2⟩, fun h => ⟨h.1, h.2⟩⟩

def value (t : Bytes) : Nat := t.foldl (fun v b => 10 * v + (b.toNat - 48)) 0

theorem scan_number {t : Bytes} (h : IsNumber t) :
    (t.takeWhile fun b => 48 ≤ b ∧ b ≤ 57) = t :=
  List.takeWhile_eq_self_iff.2 fun b hb => decide_eq_true (h.digits b hb)

/-! ## Printing -/

def digit (d : Nat) : UInt8 := .ofNat (48 + d)

def print (n : Nat) : Bytes := if n = 0 then [digit 0] else ((Nat.digits 10 n).map digit).reverse

theorem toNat_digit {d : Nat} (h : d < 10) : (digit d).toNat = 48 + d := by
  rw [digit, UInt8.toNat_ofNat', Nat.mod_eq_of_lt (by omega)]

theorem isDigit_digit {d : Nat} (h : d < 10) : IsDigit (digit d) := by
  simp only [IsDigit, UInt8.le_iff_toNat_le, toNat_digit h]
  exact ⟨Nat.le_add_right 48 d, by show 48 + d ≤ 57; omega⟩

theorem isNumber_print (n : Nat) : IsNumber (print n) := by
  unfold print
  split
  · exact ⟨by simp, by simp [isDigit_digit]⟩
  · rename_i h
    refine ⟨by simpa [Nat.digits_eq_nil_iff_eq_zero] using h, ?_⟩
    intro b hb
    obtain ⟨d, hd, rfl⟩ := List.mem_map.1 (List.mem_reverse.1 hb)
    exact isDigit_digit (Nat.digits_lt_base (by decide) hd)

/-- **What is printed is read back.** -/
theorem value_print (n : Nat) : value (print n) = n := by
  unfold print
  split
  · rename_i h
    rw [h]
    rfl
  · have hvalue : ∀ ds : List Nat, (∀ d ∈ ds, d < 10) →
        value (ds.map digit).reverse = Nat.ofDigits 10 ds := by
      intro ds hds
      rw [value, List.foldl_reverse]
      induction ds with
      | nil => rfl
      | cons d ds ih =>
        obtain ⟨hd, hds⟩ := List.forall_mem_cons.1 hds
        rw [List.map_cons, List.foldr_cons, ih hds, Nat.ofDigits_cons, toNat_digit hd]
        omega
    rw [hvalue _ fun d hd => Nat.digits_lt_base (by decide) hd, Nat.ofDigits_digits]

end Decimal
