import Dnsmeter.Proof.Checksum
import Dnsmeter.Lib.Run

/-!
# `in_cksum` in `int`

`in_cksum` adds up the words of a string as the host loads them in an `int`, folds the carries twice
and cuts the complement down to an `unsigned short`. `inCksum` does so in unbounded numbers; here every
addition is checked.

* `inCksumIntLoop_eq`, `folds_eq`, `inCksumInt_eq`: on a string of the size of the buffers nothing
  overflows.
* `in_cksum_rfc1071`: stored in the host's order, the result is the complement of the one's complement
  sum of the words in network order.
-/

namespace Dnsmeter

open OnesComp

/-- The result of an addition of `int`s. -/
def addInt (a b : Int) : Except Abort Int :=
  if -2 ^ 31 ≤ a + b ∧ a + b < 2 ^ 31 then .ok (a + b) else .error .signedOverflow

/-- The loop of `in_cksum` with its `int sum`. -/
def inCksumIntLoop : Bytes → Int → Except Abort Int
  | lo :: hi :: w, sum => do inCksumIntLoop w (← addInt sum (lo.toNat + 256 * hi.toNat : Nat))
  | [b], sum => addInt sum b.toNat
  | [], sum => .ok sum

/-- `in_cksum`: `sum >> 16` and `sum & 0xffff` of an `int`, `~sum` cut to 16 bits. -/
def inCksumInt (w : Bytes) : Except Abort UInt16 := do
  let sum ← inCksumIntLoop w 0
  let sum ← addInt (sum / 65536) (sum % 65536)
  let sum ← addInt sum (sum / 65536)
  return .ofInt (-sum - 1)

theorem addInt_ok {a b : Nat} (h : a + b < 2 ^ 31) : addInt a b = .ok ((a + b : Nat) : Int) := by
  unfold addInt
  rw [if_pos (by omega)]
  rfl

theorem inCksumIntLoop_eq : ∀ (w : Bytes) (sum : Nat), sum + leSum w < 2 ^ 31 →
    inCksumIntLoop w sum = .ok ((inCksumLoop w sum : Nat) : Int)
  | [], sum, _ => rfl
  | [b], sum, h => by
    simp only [leSum, leWords, List.sum_cons, List.sum_nil] at h
    rw [inCksumIntLoop, inCksumLoop, addInt_ok (by omega)]
  | lo :: hi :: w, sum, h => by
    simp only [leSum, leWords, List.sum_cons] at h
    have ih := inCksumIntLoop_eq w (sum + (lo.toNat + 256 * hi.toNat)) (by unfold leSum; omega)
    rw [inCksumIntLoop, addInt_ok (by omega), inCksumLoop, ← ih]
    rfl

theorem ofInt_not (g : Nat) : UInt16.ofInt (-(g : Int) - 1) = ~~~(UInt16.ofNat g) := by
  rw [← UInt16.toNat_inj, UInt16.toNat_not, UInt16.ofInt, UInt16.toNat_ofNat', UInt16.toNat_ofNat']
  have hsize : UInt16.size = 65536 := rfl
  omega

theorem leSum_lt {w : Bytes} (h : w.length ≤ 4096) : leSum w < 2 ^ 31 := by
  have := leSum_le w
  omega

/-- The loop on a string of the size of the buffers. -/
theorem inCksumIntLoop_zero {w : Bytes} (h : w.length ≤ 4096) :
    inCksumIntLoop w 0 = .ok ((leSum w : Nat) : Int) := by
  have hloop := inCksumIntLoop_eq w 0 (by have := leSum_lt h; omega)
  rwa [inCksumLoop_eq, Nat.zero_add, Nat.cast_zero] at hloop

/-- The two folds of a sum that fits. -/
theorem folds_eq {s : Nat} (h : s < 2 ^ 31) : ∃ sum1 : Int,
    addInt ((s : Int) / 65536) ((s : Int) % 65536) = .ok sum1 ∧
      addInt sum1 (sum1 / 65536) = .ok ((fold s : Nat) : Int) := by
  have hhi : (s : Int) / 65536 = (s / 65536 : Nat) := by omega
  have hlo : (s : Int) % 65536 = (s % 65536 : Nat) := by omega
  rw [hhi, hlo, fold_eq]
  have h1 := addInt_ok (a := s / 65536) (b := s % 65536) (by omega)
  have hf : s / 65536 + s % 65536 < 2 ^ 20 := by omega
  generalize s / 65536 + s % 65536 = f at h1 hf ⊢
  have hfhi : (f : Int) / 65536 = (f / 65536 : Nat) := by omega
  refine ⟨f, h1, ?_⟩
  rw [hfhi]
  exact addInt_ok (by omega)

/-- **The `int` of `in_cksum` does not overflow** on a string of the size of the buffers. -/
theorem inCksumInt_eq {w : Bytes} (h : w.length ≤ 4096) : inCksumInt w = .ok (inCksum w) := by
  obtain ⟨sum1, h1, h2⟩ := folds_eq (leSum_lt h)
  rw [inCksum_eq, complement, ← ofInt_not]
  exact Run.bind_ok_iff.2 ⟨_, inCksumIntLoop_zero h,
    Run.bind_ok_iff.2 ⟨sum1, h1, Run.bind_ok_iff.2 ⟨_, h2, rfl⟩⟩⟩

/-- **`in_cksum` is the Internet checksum in any byte order**: nothing overflows, the two folds leave
the one's complement sum in the low 16 bits, and the two bytes stored are those of the complement of
the sum in network order. -/
theorem in_cksum_rfc1071 (w : Bytes) (h : w.length ≤ 4096) : ∃ sum sum1 sum2 : Int,
    inCksumIntLoop w 0 = .ok sum ∧ addInt (sum / 65536) (sum % 65536) = .ok sum1 ∧
      addInt sum1 (sum1 / 65536) = .ok sum2 ∧ sum2 % 65536 = OnesComp.sum (leWords w) ∧
      inCksumInt w = .ok (inCksum w) ∧
      le16 (inCksum w) = be16 (~~~(UInt16.ofNat (OnesComp.sum (beWords w)))) := by
  have hlt := leSum_lt h
  have hlt32 : leSum w < 2 ^ 32 := by omega
  obtain ⟨sum1, h1, h2⟩ := folds_eq hlt
  refine ⟨_, sum1, _, inCksumIntLoop_zero h, h1, h2, ?_, inCksumInt_eq h, ?_⟩
  · rw [← fold_eq_sum (leWords_le w) hlt32]
    rfl
  · rw [inCksum_eq, le16_complement hlt32]

/-- An odd string: the words are `0x0102` and `0x0300`. -/
theorem in_cksum_three_bytes : inCksumInt [1, 2, 3] = .ok (inCksum [1, 2, 3]) ∧
    le16 (inCksum [1, 2, 3]) = [0xfb, 0xfd] := by
  obtain ⟨-, -, -, -, -, -, -, hint, hbytes⟩ := in_cksum_rfc1071 [1, 2, 3] (by decide)
  exact ⟨hint, hbytes⟩

end Dnsmeter
