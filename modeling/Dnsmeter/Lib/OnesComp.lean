import Dnsmeter.Lib.Block
import Mathlib.Data.Nat.ModEq
import Mathlib.Algebra.BigOperators.Group.List.Basic

/-!
# One's complement sums

The 16-bit one's complement sum of a byte string, as the Internet checksum uses it: words in
network order, the last byte padded with a zero byte, added with end-around carry.

* `sum_eq_ffff_iff`: the sum is `0xffff` iff the plain sum is a positive multiple of `0xffff`.
* `verifies_iff_leSum`: so is the sum in the host's byte order (a byte swap is a multiplication
  by 256 modulo `0xffff`): a string's checksum can be computed and tested in either order.
* `sum_beWords`: the sum in network order is the sum in the host's order with its bytes swapped.
* `fold_eq_sum`: two carry folds bring any plain sum below `2 ^ 32` to the sum with end-around carry.
* `le16_complement`: its complement, stored in the host's order, is the one in network order.
* `verifies_patch`: the complement of the folded sum, put where the string holds two zero bytes,
  makes the string verify.
-/

namespace OnesComp

/-- Addition with end-around carry. -/
def add (a b : Nat) : Nat := if a + b < 65536 then a + b else a + b - 65535

def sum (ws : List Nat) : Nat := ws.foldl add 0

/-- The words of a byte string in network order, the last byte zero-padded. -/
def beWords : Bytes → List Nat
  | b0 :: b1 :: bs => (256 * b0.toNat + b1.toNat) :: beWords bs
  | [b] => [256 * b.toNat]
  | [] => []

/-- The words of a byte string as a little-endian host loads them. -/
def leWords : Bytes → List Nat
  | b0 :: b1 :: bs => (b0.toNat + 256 * b1.toNat) :: leWords bs
  | [b] => [b.toNat]
  | [] => []

def leSum (bs : Bytes) : Nat := (leWords bs).sum

/-- The receiver's test: the string, its checksum included, sums to `0xffff`. -/
def Verifies (bs : Bytes) : Prop := sum (beWords bs) = 0xffff

instance (bs : Bytes) : Decidable (Verifies bs) := inferInstanceAs (Decidable (_ = _))

/-! ## The sum with end-around carry -/

theorem add_le {a b : Nat} (ha : a ≤ 65535) (hb : b ≤ 65535) : add a b ≤ 65535 := by
  unfold add; split <;> omega

theorem add_modEq (a b : Nat) : add a b ≡ a + b [MOD 65535] := by
  unfold add Nat.ModEq; split <;> omega

theorem add_eq_zero {a b : Nat} : add a b = 0 ↔ a = 0 ∧ b = 0 := by
  unfold add; split <;> omega

/-- The running sum: 16 bits, the plain sum modulo `0xffff`, zero only if nothing was added. -/
theorem foldl_add_spec : ∀ (ws : List Nat) (a : Nat), a ≤ 65535 → (∀ w ∈ ws, w ≤ 65535) →
    ws.foldl add a ≤ 65535 ∧ ws.foldl add a ≡ a + ws.sum [MOD 65535] ∧
      (ws.foldl add a = 0 ↔ a + ws.sum = 0)
  | [], a, ha, _ => ⟨ha, Nat.ModEq.refl _, Iff.rfl⟩
  | w :: ws, a, ha, hw => by
    obtain ⟨h1, h2, h3⟩ := foldl_add_spec ws (add a w) (add_le ha (hw w List.mem_cons_self))
      fun x hx => hw x (List.mem_cons_of_mem _ hx)
    refine ⟨h1, ?_, ?_⟩
    · rw [List.sum_cons, ← Nat.add_assoc]
      exact h2.trans ((add_modEq a w).add_right _)
    · have := @add_eq_zero a w
      rw [List.foldl_cons, h3, List.sum_cons]
      omega

theorem sum_spec {ws : List Nat} (hw : ∀ w ∈ ws, w ≤ 65535) :
    sum ws ≤ 65535 ∧ sum ws ≡ ws.sum [MOD 65535] ∧ (sum ws = 0 ↔ ws.sum = 0) := by
  have h := foldl_add_spec ws 0 (Nat.zero_le _) hw
  rwa [Nat.zero_add] at h

theorem sum_eq_ffff_iff {ws : List Nat} (hw : ∀ w ∈ ws, w ≤ 65535) :
    sum ws = 0xffff ↔ 0 < ws.sum ∧ 65535 ∣ ws.sum := by
  obtain ⟨h1, h2, h3⟩ := sum_spec hw
  unfold Nat.ModEq at h2
  omega

/-- The sum of a list is known by its residue and by whether it is zero. -/
theorem eq_sum_of_modEq {ws : List Nat} {n : Nat} (hw : ∀ w ∈ ws, w ≤ 65535) (hn : n ≤ 65535)
    (h : n ≡ ws.sum [MOD 65535]) (hz : n = 0 ↔ ws.sum = 0) : n = sum ws := by
  obtain ⟨h1, h2, h3⟩ := sum_spec hw
  unfold Nat.ModEq at h h2
  omega

theorem beWords_le : ∀ (bs : Bytes), ∀ w ∈ beWords bs, w ≤ 65535
  | [], _, h => by simp [beWords] at h
  | [b], w, h => by
    have := b.toNat_lt
    simp only [beWords, List.mem_singleton] at h
    omega
  | b0 :: b1 :: bs, w, h => by
    have := b0.toNat_lt
    have := b1.toNat_lt
    simp only [beWords, List.mem_cons] at h
    rcases h with rfl | h
    · omega
    · exact beWords_le bs w h

theorem leWords_le : ∀ (bs : Bytes), ∀ w ∈ leWords bs, w ≤ 65535
  | [], _, h => by simp [leWords] at h
  | [b], w, h => by
    have := b.toNat_lt
    simp only [leWords, List.mem_singleton] at h
    omega
  | b0 :: b1 :: bs, w, h => by
    have := b0.toNat_lt
    have := b1.toNat_lt
    simp only [leWords, List.mem_cons] at h
    rcases h with rfl | h
    · omega
    · exact leWords_le bs w h

/-! ## Byte order -/

/-- Swapping the bytes of every word multiplies the sum by 256. -/
theorem beWords_sum_modEq : ∀ bs : Bytes, (beWords bs).sum ≡ 256 * leSum bs [MOD 65535]
  | [] => Nat.ModEq.refl _
  | [b] => by simp [beWords, leSum, leWords, Nat.ModEq]
  | b0 :: b1 :: bs => by
    have ih := beWords_sum_modEq bs
    simp only [beWords, leSum, leWords, List.sum_cons, Nat.ModEq] at ih ⊢
    omega

theorem beWords_sum_eq_zero : ∀ bs : Bytes, (beWords bs).sum = 0 ↔ leSum bs = 0
  | [] => Iff.rfl
  | [b] => by simp [beWords, leSum, leWords]
  | b0 :: b1 :: bs => by
    have ih := beWords_sum_eq_zero bs
    simp only [beWords, leSum, leWords, List.sum_cons] at ih ⊢
    omega

/-- A string verifies iff its plain sum in host order is a positive multiple of `0xffff`. -/
theorem verifies_iff_leSum (bs : Bytes) : Verifies bs ↔ 0 < leSum bs ∧ 65535 ∣ leSum bs := by
  have h1 := beWords_sum_modEq bs
  have h2 := beWords_sum_eq_zero bs
  unfold Verifies
  rw [sum_eq_ffff_iff (beWords_le bs)]
  unfold Nat.ModEq at h1
  omega

/-- A word with its bytes swapped. -/
def swap (n : Nat) : Nat := n % 256 * 256 + n / 256

theorem swap_spec {n : Nat} (h : n ≤ 65535) :
    swap n ≤ 65535 ∧ swap n ≡ 256 * n [MOD 65535] ∧ (swap n = 0 ↔ n = 0) := by
  unfold swap Nat.ModEq
  omega

/-- **The sum is independent of byte order**: in the host's order it comes out with its bytes
swapped. -/
theorem sum_beWords (bs : Bytes) : sum (beWords bs) = swap (sum (leWords bs)) := by
  obtain ⟨hle, hmod, hzero⟩ := sum_spec (leWords_le bs)
  obtain ⟨hsle, hsmod, hszero⟩ := swap_spec hle
  refine (eq_sum_of_modEq (beWords_le bs) hsle ?_ ?_).symm
  · exact hsmod.trans ((hmod.mul_left 256).trans (beWords_sum_modEq bs).symm)
  · rw [hszero, hzero, beWords_sum_eq_zero]
    rfl

/-- The bytes of a word given by its two halves. -/
theorem le16_halves {v : UInt16} (hi lo : Nat) (hlo : lo < 256) (h : v.toNat = 256 * hi + lo) :
    le16 v = [.ofNat lo, .ofNat hi] := by
  have h1 : (256 * hi + lo) % 256 = lo % 256 := by omega
  have h2 : (256 * hi + lo) / 256 = hi := by omega
  rw [le16, h, h2, List.cons.injEq, ← UInt8.toNat_inj, UInt8.toNat_ofNat', UInt8.toNat_ofNat']
  exact ⟨h1, rfl⟩

/-- The complement of a word, swapped. -/
theorem le16_not {n : Nat} (h : n ≤ 65535) :
    le16 (~~~(UInt16.ofNat n)) = be16 (~~~(UInt16.ofNat (swap n))) := by
  have hnot : ∀ m ≤ 65535, (~~~(UInt16.ofNat m)).toNat = 65535 - m := by
    intro m hm
    rw [UInt16.toNat_not, UInt16.toNat_ofNat', UInt16.size]
    omega
  have hswap := (swap_spec h).1
  have hbe : be16 (~~~(UInt16.ofNat (swap n))) = (le16 (~~~(UInt16.ofNat (swap n)))).reverse := rfl
  rw [hbe, le16_halves (255 - n / 256) (255 - n % 256) (by omega) (by rw [hnot n h]; omega),
    le16_halves (255 - n % 256) (255 - n / 256) (by omega)
      (by rw [hnot _ hswap]; unfold swap; omega)]
  rfl

/-! ## Sums of concatenations -/

theorem leSum_append : ∀ (xs ys : Bytes), xs.length % 2 = 0 →
    leSum (xs ++ ys) = leSum xs + leSum ys
  | [], ys, _ => by simp [leSum, leWords]
  | [_], _, h => by simp at h
  | b0 :: b1 :: xs, ys, h => by
    have ih := leSum_append xs ys (by simp only [List.length_cons] at h; omega)
    simp only [leSum, List.cons_append, leWords, List.sum_cons] at ih ⊢
    omega

theorem leSum_pad : ∀ xs : Bytes, xs.length % 2 = 1 → leSum (xs ++ [0]) = leSum xs
  | [], h => by simp at h
  | [b], _ => by simp [leSum, leWords]
  | b0 :: b1 :: xs, h => by
    have ih := leSum_pad xs (by simp only [List.length_cons] at h; omega)
    simp only [leSum, List.cons_append, leWords, List.sum_cons] at ih ⊢
    omega

theorem leSum_le16 (v : UInt16) : leSum (le16 v) = v.toNat := by
  have := v.toNat_lt
  simp only [leSum, le16, leWords, List.sum_cons, List.sum_nil, UInt8.toNat_ofNat']
  omega

theorem leSum_le : ∀ bs : Bytes, leSum bs ≤ 65535 * ((bs.length + 1) / 2)
  | [] => Nat.zero_le _
  | [b] => by
    have := b.toNat_lt
    simp only [leSum, leWords, List.sum_cons, List.sum_nil, List.length_singleton]
    omega
  | b0 :: b1 :: bs => by
    have ih := leSum_le bs
    have := b0.toNat_lt
    have := b1.toNat_lt
    simp only [leSum, leWords, List.sum_cons, List.length_cons] at ih ⊢
    omega

/-! ## Folding the carries -/

/-- Two folds of the carries into the low 16 bits. -/
def fold (s : Nat) : Nat :=
  let s := (s >>> 16) + (s &&& 0xffff)
  s + (s >>> 16)

theorem fold_eq (s : Nat) :
    fold s = s / 65536 + s % 65536 + (s / 65536 + s % 65536) / 65536 := by
  have hm : s &&& 0xffff = s % 65536 := Nat.and_two_pow_sub_one_eq_mod s 16
  simp only [fold, Nat.shiftRight_eq_div_pow, hm, Nat.reducePow]

/-- The two folds add the halves with end-around carry. -/
theorem fold_mod_eq {s : Nat} (h : s < 2 ^ 32) :
    fold s % 65536 = add (s / 65536) (s % 65536) := by
  have h1 : s / 65536 < 65536 := by omega
  have h2 : s % 65536 < 65536 := by omega
  rw [fold_eq]
  generalize s / 65536 = hi at h1 ⊢
  generalize s % 65536 = lo at h2 ⊢
  unfold add
  split <;> omega

theorem fold_modEq {s : Nat} (h : s < 2 ^ 32) : fold s % 65536 ≡ s [MOD 65535] := by
  rw [fold_mod_eq h]
  refine (add_modEq _ _).trans ?_
  unfold Nat.ModEq
  omega

theorem fold_eq_zero {s : Nat} (h : s < 2 ^ 32) : fold s % 65536 = 0 ↔ s = 0 := by
  rw [fold_mod_eq h, add_eq_zero]
  omega

/-- **Two folds are enough**: the low 16 bits they leave are the sum with end-around carry. -/
theorem fold_eq_sum {ws : List Nat} (hw : ∀ w ∈ ws, w ≤ 65535) (h : ws.sum < 2 ^ 32) :
    fold ws.sum % 65536 = sum ws :=
  eq_sum_of_modEq hw (Nat.le_of_lt_succ (Nat.mod_lt _ (by decide))) (fold_modEq h) (fold_eq_zero h)

/-- The complement of the folded sum. -/
def complement (s : Nat) : UInt16 := ~~~(UInt16.ofNat (fold s))

theorem toNat_complement (s : Nat) : (complement s).toNat = 65535 - fold s % 65536 := by
  simp [complement, UInt16.toNat_not, UInt16.size]

/-- The complement computed in the host's order, as it is stored there, is that of the sum in network
order. -/
theorem le16_complement {bs : Bytes} (h : leSum bs < 2 ^ 32) :
    le16 (complement (leSum bs)) = be16 (~~~(UInt16.ofNat (sum (beWords bs)))) := by
  have hfold : UInt16.ofNat (fold (leSum bs)) = UInt16.ofNat (sum (leWords bs)) := by
    rw [← fold_eq_sum (leWords_le bs) h, ← UInt16.toNat_inj, UInt16.toNat_ofNat',
      UInt16.toNat_ofNat', Nat.mod_mod]
    rfl
  rw [complement, hfold, sum_beWords]
  exact le16_not (sum_spec (leWords_le bs)).1

/-- The complement brings a sum to a positive multiple of `0xffff`. -/
theorem complement_spec {s : Nat} (h : s < 2 ^ 32) :
    0 < s + (complement s).toNat ∧ 65535 ∣ s + (complement s).toNat := by
  have h1 := fold_modEq h
  have h2 := fold_eq_zero h
  rw [toNat_complement]
  unfold Nat.ModEq at h1
  omega

/-- The complement is zero for the sums that are a positive multiple of `0xffff` already. -/
theorem complement_eq_zero_iff {s : Nat} (h : s < 2 ^ 32) : complement s = 0 ↔ 0 < s ∧ 65535 ∣ s := by
  have h1 := fold_modEq h
  have h2 := fold_eq_zero h
  rw [← UInt16.toNat_inj, toNat_complement, UInt16.toNat_zero]
  unfold Nat.ModEq at h1
  omega

/-- **A patched string verifies**: `c` complements the sum of the string with two zero bytes in
its place, which stands at an even offset. -/
theorem verifies_patch {xs ys : Bytes} (hx : xs.length % 2 = 0)
    (hlt : leSum (xs ++ le16 0 ++ ys) < 2 ^ 32) :
    Verifies (xs ++ le16 (complement (leSum (xs ++ le16 0 ++ ys))) ++ ys) := by
  have hs := complement_spec hlt
  generalize hc : complement (leSum (xs ++ le16 0 ++ ys)) = c at hs ⊢
  have hsum : ∀ v : UInt16, leSum (xs ++ le16 v ++ ys) = leSum xs + v.toNat + leSum ys := by
    intro v
    rw [leSum_append _ _ (by simp; omega), leSum_append _ _ hx, leSum_le16]
  rw [verifies_iff_leSum, hsum]
  rw [hsum] at hs
  simp only [UInt16.toNat_zero] at hs
  rw [show leSum xs + c.toNat + leSum ys = leSum xs + 0 + leSum ys + c.toNat by omega]
  exact hs

end OnesComp
