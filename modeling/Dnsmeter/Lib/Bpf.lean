import Dnsmeter.Lib.Datagram

/-!
# Classic BPF

The instructions a packet filter needs to test fields at fixed offsets: absolute loads of a byte, a
half word or a word in network order into the accumulator, a relative jump on equality with a
constant, and the return of a constant. A load past the end of the packet returns 0, the packet is
rejected.

* `run_conj`: a program that loads field after field and jumps to its end at the first one that
  differs from its constant accepts the packets that hold all the constants' bytes.
-/

namespace Bpf

open Datagram

inductive Size where
  | b | h | w
deriving DecidableEq, Repr

inductive Insn where
  | ld (size : Size) (k : Nat)
  | jeq (k : UInt32) (jt jf : Nat)
  | ret (k : UInt32)
deriving DecidableEq, Repr

def Size.bytes : Size → Nat
  | .b => 1
  | .h => 2
  | .w => 4

/-- The number a byte string holds in network order. -/
def beNat (bs : Bytes) : Nat := bs.foldl (fun n b => 256 * n + b.toNat) 0

def load (pkt : Bytes) (size : Size) (k : Nat) : Option UInt32 :=
  if k + size.bytes ≤ pkt.length then some (.ofNat (beNat (slice pkt k size.bytes))) else none

/-- At most `fuel` instructions from the current one on: `none` if none of them returns. -/
def exec (pkt : Bytes) : Nat → List Insn → UInt32 → Option UInt32
  | 0, _, _ => none
  | _ + 1, [], _ => none
  | fuel + 1, .ld size k :: prog, _ => match load pkt size k with
    | some a => exec pkt fuel prog a
    | none => some 0
  | fuel + 1, .jeq k jt jf :: prog, a => exec pkt fuel (prog.drop (if a = k then jt else jf)) a
  | _ + 1, .ret k :: _, _ => some k

/-- Jumps go forward: a program of `n` instructions runs at most `n` of them. -/
def run (prog : List Insn) (pkt : Bytes) : Option UInt32 := exec pkt prog.length prog 0

/-- The bytes of a constant as a load of the given size sees them. -/
def Size.encode : Size → UInt32 → Bytes
  | .b, k => [.ofNat k.toNat]
  | .h, k => be16 (.ofNat k.toNat)
  | .w, k => be32 k

/-- The constants a load of the given size can produce. -/
def Size.Fits : Size → UInt32 → Prop
  | .b, k => k.toNat < 256
  | .h, k => k.toNat < 65536
  | .w, _ => True

/-- Comparing the number loaded is comparing the bytes. -/
theorem ofNat_beNat_eq_iff {size : Size} {bs : Bytes} {k : UInt32} (hl : bs.length = size.bytes)
    (hk : size.Fits k) : UInt32.ofNat (beNat bs) = k ↔ bs = size.encode k := by
  have hlt := k.toNat_lt
  rw [← UInt32.toNat_inj, UInt32.toNat_ofNat']
  cases size with
  | b =>
    obtain ⟨b0, rfl⟩ := List.length_eq_one_iff.1 hl
    have h0 := b0.toNat_lt
    simp only [Size.Fits] at hk
    simp only [beNat, List.foldl_cons, List.foldl_nil, Size.encode, List.cons.injEq, and_true,
      ← UInt8.toNat_inj, UInt8.toNat_ofNat']
    omega
  | h =>
    obtain ⟨b0, b1, rfl⟩ := List.length_eq_two.1 hl
    have h0 := b0.toNat_lt
    have h1 := b1.toNat_lt
    simp only [Size.Fits] at hk
    simp only [beNat, List.foldl_cons, List.foldl_nil, Size.encode, be16, List.cons.injEq, and_true,
      ← UInt8.toNat_inj, UInt8.toNat_ofNat', UInt16.toNat_ofNat']
    omega
  | w =>
    obtain ⟨b0, b1, b2, b3, rfl⟩ := List.length_eq_four.1 hl
    have h0 := b0.toNat_lt
    have h1 := b1.toNat_lt
    have h2 := b2.toNat_lt
    have h3 := b3.toNat_lt
    simp only [beNat, List.foldl_cons, List.foldl_nil, Size.encode, be32, List.cons.injEq, and_true,
      ← UInt8.toNat_inj, UInt8.toNat_ofNat']
    omega

/-! ## Filters that test several fields -/

structure Test where
  size : Size
  off : Nat
  k : UInt32
deriving DecidableEq, Repr

/-- The packet reaches to the field and holds the constant's bytes there. -/
def Test.Holds (t : Test) (pkt : Bytes) : Prop :=
  t.off + t.size.bytes ≤ pkt.length ∧ slice pkt t.off t.size.bytes = t.size.encode t.k

instance (t : Test) (pkt : Bytes) : Decidable (t.Holds pkt) :=
  inferInstanceAs (Decidable (_ ∧ _))

/-- Accept the packets that pass all tests: a failed test jumps to the last instruction. -/
def conj : List Test → List Insn
  | [] => [.ret 0xffffffff, .ret 0]
  | t :: ts => .ld t.size t.off :: .jeq t.k 0 (2 * ts.length + 1) :: conj ts

theorem drop_conj : ∀ ts : List Test, (conj ts).drop (2 * ts.length + 1) = [.ret 0]
  | [] => rfl
  | _ :: ts => drop_conj ts

theorem length_conj : ∀ ts : List Test, (conj ts).length = 2 * ts.length + 2
  | [] => rfl
  | t :: ts => by simp only [conj, List.length_cons, length_conj ts]; omega

theorem exec_conj {pkt : Bytes} : ∀ {ts : List Test} {fuel : Nat} {a : UInt32},
    (∀ t ∈ ts, t.size.Fits t.k) → (conj ts).length ≤ fuel →
      exec pkt fuel (conj ts) a = some (if ∀ t ∈ ts, t.Holds pkt then 0xffffffff else 0)
  | [], fuel, a, _, hf => by
    obtain ⟨f, rfl⟩ : ∃ f, fuel = f + 1 := ⟨fuel - 1, by simp [conj] at hf; omega⟩
    simp [conj, exec]
  | t :: ts, fuel, a, hk, hf => by
    have hlen := length_conj ts
    obtain ⟨f, rfl⟩ : ∃ f, fuel = f + 2 := ⟨fuel - 2, by simp [conj] at hf; omega⟩
    have hf' : (conj ts).length ≤ f := by simp [conj] at hf; omega
    simp only [List.forall_mem_cons] at hk ⊢
    by_cases hl : t.off + t.size.bytes ≤ pkt.length
    · have hs : (slice pkt t.off t.size.bytes).length = t.size.bytes := by simp [slice]; omega
      simp only [conj, exec, load, if_pos hl, ofNat_beNat_eq_iff hs hk.1]
      by_cases hb : slice pkt t.off t.size.bytes = t.size.encode t.k
      · have ht : t.Holds pkt := ⟨hl, hb⟩
        rw [if_pos hb, List.drop_zero, exec_conj hk.2 hf']
        exact congrArg some (if_congr (and_iff_right ht).symm rfl rfl)
      · obtain ⟨g, rfl⟩ : ∃ g, f = g + 1 := ⟨f - 1, by omega⟩
        rw [if_neg hb, drop_conj, if_neg fun h => hb h.1.2]
        rfl
    · simp only [conj, exec, load, if_neg hl]
      rw [if_neg fun h => hl h.1.1]

/-- **A filter of tests accepts the packets that pass them all, and rejects all others.** -/
theorem run_conj {ts : List Test} (hk : ∀ t ∈ ts, t.size.Fits t.k) (pkt : Bytes) :
    run (conj ts) pkt = some (if ∀ t ∈ ts, t.Holds pkt then 0xffffffff else 0) :=
  exec_conj hk (Nat.le_refl _)

end Bpf
