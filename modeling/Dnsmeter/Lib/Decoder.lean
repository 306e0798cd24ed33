import Dnsmeter.Lib.Block

/-!
# Decoders of a message with back references

A `Decoder` reads a message from a position on and may read other parts of it too (`lookAt`). What it
finds depends on the bytes it reads only: `Stable lo d` says that a decoder which succeeds on a
message gives the same result on every message that has the same bytes from `lo` on, and more behind
them (`Extends`).
-/

/-- From the message and a position: a value and the position behind it. -/
def Decoder (α : Type) := Bytes → Nat → Option (α × Nat)

namespace Decoder

variable {α β : Type}

instance : Monad Decoder where
  pure x := fun _ pos => some (x, pos)
  bind d f := fun m pos => match d m pos with
    | some (x, pos) => f x m pos
    | none => none

def fail : Decoder α := fun _ _ => none

def guard (p : Prop) [Decidable p] : Decoder Unit := if p then pure () else fail

/-- The position. -/
def here : Decoder Nat := fun _ pos => some (pos, pos)

/-- A decoder at another position; reading goes on where it was. -/
def lookAt (target : Nat) (d : Decoder α) : Decoder α := fun m pos =>
  (d m target).map fun r => (r.1, pos)

def u8 : Decoder UInt8 := fun m pos => (m[pos]?).map fun b => (b, pos + 1)

def u16 : Decoder UInt16 := do return ofBe16 (← u8) (← u8)

def u32 : Decoder UInt32 := do return ofBe32 (← u8) (← u8) (← u8) (← u8)

/-- One value for each of the list's items. -/
def forEach (d : β → Decoder α) : List β → Decoder (List α)
  | [] => pure []
  | k :: ks => do return (← d k) :: (← forEach d ks)

/-- `k` values. -/
def many (d : Decoder α) (k : Nat) : Decoder (List α) := forEach (fun _ => d) (List.replicate k ())

def bytes (k : Nat) : Decoder Bytes := many u8 k

theorem bind_eq_some {d : Decoder α} {f : α → Decoder β} {m : Bytes} {pos : Nat} {r : β × Nat} :
    (d >>= f) m pos = some r ↔ ∃ x pos', d m pos = some (x, pos') ∧ f x m pos' = some r := by
  show (match d m pos with | some (x, pos) => f x m pos | none => none) = some r ↔ _
  cases hd : d m pos with
  | none => simp
  | some x =>
    obtain ⟨x, p⟩ := x
    simp

theorem guard_eq_some {p : Prop} [Decidable p] {m : Bytes} {pos pos' : Nat} {u : Unit} :
    guard p m pos = some (u, pos') ↔ p ∧ pos' = pos := by
  unfold guard
  by_cases h : p
  · rw [if_pos h]
    constructor
    · intro hr
      cases hr
      exact ⟨h, rfl⟩
    · rintro ⟨-, rfl⟩
      rfl
  · rw [if_neg h]
    constructor
    · intro hr
      cases hr
    · exact fun hp => absurd hp.1 h

theorem u8_eq_some {m : Bytes} {pos pos' : Nat} {b : UInt8} :
    u8 m pos = some (b, pos') ↔ m[pos]? = some b ∧ pos' = pos + 1 := by
  simp only [u8, Option.map_eq_some_iff, Prod.mk.injEq]
  constructor
  · rintro ⟨c, hc, rfl, rfl⟩
    exact ⟨hc, rfl⟩
  · rintro ⟨hb, rfl⟩
    exact ⟨b, hb, rfl, rfl⟩

theorem u16_eq_some {m : Bytes} {pos pos' : Nat} {v : UInt16} :
    u16 m pos = some (v, pos') ↔ ∃ b0 b1, m[pos]? = some b0 ∧ m[pos + 1]? = some b1 ∧
      v = ofBe16 b0 b1 ∧ pos' = pos + 2 := by
  constructor
  · intro h
    obtain ⟨b0, p1, hr0, h⟩ := bind_eq_some.1 h
    obtain ⟨b1, p2, hr1, h⟩ := bind_eq_some.1 h
    obtain ⟨h0, rfl⟩ := u8_eq_some.1 hr0
    obtain ⟨h1, rfl⟩ := u8_eq_some.1 hr1
    cases h
    exact ⟨b0, b1, h0, h1, rfl, rfl⟩
  · rintro ⟨b0, b1, h0, h1, rfl, rfl⟩
    refine bind_eq_some.2 ⟨b0, _, u8_eq_some.2 ⟨h0, rfl⟩, ?_⟩
    exact bind_eq_some.2 ⟨b1, _, u8_eq_some.2 ⟨h1, rfl⟩, rfl⟩

theorem length_of_forEach {d : β → Decoder α} {ks : List β} {m : Bytes} {pos pos' : Nat}
    {xs : List α} (h : forEach d ks m pos = some (xs, pos')) : xs.length = ks.length := by
  induction ks generalizing pos xs with
  | nil =>
    cases h
    rfl
  | cons k ks ih =>
    obtain ⟨x, p1, -, h⟩ := bind_eq_some.1 h
    obtain ⟨xs', p2, h2, h⟩ := bind_eq_some.1 h
    cases h
    rw [List.length_cons, List.length_cons, ih h2]

theorem length_of_many {d : Decoder α} {k : Nat} {m : Bytes} {pos pos' : Nat} {xs : List α}
    (h : many d k m pos = some (xs, pos')) : xs.length = k := by
  rw [length_of_forEach h, List.length_replicate]

theorem pos_of_bytes : ∀ {k : Nat} {m : Bytes} {pos pos' : Nat} {bs : Bytes},
    bytes k m pos = some (bs, pos') → pos' = pos + k
  | 0, _, _, _, _, h => by
    cases h
    rfl
  | k + 1, m, pos, pos', bs, h => by
    obtain ⟨b, p1, h1, h⟩ := bind_eq_some.1 h
    obtain ⟨-, rfl⟩ := u8_eq_some.1 h1
    obtain ⟨bs', p2, h2, h⟩ := bind_eq_some.1 h
    have hp2 : p2 = pos + 1 + k := pos_of_bytes h2
    cases h
    omega

/-! ## Decoders and longer messages -/

/-- `m'` has the bytes of `m` from `lo` on, and may go on behind them. -/
def Extends (lo : Nat) (m m' : Bytes) : Prop :=
  ∀ i b, lo ≤ i → m[i]? = some b → m'[i]? = some b

/-- From `lo` on the decoder goes forwards, and finds in a longer message what it found. -/
structure Stable (lo : Nat) (d : Decoder α) : Prop where
  extend : ∀ {m m' pos x pos'}, Extends lo m m' → lo ≤ pos → d m pos = some (x, pos') →
    d m' pos = some (x, pos')
  le : ∀ {m pos x pos'}, d m pos = some (x, pos') → pos ≤ pos'

namespace Stable

variable {lo : Nat}

theorem pure (x : α) : Stable lo (Pure.pure x : Decoder α) where
  extend _ _ h := h
  le h := by
    cases h
    exact Nat.le_refl _

theorem fail : Stable lo (Decoder.fail : Decoder α) where
  extend _ _ h := h
  le h := by cases h

theorem guard (p : Prop) [Decidable p] : Stable lo (Decoder.guard p) := by
  unfold Decoder.guard
  split
  · exact pure ()
  · exact fail

theorem here : Stable lo Decoder.here where
  extend _ _ h := h
  le h := by
    cases h
    exact Nat.le_refl _

theorem bind {d : Decoder α} {f : α → Decoder β} (hd : Stable lo d) (hf : ∀ x, Stable lo (f x)) :
    Stable lo (d >>= f) where
  extend hm hlo h := by
    obtain ⟨x, p1, h1, h2⟩ := bind_eq_some.1 h
    have hp1 := Nat.le_trans hlo (hd.le h1)
    exact bind_eq_some.2 ⟨x, p1, hd.extend hm hlo h1, (hf x).extend hm hp1 h2⟩
  le h := by
    obtain ⟨x, p1, h1, h2⟩ := bind_eq_some.1 h
    exact Nat.le_trans (hd.le h1) ((hf x).le h2)

theorem lookAt {target : Nat} (ht : lo ≤ target) {d : Decoder α} (hd : Stable lo d) :
    Stable lo (Decoder.lookAt target d) where
  extend hm _ h := by
    obtain ⟨r, h1, h⟩ := Option.map_eq_some_iff.1 h
    exact Option.map_eq_some_iff.2 ⟨r, hd.extend hm ht h1, h⟩
  le h := by
    obtain ⟨r, -, h⟩ := Option.map_eq_some_iff.1 h
    cases h
    exact Nat.le_refl _

theorem u8 : Stable lo Decoder.u8 where
  extend hm hlo h := by
    obtain ⟨b, hb, h⟩ := Option.map_eq_some_iff.1 h
    exact Option.map_eq_some_iff.2 ⟨b, hm _ b hlo hb, h⟩
  le h := by
    obtain ⟨b, -, h⟩ := Option.map_eq_some_iff.1 h
    cases h
    omega

theorem u16 : Stable lo Decoder.u16 :=
  bind u8 fun _ => bind u8 fun _ => pure _

theorem u32 : Stable lo Decoder.u32 :=
  bind u8 fun _ => bind u8 fun _ => bind u8 fun _ => bind u8 fun _ => pure _

theorem forEach {d : β → Decoder α} (hd : ∀ k, Stable lo (d k)) :
    ∀ ks : List β, Stable lo (Decoder.forEach d ks)
  | [] => pure []
  | k :: ks => bind (hd k) fun _ => bind (forEach hd ks) fun _ => pure _

theorem many {d : Decoder α} (hd : Stable lo d) (k : Nat) : Stable lo (Decoder.many d k) :=
  forEach (fun _ => hd) _

theorem bytes (k : Nat) : Stable lo (Decoder.bytes k) := many u8 k

end Stable

end Decoder
