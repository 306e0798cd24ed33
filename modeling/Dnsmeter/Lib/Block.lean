import Mathlib.Data.List.Basic

/-!
# Memory blocks

`Block n`: an allocated region of `n` bytes. A store carries the proof that it stays inside the
block, so a write out of bounds cannot be built; where the bound is not known statically the
caller tests it first. Reads go through `load`, the bytes of a range.

* `load_store_disjoint`, `load_store_self`: what a range holds after a store beside it and at it;
  `load_store_within`, `load_store_mid`: a range inside a store, a store inside a range.
* `SameOutside`: stores that stay inside a range.
* `le16`/`le32`, `be16`/`be32`: a word as the bytes of a little-endian host's memory and in
  network order; `htons`, `htonl` swap the two (`le16_htons`, `le32_htonl`).
-/

abbrev Bytes := List UInt8

/-- A region of `n` bytes. -/
structure Block (n : Nat) where
  bytes : Bytes
  length_eq : bytes.length = n
deriving DecidableEq

namespace Block

variable {n : Nat}

/-- `calloc`: a block of zero bytes. -/
def zero (n : Nat) : Block n := ⟨List.replicate n 0, by simp⟩

/-- The bytes `[off, off + len)`. -/
def load (b : Block n) (off len : Nat) : Bytes := (b.bytes.drop off).take len

def load8 (b : Block n) (off : Nat) (h : off < n) : UInt8 :=
  b.bytes.get ⟨off, by rw [b.length_eq]; exact h⟩

/-- `src` copied to `[off, off + src.length)`. -/
def store (b : Block n) (off : Nat) (src : Bytes) (h : off + src.length ≤ n) : Block n :=
  ⟨b.bytes.take off ++ (src ++ b.bytes.drop (off + src.length)), by
    have := b.length_eq
    simp only [List.length_append, List.length_take, List.length_drop]
    omega⟩

@[ext] theorem ext {b c : Block n} (h : b.bytes = c.bytes) : b = c := by
  cases b; cases c; cases h; rfl

@[simp] theorem length_load {b : Block n} {off len : Nat} (h : off + len ≤ n) :
    (b.load off len).length = len := by
  have := b.length_eq
  simp only [load, List.length_take, List.length_drop]
  omega

@[simp] theorem load_len_zero (b : Block n) (off : Nat) : b.load off 0 = [] := rfl

/-- The byte `i` after a store: the source's in the stored range, else the old one. -/
theorem getElem?_store (b : Block n) {off : Nat} {src : Bytes} (h : off + src.length ≤ n)
    (i : Nat) :
    (b.store off src h).bytes[i]? =
      if off ≤ i ∧ i < off + src.length then src[i - off]? else b.bytes[i]? := by
  have hl := b.length_eq
  have ht : (b.bytes.take off).length = off := by rw [List.length_take]; omega
  simp only [store]
  by_cases h1 : i < off
  · rw [List.getElem?_append_left (by omega), List.getElem?_take_of_lt h1, if_neg (by omega)]
  · rw [List.getElem?_append_right (by omega), ht]
    by_cases h2 : i < off + src.length
    · rw [List.getElem?_append_left (by omega), if_pos (by omega)]
    · rw [List.getElem?_append_right (by omega), List.getElem?_drop, if_neg (by omega)]
      congr 1
      omega

theorem getElem?_load (b : Block n) (off len i : Nat) :
    (b.load off len)[i]? = if i < len then b.bytes[off + i]? else none := by
  simp only [load, List.getElem?_take, List.getElem?_drop]

/-- A store leaves every range beside it alone. -/
theorem load_store_disjoint (b : Block n) {off : Nat} {src : Bytes} (h : off + src.length ≤ n)
    {o len : Nat} (hd : o + len ≤ off ∨ off + src.length ≤ o) :
    (b.store off src h).load o len = b.load o len := by
  apply List.ext_getElem?
  intro i
  rw [getElem?_load, getElem?_load, getElem?_store]
  by_cases hi : i < len
  · rw [if_pos hi, if_pos hi, if_neg (by omega)]
  · rw [if_neg hi, if_neg hi]

/-- A range inside the stored one reads the source. -/
theorem load_store_within (b : Block n) {off : Nat} {src : Bytes} (h : off + src.length ≤ n)
    {o len : Nat} (h1 : off ≤ o) (h2 : o + len ≤ off + src.length) :
    (b.store off src h).load o len = (src.drop (o - off)).take len := by
  apply List.ext_getElem?
  intro i
  rw [getElem?_load, getElem?_store, List.getElem?_take, List.getElem?_drop]
  by_cases hi : i < len
  · rw [if_pos hi, if_pos (by omega), if_pos hi]
    congr 1
    omega
  · rw [if_neg hi, if_neg hi]

theorem load_store_self (b : Block n) {off : Nat} {src : Bytes} (h : off + src.length ≤ n)
    {len : Nat} (hl : len = src.length) : (b.store off src h).load off len = src := by
  rw [load_store_within b h (Nat.le_refl _) (by omega), Nat.sub_self, List.drop_zero, hl,
    List.take_length]

theorem load_append (b : Block n) (off l1 l2 : Nat) :
    b.load off (l1 + l2) = b.load off l1 ++ b.load (off + l1) l2 := by
  simp only [load]
  rw [List.take_add, List.drop_drop]

/-- A store in the middle of a range. -/
theorem load_store_mid (b : Block n) {off : Nat} {src : Bytes} (h : off + src.length ≤ n)
    (o pre post : Nat) (ho : o + pre = off) :
    (b.store off src h).load o (pre + src.length + post) =
      b.load o pre ++ src ++ b.load (off + src.length) post := by
  rw [load_append, load_append, load_store_disjoint b h (.inl (by omega)), ho,
    load_store_self b h rfl, load_store_disjoint b h (.inr (by omega)), ← Nat.add_assoc, ho]

/-- `c` differs from `b` at most inside `[lo, hi)`. -/
def SameOutside (lo hi : Nat) (b c : Block n) : Prop :=
  ∀ off len, off + len ≤ lo ∨ hi ≤ off → c.load off len = b.load off len

theorem SameOutside.refl (lo hi : Nat) (b : Block n) : SameOutside lo hi b b := fun _ _ _ => rfl

theorem SameOutside.store {lo hi off : Nat} {src : Bytes} {a b : Block n} (hs : SameOutside lo hi a b)
    (h : off + src.length ≤ n) (hlo : lo ≤ off) (hhi : off + src.length ≤ hi) :
    SameOutside lo hi a (b.store off src h) := by
  intro o len ho
  rw [load_store_disjoint b h (by omega), hs o len ho]

/-- A store over a store of the same range. -/
theorem store_store (b : Block n) {off : Nat} {xs ys : Bytes} (hx : off + xs.length ≤ n)
    (hy : off + ys.length ≤ n) (hl : xs.length = ys.length) :
    (b.store off xs hx).store off ys hy = b.store off ys hy := by
  apply Block.ext
  apply List.ext_getElem?
  intro i
  rw [getElem?_store, getElem?_store, getElem?_store]
  split
  · rfl
  · rw [if_neg (by omega)]

theorem load_one (b : Block n) {off : Nat} (h : off < n) : b.load off 1 = [b.load8 off h] := by
  have hl := b.length_eq
  simp only [load, load8, List.get_eq_getElem]
  rw [List.drop_eq_getElem_cons (by omega)]
  rfl

end Block

/-! ## Words -/

/-- A 16-bit word in the memory of a little-endian host. -/
def le16 (v : UInt16) : Bytes := [.ofNat v.toNat, .ofNat (v.toNat / 256)]

def be16 (v : UInt16) : Bytes := [.ofNat (v.toNat / 256), .ofNat v.toNat]

def le32 (v : UInt32) : Bytes :=
  [.ofNat v.toNat, .ofNat (v.toNat / 256), .ofNat (v.toNat / 65536), .ofNat (v.toNat / 16777216)]

def be32 (v : UInt32) : Bytes :=
  [.ofNat (v.toNat / 16777216), .ofNat (v.toNat / 65536), .ofNat (v.toNat / 256), .ofNat v.toNat]

/-- The 16-bit word a little-endian host loads from two bytes. -/
def ofLe16 (b0 b1 : UInt8) : UInt16 := .ofNat (b0.toNat + 256 * b1.toNat)

def ofBe16 (b0 b1 : UInt8) : UInt16 := ofLe16 b1 b0

def ofLe32 (b0 b1 b2 b3 : UInt8) : UInt32 :=
  .ofNat (b0.toNat + 256 * b1.toNat + 65536 * b2.toNat + 16777216 * b3.toNat)

def ofBe32 (b0 b1 b2 b3 : UInt8) : UInt32 := ofLe32 b3 b2 b1 b0

/-- The words a string holds in network order. -/
def beWord16 : Bytes → UInt16
  | [b0, b1] => ofBe16 b0 b1
  | _ => 0

def beWord32 : Bytes → UInt32
  | [b0, b1, b2, b3] => ofBe32 b0 b1 b2 b3
  | _ => 0

/-- Host to network order: a little-endian host swaps the bytes. -/
def htons (v : UInt16) : UInt16 := ofBe16 (.ofNat v.toNat) (.ofNat (v.toNat / 256))

def ntohs (v : UInt16) : UInt16 := htons v

def htonl (v : UInt32) : UInt32 :=
  ofBe32 (.ofNat v.toNat) (.ofNat (v.toNat / 256)) (.ofNat (v.toNat / 65536))
    (.ofNat (v.toNat / 16777216))

def ntohl (v : UInt32) : UInt32 := htonl v

namespace Block

variable {n : Nat}

/-- A host store of a 16-bit word. -/
def store16 (b : Block n) (off : Nat) (v : UInt16) (h : off + 2 ≤ n) : Block n :=
  b.store off (le16 v) h

def store32 (b : Block n) (off : Nat) (v : UInt32) (h : off + 4 ≤ n) : Block n :=
  b.store off (le32 v) h

/-- A host load of a 16-bit word. -/
def load16 (b : Block n) (off : Nat) (h : off + 2 ≤ n) : UInt16 :=
  ofLe16 (b.load8 off (by omega)) (b.load8 (off + 1) (by omega))

def load32 (b : Block n) (off : Nat) (h : off + 4 ≤ n) : UInt32 :=
  ofLe32 (b.load8 off (by omega)) (b.load8 (off + 1) (by omega)) (b.load8 (off + 2) (by omega))
    (b.load8 (off + 3) (by omega))

@[simp] theorem load_store16_disjoint (b : Block n) {off o len : Nat} {v : UInt16}
    (h : off + 2 ≤ n) (hd : o + len ≤ off ∨ off + 2 ≤ o) :
    (b.store16 off v h).load o len = b.load o len :=
  load_store_disjoint b h hd

@[simp] theorem load_store32_disjoint (b : Block n) {off o len : Nat} {v : UInt32}
    (h : off + 4 ≤ n) (hd : o + len ≤ off ∨ off + 4 ≤ o) :
    (b.store32 off v h).load o len = b.load o len :=
  load_store_disjoint b h hd

@[simp] theorem load_store16_self (b : Block n) {off : Nat} {v : UInt16} (h : off + 2 ≤ n) :
    (b.store16 off v h).load off 2 = le16 v :=
  load_store_self b h rfl

theorem load_store16_mid (b : Block n) {off : Nat} {v : UInt16} (h : off + 2 ≤ n)
    (o pre post : Nat) (ho : o + pre = off) :
    (b.store16 off v h).load o (pre + 2 + post) =
      b.load o pre ++ le16 v ++ b.load (off + 2) post :=
  load_store_mid b h o pre post ho

@[simp] theorem store16_store16 (b : Block n) {off : Nat} {v w : UInt16} (h : off + 2 ≤ n) :
    (b.store16 off v h).store16 off w h = b.store16 off w h :=
  store_store b h h rfl

@[simp] theorem load_store32_self (b : Block n) {off : Nat} {v : UInt32} (h : off + 4 ≤ n) :
    (b.store32 off v h).load off 4 = le32 v :=
  load_store_self b h rfl

end Block

@[simp] theorem length_le16 (v : UInt16) : (le16 v).length = 2 := rfl

theorem toNat_ofLe16 (b0 b1 : UInt8) : (ofLe16 b0 b1).toNat = b0.toNat + 256 * b1.toNat := by
  have h0 := b0.toNat_lt
  have h1 := b1.toNat_lt
  simp only [ofLe16, UInt16.toNat_ofNat']
  omega

theorem toNat_ofLe32 (b0 b1 b2 b3 : UInt8) : (ofLe32 b0 b1 b2 b3).toNat =
    b0.toNat + 256 * b1.toNat + 65536 * b2.toNat + 16777216 * b3.toNat := by
  have h0 := b0.toNat_lt
  have h1 := b1.toNat_lt
  have h2 := b2.toNat_lt
  have h3 := b3.toNat_lt
  simp only [ofLe32, UInt32.toNat_ofNat']
  omega

theorem le16_ofLe16 (b0 b1 : UInt8) : le16 (ofLe16 b0 b1) = [b0, b1] := by
  have h0 := b0.toNat_lt
  have h1 := b1.toNat_lt
  simp only [le16, toNat_ofLe16, List.cons.injEq, and_true, ← UInt8.toNat_inj, UInt8.toNat_ofNat']
  omega

theorem le32_ofLe32 (b0 b1 b2 b3 : UInt8) : le32 (ofLe32 b0 b1 b2 b3) = [b0, b1, b2, b3] := by
  have h0 := b0.toNat_lt
  have h1 := b1.toNat_lt
  have h2 := b2.toNat_lt
  have h3 := b3.toNat_lt
  simp only [le32, toNat_ofLe32, List.cons.injEq, and_true, ← UInt8.toNat_inj, UInt8.toNat_ofNat']
  omega

/-- Storing the swapped word is storing the word in network order. -/
@[simp] theorem le16_htons (v : UInt16) : le16 (htons v) = be16 v := by
  simp only [htons, ofBe16, le16_ofLe16, be16]

@[simp] theorem le32_htonl (v : UInt32) : le32 (htonl v) = be32 v := by
  simp only [htonl, ofBe32, le32_ofLe32, be32]

theorem ofBe16_be16 (v : UInt16) :
    ofBe16 (.ofNat (v.toNat / 256)) (.ofNat v.toNat) = v := by
  have h := v.toNat_lt
  simp only [ofBe16, ← UInt16.toNat_inj, toNat_ofLe16, UInt8.toNat_ofNat']
  omega

/-- A word loaded by the host and swapped is the word in network order. -/
theorem ntohs_ofLe16 (b0 b1 : UInt8) : ntohs (ofLe16 b0 b1) = ofBe16 b0 b1 := by
  have h0 := b0.toNat_lt
  have h1 := b1.toNat_lt
  simp only [ntohs, htons, ofBe16, ← UInt16.toNat_inj, toNat_ofLe16, UInt8.toNat_ofNat']
  omega

theorem ofLe16_eq_iff {b0 b1 : UInt8} {v : UInt16} : ofLe16 b0 b1 = v ↔ [b0, b1] = le16 v := by
  constructor
  · rintro rfl
    exact (le16_ofLe16 b0 b1).symm
  · intro h
    have hv := v.toNat_lt
    simp only [le16, List.cons.injEq, and_true] at h
    simp only [← UInt16.toNat_inj, toNat_ofLe16, h.1, h.2, UInt8.toNat_ofNat']
    omega

theorem ofLe32_eq_iff {b0 b1 b2 b3 : UInt8} {v : UInt32} :
    ofLe32 b0 b1 b2 b3 = v ↔ [b0, b1, b2, b3] = le32 v := by
  constructor
  · rintro rfl
    exact (le32_ofLe32 b0 b1 b2 b3).symm
  · intro h
    have hv := v.toNat_lt
    simp only [le32, List.cons.injEq, and_true] at h
    simp only [← UInt32.toNat_inj, toNat_ofLe32, h.1, h.2.1, h.2.2.1, h.2.2.2, UInt8.toNat_ofNat']
    omega

/-- Swapping the bytes twice. -/
theorem htons_htons (v : UInt16) : htons (htons v) = v := by
  have h := le16_htons v
  simp only [le16, be16, List.cons.injEq, and_true] at h
  obtain ⟨h0, h1⟩ := h
  rw [htons, ofBe16, ofLe16_eq_iff, h0, h1]
  rfl

theorem htonl_htonl (v : UInt32) : htonl (htonl v) = v := by
  have h := le32_htonl v
  simp only [le32, be32, List.cons.injEq, and_true] at h
  obtain ⟨h0, h1, h2, h3⟩ := h
  rw [htonl, ofBe32, ofLe32_eq_iff, h0, h1, h2, h3]
  rfl

/-- The bytes of a word, read in network order and written back. -/
theorem be16_beWord16 (v : UInt16) : be16 (beWord16 (le16 v)) = le16 v := by
  show be16 (htons v) = le16 v
  rw [← le16_htons, htons_htons]

theorem be32_beWord32 (v : UInt32) : be32 (beWord32 (le32 v)) = le32 v := by
  show be32 (htonl v) = le32 v
  rw [← le32_htonl, htonl_htonl]

namespace Block

variable {n : Nat}

/-- Comparing a loaded word is comparing the bytes. -/
theorem load16_eq_iff (b : Block n) {off : Nat} {v : UInt16} (h : off + 2 ≤ n) :
    b.load16 off h = v ↔ b.load off 2 = le16 v := by
  rw [b.load_append off 1 1, b.load_one (by omega), b.load_one (by omega)]
  exact ofLe16_eq_iff

theorem load32_eq_iff (b : Block n) {off : Nat} {v : UInt32} (h : off + 4 ≤ n) :
    b.load32 off h = v ↔ b.load off 4 = le32 v := by
  rw [b.load_append off 1 3, b.load_append (off + 1) 1 2, b.load_append (off + 1 + 1) 1 1,
    b.load_one (by omega), b.load_one (by omega), b.load_one (by omega), b.load_one (by omega)]
  exact ofLe32_eq_iff

end Block
