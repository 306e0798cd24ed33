import Dnsmeter.Lib.Decoder

/-!
# The DNS message format

A decoder for whole messages: the header with its four counts, questions, resource records, names with
compression, and no byte behind the last record.

* `Stable` decoders: what is decoded from offset 12 on does not depend on the header, nor on what
  follows.
* `decode_append_record`: a message with other header fields and one record behind it.
-/

namespace Dns

open Decoder

/-- A name as its labels. -/
abbrev Name := List Bytes

structure Header where
  id : UInt16
  qr : Bool
  opcode : Nat
  aa : Bool
  tc : Bool
  rd : Bool
  ra : Bool
  z : Bool
  ad : Bool
  cd : Bool
  rcode : Nat
deriving DecidableEq, Repr

structure Question where
  qname : Name
  qtype : UInt16
  qclass : UInt16
deriving DecidableEq, Repr

/-- Resource data: the names in it are expanded. -/
inductive Rdata where
  | name (n : Name)
  | bytes (b : Bytes)
deriving DecidableEq, Repr

structure Record where
  owner : Name
  rtype : UInt16
  rclass : UInt16
  ttl : UInt32
  rdata : List Rdata
deriving DecidableEq, Repr

structure Message where
  header : Header
  question : List Question
  answer : List Record
  authority : List Record
  additional : List Record
deriving DecidableEq, Repr

/-! ## Names -/

/-- The labels of a name that starts at `start`, with `room` bytes left of the 255 a name may have. A
pointer leads to an earlier name, not into the header. A label uses up room and a pointer moves the
start, so `start + room` steps are enough. -/
def labels : Nat → Nat → Nat → Decoder Name
  | 0, _, _ => fail
  | fuel + 1, start, room => do
    let len ← u8
    if len = 0 then return []
    else if len < 64 then
      guard (len.toNat + 2 ≤ room)
      let label ← bytes len.toNat
      return label :: (← labels fuel start (room - (len.toNat + 1)))
    else if 192 ≤ len then
      let target := (len.toNat - 192) * 256 + (← u8).toNat
      if 12 ≤ target ∧ target < start then lookAt target (labels fuel target room) else fail
    else fail

def name : Decoder Name := do
  let start ← here
  labels (start + 255) start 255

/-! ## Questions and records -/

def question : Decoder Question := do
  return { qname := ← name, qtype := ← u16, qclass := ← u16 }

/-- A part of resource data. -/
inductive Field where
  | name
  | bytes (k : Nat)
deriving DecidableEq, Repr

def Field.decode : Field → Decoder Rdata
  | .name => do return .name (← Dns.name)
  | .bytes k => do return .bytes (← Decoder.bytes k)

/-- The layout of the types whose data hold compressed names: NS, MD, MF, CNAME, SOA, MB, MG, MR, PTR,
MINFO and MX. -/
def layout (rtype : UInt16) (rdlength : Nat) : List Field :=
  if rtype ∈ [2, 3, 4, 5, 7, 8, 9, 12] then [.name]
  else if rtype = 6 then [.name, .name, .bytes 20]
  else if rtype = 14 then [.name, .name]
  else if rtype = 15 then [.bytes 2, .name]
  else [.bytes rdlength]

def rdata (rtype : UInt16) (rdlength : Nat) : Decoder (List Rdata) := do
  let start ← here
  let fields ← forEach Field.decode (layout rtype rdlength)
  let stop ← here
  guard (stop = start + rdlength)
  return fields

def record : Decoder Record := do
  let owner ← name
  let rtype ← u16
  let rclass ← u16
  let ttl ← u32
  let rdlength ← u16
  return { owner, rtype, rclass, ttl, rdata := ← rdata rtype rdlength.toNat }

/-! ## Messages -/

/-- The header's fields in its first four bytes. -/
def Header.ofBytes (id : UInt16) (f g : UInt8) : Header where
  id := id
  qr := f.toNat.testBit 7
  opcode := f.toNat / 8 % 16
  aa := f.toNat.testBit 2
  tc := f.toNat.testBit 1
  rd := f.toNat.testBit 0
  ra := g.toNat.testBit 7
  z := g.toNat.testBit 6
  ad := g.toNat.testBit 5
  cd := g.toNat.testBit 4
  rcode := g.toNat % 16

def header : Decoder Header := do return .ofBytes (← u16) (← u8) (← u8)

def message : Decoder Message := do
  let header ← header
  let qdcount ← u16
  let ancount ← u16
  let nscount ← u16
  let arcount ← u16
  let question ← many question qdcount.toNat
  let answer ← many record ancount.toNat
  let authority ← many record nscount.toNat
  let additional ← many record arcount.toNat
  return { header, question, answer, authority, additional }

/-- The message that the bytes are, if they are one and no more. -/
def decode (m : Bytes) : Option Message :=
  match message m 0 with
  | some (msg, pos) => if pos = m.length then some msg else none
  | none => none

/-! ## Longer messages -/

theorem stable_labels : ∀ fuel start room, Stable 12 (labels fuel start room)
  | 0, _, _ => .fail
  | fuel + 1, start, room => by
    refine .bind .u8 fun len => ?_
    split
    · exact .pure _
    split
    · exact .bind (.guard _) fun _ => .bind (.bytes _) fun _ =>
        .bind (stable_labels fuel start _) fun _ => .pure _
    split
    · refine .bind .u8 fun lo => ?_
      dsimp only
      split
      · rename_i ht
        exact .lookAt ht.1 (stable_labels fuel _ _)
      · exact .fail
    · exact .fail

theorem stable_name : Stable 12 name := .bind .here fun start => stable_labels _ start 255

theorem stable_question : Stable 12 question :=
  .bind stable_name fun _ => .bind .u16 fun _ => .bind .u16 fun _ => .pure _

theorem stable_field : ∀ f : Field, Stable 12 f.decode
  | .name => .bind stable_name fun _ => .pure _
  | .bytes k => .bind (.bytes k) fun _ => .pure _

theorem stable_rdata (rtype : UInt16) (rdlength : Nat) : Stable 12 (rdata rtype rdlength) :=
  .bind .here fun _ => .bind (.forEach stable_field _) fun _ => .bind .here fun _ =>
    .bind (.guard _) fun _ => .pure _

theorem stable_record : Stable 12 record :=
  .bind stable_name fun _ => .bind .u16 fun rtype => .bind .u16 fun _ => .bind .u32 fun _ =>
    .bind .u16 fun _ => .bind (stable_rdata rtype _) fun _ => .pure _

theorem header_eq_some {m : Bytes} {pos pos' : Nat} {hdr : Header} :
    header m pos = some (hdr, pos') ↔ ∃ b0 b1 f g, m[pos]? = some b0 ∧ m[pos + 1]? = some b1 ∧
      m[pos + 2]? = some f ∧ m[pos + 3]? = some g ∧ hdr = .ofBytes (ofBe16 b0 b1) f g ∧
      pos' = pos + 4 := by
  constructor
  · intro h
    obtain ⟨id, p1, h1, h⟩ := bind_eq_some.1 h
    obtain ⟨f, p2, h2, h⟩ := bind_eq_some.1 h
    obtain ⟨g, p3, h3, h⟩ := bind_eq_some.1 h
    obtain ⟨b0, b1, hb0, hb1, rfl, rfl⟩ := u16_eq_some.1 h1
    obtain ⟨hf, rfl⟩ := u8_eq_some.1 h2
    obtain ⟨hg, rfl⟩ := u8_eq_some.1 h3
    cases h
    exact ⟨b0, b1, f, g, hb0, hb1, hf, hg, rfl, rfl⟩
  · rintro ⟨b0, b1, f, g, hb0, hb1, hf, hg, rfl, rfl⟩
    refine bind_eq_some.2 ⟨_, _, u16_eq_some.2 ⟨b0, b1, hb0, hb1, rfl, rfl⟩, ?_⟩
    refine bind_eq_some.2 ⟨f, _, u8_eq_some.2 ⟨hf, rfl⟩, ?_⟩
    exact bind_eq_some.2 ⟨g, _, u8_eq_some.2 ⟨hg, rfl⟩, rfl⟩

/-- The decoder's steps, with the positions that are fixed. -/
theorem message_eq_some {m : Bytes} {msg : Message} {pos : Nat} :
    message m 0 = some (msg, pos) ↔ ∃ qd an ns ar p q r,
      header m 0 = some (msg.header, 4) ∧ u16 m 4 = some (qd, 6) ∧ u16 m 6 = some (an, 8) ∧
      u16 m 8 = some (ns, 10) ∧ u16 m 10 = some (ar, 12) ∧
      many question qd.toNat m 12 = some (msg.question, p) ∧
      many record an.toNat m p = some (msg.answer, q) ∧
      many record ns.toNat m q = some (msg.authority, r) ∧
      many record ar.toNat m r = some (msg.additional, pos) := by
  constructor
  · intro h
    obtain ⟨hdr, _, h1, h⟩ := bind_eq_some.1 h
    obtain ⟨_, _, _, _, -, -, -, -, -, rfl⟩ := header_eq_some.1 h1
    obtain ⟨qd, _, h2, h⟩ := bind_eq_some.1 h
    obtain ⟨_, _, -, -, -, rfl⟩ := u16_eq_some.1 h2
    obtain ⟨an, _, h3, h⟩ := bind_eq_some.1 h
    obtain ⟨_, _, -, -, -, rfl⟩ := u16_eq_some.1 h3
    obtain ⟨ns, _, h4, h⟩ := bind_eq_some.1 h
    obtain ⟨_, _, -, -, -, rfl⟩ := u16_eq_some.1 h4
    obtain ⟨ar, _, h5, h⟩ := bind_eq_some.1 h
    obtain ⟨_, _, -, -, -, rfl⟩ := u16_eq_some.1 h5
    obtain ⟨question, p, h6, h⟩ := bind_eq_some.1 h
    obtain ⟨answer, q, h7, h⟩ := bind_eq_some.1 h
    obtain ⟨authority, r, h8, h⟩ := bind_eq_some.1 h
    obtain ⟨additional, _, h9, h⟩ := bind_eq_some.1 h
    obtain ⟨rfl, rfl⟩ := Prod.mk.inj (Option.some.inj h)
    exact ⟨qd, an, ns, ar, p, q, r, h1, h2, h3, h4, h5, h6, h7, h8, h9⟩
  · rintro ⟨qd, an, ns, ar, p, q, r, h1, h2, h3, h4, h5, h6, h7, h8, h9⟩
    refine bind_eq_some.2 ⟨_, _, h1, bind_eq_some.2 ⟨_, _, h2, bind_eq_some.2 ⟨_, _, h3, ?_⟩⟩⟩
    refine bind_eq_some.2 ⟨_, _, h4, bind_eq_some.2 ⟨_, _, h5, bind_eq_some.2 ⟨_, _, h6, ?_⟩⟩⟩
    exact bind_eq_some.2 ⟨_, _, h7, bind_eq_some.2 ⟨_, _, h8, bind_eq_some.2 ⟨_, _, h9, rfl⟩⟩⟩

theorem decode_eq_some {m : Bytes} {msg : Message} :
    decode m = some msg ↔ message m 0 = some (msg, m.length) := by
  unfold decode
  cases h : message m 0 with
  | none => simp
  | some r =>
    obtain ⟨msg', pos⟩ := r
    by_cases hp : pos = m.length
    · simp [hp]
    · simp [hp]

theorem le_length_of_decode {m : Bytes} {msg : Message} (h : decode m = some msg) :
    12 ≤ m.length := by
  obtain ⟨_, _, _, _, _, _, _, _, _, _, _, h5, _⟩ := message_eq_some.1 (decode_eq_some.1 h)
  obtain ⟨_, _, _, h11, _⟩ := u16_eq_some.1 h5
  have := (List.getElem?_eq_some_iff.1 h11).1
  omega

/-- A count in the header, with the same bytes. -/
theorem u16_congr {m m' : Bytes} {pos : Nat} (h0 : m'[pos]? = m[pos]?)
    (h1 : m'[pos + 1]? = m[pos + 1]?) : u16 m' pos = u16 m pos := by
  refine Option.ext fun r => ?_
  obtain ⟨v, p⟩ := r
  rw [u16_eq_some, u16_eq_some, h0, h1]

/-- **A longer message with one more record**: the bytes up to the counts may differ in the header's
fields, those behind the counts are the same. -/
theorem decode_append_record {m m' : Bytes} {msg : Message} {hdr : Header} {r : Record}
    (h : decode m = some msg) (hadd : msg.additional = [])
    (hhdr : header m' 0 = some (hdr, 4)) (hcounts : ∀ i, 4 ≤ i → i < 10 → m'[i]? = m[i]?)
    (har : u16 m' 10 = some (1, 12)) (hext : Extends 12 m m')
    (hrec : record m' m.length = some (r, m'.length)) :
    decode m' = some { msg with header := hdr, additional := [r] } := by
  obtain ⟨qd, an, ns, ar, p, q, s, -, h2, h3, h4, -, h6, h7, h8, h9⟩ :=
    message_eq_some.1 (decode_eq_some.1 h)
  have hnone : ar.toNat = 0 := by
    rw [← length_of_many h9, hadd]
    rfl
  have hs : s = m.length := by
    rw [hnone] at h9
    exact (Prod.mk.inj (Option.some.inj h9)).2
  have hp : 12 ≤ p := (Stable.many stable_question _).le h6
  have hq : p ≤ q := (Stable.many stable_record _).le h7
  have hlast : many record (UInt16.toNat 1) m' s = some ([r], m'.length) :=
    bind_eq_some.2 ⟨r, _, by rw [hs]; exact hrec, rfl⟩
  refine decode_eq_some.2 (message_eq_some.2 ⟨qd, an, ns, 1, p, q, s, hhdr, ?_, ?_, ?_, har, ?_, ?_,
    ?_, hlast⟩)
  · rw [u16_congr (hcounts 4 (by decide) (by decide)) (hcounts 5 (by decide) (by decide))]
    exact h2
  · rw [u16_congr (hcounts 6 (by decide) (by decide)) (hcounts 7 (by decide) (by decide))]
    exact h3
  · rw [u16_congr (hcounts 8 (by decide) (by decide)) (hcounts 9 (by decide) (by decide))]
    exact h4
  · exact (Stable.many stable_question _).extend hext (Nat.le_refl 12) h6
  · exact (Stable.many stable_record _).extend hext hp h7
  · exact (Stable.many stable_record _).extend hext (Nat.le_trans hp hq) h8

/-- A message with other fields in its header. -/
theorem decode_header {m m' : Bytes} {msg : Message} {hdr : Header} (h : decode m = some msg)
    (hhdr : header m' 0 = some (hdr, 4)) (hsame : ∀ i, 4 ≤ i → m'[i]? = m[i]?)
    (hlen : m'.length = m.length) : decode m' = some { msg with header := hdr } := by
  obtain ⟨qd, an, ns, ar, p, q, r, -, h2, h3, h4, h5, h6, h7, h8, h9⟩ :=
    message_eq_some.1 (decode_eq_some.1 h)
  have hext : Extends 12 m m' := by
    intro i b hi hb
    rw [hsame i (by omega)]
    exact hb
  have hu16 : ∀ pos, 4 ≤ pos → u16 m' pos = u16 m pos :=
    fun pos hpos => u16_congr (hsame pos hpos) (hsame (pos + 1) (by omega))
  have hp : 12 ≤ p := (Stable.many stable_question _).le h6
  have hq : p ≤ q := (Stable.many stable_record _).le h7
  have hr : q ≤ r := (Stable.many stable_record _).le h8
  rw [decode_eq_some, hlen]
  refine message_eq_some.2 ⟨qd, an, ns, ar, p, q, r, hhdr, ?_, ?_, ?_, ?_, ?_, ?_, ?_, ?_⟩
  · rw [hu16 4 (by decide), h2]
  · rw [hu16 6 (by decide), h3]
  · rw [hu16 8 (by decide), h4]
  · rw [hu16 10 (by decide), h5]
  · exact (Stable.many stable_question _).extend hext (Nat.le_refl 12) h6
  · exact (Stable.many stable_record _).extend hext hp h7
  · exact (Stable.many stable_record _).extend hext (Nat.le_trans hp hq) h8
  · exact (Stable.many stable_record _).extend hext (by omega) h9

/-- Another id. -/
theorem decode_setId {m : Bytes} {msg : Message} (h : decode m = some msg) (id : UInt16) :
    decode (be16 id ++ m.drop 2) = some { msg with header := { msg.header with id } } := by
  have h12 := le_length_of_decode h
  obtain ⟨_, _, _, _, _, _, _, hhdr, _⟩ := message_eq_some.1 (decode_eq_some.1 h)
  obtain ⟨_, _, f, g, -, -, hf, hg, hof, -⟩ := header_eq_some.1 hhdr
  have hsame : ∀ i, 2 ≤ i → (be16 id ++ m.drop 2)[i]? = m[i]? := by
    intro i hi
    rw [List.getElem?_append_right hi, List.getElem?_drop]
    show m[2 + (i - 2)]? = m[i]?
    rw [Nat.add_sub_cancel' hi]
  refine decode_header h ?_ (fun i hi => hsame i (by omega)) ?_
  · refine header_eq_some.2 ⟨_, _, f, g, rfl, rfl, ?_, ?_, ?_, rfl⟩
    · rw [hsame _ (by decide)]
      exact hf
    · rw [hsame _ (by decide)]
      exact hg
    · rw [ofBe16_be16, hof]
      rfl
  · rw [List.length_append, List.length_drop]
    show 2 + (m.length - 2) = m.length
    omega

/-! ## The length of a query -/

/-- The first name of a message holds no pointer, so its bytes are those of its labels. -/
theorem labels_le {m : Bytes} : ∀ {fuel start room pos pos' : Nat} {ls : Name}, start ≤ 12 →
    1 ≤ room → labels fuel start room m pos = some (ls, pos') → pos' ≤ pos + room
  | 0, _, _, _, _, _, _, _, h => by cases h
  | fuel + 1, start, room, pos, pos', ls, hs, hr, h => by
    obtain ⟨len, p1, h1, h⟩ := bind_eq_some.1 h
    obtain ⟨-, rfl⟩ := u8_eq_some.1 h1
    split at h
    · cases h
      omega
    split at h
    · obtain ⟨_, p2, h2, h⟩ := bind_eq_some.1 h
      obtain ⟨hroom, rfl⟩ := guard_eq_some.1 h2
      obtain ⟨label, p3, h3, h⟩ := bind_eq_some.1 h
      obtain rfl := pos_of_bytes h3
      obtain ⟨rest, p4, h4, h⟩ := bind_eq_some.1 h
      have hrest := labels_le hs (by omega) h4
      cases h
      omega
    split at h
    · obtain ⟨lo, p2, -, h⟩ := bind_eq_some.1 h
      split at h
      · omega
      · cases h
    · cases h

/-- A message with one question and no record has at most 12 + 255 + 4 bytes. -/
theorem length_le_of_question {m : Bytes} {msg : Message} (h : decode m = some msg)
    (hq : msg.question.length = 1) (ha : msg.answer = []) (hn : msg.authority = [])
    (hr : msg.additional = []) : m.length ≤ 271 := by
  obtain ⟨qd, an, ns, ar, p, q, r, -, -, -, -, -, h6, h7, h8, h9⟩ :=
    message_eq_some.1 (decode_eq_some.1 h)
  have hqd : qd.toNat = 1 := by rw [← length_of_many h6, hq]
  have hsame : ∀ {k : UInt16} {a b : Nat}, many record k.toNat m a = some ([], b) → b = a := by
    intro k a b hk
    rw [show k.toNat = 0 from (length_of_many hk).symm] at hk
    exact (Prod.mk.inj (Option.some.inj hk)).2.symm
  rw [ha] at h7
  rw [hn] at h8
  rw [hr] at h9
  rw [hqd] at h6
  obtain ⟨qu, p1, h1, h6⟩ := bind_eq_some.1 h6
  obtain ⟨_, p2, h2, h6⟩ := bind_eq_some.1 h6
  cases h2
  obtain ⟨-, rfl⟩ := Prod.mk.inj (Option.some.inj h6)
  obtain ⟨qname, p3, h3, h1⟩ := bind_eq_some.1 h1
  obtain ⟨start, p4, h4, h3⟩ := bind_eq_some.1 h3
  cases h4
  have hname := labels_le (Nat.le_refl 12) (by decide) h3
  obtain ⟨_, p5, h5, h1⟩ := bind_eq_some.1 h1
  obtain ⟨_, _, -, -, -, rfl⟩ := u16_eq_some.1 h5
  obtain ⟨_, p6, h6, h1⟩ := bind_eq_some.1 h1
  obtain ⟨_, _, -, -, -, rfl⟩ := u16_eq_some.1 h6
  cases h1
  have h7 := hsame h7
  have h8 := hsame h8
  have h9 := hsame h9
  omega

/-! ## Records without data, and the AD bit -/

/-- A record of the root without data, of a type whose data are not looked into. -/
theorem record_root {m : Bytes} {pos : Nat} {t0 t1 c0 c1 l0 l1 l2 l3 : UInt8}
    (hm : (m.drop pos).take 11 = [0, t0, t1, c0, c1, l0, l1, l2, l3, 0, 0])
    (hlayout : layout (ofBe16 t0 t1) 0 = [.bytes 0]) :
    record m pos =
      some (⟨[], ofBe16 t0 t1, ofBe16 c0 c1, ofBe32 l0 l1 l2 l3, [.bytes []]⟩, pos + 11) := by
  have hget : ∀ i < 11, m[pos + i]? = [0, t0, t1, c0, c1, l0, l1, l2, l3, 0, 0][i]? := by
    intro i hi
    rw [← hm, List.getElem?_take_of_lt hi, List.getElem?_drop]
  have hroot : name m pos = some ([], pos + 1) :=
    bind_eq_some.2 ⟨pos, pos, rfl,
      bind_eq_some.2 ⟨0, pos + 1, u8_eq_some.2 ⟨hget 0 (by decide), rfl⟩, rfl⟩⟩
  have hdata : rdata (ofBe16 t0 t1) 0 m (pos + 11) = some ([.bytes []], pos + 11) := by
    rw [rdata, hlayout]
    refine bind_eq_some.2 ⟨pos + 11, pos + 11, rfl, ?_⟩
    refine bind_eq_some.2 ⟨[.bytes []], pos + 11, rfl, ?_⟩
    refine bind_eq_some.2 ⟨pos + 11, pos + 11, rfl, ?_⟩
    exact bind_eq_some.2 ⟨(), pos + 11, guard_eq_some.2 ⟨rfl, rfl⟩, rfl⟩
  refine bind_eq_some.2 ⟨[], pos + 1, hroot, ?_⟩
  refine bind_eq_some.2 ⟨_, pos + 3, u16_eq_some.2 ⟨t0, t1, hget 1 (by decide), hget 2 (by decide),
    rfl, rfl⟩, ?_⟩
  refine bind_eq_some.2 ⟨_, pos + 5, u16_eq_some.2 ⟨c0, c1, hget 3 (by decide), hget 4 (by decide),
    rfl, rfl⟩, ?_⟩
  refine bind_eq_some.2 ⟨ofBe32 l0 l1 l2 l3, pos + 9, ?_, ?_⟩
  · refine bind_eq_some.2 ⟨l0, pos + 6, u8_eq_some.2 ⟨hget 5 (by decide), rfl⟩, ?_⟩
    refine bind_eq_some.2 ⟨l1, pos + 7, u8_eq_some.2 ⟨hget 6 (by decide), rfl⟩, ?_⟩
    refine bind_eq_some.2 ⟨l2, pos + 8, u8_eq_some.2 ⟨hget 7 (by decide), rfl⟩, ?_⟩
    exact bind_eq_some.2 ⟨l3, pos + 9, u8_eq_some.2 ⟨hget 8 (by decide), rfl⟩, rfl⟩
  refine bind_eq_some.2 ⟨0, pos + 11, u16_eq_some.2 ⟨0, 0, hget 9 (by decide), hget 10 (by decide),
    by decide, rfl⟩, ?_⟩
  exact bind_eq_some.2 ⟨_, pos + 11, hdata, rfl⟩

/-- The AD bit. -/
theorem Header.ofBytes_ad (id : UInt16) (f g : UInt8) :
    Header.ofBytes id f (g ||| 32) = { Header.ofBytes id f g with ad := true } := by
  have hbit : ∀ i, i ≠ 5 → (g ||| 32).toNat.testBit i = g.toNat.testBit i := by
    intro i hi
    have h32 : Nat.testBit 32 i = false := by
      rw [show 32 = 2 ^ 5 from rfl, Nat.testBit_two_pow]
      simpa using Ne.symm hi
    rw [UInt8.toNat_or, Nat.testBit_or, show UInt8.toNat 32 = 32 from rfl, h32, Bool.or_false]
  have had : (g ||| 32).toNat.testBit 5 = true := by
    rw [UInt8.toNat_or, Nat.testBit_or, show Nat.testBit (UInt8.toNat 32) 5 = true from by decide,
      Bool.or_true]
  have hrcode : (g ||| 32).toNat % 16 = g.toNat % 16 := by
    refine Nat.eq_of_testBit_eq fun i => ?_
    rw [show 16 = 2 ^ 4 from rfl, Nat.testBit_mod_two_pow, Nat.testBit_mod_two_pow]
    by_cases hi : i < 4
    · rw [hbit i (by omega)]
    · simp [hi]
  simp only [Header.ofBytes, had, hrcode, hbit 7 (by decide), hbit 6 (by decide), hbit 4 (by decide)]

end Dns
