import Dnsmeter.Packet
import Dnsmeter.PayloadFile
import Dnsmeter.Lib.Datagram

/-!
# The buffer of `MakeQuery`

* `addDnssecToQuery_eq`: the three stores of `AddDnssecToQuery`, if there is room for them;
  `addDnssecToQuery_outOfBounds`: one of them goes past the end otherwise.
* `makeQuery_eq`, `makeQuery_rejects`: `MakeQuery` behind the tests on the text of the query.
* `query_buffer_iff`: when `MakeQuery` and `setPayloadDNSQuery` stay inside their buffers.
-/

namespace Dnsmeter

open Datagram

theorem memcpy_of_le {n off : Nat} {b : Block n} {src : Bytes} (h : off + src.length ≤ n) :
    memcpy b off src = .ok (b.store off src h) := dif_pos h

theorem memcpy_of_lt {n off : Nat} {b : Block n} {src : Bytes} (h : n < off + src.length) :
    memcpy b off src = .error .outOfBounds := dif_neg (by omega)

theorem readMem_of_le {mem : Bytes} {off len : Nat} (h : off + len ≤ mem.length) :
    readMem mem off len = .ok (slice mem off len) := if_pos h

/-! ## `AddDnssecToQuery` -/

section
variable {n : Nat} (b : Block n) {base querysize : Nat} (udp : Int32)

theorem length_dnsOpt : (dnsOpt udp).length = 11 := rfl

theorem length_flags (h : base + 12 ≤ n) :
    ((b.load (base + 3) 1).map (· ||| 32)).length = 1 := by
  rw [List.length_map, Block.length_load (by omega)]

/-- The three stores. -/
theorem addDnssecToQuery_eq (h12 : base + 12 ≤ n) (hn : base + querysize + 11 ≤ n) :
    addDnssecToQuery b base querysize udp =
      .ok (((b.store (base + 3) ((b.load (base + 3) 1).map (· ||| 32))
        (by rw [length_flags b h12]; omega)).store (base + 10) (le16 (htons 1))
          (by rw [length_le16]; omega)).store (base + querysize) (dnsOpt udp)
            (by rw [length_dnsOpt]; exact hn),
        querysize + 11) := by
  have hread : readMem b.bytes (base + 3) 1 = .ok (b.load (base + 3) 1) :=
    readMem_of_le (by rw [b.length_eq]; omega)
  have hflags := length_flags b h12
  simp only [addDnssecToQuery, hread, bind, Except.bind, pure, Except.pure]
  rw [memcpy_of_le (by omega)]
  dsimp only
  rw [memcpy_of_le (by rw [length_le16]; omega)]
  dsimp only
  rw [memcpy_of_le (by rw [length_dnsOpt]; exact hn)]

/-- Without room for the header and the record a store goes past the end. -/
theorem addDnssecToQuery_outOfBounds (h : ¬ (base + 12 ≤ n ∧ base + querysize + 11 ≤ n)) :
    addDnssecToQuery b base querysize udp = .error .outOfBounds := by
  by_cases h3 : base + 3 + 1 ≤ n
  · have hread : readMem b.bytes (base + 3) 1 = .ok (b.load (base + 3) 1) :=
      readMem_of_le (by rw [b.length_eq]; exact h3)
    have hflags : ((b.load (base + 3) 1).map (· ||| 32)).length = 1 := by
      rw [List.length_map, Block.length_load h3]
    simp only [addDnssecToQuery, hread, bind, Except.bind, pure, Except.pure]
    rw [memcpy_of_le (by omega)]
    dsimp only
    by_cases h12 : base + 12 ≤ n
    · rw [memcpy_of_le (by rw [length_le16]; omega)]
      dsimp only
      rw [memcpy_of_lt (by rw [length_dnsOpt]; omega)]
    · rw [memcpy_of_lt (by rw [length_le16]; omega)]
  · have hread : readMem b.bytes (base + 3) 1 = .error .outOfBounds :=
      if_neg (by rw [b.length_eq]; exact h3)
    simp only [addDnssecToQuery, hread, bind, Except.bind]

end

/-! ## `MakeQuery` -/

/-- The name and the type code that `MakeQuery` hands to `res_mkquery` for a query it accepts. -/
def resCall (query : Bytes) : Option (Bytes × Nat) :=
  match query.splitOn 32 with
  | [name, type] =>
    ((rrTypes.zip rrCode).find? fun t => cStr (toUpperCase type) = ascii t.1).map fun t =>
      (cStr name, t.2)
  | _ => none

section
variable {n : Nat} {res : ResMkquery} {query : Bytes} {b : Block n} {base buffersize : Nat}
  {dnssec : Bool} {udp : Int32}

/-- The two tokens of a query that is handed to `res_mkquery`. -/
theorem resCall_eq_some {name : Bytes} {code : Nat} (h : resCall query = some (name, code)) :
    ∃ name' type t, query.splitOn 32 = [name', type] ∧ cStr name' = name ∧
      (rrTypes.zip rrCode).find? (fun t => cStr (toUpperCase type) = ascii t.1) = some (t, code) := by
  unfold resCall at h
  split at h
  · rename_i name' type hs
    obtain ⟨⟨t, code'⟩, hfind, heq⟩ := Option.map_eq_some_iff.1 h
    cases heq
    exact ⟨name', type, t, hs, rfl, hfind⟩
  · cases h

theorem makeQuery_rejects (h : resCall query = none) :
    ∃ e, e.isException = true ∧
      makeQuery res query b base buffersize dnssec udp = (b, .error e) := by
  unfold makeQuery
  split
  · rename_i name type hs
    have hnone : (rrTypes.zip rrCode).find? (fun t => cStr (toUpperCase type) = ascii t.1) = none := by
      simp only [resCall, hs, Option.map_eq_none_iff] at h
      exact h
    rw [hnone]
    exact ⟨_, rfl, rfl⟩
  · exact ⟨_, rfl, rfl⟩

theorem makeQuery_outOfBounds {name : Bytes} {code : Nat} (h : resCall query = some (name, code))
    (hw : n < base + (res name code (.ofNat buffersize)).written.length) :
    makeQuery res query b base buffersize dnssec udp = (b, .error .outOfBounds) := by
  obtain ⟨name', type, t, hs, rfl, hfind⟩ := resCall_eq_some h
  simp only [makeQuery, hs, hfind, memcpy_of_lt hw]

/-- What `MakeQuery` does behind the tests on the text. -/
theorem makeQuery_eq {name : Bytes} {code : Nat} (h : resCall query = some (name, code))
    {r : MkqueryResult} (hr : res name code (.ofNat buffersize) = r)
    (hw : base + r.written.length ≤ n) :
    makeQuery res query b base buffersize dnssec udp =
      if r.bytes < 0 then (b.store base r.written hw, .error (.invalidDNSQuery r.hstrerror)) else
      if !dnssec then (b.store base r.written hw, .ok r.bytes.toNat) else
      match addDnssecToQuery (b.store base r.written hw) base r.bytes.toNat udp with
      | .ok (c, size) => (c, .ok size)
      | .error e => (b.store base r.written hw, .error e) := by
  obtain ⟨name', type, t, hs, rfl, hfind⟩ := resCall_eq_some h
  cases hadd : addDnssecToQuery (b.store base r.written hw) base r.bytes.toNat udp with
  | error e => simp only [makeQuery, hs, hfind, hr, memcpy_of_le hw, hadd]
  | ok p =>
    obtain ⟨c, size⟩ := p
    simp only [makeQuery, hs, hfind, hr, memcpy_of_le hw, hadd]

end

/-! ## What `res_mkquery` promises -/

/-- `res_mkquery` writes and returns at most the length it is given, or fails. -/
structure ResMkqueryOk (res : ResMkquery) : Prop where
  written_le : ∀ name code len, ((res name code len).written.length : Int) ≤ max len.toInt 0
  bytes_le : ∀ name code len, 0 ≤ (res name code len).bytes → (res name code len).bytes ≤ len.toInt

/-- `(int)buffersize` is not larger than `buffersize`. -/
theorem toInt_ofNat_le (k : Nat) : (Int32.ofNat k).toInt ≤ k := by
  have h : (Int32.ofNat k).toInt = (k : Int).bmod (2 ^ 32) := by simp
  rw [h, Int.bmod]
  split <;> omega

namespace ResMkqueryOk

variable {res : ResMkquery} (h : ResMkqueryOk res) (name : Bytes) (code buffersize : Nat)
include h

theorem length_written_le : (res name code (.ofNat buffersize)).written.length ≤ buffersize := by
  have h1 := h.written_le name code (.ofNat buffersize)
  have h2 := toInt_ofNat_le buffersize
  omega

theorem toNat_bytes_le : (res name code (.ofNat buffersize)).bytes.toNat ≤ buffersize := by
  have h1 := h.bytes_le name code (.ofNat buffersize)
  have h2 := toInt_ofNat_le buffersize
  omega

end ResMkqueryOk

/-! ## The buffers -/

/-- `MakeQuery` throws, or returns a length of at most `buffersize`, and has written nowhere but into
the `buffersize` bytes at its pointer. -/
structure Honours (res : ResMkquery) (query : Bytes) (buffersize : Nat) (dnssec : Bool) (udp : Int32)
    {n : Nat} (b : Block n) (base : Nat) : Prop where
  inside : Block.SameOutside base (base + buffersize) b
    (makeQuery res query b base buffersize dnssec udp).1
  length_le : ∀ {len}, (makeQuery res query b base buffersize dnssec udp).2 = .ok len →
    len ≤ buffersize
  throws : ∀ {e}, (makeQuery res query b base buffersize dnssec udp).2 = .error e →
    e.isException = true

/-- There is room for the header and for the OPT record behind the query. -/
def RoomForOpt (res : ResMkquery) (query : Bytes) (buffersize : Nat) : Prop :=
  ∀ name code, resCall query = some (name, code) →
    0 ≤ (res name code (.ofNat buffersize)).bytes →
    12 ≤ buffersize ∧ (res name code (.ofNat buffersize)).bytes + 11 ≤ buffersize

section
variable {res : ResMkquery} {query : Bytes} {buffersize : Nat} {dnssec : Bool} {udp : Int32} {n : Nat}
  {b c : Block n} {base : Nat}

theorem Honours.of_ok {len : Nat}
    (h : makeQuery res query b base buffersize dnssec udp = (c, .ok len))
    (hin : Block.SameOutside base (base + buffersize) b c) (hle : len ≤ buffersize) :
    Honours res query buffersize dnssec udp b base := by
  constructor <;> rw [h]
  · exact hin
  · rintro _ ⟨⟩
    exact hle
  · rintro _ ⟨⟩

theorem Honours.of_error {e : Abort}
    (h : makeQuery res query b base buffersize dnssec udp = (c, .error e))
    (hin : Block.SameOutside base (base + buffersize) b c) (he : e.isException = true) :
    Honours res query buffersize dnssec udp b base := by
  constructor <;> rw [h]
  · exact hin
  · rintro _ ⟨⟩
  · rintro _ ⟨⟩
    exact he

theorem honours_of_room (hres : ResMkqueryOk res)
    (hroom : dnssec = true → RoomForOpt res query buffersize) (hn : base + buffersize ≤ n) :
    Honours res query buffersize dnssec udp b base := by
  cases hcall : resCall query with
  | none =>
    obtain ⟨e, he, hmake⟩ := makeQuery_rejects hcall
    exact .of_error hmake (.refl _ _ b) he
  | some call =>
    obtain ⟨name, code⟩ := call
    have hwritten := hres.length_written_le name code buffersize
    have hbytes := hres.toNat_bytes_le name code buffersize
    have hroom' := fun hd => hroom hd name code hcall
    generalize hr : res name code (.ofNat buffersize) = r at hwritten hbytes hroom'
    have hw : base + r.written.length ≤ n := by omega
    have hmake : makeQuery res query b base buffersize dnssec udp = _ := makeQuery_eq hcall hr hw
    have hin : Block.SameOutside base (base + buffersize) b (b.store base r.written hw) :=
      (Block.SameOutside.refl _ _ b).store hw (Nat.le_refl _) (by omega)
    by_cases hneg : r.bytes < 0
    · rw [if_pos hneg] at hmake
      exact .of_error hmake hin rfl
    rw [if_neg hneg] at hmake
    cases dnssec with
    | false => exact .of_ok hmake hin hbytes
    | true =>
      obtain ⟨h12, h11⟩ := hroom' rfl (by omega)
      rw [addDnssecToQuery_eq _ udp (show base + 12 ≤ n by omega)
        (show base + r.bytes.toNat + 11 ≤ n by omega)] at hmake
      have hflags := length_flags (b.store base r.written hw) (show base + 12 ≤ n by omega)
      refine .of_ok hmake ?_ (by omega)
      refine ((hin.store _ (by omega) (by omega)).store _ (by omega) ?_).store _ (by omega) ?_
      · rw [length_le16]
        omega
      · rw [length_dnsOpt]
        omega

/-- In a buffer that ends with `buffersize` the condition is needed. -/
theorem room_of_honours (hres : ResMkqueryOk res)
    (h : Honours res query buffersize true udp (Block.zero buffersize) 0) :
    RoomForOpt res query buffersize := by
  intro name code hcall hpos
  have hwritten := hres.length_written_le name code buffersize
  generalize hr : res name code (.ofNat buffersize) = r at hwritten hpos ⊢
  have hmake : makeQuery res query (Block.zero buffersize) 0 buffersize true udp = _ :=
    makeQuery_eq hcall hr (by omega)
  rw [if_neg (by omega)] at hmake
  by_contra hno
  rw [addDnssecToQuery_outOfBounds _ udp (by omega)] at hmake
  exact absurd (h.throws (by rw [hmake]; rfl)) (by decide)

end

/-- `loadAndCompile` hands over the whole of its buffer: every line is compiled or skipped. -/
theorem compileLine_returns {res : ResMkquery} (hres : ResMkqueryOk res)
    (s : PayloadFile × Block 4096) (line : Bytes) :
    ∃ s', PayloadFile.compileLine res s line = .ok s' := by
  have h : Honours res (trim line) 4096 false 4096 s.2 0 :=
    honours_of_room hres (by rintro ⟨⟩) (Nat.le_refl _)
  unfold PayloadFile.compileLine
  dsimp only
  cases htrim : trim line with
  | nil => exact ⟨s, rfl⟩
  | cons c cs =>
    rw [htrim] at h
    dsimp only
    split
    · exact ⟨s, rfl⟩
    split
    · rename_i compiled size hmake
      have hsize := h.length_le (by rw [hmake])
      rw [readMem_of_le (by rw [compiled.length_eq]; omega)]
      exact ⟨_, rfl⟩
    · rename_i compiled e hmake
      rw [if_pos (h.throws (by rw [hmake]))]
      exact ⟨_, rfl⟩

/-! ## `setPayloadDNSQuery` -/

section
variable {res : ResMkquery} {p : Packet} {query : Bytes} {dnssec : Bool} {buffer : Block MAXPACKETSIZE}

theorem setPayloadDNSQuery_of_ok {size : Nat}
    (h : makeQuery res query p.buffer HDRSZ MAXPACKETSIZE_minus_HDRSZ dnssec 4096 =
      (buffer, .ok size)) :
    (∀ e, (p.setPayloadDNSQuery res query dnssec).2 = .error e → e.isException = true) ↔
      size ≤ 4068 := by
  simp only [Packet.setPayloadDNSQuery, h]
  by_cases hs : HDRSZ + size ≤ MAXPACKETSIZE
  · rw [dif_pos hs]
    exact ⟨fun _ => Nat.le_of_add_le_add_left (a := 28) hs, fun _ => by rintro _ ⟨⟩⟩
  · rw [dif_neg hs]
    refine ⟨fun h => absurd (h _ rfl) (by decide), fun h => absurd ?_ hs⟩
    exact Nat.add_le_add_left h 28

theorem setPayloadDNSQuery_of_error {e : Abort}
    (h : makeQuery res query p.buffer HDRSZ MAXPACKETSIZE_minus_HDRSZ dnssec 4096 =
      (buffer, .error e)) :
    (∀ e, (p.setPayloadDNSQuery res query dnssec).2 = .error e → e.isException = true) ↔
      e.isException = true := by
  simp only [Packet.setPayloadDNSQuery, h]
  constructor
  · exact fun h => h e rfl
  · rintro h _ ⟨⟩
    exact h

/-- **`setPayloadDNSQuery` stays inside the packet** exactly if `res_mkquery`, which may use 4084
bytes, stays inside the 4068 there are, and the query fits in there with its OPT record. -/
theorem setPayloadDNSQuery_iff (p : Packet) (query : Bytes) (dnssec : Bool) :
    (∀ e, (p.setPayloadDNSQuery res query dnssec).2 = .error e → e.isException = true) ↔
      ∀ name code, resCall query = some (name, code) →
        (res name code 4084).written.length ≤ 4068 ∧
        (0 ≤ (res name code 4084).bytes →
          (res name code 4084).bytes + (if dnssec then 11 else 0) ≤ 4068) := by
  cases hcall : resCall query with
  | none =>
    obtain ⟨e, he, hmake⟩ := makeQuery_rejects hcall
    rw [setPayloadDNSQuery_of_error hmake]
    exact ⟨fun _ => by rintro _ _ ⟨⟩, fun _ => he⟩
  | some call =>
    obtain ⟨name, code⟩ := call
    have hone : ∀ {P : Bytes → Nat → Prop}, (∀ name' code',
        some (name, code) = some (name', code') → P name' code') ↔ P name code :=
      ⟨fun h => h _ _ rfl, by rintro h _ _ ⟨⟩; exact h⟩
    rw [hone]
    generalize hr : res name code 4084 = r
    have hr' : res name code (.ofNat MAXPACKETSIZE_minus_HDRSZ) = r := hr
    by_cases hw : HDRSZ + r.written.length ≤ MAXPACKETSIZE
    · have hwritten : r.written.length ≤ 4068 := Nat.le_of_add_le_add_left (a := 28) hw
      have hmake : makeQuery res query p.buffer HDRSZ MAXPACKETSIZE_minus_HDRSZ dnssec 4096 = _ :=
        makeQuery_eq hcall hr' hw
      by_cases hneg : r.bytes < 0
      · rw [if_pos hneg] at hmake
        rw [setPayloadDNSQuery_of_error hmake]
        exact ⟨fun _ => ⟨hwritten, fun _ => by omega⟩, fun _ => rfl⟩
      rw [if_neg hneg] at hmake
      cases dnssec with
      | false =>
        rw [setPayloadDNSQuery_of_ok hmake]
        simp only [Bool.false_eq_true, if_false]
        omega
      | true =>
        simp only [if_true]
        by_cases hopt : HDRSZ + r.bytes.toNat + 11 ≤ MAXPACKETSIZE
        · rw [addDnssecToQuery_eq _ 4096 (by decide) hopt] at hmake
          rw [setPayloadDNSQuery_of_ok hmake]
          omega
        · rw [addDnssecToQuery_outOfBounds _ 4096 fun h => hopt h.2] at hmake
          rw [setPayloadDNSQuery_of_error hmake]
          simp only [HDRSZ, ISZ, USZ, MAXPACKETSIZE] at hopt
          refine ⟨fun h => absurd h (by decide), fun h => ?_⟩
          omega
    · have hmake : makeQuery res query p.buffer HDRSZ MAXPACKETSIZE_minus_HDRSZ dnssec 4096 = _ :=
        makeQuery_outOfBounds hcall (by rw [hr']; omega)
      rw [setPayloadDNSQuery_of_error hmake]
      refine ⟨fun h => absurd h (by decide), fun h => absurd ?_ hw⟩
      exact Nat.add_le_add_left h.1 28

end

/-- **When the buffers of `MakeQuery` hold what is written to them.** `MakeQuery` stays inside the
size it is given exactly if no OPT record is added or there is room for one; `loadAndCompile` passes
the size it has, so no line fails but by an exception; `setPayloadDNSQuery` passes 16 bytes too many
and stays inside the packet only if no more than 4068 bytes are used. -/
theorem query_buffer_iff {res : ResMkquery} (hres : ResMkqueryOk res) :
    (∀ query buffersize dnssec udp,
      (∀ (n base : Nat) (b : Block n), base + buffersize ≤ n →
        Honours res query buffersize dnssec udp b base) ↔
      (dnssec = true → RoomForOpt res query buffersize)) ∧
    (∀ s line, ∃ s', PayloadFile.compileLine res s line = .ok s') ∧
    ¬ HDRSZ + MAXPACKETSIZE_minus_HDRSZ ≤ MAXPACKETSIZE ∧
    ∀ (p : Packet) query dnssec,
      (∀ e, (p.setPayloadDNSQuery res query dnssec).2 = .error e → e.isException = true) ↔
        ∀ name code, resCall query = some (name, code) →
          (res name code 4084).written.length ≤ 4068 ∧
          (0 ≤ (res name code 4084).bytes →
            (res name code 4084).bytes + (if dnssec then 11 else 0) ≤ 4068) := by
  refine ⟨fun query buffersize dnssec udp => ⟨?_, ?_⟩, compileLine_returns hres, by decide,
    setPayloadDNSQuery_iff⟩
  · rintro h rfl
    exact room_of_honours hres (h buffersize 0 (Block.zero buffersize) (by omega))
  · intro hroom n base b hn
    exact honours_of_room hres hroom hn

/-- What `res_mkquery` makes of `www.denic.de A`. -/
def denicQuery : Bytes :=
  [0, 0, 1, 0, 0, 1, 0, 0, 0, 0, 0, 0] ++ [3] ++ ascii "www" ++ [5] ++ ascii "denic" ++ [2] ++
    ascii "de" ++ [0, 0, 1, 0, 1]

/-- A resolver that knows this query, of 30 bytes. -/
def denicResolver : ResMkquery := fun name code len =>
  if name = ascii "www.denic.de" ∧ code = 1 ∧ 30 ≤ len.toInt then ⟨30, denicQuery, []⟩
  else ⟨-1, [], ascii "Host name lookup failure"⟩

theorem denicResolver_ok : ResMkqueryOk denicResolver where
  written_le name code len := by
    unfold denicResolver
    split
    · rename_i h
      exact le_max_of_le_left h.2.2
    · exact le_max_right _ _
  bytes_le name code len := by
    unfold denicResolver
    split
    · rename_i h
      exact fun _ => h.2.2
    · intro h
      exact absurd h (by decide)

/-- A buffer of 41 bytes has room for the query and its OPT record. -/
theorem query_buffer_denic :
    Honours denicResolver (ascii "www.denic.de A") 41 true 4096 (Block.zero 41) 0 := by
  refine ((query_buffer_iff denicResolver_ok).1 (ascii "www.denic.de A") 41 true 4096).2 ?_ 41 0 _
    (Nat.le_refl _)
  intro _ name code hcall _
  have hname : resCall (ascii "www.denic.de A") = some (ascii "www.denic.de", 1) := by decide
  obtain ⟨rfl, rfl⟩ := Prod.mk.inj (Option.some.inj (hname.symm.trans hcall))
  exact ⟨by decide, by decide⟩

/-- A buffer of 30 bytes has room for the query only; the OPT record goes behind it. -/
theorem query_buffer_exceeded : ResMkqueryOk denicResolver ∧
    (makeQuery denicResolver (ascii "www.denic.de A") (Block.zero 64) 0 30 true 4096).2 = .ok 41 ∧
    (makeQuery denicResolver (ascii "www.denic.de A") (Block.zero 64) 0 30 true 4096).1.load 30 34 ≠
      (Block.zero 64).load 30 34 ∧
    ¬ Honours denicResolver (ascii "www.denic.de A") 30 true 4096 (Block.zero 64) 0 ∧
    ¬ HDRSZ + MAXPACKETSIZE_minus_HDRSZ ≤ MAXPACKETSIZE := by
  have hlen : (makeQuery denicResolver (ascii "www.denic.de A") (Block.zero 64) 0 30 true 4096).2 =
      .ok 41 := by decide
  exact ⟨denicResolver_ok, hlen, by decide, fun h => absurd (h.length_le hlen) (by decide), by decide⟩

end Dnsmeter
