import Dnsmeter.Proof.NetStat
import Dnsmeter.Proof.Ppl7
import Mathlib.Data.List.OfFn

/-!
# The table of network interfaces

`sampleNetwork` takes a line for an interface if its first colon stands behind two characters at
least, one more than a name has to have.

* `NetDevTable`: the tables in `/proc/net/dev`.
* `sampleLine_text`: a line of the table, `sampleNetwork_table`: the whole table.
* `net_dev_iff`: when every interface of the table gets its entry.
-/

namespace Dnsmeter

open Lines Decimal

/-- A counter in a line, with `gap` blanks more before it than the one that has to be there. -/
structure Column where
  gap : Nat
  digits : Bytes
  number : IsNumber digits
  value_lt : value digits < 2 ^ 64

def Column.text (c : Column) : Bytes := 32 :: (List.replicate c.gap 32 ++ c.digits)

def Column.counter (c : Column) : UInt64 := .ofNat (value c.digits)

/-- The line of an interface: its name behind `pad` blanks, a colon, and the counters. -/
structure NetDevLine where
  pad : Nat
  name : Bytes
  receive : Fin 8 → Column
  transmit : Fin 8 → Column
  name_length : 1 ≤ name.length ∧ name.length ≤ 15
  name_chars : ∀ b ∈ name, isBlank b = false ∧ b ≠ 47 ∧ b ≠ 58

namespace NetDevLine

def columns (l : NetDevLine) : List Column := List.ofFn l.receive ++ List.ofFn l.transmit

/-- The line without the blanks around it. -/
def core (l : NetDevLine) : Bytes := l.name ++ 58 :: l.columns.flatMap Column.text

def text (l : NetDevLine) : Bytes := List.replicate l.pad 32 ++ (l.core ++ [10])

/-- What the line says: the first four counters of each group. -/
def interface (l : NetDevLine) : Interface where
  name := l.name
  receive := ⟨(l.receive 0).counter, (l.receive 1).counter, (l.receive 2).counter,
    (l.receive 3).counter⟩
  transmit := ⟨(l.transmit 0).counter, (l.transmit 1).counter, (l.transmit 2).counter,
    (l.transmit 3).counter⟩

end NetDevLine

/-- A table of the kernel: two lines without a colon, and a line for each interface. -/
structure NetDevTable where
  header1 : Bytes
  header2 : Bytes
  lines : List NetDevLine
  header_chars : ∀ b ∈ header1 ++ header2, b ≠ 10 ∧ b ≠ 58
  distinct : (lines.map NetDevLine.name).Nodup
  /-- A name, 16 numbers of 20 digits at most and what separates them have 353 bytes. -/
  fits : ∀ l ∈ lines, l.text.length ≤ 2048

def NetDevTable.text (t : NetDevTable) : Bytes :=
  t.header1 ++ 10 :: (t.header2 ++ 10 :: t.lines.flatMap NetDevLine.text)

/-! ## A line -/

theorem Column.digit_ne {c : Column} {b d : UInt8} (h : b ∈ c.digits) (hd : ¬ IsDigit d) : b ≠ d :=
  fun heq => hd (heq ▸ c.number.digits b h)

theorem isBlank_of_isDigit {b : UInt8} (h : IsDigit b) : isBlank b = false := by
  refine decide_eq_false ?_
  rintro (rfl | rfl | rfl | rfl)
  all_goals exact absurd h (by decide)

theorem Column.mem_text {c : Column} {b : UInt8} (h : b ∈ c.text) : b = 32 ∨ IsDigit b := by
  rcases List.mem_cons.1 h with rfl | h
  · exact .inl rfl
  rcases List.mem_append.1 h with h | h
  · exact .inl (List.eq_of_mem_replicate h)
  · exact .inr (c.number.digits b h)

/-- **The tokens of a line** are what stands before its counters, and the counters. -/
theorem strTok_columns (cs : List Column) {word : Bytes} (h : 32 ∉ word) (hne : word ≠ []) :
    strTok (word ++ cs.flatMap Column.text) = word :: cs.map Column.digits := by
  induction cs generalizing word with
  | nil =>
    rw [List.flatMap_nil, List.append_nil]
    exact strTok_last h hne
  | cons c cs ih =>
    have hdigits : (32 : UInt8) ∉ c.digits := fun hmem => c.digit_ne hmem (by decide) rfl
    rw [List.flatMap_cons, Column.text, List.cons_append, strTok_word h hne, List.append_assoc,
      strTok_blanks, ih hdigits c.number.ne_nil, List.map_cons]

theorem tokNumber_columns {cs : List Column} {i : Nat} {c : Column} (word : Bytes)
    (h : cs[i]? = some c) : tokNumber (word :: cs.map Column.digits) (i + 1) = .ok c.counter := by
  rw [tokNumber, List.getElem?_cons_succ, List.getElem?_map, h]
  exact congrArg _ (toUnsignedLong_number c.number c.value_lt)

theorem flatMap_text_last {cs : List Column} (h : cs ≠ []) :
    ∃ front c, cs.flatMap Column.text = front ++ Column.digits c := by
  obtain ⟨init, c, rfl⟩ := List.eq_nil_or_concat' cs |>.resolve_left h
  refine ⟨init.flatMap Column.text ++ (32 :: List.replicate c.gap 32), c, ?_⟩
  rw [List.flatMap_append, List.flatMap_singleton, Column.text, List.append_assoc, List.cons_append]

namespace NetDevLine

variable (l : NetDevLine)

theorem getElem?_receive (i : Fin 8) : l.columns[i.val]? = some (l.receive i) := by
  rw [columns, List.getElem?_append_left (by rw [List.length_ofFn]; exact i.isLt), List.getElem?_ofFn,
    dif_pos i.isLt]

theorem getElem?_transmit (i : Fin 8) : l.columns[8 + i.val]? = some (l.transmit i) := by
  rw [columns, List.getElem?_append_right (by rw [List.length_ofFn]; omega), List.length_ofFn,
    Nat.add_sub_cancel_left, List.getElem?_ofFn, dif_pos i.isLt]

theorem name_ne_nil : l.name ≠ [] := by
  intro h
  have := l.name_length.1
  rw [h] at this
  cases this

theorem name_not_mem {b : UInt8} (h : isBlank b = true ∨ b = 58) : b ∉ l.name := by
  intro hmem
  obtain ⟨hblank, -, hcolon⟩ := l.name_chars b hmem
  rcases h with h | h
  · rw [hblank] at h
    cases h
  · exact hcolon h

/-- Besides its name a line has blanks, a colon and digits. -/
theorem not_mem_core {b : UInt8} (h : b ≠ 32 ∧ b ≠ 58) (hdigit : ¬ IsDigit b) (hname : b ∉ l.name) :
    b ∉ l.core := by
  intro hmem
  rcases List.mem_append.1 hmem with hmem | hmem
  · exact hname hmem
  rcases List.mem_cons.1 hmem with hcolon | hmem
  · exact h.2 hcolon
  obtain ⟨c, -, hc⟩ := List.mem_flatMap.1 hmem
  rcases Column.mem_text hc with hblank | hd
  · exact h.1 hblank
  · exact hdigit hd

theorem trim_text : trim l.text = l.core := by
  have hcolumns : l.columns ≠ [] := by
    intro h
    have := l.getElem?_receive 0
    rw [h] at this
    cases this
  obtain ⟨front, c, hc⟩ := flatMap_text_last hcolumns
  have hcore : l.core = (l.name ++ 58 :: front) ++ c.digits := by
    rw [core, hc, List.append_assoc, List.cons_append]
  have hne : l.core ≠ [] := by
    rw [core]
    simp
  refine trim_eq (fun b hb => ?_) hne ?_ ?_ (fun b hb => ?_)
  · rw [List.eq_of_mem_replicate hb]
    rfl
  · have hhead : l.core.head hne = l.name.head l.name_ne_nil := List.head_append_of_ne_nil _
    rw [hhead]
    exact (l.name_chars _ (List.head_mem _)).1
  · have hlast : l.core.getLast hne = c.digits.getLast c.number.ne_nil := by
      simp only [hcore]
      exact List.getLast_append_of_ne_nil _ _
    rw [hlast]
    exact isBlank_of_isDigit (c.number.digits _ (List.getLast_mem c.number.ne_nil))
  · rw [List.mem_singleton.1 hb]
    rfl

/-- **What is read from a line.** -/
theorem parseInterface_core : parseInterface l.core l.name.length = .ok l.interface := by
  have hword : (32 : UInt8) ∉ l.name ++ [58] := by
    rw [List.mem_append, not_or]
    exact ⟨l.name_not_mem (.inl rfl), by decide⟩
  have hcore : l.core = (l.name ++ [58]) ++ l.columns.flatMap Column.text := by
    rw [core, List.append_assoc]
    rfl
  have htab : l.core.map (fun b => if b = 9 then 32 else b) = l.core := by
    refine (List.map_congr_left fun b hb => if_neg ?_).trans (List.map_id _)
    rintro rfl
    exact l.not_mem_core (by decide) (by decide) (l.name_not_mem (.inl rfl)) hb
  have htok : strTok (l.core.map fun b => if b = 9 then 32 else b) =
      (l.name ++ [58]) :: l.columns.map Column.digits := by
    rw [htab, hcore, strTok_columns _ hword (by simp)]
  have hname : l.core.take l.name.length = l.name := List.take_left' rfl
  have hr : ∀ i : Fin 8, tokNumber ((l.name ++ [58]) :: l.columns.map Column.digits) (i.val + 1) =
      .ok (l.receive i).counter := fun i => tokNumber_columns _ (l.getElem?_receive i)
  have ht : ∀ i : Fin 8, tokNumber ((l.name ++ [58]) :: l.columns.map Column.digits)
      (8 + i.val + 1) = .ok (l.transmit i).counter :=
    fun i => tokNumber_columns _ (l.getElem?_transmit i)
  have hreceive : tokNetwork ((l.name ++ [58]) :: l.columns.map Column.digits) 1 =
      .ok l.interface.receive := by
    have h0 : tokNumber _ 1 = _ := hr 0
    have h1 : tokNumber _ (1 + 1) = _ := hr 1
    have h2 : tokNumber _ (1 + 2) = _ := hr 2
    have h3 : tokNumber _ (1 + 3) = _ := hr 3
    rw [tokNetwork, h0, h1, h2, h3]
    rfl
  have htransmit : tokNetwork ((l.name ++ [58]) :: l.columns.map Column.digits) 9 =
      .ok l.interface.transmit := by
    have h0 : tokNumber _ 9 = _ := ht 0
    have h1 : tokNumber _ (9 + 1) = _ := ht 1
    have h2 : tokNumber _ (9 + 2) = _ := ht 2
    have h3 : tokNumber _ (9 + 3) = _ := ht 3
    rw [tokNetwork, h0, h1, h2, h3]
    rfl
  simp only [parseInterface, htok, hname, hreceive, htransmit]
  rfl

/-- **A line of the table**: the interface is added unless its name is a single character. -/
theorem sampleLine_text (s : SystemStat) : sampleLine s l.text =
    .ok (if 2 ≤ l.name.length then s.addInterface l.interface else s) := by
  have hcolon : (58 : UInt8) ∉ l.name := fun h => (l.name_chars 58 h).2.2 rfl
  have hinstr : instr l.core 58 = l.name.length := instr_eq hcolon _
  simp only [sampleLine, l.trim_text, hinstr, Int.toNat_natCast, l.parseInterface_core]
  by_cases h2 : 2 ≤ l.name.length
  · rw [if_pos (by omega), if_pos h2]
    rfl
  · rw [if_neg (by omega), if_neg h2]

end NetDevLine

/-! ## The table -/

theorem sampleLine_of_not_mem {piece : Bytes} (h : 58 ∉ piece) (s : SystemStat) :
    sampleLine s piece = .ok s := by
  have htrim : 58 ∉ trim piece := fun hmem => h (mem_of_mem_trim hmem)
  simp only [sampleLine, instr_of_not_mem htrim]
  rfl

theorem foldlM_header : ∀ {ps : List Bytes}, (∀ piece ∈ ps, 58 ∉ piece) → ∀ s : SystemStat,
    ps.foldlM sampleLine s = .ok s
  | [], _, _ => rfl
  | piece :: ps, h, s => by
    rw [List.foldlM_cons, sampleLine_of_not_mem (h piece List.mem_cons_self)]
    exact foldlM_header (fun p hp => h p (List.mem_cons_of_mem piece hp)) s

theorem foldlM_text (ls : List NetDevLine) (s : SystemStat) :
    (ls.map NetDevLine.text).foldlM sampleLine s =
      .ok (((ls.map NetDevLine.interface).filter Interface.isLong).foldl .addInterface s) := by
  induction ls generalizing s with
  | nil => rfl
  | cons l ls ih =>
    rw [List.map_cons, List.foldlM_cons, l.sampleLine_text]
    refine (ih _).trans ?_
    rw [List.map_cons]
    by_cases h2 : 2 ≤ l.name.length
    · have hlong : l.interface.isLong = true := decide_eq_true h2
      rw [if_pos h2, List.filter_cons_of_pos hlong, List.foldl_cons]
    · have hshort : ¬ l.interface.isLong = true := decide_eq_true_iff.not.2 h2
      rw [if_neg h2, List.filter_cons_of_neg hshort]

namespace NetDevLine

theorem lines_flatMap_text (ls : List NetDevLine) :
    lines 10 (ls.flatMap text) = ls.map text := by
  induction ls with
  | nil => rfl
  | cons l ls ih =>
    have hbody : 10 ∉ List.replicate l.pad 32 ++ l.core := by
      rw [List.mem_append, not_or]
      exact ⟨fun h => absurd (List.eq_of_mem_replicate h) (by decide),
        l.not_mem_core (by decide) (by decide) (l.name_not_mem (.inl rfl))⟩
    have htext : l.text ++ ls.flatMap text =
        (List.replicate l.pad 32 ++ l.core) ++ 10 :: ls.flatMap text := by
      simp [text]
    rw [List.flatMap_cons, htext, lines_cons hbody, ih, List.map_cons, text, List.append_assoc]

end NetDevLine

namespace NetDevTable

variable (t : NetDevTable)

/-- **What is made of a table.** -/
theorem sampleNetwork_text (s : SystemStat) : sampleNetwork s t.text =
    .ok (((t.lines.map NetDevLine.interface).filter Interface.isLong).foldl .addInterface
      { s with netTotal := { s.netTotal with receive := .zero, transmit := .zero } }) := by
  have hheader : ∀ h, (∀ b ∈ h, b ∈ t.header1 ++ t.header2) → 10 ∉ h ∧
      ∀ piece ∈ pieces 2048 (h ++ [10]), 58 ∉ piece := by
    intro h hin
    refine ⟨fun hmem => (t.header_chars 10 (hin 10 hmem)).1 rfl, fun piece hpiece hmem => ?_⟩
    have hflat : 58 ∈ (pieces 2048 (h ++ [10])).flatten := List.mem_flatten.2 ⟨piece, hpiece, hmem⟩
    rw [flatten_pieces (by decide), List.mem_append] at hflat
    rcases hflat with hflat | hflat
    · exact (t.header_chars 58 (hin 58 hflat)).2 rfl
    · exact absurd hflat (by decide)
  obtain ⟨h1, hp1⟩ := hheader t.header1 fun b hb => List.mem_append_left _ hb
  obtain ⟨h2, hp2⟩ := hheader t.header2 fun b hb => List.mem_append_right _ hb
  have hpieces : (t.lines.map NetDevLine.text).flatMap (pieces 2048) =
      t.lines.map NetDevLine.text := by
    rw [List.flatMap_map, List.map_eq_flatMap]
    refine List.flatMap_congr fun l hl => ?_
    exact pieces_of_le (by decide) (by simp [NetDevLine.text]) (t.fits l hl)
  rw [sampleNetwork, getsAll_eq (by decide), text, lines_cons h1, lines_cons h2,
    NetDevLine.lines_flatMap_text, List.flatMap_cons, List.flatMap_cons, hpieces, List.foldlM_append,
    foldlM_header hp1]
  show List.foldlM sampleLine _ (_ ++ _) = _
  rw [List.foldlM_append, foldlM_header hp2]
  exact foldlM_text t.lines _

/-- Every interface has one entry, under its name and with its counters, and the totals are the sums
over all of them. -/
structure ParsedCompletely (t : NetDevTable) (s : SystemStat) : Prop where
  entries : s.interfaces.entries = t.lines.map fun l => (l.name, l.interface)
  receive : s.netTotal.receive = (t.lines.map (·.interface.receive)).sum
  transmit : s.netTotal.transmit = (t.lines.map (·.interface.transmit)).sum

variable {t : NetDevTable} {s : SystemStat}

/-- Entries with new names come behind the others. -/
theorem entries_foldl_addInterface : ∀ {l : List Interface} {s : SystemStat},
    (l.map Interface.name).Nodup → (∀ nif ∈ l, s.interfaces.find? nif.name = none) →
      (l.foldl SystemStat.addInterface s).interfaces.entries =
        s.interfaces.entries ++ l.map fun nif => (nif.name, nif)
  | [], s, _, _ => (List.append_nil _).symm
  | nif :: l, s, hn, hs => by
    obtain ⟨hfresh, hn⟩ := List.nodup_cons.1 hn
    have hadd : (s.addInterface nif).interfaces =
        ⟨s.interfaces.entries ++ [(nif.name, nif)]⟩ := by
      rw [SystemStat.addInterface, InsertMap.insert, hs nif List.mem_cons_self]
    have hrest : ∀ x ∈ l, (s.addInterface nif).interfaces.find? x.name = none := by
      intro x hx
      have hne : x.name ≠ nif.name := fun h => hfresh (h ▸ List.mem_map_of_mem hx)
      rw [SystemStat.addInterface, InsertMap.find?_insert, hs x (List.mem_cons_of_mem nif hx),
        if_neg hne]
      rfl
    rw [List.foldl_cons, entries_foldl_addInterface hn hrest, hadd, List.append_assoc]
    rfl

/-- **The entries of a table** are its interfaces with a name of two characters at least. -/
theorem entries_sample (total : Interface) {s : SystemStat}
    (h : sampleNetwork ⟨total, .empty⟩ t.text = .ok s) : s.interfaces.entries =
      ((t.lines.map NetDevLine.interface).filter Interface.isLong).map fun nif => (nif.name, nif) := by
  have hnames : ((t.lines.map NetDevLine.interface).map Interface.name).Nodup := by
    rw [List.map_map]
    exact t.distinct
  rw [t.sampleNetwork_text] at h
  cases h
  exact entries_foldl_addInterface (hnames.sublist (List.filter_sublist.map _)) fun _ _ => rfl

/-- **When a table is parsed completely**: no interface has a name of one character. -/
theorem net_dev_iff (t : NetDevTable) (total : Interface) :
    (∃ s, sampleNetwork ⟨total, .empty⟩ t.text = .ok s ∧ t.ParsedCompletely s) ↔
      ∀ l ∈ t.lines, 2 ≤ l.name.length := by
  constructor
  · rintro ⟨s, hs, hparsed⟩ l hl
    have hmem : (l.name, l.interface) ∈ s.interfaces.entries := by
      rw [hparsed.entries]
      exact List.mem_map_of_mem hl
    rw [entries_sample total hs] at hmem
    obtain ⟨nif, hn, heq⟩ := List.mem_map.1 hmem
    obtain ⟨-, rfl⟩ := Prod.mk.inj heq
    exact of_decide_eq_true (List.mem_filter.1 hn).2
  · intro h
    have hall : (t.lines.map NetDevLine.interface).filter Interface.isLong =
        t.lines.map NetDevLine.interface := by
      refine List.filter_eq_self.2 fun nif hn => ?_
      obtain ⟨l, hl, rfl⟩ := List.mem_map.1 hn
      exact decide_eq_true (h l hl)
    have hsample := t.sampleNetwork_text ⟨total, .empty⟩
    refine ⟨_, hsample, ?_, ?_, ?_⟩
    · rw [entries_sample total hsample, hall, List.map_map]
      rfl
    · rw [hall, (netTotal_foldl_addInterface _ _).1, List.map_map]
      exact zero_add _
    · rw [hall, (netTotal_foldl_addInterface _ _).2, List.map_map]
      exact zero_add _

/-- The line of an interface that has received 7 and sent 9 of everything. -/
def oneLine (name : String) (h : 1 ≤ (ascii name).length ∧ (ascii name).length ≤ 15)
    (hc : ∀ b ∈ ascii name, isBlank b = false ∧ b ≠ 47 ∧ b ≠ 58) : NetDevLine where
  pad := 2
  name := ascii name
  receive _ := ⟨3, ascii "7", by decide +kernel, by decide⟩
  transmit _ := ⟨3, ascii "9", by decide +kernel, by decide⟩
  name_length := h
  name_chars := hc

/-- A table with an interface `a`. -/
def shortName : NetDevTable where
  header1 := ascii "Inter-|   Receive  |  Transmit"
  header2 := ascii " face |bytes packets errs drop|bytes packets errs drop"
  lines := [oneLine "lo" (by decide) (by decide +kernel), oneLine "a" (by decide) (by decide +kernel)]
  header_chars := by decide +kernel
  distinct := by decide
  fits := by decide

/-- The interface `a` has no entry, and its counters are not in the totals. -/
theorem short_name_skipped : ∃ s, sampleNetwork .new shortName.text = .ok s ∧
    s.interfaces.entries = [(ascii "lo", ⟨ascii "lo", ⟨7, 7, 7, 7⟩, ⟨9, 9, 9, 9⟩⟩)] ∧
    s.netTotal.receive = ⟨7, 7, 7, 7⟩ ∧ ¬ shortName.ParsedCompletely s := by
  refine ⟨_, shortName.sampleNetwork_text .new, by decide +kernel, by decide +kernel, fun h => ?_⟩
  have hlen := congrArg List.length h.entries
  exact absurd hlen (by decide +kernel)

end NetDevTable

end Dnsmeter
