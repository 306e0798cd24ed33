import Dnsmeter.CsvFile
import Dnsmeter.Lib.Table
import Dnsmeter.Proof.MainLoop

/-!
# The CSV file over several runs of the program

* `put_eq`, `openCSVFile_eq`: the lines are rows of a table, the first one its titles.
* `saved_lines`: the lines of a run are those of the results it has shown.
* `csv_read_back`: whatever runs append to a new file, it has its titles once, and reading it gives
  the figures of all results.
-/

namespace Dnsmeter

namespace DNSSender

/-! ## Rows -/

def csvTitles : List Bytes :=
  ["#QPS Send", " QPS Received", " QPS Errors", " Lostrate", " rtt_avg", " rtt_min", " rtt_max"].map
    ascii

def CsvLine.fields (printf : Printf) (line : CsvLine) : List Bytes :=
  [Decimal.print line.qpsSend.toNat, Decimal.print line.qpsReceived.toNat,
    Decimal.print line.qpsErrors.toNat, printf.fixed 3 line.lostrate,
    printf.fixed 4 (some line.rttAvg), printf.fixed 4 (some line.rttMin),
    printf.fixed 4 (some line.rttMax)]

theorem putsf_eq (printf : Printf) (line : CsvLine) :
    line.putsf printf = Table.row 59 10 (line.fields printf) := by
  have hsep : ascii ";" = [59] := by decide
  have hend : ascii ";\n" = [59, 10] := by decide
  simp [CsvLine.putsf, CsvLine.fields, Table.row, hsep, hend]

theorem openCSVFile_nil : openCSVFile [] = Table.row 59 10 csvTitles := by
  decide

theorem openCSVFile_of_ne {content : Bytes} (h : content ≠ []) : openCSVFile content = content :=
  if_neg fun h0 => h (List.length_eq_zero_iff.1 h0)

theorem csvContent_eq (printf : Printf) (content : Bytes) (lines : List CsvLine) :
    csvContent printf content lines =
      openCSVFile content ++ Table.table 59 10 (lines.map (CsvLine.fields printf)) := by
  unfold csvContent
  generalize openCSVFile content = start
  induction lines generalizing start with
  | nil => simp [Table.table]
  | cons line lines ih =>
    rw [List.foldl_cons, ih, putsf_eq, List.append_assoc]
    rfl

/-- A number holds neither a separator nor an end of a line. -/
theorem plain_print (n : Nat) : Table.Plain 59 10 (Decimal.print n) := by
  have hdigits := (Decimal.isNumber_print n).digits
  refine ⟨fun h => ?_, fun h => ?_⟩
  · exact absurd (hdigits 59 h) (by decide)
  · exact absurd (hdigits 10 h) (by decide)

theorem plain_fields (printf : Printf) (line : CsvLine) :
    ∀ f ∈ line.fields printf, Table.Plain 59 10 f := by
  simp only [CsvLine.fields, List.forall_mem_cons]
  exact ⟨plain_print _, plain_print _, plain_print _, printf.plain _ _, printf.plain _ _,
    printf.plain _ _, printf.plain _ _, by simp⟩

/-! ## Figures -/

/-- What a line says: queries, answers and errors per second, and the other four as they are printed. -/
structure Figures where
  qpsSend : Nat
  qpsReceived : Nat
  qpsErrors : Nat
  others : List Bytes
deriving DecidableEq

/-- Reads a row of the file. -/
def readFigures : List Bytes → Option Figures
  | a :: b :: c :: others =>
    if Decimal.IsNumber a ∧ Decimal.IsNumber b ∧ Decimal.IsNumber c then
      some ⟨Decimal.value a, Decimal.value b, Decimal.value c, others⟩
    else none
  | _ => none

/-- The figures of a result: whole queries, answers and errors per second of the run time. -/
def figures (printf : Printf) (runtime : Nat) (res : Results) : Figures where
  qpsSend := res.counterSend.toNat / runtime
  qpsReceived := res.counterReceived.toNat / runtime
  qpsErrors := res.counterErrors.toNat / runtime
  others := [printf.fixed 3 (lostrate res), printf.fixed 4 (some (res.rttAvg * 1000)),
    printf.fixed 4 (some (res.rttMin * 1000)), printf.fixed 4 (some (res.rttMax * 1000))]

theorem readFigures_fields (printf : Printf) (line : CsvLine) :
    readFigures (line.fields printf) = some ⟨line.qpsSend.toNat, line.qpsReceived.toNat,
      line.qpsErrors.toNat, [printf.fixed 3 line.lostrate, printf.fixed 4 (some line.rttAvg),
        printf.fixed 4 (some line.rttMin), printf.fixed 4 (some line.rttMax)]⟩ := by
  have hnumber := Decimal.isNumber_print
  simp only [readFigures, CsvLine.fields, hnumber, and_self, if_true, Decimal.value_print]

/-- `(ppluint64)((double)counter / (double)Runtime)` is the whole quotient. -/
theorem toNat_perSecond {s : DNSSender} (h : 1 ≤ s.runtime.toInt) {counter q : UInt64}
    (hq : s.perSecond counter = .ok q) : q.toNat = counter.toNat / s.runtime.toInt.toNat := by
  obtain ⟨k, hk⟩ := Int.eq_ofNat_of_zero_le (show 0 ≤ s.runtime.toInt by omega)
  have hne : ((s.runtime.toInt : ℤ) : ℚ) ≠ 0 := Int.cast_ne_zero.2 (by omega)
  have hdiv : divDouble counter.toNat s.runtime.toInt = some (counter.toNat / s.runtime.toInt : ℚ) :=
    if_neg hne
  have hfloor : ⌊(counter.toNat / s.runtime.toInt : ℚ)⌋.toNat = counter.toNat / k := by
    rw [hk, Int.cast_natCast, Rat.floor_natCast_div_natCast]
    rfl
  simp only [perSecond, hdiv, toPpluint64] at hq
  split at hq
  · cases hq
    have hlt : counter.toNat / k < 2 ^ 64 :=
      Nat.lt_of_le_of_lt (Nat.div_le_self _ _) counter.toNat_lt
    rw [hfloor, UInt64.toNat_ofNat', Nat.mod_eq_of_lt hlt, hk]
    rfl
  · cases hq

/-- `saveResultsToCsv` adds a line with the figures of the result. -/
theorem saveResultsToCsv_figures {s : DNSSender} (h : 1 ≤ s.runtime.toInt) {lines : List CsvLine}
    {res : Results} {csvFile : Option (List CsvLine)}
    (hs : s.saveResultsToCsv (some lines) res = .ok csvFile) (printf : Printf) :
    ∃ line, csvFile = some (lines ++ [line]) ∧
      readFigures (line.fields printf) = some (figures printf s.runtime.toInt.toNat res) := by
  obtain ⟨qpsSend, h1, hs⟩ := Run.bind_ok_iff.1 hs
  obtain ⟨qpsReceived, h2, hs⟩ := Run.bind_ok_iff.1 hs
  obtain ⟨qpsErrors, h3, hs⟩ := Run.bind_ok_iff.1 hs
  cases hs
  refine ⟨_, rfl, ?_⟩
  rw [readFigures_fields, toNat_perSecond h h1, toNat_perSecond h h2, toNat_perSecond h h3]
  rfl

theorem saveResultsToCsv_all {s : DNSSender} (h : 1 ≤ s.runtime.toInt) (printf : Printf) :
    ∀ {saved : List Results} {lines : List CsvLine} {csvFile : Option (List CsvLine)},
      saved.foldlM s.saveResultsToCsv (some lines) = .ok csvFile →
      ∃ added, csvFile = some (lines ++ added) ∧
        added.map (fun line => readFigures (line.fields printf)) =
          saved.map fun res => some (figures printf s.runtime.toInt.toNat res)
  | [], lines, csvFile, hs => by
    cases hs
    exact ⟨[], by simp, rfl⟩
  | res :: saved, lines, csvFile, hs => by
    rw [List.foldlM_cons] at hs
    obtain ⟨file, h1, hs⟩ := Run.bind_ok_iff.1 hs
    obtain ⟨line, rfl, hread⟩ := saveResultsToCsv_figures h h1 printf
    obtain ⟨added, rfl, hadded⟩ := saveResultsToCsv_all h printf hs
    exact ⟨line :: added, by simp, by rw [List.map_cons, List.map_cons, hread, hadded]⟩

end DNSSender

/-! ## Runs -/

namespace Program

open DNSSender (CsvLine Figures csvContent csvTitles readFigures figures)

/-- A run of the program, with a CSV file and at least a second for each rate. -/
structure Invocation where
  s0 : DNSSender
  s : DNSSender
  mem : Nat → Block 4096
  rates : List Int32
  events : List Event
  threadpool : s0.threadpool = []
  prepared : s0.prepareThreads mem = .ok s
  runtime : 1 ≤ s0.runtime.toInt

namespace Invocation

/-- Where it ends, and its log. -/
def final (i : Invocation) : Program × List Output :=
  Run.trace step (start i.s i.rates (some [])) i.events

/-- The lines it has put into the file. -/
def lines (i : Invocation) : List CsvLine := i.final.1.csvFile.getD []

/-- The results it has shown. -/
def shown (i : Invocation) : List Results := results i.final.2

/-- Those it has saved. -/
def saved (i : Invocation) : List Results := i.shown.take i.lines.length

/-- What the figures of these results are. -/
def figures (printf : Printf) (i : Invocation) : List Figures :=
  i.saved.map (DNSSender.figures printf i.s0.runtime.toInt.toNat)

/-- **The lines of a run are those of its results**: of all that were shown, or of all but the last
when an exception ended the program. -/
theorem saved_lines (i : Invocation) (printf : Printf) :
    i.lines.map (fun line => readFigures (line.fields printf)) = (i.figures printf).map some ∧
      i.shown.length ≤ i.saved.length + 1 ∧ (i.final.1.pc = .exited 0 → i.saved = i.shown) := by
  obtain ⟨hordered, -⟩ := ordered_run i.threadpool i.prepared (show
    Run.trace step (start i.s i.rates (some [])) i.events = (i.final.1, i.final.2) from rfl)
  obtain ⟨saved, unsaved, hshown, hle, hnil, hfile⟩ := hordered.saved
  obtain ⟨added, hadded, hfigures⟩ := DNSSender.saveResultsToCsv_all i.runtime printf hfile
  have hlines : i.lines = added := by
    rw [lines, hadded]
    rfl
  have hlength : added.length = saved.length := by
    have := congrArg List.length hfigures
    rwa [List.length_map, List.length_map] at this
  have hshown' : i.shown = saved ++ unsaved := hshown
  have hsaved : i.saved = saved := by
    rw [Invocation.saved, hshown', hlines, hlength, List.take_left]
  refine ⟨?_, ?_, ?_⟩
  · rw [hlines, hfigures, figures, hsaved, List.map_map]
    rfl
  · rw [hsaved, hshown', List.length_append]
    omega
  · intro hexit
    rw [hsaved, hshown', hnil (.inl (by rw [hexit]; rfl)), List.append_nil]

end Invocation

/-- The file behind a call of the program, `none` if that ends between `openCSVFile` and its loop. -/
def csvAfter (printf : Printf) (content : Bytes) (i : Option Invocation) : Bytes :=
  csvContent printf content (i.elim [] Invocation.lines)

/-- The file is a table with the titles and these lines. -/
def IsCsv (printf : Printf) (lines : List CsvLine) (content : Bytes) : Prop :=
  content = Table.table 59 10 (csvTitles :: lines.map (CsvLine.fields printf))

theorem IsCsv.after {printf : Printf} {lines : List CsvLine} {content : Bytes}
    (h : IsCsv printf lines content) (i : Option Invocation) :
    IsCsv printf (lines ++ i.elim [] Invocation.lines) (csvAfter printf content i) := by
  have hne : content ≠ [] := by
    rw [h]
    simp [Table.table, Table.row]
  rw [csvAfter, DNSSender.csvContent_eq, DNSSender.openCSVFile_of_ne hne, h, ← Table.table_append,
    IsCsv, List.map_append]
  rfl

/-- The first call puts the titles into the file. -/
theorem isCsv_first (printf : Printf) (i : Option Invocation) :
    IsCsv printf (i.elim [] Invocation.lines) (csvAfter printf [] i) := by
  rw [csvAfter, DNSSender.csvContent_eq, DNSSender.openCSVFile_nil]
  rfl

theorem isCsv_foldl {printf : Printf} : ∀ (runs : List (Option Invocation)) {lines : List CsvLine}
    {content : Bytes}, IsCsv printf lines content →
      IsCsv printf (lines ++ runs.flatMap fun i => i.elim [] Invocation.lines)
        (runs.foldl (csvAfter printf) content)
  | [], lines, content, h => by simpa using h
  | i :: runs, lines, content, h => by
    have hrest := isCsv_foldl runs (h.after i)
    rw [List.append_assoc] at hrest
    exact hrest

theorem IsCsv.read {printf : Printf} {lines : List CsvLine} {content : Bytes}
    (h : IsCsv printf lines content) :
    Table.read 59 10 content = csvTitles :: lines.map (CsvLine.fields printf) := by
  have htitles : ∀ f ∈ csvTitles, Table.Plain 59 10 f := by decide
  rw [h]
  apply Table.read_table (by decide)
  rw [List.forall_mem_cons]
  refine ⟨htitles, fun r hr => ?_⟩
  obtain ⟨line, -, rfl⟩ := List.mem_map.1 hr
  exact DNSSender.plain_fields printf line

/-- **The CSV file is read back**: behind any number of calls of the program on a new file, the first
row of the file has the titles, and the rows behind it are the figures of the results of all runs, in
their order: of all results a run has shown, or of all but the last if an exception ended it. -/
theorem csv_read_back (printf : Printf) {runs : List (Option Invocation)} (hne : runs ≠ []) :
    (∃ rows, Table.read 59 10 (runs.foldl (csvAfter printf) []) = csvTitles :: rows ∧
      rows.map readFigures =
        (runs.flatMap fun i => i.elim [] (Invocation.figures printf)).map some) ∧
    ∀ i : Invocation, some i ∈ runs → i.shown.length ≤ i.saved.length + 1 ∧
      (i.final.1.pc = .exited 0 → i.saved = i.shown) := by
  refine ⟨?_, fun i _ => (i.saved_lines printf).2⟩
  obtain ⟨i, rest, rfl⟩ := List.exists_cons_of_ne_nil hne
  have hcsv := isCsv_foldl rest (isCsv_first printf i)
  refine ⟨_, hcsv.read, ?_⟩
  rw [List.map_map, ← List.flatMap_cons (f := fun i : Option Invocation => i.elim [] Invocation.lines),
    List.map_flatMap, List.map_flatMap]
  apply List.flatMap_congr
  intro i _
  cases i with
  | none => rfl
  | some i => exact (i.saved_lines printf).1

/-- Decimal digits, rounded to the nearest. -/
def fixedDecimal (precision : Nat) : Option ℚ → Bytes
  | none => ascii "nan"
  | some q =>
    let n := (round (|q| * 10 ^ precision)).toNat
    let decimals := Decimal.print (n % 10 ^ precision)
    (if q < 0 then [45] else []) ++ Decimal.print (n / 10 ^ precision) ++ [46] ++
      List.replicate (precision - decimals.length) 48 ++ decimals

theorem plain_fixedDecimal (precision : Nat) (x : Option ℚ) :
    59 ∉ fixedDecimal precision x ∧ 10 ∉ fixedDecimal precision x := by
  cases x with
  | none =>
    rw [fixedDecimal]
    decide
  | some q =>
    have h1 := DNSSender.plain_print ((round (|q| * 10 ^ precision)).toNat / 10 ^ precision)
    have h2 := DNSSender.plain_print ((round (|q| * 10 ^ precision)).toNat % 10 ^ precision)
    have hsign : ∀ b ∈ (if q < 0 then [45] else [] : Bytes), b = 45 := by
      split <;> simp
    simp only [fixedDecimal, List.mem_append, List.mem_replicate, List.mem_singleton, not_or]
    exact ⟨⟨⟨⟨⟨fun h => absurd (hsign 59 h) (by decide), h1.1⟩, by decide⟩, by simp⟩, h2.1⟩,
      ⟨⟨⟨⟨fun h => absurd (hsign 10 h) (by decide), h1.2⟩, by decide⟩, by simp⟩, h2.2⟩⟩

/-- Two sessions of a second, and a call between them without a payload. -/
theorem csv_read_back_two_runs : ∃ i : Invocation, i.rates = [0] ∧ i.events = oneSession ∧
    ∃ rows, Table.read 59 10 ([some i, none, some i].foldl
        (csvAfter ⟨fixedDecimal, plain_fixedDecimal⟩) []) = csvTitles :: rows ∧
      rows.map readFigures = (List.replicate 2
        ⟨1, 1, 0, [ascii "0.000", ascii "0.0000", ascii "0.0000", ascii "0.0000"]⟩).map some := by
  obtain ⟨i, hrates, hevents, hfigures⟩ : ∃ i : Invocation, i.rates = [0] ∧ i.events = oneSession ∧
      i.figures ⟨fixedDecimal, plain_fixedDecimal⟩ =
        [⟨1, 1, 0, [ascii "0.000", ascii "0.0000", ascii "0.0000", ascii "0.0000"]⟩] :=
    ⟨⟨{ listening with runtime := 1 }, _, fun _ => .zero 4096, [0], oneSession, rfl, rfl, by decide⟩,
      rfl, rfl, by decide +kernel⟩
  obtain ⟨⟨rows, hread, hrows⟩, -⟩ := csv_read_back ⟨fixedDecimal, plain_fixedDecimal⟩
    (List.cons_ne_nil (some i) [none, some i])
  refine ⟨i, hrates, hevents, rows, hread, ?_⟩
  rw [hrows]
  simp only [List.flatMap_cons, List.flatMap_nil, Option.elim_some, Option.elim_none, hfigures]
  rfl

end Program

end Dnsmeter
