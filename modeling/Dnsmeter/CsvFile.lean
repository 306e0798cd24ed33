import Dnsmeter.Lib.Decimal
import Dnsmeter.Sender

/-!
# The text of the CSV file (`openCSVFile` and `saveResultsToCsv` in `dns_sender.cpp`)

The file is opened to append, so what a run of the program writes goes behind what the runs before it
have written. What `putsf` makes of a `double` is a parameter.
-/

namespace Dnsmeter

/-- `%0.3f` and `%0.4f` with a precision and a `double`, `none` if that is no number. -/
structure Printf where
  fixed : Nat → Option ℚ → Bytes
  plain : ∀ precision x, 59 ∉ fixed precision x ∧ 10 ∉ fixed precision x

namespace DNSSender

/-- `openCSVFile` on the content of the file. -/
def openCSVFile (content : Bytes) : Bytes :=
  if content.length = 0 then
    content ++ ascii ("#QPS Send; QPS Received; QPS Errors; Lostrate; " ++
      "rtt_avg; rtt_min; rtt_max;" ++ "\n")
  else content

/-- `CSVFile.putsf` in `saveResultsToCsv`: `%llu;%llu;%llu;%0.3f;%0.4f;%0.4f;%0.4f;`. -/
def CsvLine.putsf (printf : Printf) (line : CsvLine) : Bytes :=
  Decimal.print line.qpsSend.toNat ++ ascii ";" ++ Decimal.print line.qpsReceived.toNat ++ ascii ";" ++
    Decimal.print line.qpsErrors.toNat ++ ascii ";" ++ printf.fixed 3 line.lostrate ++ ascii ";" ++
    printf.fixed 4 (some line.rttAvg) ++ ascii ";" ++ printf.fixed 4 (some line.rttMin) ++ ascii ";" ++
    printf.fixed 4 (some line.rttMax) ++ ascii ";\n"

/-- The file behind the program: opened, and each line put at its end. -/
def csvContent (printf : Printf) (content : Bytes) (lines : List CsvLine) : Bytes :=
  lines.foldl (fun content line => content ++ line.putsf printf) (openCSVFile content)

end DNSSender

end Dnsmeter
