import Dnsmeter.Base

/-!
# Strings and files of ppl7

The string and file functions of the ppl7 library that the loaders and parsers use, on byte strings.
-/

namespace Dnsmeter

/-- `File::gets(buffer, num)`: at most `num` bytes of the current line; the rest stays. -/
def gets : Nat → Bytes → Bytes × Bytes
  | 0, file => ([], file)
  | _ + 1, [] => ([], [])
  | num + 1, b :: file => if b = 10 then ([b], file) else
    let (line, rest) := gets num file
    (b :: line, rest)

/-- What the calls of `gets(buffer, num)` deliver up to the end of the file. A call delivers at least
one byte, so `fuel` need not exceed the length of the file. -/
def getsLoop (num : Nat) : Nat → Bytes → List Bytes
  | 0, _ => []
  | _ + 1, [] => []
  | fuel + 1, file =>
    let (line, rest) := gets num file
    line :: getsLoop num fuel rest

def getsAll (num : Nat) (file : Bytes) : List Bytes := getsLoop num file.length file

/-- `String::trim`: blanks, tabs and line ends at both ends. -/
def trim (s : Bytes) : Bytes :=
  let blank := fun b : UInt8 => b = 32 ∨ b = 9 ∨ b = 10 ∨ b = 13
  ((s.dropWhile (blank ·)).reverse.dropWhile (blank ·)).reverse

/-- `String::toUpperCase`. -/
def toUpperCase (s : Bytes) : Bytes := s.map fun b => if 97 ≤ b ∧ b ≤ 122 then b - 32 else b

/-- `String::toLowerCase`. -/
def toLowerCase (s : Bytes) : Bytes := s.map fun b => if 65 ≤ b ∧ b ≤ 90 then b + 32 else b

/-- `String::instr` of a one-character string: its position, -1 if it does not occur. -/
def instr (s : Bytes) (c : UInt8) : Int :=
  match s.idxOf? c with
  | some i => i
  | none => -1

/-- `StrTok(s, " ")`: the parts between blanks, without the empty ones. -/
def strTok (s : Bytes) : List Bytes := (s.splitOn 32).filter (· ≠ [])

/-- `String::toUnsignedLong`: the decimal number at the start, `ULONG_MAX` if it is larger. -/
def toUnsignedLong (s : Bytes) : UInt64 :=
  let digits := s.takeWhile fun b => 48 ≤ b ∧ b ≤ 57
  let v := digits.foldl (fun v b => 10 * v + (b.toNat - 48)) 0
  .ofNat (min v (2 ^ 64 - 1))

end Dnsmeter
