import Dnsmeter.Lib.Block
import Mathlib.Data.Rat.Floor

/-!
# What the program takes from its environment

`Abort` lists how a call can end other than by returning: the exceptions of `exceptions.h` and of
ppl7 that the modelled functions raise, and the undefined behaviour they can run into (an access
outside an object, a signed overflow, a division by zero, a floating value converted to an integer
type that cannot hold it). No `catch` of the source sees the latter.

The host is the little-endian 64-bit one the sources assume (the bit-fields of `DNS_HEADER` and
of `struct ip` are laid out for it): `int` is `Int32`, `unsigned int` and `in_addr_t` are `UInt32`,
`ppluint64`, `size_t` and `unsigned long` are `UInt64`. `double` and `float` are exact rationals.
-/

namespace Dnsmeter

inductive Abort where
  | invalidDNSQuery (msg : Bytes)
  | unknownRRType (type : Bytes)
  | bufferOverflow (size max : UInt64)
  | unknownDestination
  | invalidQueryFile (msg : String)
  | unsupportedIPFamily (msg : String)
  | missingCommandlineParameter (msg : String)
  | invalidCommandlineParameter (msg : String)
  | invalidArguments
  | nullPointer (msg : String)
  | cannotOpenFile
  | arrayIndex
  | outOfBounds
  | signedOverflow
  | divByZero
  | conversion
deriving DecidableEq, Repr

/-- Whether `catch (...)` catches it. -/
def Abort.isException : Abort → Bool
  | .outOfBounds | .signedOverflow | .divByZero | .conversion => false
  | _ => true

/-- A string literal as the bytes of a C string. -/
def ascii (s : String) : Bytes := s.toList.map fun c => .ofNat c.toNat

/-- `memcpy` into a block, undefined past its end. -/
def memcpy {n : Nat} (b : Block n) (off : Nat) (src : Bytes) : Except Abort (Block n) :=
  if h : off + src.length ≤ n then .ok (b.store off src h) else .error .outOfBounds

/-- The `len` bytes at `off` of an object, undefined past its end. -/
def readMem (mem : Bytes) (off len : Nat) : Except Abort Bytes :=
  if off + len ≤ mem.length then .ok ((mem.drop off).take len) else .error .outOfBounds

/-- `int * int`. -/
def mulInt (a b : Int32) : Except Abort Int32 :=
  let p := a.toInt * b.toInt
  if -2 ^ 31 ≤ p ∧ p < 2 ^ 31 then .ok (.ofInt p) else .error .signedOverflow

/-- `int / int`. -/
def divInt (a b : Int32) : Except Abort Int32 :=
  if b = 0 then .error .divByZero else
  let q := a.toInt.tdiv b.toInt
  if q < 2 ^ 31 then .ok (.ofInt q) else .error .signedOverflow

/-- `double` to `ppluint64`: truncation, undefined out of range. -/
def toPpluint64 (x : ℚ) : Except Abort UInt64 :=
  if -1 < x ∧ x < 2 ^ 64 then .ok (.ofNat ⌊x⌋.toNat) else .error .conversion

/-- `ppl7::IPAddress` of family IPv4, the address as a number. -/
structure IPAddress where
  addr : UInt32
deriving DecidableEq, Repr

/-- `*(in_addr_t*)ip.addr()`: `addr()` points to the address in network order. -/
def IPAddress.sAddr (ip : IPAddress) : UInt32 := htonl ip.addr

/-- `ppl7::IPNetwork` of family IPv4. -/
structure IPNetwork where
  addr : UInt32
  prefixlen : Nat
  prefixlen_le : prefixlen ≤ 32
deriving DecidableEq, Repr

/-- The network's first address: the host bits cleared. -/
def IPNetwork.first (net : IPNetwork) : IPAddress :=
  let hosts := 2 ^ (32 - net.prefixlen)
  ⟨.ofNat (net.addr.toNat / hosts * hosts)⟩

/-- One call of `ppl7::rand`: some value of the closed interval. -/
structure Rand where
  rand : Nat → Nat → Nat
  mem_Icc : ∀ lo hi, lo ≤ hi → lo ≤ rand lo hi ∧ rand lo hi ≤ hi

/-- What `gettimeofday` stores. -/
structure Timeval where
  sec : Nat
  usec : Nat
  usec_lt : usec < 1000000
deriving DecidableEq, Repr

end Dnsmeter
