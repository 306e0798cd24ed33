import Dnsmeter.Ppl7
import Dnsmeter.Lib.InsertMap

/-!
# Network statistics (`system_stat.cpp`)

`sampleNetwork` reads `/proc/net/dev` (on FreeBSD the list of `getifaddrs`) into a map from interface
names to counters that lives as long as the `SystemStat` object, and sums the counters. `sampleTime`, `cpu` and `sysinfo` are
sampled too and read by nothing.
-/

namespace Dnsmeter

structure Network where
  bytes : UInt64
  packets : UInt64
  errs : UInt64
  drop : UInt64
deriving DecidableEq, Repr

namespace Network

/-- `Network()` and `clear`. -/
def zero : Network := ⟨0, 0, 0, 0⟩

def add (a b : Network) : Network :=
  ⟨a.bytes + b.bytes, a.packets + b.packets, a.errs + b.errs, a.drop + b.drop⟩

end Network

structure Interface where
  name : Bytes
  receive : Network
  transmit : Network
deriving DecidableEq, Repr

/-- `Interface()`. -/
def Interface.default : Interface := ⟨[], .zero, .zero⟩

structure SystemStat where
  netTotal : Interface
  interfaces : InsertMap Bytes Interface
deriving DecidableEq, Repr

def SystemStat.new : SystemStat := ⟨.default, .empty⟩

/-- `tok[i].toUnsignedLong()`. -/
def tokNumber (tok : List Bytes) (i : Nat) : Except Abort UInt64 :=
  match tok[i]? with
  | some s => .ok (toUnsignedLong s)
  | none => .error .arrayIndex

/-- Four consecutive counters of a line. -/
def tokNetwork (tok : List Bytes) (i : Nat) : Except Abort Network := do
  return ⟨← tokNumber tok i, ← tokNumber tok (i + 1), ← tokNumber tok (i + 2),
    ← tokNumber tok (i + 3)⟩

/-- The interface of a line whose first colon is at position `t`. -/
def parseInterface (buffer : Bytes) (t : Nat) : Except Abort Interface := do
  let tok := strTok (buffer.map fun b => if b = 9 then 32 else b)
  return ⟨buffer.take t, ← tokNetwork tok 1, ← tokNetwork tok 9⟩

/-- The interface read is added to the total and inserted into the map. -/
def SystemStat.addInterface (s : SystemStat) (nif : Interface) : SystemStat where
  netTotal := { s.netTotal with
    receive := s.netTotal.receive.add nif.receive
    transmit := s.netTotal.transmit.add nif.transmit }
  interfaces := s.interfaces.insert nif.name nif

/-- One pass of the loop of `sampleNetwork`. -/
def sampleLine (s : SystemStat) (line : Bytes) : Except Abort SystemStat :=
  let buffer := trim line
  let t := instr buffer 58
  if t > 1 then do return s.addInterface (← parseInterface buffer t.toNat) else .ok s

/-- `sampleNetwork` (Linux) on the content of `/proc/net/dev`. -/
def sampleNetwork (s : SystemStat) (procNetDev : Bytes) : Except Abort SystemStat :=
  let total := { s.netTotal with receive := .zero, transmit := .zero }
  (getsAll 2048 procNetDev).foldlM sampleLine { s with netTotal := total }

/-- `sampleSensorData`. -/
def sampleSensorData (s : SystemStat) (procNetDev : Bytes) : Except Abort SystemStat :=
  sampleNetwork s procNetDev

/-- The counters of a `struct if_data` (FreeBSD). -/
structure IfData where
  ibytes : UInt64
  ipackets : UInt64
  ierrors : UInt64
  iqdrops : UInt64
  obytes : UInt64
  opackets : UInt64
  oerrors : UInt64
  oqdrops : UInt64

/-- An entry of the list of `getifaddrs`; `saFamily` is the family of its address, if it has one. -/
structure Ifaddrs where
  saFamily : Option UInt8
  name : Bytes
  data : IfData

def Ifaddrs.interface (ifa : Ifaddrs) : Interface where
  name := ifa.name
  receive := ⟨ifa.data.ibytes, ifa.data.ipackets, ifa.data.ierrors, ifa.data.iqdrops⟩
  transmit := ⟨ifa.data.obytes, ifa.data.opackets, ifa.data.oerrors, ifa.data.oqdrops⟩

def deltaWithOverflow (sample1 sample2 : UInt64) : UInt64 :=
  if sample2 ≥ sample1 then sample2 - sample1 else 0xffffffffffffffff - sample1 + sample2

def Network.getDelta (sample1 sample2 : Network) : Network where
  bytes := deltaWithOverflow sample1.bytes sample2.bytes
  packets := deltaWithOverflow sample1.packets sample2.packets
  errs := deltaWithOverflow sample1.errs sample2.errs
  drop := deltaWithOverflow sample1.drop sample2.drop

end Dnsmeter
