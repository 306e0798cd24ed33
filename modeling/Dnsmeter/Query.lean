import Dnsmeter.Ppl7

/-!
# DNS messages (`query.cpp`)

`makeQuery` compiles a text query through `res_mkquery`, `addDnssecToQuery` appends the OPT record
in place, and `getQueryTimestamp`/`getQueryRTT` fold the time of day into a DNS id and back.

A `unsigned char* buffer` argument is a block together with the offset the pointer has in it.
-/

namespace Dnsmeter

/-! ## `DNS_HEADER` -/

/-- The fields of `DNS_HEADER` the program reads, laid over bytes in memory. -/
structure DNSHeader where
  id : UInt16
  tc : UInt8
  opcode : UInt8
  qr : UInt8
  rcode : UInt8
deriving DecidableEq, Repr

/-- The header over `b0 b1 b2 b3 ...`: the bit-fields are filled from the least significant bit. -/
def DNSHeader.ofBytes (b0 b1 b2 b3 : UInt8) : DNSHeader where
  id := ofLe16 b0 b1
  tc := (b2 >>> 1) &&& 1
  opcode := (b2 >>> 3) &&& 15
  qr := b2 >>> 7
  rcode := b3 &&& 15

/-! ## `MakeQuery` -/

def rrTypes : List String :=
  ["A", "AAAA", "MX", "NS", "DS", "DNSKEY", "TXT", "SOA", "NAPTR", "RRSIG",
    "NSEC", "NSEC3", "NSEC3PARAM", "PTR", "SRV",
    "CNAME", "TSIG", "*", "ANY", "AXFR", "IXFR",
    "SPF", "A6", "HINFO", "WKS", "NULL"]

def rrCode : List Nat :=
  [1, 28, 15, 2, 43, 48, 16, 6, 35, 46,
    47, 50, 51, 12, 33,
    5, 250, 255, 255, 252, 251,
    99, 38, 13, 11, 10]

/-- The part of a string that its C string shows. -/
def cStr (s : Bytes) : Bytes := s.takeWhile (· ≠ 0)

/-- What `res_mkquery` leaves behind: its result, the bytes it wrote at the start of the buffer
(also when it fails), and the text of `h_errno`. -/
structure MkqueryResult where
  bytes : Int
  written : Bytes
  hstrerror : Bytes
deriving DecidableEq, Repr

/-- `res_mkquery(QUERY, dname, C_IN, type, ..., buflen)`. -/
abbrev ResMkquery := Bytes → Nat → Int32 → MkqueryResult

/-- The `DNS_OPT` record: root name, type 41, the payload size as class, extended rcode and version
0, the DO bit, no data. -/
def dnsOpt (udpPayloadSize : Int32) : Bytes :=
  [0] ++ le16 (htons 41) ++ le16 (htons (.ofInt udpPayloadSize.toInt)) ++ [0, 0] ++
    le16 (htons 0x8000) ++ [0, 0]

/-- `AddDnssecToQuery`: sets AD and ARCOUNT in the header and writes the OPT record
behind the query, whatever the buffer's size. -/
def addDnssecToQuery {n : Nat} (buffer : Block n) (base : Nat) (querysize : Nat)
    (udpPayloadSize : Int32) : Except Abort (Block n × Nat) := do
  let flags ← readMem buffer.bytes (base + 3) 1
  let buffer ← memcpy buffer (base + 3) (flags.map (· ||| 32))
  let buffer ← memcpy buffer (base + 10) (le16 (htons 1))
  let buffer ← memcpy buffer (base + querysize) (dnsOpt udpPayloadSize)
  return (buffer, querysize + 11)

/-- `MakeQuery`: the code of the first record type that matches. The buffer is returned also when
the query is rejected: `res_mkquery` may have written to it. -/
def makeQuery {n : Nat} (resMkquery : ResMkquery) (query : Bytes) (buffer : Block n) (base : Nat)
    (buffersize : Nat) (dnssec : Bool) (udpPayloadSize : Int32) : Block n × Except Abort Nat :=
  match query.splitOn 32 with
  | [name, type] =>
    match (rrTypes.zip rrCode).find? fun t => cStr (toUpperCase type) = ascii t.1 with
    | some (_, code) =>
      let r := resMkquery (cStr name) code (.ofNat buffersize)
      match memcpy buffer base r.written with
      | .error e => (buffer, .error e)
      | .ok buffer =>
        if r.bytes < 0 then (buffer, .error (.invalidDNSQuery r.hstrerror)) else
        if !dnssec then (buffer, .ok r.bytes.toNat) else
        match addDnssecToQuery buffer base r.bytes.toNat udpPayloadSize with
        | .ok (buffer, size) => (buffer, .ok size)
        | .error e => (buffer, .error e)
    | none => (buffer, .error (.unknownRRType type))
  | _ => (buffer, .error (.invalidDNSQuery query))

/-! ## Time stamps -/

/-- `getQueryTimestamp`: `gettimeofday` either fails or stores `tp`. -/
def getQueryTimestamp (tp : Option Timeval) : UInt16 :=
  match tp with
  | some tp => .ofNat (tp.sec % 6 * 10000 + tp.usec / 100)
  | none => 0

/-- The `diff` of `getQueryRTT`, in ticks of 100 microseconds. -/
def queryRTTTicks (tp : Option Timeval) (start : UInt16) : UInt16 :=
  let now := getQueryTimestamp tp
  if now < start then .ofInt (60000 - start.toNat + now.toNat) else now - start

/-- `getQueryRTT`, in seconds. -/
def getQueryRTT (tp : Option Timeval) (start : UInt16) : ℚ :=
  (queryRTTTicks tp start).toNat / 10000

end Dnsmeter
