import Dnsmeter.Query
import Dnsmeter.Lib.OnesComp

/-!
# `Packet` (`packet.cpp`)

An IPv4/UDP datagram under construction: 20 bytes of `struct ip`, 8 bytes of `struct udphdr`, the
payload, in a 4096-byte buffer, and a flag that tells whether the checksums in the buffer are
current. The invariant `HDRSZ + payloadSize ≤ MAXPACKETSIZE` is a field of `Packet`: an operation
that would break it runs past the buffer and aborts with `outOfBounds`.

Field offsets in the buffer: `ip_len` 2, `ip_id` 4, `ip_off` 6, `ip_ttl` 8, `ip_p` 9, `ip_sum` 10,
`ip_src` 12, `ip_dst` 16; `uh_sport` 20, `uh_dport` 22, `uh_ulen` 24, `uh_sum` 26.
-/

namespace Dnsmeter

def USZ : Nat := 8
def ISZ : Nat := 20
def HDRSZ : Nat := ISZ + USZ
def MAXPACKETSIZE : Nat := 4096

/-- `MAXPACKETSIZE - HDRSZ` as the unparenthesised macro expands it. -/
def MAXPACKETSIZE_minus_HDRSZ : Nat := MAXPACKETSIZE - ISZ + USZ

/-! ## Checksums -/

/-- The loop of `in_cksum` over the words of a little-endian host, with the odd last byte. -/
def inCksumLoop : Bytes → Nat → Nat
  | lo :: hi :: w, sum => inCksumLoop w (sum + (lo.toNat + 256 * hi.toNat))
  | [b], sum => sum + b.toNat
  | [], sum => sum

def inCksum (w : Bytes) : UInt16 :=
  let sum := inCksumLoop w 0
  let sum := (sum >>> 16) + (sum &&& 0xffff)
  let sum := sum + (sum >>> 16)
  ~~~(UInt16.ofNat sum)

/-- The `cbuf` of `udp_cksum` up to the end of the payload: the pseudo header, the UDP header and
the payload. `cbuf` is zero behind it. -/
def udpCbuf (iphdr udp payload : Bytes) : Bytes :=
  (iphdr.drop 12).take 4 ++ (iphdr.drop 16).take 4 ++ [0] ++ (iphdr.drop 9).take 1 ++
    (udp.drop 4).take 2 ++ udp ++ payload

/-- `udp_cksum`: an odd payload is summed with one zero byte behind it. -/
def udpCksum (iphdr udp payload : Bytes) : UInt16 :=
  inCksum (udpCbuf iphdr udp payload ++ List.replicate (payload.length % 2) 0)

/-! ## The packet -/

structure Packet where
  buffer : Block MAXPACKETSIZE
  payloadSize : Nat
  chksumValid : Bool
  payload_fits : HDRSZ + payloadSize ≤ MAXPACKETSIZE
deriving DecidableEq

namespace Packet

/-- An assignment to a 16-bit header field: the checksums are no longer current. -/
def assign16 (p : Packet) (off : Nat) (v : UInt16) (h : off + 2 ≤ MAXPACKETSIZE) : Packet :=
  { p with buffer := p.buffer.store16 off v h, chksumValid := false }

def assign32 (p : Packet) (off : Nat) (v : UInt32) (h : off + 4 ≤ MAXPACKETSIZE) : Packet :=
  { p with buffer := p.buffer.store32 off v h, chksumValid := false }

/-- The buffer when the constructor computes `ip_sum`. `ip_v` and `ip_hl` share byte 0; the fields
set to 0 are 0 from `calloc`. -/
def initHeader : Block MAXPACKETSIZE :=
  let b := (Block.zero MAXPACKETSIZE).store 0 [0x45] (by decide)
  let b := b.store 8 [64] (by decide)
  let b := b.store 9 [17] (by decide)
  let b := b.store32 12 0 (by decide)
  let b := b.store32 16 0 (by decide)
  b.store16 2 (htons (.ofNat (HDRSZ + 0))) (by decide)

/-- `Packet::Packet`. -/
def new : Packet where
  buffer :=
    let b := initHeader.store16 10 (inCksum (initHeader.load 0 ISZ)) (by decide)
    b.store16 24 (htons (.ofNat (USZ + 0))) (by decide)
  payloadSize := 0
  chksumValid := false
  payload_fits := by decide

def setSource (p : Packet) (ip : IPAddress) (port : Int32) : Packet :=
  (p.assign32 12 ip.sAddr (by decide)).assign16 20 (htons (.ofInt port.toInt)) (by decide)

def randomSourcePort (p : Packet) (r : Rand) : Packet :=
  p.assign16 20 (htons (.ofNat (r.rand 1024 65535))) (by decide)

/-- `randomSourceIP(const ppl7::IPNetwork&)`: `start + size - 1` in `size_t`. -/
def randomSourceIPNet (p : Packet) (net : IPNetwork) (r : Rand) : Packet :=
  let start := ntohl net.first.sAddr
  let size : UInt64 := .ofNat (2 ^ (32 - net.prefixlen))
  p.assign32 12 (htonl (.ofNat (r.rand start.toNat (start.toUInt64 + size - 1).toNat)))
    (by decide)

/-- `randomSourceIP(unsigned int, unsigned int)`: `start + size - 1` in `unsigned int`. -/
def randomSourceIP (p : Packet) (start size : UInt32) (r : Rand) : Packet :=
  p.assign32 12 (htonl (.ofNat (r.rand start.toNat (start + size - 1).toNat))) (by decide)

/-- `useSourceFromPcap`: `ip_src` and `uh_sport` of the headers in the frame `pkt`. It leaves
`chksum_valid` as it is. -/
def useSourceFromPcap (p : Packet) (pkt : Bytes) : Except Abort Packet :=
  match (pkt.drop 26).take 4, (pkt.drop 34).take 2 with
  | [a0, a1, a2, a3], [s0, s1] =>
    let b := p.buffer.store32 12 (ofLe32 a0 a1 a2 a3) (by decide)
    .ok { p with buffer := b.store16 20 (ofLe16 s0 s1) (by decide) }
  | _, _ => .error .outOfBounds

def setDestination (p : Packet) (ip : IPAddress) (port : Int32) : Packet :=
  (p.assign32 16 ip.sAddr (by decide)).assign16 22 (htons (.ofInt port.toInt)) (by decide)

def setIpId (p : Packet) (id : UInt16) : Packet := p.assign16 4 (htons id) (by decide)

/-- `setDnsId`: the first two bytes of the payload, whatever its size. -/
def setDnsId (p : Packet) (id : UInt16) : Packet := p.assign16 HDRSZ (htons id) (by decide)

/-- The assignments behind a new payload of `size` bytes: `payload_size`, `ip_len`, `uh_ulen`. -/
def setLengths (p : Packet) (buffer : Block MAXPACKETSIZE) (size : Nat)
    (h : HDRSZ + size ≤ MAXPACKETSIZE) : Packet :=
  let p : Packet := { p with buffer, payloadSize := size, payload_fits := h }
  (p.assign16 2 (htons (.ofNat (HDRSZ + size))) (by decide)).assign16 24
    (htons (.ofNat (USZ + size))) (by decide)

/-- `setPayload(const void* payload, size_t size)`: the guard is computed in `size_t`. -/
def setPayload (p : Packet) (payload : Bytes) (size : UInt64) : Except Abort Packet :=
  if size + .ofNat HDRSZ > .ofNat MAXPACKETSIZE then
    .error (.bufferOverflow size (.ofNat MAXPACKETSIZE_minus_HDRSZ))
  else if h : size.toNat ≤ payload.length ∧ HDRSZ + size.toNat ≤ MAXPACKETSIZE then
    .ok (p.setLengths (p.buffer.store HDRSZ (payload.take size.toNat)
      (by rw [List.length_take]; omega)) size.toNat h.2)
  else .error .outOfBounds

/-- `setPayloadDNSQuery`: `MakeQuery` writes behind the headers, and is told that
`buffersize - HDRSZ` bytes are free there. A rejected query leaves the lengths and `chksum_valid` as
they are. -/
def setPayloadDNSQuery (p : Packet) (resMkquery : ResMkquery) (query : Bytes) (dnssec : Bool) :
    Packet × Except Abort Unit :=
  match makeQuery resMkquery query p.buffer HDRSZ MAXPACKETSIZE_minus_HDRSZ dnssec 4096 with
  | (buffer, .ok size) =>
    if h : HDRSZ + size ≤ MAXPACKETSIZE then (p.setLengths buffer size h, .ok ())
    else ({ p with buffer }, .error .outOfBounds)
  | (buffer, .error e) => ({ p with buffer }, .error e)

def updateChecksums (p : Packet) : Packet :=
  let b := p.buffer.store16 10 0 (by decide)
  let b := b.store16 10 (inCksum (b.load 0 ISZ)) (by decide)
  let b := b.store16 26 0 (by decide)
  let b := b.store16 26
    (udpCksum (b.load 0 ISZ) (b.load ISZ USZ) (b.load HDRSZ p.payloadSize)) (by decide)
  { p with buffer := b, chksumValid := true }

def size (p : Packet) : Nat := HDRSZ + p.payloadSize

/-- `ptr`: the packet after the call; the pointer returned is its `buffer`. -/
def ptr (p : Packet) : Packet := if p.chksumValid then p else p.updateChecksums

/-- The calls of the public operations, with the values `ppl7::rand` returns in them. -/
inductive Op where
  | setSource (ip : IPAddress) (port : Int32)
  | setDestination (ip : IPAddress) (port : Int32)
  | setPayload (payload : Bytes) (size : UInt64)
  | setPayloadDNSQuery (query : Bytes) (dnssec : Bool)
  | setDnsId (id : UInt16)
  | setIpId (id : UInt16)
  | randomSourceIPNet (net : IPNetwork) (r : Rand)
  | randomSourceIP (start size : UInt32) (r : Rand)
  | randomSourcePort (r : Rand)
  | useSourceFromPcap (pkt : Bytes)
  | ptr

/-- The packet after a call that accepts its arguments. -/
def call (resMkquery : ResMkquery) (p : Packet) : Op → Except Abort Packet
  | .setSource ip port => .ok (p.setSource ip port)
  | .setDestination ip port => .ok (p.setDestination ip port)
  | .setPayload payload size => p.setPayload payload size
  | .setPayloadDNSQuery query dnssec =>
    let (p, result) := p.setPayloadDNSQuery resMkquery query dnssec
    result.map fun _ => p
  | .setDnsId id => .ok (p.setDnsId id)
  | .setIpId id => .ok (p.setIpId id)
  | .randomSourceIPNet net r => .ok (p.randomSourceIPNet net r)
  | .randomSourceIP start size r => .ok (p.randomSourceIP start size r)
  | .randomSourcePort r => .ok (p.randomSourcePort r)
  | .useSourceFromPcap pkt => p.useSourceFromPcap pkt
  | .ptr => .ok p.ptr

end Packet

end Dnsmeter
