import Dnsmeter.Query

/-!
# The payload (`payload_file.cpp`)

`openQueryFile` compiles a text file line by line or collects the DNS queries of a pcap file, and
puts the iterator at the first of the cached queries; `getQuery` hands them out in turn. An
iterator of `querycache` is the position it points to, `end()` is the length.
-/

namespace Dnsmeter

structure PayloadFile where
  validLinesInQueryFile : UInt64
  querycache : List Bytes
  it : Nat
  payloadIsPcap : Bool
deriving DecidableEq, Repr

/-- A record `pcap_next` returns: the captured bytes and whatever the capture buffer holds behind
them. -/
structure PcapRecord where
  data : Bytes
  beyond : Nat → UInt8

def PcapRecord.caplen (r : PcapRecord) : Nat := r.data.length

/-- The byte at `pkt + i`. -/
def PcapRecord.peek (r : PcapRecord) (i : Nat) : UInt8 := r.data.getD i (r.beyond i)

/-- `pcap_open_offline` on a file of the given content: the records `pcap_next` then returns, or
the text of the error. -/
abbrev PcapOpenOffline := Bytes → Except String (List PcapRecord)

namespace PayloadFile

def new : PayloadFile where
  validLinesInQueryFile := 0
  querycache := []
  it := 0
  payloadIsPcap := false

/-- The queries pushed onto the cache, each counted. -/
def push (p : PayloadFile) (query : Bytes) : PayloadFile :=
  { p with
    querycache := p.querycache ++ [query]
    validLinesInQueryFile := p.validLinesInQueryFile + 1 }

def detectPcap (content : Bytes) : Bool :=
  match content.take 8 with
  | [b0, b1, b2, b3, _, _, _, _] =>
    let magic := ofLe32 b0 b1 b2 b3
    magic = 0xa1b2c3d4 ∨ magic = 0xa1b23c4d ∨ magic = 0xd4c3b2a1 ∨ magic = 0x4d3cb2a1
  | _ => false

/-! ## Text files -/

/-- One pass of the loop of `loadAndCompile`, with the buffer `compiled_query`. -/
def compileLine (resMkquery : ResMkquery) (s : PayloadFile × Block 4096) (line : Bytes) :
    Except Abort (PayloadFile × Block 4096) :=
  let buffer := trim line
  match buffer with
  | [] => .ok s
  | c :: _ =>
    if c = 35 then .ok s else
    match makeQuery resMkquery buffer s.2 0 4096 false 4096 with
    | (compiled, .ok size) => do return (s.1.push (← readMem compiled.bytes 0 size), compiled)
    | (compiled, .error e) => if e.isException then .ok (s.1, compiled) else .error e

/-- `loadAndCompile`; `buf` is the content of the buffer it allocates. -/
def loadAndCompile (resMkquery : ResMkquery) (buf : Block 4096) (p : PayloadFile)
    (content : Bytes) : Except Abort PayloadFile := do
  let (p, _) ← (getsAll 1024 content).foldlM (compileLine resMkquery)
    ({ p with validLinesInQueryFile := 0 }, buf)
  if p.validLinesInQueryFile = 0 then
    throw (.invalidQueryFile "No valid Queries found in Queryfile")
  return p

/-! ## Pcap files -/

/-- The tests of the loop of `loadAndCompilePcapFile`. -/
def isQuery (r : PcapRecord) : Bool :=
  let dns := DNSHeader.ofBytes (r.peek 42) (r.peek 43) (r.peek 44) (r.peek 45)
  r.caplen ≤ 4096 ∧ ofLe16 (r.peek 12) (r.peek 13) = htons 0x0800 ∧ r.peek 14 >>> 4 = 4 ∧
    ofLe16 (r.peek 36) (r.peek 37) = htons 53 ∧ dns.qr = 0 ∧ dns.opcode = 0

def loadAndCompilePcapFile (openOffline : PcapOpenOffline) (p : PayloadFile) (filename : String)
    (content : Bytes) : Except Abort PayloadFile :=
  let p := { p with payloadIsPcap := true, validLinesInQueryFile := 0 }
  match openOffline content with
  | .error errorbuffer => .error (.invalidQueryFile errorbuffer)
  | .ok records =>
    let p := records.foldl (fun p r => if isQuery r then p.push r.data else p) p
    if p.validLinesInQueryFile = 0 then
      .error (.invalidQueryFile ("No valid Queries found in pcap file [" ++ filename ++ "]"))
    else .ok p

/-! ## The public operations -/

/-- `openQueryFile`; `content` is `none` if the file cannot be opened. -/
def openQueryFile (resMkquery : ResMkquery) (openOffline : PcapOpenOffline) (buf : Block 4096)
    (p : PayloadFile) (filename : String) (content : Option Bytes) : Except Abort PayloadFile :=
  if filename = "" then .error (.invalidQueryFile "File not given") else
  match content with
  | none => .error .cannotOpenFile
  | some [] => .error (.invalidQueryFile ("File is empty [" ++ filename ++ "]"))
  | some content => do
    let p ← if detectPcap content then loadAndCompilePcapFile openOffline p filename content
      else loadAndCompile resMkquery buf p content
    return { p with it := 0 }

/-- `getQuery`: the entry the iterator points to, and the payload with the iterator moved on. -/
def getQuery (p : PayloadFile) : Except Abort (Bytes × PayloadFile) :=
  match p.querycache[p.it]? with
  | some bap =>
    let it := p.it + 1
    .ok (bap, { p with it := if it = p.querycache.length then 0 else it })
  | none => .error .outOfBounds

end PayloadFile

end Dnsmeter
