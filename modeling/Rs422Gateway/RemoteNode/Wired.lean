import Rs422Gateway.Common.Frame
import Rs422Gateway.RemoteNode.Calls

/-!
# Two remote nodes wired together

What one node hands to `tx_fn` is on its way to the other, byte by byte. A frame that `tx_fn`
refuses may have been put on the wire in part. Nothing else is sent: no periodic frame, only
replies.
-/

namespace Rs422Gateway

/-- Two nodes, the output of each wired to the input of the other: the bytes on their way to each
    and the number of replies handed to `tx_fn` so far. -/
structure Wired where
  a : RemoteNode
  b : RemoteNode
  toA : List UInt8
  toB : List UInt8
  replies : Nat

/-- The next byte reaches a node: what `time_fn` and `tx_fn` answer then, and how many bytes of a
    frame are on the wire although `tx_fn` has refused it. -/
structure Delivery where
  toA : Bool
  now : UInt32
  accepted : Bool
  cut : Nat

/-- The bytes of a frame that are put on the wire. -/
def Delivery.onWire (d : Delivery) (frame : List UInt8) : List UInt8 :=
  Transmission.onWire ⟨frame, d.accepted⟩ d.cut

namespace Wired

/-- The same with the names of the nodes exchanged. -/
def swap (s : Wired) : Wired := ⟨s.b, s.a, s.toB, s.toA, s.replies⟩

/-- The next byte on its way to `a`, if there is one, reaches it. -/
def deliver (s : Wired) (d : Delivery) : Wired :=
  match s.toA with
  | [] => s
  | byte :: rest =>
      let (a, frames) := s.a.processByte byte d.now d.accepted
      { a := a
        b := s.b
        toA := rest
        toB := s.toB ++ frames.flatMap d.onWire
        replies := s.replies + frames.length }

/-- The next byte on its way to one of the nodes reaches it. -/
def step (s : Wired) (d : Delivery) : Wired :=
  if d.toA then s.deliver d else (s.swap.deliver d).swap

/-- One valid frame is on its way to `a`, and nothing else. -/
def inject (a b : RemoteNode) (m : Message) : Wired := ⟨a, b, m.wire, [], 0⟩

end Wired

end Rs422Gateway
