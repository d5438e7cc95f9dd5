import Rs422Gateway.Gateway.State
import Rs422Gateway.Misc.Ring
import Rs422Gateway.Misc.Transition

/-!
# The RX ring of the gateway

Rendering of `rs422_rx_ring_push_from_isr` and `rs422_rx_ring_pop` (`main.c:2123-2153`) with the
free-running 16-bit indices, which `Gateway/State.lean` replaces by a list. A push runs in
`HAL_UART_RxCpltCallback` and is one step. A pop takes its accesses one by one, so that pushes come
between any two of them. The last two fields of the state are history: the pushed bytes, each with
whether it was stored, and the popped bytes.
-/

namespace Rs422Gateway

/-- `RS422_RX_RING_MASK` (`main.c:65`). -/
def rs422RxRingMask : UInt16 := 511

instance : NeZero rs422RxRingCapacity := ⟨by decide⟩

/-- The ring (`main.c:223`, `408-410`). -/
structure RxRing where
  storage : Vector UInt8 rs422RxRingCapacity
  head : UInt16
  tail : UInt16
  overflowCount : UInt32

/-- As `StartRS422Task` leaves it (`main.c:3248-3250`). -/
def RxRing.initial : RxRing := ⟨Vector.replicate _ 0, 0, 0, 0⟩

namespace RxRing

/-- The index of a slot. -/
def slot (i : UInt16) : Nat := (i &&& rs422RxRingMask).toNat

/-- The test of `rs422_rx_ring_push_from_isr` (`main.c:2128`). -/
def full (r : RxRing) : Bool := decide (UInt16.ofNat rs422RxRingCapacity ≤ r.head - r.tail)

/-- `rs422_rx_ring_push_from_isr` (`main.c:2123-2137`). -/
def pushFromIsr (r : RxRing) (byte : UInt8) : RxRing :=
  if r.full then { r with overflowCount := r.overflowCount + 1 }
  else { r with storage := Ring.store r.storage (slot r.head) byte, head := r.head + 1 }

end RxRing

/-- Where `rs422_rx_ring_pop` stands: each value is the access it makes next. -/
inductive PopPc where
  /-- The read of `g_rs422_rx_tail` (`main.c:2141`). -/
  | readTail
  /-- The comparison with `g_rs422_rx_head` (`main.c:2143`). -/
  | compareHead
  /-- The read of the slot (`main.c:2149`). -/
  | readSlot
  /-- The write of `g_rs422_rx_tail` (`main.c:2151`). -/
  | writeTail
  deriving DecidableEq, Repr

/-- RS422Task in `rs422_rx_ring_pop`: its place and its local variables. -/
structure RingPop where
  pc : PopPc
  tail : UInt16
  byte : UInt8
  deriving DecidableEq

structure RxRingState where
  ring : RxRing
  pop : RingPop
  pushes : List (UInt8 × Bool)
  popped : List UInt8

def RxRingState.initial : RxRingState := ⟨.initial, ⟨.readTail, 0, 0⟩, [], []⟩

/-- What can happen next. -/
inductive RxRingAction where
  | push (byte : UInt8)
  | pop
  deriving DecidableEq, Repr

namespace RxRingState

/-- The next access of `rs422_rx_ring_pop`. -/
def popStep (s : RxRingState) : RxRingState :=
  match s.pop.pc with
  | .readTail => { s with pop := { s.pop with pc := .compareHead, tail := s.ring.tail } }
  | .compareHead =>
      if s.pop.tail = s.ring.head then { s with pop := { s.pop with pc := .readTail } }
      else { s with pop := { s.pop with pc := .readSlot } }
  | .readSlot =>
      { s with
        pop :=
          { s.pop with
            pc := .writeTail, byte := Ring.cell s.ring.storage (RxRing.slot s.pop.tail) } }
  | .writeTail =>
      { s with
        ring := { s.ring with tail := s.pop.tail + 1 }
        pop := { s.pop with pc := .readTail }
        popped := s.popped ++ [s.pop.byte] }

def step (s : RxRingState) : RxRingAction → Option RxRingState
  | .push byte =>
      some
        { s with
          ring := s.ring.pushFromIsr byte
          pushes := s.pushes ++ [(byte, !s.ring.full)] }
  | .pop => some s.popStep

/-- The bytes in the ring. -/
def stored (s : RxRingState) : List UInt8 :=
  Ring.contents s.ring.storage s.ring.tail.toNat (s.ring.head - s.ring.tail).toNat

/-- The pushed bytes without those that were refused. -/
def accepted (s : RxRingState) : List UInt8 := (s.pushes.filter Prod.snd).map Prod.fst

/-- The number of bytes that were refused. -/
def refused (s : RxRingState) : Nat := (s.pushes.filter fun push => !push.2).length

/-- `rs422_rx_ring_pop` has decided to read its slot and not yet advanced the tail. -/
def Reading (s : RxRingState) : Prop := s.pop.pc = .readSlot ∨ s.pop.pc = .writeTail

end RxRingState

end Rs422Gateway
