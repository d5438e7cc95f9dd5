import Rs422Gateway.Misc.Ring
import Rs422Gateway.Misc.Transition
import Rs422Gateway.RemoteNode.Node

/-!
# The receive path of the remote node

Rendering of `uart_rx_ring.c` and of `remote_node_port.c` without its initialisation.
`remote_node_port_process` takes its accesses to what it shares with the interrupts one by one, and
the interrupts come between any two of them unless they are masked. What `HAL_GetTick` and
`HAL_UART_Transmit` answer is a parameter of a step, and so is whether `HAL_UART_Receive_IT`
succeeds. The last three fields of `NodePort` are history: the received bytes, each with whether it
was stored, the bytes given to `remote_node_process_byte`, and the number of UART error events and
failed re-arms.
-/

namespace Rs422Gateway

/-- `UART_RX_RING_SIZE` (`uart_rx_ring.h:10`). -/
abbrev uartRxRingSize : Nat := 512

instance : NeZero uartRxRingSize := ⟨by decide⟩

/-- `uart_rx_ring_t`. -/
structure UartRxRing where
  storage : Vector UInt8 uartRxRingSize
  writeIndex : UInt16
  readIndex : UInt16

namespace UartRxRing

/-- `uart_rx_ring_init` (`uart_rx_ring.c:5-12`). -/
def init : UartRxRing := ⟨Vector.replicate _ 0, 0, 0⟩

/-- The index behind `index`. -/
def next (index : UInt16) : UInt16 :=
  if UInt16.ofNat uartRxRingSize ≤ index + 1 then 0 else index + 1

/-- `uart_rx_ring_push_isr` has no room (`uart_rx_ring.c:23-32`). -/
def full (r : UartRxRing) : Bool := decide (next r.writeIndex = r.readIndex)

/-- `uart_rx_ring_push_isr` (`uart_rx_ring.c:14-37`). -/
def pushIsr (r : UartRxRing) (byte : UInt8) : UartRxRing :=
  if r.full then r
  else
    { r with
      storage := Ring.store r.storage r.writeIndex.toNat byte
      writeIndex := next r.writeIndex }

/-- The number of bytes in the ring. -/
def count (r : UartRxRing) : Nat :=
  (r.writeIndex.toNat + uartRxRingSize - r.readIndex.toNat) % uartRxRingSize

/-- The bytes in the ring. -/
def bytes (r : UartRxRing) : List UInt8 := Ring.contents r.storage r.readIndex.toNat r.count

end UartRxRing

/-- Where `remote_node_port_process` stands: each value is the access it makes next. -/
inductive PortPc where
  /-- Between two calls. -/
  | idle
  /-- `__get_PRIMASK`. -/
  | getPrimask
  /-- `__disable_irq`. -/
  | disableIrq
  /-- `overflow_count = rx_overflow_pending`. -/
  | readOverflow
  /-- `error_count = uart_error_pending`. -/
  | readError
  /-- `rx_overflow_pending = 0u`. -/
  | clearOverflow
  /-- `uart_error_pending = 0u`. -/
  | clearError
  /-- `__enable_irq`, if the interrupts were enabled before. -/
  | enableIrq
  /-- The head of the overflow loop, with `remote_node_note_rx_overflow`. -/
  | overflowLoop
  /-- `overflow_count--`. -/
  | overflowDecrement
  /-- The head of the error loop, with `remote_node_note_uart_error`. -/
  | errorLoop
  /-- `error_count--`. -/
  | errorDecrement
  /-- The first read of `read_index` in `uart_rx_ring_pop` (`uart_rx_ring.c:44`). -/
  | popReadIndex
  /-- Its comparison with `write_index`. -/
  | popCompare
  /-- The read of the slot (`uart_rx_ring.c:49`). -/
  | popSlot
  /-- The write of `read_index` (`uart_rx_ring.c:50-56`). -/
  | popAdvance
  /-- `remote_node_process_byte`. -/
  | processByte
  /-- `remote_node_process_periodic`. -/
  | periodic
  deriving DecidableEq, Repr

/-- `remote_node_port_process`: its place and its local variables. -/
structure PortProcess where
  pc : PortPc
  /-- `primask ≠ 0`. -/
  primask : Bool
  overflowCount : UInt32
  errorCount : UInt32
  readIndex : UInt16
  byte : UInt8
  deriving DecidableEq

/-- The variables of `remote_node_port.c` (`remote_node_port.c:11-15`) and the interrupt mask. -/
structure NodePort where
  node : RemoteNode
  ring : UartRxRing
  rxOverflowPending : UInt32
  uartErrorPending : UInt32
  irqMasked : Bool
  process : PortProcess
  received : List (UInt8 × Bool)
  processed : List UInt8
  errors : Nat

/-- `remote_node_port_init` has succeeded. -/
def NodePort.initial (now : UInt32) : NodePort where
  node := .init now
  ring := .init
  rxOverflowPending := 0
  uartErrorPending := 0
  irqMasked := false
  process := ⟨.idle, false, 0, 0, 0, 0⟩
  received := []
  processed := []
  errors := 0

/-- What can happen next. -/
inductive PortAction where
  /-- `remote_node_port_process`, or the call of it. The time and the two answers are used by the
      steps that ask for them. -/
  | process (now : UInt32) (accepted heartbeatAccepted : Bool)
  /-- `HAL_UART_RxCpltCallback`. -/
  | rxCplt (byte : UInt8) (rearmed : Bool)
  /-- `HAL_UART_ErrorCallback`. -/
  | error
  deriving DecidableEq, Repr

namespace NodePort

/-- `remote_node_port_process` goes on at `pc`. -/
def goto (s : NodePort) (pc : PortPc) : NodePort :=
  { s with process := { s.process with pc := pc } }

/-- `HAL_UART_RxCpltCallback` (`remote_node_port.c:99-113`). -/
def rxCpltCallback (s : NodePort) (byte : UInt8) (rearmed : Bool) : NodePort :=
  { s with
    ring := s.ring.pushIsr byte
    rxOverflowPending :=
      if s.ring.full then s.rxOverflowPending + 1 else s.rxOverflowPending
    uartErrorPending := if rearmed then s.uartErrorPending else s.uartErrorPending + 1
    received := s.received ++ [(byte, !s.ring.full)]
    errors := if rearmed then s.errors else s.errors + 1 }

/-- `HAL_UART_ErrorCallback` (`remote_node_port.c:115-122`). -/
def errorCallback (s : NodePort) : NodePort :=
  { s with uartErrorPending := s.uartErrorPending + 1, errors := s.errors + 1 }

/-- The next access of `remote_node_port_process` (`remote_node_port.c:61-97`). -/
def processStep (s : NodePort) (now : UInt32) (accepted heartbeatAccepted : Bool) : NodePort :=
  match s.process.pc with
  | .idle => s.goto .getPrimask
  | .getPrimask =>
      { s with process := { s.process with pc := .disableIrq, primask := s.irqMasked } }
  | .disableIrq => { s with irqMasked := true }.goto .readOverflow
  | .readOverflow =>
      { s with
        process := { s.process with pc := .readError, overflowCount := s.rxOverflowPending } }
  | .readError =>
      { s with
        process := { s.process with pc := .clearOverflow, errorCount := s.uartErrorPending } }
  | .clearOverflow => { s with rxOverflowPending := 0 }.goto .clearError
  | .clearError => { s with uartErrorPending := 0 }.goto .enableIrq
  | .enableIrq =>
      { s with irqMasked := if s.process.primask then s.irqMasked else false }.goto .overflowLoop
  | .overflowLoop =>
      if s.process.overflowCount = 0 then s.goto .errorLoop
      else { s with node := s.node.noteRxOverflow }.goto .overflowDecrement
  | .overflowDecrement =>
      { s with
        process :=
          { s.process with pc := .overflowLoop, overflowCount := s.process.overflowCount - 1 } }
  | .errorLoop =>
      if s.process.errorCount = 0 then s.goto .popReadIndex
      else { s with node := s.node.noteUartError }.goto .errorDecrement
  | .errorDecrement =>
      { s with
        process := { s.process with pc := .errorLoop, errorCount := s.process.errorCount - 1 } }
  | .popReadIndex =>
      { s with process := { s.process with pc := .popCompare, readIndex := s.ring.readIndex } }
  | .popCompare =>
      if s.process.readIndex = s.ring.writeIndex then s.goto .periodic else s.goto .popSlot
  | .popSlot =>
      { s with
        process :=
          { s.process with
            pc := .popAdvance, byte := Ring.cell s.ring.storage s.ring.readIndex.toNat } }
  | .popAdvance =>
      { s with
        ring := { s.ring with readIndex := UartRxRing.next s.ring.readIndex } }.goto .processByte
  | .processByte =>
      { s with
        node := (s.node.processByte s.process.byte now accepted).1
        processed := s.processed ++ [s.process.byte] }.goto .popReadIndex
  | .periodic =>
      { s with node := (s.node.processPeriodic now accepted heartbeatAccepted).1 }.goto .idle

def step (s : NodePort) : PortAction → Option NodePort
  | .process now accepted heartbeatAccepted => some (s.processStep now accepted heartbeatAccepted)
  | .rxCplt byte rearmed => if s.irqMasked then none else some (s.rxCpltCallback byte rearmed)
  | .error => if s.irqMasked then none else some s.errorCallback

/-- The byte that is popped and not yet processed. -/
def inHand (s : NodePort) : List UInt8 :=
  if s.process.pc = .processByte then [s.process.byte] else []

/-- The received bytes without the dropped ones. -/
def kept (s : NodePort) : List UInt8 := (s.received.filter Prod.snd).map Prod.fst

/-- The number of dropped bytes. -/
def dropped (s : NodePort) : Nat := (s.received.filter fun r => !r.2).length

/-- What `overflow_count` holds and is neither in `rx_overflow_pending` any more nor applied yet. -/
def unappliedOverflow (s : NodePort) : UInt32 :=
  match s.process.pc with
  | .clearError | .enableIrq | .overflowLoop => s.process.overflowCount
  | .overflowDecrement => s.process.overflowCount - 1
  | _ => 0

/-- What `error_count` holds and is neither in `uart_error_pending` any more nor applied yet. -/
def unappliedError (s : NodePort) : UInt32 :=
  match s.process.pc with
  | .enableIrq | .overflowLoop | .overflowDecrement | .errorLoop => s.process.errorCount
  | .errorDecrement => s.process.errorCount - 1
  | _ => 0

end NodePort

end Rs422Gateway
