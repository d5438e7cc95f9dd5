import Rs422Gateway.Gateway.Uart

/-!
# The pending slot, event by event

The gateway with a record of what happens to the pending slot (`g_rs422_tcp_ping_pending` and its
SEQ): a forward that sets it, an attempt of `rs422_process_rx_buffer` to put a PONG on
`tcp_response_queue`, a TCP_CONTEXT_RESET that is handled and a forward of a PING that fails. The
flag calls of RS422Task may fail, the HAL answers as it likes, and EthernetTask runs while RS422Task
is blocked.
-/

namespace Rs422Gateway

/-- What happens to the pending slot. -/
inductive SlotEvent where
  /-- `rs422_forward_packet` sets the slot (`main.c:2780-2786`). -/
  | marked (seq : UInt16)
  /-- `rs422_process_rx_buffer` tries to put a PONG on `tcp_response_queue` (`main.c:2462-2482`),
      with `g_w5500_tcp_session_active` at that moment. -/
  | attempt (seq : UInt16) (active : Bool)
  /-- A TCP_CONTEXT_RESET is handled (`main.c:2490-2497`). -/
  | reset
  /-- The forward of a PING fails in `HAL_UART_Transmit_IT` or in
      `rs422_wait_for_tx_complete`. -/
  | failed
  deriving DecidableEq, Repr

def SlotEvent.isMarked : SlotEvent → Bool
  | .marked _ => true
  | _ => false

def SlotEvent.isAttempt : SlotEvent → Bool
  | .attempt _ _ => true
  | _ => false

/-- What can happen next. -/
inductive SlotAction where
  | gateway (action : GatewayAction)
  | flagError (error : FlagError)
  deriving DecidableEq, Repr

namespace Gateway

def stepOrFail (s : Gateway) : SlotAction → Option Gateway
  | .gateway action => s.step action
  | .flagError error => s.flagErrorStep error

/-- The byte completes a PONG that answers the PING in the slot. -/
def attempts (s : Gateway) (byte : UInt8) : Prop :=
  s.rs422Event byte = .frame ∧ (s.feedRs422 byte).matchesPending

instance (s : Gateway) (byte : UInt8) : Decidable (s.attempts byte) :=
  inferInstanceAs (Decidable (_ ∧ _))

/-- The failure of a forward that holds a PING. -/
def failedEvents (s : Gateway) : List SlotEvent :=
  if s.rs422Command.packet.msgId = msgPing then [.failed] else []

/-- `rs422_wait_for_tx_complete` fails. -/
def waitFailedEvents (s : Gateway) : List SlotEvent :=
  if s.rs422.txCaller = .forward then s.failedEvents else []

/-- RS422Task takes the pending flags. -/
def resetEvents (s : Gateway) : List SlotEvent :=
  if s.flags.tcpContextReset then [.reset] else []

/-- What the next step of RS422Task does to the slot. -/
def rs422SlotEvents (s : Gateway) (hal : HalStatus) (late : Bool) : List SlotEvent :=
  match s.rs422.pc with
  | .rx _ =>
      match s.rxRing with
      | [] => []
      | byte :: _ =>
          if s.attempts byte then
            [.attempt (s.feedRs422 byte).rs422ReceivedPacket.seq s.tcpSessionActive]
          else []
  | .pollFlags | .pongWait | .mainWait => if s.flags.any then s.resetEvents else []
  | .waitFlags =>
      if s.flags.any then s.resetEvents else if late then s.waitFailedEvents else []
  | .checkBusy => if s.rs422TxBusy = true ∧ late = true then s.waitFailedEvents else []
  | .forwardPending =>
      if s.rs422Command.packet.msgId = msgPing ∧ s.tcpSessionActive = true then
        [.marked s.rs422Command.packet.seq]
      else []
  | .forwardTransmit => if hal = .ok then [] else s.failedEvents
  | _ => []

/-- What a step does to the slot. -/
def slotEvents (s : Gateway) : SlotAction → List SlotEvent
  | .gateway (.rs422 hal late) => s.rs422SlotEvents hal late
  | .gateway _ => []
  | .flagError error =>
      match s.rs422.pc with
      | .pollFlags => if error = .resource then [] else s.waitFailedEvents
      | .waitFlags => s.waitFailedEvents
      | _ => []

end Gateway

/-- The gateway and the events of its slot, the oldest first. -/
structure SlotTrace where
  gateway : Gateway
  events : List SlotEvent

namespace SlotTrace

def initial : SlotTrace := ⟨.initial, []⟩

def step (s : SlotTrace) (a : SlotAction) : Option SlotTrace :=
  (s.gateway.stepOrFail a).map fun g => ⟨g, s.events ++ s.gateway.slotEvents a⟩

end SlotTrace

end Rs422Gateway
