import Rs422Gateway.Gateway.EthernetTask

/-!
# UART4 and the event flags of RS422Task

`Gateway/Rs422Task.lean` lets the flag calls of RS422Task succeed and the UART answer as it likes.
Here the flag calls may fail as well, and the UART is the one the HAL has: `HAL_UART_Transmit_IT`
answers HAL_BUSY exactly while a transmission is outstanding, and an accepted transmission ends with
at most one TxCplt interrupt, or without. EthernetTask may take a step at any time.

The last fields of `UartGateway` are history: how many transmissions have been accepted, which of
them raised the TX_DONE that is pending, for which frame each TX_DONE was consumed, and whether a
TCP_CONTEXT_RESET or a TX_DONE has been set and not applied. What applies them is what their handler
does to the pending slot and to `g_rs422_tx_busy`; to take the flag or to clear it does not.
-/

namespace Rs422Gateway

/-- What a failing `osThreadFlagsWait` or `osThreadFlagsClear` returns. -/
inductive FlagError where
  /-- `osFlagsErrorResource`: no flag is pending and the call does not wait. -/
  | resource
  /-- `osFlagsErrorTimeout`. -/
  | timeout
  /-- Any other error. -/
  | other
  deriving DecidableEq, Repr

namespace Gateway

/-- The step of RS422Task when its flag call fails (`main.c:2616-2620`, `2774-2778`, `2539-2543`,
    `2567-2577`, `2682-2690`, `3321-3324`). A call that fails clears no flag. -/
def flagErrorStep (s : Gateway) (error : FlagError) : Option Gateway :=
  match s.rs422.pc with
  | .bringup =>
      if s.rs422TxBusy then none
      else
        match encodeFrame (bringupPing (UInt16.ofNat (s.rs422.testIndex + 1))) with
        | none => none
        | some frame => some ({ s with rs422TxFrame := frame }.rs422Goto .testDone)
  | .forward =>
      if s.rs422TxBusy then none
      else
        match encodeFrame s.rs422Command.packet with
        | none => none
        | some frame => some ({ s with rs422TxFrame := frame }.callProcessRx .main)
  | .pollFlags =>
      some
        (if error = .resource then s.rs422Goto .checkBusy else s.returnWaitForTxComplete false)
  | .waitFlags => some (s.returnWaitForTxComplete false)
  | .pongWait => some (s.rs422Goto .testDone)
  | .mainWait => some (s.callProcessRx .main)
  | _ => none

/-- RS422Task calls `osThreadFlagsWait`, and a flag is pending. -/
def takesFlags (s : Gateway) : Bool :=
  match s.rs422.pc with
  | .pollFlags | .waitFlags | .pongWait | .mainWait => s.flags.any
  | _ => false

/-- RS422Task calls `HAL_UART_Transmit_IT`. -/
def transmits (s : Gateway) : Bool :=
  match s.rs422.pc with
  | .bringupTransmit | .forwardTransmit => true
  | _ => false

/-- RS422Task calls `protocol_encode` for `g_rs422_tx_frame`. -/
def encodes (s : Gateway) : Bool :=
  match s.rs422.pc with
  | .bringup | .forward => !s.rs422TxBusy
  | _ => false

end Gateway

/-- The gateway with UART4. -/
structure UartGateway where
  gateway : Gateway
  /-- The transmission that is outstanding, by its number. -/
  outstanding : Option Nat
  accepted : Nat
  raised : Option Nat
  consumed : List (Option Nat × Nat)
  resetUnapplied : Bool
  /-- The transmission whose TX_DONE has been set and not applied. -/
  doneUnapplied : Option Nat

/-- What can happen next. -/
inductive UartAction where
  /-- RS422Task, with the answers its step asks for. -/
  | task (hal : HalStatus) (late : Bool)
  /-- RS422Task, and its flag call fails. -/
  | flagError (error : FlagError)
  | ethernet (op : EthernetOp) (hal : HalStatus)
  | rx (byte : UInt8)
  | rxError
  /-- The TxCplt interrupt. -/
  | txDone
  /-- The transmission ends without it. -/
  | txEnd
  deriving DecidableEq, Repr

namespace UartGateway

def initial : UartGateway := ⟨.initial, none, 0, none, [], false, none⟩

/-- `HAL_UART_Transmit_IT` answers HAL_BUSY exactly while a transmission is outstanding. -/
def Conforms (s : UartGateway) (hal : HalStatus) : Prop :=
  s.gateway.transmits = true → (hal = .busy ↔ s.outstanding ≠ none)

instance (s : UartGateway) (hal : HalStatus) : Decidable (s.Conforms hal) :=
  inferInstanceAs (Decidable (_ → (_ ↔ _)))

/-- A TCP_CONTEXT_RESET is taken, and behind the step the pending slot is empty. -/
def appliesReset (s : UartGateway) (gateway : Gateway) : Bool :=
  s.gateway.takesFlags && s.gateway.flags.tcpContextReset && !gateway.tcpPingPending &&
    gateway.tcpPingPendingSeq == 0

/-- A TX_DONE is taken, and the step clears `g_rs422_tx_busy` for the transmission that raised
    it. -/
def appliesDone (s : UartGateway) (gateway : Gateway) : Bool :=
  s.gateway.takesFlags && s.gateway.flags.txDone && s.gateway.rs422TxBusy &&
    !gateway.rs422TxBusy && s.doneUnapplied == some s.accepted

/-- A step of RS422Task, noted in the history. -/
def noteTask (s : UartGateway) (hal : HalStatus) (gateway : Gateway) : UartGateway where
  gateway := gateway
  outstanding :=
    if s.gateway.transmits = true ∧ hal = .ok then some (s.accepted + 1) else s.outstanding
  accepted := if s.gateway.transmits = true ∧ hal = .ok then s.accepted + 1 else s.accepted
  raised := if gateway.flags.txDone then s.raised else none
  consumed :=
    if s.gateway.takesFlags = true ∧ s.gateway.flags.txDone = true then
      s.consumed ++ [(s.raised, s.accepted)]
    else s.consumed
  resetUnapplied := s.resetUnapplied && !s.appliesReset gateway
  doneUnapplied := if s.appliesDone gateway then none else s.doneUnapplied

/-- EthernetTask sets TCP_CONTEXT_RESET. -/
def setsReset (s : UartGateway) : Bool := s.gateway.ethernet == .invalidate

def step (s : UartGateway) : UartAction → Option UartGateway
  | .task hal late =>
      if s.Conforms hal then (s.gateway.rs422Step hal late).map (s.noteTask hal) else none
  | .flagError error => (s.gateway.flagErrorStep error).map fun g => { s with gateway := g }
  | .ethernet op hal =>
      (s.gateway.ethernetStep op hal).map fun g =>
        { s with gateway := g, resetUnapplied := s.resetUnapplied || s.setsReset }
  | .rx byte => some { s with gateway := s.gateway.uartRxCpltCallback byte }
  | .rxError => some { s with gateway := s.gateway.uartErrorCallback }
  | .txDone =>
      if s.outstanding ≠ none then
        some
          { s with
            gateway := s.gateway.uartTxCpltCallback
            outstanding := none
            raised := s.outstanding
            doneUnapplied := s.outstanding }
      else none
  | .txEnd => if s.outstanding ≠ none then some { s with outstanding := none } else none

end UartGateway

/-! ## Which transmissions are over -/

/-- The gateway with UART4 and the numbers of the transmissions whose TxCplt interrupt has
    occurred. -/
structure UartTrace where
  uart : UartGateway
  completed : List Nat

namespace UartTrace

def initial : UartTrace := ⟨.initial, []⟩

def step (s : UartTrace) (a : UartAction) : Option UartTrace :=
  (s.uart.step a).map fun uart =>
    { uart := uart
      completed := if a = .txDone then s.uart.outstanding.toList ++ s.completed else s.completed }

/-- The transmission has been accepted, and its TxCplt interrupt has not yet occurred. -/
def Outstanding (s : UartTrace) (n : Nat) : Prop :=
  1 ≤ n ∧ n ≤ s.uart.accepted ∧ n ∉ s.completed

/-- `rs422_forward_packet` refuses the command in hand at its test of `g_rs422_tx_busy`
    (`main.c:2756-2760`). -/
def RefusesBusy (s : UartTrace) : Prop :=
  s.uart.gateway.rs422.pc = .forward ∧ s.uart.gateway.rs422TxBusy = true

instance (s : UartTrace) : Decidable s.RefusesBusy := inferInstanceAs (Decidable (_ ∧ _))

/-- A command is refused as busy only while a transmission is outstanding. -/
def RefusesOutstanding (s : UartTrace) : Prop := s.RefusesBusy → ∃ n, s.Outstanding n

/-- RS422Task comes to know of the end of a transmission before it has another command in hand: it
    takes no command while TX_DONE is pending with `g_rs422_tx_busy` set, and TX_DONE is not set
    between this and the test of `g_rs422_tx_busy`. -/
def KnowsEnd (s : UartTrace) : UartAction → Prop
  | .task _ _ =>
      s.uart.gateway.rs422.pc = .dequeue → s.uart.gateway.cmdQueue ≠ [] →
        s.uart.gateway.rs422TxBusy = true → s.uart.gateway.flags.txDone = false
  | .txDone => ¬ s.RefusesBusy
  | _ => True

instance (s : UartTrace) (a : UartAction) : Decidable (s.KnowsEnd a) :=
  match a with
  | .task _ _ => inferInstanceAs (Decidable (_ → _ ≠ _ → _ → _))
  | .txDone => inferInstanceAs (Decidable (¬ _))
  | .flagError _ => .isTrue trivial
  | .ethernet _ _ => .isTrue trivial
  | .rx _ => .isTrue trivial
  | .rxError => .isTrue trivial
  | .txEnd => .isTrue trivial

end UartTrace

end Rs422Gateway
