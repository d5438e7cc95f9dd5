import Rs422Gateway.Gateway.State

/-!
# RS422Task

Rendering of `StartRS422Task` (`main.c:3245-3327`) and what it calls: `rs422_process_rx_buffer`,
the event handlers, `rs422_wait_for_tx_complete`, the bring-up test and `rs422_forward_packet`.
RS422Task has the highest priority of the tasks, so only interrupts come between its steps, and no
step makes more than one access that an interrupt can see: a byte of the RX ring, the event flags,
the clock or the UART. What the clock and the HAL answer is a parameter of the step. The flag calls
do not fail. The recording of a valid frame for HealthTask (`main.c:2392-2410`) is in
`Gateway/Health.lean`; the result of a test is only counted and is left out.
-/

namespace Rs422Gateway

/-- The last `count` bytes of a stream. -/
def lastBytes (count : Nat) (bytes : List UInt8) : List UInt8 :=
  bytes.drop (bytes.length - count)

/-- The frame a parser has just delivered as `packet`, as it stands at the end of the stream. -/
def deliveredFrame (packet : ProtocolPacket) (bytes : List UInt8) : List UInt8 :=
  lastBytes (packet.length.toNat + 10) bytes

namespace Gateway

/-- RS422Task goes on at `pc`. -/
def rs422Goto (s : Gateway) (pc : Rs422Pc) : Gateway :=
  { s with rs422 := { s.rs422 with pc := pc } }

/-- RS422Task calls `rs422_process_rx_buffer`. -/
def callProcessRx (s : Gateway) (caller : RxCaller) : Gateway :=
  { s with rs422 := { s.rs422 with pc := .rx caller, rxMatchingPongReceived := false } }

/-! ## `rs422_process_rx_buffer` -/

/-- A valid frame of another kind than PONG and TELEMETRY leaves no trace here. -/
def noteRs422Frame (s : Gateway) : Gateway :=
  let packet := s.rs422ReceivedPacket
  let frame := deliveredFrame packet s.history.rs422Bytes
  { s with
    history :=
      { s.history with
        pongFrames :=
          if packet.msgId = msgPong then s.history.pongFrames ++ [frame]
          else s.history.pongFrames
        telemetryFrames :=
          if packet.msgId = msgTelemetry then s.history.telemetryFrames ++ [frame]
          else s.history.telemetryFrames } }

/-- A TELEMETRY frame goes to `udp_telemetry_queue` (`main.c:2412-2432`). -/
def enqueueTelemetry (s : Gateway) : Gateway :=
  if s.rs422ReceivedPacket.msgId = msgTelemetry ∧ s.telemetryForwardingEnabled = true then
    if s.udpTelemetryQueue.length < udpTelemetryQueueDepth then
      { s with
        udpTelemetryQueue := s.udpTelemetryQueue ++ [s.rs422ReceivedPacket]
        counts :=
          { s.counts with
            udpTelemetryEnqueueSuccess := s.counts.udpTelemetryEnqueueSuccess + 1 } }
    else
      { s with
        counts :=
          { s.counts with udpTelemetryEnqueueFail := s.counts.udpTelemetryEnqueueFail + 1 } }
  else s

/-- The PONG in `g_rs422_received_packet` answers the PING in the pending slot
    (`main.c:2441-2444`). -/
def matchesPending (s : Gateway) : Prop :=
  s.rs422ReceivedPacket.msgId = msgPong ∧ s.tcpSessionActive = true ∧
    s.tcpPingPending = true ∧ s.rs422ReceivedPacket.seq = s.tcpPingPendingSeq

instance (s : Gateway) : Decidable s.matchesPending :=
  inferInstanceAs (Decidable (_ ∧ _ ∧ _ ∧ _))

/-- The match is taken out of the pending slot; the PING it was taken for is answered. -/
def takePending (s : Gateway) : Gateway :=
  let seq := s.rs422ReceivedPacket.seq
  { s with
    tcpPingPending := false
    counts := { s.counts with forwardedPongRx := s.counts.forwardedPongRx + 1 }
    history :=
      { s.history with
        inFlight := if s.history.inFlight = some seq then none else s.history.inFlight
        unanswered :=
          if s.history.inFlight = some seq then s.history.unanswered
          else s.history.unanswered.erase seq } }

/-- The put of a matching PONG on `tcp_response_queue` (`main.c:2462-2482`). -/
def enqueueResponse (s : Gateway) : Gateway :=
  if s.tcpResponseQueue.length < tcpResponseQueueDepth then
    { s with
      tcpResponseQueue :=
        s.tcpResponseQueue ++ [⟨s.rs422ReceivedPacket, s.history.pendingRequest⟩]
      counts :=
        { s.counts with tcpResponseEnqueueSuccess := s.counts.tcpResponseEnqueueSuccess + 1 } }
  else
    { s with
      counts :=
        { s.counts with tcpResponseEnqueueFail := s.counts.tcpResponseEnqueueFail + 1 } }

/-- A PONG frame (`main.c:2441-2483`). -/
def handlePong (s : Gateway) : Gateway :=
  if s.matchesPending then s.takePending.enqueueResponse else s

/-- The test of the calls with `match_pong` set (`main.c:2434-2439`). The main loop passes 0 and
    does not use the result. -/
def noteMatchingPong (s : Gateway) : Gateway :=
  if s.rs422ReceivedPacket.msgId = msgPong ∧
      s.rs422ReceivedPacket.seq = s.rs422.expectedPongSequence then
    { s with rs422 := { s.rs422 with rxMatchingPongReceived := true } }
  else s

/-- A valid frame (`main.c:2390-2485`). -/
def handleRs422Frame (s : Gateway) : Gateway :=
  s.noteRs422Frame.enqueueTelemetry.noteMatchingPong.handlePong

/-- A byte for `g_rs422_parser` (`main.c:2385-2388`). -/
def feedRs422 (s : Gateway) (byte : UInt8) : Gateway :=
  let (parser, _, packet) := s.rs422Parser.feedByte byte s.rs422ReceivedPacket
  { s with
    rs422Parser := parser
    rs422ReceivedPacket := packet
    history := { s.history with rs422Bytes := s.history.rs422Bytes ++ [byte] } }

/-- The event of that call. -/
def rs422Event (s : Gateway) (byte : UInt8) : StreamParserEvent :=
  (s.rs422Parser.feedByte byte s.rs422ReceivedPacket).2.1

/-- A byte taken from the RX ring. -/
def processRxByte (s : Gateway) (byte : UInt8) : Gateway :=
  if s.rs422Event byte = .frame then (s.feedRs422 byte).handleRs422Frame else s.feedRs422 byte

/-! ## The event handlers -/

/-- The pending slot is emptied. -/
def clearPending (s : Gateway) : Gateway :=
  { s with
    tcpPingPending := false
    tcpPingPendingSeq := 0
    history := { s.history with inFlight := none } }

/-- `rs422_handle_tcp_context_reset_event` (`main.c:2490-2497`). -/
def handleTcpContextResetEvent (s : Gateway) (flags : Rs422Flags) : Gateway :=
  if flags.tcpContextReset then s.clearPending else s

/-- `rs422_handle_tx_done_event` (`main.c:2499-2513`). -/
def handleTxDoneEvent (s : Gateway) (flags : Rs422Flags) : Gateway :=
  if flags.txDone then { s with rs422TxBusy := false } else s

/-- A successful `osThreadFlagsWait` and the two handlers behind it. -/
def takeFlags (s : Gateway) : Gateway :=
  ({ s with flags := .none }.handleTcpContextResetEvent s.flags).handleTxDoneEvent s.flags

/-! ## `rs422_wait_for_tx_complete` and its callers -/

/-- `rs422_wait_for_tx_complete` is called, with the SEQ a PONG is to have. -/
def callWaitForTxComplete (s : Gateway) (caller : TxCaller) (seq : UInt16) : Gateway :=
  { s with
    rs422 :=
      { s.rs422 with
        pc := .waitTx
        txCaller := caller
        expectedPongSequence := seq
        matchingPongReceived := false } }

/-- `rs422_forward_packet` has failed behind the pending slot (`main.c:2797-2801`,
    `2836-2840`). -/
def forwardFailed (s : Gateway) : Gateway :=
  if s.rs422Command.packet.msgId = msgPing then s.clearPending else s

/-- `rs422_forward_packet` returns `RS422_PING_TEST_PASS`. -/
def forwardPassed (s : Gateway) : Gateway :=
  { s with
    history :=
      { s.history with
        inFlight := none
        unanswered := s.history.inFlight.toList ++ s.history.unanswered } }

/-- `rs422_wait_for_tx_complete` returns, with `RS422_PING_TEST_PASS` or not. -/
def returnWaitForTxComplete (s : Gateway) (pass : Bool) : Gateway :=
  match s.rs422.txCaller with
  | .bringup =>
      if pass = true ∧ s.rs422.matchingPongReceived = false then s.rs422Goto .pongLoop
      else s.rs422Goto .testDone
  | .forward => (if pass then s.forwardPassed else s.forwardFailed).callProcessRx .main

/-- `rs422_process_rx_buffer` returns. -/
def returnProcessRx (s : Gateway) (caller : RxCaller) : Gateway :=
  let received := s.rs422.matchingPongReceived || s.rs422.rxMatchingPongReceived
  match caller with
  | .txLoop =>
      { s with rs422 := { s.rs422 with pc := .pollFlags, matchingPongReceived := received } }
  | .txDone =>
      { s with rs422 := { s.rs422 with matchingPongReceived := received } }.returnWaitForTxComplete
        true
  | .pongLoop =>
      if s.rs422.rxMatchingPongReceived then s.rs422Goto .testDone else s.rs422Goto .pongElapsed
  | .main => s.rs422Goto .dequeue

/-! ## `rs422_forward_packet` -/

/-- The pending slot is taken for a PING while a session is active (`main.c:2780-2786`). -/
def markPending (s : Gateway) : Gateway :=
  if s.rs422Command.packet.msgId = msgPing ∧ s.tcpSessionActive = true then
    { s with
      tcpPingPendingSeq := s.rs422Command.packet.seq
      tcpPingPending := true
      history :=
        { s.history with
          pendingRequest := s.rs422Command
          inFlight := some s.rs422Command.packet.seq } }
  else s

/-- `HAL_UART_Transmit_IT` is called by `rs422_forward_packet`. -/
def noteTransmit (s : Gateway) : Gateway :=
  { s with history := { s.history with txFrames := s.history.txFrames ++ [s.rs422TxFrame] } }

/-- The PING packet of a bring-up test (`main.c:2602-2605`). -/
def bringupPing (seq : UInt16) : ProtocolPacket :=
  { ProtocolPacket.zero with version := protocolVersion, msgId := msgPing, seq := seq, length := 0 }

/-! ## The steps -/

/-- The next step of RS422Task. `hal` is what the HAL returns and `late` whether a time has run out,
    where the step asks. -/
def rs422Step (s : Gateway) (hal : HalStatus) (late : Bool) : Option Gateway :=
  match s.rs422.pc with
  | .start => some (if hal = .ok then s.rs422Goto .bringup else s.rs422Goto .enable)
  | .bringup =>
      if s.rs422TxBusy then some (s.rs422Goto .testDone)
      else
        match encodeFrame (bringupPing (UInt16.ofNat (s.rs422.testIndex + 1))) with
        | none => some (s.rs422Goto .testDone)
        | some frame =>
            some
              ({ s with rs422TxFrame := frame, flags := { s.flags with txDone := false } }.rs422Goto
                .bringupTransmit)
  | .bringupTransmit =>
      if hal = .ok then
        some ({ s with rs422TxBusy := true }.callWaitForTxComplete .bringup
          (UInt16.ofNat (s.rs422.testIndex + 1)))
      else some ({ s with rs422TxBusy := false }.rs422Goto .testDone)
  | .waitTx =>
      if s.rs422TxBusy then some (s.callProcessRx .txLoop)
      else some (s.returnWaitForTxComplete true)
  | .rx caller =>
      match s.rxRing with
      | [] => some (s.returnProcessRx caller)
      | byte :: rest => some ({ s with rxRing := rest }.processRxByte byte)
  | .pollFlags => some ((if s.flags.any then s.takeFlags else s).rs422Goto .checkBusy)
  | .checkBusy =>
      if s.rs422TxBusy = false then some (s.callProcessRx .txDone)
      else if late then some (s.returnWaitForTxComplete false)
      else some (s.rs422Goto .waitFlags)
  | .waitFlags =>
      if s.flags.any then some (s.takeFlags.rs422Goto .waitTx)
      else if late then some (s.returnWaitForTxComplete false)
      else none
  | .pongLoop => some (if late then s.rs422Goto .testDone else s.callProcessRx .pongLoop)
  | .pongElapsed => some (if late then s.rs422Goto .testDone else s.rs422Goto .pongWait)
  | .pongWait =>
      if s.flags.any then some (s.takeFlags.rs422Goto .pongLoop)
      else if late then some (s.rs422Goto .testDone)
      else none
  | .testDone =>
      some
        (if s.rs422.testIndex + 1 < rs422BringupTestCount then s.rs422Goto .delay
          else s.rs422Goto .enable)
  | .delay =>
      some { s with rs422 := { s.rs422 with pc := .bringup, testIndex := s.rs422.testIndex + 1 } }
  | .enable => some ({ s with telemetryForwardingEnabled := true }.callProcessRx .main)
  | .dequeue =>
      match s.cmdQueue with
      | [] => some (s.rs422Goto .mainWait)
      | command :: rest =>
          some
            ({ s with
                cmdQueue := rest
                rs422Command := command
                counts := { s.counts with cmdDequeue := s.counts.cmdDequeue + 1 } }.rs422Goto
              .forward)
  | .forward =>
      if s.rs422TxBusy then some (s.callProcessRx .main)
      else
        match encodeFrame s.rs422Command.packet with
        | none => some (s.callProcessRx .main)
        | some frame =>
            some
              ({ s with rs422TxFrame := frame, flags := { s.flags with txDone := false } }.rs422Goto
                .forwardPending)
  | .forwardPending => some (s.markPending.rs422Goto .forwardTransmit)
  | .forwardTransmit =>
      if hal = .ok then
        some ({ s.noteTransmit with rs422TxBusy := true }.callWaitForTxComplete .forward
          s.rs422Command.packet.seq)
      else some ({ s.noteTransmit with rs422TxBusy := false }.forwardFailed.callProcessRx .main)
  | .mainWait => if s.flags.any then some (s.takeFlags.callProcessRx .main) else none

/-- RS422Task waits for a flag and none is pending, so a task of lower priority can run. -/
def rs422Blocked (s : Gateway) : Prop :=
  (s.rs422.pc = .waitFlags ∨ s.rs422.pc = .pongWait ∨ s.rs422.pc = .mainWait) ∧
    s.flags.any = false

instance (s : Gateway) : Decidable s.rs422Blocked :=
  inferInstanceAs (Decidable (_ ∧ _))

/-! ## The interrupts -/

/-- `HAL_UART_RxCpltCallback` (`main.c:3181-3197`) with `rs422_rx_ring_push_from_isr`
    (`main.c:2123-2137`). -/
def uartRxCpltCallback (s : Gateway) (byte : UInt8) : Gateway :=
  { s with
    rxRing := if s.rxRing.length < rs422RxRingCapacity then s.rxRing ++ [byte] else s.rxRing
    flags := { s.flags with rx := true } }

/-- `HAL_UART_ErrorCallback` (`main.c:3199-3216`). -/
def uartErrorCallback (s : Gateway) : Gateway :=
  { s with flags := { s.flags with rx := true } }

/-- `HAL_UART_TxCpltCallback` (`main.c:3171-3179`). -/
def uartTxCpltCallback (s : Gateway) : Gateway :=
  { s with flags := { s.flags with txDone := true } }

end Gateway

end Rs422Gateway
