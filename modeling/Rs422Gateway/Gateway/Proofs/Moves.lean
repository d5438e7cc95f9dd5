import Rs422Gateway.Gateway.EthernetTask

/-!
# What a step of a task can do

`Rs422Move s s'` and `EthernetMove s s'` list the ways in which a step of RS422Task and one of
EthernetTask change the gateway, by the operations of `Gateway/Rs422Task.lean` and
`Gateway/EthernetTask.lean`, and `GatewayMove s a s'` says which of them an action is. The
invariants of the gateway are proved along them.
-/

namespace Rs422Gateway

/-- RS422Task is inside `rs422_wait_for_tx_complete`. -/
def Rs422Pc.waiting : Rs422Pc → Bool
  | .waitTx | .rx .txLoop | .rx .txDone | .pollFlags | .checkBusy | .waitFlags => true
  | _ => false

/-- RS422Task is in `rs422_forward_packet` with a command that is not transmitted yet. -/
def Rs422Pc.holding : Rs422Pc → Bool
  | .forward | .forwardPending | .forwardTransmit => true
  | _ => false

namespace Gateway

/-! ## A byte from RS-422 -/

/-- The queue for UDP and its two counters. -/
theorem enqueueTelemetry_eq (s : Gateway) :
    ∃ queue success fail,
      s.enqueueTelemetry =
        { s with
          udpTelemetryQueue := queue
          counts :=
            { s.counts with
              udpTelemetryEnqueueSuccess := success
              udpTelemetryEnqueueFail := fail } } := by
  unfold enqueueTelemetry
  split
  · split
    · exact ⟨_, _, _, rfl⟩
    · exact ⟨_, _, _, rfl⟩
  · exact ⟨_, _, _, rfl⟩

/-- The bring-up test is told of its PONG. -/
theorem noteMatchingPong_eq (s : Gateway) :
    ∃ received,
      s.noteMatchingPong =
        { s with rs422 := { s.rs422 with rxMatchingPongReceived := received } } := by
  unfold noteMatchingPong
  split
  · exact ⟨_, rfl⟩
  · exact ⟨_, rfl⟩

/-- A valid frame may go to the queue for UDP and end the bring-up test before it is handled as a
    PONG. -/
theorem processRxByte_cases (s : Gateway) (byte : UInt8) :
    s.processRxByte byte = s.feedRs422 byte ∨
    ∃ queue success fail received,
      s.processRxByte byte =
        handlePong
          { (s.feedRs422 byte).noteRs422Frame with
            udpTelemetryQueue := queue
            counts :=
              { s.counts with
                udpTelemetryEnqueueSuccess := success
                udpTelemetryEnqueueFail := fail }
            rs422 := { s.rs422 with rxMatchingPongReceived := received } } := by
  unfold processRxByte
  split
  · obtain ⟨queue, success, fail, htelemetry⟩ :=
      enqueueTelemetry_eq (s.feedRs422 byte).noteRs422Frame
    obtain ⟨received, hmatching⟩ :=
      noteMatchingPong_eq (s.feedRs422 byte).noteRs422Frame.enqueueTelemetry
    refine .inr ⟨queue, success, fail, received, ?_⟩
    rw [handleRs422Frame, hmatching, htelemetry]
    rfl
  · exact .inl rfl

/-! ## The tasks -/

/-- The steps of RS422Task. A step never enters `rs422_wait_for_tx_complete` except through a
    transmission, and never holds a command except from `rs422_cmd_queue`. -/
inductive Rs422Move (s : Gateway) : Gateway → Prop where
  | goto (pc : Rs422Pc) (waits : pc.waiting = true → s.rs422.pc.waiting = true)
      (holds : pc.holding = false) : Rs422Move s (s.rs422Goto pc)
  | call (caller : RxCaller)
      (waits : (Rs422Pc.rx caller).waiting = true → s.rs422.pc.waiting = true) :
      Rs422Move s (s.callProcessRx caller)
  | returnWait (pass : Bool) (waits : s.rs422.pc.waiting = true) :
      Rs422Move s (s.returnWaitForTxComplete pass)
  | returnRx (caller : RxCaller) (pc : s.rs422.pc = .rx caller) (ring : s.rxRing = []) :
      Rs422Move s (s.returnProcessRx caller)
  | receive (caller : RxCaller) (byte : UInt8) (rest : List UInt8) (pc : s.rs422.pc = .rx caller)
      (ring : s.rxRing = byte :: rest) : Rs422Move s ({ s with rxRing := rest }.processRxByte byte)
  | take (pc : Rs422Pc) (waits : pc.waiting = true → s.rs422.pc.waiting = true)
      (holds : pc.holding = false) : Rs422Move s (s.takeFlags.rs422Goto pc)
  | wake (pc : s.rs422.pc = .mainWait) : Rs422Move s (s.takeFlags.callProcessRx .main)
  | armBringup (frame : List UInt8) (pc : s.rs422.pc = .bringup) :
      Rs422Move s
        ({ s with rs422TxFrame := frame, flags := { s.flags with txDone := false } }.rs422Goto
          .bringupTransmit)
  | transmitBringup (pc : s.rs422.pc = .bringupTransmit) :
      Rs422Move s ({ s with rs422TxBusy := true }.callWaitForTxComplete .bringup
        (UInt16.ofNat (s.rs422.testIndex + 1)))
  | transmitBringupFailed (pc : s.rs422.pc = .bringupTransmit) :
      Rs422Move s ({ s with rs422TxBusy := false }.rs422Goto .testDone)
  | nextTest (pc : s.rs422.pc = .delay) :
      Rs422Move s
        { s with rs422 := { s.rs422 with pc := .bringup, testIndex := s.rs422.testIndex + 1 } }
  | enable (pc : s.rs422.pc = .enable) :
      Rs422Move s ({ s with telemetryForwardingEnabled := true }.callProcessRx .main)
  | dequeue (command : Command) (rest : List Command) (pc : s.rs422.pc = .dequeue)
      (queue : s.cmdQueue = command :: rest) :
      Rs422Move s
        ({ s with
            cmdQueue := rest
            rs422Command := command
            counts := { s.counts with cmdDequeue := s.counts.cmdDequeue + 1 } }.rs422Goto .forward)
  | arm (frame : List UInt8) (pc : s.rs422.pc = .forward) (idle : s.rs422TxBusy = false)
      (encoded : encodeFrame s.rs422Command.packet = some frame) :
      Rs422Move s
        ({ s with rs422TxFrame := frame, flags := { s.flags with txDone := false } }.rs422Goto
          .forwardPending)
  | mark (pc : s.rs422.pc = .forwardPending) :
      Rs422Move s (s.markPending.rs422Goto .forwardTransmit)
  | transmit (pc : s.rs422.pc = .forwardTransmit) :
      Rs422Move s ({ s.noteTransmit with rs422TxBusy := true }.callWaitForTxComplete .forward
        s.rs422Command.packet.seq)
  | transmitFailed (pc : s.rs422.pc = .forwardTransmit) :
      Rs422Move s ({ s.noteTransmit with rs422TxBusy := false }.forwardFailed.callProcessRx .main)

theorem rs422Step_move {s s' : Gateway} {hal : HalStatus} {late : Bool}
    (taken : s.rs422Step hal late = some s') : Rs422Move s s' := by
  unfold rs422Step at taken
  cases hpc : s.rs422.pc with
  | start =>
    simp only [hpc] at taken
    split at taken <;> cases taken <;> exact .goto _ nofun rfl
  | bringup =>
    simp only [hpc] at taken
    split at taken
    · cases taken
      exact .goto _ nofun rfl
    split at taken
    · cases taken
      exact .goto _ nofun rfl
    · cases taken
      exact .armBringup _ hpc
  | bringupTransmit =>
    simp only [hpc] at taken
    split at taken
    · cases taken
      exact .transmitBringup hpc
    · cases taken
      exact .transmitBringupFailed hpc
  | waitTx =>
    simp only [hpc] at taken
    split at taken
    · cases taken
      exact .call _ fun _ => by rw [hpc]; rfl
    · cases taken
      exact .returnWait _ (by rw [hpc]; rfl)
  | rx caller =>
    simp only [hpc] at taken
    split at taken
    case h_1 hring =>
      cases taken
      exact .returnRx caller hpc hring
    case h_2 hring =>
      cases taken
      exact .receive caller _ _ hpc hring
  | pollFlags =>
    simp only [hpc] at taken
    split at taken
    · cases taken
      exact .take _ (fun _ => by rw [hpc]; rfl) rfl
    · cases taken
      exact .goto _ (fun _ => by rw [hpc]; rfl) rfl
  | checkBusy =>
    simp only [hpc] at taken
    split at taken
    · cases taken
      exact .call _ fun _ => by rw [hpc]; rfl
    split at taken
    · cases taken
      exact .returnWait _ (by rw [hpc]; rfl)
    · cases taken
      exact .goto _ (fun _ => by rw [hpc]; rfl) rfl
  | waitFlags =>
    simp only [hpc] at taken
    split at taken
    · cases taken
      exact .take _ (fun _ => by rw [hpc]; rfl) rfl
    split at taken
    · cases taken
      exact .returnWait _ (by rw [hpc]; rfl)
    · cases taken
  | pongLoop =>
    simp only [hpc] at taken
    split at taken
    · cases taken
      exact .goto _ nofun rfl
    · cases taken
      exact .call _ nofun
  | pongElapsed =>
    simp only [hpc] at taken
    split at taken <;> cases taken <;> exact .goto _ nofun rfl
  | pongWait =>
    simp only [hpc] at taken
    split at taken
    · cases taken
      exact .take _ nofun rfl
    split at taken
    · cases taken
      exact .goto _ nofun rfl
    · cases taken
  | testDone =>
    simp only [hpc] at taken
    split at taken <;> cases taken <;> exact .goto _ nofun rfl
  | delay =>
    simp only [hpc] at taken
    cases taken
    exact .nextTest hpc
  | enable =>
    simp only [hpc] at taken
    cases taken
    exact .enable hpc
  | dequeue =>
    simp only [hpc] at taken
    split at taken
    · cases taken
      exact .goto _ nofun rfl
    case h_2 hqueue =>
      cases taken
      exact .dequeue _ _ hpc hqueue
  | forward =>
    simp only [hpc] at taken
    split at taken
    · cases taken
      exact .call _ nofun
    case isFalse hidle =>
      split at taken
      · cases taken
        exact .call _ nofun
      case h_2 hencoded =>
        cases taken
        exact .arm _ hpc (Bool.eq_false_iff.mpr hidle) hencoded
  | forwardPending =>
    simp only [hpc] at taken
    cases taken
    exact .mark hpc
  | forwardTransmit =>
    simp only [hpc] at taken
    split at taken
    · cases taken
      exact .transmit hpc
    · cases taken
      exact .transmitFailed hpc
  | mainWait =>
    simp only [hpc] at taken
    split at taken
    · cases taken
      exact .wake hpc
    · cases taken

/-! ## EthernetTask -/

/-- The steps of EthernetTask. -/
inductive EthernetMove (s : Gateway) : Gateway → Prop where
  | start (op : EthernetOp) (s' : Gateway) (pc : s.ethernet = .loop)
      (taken : s.ethernetBegin op = some s') : EthernetMove s s'
  | invalidate (pc : s.ethernet = .invalidate) :
      EthernetMove s
        ({ s.initTcpParser with flags := { s.flags with tcpContextReset := true } }.ethernetGoto
          (.discard tcpResponseQueueDepth .loop))
  | discardEnd (left : Nat) (caller : DiscardCaller) (pc : s.ethernet = .discard left caller)
      (last : left = 0 ∨ s.tcpResponseQueue = []) : EthernetMove s (s.returnDiscard caller)
  | discardPop (left : Nat) (caller : DiscardCaller) (response : Response) (rest : List Response)
      (pc : s.ethernet = .discard (left + 1) caller)
      (queue : s.tcpResponseQueue = response :: rest) :
      EthernetMove s
        ({ s with tcpResponseQueue := rest, tcpPong := response }.ethernetGoto
          (.discardCount left caller))
  | discardCount (left : Nat) (caller : DiscardCaller)
      (pc : s.ethernet = .discardCount left caller) :
      EthernetMove s
        ({ s with
            counts :=
              { s.counts with
                tcpStaleResponseDrop := s.counts.tcpStaleResponseDrop + 1 } }.ethernetGoto
          (.discard left caller))
  | activate (pc : s.ethernet = .activate) : EthernetMove s (s.beginSession.ethernetGoto .loop)
  | feedEnd (pc : s.ethernet = .feed []) : EthernetMove s (s.ethernetGoto .loop)
  | feed (byte : UInt8) (rest : List UInt8) (pc : s.ethernet = .feed (byte :: rest)) :
      EthernetMove s (s.processTcpByte byte rest)
  | put (rest : List UInt8) (pc : s.ethernet = .put rest) :
      EthernetMove s (s.countPing.putCommand rest)
  | putSuccess (rest : List UInt8) (pc : s.ethernet = .putCount true rest) :
      EthernetMove s
        ({ s with
            counts :=
              { s.counts with cmdEnqueueSuccess := s.counts.cmdEnqueueSuccess + 1 } }.ethernetGoto
          (.signal rest))
  | putFail (rest : List UInt8) (pc : s.ethernet = .putCount false rest) :
      EthernetMove s
        ({ s with
            counts := { s.counts with cmdEnqueueFail := s.counts.cmdEnqueueFail + 1 } }.ethernetGoto
          (.feed rest))
  | signal (rest : List UInt8) (pc : s.ethernet = .signal rest) :
      EthernetMove s
        ({ s with flags := { s.flags with cmdReady := true } }.ethernetGoto (.feed rest))
  | drainEnd (left : Nat) (pc : s.ethernet = .drain left)
      (last : left = 0 ∨ s.tcpResponseQueue = []) : EthernetMove s (s.ethernetGoto .loop)
  | drainPop (left : Nat) (response : Response) (rest : List Response)
      (pc : s.ethernet = .drain (left + 1)) (queue : s.tcpResponseQueue = response :: rest) :
      EthernetMove s
        ({ s with tcpResponseQueue := rest, tcpPong := response }.ethernetGoto (.drainCount left))
  | drainCount (left : Nat) (pc : s.ethernet = .drainCount left) :
      EthernetMove s
        ({ s with
            counts :=
              { s.counts with tcpResponseDequeue := s.counts.tcpResponseDequeue + 1 } }.ethernetGoto
          (.send left))
  | sendRefused (left : Nat) (pc : s.ethernet = .send left)
      (encoded : encodeFrame s.tcpPong.packet = none) :
      EthernetMove s (s.ethernetGoto (.drain left))
  | send (left : Nat) (frame : List UInt8) (pc : s.ethernet = .send left)
      (encoded : encodeFrame s.tcpPong.packet = some frame) :
      EthernetMove s ((s.noteTcpSend frame).ethernetGoto (.drain left))
  | udpEnd (left : Nat) (pc : s.ethernet = .udp left)
      (last : left = 0 ∨ s.udpTelemetryQueue = []) : EthernetMove s (s.ethernetGoto .loop)
  | udpPop (left : Nat) (packet : ProtocolPacket) (rest : List ProtocolPacket)
      (pc : s.ethernet = .udp (left + 1)) (queue : s.udpTelemetryQueue = packet :: rest) :
      EthernetMove s
        ({ s with udpTelemetryQueue := rest, udpForwardPacket := packet }.ethernetGoto
          (.udpCount left))
  | udpCount (left : Nat) (pc : s.ethernet = .udpCount left) :
      EthernetMove s
        ({ s with
            counts :=
              { s.counts with
                udpTelemetryDequeue := s.counts.udpTelemetryDequeue + 1 } }.ethernetGoto
          (.udpForward left))
  | udpRefused (left : Nat) (pc : s.ethernet = .udpForward left) :
      EthernetMove s (s.ethernetGoto .loop)
  | udpForward (left : Nat) (frame : List UInt8) (next : EthernetPc)
      (pc : s.ethernet = .udpForward left) (after : next = .udp left ∨ next = .loop)
      (encoded : encodeFrame s.udpForwardPacket = some frame) :
      EthernetMove s ((s.noteUdpSend frame).ethernetGoto next)

theorem ethernetStep_move {s s' : Gateway} {op : EthernetOp} {hal : HalStatus}
    (taken : s.ethernetStep op hal = some s') : EthernetMove s s' := by
  unfold ethernetStep at taken
  cases hpc : s.ethernet with
  | loop =>
    simp only [hpc] at taken
    exact .start op s' hpc taken
  | invalidate =>
    simp only [hpc] at taken
    cases taken
    exact .invalidate hpc
  | discard left caller =>
    simp only [hpc] at taken
    split at taken
    · cases taken
      exact .discardEnd 0 caller hpc (.inl rfl)
    case h_2 hqueue =>
      cases taken
      exact .discardEnd _ caller hpc (.inr hqueue)
    case h_3 hqueue =>
      cases taken
      exact .discardPop _ caller _ _ hpc hqueue
  | discardCount left caller =>
    simp only [hpc] at taken
    cases taken
    exact .discardCount left caller hpc
  | activate =>
    simp only [hpc] at taken
    cases taken
    exact .activate hpc
  | feed bytes =>
    cases bytes with
    | nil =>
      simp only [hpc] at taken
      cases taken
      exact .feedEnd hpc
    | cons byte rest =>
      simp only [hpc] at taken
      cases taken
      exact .feed byte rest hpc
  | put rest =>
    simp only [hpc] at taken
    cases taken
    exact .put rest hpc
  | putCount success rest =>
    cases success with
    | true =>
      simp only [hpc] at taken
      cases taken
      exact .putSuccess rest hpc
    | false =>
      simp only [hpc] at taken
      cases taken
      exact .putFail rest hpc
  | signal rest =>
    simp only [hpc] at taken
    cases taken
    exact .signal rest hpc
  | drain left =>
    simp only [hpc] at taken
    split at taken
    · cases taken
      exact .drainEnd 0 hpc (.inl rfl)
    case h_2 hqueue =>
      cases taken
      exact .drainEnd _ hpc (.inr hqueue)
    case h_3 hqueue =>
      cases taken
      exact .drainPop _ _ _ hpc hqueue
  | drainCount left =>
    simp only [hpc] at taken
    cases taken
    exact .drainCount left hpc
  | send left =>
    simp only [hpc] at taken
    split at taken
    case h_1 hencoded =>
      cases taken
      exact .sendRefused left hpc hencoded
    case h_2 hencoded =>
      cases taken
      exact .send left _ hpc hencoded
  | udp left =>
    simp only [hpc] at taken
    split at taken
    · cases taken
      exact .udpEnd 0 hpc (.inl rfl)
    case h_2 hqueue =>
      cases taken
      exact .udpEnd _ hpc (.inr hqueue)
    case h_3 hqueue =>
      cases taken
      exact .udpPop _ _ _ hpc hqueue
  | udpCount left =>
    simp only [hpc] at taken
    cases taken
    exact .udpCount left hpc
  | udpForward left =>
    simp only [hpc] at taken
    split at taken
    · cases taken
      exact .udpRefused left hpc
    split at taken
    · cases taken
      exact .udpRefused left hpc
    case h_2 hencoded =>
      cases taken
      refine .udpForward left _ _ hpc ?_ hencoded
      split
      · exact .inl rfl
      · exact .inr rfl

/-! ## The whole gateway -/

/-- A step of the gateway is one of RS422Task, one of EthernetTask while RS422Task is blocked, or an
    interrupt, which touches the RX ring and the flags RX and TX_DONE only. -/
inductive GatewayMove (s : Gateway) : GatewayAction → Gateway → Prop where
  | rs422 (hal : HalStatus) (late : Bool) (s' : Gateway)
      (taken : s.rs422Step hal late = some s') : GatewayMove s (.rs422 hal late) s'
  | ethernet (op : EthernetOp) (hal : HalStatus) (s' : Gateway) (blocked : s.rs422Blocked)
      (taken : s.ethernetStep op hal = some s') : GatewayMove s (.ethernet op hal) s'
  | interrupt (a : GatewayAction) (rxRing : List UInt8) (rx txDone : Bool) :
      GatewayMove s a
        { s with rxRing := rxRing, flags := { s.flags with rx := rx, txDone := txDone } }

theorem step_move {s s' : Gateway} {a : GatewayAction} (taken : s.step a = some s') :
    GatewayMove s a s' := by
  cases a with
  | rs422 hal late => exact .rs422 hal late s' taken
  | ethernet op hal =>
    simp only [step] at taken
    split at taken
    case isTrue blocked => exact .ethernet op hal s' blocked taken
    case isFalse => cases taken
  | uartRx byte =>
    cases taken
    exact .interrupt _ _ _ _
  | uartError =>
    cases taken
    exact .interrupt _ _ _ _
  | uartTxDone =>
    cases taken
    exact .interrupt _ _ _ _

end Gateway

end Rs422Gateway
