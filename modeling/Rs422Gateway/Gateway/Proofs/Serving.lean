import Rs422Gateway.Gateway.Proofs.Relaying

/-!
# The gateway in service

The bring-up test is over, the TCP session stays, every HAL call succeeds and no wait for the end of
a transmission times out. Then RS422Task finds the transmitter idle whenever it has a command, so
no command is refused, and a step of it is one of the few of `ServingMove`.
-/

namespace Rs422Gateway

/-- A place of RS422Task behind the bring-up test. -/
def Rs422Pc.serving : Rs422Pc → Bool
  | .waitTx | .rx .txLoop | .rx .txDone | .pollFlags | .checkBusy | .waitFlags => true
  | .rx .main | .dequeue | .forward | .forwardPending | .forwardTransmit | .mainWait => true
  | _ => false

/-- A place of EthernetTask within a session. -/
def EthernetPc.serving : EthernetPc → Bool
  | .invalidate | .discard .. | .discardCount .. | .activate => false
  | _ => true

/-- An operation of EthernetTask within a session. -/
def EthernetOp.serving : EthernetOp → Bool
  | .invalidate | .discard | .establish => false
  | _ => true

namespace Gateway

/-- The gateway is in service. -/
structure Serving (s : Gateway) : Prop where
  session : s.tcpSessionActive = true
  noReset : s.flags.tcpContextReset = false
  rs422 : s.rs422.pc.serving = true
  ethernet : s.ethernet.serving = true
  caller : s.rs422.pc.waiting = true → s.rs422.txCaller = .forward
  busy : s.rs422TxBusy = true → s.rs422.pc.waiting = true ∧ s.rs422.pc ≠ .rx .txDone

/-- The steps of RS422Task in service. -/
inductive ServingMove (s : Gateway) : Gateway → Prop where
  | quiet (task : Rs422Task) (flags : Rs422Flags) (busy : Bool) (history : History)
      (released : s.rs422.pc.holding = false) (releases : task.pc.holding = false)
      (txFrames : history.txFrames = s.history.txFrames)
      (tcpFrames : history.tcpFrames = s.history.tcpFrames) :
      ServingMove s
        { s with rs422 := task, flags := flags, rs422TxBusy := busy, history := history }
  | receive (byte : UInt8) (rest : List UInt8) (released : s.rs422.pc.holding = false)
      (ring : s.rxRing = byte :: rest) :
      ServingMove s ({ s with rxRing := rest }.processRxByte byte)
  | dequeue (command : Command) (rest : List Command) (pc : s.rs422.pc = .dequeue)
      (queue : s.cmdQueue = command :: rest) :
      ServingMove s
        ({ s with
            cmdQueue := rest
            rs422Command := command
            counts := { s.counts with cmdDequeue := s.counts.cmdDequeue + 1 } }.rs422Goto .forward)
  | arm (frame : List UInt8) (pc : s.rs422.pc = .forward)
      (encoded : encodeFrame s.rs422Command.packet = some frame) :
      ServingMove s
        ({ s with rs422TxFrame := frame, flags := { s.flags with txDone := false } }.rs422Goto
          .forwardPending)
  | mark (pc : s.rs422.pc = .forwardPending) :
      ServingMove s (s.markPending.rs422Goto .forwardTransmit)
  | transmit (pc : s.rs422.pc = .forwardTransmit) :
      ServingMove s ({ s.noteTransmit with rs422TxBusy := true }.callWaitForTxComplete .forward
        s.rs422Command.packet.seq)

namespace Serving

variable {s : Gateway}

/-! ## A valid frame from RS-422 -/

/-- A frame that is no PONG only goes to `udp_telemetry_queue`. -/
theorem handleRs422Frame_of_ne_pong (hne : s.rs422ReceivedPacket.msgId ≠ msgPong) :
    ∃ queue counts history,
      s.handleRs422Frame =
          { s with udpTelemetryQueue := queue, counts := counts, history := history } ∧
        history.txFrames = s.history.txFrames ∧ history.tcpFrames = s.history.tcpFrames := by
  obtain ⟨queue, success, fail, htelemetry⟩ := enqueueTelemetry_eq s.noteRs422Frame
  have hmatching : s.noteRs422Frame.enqueueTelemetry.noteMatchingPong =
      s.noteRs422Frame.enqueueTelemetry := by
    rw [noteMatchingPong, htelemetry]
    exact if_neg fun h => hne h.1
  have hpong : s.noteRs422Frame.enqueueTelemetry.handlePong =
      s.noteRs422Frame.enqueueTelemetry := by
    rw [handlePong, htelemetry]
    exact if_neg fun h => hne h.1
  refine
    ⟨queue,
      { s.counts with
        udpTelemetryEnqueueSuccess := success
        udpTelemetryEnqueueFail := fail },
      s.noteRs422Frame.history, ?_, rfl, rfl⟩
  rw [handleRs422Frame, hmatching, hpong, htelemetry]
  rfl

theorem handlePong_of_matchesPending (hmatch : s.matchesPending)
    (room : s.tcpResponseQueue.length < tcpResponseQueueDepth) :
    ∃ counts, s.handlePong =
      { s.takePending with
        tcpResponseQueue :=
          s.tcpResponseQueue ++ [⟨s.rs422ReceivedPacket, s.history.pendingRequest⟩]
        counts := counts } :=
  ⟨_, (if_pos hmatch).trans (if_pos room)⟩

/-- The PONG for the pending slot goes to `tcp_response_queue`, when that has room. -/
theorem handleRs422Frame_of_matchesPending (hmatch : s.matchesPending)
    (room : s.tcpResponseQueue.length < tcpResponseQueueDepth) :
    ∃ task counts history,
      s.handleRs422Frame =
          { s with
            rs422 := task
            tcpPingPending := false
            tcpResponseQueue :=
              s.tcpResponseQueue ++ [⟨s.rs422ReceivedPacket, s.history.pendingRequest⟩]
            counts := counts
            history := history } ∧
        task.pc = s.rs422.pc ∧ task.txCaller = s.rs422.txCaller ∧
        history.txFrames = s.history.txFrames ∧ history.tcpFrames = s.history.tcpFrames := by
  have htelemetry : s.noteRs422Frame.enqueueTelemetry = s.noteRs422Frame := by
    refine if_neg fun h => ?_
    have hpong : msgPong = msgTelemetry := hmatch.1.symm.trans h.1
    cases hpong
  have hmatching : ∃ task : Rs422Task,
      s.noteRs422Frame.noteMatchingPong = { s.noteRs422Frame with rs422 := task } ∧
        task.pc = s.rs422.pc ∧ task.txCaller = s.rs422.txCaller := by
    obtain ⟨received, heq⟩ := noteMatchingPong_eq s.noteRs422Frame
    exact ⟨_, heq, rfl, rfl⟩
  obtain ⟨task, hmatching, hpc, hcaller⟩ := hmatching
  obtain ⟨counts, hpong⟩ :=
    handlePong_of_matchesPending (s := { s.noteRs422Frame with rs422 := task }) hmatch room
  refine ⟨task, counts, (takePending { s.noteRs422Frame with rs422 := task }).history, ?_, hpc,
    hcaller, rfl, rfl⟩
  rw [handleRs422Frame, htelemetry, hmatching, hpong]
  rfl

theorem handlePong (h : s.Serving) : s.handlePong.Serving := by
  unfold Gateway.handlePong enqueueResponse
  split
  · split
    · exact { h with }
    · exact { h with }
  · exact h

theorem processRxByte (h : s.Serving) (byte : UInt8) : (s.processRxByte byte).Serving := by
  have hfeed : (s.feedRs422 byte).Serving := { h with }
  rcases processRxByte_cases s byte with heq | ⟨queue, success, fail, received, heq⟩
  · rw [heq]
    exact hfeed
  · rw [heq]
    exact handlePong { hfeed with }

/-! ## The steps of RS422Task -/

/-- RS422Task is not waiting for the end of a transmission, so there is none. -/
theorem idle (h : s.Serving) (hpc : s.rs422.pc.waiting = false) : s.rs422TxBusy = false := by
  rw [Bool.eq_false_iff]
  intro hbusy
  have hwaiting := (h.busy hbusy).1
  rw [hpc] at hwaiting
  cases hwaiting

theorem takeFlags_of_noReset (h : s.flags.tcpContextReset = false) :
    ∃ busy, s.takeFlags = { s with flags := .none, rs422TxBusy := busy } ∧
      (s.rs422TxBusy = false → busy = false) := by
  unfold Gateway.takeFlags handleTxDoneEvent handleTcpContextResetEvent
  rw [h]
  cases s.flags.txDone with
  | true => exact ⟨false, rfl, fun _ => rfl⟩
  | false => exact ⟨s.rs422TxBusy, rfl, id⟩

theorem returnWaitForTxComplete_forward (h : s.rs422.txCaller = .forward) :
    s.returnWaitForTxComplete true = s.forwardPassed.callProcessRx .main := by
  unfold Gateway.returnWaitForTxComplete
  rw [h]
  rfl

/-- RS422Task goes on without a command in hand. -/
theorem quiet (h : s.Serving) {task : Rs422Task} {flags : Rs422Flags} {busy : Bool}
    {history : History} (released : s.rs422.pc.holding = false) (place : task.pc.serving = true)
    (releases : task.pc.holding = false) (noReset : flags.tcpContextReset = false)
    (caller : task.pc.waiting = true → task.txCaller = .forward)
    (hbusy : busy = true → task.pc.waiting = true ∧ task.pc ≠ .rx .txDone)
    (txFrames : history.txFrames = s.history.txFrames)
    (tcpFrames : history.tcpFrames = s.history.tcpFrames) :
    Serving { s with rs422 := task, flags := flags, rs422TxBusy := busy, history := history } ∧
      s.ServingMove
        { s with rs422 := task, flags := flags, rs422TxBusy := busy, history := history } :=
  ⟨⟨h.session, noReset, place, h.ethernet, caller, hbusy⟩,
    .quiet task flags busy history released releases txFrames tcpFrames⟩

/-- The same while no transmission is going on. -/
theorem settle (h : s.Serving) {task : Rs422Task} {flags : Rs422Flags} {busy : Bool}
    {history : History} (released : s.rs422.pc.holding = false) (place : task.pc.serving = true)
    (releases : task.pc.holding = false) (noReset : flags.tcpContextReset = false)
    (caller : task.pc.waiting = true → task.txCaller = .forward) (idle : busy = false)
    (txFrames : history.txFrames = s.history.txFrames)
    (tcpFrames : history.tcpFrames = s.history.tcpFrames) :
    Serving { s with rs422 := task, flags := flags, rs422TxBusy := busy, history := history } ∧
      s.ServingMove
        { s with rs422 := task, flags := flags, rs422TxBusy := busy, history := history } := by
  refine h.quiet released place releases noReset caller ?_ txFrames tcpFrames
  intro hbusy
  rw [idle] at hbusy
  cases hbusy

/-- The step ends a call of `rs422_wait_for_tx_complete`. -/
theorem passed (h : s.Serving) (waits : s.rs422.pc.waiting = true) (idle : s.rs422TxBusy = false)
    (released : s.rs422.pc.holding = false) :
    (s.returnWaitForTxComplete true).Serving ∧ s.ServingMove (s.returnWaitForTxComplete true) := by
  rw [returnWaitForTxComplete_forward (h.caller waits)]
  exact h.settle released rfl rfl h.noReset nofun idle rfl rfl

/-- `rs422_process_rx_buffer` returns. -/
theorem returnProcessRx (h : s.Serving) {caller : RxCaller} (hpc : s.rs422.pc = .rx caller) :
    (s.returnProcessRx caller).Serving ∧ s.ServingMove (s.returnProcessRx caller) := by
  have released : s.rs422.pc.holding = false := by rw [hpc]; rfl
  cases caller with
  | txLoop =>
    exact h.quiet released rfl rfl h.noReset (fun _ => h.caller (by rw [hpc]; rfl))
      (fun _ => ⟨rfl, by simp⟩) rfl rfl
  | txDone =>
    have hidle : s.rs422TxBusy = false := by
      rw [Bool.eq_false_iff]
      intro hbusy
      exact (h.busy hbusy).2 hpc
    have hcaller : s.rs422.txCaller = .forward := h.caller (by rw [hpc]; rfl)
    simp only [Gateway.returnProcessRx, Gateway.returnWaitForTxComplete, hcaller, if_true]
    exact h.settle released rfl rfl h.noReset (by rintro ⟨⟩) hidle rfl rfl
  | pongLoop =>
    have hplace := h.rs422
    rw [hpc] at hplace
    cases hplace
  | main =>
    exact h.settle released rfl rfl h.noReset (by rintro ⟨⟩) (h.idle (by rw [hpc]; rfl)) rfl rfl

/-- A step of RS422Task. -/
theorem rs422Step {s' : Gateway} (h : s.Serving)
    (encodable : s.rs422.pc = .forward → s.rs422Command.packet.Encodable)
    (taken : s.rs422Step .ok false = some s') : s'.Serving ∧ s.ServingMove s' := by
  unfold Gateway.rs422Step at taken
  have hplace := h.rs422
  cases hpc : s.rs422.pc with
  | start => rw [hpc] at hplace; cases hplace
  | bringup => rw [hpc] at hplace; cases hplace
  | bringupTransmit => rw [hpc] at hplace; cases hplace
  | pongLoop => rw [hpc] at hplace; cases hplace
  | pongElapsed => rw [hpc] at hplace; cases hplace
  | pongWait => rw [hpc] at hplace; cases hplace
  | testDone => rw [hpc] at hplace; cases hplace
  | delay => rw [hpc] at hplace; cases hplace
  | enable => rw [hpc] at hplace; cases hplace
  | waitTx =>
    have hwaits : s.rs422.pc.waiting = true := by rw [hpc]; rfl
    simp only [hpc] at taken
    split at taken
    case isTrue =>
      cases taken
      exact h.quiet (by rw [hpc]; rfl) rfl rfl h.noReset (fun _ => h.caller hwaits)
        (fun _ => ⟨rfl, nofun⟩) rfl rfl
    case isFalse hidle =>
      cases taken
      exact h.passed hwaits (Bool.eq_false_iff.mpr hidle) (by rw [hpc]; rfl)
  | rx caller =>
    simp only [hpc] at taken
    split at taken
    case h_1 =>
      cases taken
      exact h.returnProcessRx hpc
    case h_2 byte rest hring =>
      cases taken
      have hpop : Serving { s with rxRing := rest } := { h with }
      exact ⟨hpop.processRxByte byte, .receive byte rest (by rw [hpc]; rfl) hring⟩
  | pollFlags =>
    have hcaller : s.rs422.txCaller = .forward := h.caller (by rw [hpc]; rfl)
    simp only [hpc] at taken
    cases taken
    split
    case isTrue =>
      obtain ⟨busy, htake, -⟩ := takeFlags_of_noReset h.noReset
      rw [htake]
      exact h.quiet (by rw [hpc]; rfl) rfl rfl rfl (fun _ => hcaller) (fun _ => ⟨rfl, nofun⟩) rfl
        rfl
    case isFalse =>
      exact h.quiet (by rw [hpc]; rfl) rfl rfl h.noReset (fun _ => hcaller)
        (fun _ => ⟨rfl, nofun⟩) rfl rfl
  | checkBusy =>
    have hcaller : s.rs422.txCaller = .forward := h.caller (by rw [hpc]; rfl)
    simp only [hpc, Bool.false_eq_true, if_false] at taken
    split at taken
    case isTrue hidle =>
      cases taken
      exact h.settle (by rw [hpc]; rfl) rfl rfl h.noReset (fun _ => hcaller) hidle rfl rfl
    case isFalse =>
      cases taken
      exact h.quiet (by rw [hpc]; rfl) rfl rfl h.noReset (fun _ => hcaller)
        (fun _ => ⟨rfl, nofun⟩) rfl rfl
  | waitFlags =>
    have hcaller : s.rs422.txCaller = .forward := h.caller (by rw [hpc]; rfl)
    simp only [hpc, Bool.false_eq_true, if_false] at taken
    split at taken
    case isTrue =>
      cases taken
      obtain ⟨busy, htake, -⟩ := takeFlags_of_noReset h.noReset
      rw [htake]
      exact h.quiet (by rw [hpc]; rfl) rfl rfl rfl (fun _ => hcaller) (fun _ => ⟨rfl, nofun⟩) rfl
        rfl
    case isFalse => cases taken
  | dequeue =>
    have hidle := h.idle (by rw [hpc]; rfl)
    simp only [hpc] at taken
    split at taken
    case h_1 =>
      cases taken
      exact h.settle (by rw [hpc]; rfl) rfl rfl h.noReset nofun hidle rfl rfl
    case h_2 command rest hqueue =>
      cases taken
      refine
        ⟨{ h with rs422 := rfl, caller := nofun, busy := ?_ }, .dequeue command rest hpc hqueue⟩
      intro hbusy
      exact absurd (hidle.symm.trans hbusy) nofun
  | forward =>
    have hidle := h.idle (by rw [hpc]; rfl)
    have hframe := encodeFrame_of_encodable (encodable hpc)
    simp only [hpc, hframe] at taken
    split at taken
    case isTrue hbusy => exact absurd (hidle.symm.trans hbusy) nofun
    case isFalse =>
      cases taken
      refine ⟨{ h with rs422 := rfl, caller := nofun, busy := ?_ }, .arm _ hpc hframe⟩
      intro hbusy
      exact absurd (hidle.symm.trans hbusy) nofun
  | forwardPending =>
    have hidle := h.idle (by rw [hpc]; rfl)
    simp only [hpc] at taken
    cases taken
    refine ⟨?_, .mark hpc⟩
    unfold Gateway.markPending
    split
    · refine { h with rs422 := rfl, caller := nofun, busy := ?_ }
      intro hbusy
      exact absurd (hidle.symm.trans hbusy) nofun
    · refine { h with rs422 := rfl, caller := nofun, busy := ?_ }
      intro hbusy
      exact absurd (hidle.symm.trans hbusy) nofun
  | forwardTransmit =>
    simp only [hpc, if_true] at taken
    cases taken
    exact ⟨{ h with rs422 := rfl, caller := fun _ => rfl, busy := fun _ => ⟨rfl, nofun⟩ },
      .transmit hpc⟩
  | mainWait =>
    have hidle := h.idle (by rw [hpc]; rfl)
    simp only [hpc] at taken
    split at taken
    case isTrue =>
      cases taken
      obtain ⟨busy, htake, hbusy⟩ := takeFlags_of_noReset h.noReset
      rw [htake]
      exact h.settle (by rw [hpc]; rfl) rfl rfl rfl nofun (hbusy hidle) rfl rfl
    case isFalse => cases taken

end Serving

end Gateway

end Rs422Gateway
