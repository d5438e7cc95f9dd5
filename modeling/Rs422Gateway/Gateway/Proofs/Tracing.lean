import Rs422Gateway.Gateway.Proofs.Moves

/-!
# Where responses come from

In every run a command comes from a PING that was put on `rs422_cmd_queue`, the pending slot is
taken for a command, and a response is a PONG with the SEQ of the command it was matched with.
-/

namespace Rs422Gateway

/-- The response is a PONG for a PING that was put on `rs422_cmd_queue`. -/
structure Response.Answers (r : Response) (queued : List Command) : Prop where
  queued : r.request ∈ queued
  ping : r.request.packet.msgId = msgPing
  pong : r.packet.msgId = msgPong
  seq : r.packet.seq = r.request.packet.seq

theorem Response.Answers.mono {r : Response} {queued : List Command} (h : r.Answers queued)
    (c : Command) : r.Answers (queued ++ [c]) :=
  { h with queued := List.mem_append_left _ h.queued }

/-- EthernetTask holds a response it is about to send. -/
def EthernetPc.sending : EthernetPc → Bool
  | .drainCount _ => true
  | .send _ => true
  | _ => false

/-- Commands and responses come from PINGs that were put on `rs422_cmd_queue`, in any run. -/
structure Gateway.Traced (s : Gateway) : Prop where
  pings : ∀ c ∈ s.history.queued, c.packet.msgId = msgPing
  parsed : ∀ rest, s.ethernet = .put rest → s.tcpReceivedPacket.msgId = msgPing
  commands : ∀ c ∈ s.cmdQueue, c ∈ s.history.queued
  held : s.rs422.pc.holding = true → s.rs422Command ∈ s.history.queued
  slot : s.tcpPingPending = true → s.history.pendingRequest ∈ s.history.queued ∧
    s.history.pendingRequest.packet.seq = s.tcpPingPendingSeq
  responses : ∀ r ∈ s.tcpResponseQueue, r.Answers s.history.queued
  inHand : s.ethernet.sending = true → s.tcpPong.Answers s.history.queued
  sent : ∀ e ∈ s.history.responses, e.2.Answers s.history.queued

namespace Gateway.Traced

variable {s : Gateway}

theorem initial : Gateway.initial.Traced where
  pings := nofun
  parsed := nofun
  commands := nofun
  held := nofun
  slot := nofun
  responses := nofun
  inHand := nofun
  sent := nofun

theorem rs422Goto (h : s.Traced) {pc : Rs422Pc} (holds : pc.holding = false) :
    (s.rs422Goto pc).Traced :=
  { h with
    held := fun hp => by
      rw [Gateway.rs422Goto, holds] at hp
      cases hp }

theorem callProcessRx (h : s.Traced) (caller : RxCaller) : (s.callProcessRx caller).Traced :=
  { h with held := nofun }

theorem clearPending (h : s.Traced) : s.clearPending.Traced := { h with slot := nofun }

theorem takeFlags (h : s.Traced) : s.takeFlags.Traced := by
  unfold Gateway.takeFlags handleTxDoneEvent handleTcpContextResetEvent
  cases s.flags.tcpContextReset <;> cases s.flags.txDone
  · exact { h with }
  · exact { h with }
  · exact { h with slot := nofun }
  · exact { h with slot := nofun }

theorem handlePong (h : s.Traced) : s.handlePong.Traced := by
  unfold Gateway.handlePong
  split
  case isTrue hmatch =>
    obtain ⟨hpong, -, hpending, hseq⟩ := hmatch
    obtain ⟨hqueued, hslot⟩ := h.slot hpending
    unfold enqueueResponse
    split
    · refine { h with slot := nofun, responses := ?_ }
      intro r hr
      rcases List.mem_append.mp hr with hr | hr
      · exact h.responses r hr
      · rw [List.mem_singleton.mp hr]
        exact ⟨hqueued, h.pings _ hqueued, hpong, hseq.trans hslot.symm⟩
    · exact { h with slot := nofun }
  case isFalse => exact h

theorem processRxByte (h : s.Traced) (byte : UInt8) : (s.processRxByte byte).Traced := by
  have hfeed : (s.feedRs422 byte).Traced := { h with }
  rcases processRxByte_cases s byte with heq | ⟨queue, success, fail, received, heq⟩
  · rw [heq]
    exact hfeed
  · rw [heq]
    exact handlePong { hfeed with }

theorem forwardFailed (h : s.Traced) : s.forwardFailed.Traced := by
  unfold Gateway.forwardFailed
  split
  · exact h.clearPending
  · exact h

theorem returnWaitForTxComplete (h : s.Traced) (pass : Bool) :
    (s.returnWaitForTxComplete pass).Traced := by
  unfold Gateway.returnWaitForTxComplete
  split
  · split
    · exact h.rs422Goto rfl
    · exact h.rs422Goto rfl
  · cases pass with
    | true => exact { h with held := nofun }
    | false => exact h.forwardFailed.callProcessRx _

theorem returnProcessRx (h : s.Traced) {caller : RxCaller} (hpc : s.rs422.pc = .rx caller) :
    (s.returnProcessRx caller).Traced := by
  cases caller with
  | txLoop => exact { h with held := nofun }
  | txDone =>
    refine returnWaitForTxComplete ?_ true
    exact { h with held := h.held }
  | pongLoop =>
    simp only [Gateway.returnProcessRx]
    split
    · exact h.rs422Goto rfl
    · exact h.rs422Goto rfl
  | main => exact h.rs422Goto rfl

theorem markPending (h : s.Traced) (hpc : s.rs422.pc = .forwardPending) :
    s.markPending.Traced := by
  unfold Gateway.markPending
  split
  · exact { h with slot := fun _ => ⟨h.held (by rw [hpc]; rfl), rfl⟩ }
  · exact h

theorem rs422Step {s' : Gateway} {hal : HalStatus} {late : Bool} (h : s.Traced)
    (taken : s.rs422Step hal late = some s') : s'.Traced := by
  cases rs422Step_move taken with
  | goto pc waits holds => exact h.rs422Goto holds
  | call caller => exact h.callProcessRx caller
  | returnWait pass => exact h.returnWaitForTxComplete pass
  | returnRx caller hpc => exact h.returnProcessRx hpc
  | receive caller byte rest =>
    have hpop : { s with rxRing := rest }.Traced := { h with }
    exact hpop.processRxByte byte
  | take pc waits holds => exact h.takeFlags.rs422Goto holds
  | wake => exact h.takeFlags.callProcessRx _
  | armBringup => exact { h with held := nofun }
  | transmitBringup => exact { h with held := nofun }
  | transmitBringupFailed => exact { h with held := nofun }
  | nextTest => exact { h with held := nofun }
  | enable => exact { h with held := nofun }
  | dequeue command rest hpc queue =>
    have hmem : ∀ c ∈ command :: rest, c ∈ s.history.queued := queue ▸ h.commands
    exact
      { h with
        commands := fun c hc => hmem c (List.mem_cons_of_mem _ hc)
        held := fun _ => hmem command List.mem_cons_self }
  | arm frame hpc => exact { h with held := fun _ => h.held (by rw [hpc]; rfl) }
  | mark hpc =>
    have hheld := h.held (by rw [hpc]; rfl)
    have hmark := h.markPending hpc
    have hcommand : s.markPending.rs422Command = s.rs422Command ∧
        s.markPending.history.queued = s.history.queued := by
      unfold Gateway.markPending
      split <;> exact ⟨rfl, rfl⟩
    exact
      { hmark with
        held := fun _ => by
          rw [Gateway.rs422Goto, hcommand.1, hcommand.2]
          exact hheld }
  | transmit => exact { h with held := nofun }
  | transmitFailed =>
    have hnote : { s.noteTransmit with rs422TxBusy := false }.Traced := { h with }
    exact hnote.forwardFailed.callProcessRx _

/-- A place at which EthernetTask holds neither a PING nor a response. -/
theorem ethernetGoto (h : s.Traced) {pc : EthernetPc} (hsending : pc.sending = false)
    (hput : ∀ rest, pc ≠ .put rest) : (s.ethernetGoto pc).Traced :=
  { h with
    parsed := fun rest hp => absurd hp (hput rest)
    inHand := fun hp => by
      rw [Gateway.ethernetGoto, hsending] at hp
      cases hp }

theorem ethernetBegin {s' : Gateway} {op : EthernetOp} (h : s.Traced)
    (taken : s.ethernetBegin op = some s') : s'.Traced := by
  unfold Gateway.ethernetBegin at taken
  cases op with
  | invalidate =>
    cases taken
    have hend : s.endSession.Traced := { h with }
    exact hend.ethernetGoto rfl nofun
  | discard =>
    cases taken
    exact h.ethernetGoto rfl nofun
  | establish =>
    simp only at taken
    split at taken
    · cases taken
      have hinit : s.initTcpParser.Traced := { h with }
      exact hinit.ethernetGoto rfl nofun
    · cases taken
  | receive bytes =>
    simp only at taken
    split at taken
    · cases taken
      exact h.ethernetGoto rfl nofun
    · cases taken
  | drain =>
    simp only at taken
    split at taken
    · cases taken
      exact h.ethernetGoto rfl nofun
    · cases taken
  | drainTelemetry =>
    cases taken
    exact h.ethernetGoto rfl nofun

/-- The PING that was parsed is put on the queue. -/
theorem putCommand (h : s.Traced) {rest : List UInt8} (hpc : s.ethernet = .put rest) :
    (s.putCommand rest).Traced := by
  unfold Gateway.putCommand
  split
  · refine
      { h with
        pings := ?_, parsed := nofun, commands := ?_, held := ?_, slot := ?_, responses := ?_
        inHand := nofun, sent := ?_ }
    · intro c hc
      rcases List.mem_append.mp hc with hc | hc
      · exact h.pings c hc
      · rw [List.mem_singleton.mp hc]
        exact h.parsed rest hpc
    · intro c hc
      rcases List.mem_append.mp hc with hc | hc
      · exact List.mem_append_left _ (h.commands c hc)
      · exact List.mem_append_right _ hc
    · exact fun hp => List.mem_append_left _ (h.held hp)
    · exact fun hp => ⟨List.mem_append_left _ (h.slot hp).1, (h.slot hp).2⟩
    · exact fun r hr => (h.responses r hr).mono _
    · exact fun e he => (h.sent e he).mono _
  · exact h.ethernetGoto rfl nofun

theorem ethernetStep {s' : Gateway} {op : EthernetOp} {hal : HalStatus} (h : s.Traced)
    (taken : s.ethernetStep op hal = some s') : s'.Traced := by
  cases ethernetStep_move taken with
  | start op s' hpc taken => exact h.ethernetBegin taken
  | invalidate => exact { h with parsed := nofun, inHand := nofun }
  | discardEnd left caller =>
    cases caller with
    | loop => exact h.ethernetGoto rfl nofun
    | activate => exact h.ethernetGoto rfl nofun
  | discardPop left caller response rest hpc queue =>
    have hrest : ∀ r ∈ rest, r.Answers s.history.queued := fun r hr =>
      h.responses r (queue ▸ List.mem_cons_of_mem _ hr)
    exact { h with parsed := nofun, responses := hrest, inHand := nofun }
  | discardCount => exact { h with parsed := nofun, inHand := nofun }
  | activate =>
    have hbegin : s.beginSession.Traced := { h with }
    exact hbegin.ethernetGoto rfl nofun
  | feedEnd => exact h.ethernetGoto rfl nofun
  | feed byte rest hpc =>
    have hparsed : ∀ rest', s.ethernet = .put rest' →
        (s.feedTcp byte).tcpReceivedPacket.msgId = msgPing := by
      intro rest' hput
      rw [hpc] at hput
      cases hput
    have hfeed : (s.feedTcp byte).Traced := { h with parsed := hparsed }
    unfold processTcpByte
    split
    case isTrue hping =>
      have hnote : (s.feedTcp byte).notePingFrame.Traced := { hfeed with }
      exact { hnote with parsed := fun _ _ => hping.2, inHand := nofun }
    case isFalse => exact hfeed.ethernetGoto rfl nofun
  | put rest hpc =>
    have hcount : s.countPing.Traced := { h with }
    exact hcount.putCommand hpc
  | putSuccess => exact { h with parsed := nofun, inHand := nofun }
  | putFail => exact { h with parsed := nofun, inHand := nofun }
  | signal => exact { h with parsed := nofun, inHand := nofun }
  | drainEnd => exact h.ethernetGoto rfl nofun
  | drainPop left response rest hpc queue =>
    have hall : ∀ r ∈ response :: rest, r.Answers s.history.queued := queue ▸ h.responses
    exact
      { h with
        parsed := nofun
        responses := fun r hr => hall r (List.mem_cons_of_mem _ hr)
        inHand := fun _ => hall response List.mem_cons_self }
  | drainCount left hpc =>
    exact { h with parsed := nofun, inHand := fun _ => h.inHand (by rw [hpc]; rfl) }
  | sendRefused => exact h.ethernetGoto rfl nofun
  | send left frame hpc =>
    have hanswers := h.inHand (by rw [hpc]; rfl)
    refine { h with parsed := nofun, inHand := nofun, sent := ?_ }
    intro e he
    rcases List.mem_append.mp he with he | he
    · exact h.sent e he
    · rw [List.mem_singleton.mp he]
      exact hanswers
  | udpEnd => exact h.ethernetGoto rfl nofun
  | udpPop => exact { h with parsed := nofun, inHand := nofun }
  | udpCount => exact { h with parsed := nofun, inHand := nofun }
  | udpRefused => exact h.ethernetGoto rfl nofun
  | udpForward left frame next hpc after =>
    have hnote : (s.noteUdpSend frame).Traced := { h with }
    rcases after with rfl | rfl
    · exact hnote.ethernetGoto rfl nofun
    · exact hnote.ethernetGoto rfl nofun

theorem step {s' : Gateway} {a : GatewayAction} (h : s.Traced) (taken : s.step a = some s') :
    s'.Traced := by
  cases Gateway.step_move taken with
  | rs422 hal late s' taken => exact h.rs422Step taken
  | ethernet op hal s' blocked taken => exact h.ethernetStep taken
  | interrupt a rxRing rx txDone => exact { h with }

end Gateway.Traced

end Rs422Gateway
