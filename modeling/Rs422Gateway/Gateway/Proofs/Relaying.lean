import Rs422Gateway.Gateway.Proofs.Parsing
import Rs422Gateway.Gateway.Proofs.Tracing
import Rs422Gateway.Misc.Relay

/-!
# The three relays of the gateway

PINGs go from TCP to RS-422, PONGs from RS-422 to TCP and TELEMETRY from RS-422 to UDP. Each way is
a relay: in every run, the frames sent and those still on the way are a subsequence of the valid
frames parsed.
-/

namespace Rs422Gateway

/-- RS422Task holds a command, and its frame is in `g_rs422_tx_frame`. -/
def Rs422Pc.armed : Rs422Pc → Bool
  | .forwardPending => true
  | .forwardTransmit => true
  | _ => false

theorem Rs422Pc.holding_of_armed {pc : Rs422Pc} (h : pc.armed = true) : pc.holding = true := by
  cases pc <;> first | rfl | cases h

/-- EthernetTask holds a PING it is about to put on `rs422_cmd_queue`. -/
def EthernetPc.putting : EthernetPc → Bool
  | .put _ => true
  | _ => false

/-- EthernetTask holds a TELEMETRY packet it is about to forward. -/
def EthernetPc.forwarding : EthernetPc → Bool
  | .udpCount _ => true
  | .udpForward _ => true
  | _ => false

/-- EthernetTask holds nothing. -/
def EthernetPc.idle (pc : EthernetPc) : Prop :=
  pc.putting = false ∧ pc.sending = false ∧ pc.forwarding = false

/-- The packet a task holds, if it does. -/
def inHand (holds : Bool) (packet : ProtocolPacket) : List ProtocolPacket :=
  if holds then [packet] else []

namespace Gateway

/-- The PINGs on their way from TCP to RS422Task. -/
def queuedPings (s : Gateway) : List ProtocolPacket :=
  s.cmdQueue.map Command.packet ++ inHand s.ethernet.putting s.tcpReceivedPacket

/-- The PINGs on their way from TCP to RS-422. -/
def pings (s : Gateway) : List ProtocolPacket :=
  inHand s.rs422.pc.holding s.rs422Command.packet ++ s.queuedPings

/-- The PONGs on their way from RS-422 to TCP. -/
def pongs (s : Gateway) : List ProtocolPacket :=
  inHand s.ethernet.sending s.tcpPong.packet ++ s.tcpResponseQueue.map Response.packet

/-- The TELEMETRY packets on their way from RS-422 to UDP. -/
def telemetry (s : Gateway) : List ProtocolPacket :=
  inHand s.ethernet.forwarding s.udpForwardPacket ++ s.udpTelemetryQueue

/-- The gateway relays what it has received, if that are these frames. -/
structure RelaysFrom (s : Gateway) (pingFrames pongFrames telemetryFrames : List (List UInt8)) :
    Prop where
  pings : Relays ProtocolPacket.wire s.history.txFrames s.pings pingFrames
  pongs : Relays ProtocolPacket.wire s.history.tcpFrames s.pongs pongFrames
  telemetry : Relays ProtocolPacket.wire s.history.udpFrames s.telemetry telemetryFrames
  txFrame : s.rs422.pc.armed = true → s.rs422TxFrame = s.rs422Command.packet.wire

/-- The gateway relays the valid frames it has parsed. -/
def Relaying (s : Gateway) : Prop :=
  s.RelaysFrom s.history.pingFrames s.history.pongFrames s.history.telemetryFrames

theorem pings_of_holding {s : Gateway} (holds : s.rs422.pc.holding = true) :
    s.pings = s.rs422Command.packet :: s.queuedPings := by
  rw [pings, holds]
  rfl

theorem pings_of_released {s : Gateway} (holds : s.rs422.pc.holding = false) :
    s.pings = s.queuedPings := by
  rw [pings, holds]
  rfl

namespace RelaysFrom

variable {s : Gateway} {pingFrames pongFrames telemetryFrames : List (List UInt8)}

/-! ## RS422Task -/

/-- RS422Task goes to a place at which it holds no command. -/
theorem release (h : s.RelaysFrom pingFrames pongFrames telemetryFrames) {task : Rs422Task}
    (holds : task.pc.holding = false) :
    { s with rs422 := task }.RelaysFrom pingFrames pongFrames telemetryFrames := by
  refine { h with pings := h.pings.drop ?_, txFrame := ?_ }
  · rw [pings_of_released holds]
    exact List.sublist_append_right _ _
  · intro harmed
    have hholding : task.pc.holding = true := Rs422Pc.holding_of_armed harmed
    rw [holds] at hholding
    cases hholding

/-- A TELEMETRY frame is parsed. -/
theorem enqueueTelemetry (h : s.RelaysFrom pingFrames pongFrames telemetryFrames) :
    s.enqueueTelemetry.RelaysFrom pingFrames pongFrames
      (if s.rs422ReceivedPacket.msgId = msgTelemetry then
        telemetryFrames ++ [s.rs422ReceivedPacket.wire] else telemetryFrames) := by
  unfold Gateway.enqueueTelemetry
  by_cases htelemetry : s.rs422ReceivedPacket.msgId = msgTelemetry
  · rw [if_pos htelemetry]
    split
    case isTrue =>
      split
      case isTrue room =>
        have hreceive := h.telemetry.receive s.rs422ReceivedPacket
        have hsplit : s.telemetry ++ [s.rs422ReceivedPacket] =
            inHand s.ethernet.forwarding s.udpForwardPacket ++
              (s.udpTelemetryQueue ++ [s.rs422ReceivedPacket]) := List.append_assoc _ _ _
        rw [hsplit] at hreceive
        exact { h with telemetry := hreceive }
      case isFalse => exact { h with telemetry := h.telemetry.skip _ }
    case isFalse => exact { h with telemetry := h.telemetry.skip _ }
  · rw [if_neg htelemetry, if_neg fun hboth => htelemetry hboth.1]
    exact h

theorem noteMatchingPong (h : s.RelaysFrom pingFrames pongFrames telemetryFrames) :
    s.noteMatchingPong.RelaysFrom pingFrames pongFrames telemetryFrames := by
  obtain ⟨received, heq⟩ := noteMatchingPong_eq s
  rw [heq]
  exact { h with }

/-- A PONG frame is parsed. -/
theorem handlePong (h : s.RelaysFrom pingFrames pongFrames telemetryFrames) :
    s.handlePong.RelaysFrom pingFrames
      (if s.rs422ReceivedPacket.msgId = msgPong then
        pongFrames ++ [s.rs422ReceivedPacket.wire] else pongFrames) telemetryFrames := by
  unfold Gateway.handlePong
  split
  case isTrue hmatch =>
    rw [if_pos hmatch.1]
    unfold enqueueResponse
    split
    case isTrue room =>
      have hreceive := h.pongs.receive s.rs422ReceivedPacket
      have hsplit : s.pongs ++ [s.rs422ReceivedPacket] =
          inHand s.ethernet.sending s.tcpPong.packet ++
            List.map Response.packet
              (s.tcpResponseQueue ++ [⟨s.rs422ReceivedPacket, s.history.pendingRequest⟩]) := by
        rw [List.map_append, Gateway.pongs, List.append_assoc]
        rfl
      rw [hsplit] at hreceive
      exact { h with pongs := hreceive }
    case isFalse => exact { h with pongs := h.pongs.skip _ }
  case isFalse =>
    split
    · exact { h with pongs := h.pongs.skip _ }
    · exact h

end RelaysFrom

namespace Relaying

variable {s : Gateway}

theorem initial : Gateway.initial.Relaying where
  pings := Relays.nil _
  pongs := Relays.nil _
  telemetry := Relays.nil _
  txFrame := nofun

theorem handlePong_frames (s : Gateway) :
    s.handlePong.history.pingFrames = s.history.pingFrames ∧
      s.handlePong.history.pongFrames = s.history.pongFrames ∧
      s.handlePong.history.telemetryFrames = s.history.telemetryFrames := by
  unfold Gateway.handlePong enqueueResponse
  split
  · split <;> exact ⟨rfl, rfl, rfl⟩
  · exact ⟨rfl, rfl, rfl⟩

theorem enqueueTelemetry_frame (s : Gateway) :
    s.enqueueTelemetry.rs422ReceivedPacket = s.rs422ReceivedPacket ∧
      s.enqueueTelemetry.history = s.history := by
  obtain ⟨queue, success, fail, heq⟩ := enqueueTelemetry_eq s
  rw [heq]
  exact ⟨rfl, rfl⟩

theorem noteMatchingPong_frame (s : Gateway) :
    s.noteMatchingPong.rs422ReceivedPacket = s.rs422ReceivedPacket ∧
      s.noteMatchingPong.history = s.history := by
  obtain ⟨received, heq⟩ := noteMatchingPong_eq s
  rw [heq]
  exact ⟨rfl, rfl⟩

/-- A valid frame is parsed. -/
theorem handleRs422Frame (h : s.Relaying)
    (hframe : deliveredFrame s.rs422ReceivedPacket s.history.rs422Bytes =
      s.rs422ReceivedPacket.wire) : s.handleRs422Frame.Relaying := by
  have hnote : s.noteRs422Frame.RelaysFrom s.history.pingFrames s.history.pongFrames
      s.history.telemetryFrames := { h with }
  have hpong := hnote.enqueueTelemetry.noteMatchingPong.handlePong
  obtain ⟨hpings, hpongs, htelemetry⟩ :=
    handlePong_frames s.noteRs422Frame.enqueueTelemetry.noteMatchingPong
  have hnotePongs : s.noteRs422Frame.history.pongFrames =
      if s.rs422ReceivedPacket.msgId = msgPong then
        s.history.pongFrames ++ [s.rs422ReceivedPacket.wire] else s.history.pongFrames := by
    simp only [noteRs422Frame, hframe]
  have hnoteTelemetry : s.noteRs422Frame.history.telemetryFrames =
      if s.rs422ReceivedPacket.msgId = msgTelemetry then
        s.history.telemetryFrames ++ [s.rs422ReceivedPacket.wire]
      else s.history.telemetryFrames := by
    simp only [noteRs422Frame, hframe]
  unfold Relaying Gateway.handleRs422Frame
  rw [hpings, hpongs, htelemetry]
  simp only [(enqueueTelemetry_frame _).1, (enqueueTelemetry_frame _).2,
    (noteMatchingPong_frame _).1, (noteMatchingPong_frame _).2] at hpong ⊢
  rw [hnotePongs, hnoteTelemetry]
  exact hpong

theorem processRxByte (h : s.Relaying) (hparses : s.Parses) (byte : UInt8) :
    (s.processRxByte byte).Relaying := by
  have hfeed : (s.feedRs422 byte).Relaying := { h with }
  unfold Gateway.processRxByte
  split
  case isTrue hevent =>
    exact hfeed.handleRs422Frame (deliveredFrame_feedByte hparses.rs422 hevent).2
  case isFalse => exact hfeed

theorem takeFlags (h : s.Relaying) : s.takeFlags.Relaying := by
  unfold Gateway.takeFlags handleTxDoneEvent handleTcpContextResetEvent
  cases s.flags.tcpContextReset <;> cases s.flags.txDone <;> exact { h with }

theorem forwardFailed (h : s.Relaying) : s.forwardFailed.Relaying := by
  unfold Gateway.forwardFailed
  split
  · exact { h with }
  · exact h

theorem returnWaitForTxComplete (h : s.Relaying) (pass : Bool) :
    (s.returnWaitForTxComplete pass).Relaying := by
  unfold Gateway.returnWaitForTxComplete
  split
  · split
    · exact h.release rfl
    · exact h.release rfl
  · cases pass with
    | true =>
      have hpassed : s.forwardPassed.Relaying := { h with }
      exact hpassed.release rfl
    | false => exact h.forwardFailed.release rfl

theorem returnProcessRx (h : s.Relaying) (caller : RxCaller) :
    (s.returnProcessRx caller).Relaying := by
  cases caller with
  | txLoop => exact h.release rfl
  | txDone =>
    refine returnWaitForTxComplete ?_ true
    exact { h with }
  | pongLoop =>
    simp only [Gateway.returnProcessRx]
    split
    · exact h.release rfl
    · exact h.release rfl
  | main => exact h.release rfl

/-- The command that is armed is transmitted. -/
theorem transmit (h : s.Relaying) (hpc : s.rs422.pc = .forwardTransmit) {task : Rs422Task}
    (holds : task.pc.holding = false) : { s.noteTransmit with rs422 := task }.Relaying := by
  have hframe : s.rs422TxFrame = s.rs422Command.packet.wire := h.txFrame (by rw [hpc]; rfl)
  have hpings := h.pings
  rw [pings_of_holding (by rw [hpc]; rfl)] at hpings
  have hsend := hpings.send
  rw [← hframe] at hsend
  refine { h with pings := ?_, txFrame := ?_ }
  · rw [pings_of_released holds]
    exact hsend
  · intro harmed
    have hholding : task.pc.holding = true := Rs422Pc.holding_of_armed harmed
    rw [holds] at hholding
    cases hholding

theorem rs422Step {s' : Gateway} {hal : HalStatus} {late : Bool} (h : s.Relaying)
    (hparses : s.Parses) (taken : s.rs422Step hal late = some s') : s'.Relaying := by
  cases rs422Step_move taken with
  | goto pc waits holds => exact h.release holds
  | call => exact h.release rfl
  | returnWait pass => exact h.returnWaitForTxComplete pass
  | returnRx caller => exact h.returnProcessRx caller
  | receive caller byte rest =>
    have hpop : { s with rxRing := rest }.Relaying := { h with }
    exact hpop.processRxByte { hparses with } byte
  | take pc waits holds => exact h.takeFlags.release holds
  | wake => exact h.takeFlags.release rfl
  | armBringup frame hpc =>
    have hreleased : { s with rs422 := { s.rs422 with pc := .bringupTransmit } }.Relaying :=
      h.release rfl
    exact { hreleased with txFrame := nofun }
  | transmitBringup =>
    have hbusy : { s with rs422TxBusy := true }.Relaying := { h with }
    exact hbusy.release rfl
  | transmitBringupFailed =>
    have hidle : { s with rs422TxBusy := false }.Relaying := { h with }
    exact hidle.release rfl
  | nextTest => exact h.release rfl
  | enable =>
    have hon : { s with telemetryForwardingEnabled := true }.Relaying := { h with }
    exact hon.release rfl
  | dequeue command rest hpc queue =>
    have hpings := h.pings
    rw [pings_of_released (by rw [hpc]; rfl), queuedPings, queue] at hpings
    exact { h with pings := hpings, txFrame := nofun }
  | arm frame hpc idle encoded =>
    have hpings := h.pings
    rw [pings_of_holding (by rw [hpc]; rfl)] at hpings
    exact { h with pings := hpings, txFrame := fun _ => wire_of_encodeFrame encoded }
  | mark hpc =>
    have hpings := h.pings
    rw [pings_of_holding (by rw [hpc]; rfl)] at hpings
    have hframe := h.txFrame (by rw [hpc]; rfl)
    unfold Gateway.markPending
    split
    · exact { h with pings := hpings, txFrame := fun _ => hframe }
    · exact { h with pings := hpings, txFrame := fun _ => hframe }
  | transmit hpc =>
    have hsent : { s.noteTransmit with rs422 := { s.rs422 with pc := .waitTx } }.Relaying :=
      h.transmit hpc rfl
    exact { hsent with txFrame := nofun }
  | transmitFailed hpc =>
    have hsent : { s.noteTransmit with rs422 := { s.rs422 with pc := .rx .main } }.Relaying :=
      h.transmit hpc rfl
    unfold Gateway.forwardFailed
    split
    · exact { hsent with txFrame := nofun }
    · exact { hsent with txFrame := nofun }

/-! ## EthernetTask -/

/-- EthernetTask goes to a place at which it holds nothing. -/
theorem ethernetGoto (h : s.Relaying) {pc : EthernetPc} (idle : pc.idle) :
    (s.ethernetGoto pc).Relaying := by
  obtain ⟨hputting, hsending, hforwarding⟩ := idle
  refine
    { h with
      pings := h.pings.drop ?_
      pongs := h.pongs.drop ?_
      telemetry := h.telemetry.drop ?_ }
  · show (_ ++ (_ ++ inHand pc.putting _)).Sublist (_ ++ (_ ++ _))
    rw [hputting]
    exact ((List.nil_sublist _).append_left _).append_left _
  · show (inHand pc.sending _ ++ _).Sublist _
    rw [hsending]
    exact List.sublist_append_right _ _
  · show (inHand pc.forwarding _ ++ _).Sublist _
    rw [hforwarding]
    exact List.sublist_append_right _ _

theorem ethernetBegin {s' : Gateway} {op : EthernetOp} (h : s.Relaying)
    (taken : s.ethernetBegin op = some s') : s'.Relaying := by
  unfold Gateway.ethernetBegin at taken
  cases op with
  | invalidate =>
    cases taken
    have hend : s.endSession.Relaying := { h with }
    exact hend.ethernetGoto ⟨rfl, rfl, rfl⟩
  | discard =>
    cases taken
    exact h.ethernetGoto ⟨rfl, rfl, rfl⟩
  | establish =>
    simp only at taken
    split at taken
    · cases taken
      have hinit : s.initTcpParser.Relaying := { h with }
      exact hinit.ethernetGoto ⟨rfl, rfl, rfl⟩
    · cases taken
  | receive bytes =>
    simp only at taken
    split at taken
    · cases taken
      exact h.ethernetGoto ⟨rfl, rfl, rfl⟩
    · cases taken
  | drain =>
    simp only at taken
    split at taken
    · cases taken
      exact h.ethernetGoto ⟨rfl, rfl, rfl⟩
    · cases taken
  | drainTelemetry =>
    cases taken
    exact h.ethernetGoto ⟨rfl, rfl, rfl⟩

theorem loop (h : s.Relaying) : (s.ethernetGoto .loop).Relaying := h.ethernetGoto ⟨rfl, rfl, rfl⟩

theorem counts (h : s.Relaying) (counts : GatewayCounts) : { s with counts := counts }.Relaying :=
  { h with }

/-- A PING frame is parsed. -/
theorem notePingFrame (h : s.Relaying) (hputting : s.ethernet.putting = false)
    (hframe : deliveredFrame s.tcpReceivedPacket s.history.tcpBytes = s.tcpReceivedPacket.wire)
    (rest : List UInt8) : (s.notePingFrame.ethernetGoto (.put rest)).Relaying := by
  have hreceive := h.pings.receive s.tcpReceivedPacket
  rw [← hframe] at hreceive
  have hsplit : s.pings ++ [s.tcpReceivedPacket] =
      (s.notePingFrame.ethernetGoto (.put rest)).pings := by
    unfold Gateway.pings queuedPings
    rw [hputting, List.append_assoc, List.append_assoc]
    rfl
  rw [hsplit] at hreceive
  exact { h.loop with pings := hreceive }

theorem processTcpByte (h : s.Relaying) (hparses : s.Parses) {byte : UInt8} {rest : List UInt8}
    (hpc : s.ethernet = .feed (byte :: rest)) : (s.processTcpByte byte rest).Relaying := by
  have hpings : (s.feedTcp byte).pings = s.pings := by
    unfold Gateway.pings queuedPings
    rw [show (s.feedTcp byte).ethernet = _ from hpc, hpc]
    rfl
  have hfeed : (s.feedTcp byte).Relaying := { h with pings := hpings ▸ h.pings }
  unfold Gateway.processTcpByte
  split
  case isTrue hping =>
    have hframe := (deliveredFrame_feedByte hparses.tcp hping.1).2
    have hputting : s.ethernet.putting = false := by rw [hpc]; rfl
    exact hfeed.notePingFrame hputting hframe rest
  case isFalse => exact hfeed.ethernetGoto ⟨rfl, rfl, rfl⟩

theorem putCommand (h : s.Relaying) {rest : List UInt8} (hpc : s.ethernet = .put rest) :
    (s.putCommand rest).Relaying := by
  unfold Gateway.putCommand
  split
  case isTrue room =>
    have hpings := h.pings
    have hsplit : s.queuedPings = (s.cmdQueue ++ [s.tcpCommand]).map Command.packet ++ [] := by
      rw [queuedPings, hpc, List.map_append, List.append_nil]
      rfl
    rw [Gateway.pings, hsplit] at hpings
    exact { h.loop with pings := hpings }
  case isFalse => exact h.ethernetGoto ⟨rfl, rfl, rfl⟩

theorem ethernetStep {s' : Gateway} {op : EthernetOp} {hal : HalStatus} (h : s.Relaying)
    (hparses : s.Parses) (taken : s.ethernetStep op hal = some s') : s'.Relaying := by
  cases ethernetStep_move taken with
  | start op s' hpc taken => exact h.ethernetBegin taken
  | invalidate hpc =>
    have hreset :
        { s.initTcpParser with flags := { s.flags with tcpContextReset := true } }.Relaying :=
      { h with }
    exact hreset.ethernetGoto ⟨rfl, rfl, rfl⟩
  | discardEnd left caller =>
    cases caller with
    | loop => exact h.ethernetGoto ⟨rfl, rfl, rfl⟩
    | activate => exact h.ethernetGoto ⟨rfl, rfl, rfl⟩
  | discardPop left caller response rest hpc queue =>
    have hkept : (rest.map Response.packet).Sublist s.pongs := by
      rw [Gateway.pongs, queue]
      exact (List.sublist_cons_self _ _).trans (List.sublist_append_right _ _)
    exact { h.loop with pongs := h.pongs.drop hkept }
  | discardCount => exact (h.counts _).ethernetGoto ⟨rfl, rfl, rfl⟩
  | activate =>
    have hbegin : s.beginSession.Relaying := { h with }
    exact hbegin.ethernetGoto ⟨rfl, rfl, rfl⟩
  | feedEnd => exact h.ethernetGoto ⟨rfl, rfl, rfl⟩
  | feed byte rest hpc => exact h.processTcpByte hparses hpc
  | put rest hpc =>
    have hcount : s.countPing.Relaying := { h with }
    exact hcount.putCommand hpc
  | putSuccess => exact (h.counts _).ethernetGoto ⟨rfl, rfl, rfl⟩
  | putFail => exact (h.counts _).ethernetGoto ⟨rfl, rfl, rfl⟩
  | signal =>
    have hready : { s with flags := { s.flags with cmdReady := true } }.Relaying := { h with }
    exact hready.ethernetGoto ⟨rfl, rfl, rfl⟩
  | drainEnd => exact h.ethernetGoto ⟨rfl, rfl, rfl⟩
  | drainPop left response rest hpc queue =>
    have hpongs := h.pongs
    rw [Gateway.pongs, hpc, queue] at hpongs
    exact { h.loop with pongs := hpongs }
  | drainCount left hpc =>
    have hpongs := h.pongs
    rw [Gateway.pongs, hpc] at hpongs
    exact { h.loop with pongs := hpongs }
  | sendRefused => exact h.ethernetGoto ⟨rfl, rfl, rfl⟩
  | send left frame hpc encoded =>
    have hpongs := h.pongs
    rw [Gateway.pongs, hpc] at hpongs
    have hsend := hpongs.send
    rw [← wire_of_encodeFrame encoded] at hsend
    exact { h.loop with pongs := hsend }
  | udpEnd => exact h.ethernetGoto ⟨rfl, rfl, rfl⟩
  | udpPop left packet rest hpc queue =>
    have htelemetry := h.telemetry
    rw [Gateway.telemetry, hpc, queue] at htelemetry
    exact { h.loop with telemetry := htelemetry }
  | udpCount left hpc =>
    have htelemetry := h.telemetry
    rw [Gateway.telemetry, hpc] at htelemetry
    exact { h.loop with telemetry := htelemetry }
  | udpRefused => exact h.ethernetGoto ⟨rfl, rfl, rfl⟩
  | udpForward left frame next hpc after encoded =>
    have htelemetry := h.telemetry
    rw [Gateway.telemetry, hpc] at htelemetry
    have hsend := htelemetry.send
    rw [← wire_of_encodeFrame encoded] at hsend
    have hsent : ((s.noteUdpSend frame).ethernetGoto .loop).Relaying :=
      { h.loop with telemetry := hsend }
    rcases after with rfl | rfl
    · exact { hsent with }
    · exact hsent

theorem step {s' : Gateway} {a : GatewayAction} (h : s.Relaying) (hparses : s.Parses)
    (taken : s.step a = some s') : s'.Relaying := by
  cases Gateway.step_move taken with
  | rs422 hal late s' taken => exact h.rs422Step hparses taken
  | ethernet op hal s' blocked taken => exact h.ethernetStep hparses taken
  | interrupt a rxRing rx txDone => exact { h with }

end Relaying

end Gateway

end Rs422Gateway
