import Rs422Gateway.Common.Proofs.Soundness
import Rs422Gateway.Gateway.Proofs.Moves

/-!
# The gateway's parsers

In every run `g_tcp_parser` and `g_rs422_parser` hold what the scanner holds after the bytes fed to
them, so a frame they deliver is byte for byte the end of these bytes.
-/

namespace Rs422Gateway

open Scanner

/-- The frame of a packet, as `protocol_encode` writes it. -/
def ProtocolPacket.wire (p : ProtocolPacket) : List UInt8 := p.message.wire

theorem wire_of_encodeFrame {p : ProtocolPacket} {frame : List UInt8}
    (h : encodeFrame p = some frame) : frame = p.wire :=
  (encodeFrame_eq_some_iff.mp h).2

theorem lastBytes_of_suffix {frame bytes : List UInt8} (h : frame <:+ bytes) :
    lastBytes frame.length bytes = frame :=
  (List.suffix_iff_eq_drop.mp h).symm

/-- A frame event of `stream_parser_feed_byte`: the packet it delivers is a packet whose frame is
    the end of the bytes fed. -/
theorem deliveredFrame_feedByte {p : StreamParser} {bytes : List UInt8}
    (h : p.Represents (scanAll [] bytes)) {q : ProtocolPacket} {byte : UInt8}
    (hevent : (p.feedByte byte q).2.1 = .frame) :
    (p.feedByte byte q).2.2.Encodable ∧
      deliveredFrame (p.feedByte byte q).2.2 (bytes ++ [byte]) = (p.feedByte byte q).2.2.wire := by
  obtain ⟨-, hfollows⟩ := StreamParser.feedByte_refines q byte h
  have hreported := hfollows.event.symm.trans hevent
  cases hreport : (scan (scanAll [] bytes) byte).2 with
  | none =>
    rw [hreport] at hreported
    cases hreported
  | error e =>
    rw [hreport] at hreported
    cases hreported
  | frame m =>
    have hpacket : (p.feedByte byte q).2.2 = m.packet q := by
      rw [hfollows.packet, hreport]
      rfl
    obtain ⟨hwire, -⟩ := (scan_sound h.candidate byte).2 m hreport
    have hheld : scanAll [] bytes <:+ bytes := scanAll_suffix .empty bytes
    have hsuffix : m.wire <:+ bytes ++ [byte] := by
      rw [← hwire]
      obtain ⟨before, hbefore⟩ := hheld
      exact ⟨before, by rw [← List.append_assoc, hbefore]⟩
    have hlength : (m.packet q).length.toNat + 10 = m.wire.length := by
      rw [Message.wire_length]
      exact congrArg (· + 10) m.length_toNat
    rw [hpacket, deliveredFrame, hlength, lastBytes_of_suffix hsuffix, ProtocolPacket.wire,
      Message.packet_message]
    exact ⟨m.packet_encodable q, rfl⟩

theorem represents_feedByte {p : StreamParser} {bytes : List UInt8}
    (h : p.Represents (scanAll [] bytes)) (q : ProtocolPacket) (byte : UInt8) :
    (p.feedByte byte q).1.Represents (scanAll [] (bytes ++ [byte])) := by
  rw [scanAll_append]
  exact (StreamParser.feedByte_refines q byte h).1

/-- The parsers hold what the scanner holds after the bytes fed to them. -/
structure Gateway.Parses (s : Gateway) : Prop where
  tcp : s.tcpParser.Represents (scanAll [] s.history.tcpBytes)
  rs422 : s.rs422Parser.Represents (scanAll [] s.history.rs422Bytes)

namespace Gateway.Parses

variable {s : Gateway}

theorem initial : Gateway.initial.Parses where
  tcp := StreamParser.init_represents
  rs422 := StreamParser.init_represents

theorem feedRs422 (h : s.Parses) (byte : UInt8) : (s.feedRs422 byte).Parses :=
  { h with rs422 := represents_feedByte h.rs422 s.rs422ReceivedPacket byte }

theorem feedTcp (h : s.Parses) (byte : UInt8) : (s.feedTcp byte).Parses :=
  { h with tcp := represents_feedByte h.tcp s.tcpReceivedPacket byte }

theorem initTcpParser (h : s.Parses) : s.initTcpParser.Parses :=
  { h with tcp := StreamParser.init_represents }

theorem takeFlags (h : s.Parses) : s.takeFlags.Parses := by
  unfold Gateway.takeFlags handleTxDoneEvent handleTcpContextResetEvent
  cases s.flags.tcpContextReset <;> cases s.flags.txDone <;> exact { h with }

theorem handlePong (h : s.Parses) : s.handlePong.Parses := by
  unfold Gateway.handlePong enqueueResponse
  split
  · split <;> exact { h with }
  · exact h

theorem processRxByte (h : s.Parses) (byte : UInt8) : (s.processRxByte byte).Parses := by
  have hfeed := h.feedRs422 byte
  rcases processRxByte_cases s byte with heq | ⟨queue, success, fail, received, heq⟩
  · rw [heq]
    exact hfeed
  · rw [heq]
    exact handlePong { hfeed with }

theorem forwardFailed (h : s.Parses) : s.forwardFailed.Parses := by
  unfold Gateway.forwardFailed
  split
  · exact { h with }
  · exact h

theorem returnWaitForTxComplete (h : s.Parses) (pass : Bool) :
    (s.returnWaitForTxComplete pass).Parses := by
  unfold Gateway.returnWaitForTxComplete
  split
  · split <;> exact { h with }
  · cases pass with
    | true => exact { h with }
    | false => exact { h.forwardFailed with }

theorem returnProcessRx (h : s.Parses) (caller : RxCaller) : (s.returnProcessRx caller).Parses := by
  cases caller with
  | txLoop => exact { h with }
  | txDone =>
    refine returnWaitForTxComplete ?_ true
    exact { h with }
  | pongLoop =>
    simp only [Gateway.returnProcessRx]
    split <;> exact { h with }
  | main => exact { h with }

theorem markPending (h : s.Parses) : s.markPending.Parses := by
  unfold Gateway.markPending
  split
  · exact { h with }
  · exact h

theorem rs422Step {s' : Gateway} {hal : HalStatus} {late : Bool} (h : s.Parses)
    (taken : s.rs422Step hal late = some s') : s'.Parses := by
  cases rs422Step_move taken with
  | goto => exact { h with }
  | call => exact { h with }
  | returnWait pass => exact h.returnWaitForTxComplete pass
  | returnRx caller => exact h.returnProcessRx caller
  | receive caller byte rest =>
    have hpop : { s with rxRing := rest }.Parses := { h with }
    exact hpop.processRxByte byte
  | take => exact { h.takeFlags with }
  | wake => exact { h.takeFlags with }
  | armBringup => exact { h with }
  | transmitBringup => exact { h with }
  | transmitBringupFailed => exact { h with }
  | nextTest => exact { h with }
  | enable => exact { h with }
  | dequeue => exact { h with }
  | arm => exact { h with }
  | mark => exact { h.markPending with }
  | transmit => exact { h with }
  | transmitFailed =>
    have hnote : { s.noteTransmit with rs422TxBusy := false }.Parses := { h with }
    exact { hnote.forwardFailed with }

theorem ethernetBegin {s' : Gateway} {op : EthernetOp} (h : s.Parses)
    (taken : s.ethernetBegin op = some s') : s'.Parses := by
  unfold Gateway.ethernetBegin at taken
  cases op with
  | invalidate =>
    cases taken
    exact { h with }
  | discard =>
    cases taken
    exact { h with }
  | establish =>
    simp only at taken
    split at taken
    · cases taken
      exact { h.initTcpParser with }
    · cases taken
  | receive bytes =>
    simp only at taken
    split at taken
    · cases taken
      exact { h with }
    · cases taken
  | drain =>
    simp only at taken
    split at taken
    · cases taken
      exact { h with }
    · cases taken
  | drainTelemetry =>
    cases taken
    exact { h with }

theorem ethernetStep {s' : Gateway} {op : EthernetOp} {hal : HalStatus} (h : s.Parses)
    (taken : s.ethernetStep op hal = some s') : s'.Parses := by
  cases ethernetStep_move taken with
  | start op s' hpc taken => exact h.ethernetBegin taken
  | invalidate => exact { h.initTcpParser with }
  | discardEnd left caller => cases caller <;> exact { h with }
  | feed byte rest =>
    have hfeed := h.feedTcp byte
    unfold processTcpByte
    split <;> exact { hfeed with }
  | put rest =>
    unfold putCommand
    split <;> exact { h with }
  | discardPop => exact { h with }
  | discardCount => exact { h with }
  | activate => exact { h with }
  | feedEnd => exact { h with }
  | putSuccess => exact { h with }
  | putFail => exact { h with }
  | signal => exact { h with }
  | drainEnd => exact { h with }
  | drainPop => exact { h with }
  | drainCount => exact { h with }
  | sendRefused => exact { h with }
  | send => exact { h with }
  | udpEnd => exact { h with }
  | udpPop => exact { h with }
  | udpCount => exact { h with }
  | udpRefused => exact { h with }
  | udpForward => exact { h with }

theorem step {s' : Gateway} {a : GatewayAction} (h : s.Parses) (taken : s.step a = some s') :
    s'.Parses := by
  cases Gateway.step_move taken with
  | rs422 hal late s' taken => exact h.rs422Step taken
  | ethernet op hal s' blocked taken => exact h.ethernetStep taken
  | interrupt a rxRing rx txDone => exact { h with }

end Gateway.Parses

end Rs422Gateway
