import Rs422Gateway.Common.Proofs.ScannerRefinement
import Rs422Gateway.RemoteNode.Reference

/-!
# How the remote node handles a call

`handlePacket_message` says what `remote_node_handle_packet` does with a valid frame: it notes the
frame, and it sends one reply unless the frame is an ERROR. `processByte_scan` says the same of
`remote_node_process_byte` and the report of the scanner for a byte. The two parts of
`remote_node_process_periodic` send one frame each when they are due.
-/

namespace Rs422Gateway

open Scanner StreamParser

/-- A filled packet is encoded as the frame of its message. -/
theorem encodeFrame_filledPacket {msgId : UInt8} {seq : UInt16} {payload : List UInt8}
    (bounded : payload.length ≤ 256) :
    encodeFrame (filledPacket msgId seq payload) =
      some (Message.wire ⟨msgId, seq, payload, bounded⟩) := by
  have hpacket : filledPacket msgId seq payload =
      Message.packet ⟨msgId, seq, payload, bounded⟩ .zero := rfl
  rw [hpacket, encodeFrame_of_encodable (Message.packet_encodable _ _), Message.packet_message]

/-- The packet of a message has LENGTH 0 when there is no payload. -/
theorem Message.packet_length_eq_zero (m : Message) (q : ProtocolPacket) :
    (m.packet q).length = 0 ↔ m.payload = [] := by
  have hlength : (m.packet q).length = m.length := rfl
  rw [hlength, ← UInt16.toNat_inj, Message.length_toNat]
  exact List.length_eq_zero_iff

/-- The frame of a report, if it is to be answered. -/
def Report.answered : Report → Option Message
  | .frame m => if m.msgId = msgError then Option.none else some m
  | _ => Option.none

namespace RemoteNode

/-- The node behind a call of `tx_fn`. -/
def afterTx (node : RemoteNode) (accepted : Bool) : RemoteNode :=
  if accepted then node else node.noteTxError

/-- A frame has been rejected with the error `e`. -/
def noteRejection (node : RemoteNode) (e : ProtocolResult) : RemoteNode :=
  if e = .errCrc then
    { node with stats := { node.stats with crcErrorCount := node.stats.crcErrorCount + 1 } }
  else
    { node with stats := { node.stats with parserErrorCount := node.stats.parserErrorCount + 1 } }

/-- A valid frame has been noted, and its reply is not sent yet. -/
def noteFrame (node : RemoteNode) (m : Message) : RemoteNode :=
  let node := node.noteValidFrame (m.packet .zero)
  if m.IsRequest then node.rememberRequest (m.packet .zero)
  else if m.Unknown then
    { node with stats := { node.stats with unknownMsgCount := node.stats.unknownMsgCount + 1 } }
  else node

/-- What the parser has reported is noted, and nothing is sent yet. -/
def noteReport (node : RemoteNode) : Report → RemoteNode
  | .none => node
  | .frame m => node.noteFrame m
  | .error e => node.noteRejection e

/-- The byte is fed to the parser and its report is noted. -/
def receive (node : RemoteNode) (byte : UInt8) (report : Report) : RemoteNode :=
  noteReport { node with parser := (node.parser.feedByte byte .zero).1 } report

/-- The reply to a frame that has been noted and is no ERROR. -/
def replyTo (node : RemoteNode) (m : Message) (now : UInt32) : Message :=
  if m.IsRequest then
    if m.msgId = msgPing then ⟨msgPong, m.seq, [], Message.nil_bounded⟩
    else ⟨msgStatusResp, m.seq, node.statusPayload now, by simp [statusPayload, writeU32Be]⟩
  else
    ⟨msgError, m.seq, [(Request.errorCode m.msgId).code, m.msgId],
      by rw [List.length_cons, List.length_singleton]; decide⟩

/-- A TELEMETRY is due: its timer and its SEQ have been updated. -/
def noteTelemetry (node : RemoteNode) (now : UInt32) : RemoteNode :=
  { node with lastTelemetryMs := now, telemetrySeq := node.telemetrySeq + 1 }

/-- The TELEMETRY sent then. -/
def telemetry (node : RemoteNode) (now : UInt32) : Message :=
  ⟨msgTelemetry, node.telemetrySeq, writeU32Be now ++ writeU16Be node.statusFlags,
    by simp [writeU32Be]⟩

/-- A HEARTBEAT is due: its timer and its SEQ have been updated. -/
def noteHeartbeat (node : RemoteNode) (now : UInt32) : RemoteNode :=
  { node with lastHeartbeatMs := now, heartbeatSeq := node.heartbeatSeq + 1 }

/-- The HEARTBEAT sent then. -/
def heartbeat (node : RemoteNode) (now : UInt32) : Message :=
  ⟨msgHeartbeat, node.heartbeatSeq, writeU32Be now, by simp [writeU32Be]⟩

variable {node : RemoteNode}

/-! Of a packet, only MSG_ID and SEQ are noted. -/

theorem noteValidFrame_packet (node : RemoteNode) (m : Message) (q : ProtocolPacket) :
    node.noteValidFrame (m.packet q) = node.noteValidFrame (m.packet .zero) := by
  simp only [noteValidFrame, Message.packet]

theorem rememberRequest_packet (node : RemoteNode) (m : Message) (q : ProtocolPacket) :
    node.rememberRequest (m.packet q) = node.rememberRequest (m.packet .zero) := by
  have hid : (m.packet q).msgId = (m.packet .zero).msgId := rfl
  have hseq : (m.packet q).seq = (m.packet .zero).seq := rfl
  unfold rememberRequest
  rw [hid, hseq]

theorem sendPacket_filledPacket {msgId : UInt8} {seq : UInt16} {payload : List UInt8}
    (bounded : payload.length ≤ 256) (accepted : Bool) :
    node.sendPacket (filledPacket msgId seq payload) accepted =
      (node.afterTx accepted, [Message.wire ⟨msgId, seq, payload, bounded⟩]) := by
  unfold sendPacket
  rw [encodeFrame_filledPacket bounded]
  rfl

theorem sendError_eq (node : RemoteNode) (seq : UInt16) (code : RemoteErrorCode) (msgId : UInt8)
    (accepted : Bool) :
    node.sendError seq code msgId accepted =
      (node.afterTx accepted,
        [Message.wire ⟨msgError, seq, [code.code, msgId],
          by rw [List.length_cons, List.length_singleton]; decide⟩]) :=
  sendPacket_filledPacket _ accepted

theorem handlePing_message (node : RemoteNode) (m : Message) (q : ProtocolPacket)
    (accepted : Bool) :
    node.handlePing (m.packet q) accepted =
      if m.payload = [] then
        ((node.rememberRequest (m.packet .zero)).afterTx accepted,
          [Message.wire ⟨msgPong, m.seq, [], Message.nil_bounded⟩])
      else node.sendError m.seq .badLength m.msgId accepted := by
  have hseq : (m.packet q).seq = m.seq := rfl
  have hid : (m.packet q).msgId = m.msgId := rfl
  unfold handlePing
  by_cases hempty : m.payload = []
  · rw [if_neg (not_not_intro ((m.packet_length_eq_zero q).mpr hempty)), if_pos hempty,
      rememberRequest_packet, hseq, sendPacket_filledPacket (Nat.zero_le _)]
  · rw [if_pos (fun h => hempty ((m.packet_length_eq_zero q).mp h)), if_neg hempty, hseq, hid]

theorem statusPayload_length (node : RemoteNode) (now : UInt32) :
    (node.statusPayload now).length = 20 := by
  simp [statusPayload, writeU32Be]

theorem handleReadStatus_message (node : RemoteNode) (m : Message) (q : ProtocolPacket)
    (now : UInt32) (accepted : Bool) :
    node.handleReadStatus (m.packet q) now accepted =
      if m.payload = [] then
        ((node.rememberRequest (m.packet .zero)).afterTx accepted,
          [Message.wire ⟨msgStatusResp, m.seq,
            (node.rememberRequest (m.packet .zero)).statusPayload now,
            by rw [statusPayload_length]; decide⟩])
      else node.sendError m.seq .badLength m.msgId accepted := by
  have hseq : (m.packet q).seq = m.seq := rfl
  have hid : (m.packet q).msgId = m.msgId := rfl
  unfold handleReadStatus
  by_cases hempty : m.payload = []
  · rw [if_neg (not_not_intro ((m.packet_length_eq_zero q).mpr hempty)), if_pos hempty]
    dsimp only
    rw [rememberRequest_packet, hseq,
      sendPacket_filledPacket (by rw [statusPayload_length]; decide)]
  · rw [if_pos (fun h => hempty ((m.packet_length_eq_zero q).mp h)), if_neg hempty, hseq, hid]

/-- A valid frame is noted, and answered by one reply unless it is an ERROR. -/
theorem handlePacket_message (node : RemoteNode) (m : Message) (q : ProtocolPacket) (now : UInt32)
    (accepted : Bool) :
    node.handlePacket (m.packet q) now accepted =
      if m.msgId = msgError then (node.noteFrame m, [])
      else
        ((node.noteFrame m).afterTx accepted, [((node.noteFrame m).replyTo m now).wire]) := by
  have hid : (m.packet q).msgId = m.msgId := rfl
  have hseq : (m.packet q).seq = m.seq := rfl
  unfold handlePacket
  simp only [hid, hseq, noteValidFrame_packet, handlePing_message, handleReadStatus_message]
  by_cases hping : m.msgId = msgPing
  · have hassigned : m.msgId ∈ assignedMsgIds := by rw [hping]; decide
    have herror : m.msgId ≠ msgError := by rw [hping]; decide
    rw [if_pos hping, if_neg herror]
    by_cases hempty : m.payload = []
    · have hrequest : m.IsRequest := ⟨.inl hping, hempty⟩
      simp only [noteFrame, replyTo, if_pos hrequest, if_pos hempty, if_pos hping]
    · have hrequest : ¬ m.IsRequest := fun h => hempty h.2
      have hcode : Request.errorCode m.msgId = .badLength := if_pos (.inl hping)
      simp only [noteFrame, replyTo, if_neg hrequest, if_neg hempty, Message.Unknown, hassigned,
        not_true_eq_false, if_false, hcode, sendError_eq]
  rw [if_neg hping]
  by_cases hstatus : m.msgId = msgReadStatus
  · have hassigned : m.msgId ∈ assignedMsgIds := by rw [hstatus]; decide
    have herror : m.msgId ≠ msgError := by rw [hstatus]; decide
    rw [if_pos hstatus, if_neg herror]
    by_cases hempty : m.payload = []
    · have hrequest : m.IsRequest := ⟨.inr hstatus, hempty⟩
      simp only [noteFrame, replyTo, if_pos hrequest, if_pos hempty, if_neg hping]
    · have hrequest : ¬ m.IsRequest := fun h => hempty h.2
      have hcode : Request.errorCode m.msgId = .badLength := if_pos (.inr hstatus)
      simp only [noteFrame, replyTo, if_neg hrequest, if_neg hempty, Message.Unknown, hassigned,
        not_true_eq_false, if_false, hcode, sendError_eq]
  rw [if_neg hstatus]
  have hrequest : ¬ m.IsRequest := fun h => h.1.elim hping hstatus
  have hhandled : ¬ (m.msgId = msgPing ∨ m.msgId = msgReadStatus) := fun h => h.elim hping hstatus
  by_cases hsupported : m.msgId = msgPong ∨ m.msgId = msgStatusResp ∨ m.msgId = msgHeartbeat ∨
      m.msgId = msgTelemetry
  · have hassigned : m.msgId ∈ assignedMsgIds := by
      rcases hsupported with h | h | h | h <;> (rw [h]; decide)
    have herror : m.msgId ≠ msgError := by
      rcases hsupported with h | h | h | h <;> (rw [h]; decide)
    have hcode : Request.errorCode m.msgId = .unsupported :=
      (if_neg hhandled).trans (if_pos hassigned)
    rw [if_pos hsupported, if_neg herror]
    simp only [noteFrame, replyTo, if_neg hrequest, Message.Unknown, hassigned, not_true_eq_false,
      if_false, hcode, sendError_eq]
  rw [if_neg hsupported]
  by_cases herror : m.msgId = msgError
  · have hassigned : m.msgId ∈ assignedMsgIds := by rw [herror]; decide
    rw [if_pos herror, if_pos herror]
    simp only [noteFrame, if_neg hrequest, Message.Unknown, hassigned, not_true_eq_false, if_false]
  · have hunknown : m.Unknown := by
      simp only [Message.Unknown, assignedMsgIds, List.mem_cons, List.not_mem_nil, or_false]
      tauto
    have hcode : Request.errorCode m.msgId = .unknownMsg :=
      (if_neg hhandled).trans (if_neg hunknown)
    rw [if_neg herror, if_neg herror]
    simp only [noteFrame, replyTo, if_neg hrequest, if_pos hunknown, hcode, sendError_eq]

@[simp] theorem parser_noteReport (node : RemoteNode) (report : Report) :
    (node.noteReport report).parser = node.parser := by
  cases report with
  | none => rfl
  | frame m =>
    simp only [noteReport, noteFrame]
    split
    · rfl
    · split <;> rfl
  | error e =>
    simp only [noteReport, noteRejection]
    split <;> rfl

@[simp] theorem parser_receive (node : RemoteNode) (byte : UInt8) (report : Report) :
    (node.receive byte report).parser = (node.parser.feedByte byte .zero).1 :=
  parser_noteReport _ _

/-- What the remote node does with a byte is what it does with the report of the scanner. -/
theorem processByte_scan {held : List UInt8} (h : node.parser.Represents held) (byte : UInt8)
    (now : UInt32) (accepted : Bool) :
    node.processByte byte now accepted =
      match (scan held byte).2.answered with
      | none => (node.receive byte (scan held byte).2, [])
      | some m =>
          ((node.receive byte (scan held byte).2).afterTx accepted,
            [((node.receive byte (scan held byte).2).replyTo m now).wire]) := by
  have hfollows := (feedByte_refines .zero byte h).2
  have hevent := hfollows.event
  have hpacket := hfollows.packet
  have herror := hfollows.lastError
  cases hreport : (scan held byte).2 with
  | none =>
    rw [hreport] at hevent
    simp only [processByte, hevent, Report.event, Report.answered, receive, noteReport]
  | frame m =>
    rw [hreport] at hevent hpacket
    simp only [processByte, hevent, hpacket, Report.event, Report.packet, Report.answered,
      receive, noteReport, handlePacket_message]
    split <;> rfl
  | error e =>
    rw [hreport] at hevent
    simp only [processByte, hevent, Report.event, Report.answered, receive, noteReport,
      noteParserError, noteRejection, herror e hreport]

theorem periodicTelemetry_eq (node : RemoteNode) (now : UInt32) (accepted : Bool) :
    node.periodicTelemetry now accepted =
      if telemetryPeriodMs ≤ now - node.lastTelemetryMs then
        ((node.noteTelemetry now).afterTx accepted, [((node.noteTelemetry now).telemetry now).wire])
      else (node, []) := by
  unfold periodicTelemetry
  split
  · exact sendPacket_filledPacket _ accepted
  · rfl

theorem periodicHeartbeat_eq (node : RemoteNode) (now : UInt32) (accepted : Bool) :
    node.periodicHeartbeat now accepted =
      if heartbeatPeriodMs ≤ now - node.lastHeartbeatMs then
        ((node.noteHeartbeat now).afterTx accepted, [((node.noteHeartbeat now).heartbeat now).wire])
      else (node, []) := by
  unfold periodicHeartbeat
  split
  · exact sendPacket_filledPacket _ accepted
  · rfl

end RemoteNode

end Rs422Gateway
