import Rs422Gateway.Common.StreamParser

/-!
# The remote node

Rendering of `firmware/f429_remote_node/App/Src/remote_node.c`. A node and its callbacks are not
NULL. The two callbacks are parameters of an operation: `now` is what `time_fn` returns, and a
`Bool` says whether `tx_fn` accepts a frame. An operation returns the node and the frames it has
handed to `tx_fn`. The packet on the stack of `remote_node_process_byte` is not initialised; it is
all zero here and only read when the parser has filled it.
-/

namespace Rs422Gateway

/-- `REMOTE_NODE_HEARTBEAT_PERIOD_MS` (`remote_node.h:13`). -/
def heartbeatPeriodMs : UInt32 := 500
/-- `REMOTE_NODE_TELEMETRY_PERIOD_MS` (`remote_node.h:14`). -/
def telemetryPeriodMs : UInt32 := 100

/-- `remote_node_comm_status_t`. -/
inductive CommStatus where
  | init
  | ok
  | error
  deriving DecidableEq, Repr

/-- The value of the enumerator. -/
def CommStatus.code : CommStatus → UInt8
  | .init => 0
  | .ok => 1
  | .error => 2

/-- `remote_node_error_code_t`. -/
inductive RemoteErrorCode where
  | unknownMsg
  | badLength
  | unsupported
  deriving DecidableEq, Repr

/-- The value of the enumerator. -/
def RemoteErrorCode.code : RemoteErrorCode → UInt8
  | .unknownMsg => 1
  | .badLength => 2
  | .unsupported => 3

/-- `remote_node_stats_t`. -/
structure RemoteNodeStats where
  validFrameCount : UInt32
  parserErrorCount : UInt32
  crcErrorCount : UInt32
  unknownMsgCount : UInt32
  duplicateSeqCount : UInt32
  uartRxOverflowCount : UInt32
  uartErrorCount : UInt32
  txErrorCount : UInt32
  lastRxSeq : UInt16
  commStatus : CommStatus
  deriving DecidableEq

/-- `remote_node_t`, without the callbacks. -/
structure RemoteNode where
  parser : StreamParser
  stats : RemoteNodeStats
  lastHeartbeatMs : UInt32
  lastTelemetryMs : UInt32
  heartbeatSeq : UInt16
  telemetrySeq : UInt16
  statusFlags : UInt16
  lastRequestMsgId : UInt8
  lastRequestSeq : UInt16
  lastRequestValid : Bool

/-- `write_u32_be` (`remote_node.c:11-17`): the four bytes it stores. -/
def writeU32Be (value : UInt32) : List UInt8 :=
  [((value >>> 24) &&& 0xFF).toUInt8, ((value >>> 16) &&& 0xFF).toUInt8,
    ((value >>> 8) &&& 0xFF).toUInt8, (value &&& 0xFF).toUInt8]

/-- A packet that has been cleared and then filled in. -/
def filledPacket (msgId : UInt8) (seq : UInt16) (payload : List UInt8) : ProtocolPacket where
  version := protocolVersion
  msgId := msgId
  seq := seq
  length := UInt16.ofNat payload.length
  payload := copyPayload ProtocolPacket.zero.payload payload payload.length

namespace RemoteNode

/-- `remote_node_init` (`remote_node.c:203-226`). -/
def init (now : UInt32) : RemoteNode where
  parser := .init
  stats := ⟨0, 0, 0, 0, 0, 0, 0, 0, 0, .init⟩
  lastHeartbeatMs := now
  lastTelemetryMs := now
  heartbeatSeq := 0
  telemetrySeq := 0
  statusFlags := 0
  lastRequestMsgId := 0
  lastRequestSeq := 0
  lastRequestValid := false

/-- A packet could not be sent. -/
def noteTxError (node : RemoteNode) : RemoteNode :=
  { node with
    stats :=
      { node.stats with txErrorCount := node.stats.txErrorCount + 1, commStatus := .error } }

/-- `remote_node_send_packet` (`remote_node.c:29-56`). -/
def sendPacket (node : RemoteNode) (packet : ProtocolPacket) (accepted : Bool) :
    RemoteNode × List (List UInt8) :=
  match encodeFrame packet with
  | none => (node.noteTxError, [])
  | some frame => (if accepted then node else node.noteTxError, [frame])

/-- `remote_node_send_error` (`remote_node.c:58-75`). -/
def sendError (node : RemoteNode) (requestSeq : UInt16) (errorCode : RemoteErrorCode)
    (offendingMsgId : UInt8) (accepted : Bool) : RemoteNode × List (List UInt8) :=
  node.sendPacket (filledPacket msgError requestSeq [errorCode.code, offendingMsgId]) accepted

/-- `remote_node_remember_request` (`remote_node.c:77-91`). -/
def rememberRequest (node : RemoteNode) (request : ProtocolPacket) : RemoteNode :=
  { node with
    stats :=
      { node.stats with
        duplicateSeqCount :=
          if node.lastRequestValid = true ∧ node.lastRequestMsgId = request.msgId ∧
              node.lastRequestSeq = request.seq then
            node.stats.duplicateSeqCount + 1
          else node.stats.duplicateSeqCount }
    lastRequestMsgId := request.msgId
    lastRequestSeq := request.seq
    lastRequestValid := true }

/-- `remote_node_handle_ping` (`remote_node.c:93-118`). -/
def handlePing (node : RemoteNode) (request : ProtocolPacket) (accepted : Bool) :
    RemoteNode × List (List UInt8) :=
  if request.length ≠ 0 then node.sendError request.seq .badLength request.msgId accepted
  else (node.rememberRequest request).sendPacket (filledPacket msgPong request.seq []) accepted

/-- The payload of a STATUS_RESP (`remote_node.c:144-150`). -/
def statusPayload (node : RemoteNode) (now : UInt32) : List UInt8 :=
  writeU32Be now ++ writeU32Be node.stats.validFrameCount ++
    writeU32Be node.stats.parserErrorCount ++ writeU32Be node.stats.crcErrorCount ++
    writeU16Be node.stats.lastRxSeq ++ [node.stats.commStatus.code, 0]

/-- `remote_node_handle_read_status` (`remote_node.c:120-153`). -/
def handleReadStatus (node : RemoteNode) (request : ProtocolPacket) (now : UInt32)
    (accepted : Bool) : RemoteNode × List (List UInt8) :=
  if request.length ≠ 0 then node.sendError request.seq .badLength request.msgId accepted
  else
    let node := node.rememberRequest request
    node.sendPacket (filledPacket msgStatusResp request.seq (node.statusPayload now)) accepted

/-- The head of `remote_node_handle_packet` (`remote_node.c:159-165`). -/
def noteValidFrame (node : RemoteNode) (packet : ProtocolPacket) : RemoteNode :=
  { node with
    stats :=
      { node.stats with
        validFrameCount := node.stats.validFrameCount + 1
        lastRxSeq := packet.seq
        commStatus := if node.stats.commStatus = .init then .ok else node.stats.commStatus } }

/-- `remote_node_handle_packet` (`remote_node.c:155-201`). An ERROR is never answered. -/
def handlePacket (node : RemoteNode) (packet : ProtocolPacket) (now : UInt32) (accepted : Bool) :
    RemoteNode × List (List UInt8) :=
  let node := node.noteValidFrame packet
  if packet.msgId = msgPing then node.handlePing packet accepted
  else if packet.msgId = msgReadStatus then node.handleReadStatus packet now accepted
  else if packet.msgId = msgPong ∨ packet.msgId = msgStatusResp ∨ packet.msgId = msgHeartbeat ∨
      packet.msgId = msgTelemetry then
    node.sendError packet.seq .unsupported packet.msgId accepted
  else if packet.msgId = msgError then (node, [])
  else
    let node :=
      { node with stats := { node.stats with unknownMsgCount := node.stats.unknownMsgCount + 1 } }
    node.sendError packet.seq .unknownMsg packet.msgId accepted

/-- A rejected frame is counted by its error (`remote_node.c:244-254`). -/
def noteParserError (node : RemoteNode) : RemoteNode :=
  if node.parser.lastError = .errCrc then
    { node with stats := { node.stats with crcErrorCount := node.stats.crcErrorCount + 1 } }
  else
    { node with stats := { node.stats with parserErrorCount := node.stats.parserErrorCount + 1 } }

/-- `remote_node_process_byte` (`remote_node.c:228-255`). -/
def processByte (node : RemoteNode) (byte : UInt8) (now : UInt32) (accepted : Bool) :
    RemoteNode × List (List UInt8) :=
  let (parser, event, packet) := node.parser.feedByte byte .zero
  let node := { node with parser := parser }
  match event with
  | .frame => node.handlePacket packet now accepted
  | .error => (node.noteParserError, [])
  | .none => (node, [])

/-- `remote_node_process_bytes` (`remote_node.c:257-273`), with the answers of the callbacks at each
    byte. -/
def processBytes (node : RemoteNode) :
    List (UInt8 × UInt32 × Bool) → RemoteNode × List (List UInt8)
  | [] => (node, [])
  | (byte, now, accepted) :: rest =>
      let (node, frames) := node.processByte byte now accepted
      let (node, later) := node.processBytes rest
      (node, frames ++ later)

/-- The TELEMETRY of `remote_node_process_periodic` (`remote_node.c:287-301`). -/
def periodicTelemetry (node : RemoteNode) (now : UInt32) (accepted : Bool) :
    RemoteNode × List (List UInt8) :=
  if telemetryPeriodMs ≤ now - node.lastTelemetryMs then
    let node := { node with lastTelemetryMs := now, telemetrySeq := node.telemetrySeq + 1 }
    node.sendPacket
      (filledPacket msgTelemetry node.telemetrySeq
        (writeU32Be now ++ writeU16Be node.statusFlags)) accepted
  else (node, [])

/-- Its HEARTBEAT (`remote_node.c:303-316`). -/
def periodicHeartbeat (node : RemoteNode) (now : UInt32) (accepted : Bool) :
    RemoteNode × List (List UInt8) :=
  if heartbeatPeriodMs ≤ now - node.lastHeartbeatMs then
    let node := { node with lastHeartbeatMs := now, heartbeatSeq := node.heartbeatSeq + 1 }
    node.sendPacket (filledPacket msgHeartbeat node.heartbeatSeq (writeU32Be now)) accepted
  else (node, [])

/-- `remote_node_process_periodic` (`remote_node.c:275-317`). -/
def processPeriodic (node : RemoteNode) (now : UInt32)
    (telemetryAccepted heartbeatAccepted : Bool) : RemoteNode × List (List UInt8) :=
  let (node, telemetry) := node.periodicTelemetry now telemetryAccepted
  let (node, heartbeat) := node.periodicHeartbeat now heartbeatAccepted
  (node, telemetry ++ heartbeat)

/-- `remote_node_set_status_flags` (`remote_node.c:319-325`). -/
def setStatusFlags (node : RemoteNode) (statusFlags : UInt16) : RemoteNode :=
  { node with statusFlags := statusFlags }

/-- `remote_node_note_rx_overflow` (`remote_node.c:327-334`). -/
def noteRxOverflow (node : RemoteNode) : RemoteNode :=
  { node with
    stats :=
      { node.stats with
        uartRxOverflowCount := node.stats.uartRxOverflowCount + 1, commStatus := .error } }

/-- `remote_node_note_uart_error` (`remote_node.c:336-343`). -/
def noteUartError (node : RemoteNode) : RemoteNode :=
  { node with
    stats :=
      { node.stats with
        uartErrorCount := node.stats.uartErrorCount + 1, commStatus := .error } }

end RemoteNode

end Rs422Gateway
