import Rs422Gateway.Gateway.Rs422Task

/-!
# EthernetTask and the whole gateway

Rendering of the operations of EthernetTask that touch frames: `w5500_tcp_process_rx` with
`w5500_tcp_handle_valid_frame`, `w5500_tcp_drain_response_queue`, the drain of
`udp_telemetry_queue`, and the beginning and the end of a TCP session. Its control plane (PHY,
socket status, restarts, deadlines) decides which operation comes next and is not modelled here:
between two operations any of them may be next, under the test of `g_w5500_tcp_session_active` that
the code makes for it, so every run of the code is a run of this model. The bytes a call of
`w5500_tcp_process_rx` reads from the chip are a parameter.

EthernetTask runs only while RS422Task is blocked, and RS422Task can come between any two of its
steps. Each step makes at most one access to what the two share.
-/

namespace Rs422Gateway

/-- The operations of EthernetTask. -/
inductive EthernetOp where
  /-- `w5500_tcp_invalidate_connection_context` (`main.c:1499-1512`). -/
  | invalidate
  /-- `w5500_tcp_discard_stale_responses` (`main.c:1453-1473`). -/
  | discard
  /-- The beginning of a session (`main.c:3802-3809`). -/
  | establish
  /-- `w5500_tcp_process_rx` (`main.c:1274-1351`), once it has read `bytes`. -/
  | receive (bytes : List UInt8)
  /-- `w5500_tcp_drain_response_queue` (`main.c:1475-1497`). -/
  | drain
  /-- The drain of `udp_telemetry_queue` (`main.c:3857-3876`). -/
  | drainTelemetry
  deriving DecidableEq, Repr

namespace Gateway

/-- EthernetTask goes on at `pc`. -/
def ethernetGoto (s : Gateway) (pc : EthernetPc) : Gateway := { s with ethernet := pc }

/-- `stream_parser_init(&g_tcp_parser)`. -/
def initTcpParser (s : Gateway) : Gateway :=
  { s with tcpParser := .init, history := { s.history with tcpBytes := [] } }

/-- `g_w5500_tcp_session_active = 0u` (`main.c:1501`). -/
def endSession (s : Gateway) : Gateway :=
  { s with
    tcpSessionActive := false
    history := { s.history with inFlight := none, unanswered := [] } }

/-- `g_w5500_tcp_session_active = 1u` (`main.c:3808`). -/
def beginSession (s : Gateway) : Gateway :=
  { s with
    tcpSessionActive := true
    history := { s.history with session := s.history.session + 1 } }

/-- A byte for `g_tcp_parser` (`main.c:1336-1339`). -/
def feedTcp (s : Gateway) (byte : UInt8) : Gateway :=
  let (parser, _, packet) := s.tcpParser.feedByte byte s.tcpReceivedPacket
  { s with
    tcpParser := parser
    tcpReceivedPacket := packet
    history := { s.history with tcpBytes := s.history.tcpBytes ++ [byte] } }

/-- The event of that call. -/
def tcpEvent (s : Gateway) (byte : UInt8) : StreamParserEvent :=
  (s.tcpParser.feedByte byte s.tcpReceivedPacket).2.1

/-- The history notes a valid PING frame from TCP. -/
def notePingFrame (s : Gateway) : Gateway :=
  { s with
    history :=
      { s.history with
        pingFrames :=
          s.history.pingFrames ++ [deliveredFrame s.tcpReceivedPacket s.history.tcpBytes] } }

/-- A byte of the chunk, with the head of `w5500_tcp_handle_valid_frame` (`main.c:1229-1252`). -/
def processTcpByte (s : Gateway) (byte : UInt8) (rest : List UInt8) : Gateway :=
  if s.tcpEvent byte = .frame ∧ (s.feedTcp byte).tcpReceivedPacket.msgId = msgPing then
    (s.feedTcp byte).notePingFrame.ethernetGoto (.put rest)
  else (s.feedTcp byte).ethernetGoto (.feed rest)

/-- `g_w5500_tcp_ping_count++` (`main.c:1252`). -/
def countPing (s : Gateway) : Gateway :=
  { s with counts := { s.counts with tcpPing := s.counts.tcpPing + 1 } }

/-- The PING in `g_tcp_received_packet`, as it is put on `rs422_cmd_queue` now. -/
def tcpCommand (s : Gateway) : Command := ⟨s.tcpReceivedPacket, s.history.session⟩

/-- The PING is put on `rs422_cmd_queue` (`main.c:1254-1259`). -/
def putCommand (s : Gateway) (rest : List UInt8) : Gateway :=
  if s.cmdQueue.length < rs422CmdQueueDepth then
    { s with
      cmdQueue := s.cmdQueue ++ [s.tcpCommand]
      ethernet := .putCount true rest
      history := { s.history with queued := s.history.queued ++ [s.tcpCommand] } }
  else s.ethernetGoto (.putCount false rest)

/-- A packet passed to `w5500_tcp_send_frame` (`main.c:1206-1208`). -/
def noteTcpSend (s : Gateway) (frame : List UInt8) : Gateway :=
  { s with
    history :=
      { s.history with
        tcpFrames := s.history.tcpFrames ++ [frame]
        responses := s.history.responses ++ [(s.history.session, s.tcpPong)] } }

/-- A frame passed to `w5500_udp_send_frame` (`main.c:2103-2104`). -/
def noteUdpSend (s : Gateway) (frame : List UInt8) : Gateway :=
  { s with history := { s.history with udpFrames := s.history.udpFrames ++ [frame] } }

/-- The place a discard returns to. -/
def returnDiscard (s : Gateway) : DiscardCaller → Gateway
  | .loop => s.ethernetGoto .loop
  | .activate => s.ethernetGoto .activate

/-- The beginning of an operation. -/
def ethernetBegin (s : Gateway) : EthernetOp → Option Gateway
  | .invalidate => some (s.endSession.ethernetGoto .invalidate)
  | .discard => some (s.ethernetGoto (.discard tcpResponseQueueDepth .loop))
  | .establish =>
      if s.tcpSessionActive = false then
        some (s.initTcpParser.ethernetGoto (.discard tcpResponseQueueDepth .activate))
      else none
  | .receive bytes => if s.tcpSessionActive then some (s.ethernetGoto (.feed bytes)) else none
  | .drain =>
      if s.tcpSessionActive then some (s.ethernetGoto (.drain tcpResponseQueueDepth)) else none
  | .drainTelemetry => some (s.ethernetGoto (.udp udpTelemetryDrainLimit))

/-- The next step of EthernetTask. `op` is the operation it begins between two operations and `hal`
    what `w5500_udp_send_frame` returns. -/
def ethernetStep (s : Gateway) (op : EthernetOp) (hal : HalStatus) : Option Gateway :=
  match s.ethernet with
  | .loop => s.ethernetBegin op
  | .invalidate =>
      some
        ({ s.initTcpParser with flags := { s.flags with tcpContextReset := true } }.ethernetGoto
          (.discard tcpResponseQueueDepth .loop))
  | .discard left caller =>
      match left, s.tcpResponseQueue with
      | 0, _ => some (s.returnDiscard caller)
      | _, [] => some (s.returnDiscard caller)
      | left + 1, response :: rest =>
          some
            ({ s with tcpResponseQueue := rest, tcpPong := response }.ethernetGoto
              (.discardCount left caller))
  | .discardCount left caller =>
      some
        ({ s with
            counts :=
              { s.counts with
                tcpStaleResponseDrop := s.counts.tcpStaleResponseDrop + 1 } }.ethernetGoto
          (.discard left caller))
  | .activate => some (s.beginSession.ethernetGoto .loop)
  | .feed [] => some (s.ethernetGoto .loop)
  | .feed (byte :: rest) => some (s.processTcpByte byte rest)
  | .put rest => some (s.countPing.putCommand rest)
  | .putCount true rest =>
      some
        ({ s with
            counts :=
              { s.counts with cmdEnqueueSuccess := s.counts.cmdEnqueueSuccess + 1 } }.ethernetGoto
          (.signal rest))
  | .putCount false rest =>
      some
        ({ s with
            counts := { s.counts with cmdEnqueueFail := s.counts.cmdEnqueueFail + 1 } }.ethernetGoto
          (.feed rest))
  | .signal rest =>
      some ({ s with flags := { s.flags with cmdReady := true } }.ethernetGoto (.feed rest))
  | .drain left =>
      match left, s.tcpResponseQueue with
      | 0, _ => some (s.ethernetGoto .loop)
      | _, [] => some (s.ethernetGoto .loop)
      | left + 1, response :: rest =>
          some
            ({ s with tcpResponseQueue := rest, tcpPong := response }.ethernetGoto
              (.drainCount left))
  | .drainCount left =>
      some
        ({ s with
            counts :=
              { s.counts with tcpResponseDequeue := s.counts.tcpResponseDequeue + 1 } }.ethernetGoto
          (.send left))
  | .send left =>
      match encodeFrame s.tcpPong.packet with
      | none => some (s.ethernetGoto (.drain left))
      | some frame => some ((s.noteTcpSend frame).ethernetGoto (.drain left))
  | .udp left =>
      match left, s.udpTelemetryQueue with
      | 0, _ => some (s.ethernetGoto .loop)
      | _, [] => some (s.ethernetGoto .loop)
      | left + 1, packet :: rest =>
          some
            ({ s with udpTelemetryQueue := rest, udpForwardPacket := packet }.ethernetGoto
              (.udpCount left))
  | .udpCount left =>
      some
        ({ s with
            counts :=
              { s.counts with
                udpTelemetryDequeue := s.counts.udpTelemetryDequeue + 1 } }.ethernetGoto
          (.udpForward left))
  | .udpForward left =>
      if s.udpForwardPacket.msgId ≠ msgTelemetry then some (s.ethernetGoto .loop)
      else
        match encodeFrame s.udpForwardPacket with
        | none => some (s.ethernetGoto .loop)
        | some frame =>
            some
              ((s.noteUdpSend frame).ethernetGoto (if hal = .ok then .udp left else .loop))

end Gateway

/-- What can happen next in the gateway. -/
inductive GatewayAction where
  | rs422 (hal : HalStatus) (late : Bool)
  | ethernet (op : EthernetOp) (hal : HalStatus)
  | uartRx (byte : UInt8)
  | uartError
  | uartTxDone
  deriving DecidableEq, Repr

/-- One step of the gateway. -/
def Gateway.step (s : Gateway) : GatewayAction → Option Gateway
  | .rs422 hal late => s.rs422Step hal late
  | .ethernet op hal => if s.rs422Blocked then s.ethernetStep op hal else none
  | .uartRx byte => some (s.uartRxCpltCallback byte)
  | .uartError => some s.uartErrorCallback
  | .uartTxDone => some s.uartTxCpltCallback

end Rs422Gateway
