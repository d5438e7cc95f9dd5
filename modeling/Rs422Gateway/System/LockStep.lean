import Rs422Gateway.Gateway.EthernetTask
import Rs422Gateway.RemoteNode.Node

/-!
# A client in lock-step

The gateway and the remote node wired together, with a client of the one TCP session that sends
zero-length PINGs, each after the PONG of the one before has arrived. The links lose nothing, the RX
ring does not overflow, every HAL call succeeds and no wait for the end of a transmission times out,
and the session stays. What is left open is the order of all steps, the chunks in which bytes move,
and when the remote node sends TELEMETRY and HEARTBEAT.
-/

namespace Rs422Gateway

/-- A frame without payload. -/
def emptyFrame (msgId : UInt8) (seq : UInt16) : List UInt8 :=
  (encodeFrame (filledPacket msgId seq [])).getD []

/-- The two firmwares, the bytes between them and the client. -/
structure System where
  gateway : Gateway
  node : RemoteNode
  /-- The bytes of the client that EthernetTask has not read yet. -/
  toTcp : List UInt8
  /-- The bytes on the line to the remote node. -/
  toNode : List UInt8
  /-- The bytes on the line to the gateway. -/
  toGateway : List UInt8
  /-- The SEQs of the PINGs sent by the client. -/
  sent : List UInt16
  /-- The bytes sent to the client. -/
  client : List UInt8
  /-- Those sent since its last PING. -/
  inbox : List UInt8

/-- What can happen next. -/
inductive SystemAction where
  /-- The client sends a PING. -/
  | ping (seq : UInt16)
  | rs422
  /-- EthernetTask begins `w5500_tcp_process_rx` and reads so many bytes. -/
  | receive (count : Nat)
  /-- Another step of EthernetTask. -/
  | ethernet (op : EthernetOp) (hal : HalStatus)
  /-- The next byte of the remote node arrives at the gateway. -/
  | uartRx
  | uartError
  | uartTxDone
  /-- The remote node processes a chunk, of one byte for each answer of `time_fn`. -/
  | node (nows : List UInt32)
  | periodic (now : UInt32)
  deriving DecidableEq, Repr

/-- The bytes of the frames a step has added to a list of frames. -/
def newBytes (before after : List (List UInt8)) : List UInt8 :=
  (after.drop before.length).flatten

namespace System

/-- The client has the PONG of its last PING. -/
def answered (s : System) : Bool :=
  match s.sent.getLast? with
  | none => true
  | some seq => decide (emptyFrame msgPong seq <:+: s.inbox)

/-- The gateway has taken a step: what it has transmitted is on the line to the remote node, and
    what it has sent on TCP has reached the client. -/
def advance (s : System) (gateway : Gateway) : System :=
  let reply := newBytes s.gateway.history.tcpFrames gateway.history.tcpFrames
  { s with
    gateway := gateway
    toNode := s.toNode ++ newBytes s.gateway.history.txFrames gateway.history.txFrames
    client := s.client ++ reply
    inbox := s.inbox ++ reply }

/-- The gateway takes a step. -/
def stepGateway (s : System) (a : GatewayAction) : Option System :=
  (s.gateway.step a).map s.advance

def step (s : System) : SystemAction → Option System
  | .ping seq =>
      if s.answered then
        some
          { s with
            toTcp := s.toTcp ++ emptyFrame msgPing seq
            sent := s.sent ++ [seq]
            inbox := [] }
      else none
  | .rs422 => s.stepGateway (.rs422 .ok false)
  | .receive count =>
      if s.gateway.ethernet = .loop then
        { s with toTcp := s.toTcp.drop count }.stepGateway
          (.ethernet (.receive (s.toTcp.take count)) .ok)
      else none
  | .ethernet op hal =>
      if op = .drain ∨ op = .drainTelemetry then s.stepGateway (.ethernet op hal) else none
  | .uartRx =>
      match s.toGateway with
      | [] => none
      | byte :: rest =>
          if s.gateway.rxRing.length < rs422RxRingCapacity then
            { s with toGateway := rest }.stepGateway (.uartRx byte)
          else none
  | .uartError => s.stepGateway .uartError
  | .uartTxDone => s.stepGateway .uartTxDone
  | .node nows =>
      let (node, frames) :=
        s.node.processBytes (List.zipWith (fun byte now => (byte, now, true)) s.toNode nows)
      some
        { s with
          node := node
          toNode := s.toNode.drop nows.length
          toGateway := s.toGateway ++ frames.flatten }
  | .periodic now =>
      let (node, frames) := s.node.processPeriodic now true true
      some { s with node := node, toGateway := s.toGateway ++ frames.flatten }

/-- All buffers and queues are drained. -/
structure Drained (s : System) : Prop where
  toTcp : s.toTcp = []
  toNode : s.toNode = []
  toGateway : s.toGateway = []
  rxRing : s.gateway.rxRing = []
  cmdQueue : s.gateway.cmdQueue = []
  tcpResponseQueue : s.gateway.tcpResponseQueue = []
  ethernet : s.gateway.ethernet = .loop
  rs422 : s.gateway.rs422.pc = .mainWait

instance (s : System) : Decidable s.Drained :=
  decidable_of_iff
    (s.toTcp = [] ∧ s.toNode = [] ∧ s.toGateway = [] ∧ s.gateway.rxRing = [] ∧
      s.gateway.cmdQueue = [] ∧ s.gateway.tcpResponseQueue = [] ∧ s.gateway.ethernet = .loop ∧
      s.gateway.rs422.pc = .mainWait)
    ⟨fun ⟨toTcp, toNode, toGateway, rxRing, cmdQueue, tcpResponseQueue, ethernet, rs422⟩ =>
        ⟨toTcp, toNode, toGateway, rxRing, cmdQueue, tcpResponseQueue, ethernet, rs422⟩,
      fun h => ⟨h.toTcp, h.toNode, h.toGateway, h.rxRing, h.cmdQueue, h.tcpResponseQueue,
        h.ethernet, h.rs422⟩⟩

end System

end Rs422Gateway
