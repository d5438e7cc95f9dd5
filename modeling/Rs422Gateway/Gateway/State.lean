import Rs422Gateway.Common.StreamParser

/-!
# The gateway's shared variables

The variables of `main.c` that carry frames between TCP, RS-422 and UDP, with the three message
queues, the event flags of RS422Task and the places of RS422Task and EthernetTask. A flag variable
that only holds `0u` and `1u` is a `Bool`, a queue is the list of its entries, and the RX ring is
the list of the bytes in it. The three queues exist (`g_gateway_queue_init_ok`), and so do the
task handles. Statistics that no code reads and the diagnostic times are left out, except the
counters of the three queues.

`History` holds what the code does not keep: which bytes and frames went where, and to which TCP
session a request belongs. No step depends on it.
-/

namespace Rs422Gateway

/-! Sizes (`main.c:62-69`, `136`, `173`). -/

abbrev rs422RxRingCapacity : Nat := 512
abbrev rs422CmdQueueDepth : Nat := 8
abbrev tcpResponseQueueDepth : Nat := 8
abbrev udpTelemetryQueueDepth : Nat := 4
abbrev rs422BringupTestCount : Nat := 100
abbrev udpTelemetryDrainLimit : Nat := 2

/-- `HAL_StatusTypeDef`. -/
inductive HalStatus where
  | ok
  | error
  | busy
  | timeout
  deriving DecidableEq, Repr

/-- The pending event flags of RS422Task (`main.c:54-57`). -/
structure Rs422Flags where
  rx : Bool
  txDone : Bool
  cmdReady : Bool
  tcpContextReset : Bool
  deriving DecidableEq

def Rs422Flags.none : Rs422Flags := ⟨false, false, false, false⟩

/-- A flag of `RS422_EVENT_MASK` is pending. -/
def Rs422Flags.any (f : Rs422Flags) : Bool :=
  f.rx || f.txDone || f.cmdReady || f.tcpContextReset

/-- A packet from TCP, with the TCP session in which it was put on `rs422_cmd_queue`. -/
structure Command where
  packet : ProtocolPacket
  session : Nat

/-- A packet for TCP, with the command it was matched with. -/
structure Response where
  packet : ProtocolPacket
  request : Command

/-! ## RS422Task -/

/-- The callers of `rs422_process_rx_buffer`. -/
inductive RxCaller where
  /-- The loop of `rs422_wait_for_tx_complete` (`main.c:2527-2528`). -/
  | txLoop
  /-- Its last call, once the transmission is over (`main.c:2548-2549`). -/
  | txDone
  /-- The PONG loop of `rs422_ping_bringup_test` (`main.c:2662`). -/
  | pongLoop
  /-- The main loop (`main.c:3297`, `3308`). -/
  | main
  deriving DecidableEq, Repr

/-- The callers of `rs422_wait_for_tx_complete`. -/
inductive TxCaller where
  | bringup
  | forward
  deriving DecidableEq, Repr

/-- Where RS422Task stands. -/
inductive Rs422Pc where
  /-- `HAL_UART_Receive_IT` (`main.c:3282`). -/
  | start
  /-- `rs422_ping_bringup_test`, up to the clearing of TX_DONE (`main.c:2594-2620`). -/
  | bringup
  /-- `HAL_UART_Transmit_IT` of the test (`main.c:2622-2642`). -/
  | bringupTransmit
  /-- The head of the loop of `rs422_wait_for_tx_complete` (`main.c:2525`). -/
  | waitTx
  /-- `rs422_process_rx_buffer`, before it takes a byte. -/
  | rx (caller : RxCaller)
  /-- The first `osThreadFlagsWait` of `rs422_wait_for_tx_complete`, without a timeout. -/
  | pollFlags
  /-- The tests behind it (`main.c:2546-2560`). -/
  | checkBusy
  /-- Its second `osThreadFlagsWait` (`main.c:2562-2580`). -/
  | waitFlags
  /-- The head of the PONG loop (`main.c:2659`). -/
  | pongLoop
  /-- The second look at the clock in it (`main.c:2667-2673`). -/
  | pongElapsed
  /-- Its `osThreadFlagsWait` (`main.c:2677-2693`). -/
  | pongWait
  /-- The end of a test in `rs422_ping_bringup_run` (`main.c:2718-2731`). -/
  | testDone
  /-- `HAL_Delay`, which keeps the processor. -/
  | delay
  /-- `g_rs422_telemetry_forwarding_enabled = 1u` (`main.c:3292`). -/
  | enable
  /-- `osMessageQueueGet` of the main loop (`main.c:3299-3306`). -/
  | dequeue
  /-- `rs422_forward_packet`, up to the clearing of TX_DONE (`main.c:2750-2778`). -/
  | forward
  /-- The pending slot (`main.c:2780-2786`). -/
  | forwardPending
  /-- `HAL_UART_Transmit_IT` (`main.c:2788-2813`). -/
  | forwardTransmit
  /-- `osThreadFlagsWait` of the main loop (`main.c:3311-3323`). -/
  | mainWait
  deriving DecidableEq, Repr

/-- RS422Task: its place and its local variables. -/
structure Rs422Task where
  pc : Rs422Pc
  /-- `test_index`. -/
  testIndex : Nat
  txCaller : TxCaller
  /-- `expected_pong_sequence` of the calls with `match_pong` set. -/
  expectedPongSequence : UInt16
  /-- `matching_pong_received` of the caller. -/
  matchingPongReceived : Bool
  /-- `matching_pong_received` of `rs422_process_rx_buffer`. -/
  rxMatchingPongReceived : Bool
  deriving DecidableEq

/-! ## EthernetTask -/

/-- Where `w5500_tcp_discard_stale_responses` returns to. -/
inductive DiscardCaller where
  | loop
  | activate
  deriving DecidableEq, Repr

/-- Where EthernetTask stands. `left` counts the turns of a loop that are left, `bytes` are the
    bytes of `g_w5500_tcp_rx_chunk` that are not fed yet. -/
inductive EthernetPc where
  /-- Between two operations. -/
  | loop
  /-- `w5500_tcp_invalidate_connection_context`, after the session is inactive
      (`main.c:1502-1509`). -/
  | invalidate
  /-- The loop of `w5500_tcp_discard_stale_responses`. -/
  | discard (left : Nat) (caller : DiscardCaller)
  | discardCount (left : Nat) (caller : DiscardCaller)
  /-- `g_w5500_tcp_session_active = 1u` (`main.c:3808`). -/
  | activate
  /-- The loop of `w5500_tcp_process_rx` (`main.c:1334-1348`). -/
  | feed (bytes : List UInt8)
  /-- `osMessageQueuePut` of `w5500_tcp_handle_valid_frame`. -/
  | put (bytes : List UInt8)
  | putCount (success : Bool) (bytes : List UInt8)
  /-- `osThreadFlagsSet` for CMD_READY. -/
  | signal (bytes : List UInt8)
  /-- The loop of `w5500_tcp_drain_response_queue`. -/
  | drain (left : Nat)
  | drainCount (left : Nat)
  /-- `w5500_tcp_send_response_packet`. -/
  | send (left : Nat)
  /-- The loop that drains `udp_telemetry_queue` (`main.c:3857-3876`). -/
  | udp (left : Nat)
  | udpCount (left : Nat)
  /-- `w5500_udp_forward_packet`. -/
  | udpForward (left : Nat)
  deriving DecidableEq, Repr

/-! ## Counters and history -/

/-- The counters of the requests, the queues and the PONGs (`main.c:229-240`, `344`). -/
structure GatewayCounts where
  tcpPing : UInt32
  cmdEnqueueSuccess : UInt32
  cmdEnqueueFail : UInt32
  cmdDequeue : UInt32
  forwardedPongRx : UInt32
  tcpResponseEnqueueSuccess : UInt32
  tcpResponseEnqueueFail : UInt32
  tcpResponseDequeue : UInt32
  tcpStaleResponseDrop : UInt32
  udpTelemetryEnqueueSuccess : UInt32
  udpTelemetryEnqueueFail : UInt32
  udpTelemetryDequeue : UInt32
  deriving DecidableEq

def GatewayCounts.zero : GatewayCounts := ⟨0, 0, 0, 0, 0, 0, 0, 0, 0, 0, 0, 0⟩

/-- What has happened so far. -/
structure History where
  /-- The number of TCP sessions begun. -/
  session : Nat
  /-- The bytes fed to `g_tcp_parser` since it was last initialised. -/
  tcpBytes : List UInt8
  /-- The bytes fed to `g_rs422_parser`. -/
  rs422Bytes : List UInt8
  /-- The valid PING frames parsed from TCP, byte for byte. -/
  pingFrames : List (List UInt8)
  /-- The valid PONG frames parsed from RS-422. -/
  pongFrames : List (List UInt8)
  /-- The valid TELEMETRY frames parsed from RS-422. -/
  telemetryFrames : List (List UInt8)
  /-- The frames `rs422_forward_packet` passed to `HAL_UART_Transmit_IT`. -/
  txFrames : List (List UInt8)
  /-- The frames passed to `w5500_tcp_send_frame`. -/
  tcpFrames : List (List UInt8)
  /-- The frames passed to `w5500_udp_send_frame`. -/
  udpFrames : List (List UInt8)
  /-- The commands put on `rs422_cmd_queue`. -/
  queued : List Command
  /-- The command the pending slot was taken for. -/
  pendingRequest : Command
  /-- The responses passed to `w5500_tcp_send_response_packet`, each with the TCP session then. -/
  responses : List (Nat × Response)
  /-- The SEQ of the PING that `rs422_forward_packet` is forwarding for the present session, as long
      as it is not answered. -/
  inFlight : Option UInt16
  /-- The SEQs of the PINGs successfully forwarded in the present session and not yet answered. -/
  unanswered : List UInt16

def History.empty : History :=
  ⟨0, [], [], [], [], [], [], [], [], [], ⟨.zero, 0⟩, [], none, []⟩

/-! ## The gateway -/

/-- The state of the gateway. -/
structure Gateway where
  /-- `g_rs422_rx_ring` between tail and head. -/
  rxRing : List UInt8
  flags : Rs422Flags
  rs422Parser : StreamParser
  rs422ReceivedPacket : ProtocolPacket
  /-- `g_rs422_command_packet`. -/
  rs422Command : Command
  /-- The bytes of `g_rs422_tx_frame` up to `tx_frame_length`. -/
  rs422TxFrame : List UInt8
  rs422TxBusy : Bool
  telemetryForwardingEnabled : Bool
  tcpPingPending : Bool
  tcpPingPendingSeq : UInt16
  cmdQueue : List Command
  tcpResponseQueue : List Response
  udpTelemetryQueue : List ProtocolPacket
  tcpSessionActive : Bool
  tcpParser : StreamParser
  tcpReceivedPacket : ProtocolPacket
  /-- `g_tcp_pong_packet`. -/
  tcpPong : Response
  udpForwardPacket : ProtocolPacket
  counts : GatewayCounts
  rs422 : Rs422Task
  ethernet : EthernetPc
  history : History

/-- The tasks have made their first assignments and nothing has been received yet
    (`main.c:3248-3280`, `3343-3399`). -/
def Gateway.initial : Gateway where
  rxRing := []
  flags := .none
  rs422Parser := .init
  rs422ReceivedPacket := .zero
  rs422Command := ⟨.zero, 0⟩
  rs422TxFrame := []
  rs422TxBusy := false
  telemetryForwardingEnabled := false
  tcpPingPending := false
  tcpPingPendingSeq := 0
  cmdQueue := []
  tcpResponseQueue := []
  udpTelemetryQueue := []
  tcpSessionActive := false
  tcpParser := .init
  tcpReceivedPacket := .zero
  tcpPong := ⟨.zero, .zero, 0⟩
  udpForwardPacket := .zero
  counts := .zero
  rs422 := ⟨.start, 0, .bringup, 0, false, false⟩
  ethernet := .loop
  history := .empty

end Rs422Gateway
