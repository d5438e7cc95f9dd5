import Rs422Gateway.Gateway.Health
import Rs422Gateway.Gateway.TcpReceive

/-!
# The TCP server of EthernetTask

Rendering of `StartEthernetTask` (`main.c:3336-3947`) as far as socket 0 and the PHY link go: the
boot start, the control plane, the data plane, and `w5500_restart_tcp_server`,
`w5500_start_tcp_server`, `w5500_listen_tcp_server`, `w5500_wait_for_socket0_status` and
`w5500_socket0_execute_command`, access by access. What an SPI transaction returns is a parameter of
the step; a write that fails may still have reached the chip. Time passes, the chip executes the
command in Sn_CR, and the socket goes to another status between any two accesses.
`osThreadFlagsWait` may return at any time.

`w5500_read_version` and the network configuration are one step, and so is `w5500_tcp_process_rx` up
to the read of the RX buffer, which `Gateway/TcpReceive.lean` renders transaction by transaction.
Left out are the response queue and what is sent (`Gateway/EthernetTask.lean`), socket 1
(`Gateway/UdpSend.lean`), the diagnostics and the deadline statistics; none of them writes a
variable that is modelled here. SEND goes through Sn_CR too: it can only replace a command that
timed out, which is then never executed.
-/

namespace Rs422Gateway

/-! ## Socket 0 of the W5500 -/

/-! `W5500_SOCKET0_STATUS_*` (`main.c:119-129`). -/

namespace Socket0Status

def closed : UInt8 := 0x00
def init : UInt8 := 0x13
def listen : UInt8 := 0x14
def synSent : UInt8 := 0x15
def synRecv : UInt8 := 0x16
def established : UInt8 := 0x17
def finWait : UInt8 := 0x18
def closing : UInt8 := 0x1A
def timeWait : UInt8 := 0x1B
def closeWait : UInt8 := 0x1C
def lastAck : UInt8 := 0x1D

end Socket0Status

/-! `W5500_SOCKET0_*_COMMAND` (`main.c:111-114`); RECV is `recvCommand`. -/

def openCommand : UInt8 := 0x01
def listenCommand : UInt8 := 0x02
def disconCommand : UInt8 := 0x08
def closeCommand : UInt8 := 0x10

/-- Socket 0 as the server sees it. OPEN empties its RX buffer, so the bytes in there come from the
    connection established last. -/
structure ServerSocket where
  /-- Sn_SR. -/
  status : UInt8
  /-- Sn_CR. -/
  cr : UInt8
  /-- OPEN has been written since a connection was established last. -/
  opened : Bool
  /-- So has LISTEN. -/
  listened : Bool
  /-- How many connections have been established. -/
  connection : Nat

namespace ServerSocket

/-- Behind `w5500_hardware_reset`. -/
def initial : ServerSocket := ⟨Socket0Status.closed, 0, false, false, 0⟩

/-- A write to Sn_CR. -/
def writeCr (c : ServerSocket) (command : UInt8) : ServerSocket :=
  { c with
    cr := command
    opened := c.opened || command == openCommand
    listened := c.listened || command == listenCommand }

/-- The chip executes the command in Sn_CR. -/
def execute (c : ServerSocket) : ServerSocket :=
  { c with
    cr := 0
    status :=
      if c.cr = openCommand then Socket0Status.init
      else if c.cr = listenCommand then
        if c.status = Socket0Status.init then Socket0Status.listen else c.status
      else if c.cr = closeCommand then Socket0Status.closed
      else c.status }

/-- The socket goes to another status. It establishes a connection only after OPEN and LISTEN. -/
def goto (c : ServerSocket) (status : UInt8) : Option ServerSocket :=
  if status = Socket0Status.established ∧ c.status ≠ Socket0Status.established then
    if c.opened ∧ c.listened then
      some
        { c with
          status := status, opened := false, listened := false, connection := c.connection + 1 }
    else none
  else some { c with status := status }

end ServerSocket

/-- A byte of the RX buffer, with the connection it was received on. -/
structure ReceivedByte where
  connection : Nat
  value : UInt8
  deriving DecidableEq

/-! ## EthernetTask -/

/-- `W5500_PHY_POLL_PERIOD_MS` (`main.c:77`). -/
def phyPeriodTicks : UInt32 := rs422MsToKernelTicks 100
/-- `W5500_DATA_SERVICE_PERIOD_MS` (`main.c:78`). -/
def dataServicePeriodTicks : UInt32 := rs422MsToKernelTicks 1
/-- `W5500_SOCKET_STATE_TIMEOUT_MS` (`main.c:131`). -/
def socketStateTimeoutTicks : UInt32 := rs422MsToKernelTicks 1000
/-- `W5500_SOCKET_COMMAND_TIMEOUT_MS` (`main.c:140`). -/
def socketCommandTimeoutTicks : UInt32 := rs422MsToKernelTicks 100
/-- `W5500_TCP_TRANSIENT_TIMEOUT_MS` (`main.c:133`). -/
def tcpTransientTimeoutTicks : UInt32 := rs422MsToKernelTicks 3000
/-- `W5500_TCP_RECOVERY_RETRY_MS` (`main.c:134`). -/
def tcpRecoveryRetryTicks : UInt32 := rs422MsToKernelTicks 500

/-- `(int32_t)(now - deadline) >= 0`. -/
def tickReached (now deadline : UInt32) : Bool := decide ((now - deadline).toNat < 2 ^ 31)

/-- The loop that moves a deadline by whole periods until it is ahead (`main.c:3737-3741`,
    `3911-3915`). -/
def nextDeadline (deadline period now : UInt32) : UInt32 :=
  let first := deadline + period
  if tickReached now first then first + period * ((now - first) / period + 1) else first

/-- One turn of the loop: another period is added if the deadline is still behind. -/
theorem nextDeadline_eq {period : UInt32} (hpositive : 0 < period.toNat)
    (hsmall : period.toNat ≤ 2 ^ 31) (deadline now : UInt32) :
    nextDeadline deadline period now =
      if tickReached now (deadline + period) then nextDeadline (deadline + period) period now
      else deadline + period := by
  generalize hfirst : deadline + period = first
  have hahead : now - (first + period) = now - first - period := by grind
  unfold nextDeadline
  simp only [hfirst, hahead, tickReached]
  generalize now - first = late
  by_cases hlate : late.toNat < 2 ^ 31
  · simp only [hlate, decide_true, if_true]
    by_cases hmore : period.toNat ≤ late.toNat
    · have hrest : (late - period).toNat = late.toNat - period.toNat :=
        UInt32.toNat_sub_of_le _ _ hmore
      have hdiv : late / period = (late - period) / period + 1 := by
        apply UInt32.toNat.inj
        have hquot : late.toNat / period.toNat =
            (late.toNat - period.toNat) / period.toNat + 1 :=
          Nat.div_eq_sub_div hpositive hmore
        have hbound := Nat.div_le_self late.toNat period.toNat
        rw [UInt32.toNat_add, UInt32.toNat_div, UInt32.toNat_div, hrest, hquot]
        exact (Nat.mod_eq_of_lt (by omega)).symm
      have hreached : (late - period).toNat < 2 ^ 31 := by omega
      rw [hdiv]
      simp only [hreached, decide_true, if_true]
      grind
    · have hzero : late / period = 0 := by
        apply UInt32.toNat.inj
        rw [UInt32.toNat_div, Nat.div_eq_of_lt (Nat.lt_of_not_le hmore)]
        rfl
      have hahead : ¬ (late - period).toNat < 2 ^ 31 := by
        have hwrap : (late - period).toNat = 2 ^ 32 - period.toNat + late.toNat := by
          rw [UInt32.toNat_sub, Nat.mod_eq_of_lt (by omega)]
        omega
      rw [hzero]
      simp only [hahead, decide_false, Bool.false_eq_true, if_false]
      grind
  · simp only [hlate, decide_false, Bool.false_eq_true, if_false]

/-- Whose call of `w5500_restart_tcp_server`, `w5500_start_tcp_server` or `w5500_listen_tcp_server`
    in `StartEthernetTask` is running. -/
inductive ServerCaller where
  /-- The start at boot (`main.c:3446`). -/
  | boot
  /-- The restart behind a link loss (`main.c:3588-3589`). -/
  | recovery
  /-- The restart for `tcp_lifecycle_restart_pending` (`main.c:3616-3617`). -/
  | lifecycle
  /-- The start of a closed socket (`main.c:3675`). -/
  | closed
  /-- The LISTEN of an opened socket (`main.c:3695`). -/
  | init
  deriving DecidableEq

/-- The three functions, each with a command of its own. -/
inductive ServerFunction where
  | restart
  | start
  | listen
  deriving DecidableEq

/-- The command the function executes. -/
def ServerFunction.command : ServerFunction → UInt8
  | .restart => closeCommand
  | .start => openCommand
  | .listen => listenCommand

/-- The status it waits for. -/
def ServerFunction.expectedStatus : ServerFunction → UInt8
  | .restart => Socket0Status.closed
  | .start => Socket0Status.init
  | .listen => Socket0Status.listen

/-- A call of `w5500_socket0_execute_command`. -/
inductive CommandCall where
  | server (function : ServerFunction) (caller : ServerCaller)
  /-- DISCON in CLOSE_WAIT (`main.c:3647-3649`). -/
  | disconnect
  /-- RECV for a chunk in `w5500_tcp_process_rx` (`main.c:1327`). -/
  | receive (chunk : List ReceivedByte)
  deriving DecidableEq

def CommandCall.command : CommandCall → UInt8
  | .server function _ => function.command
  | .disconnect => disconCommand
  | .receive _ => recvCommand

/-- Where EthernetTask stands: each value is the access it makes next, or the code behind a call. -/
inductive TcpServerPc where
  /-- The version and the network configuration (`main.c:3419-3441`). -/
  | boot
  /-- The write of Sn_MR in `w5500_start_tcp_server`. -/
  | writeMode (caller : ServerCaller)
  /-- The write of Sn_PORT. -/
  | writePort (caller : ServerCaller)
  /-- The write of Sn_CR in `w5500_socket0_execute_command`. -/
  | writeCommand (call : CommandCall)
  /-- The loop that polls Sn_CR. -/
  | pollCommand (call : CommandCall) (startTick : UInt32)
  /-- The loop of `w5500_wait_for_socket0_status`. -/
  | pollStatus (function : ServerFunction) (caller : ServerCaller) (startTick : UInt32)
  /-- The code behind a call of one of the three functions. -/
  | returned (caller : ServerCaller) (status : HalStatus)
  /-- The code behind DISCON (`main.c:3650-3663`). -/
  | disconnected (status : HalStatus)
  /-- The initial values of the local variables (`main.c:3489-3499`). -/
  | enterLoop
  /-- The beginning of the loop (`main.c:3504-3512`). -/
  | loop
  /-- The read of PHYCFGR (`main.c:3516-3573`). -/
  | readPhy
  /-- The rest of the control plane (`main.c:3575-3735`). -/
  | control
  /-- Its next deadline (`main.c:3736-3741`). -/
  | controlDeadline
  /-- The read of Sn_SR in the data plane (`main.c:3775-3817`). -/
  | pollSocket
  /-- `w5500_tcp_process_rx` up to the read of the RX buffer (`main.c:1274-1310`). -/
  | receive
  /-- The write of Sn_RX_RD (`main.c:1312-1325`). -/
  | acknowledge (chunk : List ReceivedByte)
  /-- The loop that feeds the bytes of the chunk (`main.c:1333-1348`). -/
  | feed (chunk : List ReceivedByte)
  /-- The next deadline of the data plane (`main.c:3909-3916`). -/
  | dataDeadline
  /-- `osThreadFlagsWait` (`main.c:3931-3934`). -/
  | wait
  deriving DecidableEq

/-- What is recorded of the server: a command that the chip has accepted, or a status it was waiting
    for. -/
inductive ServerEvent where
  | accepted (command : UInt8)
  | reached (status : UInt8)
  deriving DecidableEq

/-- A complete CLOSE, OPEN and LISTEN. -/
def completeRestart : List ServerEvent :=
  [.accepted closeCommand, .reached Socket0Status.closed, .accepted openCommand,
    .reached Socket0Status.init, .accepted listenCommand, .reached Socket0Status.listen]

/-- A frame that was handed to `w5500_tcp_handle_valid_frame`. -/
structure HandedFrame where
  packet : ProtocolPacket
  /-- The bytes `g_tcp_parser` had been fed since it was initialised. -/
  bytes : List ReceivedByte

/-- EthernetTask and socket 0. From `tcpLifecycleRestartPending` on the fields are local variables
    of `StartEthernetTask`, and the last five are history, which no step depends on. -/
structure TcpServer where
  chip : ServerSocket
  /-- `osKernelGetTickCount`. -/
  now : UInt32
  pc : TcpServerPc
  netConfigOk : Bool
  netReadbackOk : Bool
  tcpInitOk : Bool
  tcpListenOk : Bool
  socket0Status : UInt8
  /-- `g_w5500_socket0_spi_status`, with `none` for its initial value -1. -/
  socket0SpiStatus : Option HalStatus
  linkUp : Bool
  linkDownCount : UInt32
  linkRecoveryCount : UInt32
  tcpRecoveryPending : Bool
  tcpRecoveryAttemptCount : UInt32
  tcpRecoverySuccessCount : UInt32
  tcpRecoveryFailCount : UInt32
  tcpSessionActive : Bool
  /-- `g_tcp_parser` with `g_tcp_received_packet`. -/
  receiver : StreamParser.Receiver
  tcpLifecycleRestartPending : Bool
  nextPhyTick : UInt32
  nextDataServiceTick : UInt32
  nextTcpRestartTick : UInt32
  socketStateEnterTick : UInt32
  phyLinkStateInitialized : Bool
  phyLinkWasEstablished : Bool
  previousLinkUp : Bool
  socketStateInitialized : Bool
  gracefulDisconnectPending : Bool
  previousSocketStatus : UInt8
  dataServiceDue : Bool
  /-- The PHY samples that were read without an error, the newest first. -/
  samples : List Bool
  /-- What the restarts behind a link loss returned, the newest first. -/
  recoveries : List HalStatus
  /-- What the server has done since the link changed last. -/
  log : List ServerEvent
  /-- What `g_tcp_parser` has been fed since it was initialised. -/
  fed : List ReceivedByte
  frames : List HandedFrame

/-- What can happen next. -/
inductive TcpServerAction where
  /-- Time passes. -/
  | tick (ticks : UInt32)
  /-- The chip executes the command in Sn_CR. -/
  | execute
  /-- The socket goes to another status. -/
  | socket (status : UInt8)
  /-- The version and the network configuration. -/
  | network (configOk readbackOk : Bool)
  /-- The next SPI transaction on socket 0. `taken` is whether the chip has seen a failed write. -/
  | spi (status : HalStatus) (taken : Bool)
  /-- The read of PHYCFGR. -/
  | phy (status : HalStatus) (up : Bool)
  /-- `w5500_tcp_process_rx` comes to its write of Sn_RX_RD with these bytes, or returns. -/
  | receive (bytes : Option (List UInt8))
  /-- The code up to the next access. -/
  | code
  deriving DecidableEq

namespace TcpServer

/-- EthernetTask begins, with what is left in the packet of `g_tcp_parser`'s caller
    (`main.c:3341-3415`). -/
def initial (packet : ProtocolPacket) (now : UInt32) : TcpServer where
  chip := .initial
  now := now
  pc := .boot
  netConfigOk := false
  netReadbackOk := false
  tcpInitOk := false
  tcpListenOk := false
  socket0Status := Socket0Status.closed
  socket0SpiStatus := none
  linkUp := false
  linkDownCount := 0
  linkRecoveryCount := 0
  tcpRecoveryPending := false
  tcpRecoveryAttemptCount := 0
  tcpRecoverySuccessCount := 0
  tcpRecoveryFailCount := 0
  tcpSessionActive := false
  receiver := ⟨.init, packet⟩
  tcpLifecycleRestartPending := false
  nextPhyTick := 0
  nextDataServiceTick := 0
  nextTcpRestartTick := 0
  socketStateEnterTick := 0
  phyLinkStateInitialized := false
  phyLinkWasEstablished := false
  previousLinkUp := false
  socketStateInitialized := false
  gracefulDisconnectPending := false
  previousSocketStatus := Socket0Status.closed
  dataServiceDue := false
  samples := []
  recoveries := []
  log := []
  fed := []
  frames := []

/-- EthernetTask goes on at `pc`. -/
def goto (s : TcpServer) (pc : TcpServerPc) : TcpServer := { s with pc := pc }

/-- `stream_parser_init(&g_tcp_parser)`. -/
def initParser (s : TcpServer) : TcpServer :=
  { s with receiver := ⟨.init, s.receiver.outPacket⟩, fed := [] }

/-- `w5500_tcp_invalidate_connection_context` (`main.c:1499-1512`). -/
def invalidateConnectionContext (s : TcpServer) : TcpServer :=
  { s.initParser with tcpSessionActive := false }

/-- `g_w5500_tcp_init_ok = 0u` and `g_w5500_tcp_listen_ok = 0u`. -/
def clearOk (s : TcpServer) : TcpServer := { s with tcpInitOk := false, tcpListenOk := false }

/-! ## The three functions -/

/-- `w5500_restart_tcp_server` is called (`main.c:1514-1518`). -/
def restartTcpServer (s : TcpServer) (caller : ServerCaller) : TcpServer :=
  s.clearOk.invalidateConnectionContext.goto (.writeCommand (.server .restart caller))

/-- `w5500_start_tcp_server` is called (`main.c:1411-1420`). -/
def startTcpServer (s : TcpServer) (caller : ServerCaller) : TcpServer :=
  s.clearOk.goto (.writeMode caller)

/-- `w5500_listen_tcp_server` is called (`main.c:1389-1391`). -/
def listenTcpServer (s : TcpServer) (caller : ServerCaller) : TcpServer :=
  s.goto (.writeCommand (.server .listen caller))

/-- The functions return, each to the one that called it, and store the status on their way. -/
def serverReturns (s : TcpServer) (caller : ServerCaller) (status : HalStatus) : TcpServer :=
  { s with socket0SpiStatus := some status, pc := .returned caller status }

/-- `w5500_socket0_execute_command` returns. -/
def commandReturns (s : TcpServer) (call : CommandCall) (status : HalStatus) : TcpServer :=
  match call with
  | .server function caller =>
      if status = .ok then
        { s with
          socket0SpiStatus := some .ok
          pc := .pollStatus function caller s.now
          log := s.log ++ [.accepted function.command] }
      else s.serverReturns caller status
  | .disconnect => s.goto (.disconnected status)
  | .receive chunk => s.goto (if status = .ok then .feed chunk else .dataDeadline)

/-- The status that the function waited for is there. -/
def statusReached (s : TcpServer) (function : ServerFunction) (caller : ServerCaller) : TcpServer :=
  let s := { s with log := s.log ++ [ServerEvent.reached function.expectedStatus] }
  match function with
  | .restart => s.startTcpServer caller
  | .start => { s with tcpInitOk := true }.listenTcpServer caller
  | .listen => { s with tcpListenOk := true }.serverReturns caller .ok

/-- A read of Sn_SR in `w5500_wait_for_socket0_status` (`main.c:1362-1385`). -/
def pollStatus (s : TcpServer) (function : ServerFunction) (caller : ServerCaller)
    (startTick : UInt32) (status : HalStatus) : TcpServer :=
  if status ≠ .ok then s.serverReturns caller status
  else
    let s := { s with socket0SpiStatus := some .ok, socket0Status := s.chip.status }
    if s.socket0Status = function.expectedStatus then s.statusReached function caller
    else if socketStateTimeoutTicks ≤ s.now - startTick then s.serverReturns caller .timeout
    else s

/-! ## The control plane -/

/-- A PHY sample (`main.c:3518-3571`). -/
def samplePhy (s : TcpServer) (up : Bool) : TcpServer :=
  let s := { s with linkUp := up, samples := up :: s.samples }
  if s.phyLinkStateInitialized = false then
    { s with
      phyLinkStateInitialized := true
      previousLinkUp := up
      phyLinkWasEstablished := s.phyLinkWasEstablished || up }
  else if up ≠ s.previousLinkUp then
    let s := { s with previousLinkUp := up, log := [] }
    if up = false then
      if s.phyLinkWasEstablished then
        { s with
          linkDownCount := s.linkDownCount + 1
          tcpRecoveryPending := true
          tcpLifecycleRestartPending := false
          gracefulDisconnectPending := false
          socketStateInitialized := false }.clearOk.invalidateConnectionContext
      else s
    else if s.phyLinkWasEstablished = false then
      { s with phyLinkWasEstablished := true, nextTcpRestartTick := s.now }
    else if s.tcpRecoveryPending then
      { s with linkRecoveryCount := s.linkRecoveryCount + 1, nextTcpRestartTick := s.now }
    else s
  else s

/-- `tcp_lifecycle_restart_pending = 1u` in the control plane, for a restart at once. -/
def giveUp (s : TcpServer) : TcpServer :=
  { s with
    tcpLifecycleRestartPending := true
    nextTcpRestartTick := s.now
    gracefulDisconnectPending := false }

/-- The server has restarted, and so the socket is in LISTEN from now on. -/
def listening (s : TcpServer) : TcpServer :=
  { s with
    gracefulDisconnectPending := false
    socketStateInitialized := true
    previousSocketStatus := Socket0Status.listen
    socketStateEnterTick := s.now }

/-- The restart has failed. The next one is due after a while. -/
def retryLater (s : TcpServer) : TcpServer :=
  { s with nextTcpRestartTick := s.now + tcpRecoveryRetryTicks, socketStateInitialized := false }

/-- `w5500_tcp_is_transient_state` (`main.c:1539-1553`). -/
def isTransientState (status : UInt8) : Bool :=
  status == Socket0Status.synSent || status == Socket0Status.synRecv ||
    status == Socket0Status.finWait || status == Socket0Status.closing ||
    status == Socket0Status.timeWait || status == Socket0Status.lastAck

/-- The time of a transient status has run out. -/
def transientTimeout (s : TcpServer) : Bool :=
  decide (tcpTransientTimeoutTicks ≤ s.now - s.socketStateEnterTick)

/-- The switch over the status that was read last (`main.c:3637-3733`). -/
def superviseSocket (s : TcpServer) : TcpServer :=
  if s.socket0Status = Socket0Status.established then
    { s with gracefulDisconnectPending := false, pc := .controlDeadline }
  else if s.socket0Status = Socket0Status.closeWait then
    if s.gracefulDisconnectPending = false then s.clearOk.goto (.writeCommand .disconnect)
    else if s.transientTimeout then s.giveUp.goto .controlDeadline
    else s.goto .controlDeadline
  else if s.socket0Status = Socket0Status.closed then s.startTcpServer .closed
  else if s.socket0Status = Socket0Status.init then
    { s with tcpListenOk := false }.listenTcpServer .init
  else if s.socket0Status = Socket0Status.listen then
    { s with
      tcpInitOk := true
      tcpListenOk := true
      gracefulDisconnectPending := false
      pc := .controlDeadline }
  else if isTransientState s.socket0Status = false ∨ s.transientTimeout then
    s.clearOk.giveUp.goto .controlDeadline
  else s.goto .controlDeadline

/-- The control plane behind the PHY sample (`main.c:3575-3735`). -/
def control (s : TcpServer) : TcpServer :=
  if s.netConfigOk ∧ s.netReadbackOk ∧ s.socket0SpiStatus = some .ok ∧ s.linkUp then
    if s.tcpRecoveryPending then
      if tickReached s.now s.nextTcpRestartTick then
        { s with tcpRecoveryAttemptCount := s.tcpRecoveryAttemptCount + 1 }.restartTcpServer
          .recovery
      else s.goto .controlDeadline
    else if s.tcpLifecycleRestartPending then
      if tickReached s.now s.nextTcpRestartTick then s.restartTcpServer .lifecycle
      else s.goto .controlDeadline
    else s.superviseSocket
  else s.goto .controlDeadline

/-- The code behind a call of one of the three functions (`main.c:3446-3449`, `3591-3610`,
    `3619-3633`, `3675-3690`, `3695-3711`). -/
def afterServer (s : TcpServer) (caller : ServerCaller) (status : HalStatus) : TcpServer :=
  match caller with
  | .boot =>
      { s with
        tcpLifecycleRestartPending := s.tcpLifecycleRestartPending || status != .ok
        pc := .enterLoop }
  | .recovery =>
      let s := { s with recoveries := status :: s.recoveries }
      goto
        (if status = .ok then
          { s with
            tcpRecoveryPending := false
            tcpRecoverySuccessCount := s.tcpRecoverySuccessCount + 1
            tcpLifecycleRestartPending := false }.listening
        else { s with tcpRecoveryFailCount := s.tcpRecoveryFailCount + 1 }.retryLater)
        .controlDeadline
  | .lifecycle =>
      goto
        (if status = .ok then { s with tcpLifecycleRestartPending := false }.listening
        else s.retryLater)
        .controlDeadline
  | .closed =>
      goto
        (if status = .ok then s.listening
        else { s with tcpLifecycleRestartPending := true }.retryLater)
        .controlDeadline
  | .init =>
      goto
        (if status = .ok then { s with tcpInitOk := true }.listening
        else { s with tcpLifecycleRestartPending := true }.retryLater)
        .controlDeadline

/-- The code behind DISCON. -/
def afterDisconnect (s : TcpServer) (status : HalStatus) : TcpServer :=
  if status = .ok then
    { s with
      socket0SpiStatus := some status
      gracefulDisconnectPending := true
      socketStateEnterTick := s.now
      pc := .controlDeadline }
  else
    { s with
      socket0SpiStatus := some status
      tcpLifecycleRestartPending := true
      nextTcpRestartTick := s.now + tcpRecoveryRetryTicks
      pc := .controlDeadline }

/-! ## The data plane -/

/-- The test in front of `w5500_tcp_process_rx` (`main.c:3819-3829`). -/
def serve (s : TcpServer) : TcpServer :=
  s.goto
    (if s.dataServiceDue ∧ s.linkUp ∧ s.tcpSessionActive ∧
        s.socket0Status = Socket0Status.established then .receive
    else .dataDeadline)

/-- The data plane begins (`main.c:3775-3778`). -/
def dataPlane (s : TcpServer) : TcpServer :=
  if s.dataServiceDue ∧ s.netConfigOk ∧ s.netReadbackOk ∧ s.linkUp then s.goto .pollSocket
  else s.serve

/-- The status of the socket has changed (`main.c:3791-3797`). -/
def enterStatus (s : TcpServer) : TcpServer :=
  if s.socketStateInitialized = false ∨ s.socket0Status ≠ s.previousSocketStatus then
    { s with
      socketStateInitialized := true
      previousSocketStatus := s.socket0Status
      socketStateEnterTick := s.now }
  else s

/-- The status that the data plane has read (`main.c:3786-3816`). -/
def socketPolled (s : TcpServer) : TcpServer :=
  let s := { s with socket0Status := s.chip.status }.enterStatus
  if s.socket0Status = Socket0Status.established then
    let s := { s with gracefulDisconnectPending := false }
    if s.tcpSessionActive = false then { s.initParser with tcpSessionActive := true } else s
  else if s.tcpSessionActive then s.clearOk.invalidateConnectionContext
  else s

/-- A byte for `g_tcp_parser` (`main.c:1336-1347`). -/
def feedByte (s : TcpServer) (byte : ReceivedByte) : TcpServer :=
  let fed := s.fed ++ [byte]
  let receiver := s.receiver.feed byte.value
  { s with
    receiver := receiver
    fed := fed
    frames :=
      if (s.receiver.output byte.value).event = .frame then
        s.frames ++ [⟨receiver.outPacket, fed⟩]
      else s.frames }

/-! ## Steps -/

/-- A write to Sn_CR that may have failed. -/
def writeCommand (s : TcpServer) (call : CommandCall) (status : HalStatus) (taken : Bool) :
    TcpServer :=
  let chip := if status = .ok ∨ taken then s.chip.writeCr call.command else s.chip
  if status = .ok then { s with chip := chip, pc := .pollCommand call s.now }
  else { s with chip := chip }.commandReturns call status

/-- A read of Sn_CR (`main.c:828-847`). -/
def pollCommand (s : TcpServer) (call : CommandCall) (startTick : UInt32) (status : HalStatus) :
    TcpServer :=
  if status ≠ .ok then s.commandReturns call status
  else if s.chip.cr = 0 then s.commandReturns call .ok
  else if socketCommandTimeoutTicks ≤ s.now - startTick then s.commandReturns call .timeout
  else s

/-- An SPI transaction on socket 0. -/
def spiStep (s : TcpServer) (status : HalStatus) (taken : Bool) : Option TcpServer :=
  match s.pc with
  | .writeMode caller =>
      some
        (if status = .ok then { s with socket0SpiStatus := some .ok }.goto (.writePort caller)
        else s.serverReturns caller status)
  | .writePort caller =>
      some
        (if status = .ok then
          { s with socket0SpiStatus := some .ok }.goto (.writeCommand (.server .start caller))
        else s.serverReturns caller status)
  | .writeCommand call => some (s.writeCommand call status taken)
  | .pollCommand call startTick => some (s.pollCommand call startTick status)
  | .pollStatus function caller startTick => some (s.pollStatus function caller startTick status)
  | .pollSocket =>
      let s := { s with socket0SpiStatus := some status }
      some (if status = .ok then s.socketPolled.serve else s.serve)
  | .acknowledge chunk =>
      some (s.goto (if status = .ok then .writeCommand (.receive chunk) else .dataDeadline))
  | _ => none

/-- The code between two accesses. -/
def codeStep (s : TcpServer) : Option TcpServer :=
  match s.pc with
  | .returned caller status => some (s.afterServer caller status)
  | .disconnected status => some (s.afterDisconnect status)
  | .enterLoop =>
      some
        { s with
          nextPhyTick := s.now
          nextDataServiceTick := s.now
          nextTcpRestartTick := s.now
          socketStateEnterTick := s.now
          pc := .loop }
  | .loop =>
      let s := { s with dataServiceDue := tickReached s.now s.nextDataServiceTick }
      some (if tickReached s.now s.nextPhyTick then s.goto .readPhy else s.dataPlane)
  | .control => some s.control
  | .controlDeadline =>
      some { s with nextPhyTick := nextDeadline s.nextPhyTick phyPeriodTicks s.now }.dataPlane
  | .feed [] => some (s.goto .dataDeadline)
  | .feed (byte :: rest) => some ((s.feedByte byte).goto (.feed rest))
  | .dataDeadline =>
      some
        { s with
          nextDataServiceTick :=
            if s.dataServiceDue then
              nextDeadline s.nextDataServiceTick dataServicePeriodTicks s.now
            else s.nextDataServiceTick
          pc := .wait }
  | .wait => some (s.goto .loop)
  | _ => none

/-- One step. -/
def step (s : TcpServer) : TcpServerAction → Option TcpServer
  | .tick ticks => some { s with now := s.now + ticks }
  | .execute => some { s with chip := s.chip.execute }
  | .socket status => (s.chip.goto status).map fun chip => { s with chip := chip }
  | .network configOk readbackOk =>
      if s.pc = .boot then
        let s := { s with netConfigOk := configOk, netReadbackOk := configOk && readbackOk }
        some (if s.netReadbackOk then s.startTcpServer .boot else s.goto .enterLoop)
      else none
  | .spi status taken => s.spiStep status taken
  | .phy status up =>
      if s.pc = .readPhy then
        some ((if status = .ok then s.samplePhy up else s).goto .control)
      else none
  | .receive bytes =>
      if s.pc = .receive then
        some
          (s.goto
            (match bytes with
            | some bytes => .acknowledge (bytes.map (ReceivedByte.mk s.chip.connection))
            | none => .dataDeadline))
      else none
  | .code => s.codeStep

end TcpServer

end Rs422Gateway
