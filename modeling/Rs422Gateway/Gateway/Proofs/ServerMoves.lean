import Rs422Gateway.Gateway.TcpServer

/-!
# What the control plane and the data plane may do

The functions with many branches, told by their outcomes. What an outcome does not need to say is
left open.
-/

namespace Rs422Gateway

/-- The actions with which a call of `w5500_start_tcp_server` succeeds. -/
def serverStarts : List TcpServerAction :=
  [.spi .ok true, .spi .ok true, .spi .ok true, .execute, .spi .ok true, .spi .ok true,
    .spi .ok true, .execute, .spi .ok true, .spi .ok true, .code]

namespace ServerSocket

/-- No command of the server establishes a connection. -/
theorem execute_status (c : ServerSocket) :
    c.execute.status = c.status ∨ c.execute.status ≠ Socket0Status.established := by
  have hinit : Socket0Status.init ≠ Socket0Status.established := by decide
  have hlisten : Socket0Status.listen ≠ Socket0Status.established := by decide
  have hclosed : Socket0Status.closed ≠ Socket0Status.established := by decide
  unfold execute
  split
  · exact .inr hinit
  · split
    · split
      · exact .inr hlisten
      · exact .inl rfl
    · split
      · exact .inr hclosed
      · exact .inl rfl

end ServerSocket

namespace TcpServer

variable (s : TcpServer)

/-- A write of a command: the chip has seen it or not; EthernetTask polls Sn_CR or has failed. -/
theorem writeCommand_cases (call : CommandCall) (status : HalStatus) (taken : Bool) :
    status = .ok ∧
      s.writeCommand call status taken =
        { s with chip := s.chip.writeCr call.command }.goto (.pollCommand call s.now) ∨
    ∃ chip, (chip = s.chip.writeCr call.command ∨ chip = s.chip) ∧ status ≠ .ok ∧
      s.writeCommand call status taken = { s with chip := chip }.commandReturns call status := by
  unfold writeCommand
  by_cases hstatus : status = .ok
  · simp only [hstatus, true_or, if_true]
    exact .inl ⟨trivial, rfl⟩
  · refine .inr ⟨if taken then s.chip.writeCr call.command else s.chip, ?_, hstatus, ?_⟩
    · cases taken with
      | true => exact .inl rfl
      | false => exact .inr rfl
    · simp only [hstatus, false_or, if_false]

/-- A read of Sn_CR: the wait goes on or the call returns, with HAL_OK only behind the command. -/
theorem pollCommand_cases (call : CommandCall) (startTick : UInt32) (status : HalStatus) :
    s.pollCommand call startTick status = s ∨
    ∃ result, (result = .ok → s.chip.cr = 0) ∧
      s.pollCommand call startTick status = s.commandReturns call result := by
  unfold pollCommand
  split
  case isTrue hstatus => exact .inr ⟨status, fun hok => absurd hok hstatus, rfl⟩
  case isFalse =>
    split
    case isTrue hidle => exact .inr ⟨.ok, fun _ => hidle, rfl⟩
    case isFalse =>
      split
      case isTrue => exact .inr ⟨.timeout, nofun, rfl⟩
      case isFalse => exact .inl rfl

/-- A read of Sn_SR: it fails, or the status is there, the time is over, or the wait goes on. -/
theorem pollStatus_cases (function : ServerFunction) (caller : ServerCaller) (startTick : UInt32)
    (status : HalStatus) :
    status ≠ .ok ∧
      s.pollStatus function caller startTick status = s.serverReturns caller status ∨
    ∃ t : TcpServer,
      t = { s with socket0SpiStatus := some .ok, socket0Status := s.chip.status } ∧
      (s.chip.status = function.expectedStatus ∧
          s.pollStatus function caller startTick status = t.statusReached function caller ∨
        s.pollStatus function caller startTick status = t.serverReturns caller .timeout ∨
        s.pollStatus function caller startTick status = t) := by
  unfold pollStatus
  split
  case isTrue hstatus => exact .inl ⟨hstatus, rfl⟩
  case isFalse =>
    refine .inr ⟨_, rfl, ?_⟩
    dsimp only
    split
    case isTrue hreached => exact .inl ⟨hreached, rfl⟩
    case isFalse =>
      split
      case isTrue => exact .inr (.inl rfl)
      case isFalse => exact .inr (.inr rfl)

/-- The control plane waits, restarts the server for the link or for its lifecycle, or looks at the
    socket. -/
theorem control_cases :
    s.control = s.goto .controlDeadline ∨
    (s.tcpRecoveryPending = true ∧ s.linkUp = true ∧
      s.control =
        { s with tcpRecoveryAttemptCount := s.tcpRecoveryAttemptCount + 1 }.restartTcpServer
          .recovery) ∨
    (s.tcpRecoveryPending = false ∧ s.tcpLifecycleRestartPending = true ∧
      s.control = s.restartTcpServer .lifecycle) ∨
    (s.tcpRecoveryPending = false ∧ s.tcpLifecycleRestartPending = false ∧
      s.control = s.superviseSocket) := by
  unfold control
  by_cases hready : s.netConfigOk ∧ s.netReadbackOk ∧ s.socket0SpiStatus = some .ok ∧ s.linkUp
  · rw [if_pos hready]
    obtain ⟨-, -, -, hup⟩ := hready
    cases hrecovery : s.tcpRecoveryPending with
    | true =>
      by_cases hdue : tickReached s.now s.nextTcpRestartTick
      · exact .inr (.inl ⟨rfl, hup, by rw [if_pos rfl, if_pos hdue]⟩)
      · exact .inl (by rw [if_pos rfl, if_neg hdue])
    | false =>
      rw [if_neg Bool.false_ne_true]
      cases hlifecycle : s.tcpLifecycleRestartPending with
      | true =>
        by_cases hdue : tickReached s.now s.nextTcpRestartTick
        · exact .inr (.inr (.inl ⟨rfl, rfl, by rw [if_pos rfl, if_pos hdue]⟩))
        · exact .inl (by rw [if_pos rfl, if_neg hdue])
      | false => exact .inr (.inr (.inr ⟨rfl, rfl, by rw [if_neg Bool.false_ne_true]⟩))
  · exact .inl (if_neg hready)

/-- The switch over the status leaves the socket alone, gives up on it, or goes on with the command
    that the status calls for. -/
theorem superviseSocket_cases :
    (∃ initOk listenOk graceful,
      s.superviseSocket =
        { s with
          tcpInitOk := initOk
          tcpListenOk := listenOk
          gracefulDisconnectPending := graceful
          pc := .controlDeadline }) ∨
    (∃ initOk listenOk,
      s.superviseSocket =
        { s.giveUp with tcpInitOk := initOk, tcpListenOk := listenOk, pc := .controlDeadline } ∧
      s.socket0Status ≠ Socket0Status.established ∧ s.socket0Status ≠ Socket0Status.listen ∧
      (s.socket0Status = Socket0Status.synRecv → s.transientTimeout = true)) ∨
    (s.socket0Status = Socket0Status.closeWait ∧
      s.superviseSocket = s.clearOk.goto (.writeCommand .disconnect)) ∨
    (s.socket0Status = Socket0Status.closed ∧ s.superviseSocket = s.startTcpServer .closed) ∨
    (s.socket0Status = Socket0Status.init ∧
      s.superviseSocket = { s with tcpListenOk := false }.listenTcpServer .init) := by
  unfold superviseSocket
  split
  case isTrue => exact .inl ⟨_, _, _, rfl⟩
  case isFalse hestablished =>
    split
    case isTrue hcloseWait =>
      split
      case isTrue => exact .inr (.inr (.inl ⟨hcloseWait, rfl⟩))
      case isFalse =>
        split
        case isTrue =>
          refine .inr (.inl ⟨_, _, rfl, hestablished, ?_, ?_⟩)
          · rw [hcloseWait]
            decide
          · intro hsynRecv
            rw [hcloseWait] at hsynRecv
            exact absurd hsynRecv (by decide)
        case isFalse => exact .inl ⟨_, _, _, rfl⟩
    case isFalse =>
      split
      case isTrue hclosed => exact .inr (.inr (.inr (.inl ⟨hclosed, rfl⟩)))
      case isFalse =>
        split
        case isTrue hinit => exact .inr (.inr (.inr (.inr ⟨hinit, rfl⟩)))
        case isFalse =>
          split
          case isTrue => exact .inl ⟨_, _, _, rfl⟩
          case isFalse hlisten =>
            split
            case isTrue hgone =>
              refine .inr (.inl ⟨_, _, rfl, hestablished, hlisten, ?_⟩)
              intro hsynRecv
              rw [hsynRecv] at hgone
              exact hgone.resolve_left (by decide)
            case isFalse => exact .inl ⟨_, _, _, rfl⟩

/-- The data plane takes the status over. -/
theorem enterStatus_eq :
    ∃ initialized previous enterTick,
      s.enterStatus =
        { s with
          socketStateInitialized := initialized
          previousSocketStatus := previous
          socketStateEnterTick := enterTick } := by
  unfold enterStatus
  split
  · exact ⟨_, _, _, rfl⟩
  · exact ⟨_, _, _, rfl⟩

/-- The data plane begins a session, goes on with it, ends it, or has none. -/
theorem socketPolled_cases :
    ∃ initialized previous enterTick graceful, ∃ t : TcpServer,
      t = { s with
        socket0Status := s.chip.status
        socketStateInitialized := initialized
        previousSocketStatus := previous
        socketStateEnterTick := enterTick
        gracefulDisconnectPending := graceful } ∧
      (s.chip.status = Socket0Status.established ∧ s.tcpSessionActive = false ∧
          s.socketPolled = { t.initParser with tcpSessionActive := true } ∨
        s.chip.status = Socket0Status.established ∧ s.tcpSessionActive = true ∧
          s.socketPolled = t ∨
        s.tcpSessionActive = true ∧ s.socketPolled = t.clearOk.invalidateConnectionContext ∨
        s.tcpSessionActive = false ∧ s.socketPolled = t) := by
  obtain ⟨initialized, previous, enterTick, henter⟩ :=
    enterStatus_eq { s with socket0Status := s.chip.status }
  unfold socketPolled
  rw [henter]
  by_cases hestablished : s.chip.status = Socket0Status.established
  · refine ⟨initialized, previous, enterTick, false, _, rfl, ?_⟩
    cases hactive : s.tcpSessionActive with
    | false =>
      exact .inl ⟨hestablished, rfl, by simp only [if_pos hestablished, if_true]⟩
    | true =>
      refine .inr (.inl ⟨hestablished, rfl, ?_⟩)
      simp only [if_pos hestablished, Bool.true_eq_false, if_false]
  · refine ⟨initialized, previous, enterTick, s.gracefulDisconnectPending, _, rfl, ?_⟩
    cases hactive : s.tcpSessionActive with
    | false =>
      refine .inr (.inr (.inr ⟨rfl, ?_⟩))
      simp only [if_neg hestablished, Bool.false_eq_true, if_false]
    | true =>
      refine .inr (.inr (.inl ⟨rfl, ?_⟩))
      simp only [if_neg hestablished, if_true]

end TcpServer

end Rs422Gateway
