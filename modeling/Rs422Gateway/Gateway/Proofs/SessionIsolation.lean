import Rs422Gateway.Gateway.Proofs.Tracing
import Rs422Gateway.Misc.Transition

/-!
# TCP session isolation

A PONG reaches the TCP client through the pending slot and `tcp_response_queue`. Both are empty
when a session begins, so a PONG is sent in the session in which its PING was forwarded. What the
code does not purge is `rs422_cmd_queue`: a PING left on it by an earlier session can still be
forwarded as a request of the present one.
-/

namespace Rs422Gateway

open Transition

/-- A step that takes the pending slot takes it for a PING of the present session: no PING that an
    earlier session left on `rs422_cmd_queue` is forwarded while a session is active. -/
def Gateway.ForwardsOwnPing (s : Gateway) : GatewayAction → Prop
  | .rs422 _ _ =>
      s.rs422.pc = .forwardPending → s.rs422Command.packet.msgId = msgPing →
        s.tcpSessionActive = true → s.rs422Command.session = s.history.session
  | _ => True

instance (s : Gateway) (a : GatewayAction) : Decidable (s.ForwardsOwnPing a) :=
  match a with
  | .rs422 _ _ => inferInstanceAs (Decidable (_ → _ → _ → _))
  | .ethernet _ _ => .isTrue trivial
  | .uartRx _ => .isTrue trivial
  | .uartError => .isTrue trivial
  | .uartTxDone => .isTrue trivial

/-- Every PONG passed to `w5500_tcp_send_response_packet` in a session answers a PING that was
    parsed from TCP and put on `rs422_cmd_queue` in the same session. -/
def Gateway.SessionsIsolated (s : Gateway) : Prop :=
  ∀ e ∈ s.history.responses,
    e.2.Answers s.history.queued ∧ e.2.request.session = e.1

/-- EthernetTask is beginning a session, and takes at most so many more responses off the queue. -/
def EthernetPc.opening : EthernetPc → Option Nat
  | .discard left .activate => some left
  | .discardCount left .activate => some left
  | .activate => some 0
  | _ => none

/-- What the pending slot and the response queue hold belongs to the present session. -/
structure Gateway.Isolated (s : Gateway) : Prop where
  /-- The slot is taken only while the session is active, or until RS422Task handles the reset. -/
  pending : s.tcpPingPending = true → s.history.pendingRequest.session = s.history.session ∧
    (s.tcpSessionActive = true ∨ s.ethernet = .invalidate ∨ s.flags.tcpContextReset = true)
  queued : ∀ r ∈ s.tcpResponseQueue, r.request.session = s.history.session
  inHand : s.ethernet.sending = true → s.tcpPong.request.session = s.history.session
  sent : ∀ e ∈ s.history.responses, e.2.request.session = e.1
  bounded : s.tcpResponseQueue.length ≤ 8
  opening : ∀ left, s.ethernet.opening = some left →
    s.tcpSessionActive = false ∧ s.tcpResponseQueue.length ≤ left

namespace Gateway.Isolated

variable {s : Gateway}

theorem initial : Gateway.initial.Isolated where
  pending := nofun
  queued := nofun
  inHand := nofun
  sent := nofun
  bounded := Nat.zero_le _
  opening := nofun

/-! ## RS422Task -/

theorem rs422Goto (h : s.Isolated) (pc : Rs422Pc) : (s.rs422Goto pc).Isolated := { h with }

theorem callProcessRx (h : s.Isolated) (caller : RxCaller) : (s.callProcessRx caller).Isolated :=
  { h with }

theorem clearPending (h : s.Isolated) : s.clearPending.Isolated := { h with pending := nofun }

theorem takeFlags (h : s.Isolated) : s.takeFlags.Isolated := by
  have hpending : ∀ b, s.flags.tcpContextReset = false → s.tcpPingPending = true →
      s.history.pendingRequest.session = s.history.session ∧
        (s.tcpSessionActive = true ∨ s.ethernet = .invalidate ∨ b = true) := by
    intro b hreset hp
    obtain ⟨hs, hor⟩ := h.pending hp
    rw [hreset] at hor
    exact ⟨hs, hor.imp_right fun h => h.imp_right nofun⟩
  unfold Gateway.takeFlags handleTxDoneEvent handleTcpContextResetEvent
  cases hreset : s.flags.tcpContextReset <;> cases s.flags.txDone
  · exact { h with pending := hpending false hreset }
  · exact { h with pending := hpending false hreset }
  · exact { h with pending := nofun }
  · exact { h with pending := nofun }

/-- A matching PONG is put on the queue for the session of its PING. -/
theorem handlePong (h : s.Isolated) : s.handlePong.Isolated := by
  unfold Gateway.handlePong
  split
  case isTrue hmatch =>
    obtain ⟨-, hactive, hpending, -⟩ := hmatch
    have hopening : ∀ left, s.ethernet.opening = some left → False := by
      intro left hopen
      rw [(h.opening left hopen).1] at hactive
      cases hactive
    unfold enqueueResponse
    split
    case isTrue room =>
      refine { h with pending := nofun, queued := ?_, bounded := ?_, opening := ?_ }
      · intro r hr
        rcases List.mem_append.mp hr with hr | hr
        · exact h.queued r hr
        · rw [List.mem_singleton.mp hr]
          exact (h.pending hpending).1
      · rw [List.length_append]
        exact room
      · exact fun left hopen => (hopening left hopen).elim
    case isFalse => exact { h with pending := nofun }
  case isFalse => exact h

theorem processRxByte (h : s.Isolated) (byte : UInt8) : (s.processRxByte byte).Isolated := by
  have hfeed : (s.feedRs422 byte).Isolated := { h with }
  rcases processRxByte_cases s byte with heq | ⟨queue, success, fail, received, heq⟩
  · rw [heq]
    exact hfeed
  · rw [heq]
    exact handlePong { hfeed with }

theorem forwardFailed (h : s.Isolated) : s.forwardFailed.Isolated := by
  unfold Gateway.forwardFailed
  split
  · exact h.clearPending
  · exact h

theorem returnWaitForTxComplete (h : s.Isolated) (pass : Bool) :
    (s.returnWaitForTxComplete pass).Isolated := by
  unfold Gateway.returnWaitForTxComplete
  split
  · split
    · exact h.rs422Goto _
    · exact h.rs422Goto _
  · cases pass with
    | true => exact { h with }
    | false => exact h.forwardFailed.callProcessRx _

theorem returnProcessRx (h : s.Isolated) (caller : RxCaller) :
    (s.returnProcessRx caller).Isolated := by
  cases caller with
  | txLoop => exact { h with }
  | txDone =>
    refine returnWaitForTxComplete ?_ true
    exact { h with }
  | pongLoop =>
    simp only [Gateway.returnProcessRx]
    split
    · exact h.rs422Goto _
    · exact h.rs422Goto _
  | main => exact h.rs422Goto _

/-- The slot is taken for the session the PING belongs to, which is the present one. -/
theorem markPending (h : s.Isolated)
    (own : s.rs422Command.packet.msgId = msgPing → s.tcpSessionActive = true →
      s.rs422Command.session = s.history.session) : s.markPending.Isolated := by
  unfold Gateway.markPending
  split
  case isTrue hmark =>
    obtain ⟨hping, hactive⟩ := hmark
    exact { h with pending := fun _ => ⟨own hping hactive, .inl hactive⟩ }
  case isFalse => exact h

theorem rs422Step {s' : Gateway} {hal : HalStatus} {late : Bool} (h : s.Isolated)
    (own : s.ForwardsOwnPing (.rs422 hal late)) (taken : s.rs422Step hal late = some s') :
    s'.Isolated := by
  cases rs422Step_move taken with
  | goto pc => exact h.rs422Goto pc
  | call caller => exact h.callProcessRx caller
  | returnWait pass => exact h.returnWaitForTxComplete pass
  | returnRx caller => exact h.returnProcessRx caller
  | receive caller byte rest =>
    have hpop : { s with rxRing := rest }.Isolated := { h with }
    exact hpop.processRxByte byte
  | take pc => exact h.takeFlags.rs422Goto pc
  | wake => exact h.takeFlags.callProcessRx _
  | armBringup => exact { h with }
  | transmitBringup => exact { h with }
  | transmitBringupFailed => exact { h with }
  | nextTest => exact { h with }
  | enable => exact { h with }
  | dequeue => exact { h with }
  | arm => exact { h with }
  | mark hpc => exact (h.markPending fun hping hactive => own hpc hping hactive).rs422Goto _
  | transmit => exact { h with }
  | transmitFailed =>
    have hnote : { s.noteTransmit with rs422TxBusy := false }.Isolated := { h with }
    exact hnote.forwardFailed.callProcessRx _

/-! ## EthernetTask -/

/-- Outside `w5500_tcp_invalidate_connection_context` the slot is taken for an active session or the
    reset is on its way, wherever EthernetTask goes next. -/
theorem pending_of_ne (h : s.Isolated) (hpc : s.ethernet ≠ .invalidate) {next : Prop}
    (hp : s.tcpPingPending = true) : s.history.pendingRequest.session = s.history.session ∧
      (s.tcpSessionActive = true ∨ next ∨ s.flags.tcpContextReset = true) := by
  obtain ⟨hs, hor⟩ := h.pending hp
  exact ⟨hs, hor.imp_right fun h => .inr (h.resolve_left hpc)⟩

/-- A place at which EthernetTask neither holds a response nor begins a session. -/
theorem ethernetGoto (h : s.Isolated) {pc : EthernetPc} (hsending : pc.sending = false)
    (hopening : pc.opening = none) (hpc : s.ethernet ≠ .invalidate) :
    (s.ethernetGoto pc).Isolated where
  pending := h.pending_of_ne hpc
  queued := h.queued
  inHand := fun hp => by
    rw [Gateway.ethernetGoto, hsending] at hp
    cases hp
  sent := h.sent
  bounded := h.bounded
  opening := fun left hp => by
    rw [Gateway.ethernetGoto, hopening] at hp
    cases hp

theorem ethernetBegin {s' : Gateway} {op : EthernetOp} (h : s.Isolated) (hpc : s.ethernet = .loop)
    (taken : s.ethernetBegin op = some s') : s'.Isolated := by
  have hne : s.ethernet ≠ .invalidate := by
    rw [hpc]
    nofun
  unfold Gateway.ethernetBegin at taken
  cases op with
  | invalidate =>
    cases taken
    exact
      { h with
        pending := fun hp => ⟨(h.pending hp).1, .inr (.inl rfl)⟩
        inHand := nofun
        opening := nofun }
  | discard =>
    cases taken
    exact h.ethernetGoto rfl rfl hne
  | establish =>
    simp only at taken
    split at taken
    case isTrue hactive =>
      cases taken
      have hinit : s.initTcpParser.Isolated := { h with }
      refine { hinit with pending := h.pending_of_ne hne, inHand := nofun, opening := ?_ }
      rintro left ⟨⟩
      exact ⟨hactive, h.bounded⟩
    case isFalse => cases taken
  | receive bytes =>
    simp only at taken
    split at taken
    · cases taken
      exact h.ethernetGoto rfl rfl hne
    · cases taken
  | drain =>
    simp only at taken
    split at taken
    · cases taken
      exact h.ethernetGoto rfl rfl hne
    · cases taken
  | drainTelemetry =>
    cases taken
    exact h.ethernetGoto rfl rfl hne

/-- A response taken off the queue. -/
theorem popResponse (h : s.Isolated) {response : Response} {rest : List Response}
    (queue : s.tcpResponseQueue = response :: rest) :
    response.request.session = s.history.session ∧
      (∀ r ∈ rest, r.request.session = s.history.session) ∧
      rest.length + 1 = s.tcpResponseQueue.length := by
  refine ⟨h.queued response (by rw [queue]; exact List.mem_cons_self), ?_, by rw [queue]; rfl⟩
  intro r hr
  exact h.queued r (by rw [queue]; exact List.mem_cons_of_mem _ hr)

theorem ethernetStep {s' : Gateway} {op : EthernetOp} {hal : HalStatus} (h : s.Isolated)
    (blocked : s.rs422Blocked) (taken : s.ethernetStep op hal = some s') : s'.Isolated := by
  cases ethernetStep_move taken with
  | start op s' hpc taken => exact h.ethernetBegin hpc taken
  | invalidate hpc =>
    exact
      { h with
        pending := fun hp => ⟨(h.pending hp).1, .inr (.inr rfl)⟩
        inHand := by rintro ⟨⟩
        opening := by rintro _ ⟨⟩ }
  | discardEnd left caller hpc last =>
    have hne : s.ethernet ≠ .invalidate := by simp [hpc]
    cases caller with
    | loop => exact h.ethernetGoto rfl rfl hne
    | activate =>
      obtain ⟨hactive, hle⟩ := h.opening left (by rw [hpc]; rfl)
      refine { h with pending := h.pending_of_ne hne, inHand := by rintro ⟨⟩, opening := ?_ }
      rintro left' ⟨⟩
      refine ⟨hactive, ?_⟩
      rcases last with rfl | hempty
      · exact hle
      · rw [Gateway.returnDiscard, Gateway.ethernetGoto, hempty]
        exact Nat.le_refl _
  | discardPop left caller response rest hpc queue =>
    have hne : s.ethernet ≠ .invalidate := by simp [hpc]
    obtain ⟨-, hrest, hlength⟩ := h.popResponse queue
    have hbounded := h.bounded
    refine
      { h with
        pending := h.pending_of_ne hne, queued := hrest, inHand := by rintro ⟨⟩, bounded := ?_
        opening := ?_ }
    · show rest.length ≤ 8
      omega
    · intro left' hopen
      cases caller with
      | loop => cases hopen
      | activate =>
        cases hopen
        obtain ⟨hactive, hle⟩ := h.opening (left + 1) (by rw [hpc]; rfl)
        refine ⟨hactive, ?_⟩
        show rest.length ≤ left
        omega
  | discardCount left caller hpc =>
    have hne : s.ethernet ≠ .invalidate := by simp [hpc]
    refine { h with pending := h.pending_of_ne hne, inHand := by rintro ⟨⟩, opening := ?_ }
    intro left' hopen
    cases caller with
    | loop => cases hopen
    | activate => exact h.opening left' (by rw [hpc]; exact hopen)
  | activate hpc =>
    obtain ⟨hactive, hle⟩ := h.opening 0 (by rw [hpc]; rfl)
    have hempty : s.tcpResponseQueue = [] := List.length_eq_zero_iff.mp (Nat.le_zero.mp hle)
    have hnone : s.flags.any = false := blocked.2
    -- the reset has been handled, so the slot of the last session is empty
    have hpending : s.tcpPingPending = true → False := by
      intro hp
      obtain ⟨-, hor⟩ := h.pending hp
      rcases hor with hor | hor | hor
      · rw [hactive] at hor
        cases hor
      · rw [hpc] at hor
        cases hor
      · simp only [Rs422Flags.any, hor, Bool.or_true] at hnone
        cases hnone
    refine
      { h with
        pending := fun hp => (hpending hp).elim, queued := ?_, inHand := by rintro ⟨⟩
        opening := by rintro _ ⟨⟩ }
    intro r hr
    have hr' : r ∈ s.tcpResponseQueue := hr
    rw [hempty] at hr'
    cases hr'
  | feedEnd hpc => exact h.ethernetGoto rfl rfl (by simp [hpc])
  | feed byte rest hpc =>
    have hne : s.ethernet ≠ .invalidate := by simp [hpc]
    have hfeed : (s.feedTcp byte).Isolated := { h with }
    unfold processTcpByte
    split
    · have hnote : (s.feedTcp byte).notePingFrame.Isolated := { hfeed with }
      exact hnote.ethernetGoto rfl rfl hne
    · exact hfeed.ethernetGoto rfl rfl hne
  | put rest hpc =>
    have hne : s.ethernet ≠ .invalidate := by simp [hpc]
    have hcount : s.countPing.Isolated := { h with }
    unfold putCommand
    split
    · exact
        { hcount with
          pending := h.pending_of_ne hne, inHand := by rintro ⟨⟩, opening := by rintro _ ⟨⟩ }
    · exact hcount.ethernetGoto rfl rfl hne
  | putSuccess rest hpc =>
    have hne : s.ethernet ≠ .invalidate := by simp [hpc]
    exact
      { h with
        pending := h.pending_of_ne hne, inHand := by rintro ⟨⟩, opening := by rintro _ ⟨⟩ }
  | putFail rest hpc =>
    have hne : s.ethernet ≠ .invalidate := by simp [hpc]
    exact
      { h with
        pending := h.pending_of_ne hne, inHand := by rintro ⟨⟩, opening := by rintro _ ⟨⟩ }
  | signal rest hpc =>
    have hne : s.ethernet ≠ .invalidate := by simp [hpc]
    exact
      { h with
        pending := h.pending_of_ne hne, inHand := by rintro ⟨⟩, opening := by rintro _ ⟨⟩ }
  | drainEnd left hpc => exact h.ethernetGoto rfl rfl (by simp [hpc])
  | drainPop left response rest hpc queue =>
    have hne : s.ethernet ≠ .invalidate := by simp [hpc]
    obtain ⟨hsession, hrest, hlength⟩ := h.popResponse queue
    have hbounded := h.bounded
    refine
      { h with
        pending := h.pending_of_ne hne, queued := hrest, inHand := fun _ => hsession
        bounded := ?_, opening := by rintro _ ⟨⟩ }
    show rest.length ≤ 8
    omega
  | drainCount left hpc =>
    have hne : s.ethernet ≠ .invalidate := by simp [hpc]
    exact
      { h with
        pending := h.pending_of_ne hne, opening := by rintro _ ⟨⟩
        inHand := fun _ => h.inHand (by rw [hpc]; rfl) }
  | sendRefused left hpc => exact h.ethernetGoto rfl rfl (by simp [hpc])
  | send left frame hpc =>
    have hne : s.ethernet ≠ .invalidate := by simp [hpc]
    have hsession := h.inHand (by rw [hpc]; rfl)
    refine
      { h with
        pending := h.pending_of_ne hne, inHand := by rintro ⟨⟩, opening := by rintro _ ⟨⟩
        sent := ?_ }
    intro e he
    rcases List.mem_append.mp he with he | he
    · exact h.sent e he
    · rw [List.mem_singleton.mp he]
      exact hsession
  | udpEnd left hpc => exact h.ethernetGoto rfl rfl (by simp [hpc])
  | udpPop left packet rest hpc =>
    have hne : s.ethernet ≠ .invalidate := by simp [hpc]
    exact
      { h with
        pending := h.pending_of_ne hne, inHand := by rintro ⟨⟩, opening := by rintro _ ⟨⟩ }
  | udpCount left hpc =>
    have hne : s.ethernet ≠ .invalidate := by simp [hpc]
    exact
      { h with
        pending := h.pending_of_ne hne, inHand := by rintro ⟨⟩, opening := by rintro _ ⟨⟩ }
  | udpRefused left hpc => exact h.ethernetGoto rfl rfl (by simp [hpc])
  | udpForward left frame next hpc after =>
    have hne : s.ethernet ≠ .invalidate := by simp [hpc]
    have hnote : (s.noteUdpSend frame).Isolated := { h with }
    rcases after with rfl | rfl
    · exact hnote.ethernetGoto rfl rfl hne
    · exact hnote.ethernetGoto rfl rfl hne

theorem step {s' : Gateway} {a : GatewayAction} (h : s.Isolated) (own : s.ForwardsOwnPing a)
    (taken : s.step a = some s') : s'.Isolated := by
  cases Gateway.step_move taken with
  | rs422 hal late s' taken => exact h.rs422Step own taken
  | ethernet op hal s' blocked taken => exact h.ethernetStep blocked taken
  | interrupt a rxRing rx txDone => exact { h with }

end Gateway.Isolated

/-- In every run in which the pending slot is only taken for PINGs of the present session, every
    PONG passed to `w5500_tcp_send_response_packet` in a session answers a PING that was parsed and
    queued in the same session. -/
theorem gateway_sessionsIsolated {s : Gateway}
    (run : Reachable Gateway.step Gateway.ForwardsOwnPing Gateway.initial s) :
    s.SessionsIsolated := by
  have hinv : s.Traced ∧ s.Isolated :=
    Reachable.invariant (P := fun s => s.Traced ∧ s.Isolated) ⟨.initial, .initial⟩
      (fun _ _ _ h own taken => ⟨h.1.step taken, h.2.step own taken⟩) run
  exact fun e he => ⟨hinv.1.sent e he, hinv.2.sent e he⟩

/-! ## Two runs -/

/-- RS422Task takes so many steps, the HAL answers `HAL_OK` and no time runs out. -/
def rs422Run (count : Nat) : List GatewayAction := List.replicate count (.rs422 .ok false)

/-- EthernetTask begins an operation and takes so many steps in it. -/
def ethernetRun (op : EthernetOp) (count : Nat) : List GatewayAction :=
  .ethernet op .ok :: List.replicate count (.ethernet .drain .ok)

/-- RS422Task starts and waits for the end of the transmission of its first test. -/
def bringupRun : List GatewayAction := rs422Run 7

/-- That transmission ends, its PONG does not come, and `HAL_UART_Transmit_IT` fails in the other
    99 tests. -/
def restOfBringupRun : List GatewayAction :=
  .uartTxDone :: rs422Run 2 ++ List.replicate 398 (.rs422 .error true)

/-- The zero-length PING with SEQ 7. -/
def pingSeven : List UInt8 := [0xAA, 0x55, 1, 1, 0, 7, 0, 0, 0x64, 0x71]

/-- The zero-length PONG with SEQ 7. -/
def pongSeven : List UInt8 := [0xAA, 0x55, 1, 0x81, 0, 7, 0, 0, 0x46, 0xA1]

/-- A session begins and the client sends a PING, which is queued. -/
def pingRun : List GatewayAction :=
  ethernetRun .establish 2 ++ ethernetRun (.receive pingSeven) 13

/-- RS422Task forwards the PING, its PONG arrives, and EthernetTask sends it. -/
def pongRun : List GatewayAction :=
  rs422Run 10 ++ .uartTxDone :: pongSeven.map .uartRx ++ rs422Run 14 ++ ethernetRun .drain 3

theorem gateway_sessionsIsolated_answered :
    ∃ s, Reachable Gateway.step Gateway.ForwardsOwnPing Gateway.initial s ∧
      s.history.responses ≠ [] ∧ s.SessionsIsolated := by
  obtain ⟨s, run, htest⟩ := exists_reachable Gateway.step Gateway.ForwardsOwnPing Gateway.initial
    (bringupRun ++ pingRun ++ rs422Run 5 ++ ethernetRun .drain 1 ++ restOfBringupRun ++ pongRun)
    (fun s => !s.history.responses.isEmpty) (by decide +kernel)
  refine ⟨s, run, ?_, gateway_sessionsIsolated run⟩
  intro hempty
  rw [hempty] at htest
  cases htest

/-- The client connects during the start-up phase, sends its PING and disconnects. -/
def abandonedPingRun : List GatewayAction :=
  bringupRun ++ pingRun ++ rs422Run 5 ++ .ethernet .drain .ok :: ethernetRun .invalidate 1 ++
    rs422Run 5 ++ ethernetRun .drain 0

/-- The PING is still on `rs422_cmd_queue` when a second session has begun, and its PONG is sent
    there. -/
theorem gateway_staleCommandAnswered :
    ¬ ∀ s, Reachable Gateway.step unguarded Gateway.initial s → s.SessionsIsolated := by
  intro hall
  obtain ⟨s, run, htest⟩ := exists_reachable Gateway.step unguarded Gateway.initial
    (abandonedPingRun ++ ethernetRun .establish 2 ++ restOfBringupRun ++ pongRun)
    (fun s => s.history.responses.any fun e => e.2.request.session != e.1) (by decide +kernel)
  obtain ⟨e, he, hne⟩ := List.any_eq_true.mp htest
  have hisolated := (hall s run e he).2
  rw [hisolated, bne_self_eq_false] at hne
  cases hne

end Rs422Gateway
