import Rs422Gateway.Gateway.Uart
import Rs422Gateway.Gateway.Proofs.Moves
import Rs422Gateway.Misc.Transition

/-!
# Who owns UART4 and its frame

`g_rs422_tx_busy` is set as long as the TX_DONE of an accepted transmission has not been consumed,
also after a timeout. So RS422Task encodes and transmits a frame only when the one before it is
over.
-/

namespace Rs422Gateway

open Transition

/-- RS422Task has encoded a frame and not yet transmitted it. -/
def Rs422Pc.loaded : Rs422Pc → Bool
  | .bringupTransmit | .forwardPending | .forwardTransmit => true
  | _ => false

namespace Gateway

/-- Neither the UART variables nor the flags differ. -/
structure SameUart (s s' : Gateway) : Prop where
  busy : s'.rs422TxBusy = s.rs422TxBusy
  flags : s'.flags = s.flags
  frame : s'.rs422TxFrame = s.rs422TxFrame
  queue : s'.cmdQueue = s.cmdQueue

namespace SameUart

variable {s s' s'' : Gateway}

theorem refl (s : Gateway) : s.SameUart s := ⟨rfl, rfl, rfl, rfl⟩

theorem trans (h : s.SameUart s') (h' : s'.SameUart s'') : s.SameUart s'' :=
  ⟨h'.busy.trans h.busy, h'.flags.trans h.flags, h'.frame.trans h.frame, h'.queue.trans h.queue⟩

theorem handlePong (s : Gateway) : s.SameUart s.handlePong := by
  unfold Gateway.handlePong enqueueResponse
  split
  · split <;> exact ⟨rfl, rfl, rfl, rfl⟩
  · exact refl s

theorem processRxByte (s : Gateway) (byte : UInt8) : s.SameUart (s.processRxByte byte) := by
  rcases processRxByte_cases s byte with heq | ⟨queue, success, fail, received, heq⟩
  · rw [heq]
    exact ⟨rfl, rfl, rfl, rfl⟩
  · have hpong := handlePong
      { (s.feedRs422 byte).noteRs422Frame with
        udpTelemetryQueue := queue
        counts :=
          { s.counts with
            udpTelemetryEnqueueSuccess := success
            udpTelemetryEnqueueFail := fail }
        rs422 := { s.rs422 with rxMatchingPongReceived := received } }
    rw [heq]
    exact ⟨hpong.busy, hpong.flags, hpong.frame, hpong.queue⟩

theorem forwardFailed (s : Gateway) : s.SameUart s.forwardFailed := by
  unfold Gateway.forwardFailed
  split <;> exact ⟨rfl, rfl, rfl, rfl⟩

theorem markPending (s : Gateway) : s.SameUart s.markPending := by
  unfold Gateway.markPending
  split <;> exact ⟨rfl, rfl, rfl, rfl⟩

theorem returnWaitForTxComplete (s : Gateway) (pass : Bool) :
    s.SameUart (s.returnWaitForTxComplete pass) := by
  unfold Gateway.returnWaitForTxComplete
  split
  · split <;> exact ⟨rfl, rfl, rfl, rfl⟩
  · cases pass with
    | true => exact ⟨rfl, rfl, rfl, rfl⟩
    | false => exact (forwardFailed s).trans ⟨rfl, rfl, rfl, rfl⟩

theorem returnProcessRx (s : Gateway) (caller : RxCaller) :
    s.SameUart (s.returnProcessRx caller) := by
  cases caller with
  | txLoop => exact ⟨rfl, rfl, rfl, rfl⟩
  | txDone =>
    have hreceived : ∀ received : Bool,
        s.SameUart { s with rs422 := { s.rs422 with matchingPongReceived := received } } :=
      fun _ => ⟨rfl, rfl, rfl, rfl⟩
    exact (hreceived _).trans (returnWaitForTxComplete _ true)
  | pongLoop =>
    unfold Gateway.returnProcessRx
    simp only
    split <;> exact ⟨rfl, rfl, rfl, rfl⟩
  | main => exact ⟨rfl, rfl, rfl, rfl⟩

end SameUart

/-- What a step of RS422Task does to the UART and the flags. -/
inductive TxEffect (s : Gateway) (hal : HalStatus) (s' : Gateway) : Prop where
  | keep (same : s.SameUart s') (takes : s.takesFlags = false) (transmits : s.transmits = false)
      (loaded : s'.rs422.pc.loaded = true → s.rs422.pc.loaded = true)
  | dequeue (flags : s'.flags = s.flags) (busy : s'.rs422TxBusy = s.rs422TxBusy)
      (frame : s'.rs422TxFrame = s.rs422TxFrame) (takes : s.takesFlags = false)
      (transmits : s.transmits = false) (loaded : s'.rs422.pc.loaded = false)
  | take (takes : s.takesFlags = true) (transmits : s.transmits = false)
      (flags : s'.flags = .none) (busy : s'.rs422TxBusy = (s.rs422TxBusy && !s.flags.txDone))
      (frame : s'.rs422TxFrame = s.rs422TxFrame) (loaded : s'.rs422.pc.loaded = false)
  | arm (encodes : s.encodes = true) (idle : s.rs422TxBusy = false) (takes : s.takesFlags = false)
      (transmits : s.transmits = false) (flags : s'.flags = { s.flags with txDone := false })
      (busy : s'.rs422TxBusy = false)
  | transmit (takes : s.takesFlags = false) (transmits : s.transmits = true)
      (waits : s.rs422.pc.loaded = true) (flags : s'.flags = s.flags)
      (busy : s'.rs422TxBusy = decide (hal = .ok)) (frame : s'.rs422TxFrame = s.rs422TxFrame)
      (loaded : s'.rs422.pc.loaded = false)

theorem takeFlags_flags (s : Gateway) : s.takeFlags.flags = .none := by
  unfold takeFlags handleTxDoneEvent handleTcpContextResetEvent
  cases s.flags.tcpContextReset <;> cases s.flags.txDone <;> rfl

theorem takeFlags_busy (s : Gateway) :
    s.takeFlags.rs422TxBusy = (s.rs422TxBusy && !s.flags.txDone) := by
  unfold takeFlags handleTxDoneEvent handleTcpContextResetEvent
  cases s.flags.tcpContextReset <;> cases s.flags.txDone <;> cases s.rs422TxBusy <;> rfl

theorem takeFlags_frame (s : Gateway) : s.takeFlags.rs422TxFrame = s.rs422TxFrame := by
  unfold takeFlags handleTxDoneEvent handleTcpContextResetEvent
  cases s.flags.tcpContextReset <;> cases s.flags.txDone <;> rfl

theorem returnWaitForTxComplete_loaded (s : Gateway) (pass : Bool) :
    (s.returnWaitForTxComplete pass).rs422.pc.loaded = false := by
  unfold returnWaitForTxComplete
  split
  · split <;> rfl
  · rfl

theorem returnProcessRx_loaded (s : Gateway) (caller : RxCaller) :
    (s.returnProcessRx caller).rs422.pc.loaded = false := by
  cases caller with
  | txLoop => rfl
  | txDone => exact returnWaitForTxComplete_loaded _ _
  | pongLoop =>
    unfold returnProcessRx
    simp only
    split <;> rfl
  | main => rfl

/-- A byte of the RX ring does not move RS422Task. -/
theorem processRxByte_pc (s : Gateway) (byte : UInt8) :
    (s.processRxByte byte).rs422.pc = s.rs422.pc := by
  have hpong : ∀ s : Gateway, s.handlePong.rs422.pc = s.rs422.pc := by
    intro s
    unfold handlePong enqueueResponse
    split
    · split <;> rfl
    · rfl
  rcases processRxByte_cases s byte with heq | ⟨queue, success, fail, received, heq⟩
  · rw [heq]
    rfl
  · rw [heq]
    exact hpong _

variable {s s' : Gateway} {hal : HalStatus} {late : Bool}

theorem not_takesFlags (hflags : s.flags.any = false) : s.takesFlags = false := by
  unfold takesFlags
  split
  · exact hflags
  · exact hflags
  · exact hflags
  · exact hflags
  · rfl

/-- A wait that finds a flag, up to its handlers. -/
theorem txEffect_take (takes : s.takesFlags = true) (transmits : s.transmits = false)
    (hsame : s.takeFlags.SameUart s') (loaded : s'.rs422.pc.loaded = false) : TxEffect s hal s' :=
  .take takes transmits (hsame.flags.trans s.takeFlags_flags) (hsame.busy.trans s.takeFlags_busy)
    (hsame.frame.trans s.takeFlags_frame) loaded

theorem rs422Step_txEffect (taken : s.rs422Step hal late = some s') : TxEffect s hal s' := by
  unfold rs422Step at taken
  cases hpc : s.rs422.pc with
  | start =>
    simp only [hpc] at taken
    split at taken <;> cases taken <;>
      exact .keep ⟨rfl, rfl, rfl, rfl⟩ (by rw [takesFlags, hpc]) (by rw [transmits, hpc]) nofun
  | bringup =>
    simp only [hpc] at taken
    split at taken
    · cases taken
      exact .keep ⟨rfl, rfl, rfl, rfl⟩ (by rw [takesFlags, hpc]) (by rw [transmits, hpc]) nofun
    case isFalse hidle =>
      have hidle' : s.rs422TxBusy = false := Bool.eq_false_iff.mpr hidle
      split at taken
      · cases taken
        exact .keep ⟨rfl, rfl, rfl, rfl⟩ (by rw [takesFlags, hpc]) (by rw [transmits, hpc]) nofun
      · cases taken
        exact .arm (by rw [encodes, hpc, hidle']; rfl) hidle' (by rw [takesFlags, hpc])
          (by rw [transmits, hpc]) rfl hidle'
  | bringupTransmit =>
    simp only [hpc] at taken
    split at taken
    case isTrue hok =>
      cases taken
      exact .transmit (by rw [takesFlags, hpc]) (by rw [transmits, hpc]) (by rw [hpc]; rfl) rfl
        (decide_eq_true hok).symm rfl rfl
    case isFalse hok =>
      cases taken
      exact .transmit (by rw [takesFlags, hpc]) (by rw [transmits, hpc]) (by rw [hpc]; rfl) rfl
        (decide_eq_false hok).symm rfl rfl
  | waitTx =>
    simp only [hpc] at taken
    split at taken
    · cases taken
      exact .keep ⟨rfl, rfl, rfl, rfl⟩ (by rw [takesFlags, hpc]) (by rw [transmits, hpc]) nofun
    · cases taken
      have hloaded := s.returnWaitForTxComplete_loaded true
      exact .keep (.returnWaitForTxComplete s true) (by rw [takesFlags, hpc])
        (by rw [transmits, hpc]) (by rw [hloaded]; nofun)
  | rx caller =>
    simp only [hpc] at taken
    split at taken
    · cases taken
      have hloaded := s.returnProcessRx_loaded caller
      exact .keep (.returnProcessRx s caller) (by rw [takesFlags, hpc]) (by rw [transmits, hpc])
        (by rw [hloaded]; nofun)
    case h_2 byte rest hring =>
      cases taken
      have hpop : s.SameUart { s with rxRing := rest } := ⟨rfl, rfl, rfl, rfl⟩
      have hsame := hpop.trans (SameUart.processRxByte _ byte)
      have hpc' := processRxByte_pc { s with rxRing := rest } byte
      exact .keep hsame (by rw [takesFlags, hpc]) (by rw [transmits, hpc])
        (by rw [hpc']; exact id)
  | pollFlags =>
    simp only [hpc] at taken
    cases taken
    split
    case isTrue hany =>
      exact txEffect_take (by rw [takesFlags, hpc]; exact hany) (by rw [transmits, hpc])
        ⟨rfl, rfl, rfl, rfl⟩ rfl
    case isFalse hany =>
      exact .keep ⟨rfl, rfl, rfl, rfl⟩ (not_takesFlags (Bool.eq_false_iff.mpr hany))
        (by rw [transmits, hpc]) nofun
  | checkBusy =>
    simp only [hpc] at taken
    split at taken
    · cases taken
      exact .keep ⟨rfl, rfl, rfl, rfl⟩ (by rw [takesFlags, hpc]) (by rw [transmits, hpc]) nofun
    split at taken
    · cases taken
      have hloaded := s.returnWaitForTxComplete_loaded false
      exact .keep (.returnWaitForTxComplete s false) (by rw [takesFlags, hpc])
        (by rw [transmits, hpc]) (by rw [hloaded]; nofun)
    · cases taken
      exact .keep ⟨rfl, rfl, rfl, rfl⟩ (by rw [takesFlags, hpc]) (by rw [transmits, hpc]) nofun
  | waitFlags =>
    simp only [hpc] at taken
    split at taken
    case isTrue hany =>
      cases taken
      exact txEffect_take (by rw [takesFlags, hpc]; exact hany) (by rw [transmits, hpc])
        ⟨rfl, rfl, rfl, rfl⟩ rfl
    case isFalse hany =>
      split at taken
      · cases taken
        have hloaded := s.returnWaitForTxComplete_loaded false
        exact .keep (.returnWaitForTxComplete s false) (not_takesFlags (Bool.eq_false_iff.mpr hany))
          (by rw [transmits, hpc]) (by rw [hloaded]; nofun)
      · cases taken
  | pongLoop =>
    simp only [hpc] at taken
    cases taken
    split <;>
      exact .keep ⟨rfl, rfl, rfl, rfl⟩ (by rw [takesFlags, hpc]) (by rw [transmits, hpc]) nofun
  | pongElapsed =>
    simp only [hpc] at taken
    cases taken
    split <;>
      exact .keep ⟨rfl, rfl, rfl, rfl⟩ (by rw [takesFlags, hpc]) (by rw [transmits, hpc]) nofun
  | pongWait =>
    simp only [hpc] at taken
    split at taken
    case isTrue hany =>
      cases taken
      exact txEffect_take (by rw [takesFlags, hpc]; exact hany) (by rw [transmits, hpc])
        ⟨rfl, rfl, rfl, rfl⟩ rfl
    case isFalse hany =>
      split at taken
      · cases taken
        exact .keep ⟨rfl, rfl, rfl, rfl⟩ (not_takesFlags (Bool.eq_false_iff.mpr hany))
          (by rw [transmits, hpc]) nofun
      · cases taken
  | testDone =>
    simp only [hpc] at taken
    cases taken
    split <;>
      exact .keep ⟨rfl, rfl, rfl, rfl⟩ (by rw [takesFlags, hpc]) (by rw [transmits, hpc]) nofun
  | delay | enable =>
    simp only [hpc] at taken
    cases taken
    exact .keep ⟨rfl, rfl, rfl, rfl⟩ (by rw [takesFlags, hpc]) (by rw [transmits, hpc]) nofun
  | dequeue =>
    simp only [hpc] at taken
    split at taken
    · cases taken
      exact .keep ⟨rfl, rfl, rfl, rfl⟩ (by rw [takesFlags, hpc]) (by rw [transmits, hpc]) nofun
    · cases taken
      exact .dequeue rfl rfl rfl (by rw [takesFlags, hpc]) (by rw [transmits, hpc]) rfl
  | forward =>
    simp only [hpc] at taken
    split at taken
    · cases taken
      exact .keep ⟨rfl, rfl, rfl, rfl⟩ (by rw [takesFlags, hpc]) (by rw [transmits, hpc]) nofun
    case isFalse hidle =>
      have hidle' : s.rs422TxBusy = false := Bool.eq_false_iff.mpr hidle
      split at taken
      · cases taken
        exact .keep ⟨rfl, rfl, rfl, rfl⟩ (by rw [takesFlags, hpc]) (by rw [transmits, hpc]) nofun
      · cases taken
        exact .arm (by rw [encodes, hpc, hidle']; rfl) hidle' (by rw [takesFlags, hpc])
          (by rw [transmits, hpc]) rfl hidle'
  | forwardPending =>
    simp only [hpc] at taken
    cases taken
    have hsame : s.SameUart (s.markPending.rs422Goto .forwardTransmit) :=
      (SameUart.markPending s).trans ⟨rfl, rfl, rfl, rfl⟩
    exact .keep hsame (by rw [takesFlags, hpc]) (by rw [transmits, hpc]) (fun _ => by rw [hpc]; rfl)
  | forwardTransmit =>
    simp only [hpc] at taken
    split at taken
    case isTrue hok =>
      cases taken
      exact .transmit (by rw [takesFlags, hpc]) (by rw [transmits, hpc]) (by rw [hpc]; rfl) rfl
        (decide_eq_true hok).symm rfl rfl
    case isFalse hok =>
      cases taken
      have hsame := SameUart.forwardFailed { s.noteTransmit with rs422TxBusy := false }
      exact .transmit (by rw [takesFlags, hpc]) (by rw [transmits, hpc]) (by rw [hpc]; rfl)
        hsame.flags (hsame.busy.trans (decide_eq_false hok).symm) hsame.frame rfl
  | mainWait =>
    simp only [hpc] at taken
    split at taken
    case isTrue hany =>
      cases taken
      exact txEffect_take (by rw [takesFlags, hpc]; exact hany) (by rw [transmits, hpc])
        ⟨rfl, rfl, rfl, rfl⟩ rfl
    case isFalse => cases taken

/-- A failing flag call leaves busy and the flags as they are. -/
theorem flagErrorStep_effect {error : FlagError} (taken : s.flagErrorStep error = some s') :
    s'.rs422TxBusy = s.rs422TxBusy ∧ s'.flags = s.flags ∧ s'.cmdQueue = s.cmdQueue ∧
      s'.rs422.pc.loaded = false ∧ (s.encodes = false → s'.rs422TxFrame = s.rs422TxFrame) := by
  unfold flagErrorStep at taken
  cases hpc : s.rs422.pc with
  | bringup | forward =>
    simp only [hpc] at taken
    split at taken
    · cases taken
    case isFalse hidle =>
      split at taken
      · cases taken
      · cases taken
        refine ⟨rfl, rfl, rfl, rfl, fun hencodes => ?_⟩
        rw [encodes, hpc, Bool.eq_false_iff.mpr hidle] at hencodes
        cases hencodes
  | pollFlags =>
    simp only [hpc] at taken
    cases taken
    split
    · exact ⟨rfl, rfl, rfl, rfl, fun _ => rfl⟩
    · have hsame := SameUart.returnWaitForTxComplete s false
      exact ⟨hsame.busy, hsame.flags, hsame.queue, s.returnWaitForTxComplete_loaded false,
        fun _ => hsame.frame⟩
  | waitFlags =>
    simp only [hpc] at taken
    cases taken
    have hsame := SameUart.returnWaitForTxComplete s false
    exact ⟨hsame.busy, hsame.flags, hsame.queue, s.returnWaitForTxComplete_loaded false,
      fun _ => hsame.frame⟩
  | pongWait | mainWait =>
    simp only [hpc] at taken
    cases taken
    exact ⟨rfl, rfl, rfl, rfl, fun _ => rfl⟩
  | _ =>
    simp only [hpc] at taken
    cases taken

/-- EthernetTask leaves UART4 alone. -/
theorem ethernetStep_uart {op : EthernetOp} (taken : s.ethernetStep op hal = some s') :
    s'.rs422TxBusy = s.rs422TxBusy ∧ s'.rs422TxFrame = s.rs422TxFrame ∧ s'.rs422 = s.rs422 ∧
      s'.rxRing = s.rxRing ∧ s'.flags.txDone = s.flags.txDone := by
  cases ethernetStep_move taken with
  | start op s' hpc taken =>
    unfold ethernetBegin at taken
    cases op with
    | invalidate | discard | drainTelemetry =>
      cases taken
      exact ⟨rfl, rfl, rfl, rfl, rfl⟩
    | establish | receive | drain =>
      simp only at taken
      split at taken
      · cases taken
        exact ⟨rfl, rfl, rfl, rfl, rfl⟩
      · cases taken
  | discardEnd left caller => cases caller <;> exact ⟨rfl, rfl, rfl, rfl, rfl⟩
  | feed byte rest =>
    unfold processTcpByte
    split <;> exact ⟨rfl, rfl, rfl, rfl, rfl⟩
  | put rest =>
    unfold putCommand
    split <;> exact ⟨rfl, rfl, rfl, rfl, rfl⟩
  | _ => exact ⟨rfl, rfl, rfl, rfl, rfl⟩

end Gateway

/-- A step of the gateway with UART4, and what comes before it. -/
inductive UartMove (s : UartGateway) : UartAction → UartGateway → Prop where
  | task (hal : HalStatus) (late : Bool) (g : Gateway)
      (taken : s.gateway.rs422Step hal late = some g) :
      UartMove s (.task hal late) (s.noteTask hal g)
  | flagError (error : FlagError) (g : Gateway) (taken : s.gateway.flagErrorStep error = some g) :
      UartMove s (.flagError error) { s with gateway := g }
  | ethernet (op : EthernetOp) (hal : HalStatus) (g : Gateway)
      (taken : s.gateway.ethernetStep op hal = some g) :
      UartMove s (.ethernet op hal)
        { s with gateway := g, resetUnapplied := s.resetUnapplied || s.setsReset }
  | rx (byte : UInt8) :
      UartMove s (.rx byte) { s with gateway := s.gateway.uartRxCpltCallback byte }
  | rxError : UartMove s .rxError { s with gateway := s.gateway.uartErrorCallback }
  | txDone (n : Nat) (outstanding : s.outstanding = some n) :
      UartMove s .txDone
        { s with
          gateway := s.gateway.uartTxCpltCallback
          outstanding := none
          raised := s.outstanding
          doneUnapplied := s.outstanding }
  | txEnd (n : Nat) (outstanding : s.outstanding = some n) :
      UartMove s .txEnd { s with outstanding := none }

theorem UartGateway.step_move {s s' : UartGateway} {a : UartAction}
    (taken : s.step a = some s') : UartMove s a s' := by
  cases a with
  | task hal late =>
    simp only [UartGateway.step] at taken
    split at taken
    · obtain ⟨g, hg, rfl⟩ := Option.map_eq_some_iff.mp taken
      exact .task hal late g hg
    · cases taken
  | flagError error =>
    obtain ⟨g, hg, rfl⟩ := Option.map_eq_some_iff.mp taken
    exact .flagError error g hg
  | ethernet op hal =>
    obtain ⟨g, hg, rfl⟩ := Option.map_eq_some_iff.mp taken
    exact .ethernet op hal g hg
  | rx byte =>
    cases taken
    exact .rx byte
  | rxError =>
    cases taken
    exact .rxError
  | txDone | txEnd =>
    simp only [UartGateway.step] at taken
    split at taken
    case isTrue hout =>
      cases taken
      obtain ⟨n, hn⟩ := Option.ne_none_iff_exists'.mp hout
      first | exact .txDone n hn | exact .txEnd n hn
    case isFalse => cases taken

/-- The last transmission may be outstanding or its TX_DONE pending, and then
    `g_rs422_tx_busy` is set. Every earlier one has had its TX_DONE consumed on its behalf. -/
structure UartGateway.Owned (s : UartGateway) : Prop where
  earlier : ∀ n, 1 ≤ n → n < s.accepted → (some n, n) ∈ s.consumed
  idle : s.gateway.rs422TxBusy = false →
    s.outstanding = none ∧ s.gateway.flags.txDone = false ∧
      (1 ≤ s.accepted → (some s.accepted, s.accepted) ∈ s.consumed)
  last : ∀ n, s.outstanding = some n → n = s.accepted
  pending : s.gateway.flags.txDone = true → s.raised = some s.accepted ∧ s.outstanding = none
  raised : s.raised ≠ none → s.gateway.flags.txDone = true
  loaded : s.gateway.rs422.pc.loaded = true → s.gateway.rs422TxBusy = false
  pairs : ∀ e ∈ s.consumed, e.1 = some e.2

/-- Only `protocol_encode` writes the frame. -/
theorem UartGateway.step_frame {s s' : UartGateway} {a : UartAction} (taken : s.step a = some s')
    (hencodes : s.gateway.encodes = false) :
    s'.gateway.rs422TxFrame = s.gateway.rs422TxFrame := by
  cases step_move taken with
  | task hal late g hg =>
    cases Gateway.rs422Step_txEffect hg with
    | keep same => exact same.frame
    | dequeue flags busy frame => exact frame
    | take takes transmits flags busy frame => exact frame
    | arm encodes =>
      rw [hencodes] at encodes
      cases encodes
    | transmit takes transmits waits flags busy frame => exact frame
  | flagError error g hg => exact (Gateway.flagErrorStep_effect hg).2.2.2.2 hencodes
  | ethernet op hal g hg => exact (Gateway.ethernetStep_uart hg).2.1
  | rx | rxError => rfl
  | txDone | txEnd => rfl

theorem Gateway.loaded_of_transmits {s : Gateway} (h : s.transmits = true) :
    s.rs422.pc.loaded = true := by
  unfold Gateway.transmits at h
  split at h
  case h_1 hpc =>
    rw [hpc]
    rfl
  case h_2 hpc =>
    rw [hpc]
    rfl
  case h_3 => cases h

namespace UartGateway.Owned

variable {s s' : UartGateway}

theorem initial : UartGateway.initial.Owned where
  earlier := by
    intro n hpos hlt
    exact absurd hlt (Nat.not_lt_zero n)
  idle := fun _ => ⟨rfl, rfl, nofun⟩
  last := nofun
  pending := nofun
  raised := fun h => absurd rfl h
  loaded := nofun
  pairs := nofun

/-- A step of RS422Task that neither takes flags nor transmits. -/
theorem quiet (h : s.Owned) {g : Gateway} {hal : HalStatus} (takes : s.gateway.takesFlags = false)
    (transmits : s.gateway.transmits = false) (hbusy : g.rs422TxBusy = s.gateway.rs422TxBusy)
    (hflags : g.flags.txDone = s.gateway.flags.txDone)
    (hloaded : g.rs422.pc.loaded = true → g.rs422TxBusy = false) : (s.noteTask hal g).Owned := by
  have hraised : (s.noteTask hal g).raised = s.raised := by
    show (if g.flags.txDone then s.raised else none) = s.raised
    rw [hflags]
    split
    · rfl
    case isFalse htxDone =>
      exact Decidable.byContradiction fun hne => htxDone (h.raised (Ne.symm hne))
  have haccepted : (s.noteTask hal g).accepted = s.accepted := by
    simp only [noteTask, transmits, Bool.false_eq_true, false_and, if_false]
  have houtstanding : (s.noteTask hal g).outstanding = s.outstanding := by
    simp only [noteTask, transmits, Bool.false_eq_true, false_and, if_false]
  have hconsumed : (s.noteTask hal g).consumed = s.consumed := by
    simp only [noteTask, takes, Bool.false_eq_true, false_and, if_false]
  refine ⟨?_, ?_, ?_, ?_, ?_, hloaded, ?_⟩
  · rw [haccepted, hconsumed]
    exact h.earlier
  · rw [haccepted, hconsumed, houtstanding]
    intro hidle
    rw [show (s.noteTask hal g).gateway.flags.txDone = _ from hflags]
    exact h.idle (hbusy.symm.trans hidle)
  · rw [haccepted, houtstanding]
    exact h.last
  · rw [haccepted, houtstanding, hraised]
    intro htxDone
    exact h.pending (hflags.symm.trans htxDone)
  · rw [hraised]
    intro hne
    exact hflags.trans (h.raised hne)
  · rw [hconsumed]
    exact h.pairs

/-- A flag wait that takes the pending flags. -/
theorem take (h : s.Owned) {g : Gateway} {hal : HalStatus} (takes : s.gateway.takesFlags = true)
    (transmits : s.gateway.transmits = false) (hflags : g.flags = .none)
    (hbusy : g.rs422TxBusy = (s.gateway.rs422TxBusy && !s.gateway.flags.txDone))
    (hloaded : g.rs422.pc.loaded = false) : (s.noteTask hal g).Owned := by
  have haccepted : (s.noteTask hal g).accepted = s.accepted := by
    simp only [noteTask, transmits, Bool.false_eq_true, false_and, if_false]
  have houtstanding : (s.noteTask hal g).outstanding = s.outstanding := by
    simp only [noteTask, transmits, Bool.false_eq_true, false_and, if_false]
  have hraised : (s.noteTask hal g).raised = none := by
    simp only [noteTask, hflags, Rs422Flags.none, Bool.false_eq_true, if_false]
  have hnoDone : (s.noteTask hal g).gateway.flags.txDone = false := by
    show g.flags.txDone = false
    rw [hflags]
    rfl
  have hnotLoaded : (s.noteTask hal g).gateway.rs422.pc.loaded = true →
      (s.noteTask hal g).gateway.rs422TxBusy = false := by
    intro hpc
    rw [show (s.noteTask hal g).gateway.rs422.pc.loaded = false from hloaded] at hpc
    cases hpc
  cases htxDone : s.gateway.flags.txDone with
  | false =>
    have hconsumed : (s.noteTask hal g).consumed = s.consumed := by
      simp only [noteTask, htxDone, Bool.false_eq_true, and_false, if_false]
    have hbusy' : g.rs422TxBusy = s.gateway.rs422TxBusy := by
      rw [hbusy, htxDone, Bool.not_false, Bool.and_true]
    refine ⟨?_, ?_, ?_, ?_, ?_, hnotLoaded, ?_⟩
    · rw [haccepted, hconsumed]
      exact h.earlier
    · rw [haccepted, hconsumed, houtstanding]
      intro hidle
      obtain ⟨hout, -, hlast⟩ := h.idle (hbusy'.symm.trans hidle)
      exact ⟨hout, hnoDone, hlast⟩
    · rw [haccepted, houtstanding]
      exact h.last
    · intro hdone
      rw [hnoDone] at hdone
      cases hdone
    · intro hne
      exact absurd hraised hne
    · rw [hconsumed]
      exact h.pairs
  | true =>
    obtain ⟨hraisedBy, hout⟩ := h.pending htxDone
    have hconsumed :
        (s.noteTask hal g).consumed = s.consumed ++ [(some s.accepted, s.accepted)] := by
      simp only [noteTask, takes, htxDone, and_self, if_true, hraisedBy]
    refine ⟨?_, ?_, ?_, ?_, ?_, hnotLoaded, ?_⟩
    · rw [haccepted, hconsumed]
      intro n hpos hlt
      exact List.mem_append_left _ (h.earlier n hpos hlt)
    · rw [haccepted, hconsumed, houtstanding]
      intro _
      exact ⟨hout, hnoDone, fun _ => List.mem_append_right _ (List.mem_singleton.mpr rfl)⟩
    · rw [haccepted, houtstanding]
      exact h.last
    · intro hdone
      rw [hnoDone] at hdone
      cases hdone
    · intro hne
      exact absurd hraised hne
    · rw [hconsumed]
      intro e he
      rcases List.mem_append.mp he with he | he
      · exact h.pairs e he
      · rw [List.mem_singleton.mp he]

/-- `HAL_UART_Transmit_IT` answers. -/
theorem transmit (h : s.Owned) {g : Gateway} {hal : HalStatus}
    (takes : s.gateway.takesFlags = false) (transmits : s.gateway.transmits = true)
    (waits : s.gateway.rs422.pc.loaded = true)
    (hflags : g.flags = s.gateway.flags) (hbusy : g.rs422TxBusy = decide (hal = .ok))
    (hloaded : g.rs422.pc.loaded = false) : (s.noteTask hal g).Owned := by
  obtain ⟨hout, htxDone, hconsumedLast⟩ := h.idle (h.loaded waits)
  have htxDone' : g.flags.txDone = false := by rw [hflags, htxDone]
  have hraised : (s.noteTask hal g).raised = none := by
    simp only [noteTask, htxDone', Bool.false_eq_true, if_false]
  have hconsumed : (s.noteTask hal g).consumed = s.consumed := by
    simp only [noteTask, takes, Bool.false_eq_true, false_and, if_false]
  have hall : ∀ n, 1 ≤ n → n ≤ s.accepted → (some n, n) ∈ s.consumed := by
    intro n hpos hle
    rcases Nat.lt_or_eq_of_le hle with hlt | rfl
    · exact h.earlier n hpos hlt
    · exact hconsumedLast hpos
  have hnotLoaded : (s.noteTask hal g).gateway.rs422.pc.loaded = true →
      (s.noteTask hal g).gateway.rs422TxBusy = false := by
    intro hpc
    rw [show (s.noteTask hal g).gateway.rs422.pc.loaded = false from hloaded] at hpc
    cases hpc
  have hnotPending : (s.noteTask hal g).gateway.flags.txDone = true →
      (s.noteTask hal g).raised = some (s.noteTask hal g).accepted ∧
        (s.noteTask hal g).outstanding = none := by
    intro hdone
    rw [show (s.noteTask hal g).gateway.flags.txDone = false from htxDone'] at hdone
    cases hdone
  by_cases hok : hal = .ok
  · have haccepted : (s.noteTask hal g).accepted = s.accepted + 1 := by
      simp only [noteTask, transmits, hok, and_self, if_true]
    have houtstanding : (s.noteTask hal g).outstanding = some (s.accepted + 1) := by
      simp only [noteTask, transmits, hok, and_self, if_true]
    refine ⟨?_, ?_, ?_, hnotPending, fun hne => absurd hraised hne, hnotLoaded, ?_⟩
    · rw [haccepted, hconsumed]
      intro n hpos hlt
      exact hall n hpos (Nat.le_of_lt_succ hlt)
    · intro hidle
      rw [show (s.noteTask hal g).gateway.rs422TxBusy = _ from hbusy, decide_eq_true hok] at hidle
      cases hidle
    · rw [haccepted, houtstanding]
      intro n hn
      exact (Option.some.inj hn).symm
    · rw [hconsumed]
      exact h.pairs
  · have haccepted : (s.noteTask hal g).accepted = s.accepted := by
      simp only [noteTask, hok, and_false, if_false]
    have houtstanding : (s.noteTask hal g).outstanding = none := by
      simp only [noteTask, hok, and_false, if_false, hout]
    refine ⟨?_, ?_, ?_, hnotPending, fun hne => absurd hraised hne, hnotLoaded, ?_⟩
    · rw [haccepted, hconsumed]
      exact h.earlier
    · rw [haccepted, hconsumed]
      intro _
      exact ⟨houtstanding, htxDone', hconsumedLast⟩
    · rw [houtstanding]
      nofun
    · rw [hconsumed]
      exact h.pairs

theorem task (h : s.Owned) {g : Gateway} {hal : HalStatus} {late : Bool}
    (taken : s.gateway.rs422Step hal late = some g) : (s.noteTask hal g).Owned := by
  cases Gateway.rs422Step_txEffect taken with
  | keep same takes transmits loaded =>
    refine h.quiet takes transmits same.busy (by rw [same.flags]) ?_
    intro hpc
    rw [same.busy]
    exact h.loaded (loaded hpc)
  | dequeue flags busy frame takes transmits loaded =>
    refine h.quiet takes transmits busy (by rw [flags]) ?_
    intro hpc
    rw [loaded] at hpc
    cases hpc
  | take takes transmits flags busy frame loaded => exact h.take takes transmits flags busy loaded
  | arm encodes idle takes transmits flags busy =>
    -- no TX_DONE is pending here, so `osThreadFlagsClear` discards none
    have htxDone := (h.idle idle).2.1
    refine h.quiet takes transmits (busy.trans idle.symm) ?_ fun _ => busy
    rw [flags, htxDone]
  | transmit takes transmits waits flags busy frame loaded =>
    exact h.transmit takes transmits waits flags busy loaded

/-- A step that neither touches UART4 nor its flag. -/
theorem elsewhere (h : s.Owned) {g : Gateway} (hbusy : g.rs422TxBusy = s.gateway.rs422TxBusy)
    (htxDone : g.flags.txDone = s.gateway.flags.txDone)
    (hloaded : g.rs422.pc.loaded = true → s.gateway.rs422.pc.loaded = true) (reset : Bool) :
    UartGateway.Owned { s with gateway := g, resetUnapplied := reset } := by
  refine ⟨h.earlier, ?_, h.last, ?_, ?_, ?_, h.pairs⟩
  · intro hidle
    rw [show g.flags.txDone = _ from htxDone]
    exact h.idle (hbusy.symm.trans hidle)
  · intro hdone
    exact h.pending (htxDone.symm.trans hdone)
  · intro hne
    exact htxDone.trans (h.raised hne)
  · intro hpc
    exact hbusy.trans (h.loaded (hloaded hpc))

theorem step {a : UartAction} (h : s.Owned) (taken : s.step a = some s') : s'.Owned := by
  cases step_move taken with
  | task hal late g hg => exact h.task hg
  | flagError error g hg =>
    obtain ⟨hbusy, hflags, -, hloaded, -⟩ := Gateway.flagErrorStep_effect hg
    refine h.elsewhere hbusy (by rw [hflags]) ?_ _
    rw [hloaded]
    nofun
  | ethernet op hal g hg =>
    obtain ⟨hbusy, -, htask, -, htxDone⟩ := Gateway.ethernetStep_uart hg
    exact h.elsewhere hbusy htxDone (by rw [htask]; exact id) _
  | rx byte => exact h.elsewhere (g := s.gateway.uartRxCpltCallback byte) rfl rfl id _
  | rxError => exact h.elsewhere (g := s.gateway.uartErrorCallback) rfl rfl id _
  | txDone n hn =>
    obtain rfl := h.last n hn
    refine ⟨h.earlier, ?_, nofun, fun _ => ⟨hn, rfl⟩, fun _ => rfl, h.loaded, h.pairs⟩
    intro hidle
    exact absurd ((h.idle hidle).1.symm.trans hn) nofun
  | txEnd n hn =>
    refine ⟨h.earlier, ?_, nofun, ?_, h.raised, h.loaded, h.pairs⟩
    · intro hidle
      exact ⟨rfl, (h.idle hidle).2⟩
    · intro hdone
      exact ⟨(h.pending hdone).1, rfl⟩

theorem reachable (run : Reachable UartGateway.step unguarded .initial s) : s.Owned :=
  run.invariant initial fun _ _ _ h _ taken => h.step taken

end UartGateway.Owned

/-- UART4 in every run, with any timeouts and failing flag calls: as long as an accepted
    transmission has not had its TX_DONE consumed, `g_rs422_tx_busy` is set. `protocol_encode`
    writes `g_rs422_tx_frame` only while no transmission is outstanding. A TX_DONE is consumed on
    behalf of the frame that raised it, and none is pending while the UART is not busy. When
    `HAL_UART_Transmit_IT` is called nothing is outstanding, so it does not answer HAL_BUSY. -/
theorem uart4_transmitOwnership {s : UartGateway}
    (run : Reachable UartGateway.step unguarded .initial s) :
    (∀ n, 1 ≤ n → n ≤ s.accepted → (∀ e ∈ s.consumed, e.1 ≠ some n) →
        s.gateway.rs422TxBusy = true) ∧
      (s.gateway.encodes = true → s.outstanding = none) ∧
      (∀ a s', s.step a = some s' → s.gateway.encodes = false →
        s'.gateway.rs422TxFrame = s.gateway.rs422TxFrame) ∧
      (∀ e ∈ s.consumed, e.1 = some e.2) ∧
      (s.gateway.flags.txDone = true → s.gateway.rs422TxBusy = true) ∧
      (s.gateway.transmits = true →
        s.outstanding = none ∧ ∀ late, s.step (.task .busy late) = none) := by
  have h := UartGateway.Owned.reachable run
  refine ⟨?_, ?_, ?_, h.pairs, ?_, ?_⟩
  · intro n hpos hle hunconsumed
    refine Decidable.byContradiction fun hbusy => ?_
    have hidle := h.idle (Bool.eq_false_iff.mpr hbusy)
    rcases Nat.lt_or_eq_of_le hle with hlt | rfl
    · exact hunconsumed _ (h.earlier n hpos hlt) rfl
    · exact hunconsumed _ (hidle.2.2 hpos) rfl
  · intro hencodes
    have hidle : s.gateway.rs422TxBusy = false := by
      unfold Gateway.encodes at hencodes
      split at hencodes
      · rwa [Bool.not_eq_true'] at hencodes
      · rwa [Bool.not_eq_true'] at hencodes
      · cases hencodes
    exact (h.idle hidle).1
  · intro a s' taken hencodes
    exact UartGateway.step_frame taken hencodes
  · intro hdone
    refine Decidable.byContradiction fun hbusy => ?_
    rw [(h.idle (Bool.eq_false_iff.mpr hbusy)).2.1] at hdone
    cases hdone
  · intro htransmits
    have hout : s.outstanding = none :=
      (h.idle (h.loaded (Gateway.loaded_of_transmits htransmits))).1
    refine ⟨hout, fun late => ?_⟩
    have hconforms : ¬ s.Conforms .busy := fun hc => (hc htransmits).mp rfl hout
    simp only [UartGateway.step, if_neg hconforms]

/-- The transmission of a bring-up test takes too long: the next test finds the UART busy and does
    not encode its PING. -/
theorem uart4_transmitOwnership_timeout :
    ∃ s, Reachable UartGateway.step unguarded .initial s ∧ s.gateway.rs422.pc = .bringup ∧
      s.outstanding = some 1 ∧ s.gateway.rs422TxBusy = true ∧ s.gateway.encodes = false := by
  obtain ⟨s, run, htest⟩ := exists_reachable UartGateway.step unguarded .initial
    [.task .ok false, .task .ok false, .task .ok false, .task .ok false, .task .ok false,
      .flagError .resource, .task .ok true, .task .ok false, .task .ok false]
    (fun s => decide (s.gateway.rs422.pc = .bringup ∧ s.outstanding = some 1 ∧ s.accepted = 1 ∧
      s.consumed = [])) (by decide +kernel)
  obtain ⟨hpc, hout, haccepted, hconsumed⟩ := of_decide_eq_true htest
  obtain ⟨hbusy, hencode, -⟩ := uart4_transmitOwnership run
  refine ⟨s, run, hpc, hout, ?_, ?_⟩
  · apply hbusy 1 (Nat.le_refl 1) (Nat.le_of_eq haccepted.symm)
    rw [hconsumed]
    nofun
  · refine Bool.eq_false_iff.mpr fun hencodes => ?_
    rw [hencode hencodes] at hout
    cases hout

end Rs422Gateway
