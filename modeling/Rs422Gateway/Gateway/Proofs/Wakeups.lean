import Rs422Gateway.Gateway.Proofs.TxOwnership

/-!
# RS422Task misses no wake-up

The inner waits of RS422Task take all its event flags and act on two of them only. Behind each of
them the RX ring and `rs422_cmd_queue` are looked at again before RS422Task waits in its main loop,
so what is left there has come later and its flag is pending.
-/

namespace Rs422Gateway

open Transition

/-- EthernetTask has put a command and not yet set CMD_READY. -/
def EthernetPc.announcing : EthernetPc → Bool
  | .putCount true _ | .signal _ => true
  | _ => false

/-- RS422Task has found the RX ring empty and goes on to its main wait. -/
def Rs422Pc.settling : Rs422Pc → Bool
  | .dequeue | .mainWait => true
  | _ => false

namespace Gateway

variable {s s' : Gateway}

theorem returnWaitForTxComplete_settling (s : Gateway) (pass : Bool) :
    (s.returnWaitForTxComplete pass).rs422.pc.settling = false := by
  unfold returnWaitForTxComplete
  split
  · split <;> rfl
  · rfl

/-- RS422Task leaves its polls only when there is nothing left. -/
structure Settles (s s' : Gateway) : Prop where
  ring : s'.rs422.pc = .dequeue → s'.rxRing = []
  wait : s'.rs422.pc = .mainWait →
    s.rs422.pc = .dequeue ∧ s'.cmdQueue = [] ∧ s'.rxRing = s.rxRing ∧ s'.flags = s.flags

theorem Settles.of_not_settling (h : s'.rs422.pc.settling = false) : s.Settles s' where
  ring := by
    intro hpc
    rw [hpc] at h
    cases h
  wait := by
    intro hpc
    rw [hpc] at h
    cases h

theorem rs422Step_settles {hal : HalStatus} {late : Bool}
    (taken : s.rs422Step hal late = some s') : s.Settles s' := by
  unfold rs422Step at taken
  cases hpc : s.rs422.pc with
  | rx caller =>
    simp only [hpc] at taken
    split at taken
    case h_1 hring =>
      cases taken
      cases caller with
      | txLoop => exact .of_not_settling rfl
      | txDone => exact .of_not_settling (returnWaitForTxComplete_settling _ _)
      | pongLoop =>
        unfold returnProcessRx
        simp only
        split <;> exact .of_not_settling rfl
      | main => exact ⟨fun _ => hring, nofun⟩
    case h_2 byte rest hring =>
      cases taken
      have hpc' := processRxByte_pc { s with rxRing := rest } byte
      refine .of_not_settling ?_
      rw [hpc', hpc]
      rfl
  | dequeue =>
    simp only [hpc] at taken
    split at taken
    case h_1 hqueue =>
      cases taken
      exact ⟨nofun, fun _ => ⟨hpc, hqueue, rfl, rfl⟩⟩
    case h_2 =>
      cases taken
      exact .of_not_settling rfl
  | waitTx =>
    simp only [hpc] at taken
    split at taken
    · cases taken
      exact .of_not_settling rfl
    · cases taken
      exact .of_not_settling (returnWaitForTxComplete_settling _ _)
  | checkBusy =>
    simp only [hpc] at taken
    split at taken
    · cases taken
      exact .of_not_settling rfl
    split at taken
    · cases taken
      exact .of_not_settling (returnWaitForTxComplete_settling _ _)
    · cases taken
      exact .of_not_settling rfl
  | waitFlags =>
    simp only [hpc] at taken
    split at taken
    · cases taken
      exact .of_not_settling rfl
    split at taken
    · cases taken
      exact .of_not_settling (returnWaitForTxComplete_settling _ _)
    · cases taken
  | start | bringupTransmit | forwardTransmit | mainWait =>
    simp only [hpc] at taken
    split at taken <;> cases taken <;> exact .of_not_settling rfl
  | bringup | forward =>
    simp only [hpc] at taken
    split at taken
    · cases taken
      exact .of_not_settling rfl
    split at taken <;> cases taken <;> exact .of_not_settling rfl
  | pongWait =>
    simp only [hpc] at taken
    split at taken
    · cases taken
      exact .of_not_settling rfl
    split at taken
    · cases taken
      exact .of_not_settling rfl
    · cases taken
  | pollFlags | pongLoop | pongElapsed | testDone =>
    simp only [hpc] at taken
    cases taken
    split <;> exact .of_not_settling rfl
  | delay | enable | forwardPending =>
    simp only [hpc] at taken
    cases taken
    exact .of_not_settling rfl

theorem flagErrorStep_settles {error : FlagError} (taken : s.flagErrorStep error = some s') :
    s.Settles s' := by
  unfold flagErrorStep at taken
  cases hpc : s.rs422.pc with
  | bringup | forward =>
    simp only [hpc] at taken
    split at taken
    · cases taken
    split at taken <;> cases taken
    exact .of_not_settling rfl
  | pollFlags =>
    simp only [hpc] at taken
    cases taken
    split
    · exact .of_not_settling rfl
    · exact .of_not_settling (returnWaitForTxComplete_settling _ _)
  | waitFlags =>
    simp only [hpc] at taken
    cases taken
    exact .of_not_settling (returnWaitForTxComplete_settling _ _)
  | pongWait | mainWait =>
    simp only [hpc] at taken
    cases taken
    exact .of_not_settling rfl
  | _ =>
    simp only [hpc] at taken
    cases taken

/-- What EthernetTask does to the flags: it sets CMD_READY behind each put, and TCP_CONTEXT_RESET
    when it invalidates a connection. -/
theorem ethernetStep_flags {op : EthernetOp} {hal : HalStatus}
    (taken : s.ethernetStep op hal = some s') :
    s'.flags.rx = s.flags.rx ∧
      s'.flags.tcpContextReset = (s.flags.tcpContextReset || s.ethernet == .invalidate) ∧
      ((s.cmdQueue ≠ [] → s.flags.cmdReady = true ∨ s.ethernet.announcing = true) →
        s'.cmdQueue ≠ [] → s'.flags.cmdReady = true ∨ s'.ethernet.announcing = true) := by
  have hkeep : ∀ pc : EthernetPc, (pc == .invalidate) = false →
      s.flags.tcpContextReset = (s.flags.tcpContextReset || pc == .invalidate) := by
    intro pc hpc
    rw [hpc, Bool.or_false]
  -- a place where nothing has been put
  have hquiet : s.ethernet.announcing = false →
      (s.cmdQueue ≠ [] → s.flags.cmdReady = true ∨ s.ethernet.announcing = true) →
        s.cmdQueue ≠ [] → ∀ p, s.flags.cmdReady = true ∨ p := by
    intro hnot hready hne p
    rcases hready hne with hready | hannouncing
    · exact .inl hready
    · rw [hnot] at hannouncing
      cases hannouncing
  cases ethernetStep_move taken with
  | start op s' hpc taken =>
    rw [hpc]
    rw [hpc] at hquiet
    unfold ethernetBegin at taken
    cases op with
    | invalidate | discard | drainTelemetry =>
      cases taken
      exact ⟨rfl, hkeep _ rfl, fun hready hne => hquiet rfl hready hne _⟩
    | establish | receive | drain =>
      simp only at taken
      split at taken
      · cases taken
        exact ⟨rfl, hkeep _ rfl, fun hready hne => hquiet rfl hready hne _⟩
      · cases taken
  | invalidate hpc =>
    rw [hpc]
    rw [hpc] at hquiet
    exact ⟨rfl, (Bool.or_true _).symm, fun hready hne => hquiet rfl hready hne _⟩
  | discardEnd left caller hpc =>
    rw [hpc]
    rw [hpc] at hquiet
    cases caller <;> exact ⟨rfl, hkeep _ rfl, fun hready hne => hquiet rfl hready hne _⟩
  | feed byte rest hpc =>
    rw [hpc]
    rw [hpc] at hquiet
    unfold processTcpByte
    split <;> exact ⟨rfl, hkeep _ rfl, fun hready hne => hquiet rfl hready hne _⟩
  | put rest hpc =>
    rw [hpc]
    rw [hpc] at hquiet
    unfold putCommand
    split
    · exact ⟨rfl, hkeep _ rfl, fun _ _ => .inr rfl⟩
    · exact ⟨rfl, hkeep _ rfl, fun hready hne => hquiet rfl hready hne _⟩
  | putSuccess rest hpc =>
    rw [hpc]
    exact ⟨rfl, hkeep _ rfl, fun _ _ => .inr rfl⟩
  | signal rest hpc =>
    rw [hpc]
    exact ⟨rfl, hkeep _ rfl, fun _ _ => .inl rfl⟩
  | discardPop _ _ _ _ hpc | discardCount _ _ hpc | activate hpc | feedEnd hpc | putFail _ hpc
  | drainEnd _ hpc | drainPop _ _ _ hpc | drainCount _ hpc | sendRefused _ hpc | send _ _ hpc
  | udpEnd _ hpc | udpPop _ _ _ hpc | udpCount _ hpc | udpRefused _ hpc | udpForward _ _ _ hpc =>
    rw [hpc]
    rw [hpc] at hquiet
    exact ⟨rfl, hkeep _ rfl, fun hready hne => hquiet rfl hready hne _⟩

end Gateway

/-- The handler of a TCP_CONTEXT_RESET that is taken has emptied the pending slot. -/
theorem Gateway.rs422Step_reset {s s' : Gateway} {hal : HalStatus} {late : Bool}
    (taken : s.rs422Step hal late = some s') (takes : s.takesFlags = true)
    (reset : s.flags.tcpContextReset = true) :
    s'.tcpPingPending = false ∧ s'.tcpPingPendingSeq = 0 := by
  have hslot : s.takeFlags.tcpPingPending = false ∧ s.takeFlags.tcpPingPendingSeq = 0 := by
    unfold takeFlags handleTxDoneEvent handleTcpContextResetEvent
    rw [if_pos reset]
    split <;> exact ⟨rfl, rfl⟩
  unfold rs422Step at taken
  unfold takesFlags at takes
  cases hpc : s.rs422.pc with
  | pollFlags | waitFlags | pongWait | mainWait =>
    simp only [hpc] at taken takes
    rw [if_pos takes] at taken
    cases taken
    exact hslot
  | _ =>
    simp only [hpc] at takes
    cases takes

/-- What RS422Task has still to do is announced by a pending flag. -/
structure UartGateway.Awake (s : UartGateway) : Prop where
  owned : s.Owned
  ring : s.gateway.rs422.pc.settling = true → s.gateway.rxRing ≠ [] → s.gateway.flags.rx = true
  commands : s.gateway.rs422.pc = .mainWait → s.gateway.cmdQueue ≠ [] →
    s.gateway.flags.cmdReady = true ∨ s.gateway.ethernet.announcing = true
  reset : s.resetUnapplied = true → s.gateway.flags.tcpContextReset = true
  done : s.doneUnapplied ≠ none → s.doneUnapplied = s.raised

namespace UartGateway.Awake

variable {s s' : UartGateway}

theorem initial : UartGateway.initial.Awake where
  owned := .initial
  ring := nofun
  commands := nofun
  reset := nofun
  done := fun hne => absurd rfl hne

/-- A TX_DONE that is not applied is pending. -/
theorem pending (h : s.Awake) (hne : s.doneUnapplied ≠ none) :
    s.gateway.flags.txDone = true := by
  apply h.owned.raised
  rw [← h.done hne]
  exact hne

/-- A step of RS422Task: it goes to its main wait past empty polls. -/
theorem settles (h : s.Awake) {g : Gateway} (hsettles : s.gateway.Settles g) :
    (g.rs422.pc.settling = true → g.rxRing ≠ [] → g.flags.rx = true) ∧
      (g.rs422.pc = .mainWait → g.cmdQueue ≠ [] →
        g.flags.cmdReady = true ∨ g.ethernet.announcing = true) := by
  constructor
  · intro hpc hne
    cases hpc' : g.rs422.pc with
    | dequeue => exact absurd (hsettles.ring hpc') hne
    | mainWait =>
      obtain ⟨hfrom, -, hring, hflags⟩ := hsettles.wait hpc'
      rw [hring] at hne
      rw [hflags]
      exact h.ring (by rw [hfrom]; rfl) hne
    | _ =>
      rw [hpc'] at hpc
      cases hpc
  · intro hpc hne
    exact absurd (hsettles.wait hpc).2.1 hne

/-- A TCP_CONTEXT_RESET that is not applied by a step of RS422Task stays pending. -/
theorem task_reset (h : s.Awake) {g : Gateway} {hal : HalStatus} {late : Bool}
    (taken : s.gateway.rs422Step hal late = some g)
    (hunapplied : (s.noteTask hal g).resetUnapplied = true) : g.flags.tcpContextReset = true := by
  obtain ⟨hbefore, happlies⟩ := Bool.and_eq_true_iff.mp hunapplied
  have hpending := h.reset hbefore
  cases Gateway.rs422Step_txEffect taken with
  | keep same => exact (congrArg Rs422Flags.tcpContextReset same.flags).trans hpending
  | dequeue flags => exact (congrArg Rs422Flags.tcpContextReset flags).trans hpending
  | take takes =>
    obtain ⟨hslot, hseq⟩ := Gateway.rs422Step_reset taken takes hpending
    simp [appliesReset, takes, hpending, hslot, hseq] at happlies
  | arm encodes idle takes transmits flags =>
    exact (congrArg Rs422Flags.tcpContextReset flags).trans hpending
  | transmit takes transmits waits flags =>
    exact (congrArg Rs422Flags.tcpContextReset flags).trans hpending

/-- So does a TX_DONE. Neither the `osThreadFlagsClear` before a transmission nor the transmission
    finds one, since `g_rs422_tx_busy` is clear there. -/
theorem task_done (h : s.Awake) {g : Gateway} {hal : HalStatus} {late : Bool}
    (taken : s.gateway.rs422Step hal late = some g)
    (hunapplied : (s.noteTask hal g).doneUnapplied ≠ none) :
    (s.noteTask hal g).doneUnapplied = (s.noteTask hal g).raised := by
  simp only [noteTask] at hunapplied ⊢
  split at hunapplied
  case isTrue => exact absurd rfl hunapplied
  case isFalse happlies =>
    have hpending := h.pending hunapplied
    have hkept : g.flags.txDone = true →
        s.doneUnapplied = if g.flags.txDone = true then s.raised else none := by
      intro hdone
      rw [if_pos hdone]
      exact h.done hunapplied
    rw [if_neg happlies]
    cases Gateway.rs422Step_txEffect taken with
    | keep same => exact hkept ((congrArg Rs422Flags.txDone same.flags).trans hpending)
    | dequeue flags => exact hkept ((congrArg Rs422Flags.txDone flags).trans hpending)
    | take takes transmits flags busy =>
      have hbusy : s.gateway.rs422TxBusy = true := by
        refine Decidable.byContradiction fun hidle => ?_
        rw [(h.owned.idle (Bool.eq_false_iff.mpr hidle)).2.1] at hpending
        cases hpending
      have hlast := (h.done hunapplied).trans (h.owned.pending hpending).1
      rw [hbusy, hpending] at busy
      simp [appliesDone, takes, hpending, hbusy, busy, hlast] at happlies
    | arm encodes idle =>
      rw [(h.owned.idle idle).2.1] at hpending
      cases hpending
    | transmit takes transmits waits =>
      rw [(h.owned.idle (h.owned.loaded waits)).2.1] at hpending
      cases hpending

theorem task (h : s.Awake) {g : Gateway} {hal : HalStatus} {late : Bool}
    (taken : s.gateway.rs422Step hal late = some g) : (s.noteTask hal g).Awake := by
  obtain ⟨hring, hcommands⟩ := h.settles (Gateway.rs422Step_settles taken)
  exact ⟨h.owned.task taken, hring, hcommands, h.task_reset taken, h.task_done taken⟩

theorem step {a : UartAction} (h : s.Awake) (taken : s.step a = some s') : s'.Awake := by
  have howned := h.owned.step taken
  cases step_move taken with
  | task hal late g hg => exact h.task hg
  | flagError error g hg =>
    obtain ⟨hring, hcommands⟩ := h.settles (Gateway.flagErrorStep_settles hg)
    have hflags := (Gateway.flagErrorStep_effect hg).2.1
    refine ⟨howned, hring, hcommands, ?_, h.done⟩
    intro hreset
    exact (congrArg Rs422Flags.tcpContextReset hflags).trans (h.reset hreset)
  | ethernet op hal g hg =>
    obtain ⟨-, -, htask, hring, -⟩ := Gateway.ethernetStep_uart hg
    obtain ⟨hrx, hreset, hready⟩ := Gateway.ethernetStep_flags hg
    refine ⟨howned, ?_, ?_, ?_, h.done⟩
    · rw [htask, hring, hrx]
      exact h.ring
    · rw [htask]
      intro hpc
      exact hready (h.commands hpc)
    · intro hor
      rw [hreset]
      rcases Bool.or_eq_true_iff.mp hor with hunapplied | hsets
      · rw [h.reset hunapplied, Bool.true_or]
      · rw [show (s.gateway.ethernet == .invalidate) = true from hsets, Bool.or_true]
  | rx byte => exact ⟨howned, fun _ _ => rfl, h.commands, h.reset, h.done⟩
  | rxError => exact ⟨howned, fun _ _ => rfl, h.commands, h.reset, h.done⟩
  | txDone => exact ⟨howned, h.ring, h.commands, h.reset, fun _ => rfl⟩
  | txEnd => exact ⟨howned, h.ring, h.commands, h.reset, h.done⟩

theorem reachable (run : Reachable UartGateway.step unguarded .initial s) : s.Awake :=
  run.invariant initial fun _ _ _ h _ taken => h.step taken

end UartGateway.Awake

/-- Whenever RS422Task is blocked in the wait of its main loop, with none of its flags pending,
    there is nothing for it to do: the RX ring is empty, `rs422_cmd_queue` is empty unless
    EthernetTask is about to announce the command, for every TCP_CONTEXT_RESET that was set the
    pending slot has been emptied since, and for every TX_DONE the handler has cleared
    `g_rs422_tx_busy`. -/
theorem rs422Task_noLostWakeup {s : UartGateway}
    (run : Reachable UartGateway.step unguarded .initial s)
    (waits : s.gateway.rs422.pc = .mainWait) (none : s.gateway.flags.any = false) :
    s.gateway.rxRing = [] ∧
      (s.gateway.cmdQueue = [] ∨ s.gateway.ethernet.announcing = true) ∧
      s.resetUnapplied = false ∧ s.doneUnapplied = Option.none := by
  have hawake := UartGateway.Awake.reachable run
  simp only [Rs422Flags.any, Bool.or_eq_false_iff] at none
  obtain ⟨⟨⟨hrx, htxDone⟩, hready⟩, hreset⟩ := none
  refine ⟨?_, ?_, ?_, ?_⟩
  · refine Decidable.byContradiction fun hne => ?_
    rw [hawake.ring (by rw [waits]; rfl) hne] at hrx
    cases hrx
  · by_cases hne : s.gateway.cmdQueue = []
    · exact .inl hne
    · rcases hawake.commands waits hne with hcmd | hannouncing
      · rw [hcmd] at hready
        cases hready
      · exact .inr hannouncing
  · refine Bool.eq_false_iff.mpr fun hunapplied => ?_
    rw [hawake.reset hunapplied] at hreset
    cases hreset
  · refine Decidable.byContradiction fun hne => ?_
    rw [hawake.pending hne] at htxDone
    cases htxDone

/-- RS422Task is blocked when EthernetTask puts a PING and has not yet announced it. -/
theorem rs422Task_noLostWakeup_put :
    ∃ s, Reachable UartGateway.step unguarded .initial s ∧ s.gateway.rs422.pc = .mainWait ∧
      s.gateway.flags.any = false ∧ s.gateway.cmdQueue ≠ [] ∧ s.gateway.rxRing = [] ∧
      s.gateway.ethernet.announcing = true := by
  obtain ⟨s, run, htest⟩ := exists_reachable UartGateway.step unguarded .initial
    (List.flatten
      [[.task .error false, .task .ok false, .rx 0xAA], List.replicate 6 (.task .ok false),
        [.ethernet .establish .ok, .ethernet .drain .ok, .ethernet .drain .ok,
          .ethernet (.receive [0xAA, 0x55, 0x01, 0x01, 0x00, 0x07, 0x00, 0x00, 0x64, 0x71]) .ok],
        List.replicate 11 (.ethernet .drain .ok)])
    (fun s => decide (s.gateway.rs422.pc = .mainWait ∧ s.gateway.flags.any = false ∧
      s.gateway.cmdQueue.length = 1)) (by decide +kernel)
  obtain ⟨hpc, hnone, hlength⟩ := of_decide_eq_true htest
  have hne : s.gateway.cmdQueue ≠ [] := List.ne_nil_of_length_eq_add_one hlength
  obtain ⟨hring, hqueue, -⟩ := rs422Task_noLostWakeup run hpc hnone
  exact ⟨s, run, hpc, hnone, hne, hring, hqueue.resolve_left hne⟩

end Rs422Gateway
