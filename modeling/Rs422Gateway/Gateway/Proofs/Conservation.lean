import Rs422Gateway.Gateway.Proofs.Relaying
import Rs422Gateway.Gateway.Proofs.SessionIsolation

/-!
# Conservation

The counters of the three queues balance with their lengths, mod 2^32. EthernetTask counts what it
has done with a queue one step later; RS422Task, which no task interrupts, counts at once.
-/

namespace Rs422Gateway

open Transition

/-- A PING has been put on `rs422_cmd_queue`, or not, and that is not counted yet. -/
def EthernetPc.pingUncounted : EthernetPc → UInt32
  | .putCount _ _ => 1
  | _ => 0

/-- A PING has been put on `rs422_cmd_queue` and is not counted there yet. -/
def EthernetPc.putUncounted : EthernetPc → UInt32
  | .putCount true _ => 1
  | _ => 0

/-- A response has been taken off `tcp_response_queue` and is not counted yet. -/
def EthernetPc.takenUncounted : EthernetPc → UInt32
  | .discardCount _ _ => 1
  | .drainCount _ => 1
  | _ => 0

/-- A packet has been taken off `udp_telemetry_queue` and is not counted yet. -/
def EthernetPc.udpUncounted : EthernetPc → UInt32
  | .udpCount _ => 1
  | _ => 0

/-- EthernetTask is between an operation on a queue and its count. -/
def EthernetPc.counting : EthernetPc → Bool
  | .putCount _ _ | .discardCount _ _ | .drainCount _ | .udpCount _ => true
  | _ => false

theorem EthernetPc.uncounted_eq_zero {pc : EthernetPc} (h : pc.counting = false) :
    pc.pingUncounted = 0 ∧ pc.putUncounted = 0 ∧ pc.takenUncounted = 0 ∧ pc.udpUncounted = 0 := by
  cases pc <;> first | exact ⟨rfl, rfl, rfl, rfl⟩ | cases h

/-- The counters of the queues and of the PINGs and PONGs. -/
structure Gateway.Balanced (s : Gateway) : Prop where
  pings : s.counts.tcpPing =
    s.counts.cmdEnqueueSuccess + s.counts.cmdEnqueueFail + s.ethernet.pingUncounted
  commands : s.counts.cmdEnqueueSuccess + s.ethernet.putUncounted =
    s.counts.cmdDequeue + UInt32.ofNat s.cmdQueue.length
  pongs : s.counts.forwardedPongRx =
    s.counts.tcpResponseEnqueueSuccess + s.counts.tcpResponseEnqueueFail
  responses : s.counts.tcpResponseEnqueueSuccess =
    s.counts.tcpResponseDequeue + s.counts.tcpStaleResponseDrop +
      UInt32.ofNat s.tcpResponseQueue.length + s.ethernet.takenUncounted
  telemetry : s.counts.udpTelemetryEnqueueSuccess =
    s.counts.udpTelemetryDequeue + UInt32.ofNat s.udpTelemetryQueue.length +
      s.ethernet.udpUncounted

namespace Gateway.Balanced

variable {s : Gateway}

theorem initial : Gateway.initial.Balanced where
  pings := rfl
  commands := rfl
  pongs := rfl
  responses := rfl
  telemetry := rfl

theorem ofNat_length_append {α : Type} (xs : List α) (x : α) :
    UInt32.ofNat (xs ++ [x]).length = UInt32.ofNat xs.length + 1 := by
  rw [List.length_append, UInt32.ofNat_add]
  rfl

theorem ofNat_length_cons {α : Type} (xs : List α) (x : α) :
    UInt32.ofNat (x :: xs).length = UInt32.ofNat xs.length + 1 := by
  rw [List.length_cons, UInt32.ofNat_add]
  rfl

/-! ## RS422Task -/

theorem takeFlags (h : s.Balanced) : s.takeFlags.Balanced := by
  unfold Gateway.takeFlags handleTxDoneEvent handleTcpContextResetEvent
  cases s.flags.tcpContextReset <;> cases s.flags.txDone <;> exact { h with }

theorem enqueueTelemetry (h : s.Balanced) : s.enqueueTelemetry.Balanced := by
  unfold Gateway.enqueueTelemetry
  split
  · split
    · refine { h with telemetry := ?_ }
      have htelemetry := h.telemetry
      simp only [ofNat_length_append]
      grind
    · exact { h with }
  · exact h

theorem handlePong (h : s.Balanced) : s.handlePong.Balanced := by
  have hpongs := h.pongs
  have hresponses := h.responses
  unfold Gateway.handlePong enqueueResponse Gateway.takePending
  split
  · split
    · refine { h with pongs := ?_, responses := ?_ }
      · dsimp only
        grind
      · simp only [ofNat_length_append]
        grind
    · refine { h with pongs := ?_ }
      dsimp only
      grind
  · exact h

theorem processRxByte (h : s.Balanced) (byte : UInt8) : (s.processRxByte byte).Balanced := by
  have hfeed : (s.feedRs422 byte).Balanced := { h with }
  unfold Gateway.processRxByte
  split
  · refine handlePong ?_
    have hnote : (s.feedRs422 byte).noteRs422Frame.Balanced := { hfeed with }
    obtain ⟨received, hmatching⟩ :=
      noteMatchingPong_eq (s.feedRs422 byte).noteRs422Frame.enqueueTelemetry
    rw [hmatching]
    exact { hnote.enqueueTelemetry with }
  · exact hfeed

theorem forwardFailed (h : s.Balanced) : s.forwardFailed.Balanced := by
  unfold Gateway.forwardFailed
  split
  · exact { h with }
  · exact h

theorem returnWaitForTxComplete (h : s.Balanced) (pass : Bool) :
    (s.returnWaitForTxComplete pass).Balanced := by
  unfold Gateway.returnWaitForTxComplete
  split
  · split <;> exact { h with }
  · cases pass with
    | true => exact { h with }
    | false => exact { h.forwardFailed with }

theorem returnProcessRx (h : s.Balanced) (caller : RxCaller) :
    (s.returnProcessRx caller).Balanced := by
  cases caller with
  | txLoop => exact { h with }
  | txDone =>
    refine returnWaitForTxComplete ?_ true
    exact { h with }
  | pongLoop =>
    simp only [Gateway.returnProcessRx]
    split <;> exact { h with }
  | main => exact { h with }

theorem rs422Step {s' : Gateway} {hal : HalStatus} {late : Bool} (h : s.Balanced)
    (taken : s.rs422Step hal late = some s') : s'.Balanced := by
  cases rs422Step_move taken with
  | goto => exact { h with }
  | call => exact { h with }
  | returnWait pass => exact h.returnWaitForTxComplete pass
  | returnRx caller => exact h.returnProcessRx caller
  | receive caller byte rest =>
    have hpop : { s with rxRing := rest }.Balanced := { h with }
    exact hpop.processRxByte byte
  | take => exact { h.takeFlags with }
  | wake => exact { h.takeFlags with }
  | armBringup => exact { h with }
  | transmitBringup => exact { h with }
  | transmitBringupFailed => exact { h with }
  | nextTest => exact { h with }
  | enable => exact { h with }
  | dequeue command rest hpc queue =>
    have hcommands := h.commands
    rw [queue, ofNat_length_cons] at hcommands
    refine { h with commands := ?_ }
    show s.counts.cmdEnqueueSuccess + s.ethernet.putUncounted =
      s.counts.cmdDequeue + 1 + UInt32.ofNat rest.length
    grind
  | arm => exact { h with }
  | mark =>
    unfold Gateway.markPending
    split <;> exact { h with }
  | transmit => exact { h with }
  | transmitFailed =>
    have hnote : { s.noteTransmit with rs422TxBusy := false }.Balanced := { h with }
    exact { hnote.forwardFailed with }

/-! ## EthernetTask -/

/-- EthernetTask goes from a place at which everything is counted to another. -/
theorem ethernetGoto (h : s.Balanced) (before : s.ethernet.counting = false) {pc : EthernetPc}
    (after : pc.counting = false) : (s.ethernetGoto pc).Balanced := by
  obtain ⟨hpings, hcommands, hpongs, hresponses, htelemetry⟩ := h
  obtain ⟨bping, bput, btaken, budp⟩ := EthernetPc.uncounted_eq_zero before
  obtain ⟨aping, aput, ataken, audp⟩ := EthernetPc.uncounted_eq_zero after
  rw [bping, ← aping] at hpings
  rw [bput, ← aput] at hcommands
  rw [btaken, ← ataken] at hresponses
  rw [budp, ← audp] at htelemetry
  exact ⟨hpings, hcommands, hpongs, hresponses, htelemetry⟩

theorem loop (h : s.Balanced) (before : s.ethernet.counting = false) :
    (s.ethernetGoto .loop).Balanced := h.ethernetGoto before rfl

/-- The place of EthernetTask, written out. -/
theorem atPc (h : s.Balanced) {pc : EthernetPc} (hpc : s.ethernet = pc) :
    (s.ethernetGoto pc).Balanced := by
  subst hpc
  exact h

theorem ethernetBegin {s' : Gateway} {op : EthernetOp} (h : s.Balanced) (hpc : s.ethernet = .loop)
    (taken : s.ethernetBegin op = some s') : s'.Balanced := by
  have before : s.ethernet.counting = false := by rw [hpc]; rfl
  unfold Gateway.ethernetBegin at taken
  cases op with
  | invalidate =>
    cases taken
    exact { h.loop before with }
  | discard =>
    cases taken
    exact h.ethernetGoto before rfl
  | establish =>
    simp only at taken
    split at taken
    · cases taken
      exact { h.loop before with }
    · cases taken
  | receive bytes =>
    simp only at taken
    split at taken
    · cases taken
      exact h.ethernetGoto before rfl
    · cases taken
  | drain =>
    simp only at taken
    split at taken
    · cases taken
      exact h.ethernetGoto before rfl
    · cases taken
  | drainTelemetry =>
    cases taken
    exact h.ethernetGoto before rfl

/-- A PING is put on `rs422_cmd_queue`, or it is full. -/
theorem putCommand (h : s.Balanced) {rest : List UInt8} (hpc : s.ethernet = .put rest) :
    (s.countPing.putCommand rest).Balanced := by
  have hloop := h.loop (by rw [hpc]; rfl)
  have hpings := hloop.pings
  have hcommands := hloop.commands
  simp only [Gateway.ethernetGoto, EthernetPc.pingUncounted, EthernetPc.putUncounted]
    at hpings hcommands
  unfold Gateway.putCommand Gateway.countPing
  split
  · refine { hloop with pings := ?_, commands := ?_ }
    · simp only [EthernetPc.pingUncounted]
      grind
    · simp only [EthernetPc.putUncounted, ofNat_length_append]
      grind
  · refine { hloop with pings := ?_ }
    simp only [Gateway.ethernetGoto, EthernetPc.pingUncounted]
    grind

theorem ethernetStep {s' : Gateway} {op : EthernetOp} {hal : HalStatus} (h : s.Balanced)
    (taken : s.ethernetStep op hal = some s') : s'.Balanced := by
  cases ethernetStep_move taken with
  | start op s' hpc taken => exact h.ethernetBegin hpc taken
  | invalidate hpc =>
    exact { h.loop (by rw [hpc]; rfl) with }
  | discardEnd left caller hpc =>
    have before : s.ethernet.counting = false := by rw [hpc]; rfl
    cases caller with
    | loop => exact h.ethernetGoto before rfl
    | activate => exact h.ethernetGoto before rfl
  | discardPop left caller response rest hpc queue =>
    have hat := h.atPc hpc
    have hresponses := hat.responses
    simp only [Gateway.ethernetGoto, queue, ofNat_length_cons, EthernetPc.takenUncounted]
      at hresponses
    refine { hat with responses := ?_ }
    simp only [Gateway.ethernetGoto, EthernetPc.takenUncounted]
    grind
  | discardCount left caller hpc =>
    have hat := h.atPc hpc
    have hresponses := hat.responses
    simp only [Gateway.ethernetGoto, EthernetPc.takenUncounted] at hresponses
    refine { hat with responses := ?_ }
    simp only [Gateway.ethernetGoto, EthernetPc.takenUncounted]
    grind
  | activate hpc => exact { h.loop (by rw [hpc]; rfl) with }
  | feedEnd hpc => exact h.ethernetGoto (by rw [hpc]; rfl) rfl
  | feed byte rest hpc =>
    have hloop := h.loop (by rw [hpc]; rfl)
    unfold processTcpByte
    split <;> exact { hloop with }
  | put rest hpc => exact h.putCommand hpc
  | putSuccess rest hpc =>
    have hat := h.atPc hpc
    have hpings := hat.pings
    have hcommands := hat.commands
    simp only [Gateway.ethernetGoto, EthernetPc.pingUncounted, EthernetPc.putUncounted]
      at hpings hcommands
    refine { hat with pings := ?_, commands := ?_ }
    · simp only [Gateway.ethernetGoto, EthernetPc.pingUncounted]
      grind
    · simp only [Gateway.ethernetGoto, EthernetPc.putUncounted]
      grind
  | putFail rest hpc =>
    have hat := h.atPc hpc
    have hpings := hat.pings
    simp only [Gateway.ethernetGoto, EthernetPc.pingUncounted] at hpings
    refine { hat with pings := ?_ }
    simp only [Gateway.ethernetGoto, EthernetPc.pingUncounted]
    grind
  | signal rest hpc => exact { h.loop (by rw [hpc]; rfl) with }
  | drainEnd left hpc => exact h.ethernetGoto (by rw [hpc]; rfl) rfl
  | drainPop left response rest hpc queue =>
    have hat := h.atPc hpc
    have hresponses := hat.responses
    simp only [Gateway.ethernetGoto, queue, ofNat_length_cons, EthernetPc.takenUncounted]
      at hresponses
    refine { hat with responses := ?_ }
    simp only [Gateway.ethernetGoto, EthernetPc.takenUncounted]
    grind
  | drainCount left hpc =>
    have hat := h.atPc hpc
    have hresponses := hat.responses
    simp only [Gateway.ethernetGoto, EthernetPc.takenUncounted] at hresponses
    refine { hat with responses := ?_ }
    simp only [Gateway.ethernetGoto, EthernetPc.takenUncounted]
    grind
  | sendRefused left hpc => exact h.ethernetGoto (by rw [hpc]; rfl) rfl
  | send left frame hpc => exact { h.loop (by rw [hpc]; rfl) with }
  | udpEnd left hpc => exact h.ethernetGoto (by rw [hpc]; rfl) rfl
  | udpPop left packet rest hpc queue =>
    have hat := h.atPc hpc
    have htelemetry := hat.telemetry
    simp only [Gateway.ethernetGoto, queue, ofNat_length_cons, EthernetPc.udpUncounted]
      at htelemetry
    refine { hat with telemetry := ?_ }
    simp only [Gateway.ethernetGoto, EthernetPc.udpUncounted]
    grind
  | udpCount left hpc =>
    have hat := h.atPc hpc
    have htelemetry := hat.telemetry
    simp only [Gateway.ethernetGoto, EthernetPc.udpUncounted] at htelemetry
    refine { hat with telemetry := ?_ }
    simp only [Gateway.ethernetGoto, EthernetPc.udpUncounted]
    grind
  | udpRefused left hpc => exact h.ethernetGoto (by rw [hpc]; rfl) rfl
  | udpForward left frame next hpc after =>
    have hloop := h.loop (by rw [hpc]; rfl)
    rcases after with rfl | rfl <;> exact { hloop with }

theorem step {s' : Gateway} {a : GatewayAction} (h : s.Balanced) (taken : s.step a = some s') :
    s'.Balanced := by
  cases Gateway.step_move taken with
  | rs422 hal late s' taken => exact h.rs422Step taken
  | ethernet op hal s' blocked taken => exact h.ethernetStep taken
  | interrupt a rxRing rx txDone => exact { h with }

end Gateway.Balanced

/-- The gateway makes up, changes, repeats and reorders no frame: what it passes to the UART, to
    TCP and to UDP are subsequences of the valid frames it has parsed. Its counters balance with the
    three queues, whenever EthernetTask is not between an operation on a queue and its count. -/
theorem gateway_conservation {s : Gateway}
    (run : Reachable Gateway.step unguarded Gateway.initial s) :
    s.history.txFrames.Sublist s.history.pingFrames ∧
      s.history.tcpFrames.Sublist s.history.pongFrames ∧
      s.history.udpFrames.Sublist s.history.telemetryFrames ∧
      (s.ethernet.counting = false →
        s.counts.tcpPing = s.counts.cmdEnqueueSuccess + s.counts.cmdEnqueueFail ∧
          s.counts.cmdEnqueueSuccess = s.counts.cmdDequeue + UInt32.ofNat s.cmdQueue.length ∧
          s.counts.forwardedPongRx =
            s.counts.tcpResponseEnqueueSuccess + s.counts.tcpResponseEnqueueFail ∧
          s.counts.tcpResponseEnqueueSuccess =
            s.counts.tcpResponseDequeue + s.counts.tcpStaleResponseDrop +
              UInt32.ofNat s.tcpResponseQueue.length ∧
          s.counts.udpTelemetryEnqueueSuccess =
            s.counts.udpTelemetryDequeue + UInt32.ofNat s.udpTelemetryQueue.length) := by
  have hinv : s.Parses ∧ s.Relaying ∧ s.Balanced :=
    Reachable.invariant (P := fun s => s.Parses ∧ s.Relaying ∧ s.Balanced)
      ⟨.initial, .initial, .initial⟩
      (fun _ _ _ ⟨hparses, hrelaying, hbalanced⟩ _ taken =>
        ⟨hparses.step taken, hrelaying.step hparses taken, hbalanced.step taken⟩) run
  obtain ⟨-, hrelaying, hbalanced⟩ := hinv
  refine ⟨hrelaying.pings.sent_sublist, hrelaying.pongs.sent_sublist,
    hrelaying.telemetry.sent_sublist, ?_⟩
  intro counted
  obtain ⟨hping, hput, htaken, hudp⟩ := EthernetPc.uncounted_eq_zero counted
  obtain ⟨hpings, hcommands, hpongs, hresponses, htelemetry⟩ := hbalanced
  rw [hping, UInt32.add_zero] at hpings
  rw [hput, UInt32.add_zero] at hcommands
  rw [htaken, UInt32.add_zero] at hresponses
  rw [hudp, UInt32.add_zero] at htelemetry
  exact ⟨hpings, hcommands, hpongs, hresponses, htelemetry⟩

theorem gateway_conservation_answered :
    ∃ s, Reachable Gateway.step unguarded Gateway.initial s ∧
      s.history.txFrames = [pingSeven] ∧ s.history.tcpFrames = [pongSeven] ∧
      s.history.tcpFrames.Sublist s.history.pongFrames := by
  obtain ⟨s, run, htest⟩ := exists_reachable Gateway.step unguarded Gateway.initial
    (bringupRun ++ pingRun ++ rs422Run 5 ++ ethernetRun .drain 1 ++ restOfBringupRun ++ pongRun)
    (fun s => decide (s.history.txFrames = [pingSeven] ∧ s.history.tcpFrames = [pongSeven]))
    (by decide +kernel)
  obtain ⟨htx, htcp⟩ := of_decide_eq_true htest
  exact ⟨s, run, htx, htcp, (gateway_conservation run).2.1⟩

end Rs422Gateway
