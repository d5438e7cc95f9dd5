import Rs422Gateway.Gateway.Proofs.SessionIsolation

/-!
# Pipelined requests

`rs422_cmd_queue` holds eight PINGs, the pending slot remembers one. As long as the slot is only
taken while no forwarded PING waits for its PONG, each PONG that answers a PING finds it there.
-/

namespace Rs422Gateway

open Transition

/-- A step that takes the pending slot for a PING takes it when every PING that was forwarded in the
    present session is answered. -/
def Gateway.ForwardsAnswered (s : Gateway) : GatewayAction → Prop
  | .rs422 _ _ =>
      s.rs422.pc = .forwardPending → s.rs422Command.packet.msgId = msgPing →
        s.tcpSessionActive = true → s.history.unanswered = []
  | _ => True

instance (s : Gateway) (a : GatewayAction) : Decidable (s.ForwardsAnswered a) :=
  match a with
  | .rs422 _ _ => inferInstanceAs (Decidable (_ → _ → _ → _))
  | .ethernet _ _ => .isTrue trivial
  | .uartRx _ => .isTrue trivial
  | .uartError => .isTrue trivial
  | .uartTxDone => .isTrue trivial

/-- The next byte of the RX ring completes a PONG that answers a PING which was forwarded in the
    present session and has no answer yet. -/
def Gateway.DeliversAnswer (s : Gateway) (byte : UInt8) : Prop :=
  s.rs422Event byte = .frame ∧ (s.feedRs422 byte).rs422ReceivedPacket.msgId = msgPong ∧
    (s.feedRs422 byte).rs422ReceivedPacket.seq ∈ s.history.unanswered

instance (s : Gateway) (byte : UInt8) : Decidable (s.DeliversAnswer byte) :=
  inferInstanceAs (Decidable (_ ∧ _ ∧ _))

/-- The step to `s'` puts a packet on `tcp_response_queue` or counts that it is full. -/
def Gateway.Keeps (s s' : Gateway) (packet : ProtocolPacket) : Prop :=
  s'.tcpResponseQueue.map Response.packet = s.tcpResponseQueue.map Response.packet ++ [packet] ∨
    s'.counts.tcpResponseEnqueueFail = s.counts.tcpResponseEnqueueFail + 1

instance (s s' : Gateway) (packet : ProtocolPacket) : Decidable (s.Keeps s' packet) :=
  inferInstanceAs (Decidable (_ ∨ _))

/-- A PONG that answers a PING is not dropped without a trace by the next step of RS422Task. -/
def Gateway.KeepsAnswers (s : Gateway) : Prop :=
  ∀ caller byte rest, s.rs422.pc = .rx caller → s.rxRing = byte :: rest → s.DeliversAnswer byte →
    ∀ hal late s', s.step (.rs422 hal late) = some s' →
      s.Keeps s' (s.feedRs422 byte).rs422ReceivedPacket

/-- The step puts a PONG that matches the pending slot on the queue, or counts that it is full. -/
theorem Gateway.keeps_handlePong {s : Gateway} (hmatch : s.matchesPending) :
    s.Keeps s.handlePong s.rs422ReceivedPacket := by
  unfold handlePong enqueueResponse
  rw [if_pos hmatch]
  split
  · left
    exact List.map_append
  · right
    rfl

theorem Gateway.keeps_handleRs422Frame {s : Gateway} (hmatch : s.matchesPending) :
    s.Keeps s.handleRs422Frame s.rs422ReceivedPacket := by
  have hpong : s.noteRs422Frame.rs422ReceivedPacket.msgId = msgPong := hmatch.1
  have htelemetry : s.noteRs422Frame.enqueueTelemetry = s.noteRs422Frame := by
    refine if_neg fun hboth => ?_
    rw [hpong] at hboth
    exact absurd hboth.1 (by decide)
  unfold handleRs422Frame noteMatchingPong
  rw [htelemetry]
  split
  · exact keeps_handlePong (s := { s.noteRs422Frame with rs422 := _ }) hmatch
  · exact keeps_handlePong (s := s.noteRs422Frame) hmatch

/-- The PINGs of the present session that are forwarded, or being forwarded, and not answered. -/
def History.outstanding (history : History) : List UInt16 :=
  history.inFlight.toList ++ history.unanswered

/-- RS422Task can still fail to forward the PING in the pending slot. -/
def Rs422Task.forwarding (task : Rs422Task) : Prop :=
  task.pc = .forwardTransmit ∨ task.pc.waiting = true ∧ task.txCaller = .forward

/-- At most one PING of the session is outstanding, and it is in the pending slot. -/
structure Gateway.OneOutstanding (s : Gateway) : Prop where
  slot : ∀ seq ∈ s.history.outstanding, s.tcpPingPending = true ∧ s.tcpPingPendingSeq = seq
  single : s.history.outstanding.length ≤ 1
  inactive : s.tcpSessionActive = false → s.history.outstanding = []
  invalidating : s.ethernet = .invalidate → s.tcpSessionActive = false
  reset : s.flags.tcpContextReset = true → s.tcpSessionActive = false
  forwarding : s.rs422.forwarding → s.rs422Command.packet.msgId = msgPing →
    s.history.unanswered = []

namespace Gateway.OneOutstanding

variable {s : Gateway}

theorem initial : Gateway.initial.OneOutstanding where
  slot := nofun
  single := Nat.zero_le _
  inactive := fun _ => rfl
  invalidating := nofun
  reset := nofun
  forwarding := fun _ _ => rfl

/-! ## RS422Task -/

/-- RS422Task goes to a place at which it does not begin to forward. -/
theorem atPc (h : s.OneOutstanding) {task : Rs422Task}
    (hforwarding : task.forwarding → s.rs422.forwarding) :
    { s with rs422 := task }.OneOutstanding :=
  { h with forwarding := fun hf => h.forwarding (hforwarding hf) }

/-- RS422Task is not forwarding at a place that is neither. -/
theorem not_forwarding {task : Rs422Task} {p : Prop} (hne : task.pc ≠ .forwardTransmit)
    (hwaiting : task.pc.waiting = false) (hf : task.forwarding) : p := by
  rcases hf with hpc | ⟨hwait, -⟩
  · exact absurd hpc hne
  · rw [hwaiting] at hwait
    cases hwait

theorem forwarding_of_waiting {task task' : Rs422Task}
    (waits : task'.pc.waiting = true → task.pc.waiting = true) (holds : task'.pc.holding = false)
    (caller : task'.txCaller = task.txCaller) (hf : task'.forwarding) : task.forwarding := by
  rcases hf with hpc | ⟨hwaiting, hcaller⟩
  · rw [hpc] at holds
    cases holds
  · exact .inr ⟨waits hwaiting, caller ▸ hcaller⟩

theorem rs422Goto (h : s.OneOutstanding) {pc : Rs422Pc}
    (waits : pc.waiting = true → s.rs422.pc.waiting = true) (holds : pc.holding = false) :
    (s.rs422Goto pc).OneOutstanding :=
  h.atPc (forwarding_of_waiting waits holds rfl)

theorem callProcessRx (h : s.OneOutstanding) {caller : RxCaller}
    (waits : (Rs422Pc.rx caller).waiting = true → s.rs422.pc.waiting = true) :
    (s.callProcessRx caller).OneOutstanding :=
  h.atPc (forwarding_of_waiting waits rfl rfl)

/-- The pending slot is emptied when no PING is unanswered. -/
theorem clearPending (h : s.OneOutstanding) (hunanswered : s.history.unanswered = []) :
    s.clearPending.OneOutstanding := by
  have hnone : s.clearPending.history.outstanding = [] := by
    show [] ++ s.history.unanswered = []
    rw [hunanswered]
    rfl
  exact
    { h with
      slot := fun seq hseq => by
        rw [hnone] at hseq
        cases hseq
      single := by
        rw [hnone]
        exact Nat.zero_le _
      inactive := fun _ => hnone }

theorem unanswered_nil_of_inactive (h : s.OneOutstanding) (hactive : s.tcpSessionActive = false) :
    s.history.unanswered = [] :=
  (List.append_eq_nil_iff.mp (h.inactive hactive)).2

theorem takeFlags (h : s.OneOutstanding) : s.takeFlags.OneOutstanding := by
  have htaken : { s with flags := .none }.OneOutstanding := { h with reset := nofun }
  have hreset :
      ({ s with flags := .none }.handleTcpContextResetEvent s.flags).OneOutstanding := by
    unfold handleTcpContextResetEvent
    split
    case isTrue hflag => exact htaken.clearPending (h.unanswered_nil_of_inactive (h.reset hflag))
    case isFalse => exact htaken
  unfold Gateway.takeFlags handleTxDoneEvent
  split
  · exact { hreset with }
  · exact hreset

/-- The match of the only outstanding PING leaves none. -/
theorem takePending (h : s.OneOutstanding) (hmatch : s.matchesPending) :
    s.takePending.OneOutstanding := by
  obtain ⟨-, -, -, hseq⟩ := hmatch
  have hall : ∀ seq ∈ s.history.outstanding, seq = s.rs422ReceivedPacket.seq := fun seq hmem =>
    (h.slot seq hmem).2.symm.trans hseq.symm
  have hsingle := h.single
  have hnone : s.takePending.history.outstanding = [] := by
    unfold Gateway.takePending
    unfold History.outstanding at hall hsingle ⊢
    cases hflight : s.history.inFlight with
    | none =>
      simp only [hflight, Option.toList_none, List.nil_append] at hall hsingle ⊢
      cases hun : s.history.unanswered with
      | nil => rfl
      | cons seq rest =>
        rw [hun] at hall hsingle
        rw [hall seq List.mem_cons_self]
        simpa using hsingle
    | some seq =>
      have hequal := hall seq (by rw [hflight]; exact List.mem_cons_self)
      simp only [hflight, Option.toList_some, List.length_append, List.length_cons,
        List.length_nil] at hsingle
      have hun : s.history.unanswered = [] := List.length_eq_zero_iff.mp (by omega)
      simp only [hequal, hun, if_true, Option.toList_none, List.nil_append]
  have hun : s.takePending.history.unanswered = [] := (List.append_eq_nil_iff.mp hnone).2
  exact
    { h with
      slot := fun seq hseq => by
        rw [hnone] at hseq
        cases hseq
      single := by
        rw [hnone]
        exact Nat.zero_le _
      inactive := fun _ => hnone
      forwarding := fun _ _ => hun }

theorem handlePong (h : s.OneOutstanding) : s.handlePong.OneOutstanding := by
  unfold Gateway.handlePong
  split
  case isTrue hmatch =>
    have htake := h.takePending hmatch
    unfold enqueueResponse
    split
    · exact { htake with }
    · exact { htake with }
  case isFalse => exact h

theorem processRxByte (h : s.OneOutstanding) (byte : UInt8) :
    (s.processRxByte byte).OneOutstanding := by
  have hfeed : (s.feedRs422 byte).OneOutstanding := { h with }
  rcases processRxByte_cases s byte with heq | ⟨queue, success, fail, received, heq⟩
  · rw [heq]
    exact hfeed
  · rw [heq]
    exact handlePong { hfeed with }

theorem forwardFailed (h : s.OneOutstanding) (hf : s.rs422.forwarding) :
    s.forwardFailed.OneOutstanding := by
  unfold Gateway.forwardFailed
  split
  case isTrue hping => exact h.clearPending (h.forwarding hf hping)
  case isFalse => exact h

/-- A PING is outstanding before and after `rs422_forward_packet` has succeeded. -/
theorem forwardPassed (h : s.OneOutstanding) :
    (s.forwardPassed.callProcessRx .main).OneOutstanding :=
  { h with forwarding := not_forwarding nofun rfl }

theorem returnWaitForTxComplete (h : s.OneOutstanding) (waits : s.rs422.pc.waiting = true)
    (pass : Bool) : (s.returnWaitForTxComplete pass).OneOutstanding := by
  unfold Gateway.returnWaitForTxComplete
  split
  case h_1 =>
    split
    · exact h.rs422Goto nofun rfl
    · exact h.rs422Goto nofun rfl
  case h_2 hcaller =>
    cases pass with
    | true => exact h.forwardPassed
    | false => exact (h.forwardFailed (.inr ⟨waits, hcaller⟩)).callProcessRx nofun

theorem returnProcessRx (h : s.OneOutstanding) {caller : RxCaller}
    (hpc : s.rs422.pc = .rx caller) : (s.returnProcessRx caller).OneOutstanding := by
  cases caller with
  | txLoop => exact h.atPc (forwarding_of_waiting (fun _ => by rw [hpc]; rfl) rfl rfl)
  | txDone =>
    refine returnWaitForTxComplete ?_ (by rw [hpc]; rfl) true
    exact h.atPc id
  | pongLoop =>
    simp only [Gateway.returnProcessRx]
    split
    · exact h.rs422Goto (by rintro ⟨⟩) rfl
    · exact h.rs422Goto (by rintro ⟨⟩) rfl
  | main => exact h.rs422Goto (by rintro ⟨⟩) rfl

/-- The slot is taken when no PING is unanswered. -/
theorem markPending (h : s.OneOutstanding)
    (answered : s.rs422Command.packet.msgId = msgPing → s.tcpSessionActive = true →
      s.history.unanswered = []) : (s.markPending.rs422Goto .forwardTransmit).OneOutstanding := by
  unfold Gateway.markPending
  split
  case isTrue hmark =>
    obtain ⟨hping, hactive⟩ := hmark
    have hunanswered := answered hping hactive
    refine { h with slot := ?_, single := ?_, inactive := ?_, forwarding := fun _ _ => hunanswered }
    · intro seq hseq
      have hmem : seq ∈ [s.rs422Command.packet.seq] ++ s.history.unanswered := hseq
      rw [hunanswered] at hmem
      exact ⟨rfl, (List.mem_singleton.mp hmem).symm⟩
    · show ([s.rs422Command.packet.seq] ++ s.history.unanswered).length ≤ 1
      rw [hunanswered]
      exact Nat.le_refl _
    · intro hinactive
      have hinactive' : s.tcpSessionActive = false := hinactive
      rw [hactive] at hinactive'
      cases hinactive'
  case isFalse hmark =>
    refine { h with forwarding := fun _ hping => h.unanswered_nil_of_inactive ?_ }
    exact Bool.eq_false_iff.mpr fun hactive => hmark ⟨hping, hactive⟩

theorem takeFlags_rs422 (s : Gateway) : s.takeFlags.rs422 = s.rs422 := by
  unfold Gateway.takeFlags handleTxDoneEvent handleTcpContextResetEvent
  cases s.flags.tcpContextReset <;> cases s.flags.txDone <;> rfl

theorem rs422Step {s' : Gateway} {hal : HalStatus} {late : Bool} (h : s.OneOutstanding)
    (answered : s.ForwardsAnswered (.rs422 hal late)) (taken : s.rs422Step hal late = some s') :
    s'.OneOutstanding := by
  cases rs422Step_move taken with
  | goto pc waits holds => exact h.rs422Goto waits holds
  | call caller waits => exact h.callProcessRx waits
  | returnWait pass waits => exact h.returnWaitForTxComplete waits pass
  | returnRx caller hpc => exact h.returnProcessRx hpc
  | receive caller byte rest =>
    have hpop : { s with rxRing := rest }.OneOutstanding := { h with }
    exact hpop.processRxByte byte
  | take pc waits holds =>
    exact h.takeFlags.atPc (forwarding_of_waiting (takeFlags_rs422 s ▸ waits) holds rfl)
  | wake => exact h.takeFlags.callProcessRx nofun
  | armBringup => exact { h with forwarding := not_forwarding nofun rfl }
  | transmitBringup =>
    refine { h with forwarding := ?_ }
    intro hf
    rcases hf with hpc | ⟨-, hcaller⟩
    · cases hpc
    · cases hcaller
  | transmitBringupFailed =>
    have hidle : { s with rs422TxBusy := false }.OneOutstanding := { h with }
    exact hidle.rs422Goto nofun rfl
  | nextTest => exact h.atPc (forwarding_of_waiting nofun rfl rfl)
  | enable =>
    have hon : { s with telemetryForwardingEnabled := true }.OneOutstanding := { h with }
    exact hon.callProcessRx nofun
  | dequeue => exact { h with forwarding := not_forwarding nofun rfl }
  | arm => exact { h with forwarding := not_forwarding nofun rfl }
  | mark hpc => exact h.markPending fun hping hactive => answered hpc hping hactive
  | transmit hpc => exact { h with forwarding := fun _ hping => h.forwarding (.inl hpc) hping }
  | transmitFailed hpc =>
    have hnote : { s.noteTransmit with rs422TxBusy := false }.OneOutstanding := { h with }
    exact (hnote.forwardFailed (.inl hpc)).callProcessRx nofun

/-! ## EthernetTask -/

/-- A place outside `w5500_tcp_invalidate_connection_context`. -/
theorem ethernetGoto (h : s.OneOutstanding) {pc : EthernetPc} (hpc : pc ≠ .invalidate) :
    (s.ethernetGoto pc).OneOutstanding :=
  { h with invalidating := fun hp => absurd hp hpc }

theorem endSession (h : s.OneOutstanding) :
    (s.endSession.ethernetGoto .invalidate).OneOutstanding :=
  { h with
    slot := nofun
    single := Nat.zero_le _
    inactive := fun _ => rfl
    invalidating := fun _ => rfl
    reset := fun _ => rfl
    forwarding := fun _ _ => rfl }

theorem ethernetBegin {s' : Gateway} {op : EthernetOp} (h : s.OneOutstanding)
    (taken : s.ethernetBegin op = some s') : s'.OneOutstanding := by
  unfold Gateway.ethernetBegin at taken
  cases op with
  | invalidate =>
    cases taken
    exact h.endSession
  | discard =>
    cases taken
    exact h.ethernetGoto nofun
  | establish =>
    simp only at taken
    split at taken
    · cases taken
      have hinit : s.initTcpParser.OneOutstanding := { h with }
      exact hinit.ethernetGoto nofun
    · cases taken
  | receive bytes =>
    simp only at taken
    split at taken
    · cases taken
      exact h.ethernetGoto nofun
    · cases taken
  | drain =>
    simp only at taken
    split at taken
    · cases taken
      exact h.ethernetGoto nofun
    · cases taken
  | drainTelemetry =>
    cases taken
    exact h.ethernetGoto nofun

theorem ethernetStep {s' : Gateway} {op : EthernetOp} {hal : HalStatus} (h : s.OneOutstanding)
    (blocked : s.rs422Blocked) (taken : s.ethernetStep op hal = some s') : s'.OneOutstanding := by
  cases ethernetStep_move taken with
  | start op s' hpc taken => exact h.ethernetBegin taken
  | invalidate hpc =>
    exact { h with invalidating := by rintro ⟨⟩, reset := fun _ => h.invalidating hpc }
  | discardEnd left caller =>
    cases caller with
    | loop => exact h.ethernetGoto (by simp)
    | activate => exact h.ethernetGoto (by simp)
  | discardPop => exact { h with invalidating := by rintro ⟨⟩ }
  | discardCount => exact { h with invalidating := by rintro ⟨⟩ }
  | activate =>
    have hnone : s.flags.tcpContextReset = true → False := by
      intro hreset
      have hany := blocked.2
      simp only [Rs422Flags.any, hreset, Bool.or_true] at hany
      cases hany
    exact
      { h with
        inactive := by rintro ⟨⟩
        invalidating := by rintro ⟨⟩
        reset := fun hreset => (hnone hreset).elim }
  | feedEnd => exact h.ethernetGoto (by simp)
  | feed byte rest =>
    have hfeed : (s.feedTcp byte).OneOutstanding := { h with }
    unfold processTcpByte
    split
    · have hnote : (s.feedTcp byte).notePingFrame.OneOutstanding := { hfeed with }
      exact hnote.ethernetGoto (by simp)
    · exact hfeed.ethernetGoto (by simp)
  | put rest =>
    have hcount : s.countPing.OneOutstanding := { h with }
    unfold putCommand
    split
    · exact { hcount with invalidating := by rintro ⟨⟩ }
    · exact hcount.ethernetGoto (by simp)
  | putSuccess => exact { h with invalidating := by rintro ⟨⟩ }
  | putFail => exact { h with invalidating := by rintro ⟨⟩ }
  | signal => exact { h with invalidating := by rintro ⟨⟩ }
  | drainEnd => exact h.ethernetGoto (by simp)
  | drainPop => exact { h with invalidating := by rintro ⟨⟩ }
  | drainCount => exact { h with invalidating := by rintro ⟨⟩ }
  | sendRefused => exact h.ethernetGoto (by simp)
  | send => exact { h with invalidating := by rintro ⟨⟩ }
  | udpEnd => exact h.ethernetGoto (by simp)
  | udpPop => exact { h with invalidating := by rintro ⟨⟩ }
  | udpCount => exact { h with invalidating := by rintro ⟨⟩ }
  | udpRefused => exact h.ethernetGoto (by simp)
  | udpForward left frame next hpc after =>
    have hnote : (s.noteUdpSend frame).OneOutstanding := { h with }
    rcases after with rfl | rfl
    · exact hnote.ethernetGoto (by simp)
    · exact hnote.ethernetGoto (by simp)

theorem step {s' : Gateway} {a : GatewayAction} (h : s.OneOutstanding)
    (answered : s.ForwardsAnswered a) (taken : s.step a = some s') : s'.OneOutstanding := by
  cases Gateway.step_move taken with
  | rs422 hal late s' taken => exact h.rs422Step answered taken
  | ethernet op hal s' blocked taken => exact h.ethernetStep blocked taken
  | interrupt a rxRing rx txDone => exact { h with }

/-- A PONG that answers the outstanding PING matches the pending slot. -/
theorem matchesPending (h : s.OneOutstanding) {packet : ProtocolPacket}
    (hpong : packet.msgId = msgPong) (hmem : packet.seq ∈ s.history.unanswered) :
    { s with rs422ReceivedPacket := packet }.matchesPending := by
  obtain ⟨hpending, hseq⟩ := h.slot packet.seq (List.mem_append_right _ hmem)
  refine ⟨hpong, ?_, hpending, hseq.symm⟩
  cases hactive : s.tcpSessionActive with
  | true => rfl
  | false =>
    rw [h.unanswered_nil_of_inactive hactive] at hmem
    cases hmem

theorem keepsAnswers (h : s.OneOutstanding) : s.KeepsAnswers := by
  intro caller byte rest hpc hring ⟨hevent, hpong, hmem⟩ hal late s' taken
  have hmatch : ({ s with rxRing := rest }.feedRs422 byte).matchesPending :=
    h.matchesPending hpong hmem
  have htaken : s' = ({ s with rxRing := rest }.feedRs422 byte).handleRs422Frame := by
    simp only [Gateway.step, Gateway.rs422Step, hpc, hring] at taken
    cases taken
    exact if_pos hevent
  rw [htaken]
  exact keeps_handleRs422Frame hmatch

end Gateway.OneOutstanding

/-- In every run in which a PING is only forwarded when the PINGs forwarded before it in the session
    are answered, every PONG delivered by `g_rs422_parser` that answers a forwarded PING is put on
    `tcp_response_queue`, or counted when that is full. -/
theorem gateway_keepsAnswers {s : Gateway}
    (run : Reachable Gateway.step Gateway.ForwardsAnswered Gateway.initial s) : s.KeepsAnswers := by
  have hinv : s.OneOutstanding :=
    Reachable.invariant (P := Gateway.OneOutstanding) .initial
      (fun _ _ _ h answered taken => h.step answered taken) run
  exact hinv.keepsAnswers

/-- A PING is forwarded and answered, and RS422Task is about to take the last byte of the PONG. -/
def answerRun : List GatewayAction :=
  bringupRun ++ pingRun ++ rs422Run 5 ++ ethernetRun .drain 1 ++ restOfBringupRun ++ rs422Run 10 ++
    .uartTxDone :: rs422Run 4 ++ pongSeven.map .uartRx ++ rs422Run 10

theorem gateway_keepsAnswers_pong :
    ∃ s, Reachable Gateway.step Gateway.ForwardsAnswered Gateway.initial s ∧
      (∃ byte, s.rxRing = [byte] ∧ s.DeliversAnswer byte) ∧ s.KeepsAnswers := by
  obtain ⟨s, run, htest⟩ := exists_reachable Gateway.step Gateway.ForwardsAnswered Gateway.initial
    answerRun
    (fun s => decide (s.rxRing = [0xA1] ∧ s.DeliversAnswer 0xA1)) (by decide +kernel)
  obtain ⟨hring, hdelivers⟩ := of_decide_eq_true htest
  exact ⟨s, run, ⟨0xA1, hring, hdelivers⟩, gateway_keepsAnswers run⟩

/-- The zero-length PING with SEQ 8. -/
def pingEight : List UInt8 := [0xAA, 0x55, 1, 1, 0, 8, 0, 0, 0x48, 0x40]

/-- The client sends two PINGs, both are forwarded, and RS422Task is about to take the last byte of
    the first PONG. -/
def pipelinedRun : List GatewayAction :=
  bringupRun ++ ethernetRun .establish 2 ++ ethernetRun (.receive (pingSeven ++ pingEight)) 13 ++
    rs422Run 5 ++ List.replicate 13 (.ethernet .drain .ok) ++ rs422Run 5 ++ ethernetRun .drain 1 ++
    restOfBringupRun ++ rs422Run 10 ++ .uartTxDone :: rs422Run 11 ++ .uartTxDone :: rs422Run 4 ++
    pongSeven.map .uartRx ++ rs422Run 10

theorem gateway_pipelinedAnswerDropped :
    ¬ ∀ s, Reachable Gateway.step unguarded Gateway.initial s → s.KeepsAnswers := by
  intro hall
  obtain ⟨s, run, htest⟩ := exists_reachable Gateway.step unguarded Gateway.initial pipelinedRun
    (fun s => decide (s.rs422.pc = .rx .main ∧ s.rxRing = [0xA1] ∧ s.DeliversAnswer 0xA1) &&
      (s.step (.rs422 .ok false)).any fun s' =>
        !decide (s.Keeps s' (s.feedRs422 0xA1).rs422ReceivedPacket)) (by decide +kernel)
  obtain ⟨hdeliver, hlost⟩ := Bool.and_eq_true_iff.mp htest
  obtain ⟨hpc, hring, hdelivers⟩ := of_decide_eq_true hdeliver
  obtain ⟨s', taken, hnot⟩ := (Option.any_eq_true _ _).mp hlost
  have hkeeps := hall s run .main 0xA1 [] hpc hring hdelivers .ok false s' taken
  rw [decide_eq_true hkeeps] at hnot
  cases hnot

end Rs422Gateway
