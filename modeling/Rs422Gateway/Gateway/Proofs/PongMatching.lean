import Rs422Gateway.Gateway.SlotTrace
import Rs422Gateway.Gateway.Proofs.Moves
import Rs422Gateway.Misc.Transition

/-!
# PONGs for TCP are matched once

The pending slot holds a SEQ only between the forward that set it and what comes next: a PONG taken
out of it, a context reset or a failed forward. So each attempt to put a PONG for TCP is directly
preceded by the forward it answers.
-/

namespace Rs422Gateway

open Transition

namespace Gateway

/-- Neither the slot nor what RS422Task puts on `tcp_response_queue` differs. -/
structure SameSlot (s s' : Gateway) : Prop where
  pending : s'.tcpPingPending = s.tcpPingPending
  seq : s'.tcpPingPendingSeq = s.tcpPingPendingSeq
  queue : s'.tcpResponseQueue = s.tcpResponseQueue
  fails : s'.counts.tcpResponseEnqueueFail = s.counts.tcpResponseEnqueueFail

theorem SameSlot.trans {s s' s'' : Gateway} (h : s.SameSlot s') (h' : s'.SameSlot s'') :
    s.SameSlot s'' :=
  ⟨h'.pending.trans h.pending, h'.seq.trans h.seq, h'.queue.trans h.queue, h'.fails.trans h.fails⟩

/-- What a step of RS422Task does to the slot, by its events. -/
inductive SlotEffect (s : Gateway) : List SlotEvent → Gateway → Prop where
  | keep {s' : Gateway} (same : s.SameSlot s') : SlotEffect s [] s'
  | attempt {s' : Gateway} (taken : s.tcpPingPending = true) (pending : s'.tcpPingPending = false) :
      SlotEffect s [.attempt s.tcpPingPendingSeq true] s'
  | marked {s' : Gateway} (seq : UInt16) (pending : s'.tcpPingPending = true)
      (holds : s'.tcpPingPendingSeq = seq) (queue : s'.tcpResponseQueue = s.tcpResponseQueue)
      (fails : s'.counts.tcpResponseEnqueueFail = s.counts.tcpResponseEnqueueFail) :
      SlotEffect s [.marked seq] s'
  | cleared {s' : Gateway} (e : SlotEvent) (clears : e = .reset ∨ e = .failed)
      (pending : s'.tcpPingPending = false) (queue : s'.tcpResponseQueue = s.tcpResponseQueue)
      (fails : s'.counts.tcpResponseEnqueueFail = s.counts.tcpResponseEnqueueFail) :
      SlotEffect s [e] s'

namespace SlotEffect

variable {s s' s'' : Gateway} {events : List SlotEvent}

/-- The rest of the step does not touch the slot. -/
theorem andThen (h : s.SlotEffect events s') (same : s'.SameSlot s'') :
    s.SlotEffect events s'' := by
  cases h with
  | keep same' => exact .keep (same'.trans same)
  | attempt taken pending => exact .attempt taken (same.pending.trans pending)
  | marked seq pending holds queue fails =>
    exact .marked seq (same.pending.trans pending) (same.seq.trans holds) (same.queue.trans queue)
      (same.fails.trans fails)
  | cleared e clears pending queue fails =>
    exact .cleared e clears (same.pending.trans pending) (same.queue.trans queue)
      (same.fails.trans fails)

/-- What comes before it does not touch the slot. -/
theorem after (same : s.SameSlot s') (h : s'.SlotEffect events s'') : s.SlotEffect events s'' := by
  cases h with
  | keep same' => exact .keep (same.trans same')
  | attempt taken pending =>
    rw [same.seq]
    exact .attempt (same.pending.symm.trans taken) pending
  | marked seq pending holds queue fails =>
    exact .marked seq pending holds (queue.trans same.queue) (fails.trans same.fails)
  | cleared e clears pending queue fails =>
    exact .cleared e clears pending (queue.trans same.queue) (fails.trans same.fails)

theorem takeFlags (s : Gateway) : s.SlotEffect s.resetEvents s.takeFlags := by
  unfold resetEvents Gateway.takeFlags handleTxDoneEvent handleTcpContextResetEvent
  cases s.flags.tcpContextReset <;> cases s.flags.txDone
  · exact .keep ⟨rfl, rfl, rfl, rfl⟩
  · exact .keep ⟨rfl, rfl, rfl, rfl⟩
  · exact .cleared _ (.inl rfl) rfl rfl rfl
  · exact .cleared _ (.inl rfl) rfl rfl rfl

theorem forwardFailed (s : Gateway) : s.SlotEffect s.failedEvents s.forwardFailed := by
  unfold failedEvents Gateway.forwardFailed
  split
  · exact .cleared _ (.inr rfl) rfl rfl rfl
  · exact .keep ⟨rfl, rfl, rfl, rfl⟩

theorem waitFailed (s : Gateway) :
    s.SlotEffect s.waitFailedEvents (s.returnWaitForTxComplete false) := by
  unfold waitFailedEvents returnWaitForTxComplete
  cases s.rs422.txCaller with
  | bringup =>
    simp only [reduceCtorEq, if_false, false_and]
    exact .keep ⟨rfl, rfl, rfl, rfl⟩
  | forward => exact (forwardFailed s).andThen ⟨rfl, rfl, rfl, rfl⟩

theorem waitPassed (s : Gateway) : s.SlotEffect [] (s.returnWaitForTxComplete true) := by
  unfold returnWaitForTxComplete
  split
  · split <;> exact .keep ⟨rfl, rfl, rfl, rfl⟩
  · exact .keep ⟨rfl, rfl, rfl, rfl⟩

theorem returnProcessRx (s : Gateway) (caller : RxCaller) :
    s.SlotEffect [] (s.returnProcessRx caller) := by
  cases caller with
  | txLoop => exact .keep ⟨rfl, rfl, rfl, rfl⟩
  | txDone =>
    have hreceived : ∀ received : Bool,
        s.SameSlot { s with rs422 := { s.rs422 with matchingPongReceived := received } } :=
      fun _ => ⟨rfl, rfl, rfl, rfl⟩
    exact (waitPassed _).after (hreceived _)
  | pongLoop =>
    unfold Gateway.returnProcessRx
    simp only
    split <;> exact .keep ⟨rfl, rfl, rfl, rfl⟩
  | main => exact .keep ⟨rfl, rfl, rfl, rfl⟩

theorem markPending (s : Gateway) :
    s.SlotEffect
      (if s.rs422Command.packet.msgId = msgPing ∧ s.tcpSessionActive = true then
        [.marked s.rs422Command.packet.seq]
      else []) s.markPending := by
  unfold Gateway.markPending
  split
  · exact .marked _ rfl rfl rfl rfl
  · exact .keep ⟨rfl, rfl, rfl, rfl⟩

/-- The frame is noted, and a TELEMETRY goes its own way. -/
theorem noteFrame (s : Gateway) :
    s.SameSlot s.noteRs422Frame.enqueueTelemetry.noteMatchingPong ∧
      (s.noteRs422Frame.enqueueTelemetry.noteMatchingPong.matchesPending ↔ s.matchesPending) := by
  obtain ⟨queue, success, fail, htelemetry⟩ := enqueueTelemetry_eq s.noteRs422Frame
  obtain ⟨received, hmatching⟩ := noteMatchingPong_eq s.noteRs422Frame.enqueueTelemetry
  rw [hmatching, htelemetry]
  exact ⟨⟨rfl, rfl, rfl, rfl⟩, Iff.rfl⟩

theorem processRxByte (s : Gateway) (byte : UInt8) :
    s.SlotEffect
      (if s.attempts byte then
        [.attempt (s.feedRs422 byte).rs422ReceivedPacket.seq s.tcpSessionActive]
      else []) (s.processRxByte byte) := by
  have hfeed : s.SameSlot (s.feedRs422 byte) := ⟨rfl, rfl, rfl, rfl⟩
  unfold Gateway.processRxByte attempts
  by_cases hevent : s.rs422Event byte = .frame
  · obtain ⟨hnote, hiff⟩ := noteFrame (s.feedRs422 byte)
    simp only [hevent, if_true, true_and]
    refine .after (hfeed.trans hnote) ?_
    unfold handleRs422Frame handlePong
    by_cases hmatch : (s.feedRs422 byte).matchesPending
    · rw [if_pos hmatch, if_pos (hiff.mpr hmatch)]
      obtain ⟨-, hactive, hpending, hseq⟩ := hmatch
      have hactive' : s.tcpSessionActive = true := hactive
      have hpending' :
          (s.feedRs422 byte).noteRs422Frame.enqueueTelemetry.noteMatchingPong.tcpPingPending =
            true :=
        hnote.pending.trans hpending
      rw [hactive', hseq, ← hnote.seq]
      refine .attempt hpending' ?_
      unfold enqueueResponse
      split <;> rfl
    · rw [if_neg hmatch, if_neg fun h => hmatch (hiff.mp h)]
      exact .keep ⟨rfl, rfl, rfl, rfl⟩
  · simp only [hevent, if_false, false_and]
    exact .keep hfeed

end SlotEffect

variable {s s' : Gateway}

theorem rs422Step_slotEffect {hal : HalStatus} {late : Bool}
    (taken : s.rs422Step hal late = some s') :
    s.SlotEffect (s.rs422SlotEvents hal late) s' := by
  unfold rs422Step at taken
  unfold rs422SlotEvents
  cases hpc : s.rs422.pc with
  | rx caller =>
    simp only [hpc] at taken ⊢
    cases hring : s.rxRing with
    | nil =>
      simp only [hring] at taken ⊢
      cases taken
      exact .returnProcessRx s caller
    | cons byte rest =>
      simp only [hring] at taken ⊢
      cases taken
      have hpop : s.SameSlot { s with rxRing := rest } := ⟨rfl, rfl, rfl, rfl⟩
      exact (SlotEffect.processRxByte { s with rxRing := rest } byte).after hpop
  | pollFlags =>
    simp only [hpc] at taken ⊢
    cases taken
    split
    · exact (SlotEffect.takeFlags s).andThen ⟨rfl, rfl, rfl, rfl⟩
    · exact .keep ⟨rfl, rfl, rfl, rfl⟩
  | waitFlags =>
    simp only [hpc] at taken ⊢
    split at taken
    case isTrue hany =>
      cases taken
      rw [if_pos hany]
      exact (SlotEffect.takeFlags s).andThen ⟨rfl, rfl, rfl, rfl⟩
    case isFalse hany =>
      rw [if_neg hany]
      split at taken
      case isTrue hlate =>
        cases taken
        rw [if_pos hlate]
        exact .waitFailed s
      case isFalse => cases taken
  | pongWait =>
    simp only [hpc] at taken ⊢
    split at taken
    case isTrue hany =>
      cases taken
      rw [if_pos hany]
      exact (SlotEffect.takeFlags s).andThen ⟨rfl, rfl, rfl, rfl⟩
    case isFalse hany =>
      rw [if_neg hany]
      split at taken
      · cases taken
        exact .keep ⟨rfl, rfl, rfl, rfl⟩
      · cases taken
  | mainWait =>
    simp only [hpc] at taken ⊢
    split at taken
    case isTrue hany =>
      cases taken
      rw [if_pos hany]
      exact (SlotEffect.takeFlags s).andThen ⟨rfl, rfl, rfl, rfl⟩
    case isFalse => cases taken
  | checkBusy =>
    simp only [hpc] at taken ⊢
    split at taken
    case isTrue hidle =>
      cases taken
      rw [if_neg (by simp [hidle])]
      exact .keep ⟨rfl, rfl, rfl, rfl⟩
    case isFalse hbusy =>
      split at taken
      case isTrue hlate =>
        cases taken
        rw [if_pos ⟨Bool.of_not_eq_false hbusy, hlate⟩]
        exact .waitFailed s
      case isFalse hlate =>
        cases taken
        rw [if_neg fun h => hlate h.2]
        exact .keep ⟨rfl, rfl, rfl, rfl⟩
  | waitTx =>
    simp only [hpc] at taken ⊢
    split at taken
    · cases taken
      exact .keep ⟨rfl, rfl, rfl, rfl⟩
    · cases taken
      exact .waitPassed s
  | forwardPending =>
    simp only [hpc] at taken ⊢
    cases taken
    exact (SlotEffect.markPending s).andThen ⟨rfl, rfl, rfl, rfl⟩
  | forwardTransmit =>
    simp only [hpc] at taken ⊢
    split at taken
    case isTrue hok =>
      cases taken
      rw [if_pos hok]
      exact .keep ⟨rfl, rfl, rfl, rfl⟩
    case isFalse hok =>
      cases taken
      rw [if_neg hok]
      have hnote : s.SameSlot { s.noteTransmit with rs422TxBusy := false } := ⟨rfl, rfl, rfl, rfl⟩
      have hfailed := SlotEffect.forwardFailed { s.noteTransmit with rs422TxBusy := false }
      exact (hfailed.after hnote).andThen ⟨rfl, rfl, rfl, rfl⟩
  | start | bringupTransmit =>
    simp only [hpc] at taken ⊢
    split at taken <;> cases taken <;> exact .keep ⟨rfl, rfl, rfl, rfl⟩
  | bringup | forward =>
    simp only [hpc] at taken ⊢
    split at taken
    · cases taken
      exact .keep ⟨rfl, rfl, rfl, rfl⟩
    split at taken <;> cases taken <;> exact .keep ⟨rfl, rfl, rfl, rfl⟩
  | dequeue =>
    simp only [hpc] at taken ⊢
    split at taken <;> cases taken <;> exact .keep ⟨rfl, rfl, rfl, rfl⟩
  | pongLoop | pongElapsed | testDone =>
    simp only [hpc] at taken ⊢
    cases taken
    split <;> exact .keep ⟨rfl, rfl, rfl, rfl⟩
  | delay | enable =>
    simp only [hpc] at taken ⊢
    cases taken
    exact .keep ⟨rfl, rfl, rfl, rfl⟩

theorem flagErrorStep_slotEffect {error : FlagError} (taken : s.flagErrorStep error = some s') :
    s.SlotEffect (s.slotEvents (.flagError error)) s' := by
  unfold flagErrorStep at taken
  unfold slotEvents
  cases hpc : s.rs422.pc with
  | bringup | forward =>
    simp only [hpc] at taken ⊢
    split at taken
    · cases taken
    split at taken <;> cases taken
    exact .keep ⟨rfl, rfl, rfl, rfl⟩
  | pollFlags =>
    simp only [hpc] at taken ⊢
    cases taken
    split
    · exact .keep ⟨rfl, rfl, rfl, rfl⟩
    · exact .waitFailed s
  | waitFlags =>
    simp only [hpc] at taken ⊢
    cases taken
    exact .waitFailed s
  | pongWait | mainWait =>
    simp only [hpc] at taken ⊢
    cases taken
    exact .keep ⟨rfl, rfl, rfl, rfl⟩
  | _ =>
    simp only [hpc] at taken
    cases taken

/-- EthernetTask does not touch the slot. -/
theorem ethernetStep_slot {op : EthernetOp} {hal : HalStatus}
    (taken : s.ethernetStep op hal = some s') :
    s'.tcpPingPending = s.tcpPingPending ∧ s'.tcpPingPendingSeq = s.tcpPingPendingSeq := by
  cases ethernetStep_move taken with
  | start op s' hpc taken =>
    unfold ethernetBegin at taken
    cases op with
    | invalidate | discard | drainTelemetry =>
      cases taken
      exact ⟨rfl, rfl⟩
    | establish | receive | drain =>
      simp only at taken
      split at taken
      · cases taken
        exact ⟨rfl, rfl⟩
      · cases taken
  | discardEnd left caller => cases caller <;> exact ⟨rfl, rfl⟩
  | feed byte rest =>
    unfold processTcpByte
    split <;> exact ⟨rfl, rfl⟩
  | put rest =>
    unfold putCommand
    split <;> exact ⟨rfl, rfl⟩
  | _ => exact ⟨rfl, rfl⟩

end Gateway

/-- Each attempt is directly preceded by the forward it answers, and a slot that is set will be
    answered first. -/
structure SlotTrace.Matched (s : SlotTrace) : Prop where
  last : s.gateway.tcpPingPending = true →
    ∃ earlier, s.events = earlier ++ [.marked s.gateway.tcpPingPendingSeq]
  answered : ∀ before after seq active, s.events = before ++ .attempt seq active :: after →
    active = true ∧ ∃ earlier, before = earlier ++ [.marked seq]
  counted : s.events.countP SlotEvent.isAttempt + (if s.gateway.tcpPingPending then 1 else 0) ≤
    s.events.countP SlotEvent.isMarked

namespace SlotTrace.Matched

variable {s s' : SlotTrace}

theorem initial : SlotTrace.initial.Matched where
  last := nofun
  answered := by
    intro before after seq active h
    cases before <;> cases h
  counted := Nat.le_refl 0

/-- An event behind the others. -/
theorem answered_append (h : s.Matched) {e : SlotEvent}
    (he : ∀ seq active, e = .attempt seq active →
      active = true ∧ ∃ earlier, s.events = earlier ++ [.marked seq]) :
    ∀ before after seq active, s.events ++ [e] = before ++ .attempt seq active :: after →
      active = true ∧ ∃ earlier, before = earlier ++ [.marked seq] := by
  intro before after seq active hsplit
  rcases List.eq_nil_or_concat after with rfl | ⟨after, x, rfl⟩
  · obtain ⟨hevents, he'⟩ := List.append_inj' hsplit rfl
    rw [← hevents]
    exact he seq active (List.singleton_inj.mp he')
  · have hsplit' : s.events ++ [e] = (before ++ .attempt seq active :: after) ++ [x] := by
      rw [hsplit, List.concat_eq_append, List.append_assoc]
      rfl
    exact h.answered before after seq active (List.append_inj' hsplit' rfl).1

theorem effect (h : s.Matched) {events : List SlotEvent} {g : Gateway}
    (effect : s.gateway.SlotEffect events g) : SlotTrace.Matched ⟨g, s.events ++ events⟩ := by
  have hcounted := h.counted
  cases effect with
  | keep same =>
    refine ⟨?_, ?_, ?_⟩
    · rw [List.append_nil, same.pending, same.seq]
      exact h.last
    · rw [List.append_nil]
      exact h.answered
    · rw [List.append_nil, same.pending]
      exact hcounted
  | attempt taken pending =>
    refine ⟨?_, h.answered_append ?_, ?_⟩
    · intro hpending
      rw [pending] at hpending
      cases hpending
    · intro seq active he
      cases he
      exact ⟨rfl, h.last taken⟩
    · rw [taken] at hcounted
      rw [List.countP_append, List.countP_append, pending]
      exact hcounted
  | marked seq pending holds =>
    refine ⟨?_, h.answered_append nofun, ?_⟩
    · intro _
      exact ⟨s.events, by rw [holds]⟩
    · rw [List.countP_append, List.countP_append, pending]
      exact Nat.succ_le_succ (Nat.le_trans (Nat.le_add_right _ _) hcounted)
  | cleared e clears pending =>
    refine ⟨?_, h.answered_append ?_, ?_⟩
    · intro hpending
      rw [pending] at hpending
      cases hpending
    · intro seq active he
      rcases clears with rfl | rfl <;> cases he
    · rw [List.countP_append, List.countP_append, pending]
      have hle := Nat.le_trans (Nat.le_add_right _ _) hcounted
      rcases clears with rfl | rfl
      · exact hle
      · exact hle

/-- A step that has nothing to do with the slot. -/
theorem elsewhere (h : s.Matched) {g : Gateway}
    (hpending : g.tcpPingPending = s.gateway.tcpPingPending)
    (hseq : g.tcpPingPendingSeq = s.gateway.tcpPingPendingSeq) :
    SlotTrace.Matched ⟨g, s.events ++ []⟩ := by
  refine ⟨?_, ?_, ?_⟩
  · rw [List.append_nil, hpending, hseq]
    exact h.last
  · rw [List.append_nil]
    exact h.answered
  · rw [List.append_nil, hpending]
    exact h.counted

theorem step {a : SlotAction} (h : s.Matched) (taken : s.step a = some s') : s'.Matched := by
  obtain ⟨g, hg, rfl⟩ := Option.map_eq_some_iff.mp taken
  cases a with
  | flagError error => exact h.effect (Gateway.flagErrorStep_slotEffect hg)
  | gateway action =>
    cases action with
    | rs422 hal late => exact h.effect (Gateway.rs422Step_slotEffect hg)
    | ethernet op hal =>
      simp only [Gateway.stepOrFail, Gateway.step] at hg
      split at hg
      · obtain ⟨hpending, hseq⟩ := Gateway.ethernetStep_slot hg
        exact h.elsewhere hpending hseq
      · cases hg
    | uartRx | uartError | uartTxDone =>
      cases hg
      exact h.elsewhere rfl rfl

theorem reachable (run : Reachable SlotTrace.step unguarded .initial s) : s.Matched :=
  run.invariant initial fun _ _ _ h _ taken => h.step taken

end SlotTrace.Matched

/-- In every run, whatever the bytes from RS-422 and the order of context resets: when
    `rs422_process_rx_buffer` tries to put a PONG on `tcp_response_queue`, a session is active, and
    of the forwards that set the slot, the attempts, the handled resets and the failed forwards of a
    PING before it the last one is a forward that set the slot for its SEQ. There are no more
    attempts than such forwards, and RS422Task puts nothing on the queue without one. -/
theorem rs422Task_pongMatching {s : SlotTrace}
    (run : Reachable SlotTrace.step unguarded .initial s) :
    (∀ before after seq active, s.events = before ++ .attempt seq active :: after →
        active = true ∧ ∃ earlier, before = earlier ++ [.marked seq]) ∧
      s.events.countP SlotEvent.isAttempt ≤ s.events.countP SlotEvent.isMarked ∧
      ∀ hal late s', s.step (.gateway (.rs422 hal late)) = some s' →
        s'.gateway.tcpResponseQueue ≠ s.gateway.tcpResponseQueue ∨
          s'.gateway.counts.tcpResponseEnqueueFail ≠ s.gateway.counts.tcpResponseEnqueueFail →
            ∃ seq, s'.events = s.events ++ [.attempt seq true] := by
  have h := SlotTrace.Matched.reachable run
  refine ⟨h.answered, Nat.le_trans (Nat.le_add_right _ _) h.counted, ?_⟩
  intro hal late s' taken hputs
  obtain ⟨g, hg, rfl⟩ := Option.map_eq_some_iff.mp taken
  have heffect := Gateway.rs422Step_slotEffect hg
  show ∃ seq, s.events ++ s.gateway.rs422SlotEvents hal late = _
  generalize s.gateway.rs422SlotEvents hal late = events at heffect
  cases heffect with
  | keep same =>
    rcases hputs with hne | hne
    · exact absurd same.queue hne
    · exact absurd same.fails hne
  | attempt => exact ⟨_, rfl⟩
  | marked seq pending holds queue fails =>
    rcases hputs with hne | hne
    · exact absurd queue hne
    · exact absurd fails hne
  | cleared e clears pending queue fails =>
    rcases hputs with hne | hne
    · exact absurd queue hne
    · exact absurd fails hne

/-- A PING from TCP is forwarded, and its PONG comes twice. -/
def pongTwiceRun : List GatewayAction :=
  List.flatten
    [[.rs422 .error false], List.replicate 3 (.rs422 .ok false),
      [.ethernet .establish .ok, .ethernet .drain .ok, .ethernet .drain .ok,
        .ethernet (.receive [0xAA, 0x55, 0x01, 0x01, 0x00, 0x07, 0x00, 0x00, 0x64, 0x71]) .ok],
      List.replicate 13 (.ethernet .drain .ok), List.replicate 7 (.rs422 .ok false),
      [.uartTxDone],
      (List.flatten (List.replicate 2
        [0xAA, 0x55, 0x01, 0x81, 0x00, 0x07, 0x00, 0x00, 0x46, 0xA1])).map .uartRx,
      List.replicate 22 (.rs422 .ok false)]

theorem rs422Task_pongMatching_twice :
    ∃ s, Reachable SlotTrace.step unguarded .initial s ∧
      s.events = [.marked 7, .attempt 7 true] ∧ s.gateway.rxRing = [] ∧
      s.events.countP SlotEvent.isAttempt ≤ s.events.countP SlotEvent.isMarked := by
  obtain ⟨s, run, htest⟩ := exists_reachable SlotTrace.step unguarded .initial
    (pongTwiceRun.map .gateway)
    (fun s => decide (s.events = [.marked 7, .attempt 7 true] ∧ s.gateway.rxRing = []))
    (by decide +kernel)
  obtain ⟨hevents, hring⟩ := of_decide_eq_true htest
  exact ⟨s, run, hevents, hring, (rs422Task_pongMatching run).2.1⟩

end Rs422Gateway
