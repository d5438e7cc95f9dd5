import Rs422Gateway.Gateway.Proofs.TxOwnership

/-!
# Commands refused as busy

`rs422_forward_packet` tests `g_rs422_tx_busy` without a look at the event flags. When a
transmission ends after `rs422_wait_for_tx_complete` has given up on it, a later flag wait consumes
its TX_DONE, and a command that is taken before is refused although nothing is transmitted.
-/

namespace Rs422Gateway

open Transition

namespace Gateway

variable {s s' : Gateway} {hal : HalStatus} {late : Bool}

/-- Whoever returns from `rs422_wait_for_tx_complete` holds no command. -/
theorem returnWaitForTxComplete_holding (s : Gateway) (pass : Bool) :
    (s.returnWaitForTxComplete pass).rs422.pc.holding = false := by
  unfold returnWaitForTxComplete
  split
  · split <;> rfl
  · rfl

theorem returnProcessRx_holding (s : Gateway) (caller : RxCaller) :
    (s.returnProcessRx caller).rs422.pc.holding = false := by
  cases caller with
  | txLoop => rfl
  | txDone => exact returnWaitForTxComplete_holding _ _
  | pongLoop =>
    unfold returnProcessRx
    simp only
    split <;> rfl
  | main => rfl

/-- RS422Task comes to the test of `g_rs422_tx_busy` with a command it has just taken. -/
theorem rs422Step_forward (taken : s.rs422Step hal late = some s') (hpc : s'.rs422.pc = .forward) :
    s.rs422.pc = .dequeue ∧ s.cmdQueue ≠ [] ∧ s'.flags = s.flags ∧
      s'.rs422TxBusy = s.rs422TxBusy := by
  have hholds : s'.rs422.pc.holding = true := by rw [hpc]; rfl
  cases rs422Step_move taken with
  | dequeue command rest from_ queue =>
    refine ⟨from_, ?_, rfl, rfl⟩
    rw [queue]
    exact List.cons_ne_nil command rest
  | goto pc waits holds | take pc waits holds => exact absurd (hholds.symm.trans holds) nofun
  | returnWait pass =>
    exact absurd (hholds.symm.trans (s.returnWaitForTxComplete_holding pass)) nofun
  | returnRx caller => exact absurd (hholds.symm.trans (s.returnProcessRx_holding caller)) nofun
  | receive caller byte rest from_ =>
    rw [processRxByte_pc { s with rxRing := rest } byte] at hpc
    exact absurd (from_.symm.trans hpc) nofun
  | _ => cases hpc

/-- A failing flag call brings RS422Task to no command. -/
theorem flagErrorStep_holding {error : FlagError} (taken : s.flagErrorStep error = some s') :
    s'.rs422.pc.holding = false := by
  unfold flagErrorStep at taken
  cases hpc : s.rs422.pc with
  | bringup | forward =>
    simp only [hpc] at taken
    split at taken
    · cases taken
    split at taken <;> cases taken
    rfl
  | pollFlags =>
    simp only [hpc] at taken
    cases taken
    split
    · rfl
    · exact s.returnWaitForTxComplete_holding false
  | waitFlags =>
    simp only [hpc] at taken
    cases taken
    exact s.returnWaitForTxComplete_holding false
  | pongWait | mainWait =>
    simp only [hpc] at taken
    cases taken
    rfl
  | _ =>
    simp only [hpc] at taken
    cases taken

end Gateway

namespace UartTrace

variable {s s' : UartTrace}

/-- The TxCplt interrupts that have occurred are those whose TX_DONE is pending or has been
    consumed. -/
structure Completion (s : UartTrace) : Prop where
  owned : s.uart.Owned
  bound : ∀ n ∈ s.completed, n ≤ s.uart.accepted
  raised : ∀ n, s.uart.raised = some n → n ∈ s.completed
  consumed : ∀ e ∈ s.uart.consumed, e.2 ∈ s.completed
  busy : s.uart.gateway.rs422TxBusy = true →
    1 ≤ s.uart.accepted ∧
      (s.uart.accepted ∈ s.completed → s.uart.gateway.flags.txDone = true)

namespace Completion

theorem initial : UartTrace.initial.Completion where
  owned := .initial
  bound := nofun
  raised := nofun
  consumed := nofun
  busy := nofun

/-- A step of RS422Task adds no interrupt. Only an accepted transmission sets `g_rs422_tx_busy`, and
    a flag wait that takes TX_DONE clears it. -/
theorem task (h : s.Completion) {g : Gateway} {hal : HalStatus} {late : Bool}
    (taken : s.uart.gateway.rs422Step hal late = some g) :
    Completion ⟨s.uart.noteTask hal g, s.completed⟩ where
  owned := h.owned.task taken
  bound := by
    intro n hn
    have hle := h.bound n hn
    show n ≤ (s.uart.noteTask hal g).accepted
    simp only [UartGateway.noteTask]
    split
    · exact Nat.le_trans hle (Nat.le_succ _)
    · exact hle
  raised := by
    intro n hn
    simp only [UartGateway.noteTask] at hn
    split at hn
    · exact h.raised n hn
    · cases hn
  consumed := by
    intro e he
    simp only [UartGateway.noteTask] at he
    split at he
    case isTrue htakes =>
      rcases List.mem_append.mp he with he | he
      · exact h.consumed e he
      · rw [List.mem_singleton.mp he]
        exact h.raised _ (h.owned.pending htakes.2).1
    case isFalse => exact h.consumed e he
  busy := by
    show g.rs422TxBusy = true →
      1 ≤ (s.uart.noteTask hal g).accepted ∧
        ((s.uart.noteTask hal g).accepted ∈ s.completed → g.flags.txDone = true)
    intro hbusy
    cases Gateway.rs422Step_txEffect taken with
    | keep same takes transmits =>
      rw [same.busy] at hbusy
      simp only [UartGateway.noteTask, transmits, Bool.false_eq_true, false_and, if_false,
        same.flags]
      exact h.busy hbusy
    | dequeue flags busy frame takes transmits =>
      rw [busy] at hbusy
      simp only [UartGateway.noteTask, transmits, Bool.false_eq_true, false_and, if_false, flags]
      exact h.busy hbusy
    | take takes transmits flags busy =>
      rw [busy, Bool.and_eq_true, Bool.not_eq_true'] at hbusy
      obtain ⟨hpos, hdone⟩ := h.busy hbusy.1
      simp only [UartGateway.noteTask, transmits, Bool.false_eq_true, false_and, if_false]
      exact ⟨hpos, fun hmem => absurd ((hdone hmem).symm.trans hbusy.2) (by simp)⟩
    | arm encodes idle takes transmits flags busy => exact absurd (hbusy.symm.trans busy) (by simp)
    | transmit takes transmits waits flags busy =>
      have hok : hal = .ok := of_decide_eq_true (busy.symm.trans hbusy)
      simp only [UartGateway.noteTask, transmits, hok, and_self, if_true]
      refine ⟨Nat.le_add_left 1 _, fun hmem => ?_⟩
      exact absurd (h.bound _ hmem) (Nat.not_succ_le_self _)

/-- A step that leaves UART4 alone. -/
theorem elsewhere (h : s.Completion) {uart : UartGateway} (owned : uart.Owned)
    (accepted : uart.accepted = s.uart.accepted) (raised : uart.raised = s.uart.raised)
    (consumed : uart.consumed = s.uart.consumed)
    (busy : uart.gateway.rs422TxBusy = s.uart.gateway.rs422TxBusy)
    (txDone : uart.gateway.flags.txDone = s.uart.gateway.flags.txDone) :
    Completion ⟨uart, s.completed⟩ where
  owned := owned
  bound := by
    rw [show UartGateway.accepted _ = _ from accepted]
    exact h.bound
  raised := by
    rw [show UartGateway.raised _ = _ from raised]
    exact h.raised
  consumed := by
    rw [show UartGateway.consumed _ = _ from consumed]
    exact h.consumed
  busy := by
    show uart.gateway.rs422TxBusy = true →
      1 ≤ uart.accepted ∧ (uart.accepted ∈ s.completed → uart.gateway.flags.txDone = true)
    rw [accepted, busy, txDone]
    exact h.busy

/-- The TxCplt interrupt. -/
theorem txDone (h : s.Completion) {n : Nat} (outstanding : s.uart.outstanding = some n)
    (taken : s.step .txDone = some s') : s'.Completion := by
  obtain ⟨uart, huart, rfl⟩ := Option.map_eq_some_iff.mp taken
  have howned := h.owned.step huart
  cases UartGateway.step_move huart
  obtain rfl := h.owned.last n outstanding
  have hbusy : s.uart.gateway.rs422TxBusy = true := by
    refine Decidable.byContradiction fun hidle => ?_
    have hnone := (h.owned.idle (Bool.eq_false_iff.mpr hidle)).1
    rw [outstanding] at hnone
    cases hnone
  simp only [if_true, outstanding, Option.toList_some, List.singleton_append]
  refine ⟨by simpa only [outstanding] using howned, ?_, ?_, ?_,
    fun _ => ⟨(h.busy hbusy).1, fun _ => rfl⟩⟩
  · intro n hmem
    rcases List.mem_cons.mp hmem with rfl | hmem
    · exact Nat.le_refl _
    · exact h.bound n hmem
  · intro n hraised
    rw [← Option.some.inj hraised]
    exact List.mem_cons_self
  · intro e he
    exact List.mem_cons_of_mem _ (h.consumed e he)

theorem step {a : UartAction} (h : s.Completion) (taken : s.step a = some s') : s'.Completion := by
  obtain ⟨uart, huart, hs⟩ := Option.map_eq_some_iff.mp taken
  have howned := h.owned.step huart
  cases UartGateway.step_move huart with
  | task hal late g hg =>
    cases hs
    exact h.task hg
  | flagError error g hg =>
    obtain ⟨hbusy, hflags, -⟩ := Gateway.flagErrorStep_effect hg
    cases hs
    exact h.elsewhere howned rfl rfl rfl hbusy (congrArg Rs422Flags.txDone hflags)
  | ethernet op hal g hg =>
    obtain ⟨hbusy, -, -, -, htxDone⟩ := Gateway.ethernetStep_uart hg
    cases hs
    exact h.elsewhere howned rfl rfl rfl hbusy htxDone
  | rx | rxError =>
    cases hs
    exact h.elsewhere howned rfl rfl rfl rfl rfl
  | txDone n hn => exact h.txDone hn taken
  | txEnd =>
    cases hs
    exact h.elsewhere howned rfl rfl rfl rfl rfl

theorem reachable {guard : UartTrace → UartAction → Prop}
    (run : Reachable UartTrace.step guard .initial s) : s.Completion :=
  run.invariant initial fun _ _ _ h _ taken => h.step taken

/-- While `g_rs422_tx_busy` is set, the end of the transmission is to be seen from TX_DONE. -/
theorem outstanding_iff (h : s.Completion) (busy : s.uart.gateway.rs422TxBusy = true) :
    (∃ n, s.Outstanding n) ↔ s.uart.gateway.flags.txDone = false := by
  obtain ⟨hpos, hdone⟩ := h.busy busy
  constructor
  · rintro ⟨n, hn, hle, hnot⟩
    refine Bool.eq_false_iff.mpr fun htxDone => hnot ?_
    rcases Nat.lt_or_eq_of_le hle with hlt | rfl
    · exact h.consumed _ (h.owned.earlier n hn hlt)
    · exact h.raised _ (h.owned.pending htxDone).1
  · intro htxDone
    refine ⟨s.uart.accepted, hpos, Nat.le_refl _, fun hmem => ?_⟩
    exact absurd ((hdone hmem).symm.trans htxDone) nofun

end Completion

/-- As long as RS422Task knows the end of each transmission in time, no TX_DONE is pending when a
    command is refused. -/
theorem refuses_step {a : UartAction} (h : s.RefusesBusy → s.uart.gateway.flags.txDone = false)
    (knows : s.KnowsEnd a) (taken : s.step a = some s') (refuses : s'.RefusesBusy) :
    s'.uart.gateway.flags.txDone = false := by
  obtain ⟨uart, huart, rfl⟩ := Option.map_eq_some_iff.mp taken
  obtain ⟨hpc, hbusy⟩ := refuses
  cases UartGateway.step_move huart with
  | task hal late g hg =>
    obtain ⟨hdequeue, hqueue, hflags, hbusy'⟩ := Gateway.rs422Step_forward hg hpc
    exact (congrArg Rs422Flags.txDone hflags).trans
      (knows hdequeue hqueue (hbusy'.symm.trans hbusy))
  | flagError error g hg =>
    have hholding := Gateway.flagErrorStep_holding hg
    rw [show g.rs422.pc = _ from hpc] at hholding
    cases hholding
  | ethernet op hal g hg =>
    obtain ⟨hbusy', -, htask, -, htxDone⟩ := Gateway.ethernetStep_uart hg
    refine htxDone.trans (h ⟨?_, hbusy'.symm.trans hbusy⟩)
    rw [← htask]
    exact hpc
  | rx | rxError => exact h ⟨hpc, hbusy⟩
  | txDone => exact absurd ⟨hpc, hbusy⟩ knows
  | txEnd => exact h ⟨hpc, hbusy⟩

/-- A step that breaks the condition leads to a command that is refused. -/
theorem refuses_of_late {a : UartAction} (late : ¬ s.KnowsEnd a) (taken : s.step a = some s') :
    s'.RefusesBusy ∧ s'.uart.gateway.flags.txDone = true := by
  obtain ⟨uart, huart, rfl⟩ := Option.map_eq_some_iff.mp taken
  cases UartGateway.step_move huart with
  | task hal slow g hg =>
    simp only [KnowsEnd, Classical.not_imp] at late
    obtain ⟨hpc, hqueue, hbusy, htxDone⟩ := late
    simp only [Gateway.rs422Step, hpc] at hg
    split at hg
    case h_1 hempty => exact absurd hempty hqueue
    case h_2 =>
      cases hg
      exact ⟨⟨rfl, hbusy⟩, Bool.of_not_eq_false htxDone⟩
  | txDone => exact ⟨Decidable.not_not.mp late, rfl⟩
  | _ => exact absurd trivial late

end UartTrace

/-- In every run in which RS422Task comes to know of the end of each transmission before it has
    another command in hand, a command is refused as busy only while a transmission is outstanding.
    A step after which RS422Task has a command in hand and does not know leads to a wrong
    refusal. -/
theorem rs422ForwardPacket_refusesOutstanding (s : UartTrace) :
    (Reachable UartTrace.step UartTrace.KnowsEnd .initial s → s.RefusesOutstanding) ∧
      (Reachable UartTrace.step unguarded .initial s →
        ∀ a s', ¬ s.KnowsEnd a → s.step a = some s' → ¬ s'.RefusesOutstanding) := by
  constructor
  · intro run refuses
    have hknown : s.RefusesBusy → s.uart.gateway.flags.txDone = false :=
      Reachable.invariant (P := fun s => s.RefusesBusy → s.uart.gateway.flags.txDone = false)
        (fun _ => rfl) (fun _ _ _ h knows taken => UartTrace.refuses_step h knows taken) run
    exact ((UartTrace.Completion.reachable run).outstanding_iff refuses.2).mpr (hknown refuses)
  · intro run a s' late taken holds
    obtain ⟨hrefuses, htxDone⟩ := UartTrace.refuses_of_late late taken
    have hcompletion := (UartTrace.Completion.reachable run).step taken
    have hidle := (hcompletion.outstanding_iff hrefuses.2).mp (holds hrefuses)
    exact absurd (htxDone.symm.trans hidle) nofun

/-- RS422Task takes so many steps, without a timeout. -/
def taskRun (count : Nat) : List UartAction := List.replicate count (.task .ok false)

/-- A bring-up test whose transmission ends in time and whose PONG does not come. -/
def unansweredTest : List UartAction :=
  taskRun 6 ++ .txDone :: taskRun 2 ++ .task .ok true :: taskRun 2

/-- The client sends the PINGs with SEQ 7 and SEQ 8 while RS422Task waits for commands. The first
    is transmitted, the second is put on `rs422_cmd_queue`, and RS422Task gives up on the first. -/
def slowPingRun : List UartAction :=
  List.flatten
    [taskRun 1, (List.replicate 100 unansweredTest).flatten, taskRun 2,
      .ethernet .establish .ok :: List.replicate 2 (.ethernet .drain .ok),
      .ethernet
          (.receive
            [0xAA, 0x55, 0x01, 0x01, 0x00, 0x07, 0x00, 0x00, 0x64, 0x71, 0xAA, 0x55, 0x01, 0x01,
              0x00, 0x08, 0x00, 0x00, 0x48, 0x40]) .ok ::
        List.replicate 13 (.ethernet .drain .ok),
      taskRun 10, List.replicate 13 (.ethernet .drain .ok), taskRun 5, [.task .ok true]]

/-- The first PING is still being transmitted when the second is refused. -/
theorem rs422ForwardPacket_refusesOutstanding_slow :
    ∃ s, Reachable UartTrace.step UartTrace.KnowsEnd .initial s ∧ s.RefusesBusy ∧
      ∃ n, s.Outstanding n := by
  obtain ⟨s, run, htest⟩ := exists_reachable UartTrace.step UartTrace.KnowsEnd .initial
    (slowPingRun ++ taskRun 2) (fun s => decide s.RefusesBusy) (by decide +kernel)
  have hrefuses := of_decide_eq_true htest
  exact ⟨s, run, hrefuses, (rs422ForwardPacket_refusesOutstanding s).1 run hrefuses⟩

/-- The transmission of the first PING ends before the second is taken, which is refused all the
    same. -/
theorem rs422ForwardPacket_refusesIdle :
    ¬ ∀ s, Reachable UartTrace.step unguarded .initial s → s.RefusesOutstanding := by
  intro hall
  obtain ⟨s, run, htest⟩ := exists_reachable UartTrace.step unguarded .initial
    (slowPingRun ++ .txDone :: taskRun 2)
    (fun s => decide (s.RefusesBusy ∧ s.uart.gateway.flags.txDone = true)) (by decide +kernel)
  obtain ⟨hrefuses, htxDone⟩ := of_decide_eq_true htest
  have hcompletion := UartTrace.Completion.reachable run
  have hidle := (hcompletion.outstanding_iff hrefuses.2).mp (hall s run hrefuses)
  exact absurd (htxDone.symm.trans hidle) nofun

end Rs422Gateway
