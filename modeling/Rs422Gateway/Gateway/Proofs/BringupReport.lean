import Rs422Gateway.Gateway.Proofs.Bringup
import Rs422Gateway.RemoteNode.Proofs.Replies

/-!
# The bring-up test tells what the line has done

A test has passed only if its PING was sent and a PONG with its SEQ was parsed behind it, and a test
that has timed out has sent its PING and parsed no such PONG. Once TELEMETRY is forwarded,
`g_rs422_ping_test_result` is PASS when all tests have passed, and otherwise the result of the last
test that has not.
-/

namespace Rs422Gateway

open Transition

namespace Bringup

variable {s s' : Bringup} {g : Gateway}

/-! ## The steps of RS422Task -/

section Steps

variable {hal : HalStatus} {late : Bool}

theorem step_start (h : s.Inv) (hpc : s.gateway.rs422.pc = .start)
    (taken : s.gateway.rs422Step hal late = some g) :
    (s.after (.gateway (.rs422 hal late)) g).Inv := by
  have hprogress := h.progress
  simp only [Progress, hpc] at hprogress
  obtain ⟨htesting, hnone⟩ := hprogress
  simp only [Gateway.rs422Step, hpc, Option.some.injEq] at taken
  split at taken
  · subst taken
    simp only [after, note, hpc]
    exact ⟨counted_nil hnone rfl rfl rfl rfl, htesting.index, htesting.bounded, htesting.forwarding⟩
  · subst taken
    simp only [after, note, hpc]
    exact ⟨{ h.counted with }, .inl ⟨hnone, rfl⟩, htesting.forwarding⟩

/-- A test ends before its PING is sent, or its PING is in `g_rs422_tx_frame`. -/
theorem inv_bringup {a : SlotAction} (h : s.Inv) (hpc : s.gateway.rs422.pc = .bringup)
    (same : s.gateway.SameTest g)
    (hg : g.rs422.pc = .testDone ∨ g.rs422.pc = .bringupTransmit ∧
      encodeFrame (Gateway.bringupPing s.gateway.testSeq) = some g.rs422TxFrame) :
    (s.after a g).Inv := by
  have htesting := h.progress
  simp only [Progress, hpc] at htesting
  have hresult : s.gateway.bringupResult a = .txFailure := by
    obtain ⟨frame, hframe⟩ := Gateway.bringupPing_frame s.gateway.testSeq
    unfold Gateway.bringupResult
    rw [hpc, hframe]
    exact if_neg fun hnone => Option.some_ne_none frame hnone.2
  have hafter : s.after a g =
      { s with sent := none, pongs := [], testResult := .txFailure, gateway := g } := by
    simp only [after, note, hpc, hresult]
  rw [hafter]
  refine ⟨{ h.counted with }, ?_⟩
  have htesting' : Testing
      { s with sent := none, pongs := [], testResult := .txFailure, gateway := g } :=
    ⟨htesting.index.trans same.testIndex.symm, same.testIndex ▸ htesting.bounded,
      same.forwarding.trans htesting.forwarding⟩
  unfold Progress
  dsimp only
  rcases hg with hg | ⟨hg, hframe⟩
  · rw [hg]
    exact ⟨htesting', txFailure_sound (.inl rfl) rfl⟩
  · rw [hg, same.testSeq]
    exact ⟨htesting', hframe, rfl, rfl⟩

theorem step_bringup (h : s.Inv) (hpc : s.gateway.rs422.pc = .bringup)
    (taken : s.gateway.rs422Step hal late = some g) :
    (s.after (.gateway (.rs422 hal late)) g).Inv := by
  simp only [Gateway.rs422Step, hpc] at taken
  split at taken
  · cases taken
    exact inv_bringup h hpc ⟨rfl, rfl, rfl, rfl⟩ (.inl rfl)
  · split at taken
    · cases taken
      exact inv_bringup h hpc ⟨rfl, rfl, rfl, rfl⟩ (.inl rfl)
    case h_2 frame hframe =>
      cases taken
      exact inv_bringup h hpc ⟨rfl, rfl, rfl, rfl⟩ (.inr ⟨rfl, hframe⟩)

theorem step_bringupTransmit (h : s.Inv) (hpc : s.gateway.rs422.pc = .bringupTransmit)
    (taken : s.gateway.rs422Step hal late = some g) :
    (s.after (.gateway (.rs422 hal late)) g).Inv := by
  have hprogress := h.progress
  simp only [Progress, hpc] at hprogress
  obtain ⟨htesting, hframe, hsent, hpongs⟩ := hprogress
  simp only [Gateway.rs422Step, hpc] at taken
  split at taken
  · cases taken
    simp only [after, note, hpc]
    refine ⟨{ h.counted with }, ⟨⟨htesting.index, htesting.bounded, htesting.forwarding⟩,
      hframe.symm, rfl⟩, ?_⟩
    refine iff_of_false Bool.false_ne_true ?_
    show s.gateway.testSeq ∉ s.pongs
    rw [hpongs]
    exact List.not_mem_nil
  · cases taken
    have hresult : s.gateway.bringupResult (.gateway (.rs422 hal late)) = .txFailure := by
      unfold Gateway.bringupResult
      rw [hpc]
    simp only [after, note, hpc]
    exact ⟨{ h.counted with }, ⟨htesting.index, htesting.bounded, htesting.forwarding⟩,
      txFailure_sound (.inl hsent) hresult⟩

/-- `test_fail` is 0 exactly when no test has failed. -/
theorem Counted.finished (h : s.Counted) (hlength : s.tests.length = rs422BringupTestCount) :
    s.finish.pingTestResult = bringupOutcome s.tests := by
  have hle : s.tests.countP (!·.passed) ≤ rs422BringupTestCount := by
    rw [← hlength]
    exact List.countP_le_length
  have hcount : rs422BringupTestCount = 100 := rfl
  have hzero : s.testFail = 0 ↔ s.tests.countP (!·.passed) = 0 := by
    rw [h.fail, ← UInt32.toNat_inj, UInt32.toNat_ofNat_of_lt' (by simp only [UInt32.size]; omega)]
    rfl
  unfold finish
  dsimp only
  split
  case isTrue hnone =>
    rw [bringupOutcome_pass]
    intro t ht
    have hpassed := List.countP_eq_zero.mp (hzero.mp hnone) t ht
    simpa [BringupTest.passed] using hpassed
  case isFalse => exact h.lastFailure

theorem step_testDone (h : s.Inv) (hpc : s.gateway.rs422.pc = .testDone)
    (taken : s.gateway.rs422Step hal late = some g) :
    (s.after (.gateway (.rs422 hal late)) g).Inv := by
  have hprogress := h.progress
  simp only [Progress, hpc] at hprogress
  obtain ⟨htesting, hsound⟩ := hprogress
  have hcounted := h.counted.count htesting.index hsound
  have htests : s.count.tests = s.tests ++ [s.current] := by
    unfold count
    dsimp only
    split <;> rfl
  have hlength : s.count.tests.length = s.gateway.rs422.testIndex + 1 := by
    rw [htests, List.length_append, List.length_singleton, htesting.index]
  simp only [Gateway.rs422Step, hpc, Option.some.injEq] at taken
  split at taken
  case isTrue hmore =>
    subst taken
    simp only [after, note, hpc]
    exact ⟨{ hcounted with }, hlength, hmore, htesting.forwarding⟩
  case isFalse hlast =>
    subst taken
    have hall : s.count.tests.length = rs422BringupTestCount := by
      have hbounded := htesting.bounded
      omega
    simp only [after, note, hpc]
    exact ⟨{ hcounted with }, .inr ⟨hall, hcounted.finished hall⟩, htesting.forwarding⟩

theorem step_delay (h : s.Inv) (hpc : s.gateway.rs422.pc = .delay)
    (taken : s.gateway.rs422Step hal late = some g) :
    (s.after (.gateway (.rs422 hal late)) g).Inv := by
  have hprogress := h.progress
  simp only [Progress, hpc] at hprogress
  obtain ⟨hlength, hmore, hforwarding⟩ := hprogress
  simp only [Gateway.rs422Step, hpc, Option.some.injEq] at taken
  subst taken
  have hplain : s.plain = true := by
    unfold plain
    rw [hpc]
  have between := after_between (.gateway (.rs422 hal late))
    { s.gateway with
      rs422 := { s.gateway.rs422 with
        pc := .bringup
        testIndex := s.gateway.rs422.testIndex + 1 } } hplain
  exact ⟨between.counted h.counted, by rw [between.tests]; exact hlength, hmore, hforwarding⟩

/-- What RS422Task has found in the flags is not of the test. -/
theorem takeFlags_received (g : Gateway) (pc : Rs422Pc) :
    (g.takeFlags.rs422Goto pc).rs422.matchingPongReceived = g.rs422.matchingPongReceived := by
  unfold Gateway.rs422Goto
  rw [(Gateway.takeFlags_rs422 g).1]

theorem step_waits (h : s.Inv)
    (hpc : s.gateway.rs422.pc = .waitTx ∨ s.gateway.rs422.pc = .pollFlags ∨
      s.gateway.rs422.pc = .checkBusy ∨ s.gateway.rs422.pc = .waitFlags)
    (taken : s.gateway.rs422Step hal late = some g) :
    (s.after (.gateway (.rs422 hal late)) g).Inv := by
  have hwaits : s.WaitsTx s.gateway.rs422.matchingPongReceived := by
    have hprogress := h.progress
    unfold Progress at hprogress
    rcases hpc with hpc | hpc | hpc | hpc <;> (rw [hpc] at hprogress; exact hprogress)
  have hplain : s.plain = true := by
    unfold plain
    rcases hpc with hpc | hpc | hpc | hpc <;> rw [hpc]
  have hsilent : s.gateway.parsedPong = none := by
    apply parsedPong_none
    rcases hpc with hpc | hpc | hpc | hpc <;> (rw [hpc]; intro caller hrx; cases hrx)
  rcases hpc with hpc | hpc | hpc | hpc
  · simp only [Gateway.rs422Step, hpc] at taken
    split at taken
    · cases taken
      exact inv_calls h.counted hplain hsilent hwaits (.inl rfl)
    · cases taken
      refine inv_returns h.counted hplain hsilent hwaits (.refl _) rfl ?_
      unfold Gateway.bringupResult
      rw [hpc]
      rfl
  · simp only [Gateway.rs422Step, hpc, Option.some.injEq] at taken
    subst taken
    refine inv_goes h.counted hplain hsilent hwaits ?_ (.inr (.inr (.inl rfl))) ?_
    · split
      · exact Gateway.takeFlags_sameTest _ _
      · exact ⟨rfl, rfl, rfl, rfl⟩
    · split
      · exact takeFlags_received _ _
      · rfl
  · simp only [Gateway.rs422Step, hpc] at taken
    split at taken
    · cases taken
      exact inv_calls h.counted hplain hsilent hwaits (.inr rfl)
    split at taken
    · cases taken
      refine inv_returns h.counted hplain hsilent hwaits (.refl _) rfl ?_
      unfold Gateway.bringupResult
      rw [hpc]
      rfl
    · cases taken
      exact inv_goes h.counted hplain hsilent hwaits ⟨rfl, rfl, rfl, rfl⟩ (.inr (.inr (.inr rfl)))
        rfl
  · simp only [Gateway.rs422Step, hpc] at taken
    split at taken
    · cases taken
      exact inv_goes h.counted hplain hsilent hwaits (Gateway.takeFlags_sameTest _ _) (.inl rfl)
        (takeFlags_received _ _)
    split at taken
    · cases taken
      refine inv_returns h.counted hplain hsilent hwaits (.refl _) rfl ?_
      unfold Gateway.bringupResult
      rw [hpc]
      rfl
    · cases taken

theorem step_pongs (h : s.Inv)
    (hpc : s.gateway.rs422.pc = .pongLoop ∨ s.gateway.rs422.pc = .pongElapsed ∨
      s.gateway.rs422.pc = .pongWait)
    (taken : s.gateway.rs422Step hal late = some g) :
    (s.after (.gateway (.rs422 hal late)) g).Inv := by
  have hmissed : s.Sent ∧ ¬ s.Heard := by
    have hprogress := h.progress
    unfold Progress at hprogress
    rcases hpc with hpc | hpc | hpc <;> (rw [hpc] at hprogress; exact hprogress)
  have hplain : s.plain = true := by
    unfold plain
    rcases hpc with hpc | hpc | hpc <;> rw [hpc]
  have hsilent : s.gateway.parsedPong = none := by
    apply parsedPong_none
    rcases hpc with hpc | hpc | hpc <;> (rw [hpc]; intro caller hrx; cases hrx)
  have htimeout : s.gateway.bringupResult (.gateway (.rs422 hal late)) = .pongTimeout := by
    unfold Gateway.bringupResult
    rcases hpc with hpc | hpc | hpc <;> rw [hpc]
  have goes := fun {g : Gateway} => inv_pong (a := .gateway (.rs422 hal late)) (g := g) h.counted
    hplain hsilent hmissed.1 hmissed.2
  rcases hpc with hpc | hpc | hpc
  · simp only [Gateway.rs422Step, hpc, Option.some.injEq] at taken
    subst taken
    split
    · exact goes ⟨rfl, rfl, rfl, rfl⟩ (.inr (.inr (.inr (.inr ⟨rfl, .inl htimeout⟩))))
    · exact goes ⟨rfl, rfl, rfl, rfl⟩ (.inr (.inr (.inr (.inl ⟨rfl, rfl⟩))))
  · simp only [Gateway.rs422Step, hpc, Option.some.injEq] at taken
    subst taken
    split
    · exact goes ⟨rfl, rfl, rfl, rfl⟩ (.inr (.inr (.inr (.inr ⟨rfl, .inl htimeout⟩))))
    · exact goes ⟨rfl, rfl, rfl, rfl⟩ (.inr (.inr (.inl rfl)))
  · simp only [Gateway.rs422Step, hpc] at taken
    split at taken
    · cases taken
      exact goes (Gateway.takeFlags_sameTest _ _) (.inl rfl)
    split at taken
    · cases taken
      exact goes ⟨rfl, rfl, rfl, rfl⟩ (.inr (.inr (.inr (.inr ⟨rfl, .inl htimeout⟩))))
    · cases taken

/-- `rs422_process_rx_buffer` takes a byte. -/
theorem step_byte (h : s.Inv) {caller : RxCaller} (hpc : s.gateway.rs422.pc = .rx caller)
    {byte : UInt8} {rest : List UInt8} (ring : s.gateway.rxRing = byte :: rest) :
    (s.after (.gateway (.rs422 hal late))
      ({ s.gateway with rxRing := rest }.processRxByte byte)).Inv := by
  have hplain : s.plain = true := by
    unfold plain
    rw [hpc]
  obtain ⟨htask, hforwarding⟩ :=
    Gateway.processRxByte_rs422 { s.gateway with rxRing := rest } byte
  have hsame := Gateway.processRxByte_sameTest { s.gateway with rxRing := rest } byte
  generalize Gateway.processRxByte { s.gateway with rxRing := rest } byte = g at htask hsame
  have between := after_between (.gateway (.rs422 hal late)) g hplain
  have same : s.SameTest (s.after (.gateway (.rs422 hal late)) g) :=
    between.same ⟨hsame.testIndex, hsame.txCaller, hsame.expected, hsame.forwarding⟩
  have hpong : s.gateway.parsedPong = s.gateway.pongOf byte := by
    unfold Gateway.parsedPong
    rw [hpc, ring]
  have hpongs := between.pongs
  rw [hpong] at hpongs
  have hpc' : (s.after (.gateway (.rs422 hal late)) g).gateway.rs422.pc = .rx caller := by
    show g.rs422.pc = .rx caller
    rw [htask]
    exact hpc
  have hmatching : g.rs422.matchingPongReceived = s.gateway.rs422.matchingPongReceived := by
    rw [htask]
  have hreceived : g.rs422.rxMatchingPongReceived =
      (s.gateway.rs422.rxMatchingPongReceived ||
        decide (s.gateway.pongOf byte = some s.gateway.rs422.expectedPongSequence)) := by
    rw [htask]
    rfl
  have hprogress := h.progress
  unfold Progress at hprogress
  rw [hpc] at hprogress
  refine ⟨between.counted h.counted, ?_⟩
  unfold Progress
  rw [hpc']
  cases caller with
  | txLoop | txDone =>
    have hwaits : s.WaitsTx _ := hprogress
    show WaitsTx _ (g.rs422.matchingPongReceived || g.rs422.rxMatchingPongReceived)
    rw [hmatching, hreceived, ← Bool.or_assoc]
    exact same.waitsTx_byte hpongs hwaits
  | pongLoop =>
    obtain ⟨hsent, hheard⟩ := hprogress
    refine ⟨same.sent_same hsent, ?_⟩
    show g.rs422.rxMatchingPongReceived = true ↔ _
    rw [hreceived]
    exact same.received_iff hpongs hsent hheard
  | main => exact same.report hprogress

/-- `rs422_process_rx_buffer` returns. -/
theorem step_returnRx (h : s.Inv) {caller : RxCaller} (hpc : s.gateway.rs422.pc = .rx caller)
    (ring : s.gateway.rxRing = []) :
    (s.after (.gateway (.rs422 hal late)) (s.gateway.returnProcessRx caller)).Inv := by
  have hplain : s.plain = true := by
    unfold plain
    rw [hpc]
  have hsilent := parsedPong_empty ring
  have hprogress := h.progress
  unfold Progress at hprogress
  rw [hpc] at hprogress
  have hpass : s.gateway.bringupResult (.gateway (.rs422 hal late)) = .pass := by
    unfold Gateway.bringupResult
    rw [hpc]
  cases caller with
  | txLoop =>
    exact inv_goes h.counted hplain hsilent hprogress ⟨rfl, rfl, rfl, rfl⟩ (.inr (.inl rfl)) rfl
  | txDone =>
    unfold Gateway.returnProcessRx
    refine inv_returns h.counted hplain hsilent hprogress ?_ rfl (hpass.trans (if_pos rfl).symm)
    exact ⟨rfl, rfl, rfl, rfl⟩
  | pongLoop =>
    obtain ⟨hsent, hheard⟩ := hprogress
    unfold Gateway.returnProcessRx
    dsimp only
    split
    case isTrue hyes =>
      have between := after_between (.gateway (.rs422 hal late)) (s.gateway.rs422Goto .testDone)
        hplain
      have same := between.same ⟨rfl, rfl, rfl, rfl⟩
      have hsent' := same.sent_same hsent
      have hresult := (between.testResult rfl).trans hpass
      refine ⟨between.counted h.counted, hsent'.testing, hsent'.sound ?_ ?_ ?_⟩
      · exact fun _ => (same.heard_same (between.quiet hsilent)).mpr (hheard.mp hyes)
      · rw [hresult]
        rintro (hmissed | hmissed) <;> cases hmissed
      · rw [hresult]
        decide
    case isFalse hno =>
      exact inv_pong h.counted hplain hsilent hsent (fun hs => hno (hheard.mpr hs))
        ⟨rfl, rfl, rfl, rfl⟩ (.inr (.inl rfl))
  | main => exact inv_main h.counted hplain hprogress (.inl rfl)

/-- The steps of the main loop. -/
theorem step_main (h : s.Inv) (hmain : main s.gateway = true)
    (hrx : ∀ caller, s.gateway.rs422.pc ≠ .rx caller)
    (taken : s.gateway.rs422Step hal late = some g) :
    (s.after (.gateway (.rs422 hal late)) g).Inv := by
  have hreport : s.Report := by
    have hprogress := h.progress
    unfold Progress at hprogress
    unfold main at hmain
    split at hmain <;> simp_all
  have hplain : s.plain = true := by
    unfold plain
    unfold main at hmain
    split at hmain <;> simp_all
  have stays := fun {g : Gateway} => inv_main (a := .gateway (.rs422 hal late)) (g := g) h.counted
    hplain hreport
  unfold main at hmain
  cases hpc : s.gateway.rs422.pc with
  | rx caller => exact absurd hpc (hrx caller)
  | dequeue =>
    simp only [Gateway.rs422Step, hpc] at taken
    split at taken <;> (cases taken; exact stays (.inl rfl))
  | forward =>
    simp only [Gateway.rs422Step, hpc] at taken
    split at taken
    · cases taken
      exact stays (.inl rfl)
    · split at taken <;> (cases taken; exact stays (.inl rfl))
  | forwardPending =>
    simp only [Gateway.rs422Step, hpc, Option.some.injEq] at taken
    subst taken
    exact stays (.inl rfl)
  | forwardTransmit =>
    simp only [Gateway.rs422Step, hpc] at taken
    split at taken
    · cases taken
      exact stays (.inr ⟨rfl, rfl⟩)
    · cases taken
      exact stays (.inl rfl)
  | mainWait =>
    simp only [Gateway.rs422Step, hpc] at taken
    split at taken
    · cases taken
      exact stays (.inl rfl)
    · cases taken
  | _ =>
    rw [hpc] at hmain
    cases hmain

theorem step_enable (h : s.Inv) (hpc : s.gateway.rs422.pc = .enable)
    (taken : s.gateway.rs422Step hal late = some g) :
    (s.after (.gateway (.rs422 hal late)) g).Inv := by
  have hprogress := h.progress
  simp only [Progress, hpc] at hprogress
  have hplain : s.plain = true := by
    unfold plain
    rw [hpc]
  simp only [Gateway.rs422Step, hpc, Option.some.injEq] at taken
  subst taken
  exact inv_main h.counted hplain hprogress.1 (.inl rfl)

theorem step_rs422 (h : s.Inv) (taken : s.gateway.rs422Step hal late = some g) :
    (s.after (.gateway (.rs422 hal late)) g).Inv := by
  cases hpc : s.gateway.rs422.pc with
  | start => exact step_start h hpc taken
  | bringup => exact step_bringup h hpc taken
  | bringupTransmit => exact step_bringupTransmit h hpc taken
  | waitTx => exact step_waits h (.inl hpc) taken
  | pollFlags => exact step_waits h (.inr (.inl hpc)) taken
  | checkBusy => exact step_waits h (.inr (.inr (.inl hpc))) taken
  | waitFlags => exact step_waits h (.inr (.inr (.inr hpc))) taken
  | rx caller =>
    simp only [Gateway.rs422Step, hpc] at taken
    split at taken
    case h_1 hring =>
      cases taken
      exact step_returnRx h hpc hring
    case h_2 hring =>
      cases taken
      exact step_byte h hpc hring
  | pongLoop => exact step_pongs h (.inl hpc) taken
  | pongElapsed => exact step_pongs h (.inr (.inl hpc)) taken
  | pongWait => exact step_pongs h (.inr (.inr hpc)) taken
  | testDone => exact step_testDone h hpc taken
  | delay => exact step_delay h hpc taken
  | enable => exact step_enable h hpc taken
  | dequeue | forward | forwardPending | forwardTransmit | mainWait =>
    refine step_main h ?_ ?_ taken
    · unfold main
      rw [hpc]
    · rw [hpc]
      intro caller hrx
      cases hrx

/-- A flag call of RS422Task fails. -/
theorem step_flagError (h : s.Inv) {error : FlagError}
    (taken : s.gateway.flagErrorStep error = some g) : (s.after (.flagError error) g).Inv := by
  have hprogress := h.progress
  unfold Progress at hprogress
  have hplain : s.gateway.rs422.pc ≠ .bringup → s.plain = true := by
    intro hnot
    unfold Gateway.flagErrorStep at taken
    unfold plain
    split at taken <;> simp_all
  have hsilent : s.gateway.parsedPong = none := by
    apply parsedPong_none
    intro caller hpc
    simp only [Gateway.flagErrorStep, hpc] at taken
    cases taken
  cases hpc : s.gateway.rs422.pc with
  | bringup =>
    simp only [Gateway.flagErrorStep, hpc] at taken
    split at taken
    · cases taken
    split at taken <;> cases taken
    exact inv_bringup h hpc ⟨rfl, rfl, rfl, rfl⟩ (.inl rfl)
  | forward =>
    simp only [hpc] at hprogress
    have hplain := hplain (by rw [hpc]; decide)
    simp only [Gateway.flagErrorStep, hpc] at taken
    split at taken
    · cases taken
    split at taken <;> cases taken
    exact inv_main h.counted hplain hprogress (.inl rfl)
  | pollFlags =>
    simp only [hpc] at hprogress
    have hplain := hplain (by rw [hpc]; decide)
    have hresult : s.gateway.bringupResult (.flagError error) = .txFailure := by
      unfold Gateway.bringupResult
      rw [hpc]
    simp only [Gateway.flagErrorStep, hpc, Option.some.injEq] at taken
    subst taken
    split
    · exact inv_goes h.counted hplain hsilent hprogress ⟨rfl, rfl, rfl, rfl⟩
        (.inr (.inr (.inl rfl))) rfl
    · exact inv_returns h.counted hplain hsilent hprogress (.refl _) rfl hresult
  | waitFlags =>
    simp only [hpc] at hprogress
    have hplain := hplain (by rw [hpc]; decide)
    have hresult : s.gateway.bringupResult (.flagError error) = .txFailure := by
      unfold Gateway.bringupResult
      rw [hpc]
    simp only [Gateway.flagErrorStep, hpc, Option.some.injEq] at taken
    subst taken
    exact inv_returns h.counted hplain hsilent hprogress (.refl _) rfl hresult
  | pongWait =>
    simp only [hpc] at hprogress
    have hplain := hplain (by rw [hpc]; decide)
    have hresult : s.gateway.bringupResult (.flagError error) = .pongTimeout ∨
        s.gateway.bringupResult (.flagError error) = .rxFailure := by
      unfold Gateway.bringupResult
      rw [hpc]
      cases error with
      | timeout => exact .inl rfl
      | _ => exact .inr rfl
    simp only [Gateway.flagErrorStep, hpc, Option.some.injEq] at taken
    subst taken
    exact inv_pong h.counted hplain hsilent hprogress.1 hprogress.2 ⟨rfl, rfl, rfl, rfl⟩
      (.inr (.inr (.inr (.inr ⟨rfl, hresult⟩))))
  | mainWait =>
    simp only [hpc] at hprogress
    have hplain := hplain (by rw [hpc]; decide)
    simp only [Gateway.flagErrorStep, hpc, Option.some.injEq] at taken
    subst taken
    exact inv_main h.counted hplain hprogress (.inl rfl)
  | _ =>
    simp only [Gateway.flagErrorStep, hpc] at taken
    cases taken

/-- The other steps leave RS422Task where it is. -/
theorem step_other (h : s.Inv) (task : g.rs422 = s.gateway.rs422)
    (frame : g.rs422TxFrame = s.gateway.rs422TxFrame)
    (forwarding : g.telemetryForwardingEnabled = s.gateway.telemetryForwardingEnabled) :
    Inv { s with gateway := g } := by
  have same : s.SameTest { s with gateway := g } := by
    refine ⟨rfl, rfl, rfl, ?_, ?_, ?_, forwarding⟩ <;> (show _ = _; rw [task])
  have hcurrent : current { s with gateway := g } = s.current := by
    unfold current
    rw [same.gateway.testSeq]
  have hprogress := h.progress
  refine ⟨{ h.counted with }, ?_⟩
  unfold Progress at hprogress ⊢
  dsimp only
  rw [task, frame, forwarding, same.gateway.testSeq]
  cases hpc : s.gateway.rs422.pc with
  | start =>
    simp only [hpc] at hprogress
    exact ⟨same.testing hprogress.1, hprogress.2⟩
  | bringup =>
    simp only [hpc] at hprogress
    exact same.testing hprogress
  | bringupTransmit =>
    simp only [hpc] at hprogress
    exact ⟨same.testing hprogress.1, hprogress.2⟩
  | waitTx | pollFlags | checkBusy | waitFlags =>
    simp only [hpc] at hprogress
    exact same.waitsTx rfl hprogress
  | rx caller =>
    simp only [hpc] at hprogress
    cases caller with
    | txLoop | txDone => exact same.waitsTx rfl hprogress
    | pongLoop =>
      exact ⟨same.sent_same hprogress.1, hprogress.2.trans (same.heard_same rfl).symm⟩
    | main => exact same.report hprogress
  | pongLoop | pongElapsed | pongWait =>
    simp only [hpc] at hprogress
    exact ⟨same.sent_same hprogress.1, fun hs => hprogress.2 ((same.heard_same rfl).mp hs)⟩
  | testDone =>
    simp only [hpc] at hprogress
    rw [hcurrent]
    exact ⟨same.testing hprogress.1, hprogress.2⟩
  | delay =>
    simp only [hpc] at hprogress
    exact hprogress
  | enable =>
    simp only [hpc] at hprogress
    exact ⟨same.report hprogress.1, hprogress.2⟩
  | dequeue | forward | forwardPending | forwardTransmit | mainWait =>
    simp only [hpc] at hprogress
    exact same.report hprogress

theorem inv_step {a : SlotAction} (h : s.Inv) (taken : s.step a = some s') : s'.Inv := by
  obtain ⟨g, hg, rfl⟩ := Option.map_eq_some_iff.mp taken
  cases a with
  | flagError error => exact step_flagError h hg
  | gateway action =>
    cases action with
    | rs422 hal late => exact step_rs422 h hg
    | ethernet op hal =>
      have hg : s.gateway.step (.ethernet op hal) = some g := hg
      simp only [Gateway.step] at hg
      split at hg
      · obtain ⟨-, hframe, htask, -⟩ := Gateway.ethernetStep_uart hg
        exact step_other h htask hframe (Gateway.ethernetStep_forwarding hg)
      · cases hg
    | uartRx byte =>
      cases hg
      exact step_other h rfl rfl rfl
    | uartError =>
      cases hg
      exact step_other h rfl rfl rfl
    | uartTxDone =>
      cases hg
      exact step_other h rfl rfl rfl

/-- Once TELEMETRY is forwarded, the tests are over. -/
theorem Inv.report (h : s.Inv) (hon : s.gateway.telemetryForwardingEnabled = true) : s.Report := by
  have off : ¬ s.gateway.telemetryForwardingEnabled = false := by
    rw [hon]
    decide
  have waits : ∀ {received : Bool}, s.WaitsTx received → s.Report := by
    intro received hwaits
    unfold WaitsTx at hwaits
    split at hwaits
    · exact absurd hwaits.1.testing.forwarding off
    · exact hwaits
  have hprogress := h.progress
  unfold Progress at hprogress
  split at hprogress
  · exact absurd hprogress.1.forwarding off
  · exact absurd hprogress.forwarding off
  · exact absurd hprogress.1.forwarding off
  iterate 6 exact waits hprogress
  iterate 4 exact absurd hprogress.1.testing.forwarding off
  · exact absurd hprogress.1.forwarding off
  · exact absurd hprogress.2.2 off
  · exact hprogress.1
  iterate 6 exact hprogress

end Steps

end Bringup

end Rs422Gateway
