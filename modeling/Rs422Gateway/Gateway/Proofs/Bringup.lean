import Rs422Gateway.Common.Proofs.Codec
import Rs422Gateway.Gateway.Bringup
import Rs422Gateway.Gateway.Proofs.TxOwnership

/-!
# What is known of the bring-up test

The invariant of the bring-up test: what the tests that are over have found out, and what RS422Task
knows of the test under way, place by place. A step neither forgets the PING of the test nor a PONG
that has been parsed behind it.
-/

namespace Rs422Gateway

/-- The result tells what has happened. -/
structure BringupTest.Sound (t : BringupTest) : Prop where
  sent : t.sent = none ∨ t.sent = encodeFrame (Gateway.bringupPing t.seq)
  pass : t.result = .pass → t.sent ≠ none ∧ t.seq ∈ t.pongs
  missed : t.result = .pongTimeout ∨ t.result = .rxFailure → t.sent ≠ none ∧ t.seq ∉ t.pongs
  encoded : t.result ≠ .encodeFailure ∧ t.result ≠ .notRun

def BringupTest.passed (t : BringupTest) : Bool := decide (t.result = .pass)

/-- PASS, or the result of the last test that has not passed. -/
def bringupOutcome (tests : List BringupTest) : PingTestResult :=
  match (tests.filter (!·.passed)).getLast? with
  | none => .pass
  | some t => t.result

theorem bringupOutcome_append (tests : List BringupTest) (t : BringupTest) :
    bringupOutcome (tests ++ [t]) =
      if t.result = .pass then bringupOutcome tests else t.result := by
  unfold bringupOutcome
  rw [List.filter_append]
  by_cases hpass : t.result = .pass
  · rw [if_pos hpass, show [t].filter (!·.passed) = [] by simp [BringupTest.passed, hpass],
      List.append_nil]
  · rw [if_neg hpass, show [t].filter (!·.passed) = [t] by simp [BringupTest.passed, hpass],
      List.getLast?_concat]

theorem bringupOutcome_pass {tests : List BringupTest} (h : ∀ t ∈ tests, t.result = .pass) :
    bringupOutcome tests = .pass := by
  have hnone : tests.filter (!·.passed) = [] := by
    apply List.filter_eq_nil_iff.mpr
    intro t ht
    simp [BringupTest.passed, h t ht]
  rw [bringupOutcome, hnone]
  rfl

/-! ## The tests that are over -/

namespace Bringup

variable {s s' : Bringup}

/-- The counters of the tests. -/
structure Counted (s : Bringup) : Prop where
  seqs : s.tests.map (·.seq) = (List.range s.tests.length).map fun k => UInt16.ofNat (k + 1)
  sound : ∀ t ∈ s.tests, t.Sound
  total : s.testTotal = UInt32.ofNat s.tests.length
  success : s.testSuccess = UInt32.ofNat (s.tests.countP (·.passed))
  fail : s.testFail = UInt32.ofNat (s.tests.countP (!·.passed))
  lastFailure : s.lastFailure = bringupOutcome s.tests

/-- The test that is about to end. -/
def current (s : Bringup) : BringupTest := ⟨s.gateway.testSeq, s.testResult, s.sent, s.pongs⟩

theorem Counted.count (h : s.Counted) (hindex : s.tests.length = s.gateway.rs422.testIndex)
    (hsound : s.current.Sound) : s.count.Counted := by
  have hseqs : (s.tests ++ [s.current]).map (·.seq) =
      (List.range (s.tests ++ [s.current]).length).map fun k => UInt16.ofNat (k + 1) := by
    rw [List.map_append, h.seqs, List.length_append, List.length_singleton, List.range_succ,
      List.map_append, hindex]
    rfl
  have hmem : ∀ t ∈ s.tests ++ [s.current], t.Sound := by
    intro t ht
    rcases List.mem_append.mp ht with ht | ht
    · exact h.sound t ht
    · rw [List.mem_singleton.mp ht]
      exact hsound
  have htotal : s.testTotal + 1 = UInt32.ofNat (s.tests ++ [s.current]).length := by
    rw [h.total, List.length_append, List.length_singleton, UInt32.ofNat_add]
    rfl
  have houtcome := bringupOutcome_append s.tests s.current
  have hpassed : s.current.passed = decide (s.testResult = .pass) := rfl
  unfold Bringup.count
  dsimp only
  split
  case isTrue hpass =>
    rw [show s.current.result = .pass from hpass, if_pos rfl] at houtcome
    refine ⟨hseqs, hmem, htotal, ?_, ?_, h.lastFailure.trans houtcome.symm⟩
    · show s.testSuccess + 1 = UInt32.ofNat ((s.tests ++ [s.current]).countP _)
      rw [h.success, List.countP_append, List.countP_singleton, hpassed,
        if_pos (decide_eq_true hpass), UInt32.ofNat_add]
      rfl
    · show s.testFail = UInt32.ofNat ((s.tests ++ [s.current]).countP _)
      rw [h.fail, List.countP_append, List.countP_singleton, hpassed, decide_eq_true hpass]
      rfl
  case isFalse hfail =>
    rw [if_neg (show s.current.result ≠ .pass from hfail)] at houtcome
    refine ⟨hseqs, hmem, htotal, ?_, ?_, houtcome.symm⟩
    · show s.testSuccess = UInt32.ofNat ((s.tests ++ [s.current]).countP _)
      rw [h.success, List.countP_append, List.countP_singleton, hpassed, decide_eq_false hfail]
      rfl
    · show s.testFail + 1 = UInt32.ofNat ((s.tests ++ [s.current]).countP _)
      rw [h.fail, List.countP_append, List.countP_singleton, hpassed, decide_eq_false hfail,
        UInt32.ofNat_add]
      rfl

/-! ## The test under way -/

/-- The results when RS422Task has left the tests behind. -/
def Report (s : Bringup) : Prop :=
  (s.tests = [] ∧ s.pingTestResult = .rxFailure) ∨
    (s.tests.length = rs422BringupTestCount ∧ s.pingTestResult = bringupOutcome s.tests)

/-- As many tests are over as `test_index` says. -/
structure Testing (s : Bringup) : Prop where
  index : s.tests.length = s.gateway.rs422.testIndex
  bounded : s.gateway.rs422.testIndex < rs422BringupTestCount
  forwarding : s.gateway.telemetryForwardingEnabled = false

/-- The PING of the test has been sent. -/
structure Sent (s : Bringup) : Prop where
  testing : s.Testing
  sent : s.sent = encodeFrame (Gateway.bringupPing s.gateway.testSeq)
  expected : s.gateway.rs422.expectedPongSequence = s.gateway.testSeq

/-- A PONG with the SEQ of the test has been parsed. -/
def Heard (s : Bringup) : Prop := s.gateway.testSeq ∈ s.pongs

/-- RS422Task is in `rs422_wait_for_tx_complete`. -/
def WaitsTx (s : Bringup) (received : Bool) : Prop :=
  match s.gateway.rs422.txCaller with
  | .bringup => s.Sent ∧ (received = true ↔ s.Heard)
  | .forward => s.Report

/-- What is under way. -/
def Progress (s : Bringup) : Prop :=
  match s.gateway.rs422.pc with
  | .start => s.Testing ∧ s.tests = []
  | .bringup => s.Testing
  | .bringupTransmit =>
      s.Testing ∧
        encodeFrame (Gateway.bringupPing s.gateway.testSeq) = some s.gateway.rs422TxFrame ∧
        s.sent = none ∧ s.pongs = []
  | .waitTx | .pollFlags | .checkBusy | .waitFlags => s.WaitsTx s.gateway.rs422.matchingPongReceived
  | .rx .txLoop | .rx .txDone =>
      s.WaitsTx
        (s.gateway.rs422.matchingPongReceived || s.gateway.rs422.rxMatchingPongReceived)
  | .rx .pongLoop => s.Sent ∧ (s.gateway.rs422.rxMatchingPongReceived = true ↔ s.Heard)
  | .pongLoop | .pongElapsed | .pongWait => s.Sent ∧ ¬ s.Heard
  | .testDone => s.Testing ∧ s.current.Sound
  | .delay =>
      s.tests.length = s.gateway.rs422.testIndex + 1 ∧
        s.gateway.rs422.testIndex + 1 < rs422BringupTestCount ∧
        s.gateway.telemetryForwardingEnabled = false
  | .enable => s.Report ∧ s.gateway.telemetryForwardingEnabled = false
  | .rx .main | .dequeue | .forward | .forwardPending | .forwardTransmit | .mainWait => s.Report

/-- The invariant. -/
structure Inv (s : Bringup) : Prop where
  counted : s.Counted
  progress : s.Progress

/-- No test is over. -/
theorem counted_nil (tests : s.tests = []) (total : s.testTotal = 0) (success : s.testSuccess = 0)
    (fail : s.testFail = 0) (lastFailure : s.lastFailure = .pass) : s.Counted := by
  constructor <;> rw [tests]
  · rfl
  · exact fun t ht => absurd ht List.not_mem_nil
  · exact total
  · exact success
  · exact fail
  · exact lastFailure

theorem inv_initial : initial.Inv where
  counted := counted_nil rfl rfl rfl rfl rfl
  progress := ⟨⟨rfl, by decide, rfl⟩, rfl⟩

end Bringup

/-! ## What a step does to the task -/

namespace Gateway

theorem bringupPing_frame (seq : UInt16) : ∃ frame, encodeFrame (bringupPing seq) = some frame := by
  have hencodable : (bringupPing seq).Encodable := by
    refine ⟨rfl, ?_⟩
    show (0 : UInt16).toNat ≤ 256
    decide
  exact ⟨_, encodeFrame_of_encodable hencodable⟩

theorem takeFlags_rs422 (s : Gateway) : s.takeFlags.rs422 = s.rs422 ∧
    s.takeFlags.telemetryForwardingEnabled = s.telemetryForwardingEnabled := by
  unfold takeFlags handleTxDoneEvent handleTcpContextResetEvent
  split <;> split <;> exact ⟨rfl, rfl⟩

theorem handlePong_rs422 (s : Gateway) : s.handlePong.rs422 = s.rs422 ∧
    s.handlePong.telemetryForwardingEnabled = s.telemetryForwardingEnabled := by
  unfold handlePong enqueueResponse
  split
  · split <;> exact ⟨rfl, rfl⟩
  · exact ⟨rfl, rfl⟩

theorem noteMatchingPong_rs422 (s : Gateway) :
    s.noteMatchingPong.rs422 =
        { s.rs422 with
          rxMatchingPongReceived :=
            s.rs422.rxMatchingPongReceived ||
              decide (s.rs422ReceivedPacket.msgId = msgPong ∧
                s.rs422ReceivedPacket.seq = s.rs422.expectedPongSequence) } ∧
      s.noteMatchingPong.telemetryForwardingEnabled = s.telemetryForwardingEnabled := by
  unfold noteMatchingPong
  split
  case isTrue h => exact ⟨by rw [decide_eq_true h, Bool.or_true], rfl⟩
  case isFalse h => exact ⟨by rw [decide_eq_false h, Bool.or_false], rfl⟩

/-- A byte from the ring tells RS422Task of the PONG it waits for, and of nothing else. -/
theorem processRxByte_rs422 (s : Gateway) (byte : UInt8) :
    (s.processRxByte byte).rs422 =
        { s.rs422 with
          rxMatchingPongReceived :=
            s.rs422.rxMatchingPongReceived ||
              decide (s.pongOf byte = some s.rs422.expectedPongSequence) } ∧
      (s.processRxByte byte).telemetryForwardingEnabled = s.telemetryForwardingEnabled := by
  unfold processRxByte pongOf
  by_cases hevent : s.rs422Event byte = .frame
  · obtain ⟨queue, success, fail, htelemetry⟩ :=
      enqueueTelemetry_eq (s.feedRs422 byte).noteRs422Frame
    obtain ⟨hmatching, hkept⟩ :=
      noteMatchingPong_rs422 (s.feedRs422 byte).noteRs422Frame.enqueueTelemetry
    rw [if_pos hevent, handleRs422Frame, (handlePong_rs422 _).1, (handlePong_rs422 _).2, hmatching,
      hkept, htelemetry]
    refine ⟨?_, rfl⟩
    have hpacket : (s.feedRs422 byte).noteRs422Frame.rs422ReceivedPacket =
        (s.feedRs422 byte).rs422ReceivedPacket := rfl
    dsimp only
    rw [hpacket]
    by_cases hpong : (s.feedRs422 byte).rs422ReceivedPacket.msgId = msgPong
    · rw [if_pos ⟨hevent, hpong⟩]
      simp only [Option.some.injEq, hpong, true_and]
      rfl
    · rw [if_neg (fun h => hpong h.2)]
      simp only [hpong, false_and, reduceCtorEq]
      rfl
  · rw [if_neg hevent, if_neg (fun h => hevent h.1)]
    simp only [reduceCtorEq, decide_false, Bool.or_false]
    exact ⟨rfl, rfl⟩

/-- EthernetTask leaves the forwarding of TELEMETRY alone. -/
theorem ethernetStep_forwarding {s s' : Gateway} {op : EthernetOp} {hal : HalStatus}
    (taken : s.ethernetStep op hal = some s') :
    s'.telemetryForwardingEnabled = s.telemetryForwardingEnabled := by
  cases ethernetStep_move taken with
  | start op s' hpc taken =>
    unfold ethernetBegin at taken
    cases op with
    | invalidate | discard | drainTelemetry =>
      cases taken
      rfl
    | establish | receive | drain =>
      simp only at taken
      split at taken
      · cases taken
        rfl
      · cases taken
  | discardEnd left caller => cases caller <;> rfl
  | feed byte rest =>
    unfold processTcpByte
    split <;> rfl
  | put rest =>
    unfold putCommand
    split <;> rfl
  | _ => rfl

/-- The test under way is the same. -/
structure SameTest (s s' : Gateway) : Prop where
  testIndex : s'.rs422.testIndex = s.rs422.testIndex
  txCaller : s'.rs422.txCaller = s.rs422.txCaller
  expected : s'.rs422.expectedPongSequence = s.rs422.expectedPongSequence
  forwarding : s'.telemetryForwardingEnabled = s.telemetryForwardingEnabled

theorem SameTest.refl (s : Gateway) : s.SameTest s := ⟨rfl, rfl, rfl, rfl⟩

theorem SameTest.trans {s s' s'' : Gateway} (h : s.SameTest s') (h' : s'.SameTest s'') :
    s.SameTest s'' :=
  ⟨h'.testIndex.trans h.testIndex, h'.txCaller.trans h.txCaller, h'.expected.trans h.expected,
    h'.forwarding.trans h.forwarding⟩

theorem SameTest.testSeq {s s' : Gateway} (same : s.SameTest s') : s'.testSeq = s.testSeq := by
  unfold Gateway.testSeq
  rw [same.testIndex]

theorem takeFlags_sameTest (s : Gateway) (pc : Rs422Pc) :
    s.SameTest (s.takeFlags.rs422Goto pc) := by
  obtain ⟨htask, hforwarding⟩ := takeFlags_rs422 s
  refine ⟨?_, ?_, ?_, hforwarding⟩ <;> (unfold rs422Goto; rw [htask])

theorem processRxByte_sameTest (s : Gateway) (byte : UInt8) :
    s.SameTest (s.processRxByte byte) := by
  obtain ⟨htask, hforwarding⟩ := processRxByte_rs422 s byte
  refine ⟨?_, ?_, ?_, hforwarding⟩ <;> rw [htask]

theorem forwardFailed_rs422 (s : Gateway) : s.forwardFailed.rs422 = s.rs422 ∧
    s.forwardFailed.telemetryForwardingEnabled = s.telemetryForwardingEnabled := by
  unfold forwardFailed
  split <;> exact ⟨rfl, rfl⟩

/-- Where RS422Task goes on behind `rs422_wait_for_tx_complete`. -/
def returnPc (s : Gateway) (pass : Bool) : Rs422Pc :=
  match s.rs422.txCaller with
  | .bringup => if pass = true ∧ s.rs422.matchingPongReceived = false then .pongLoop else .testDone
  | .forward => .rx .main

theorem returnWaitForTxComplete_test (s : Gateway) (pass : Bool) :
    s.SameTest (s.returnWaitForTxComplete pass) ∧
      (s.returnWaitForTxComplete pass).rs422.pc = s.returnPc pass := by
  unfold returnWaitForTxComplete returnPc
  cases s.rs422.txCaller with
  | bringup =>
    dsimp only
    split <;> exact ⟨⟨rfl, rfl, rfl, rfl⟩, rfl⟩
  | forward =>
    cases pass with
    | true => exact ⟨⟨rfl, rfl, rfl, rfl⟩, rfl⟩
    | false =>
      obtain ⟨htask, hforwarding⟩ := forwardFailed_rs422 s
      refine ⟨⟨?_, ?_, ?_, hforwarding⟩, rfl⟩ <;>
        (simp only [callProcessRx, Bool.false_eq_true, if_false]; rw [htask])

end Gateway

/-! ## What stays of a test -/

namespace Bringup

variable {s s' : Bringup} {g : Gateway} {received : Bool}

/-- The test under way and what has been found out before it are the same. -/
structure SameTest (s s' : Bringup) : Prop where
  tests : s'.tests = s.tests
  pingTestResult : s'.pingTestResult = s.pingTestResult
  sent : s'.sent = s.sent
  gateway : s.gateway.SameTest s'.gateway

namespace SameTest

theorem testing (same : s.SameTest s') (h : s.Testing) : s'.Testing where
  index := by rw [same.tests, same.gateway.testIndex, h.index]
  bounded := by
    rw [same.gateway.testIndex]
    exact h.bounded
  forwarding := same.gateway.forwarding.trans h.forwarding

theorem sent_same (same : s.SameTest s') (h : s.Sent) : s'.Sent where
  testing := same.testing h.testing
  sent := by rw [same.sent, same.gateway.testSeq, h.sent]
  expected := by rw [same.gateway.expected, same.gateway.testSeq, h.expected]

theorem report (same : s.SameTest s') (h : s.Report) : s'.Report := by
  unfold Report
  rw [same.tests, same.pingTestResult]
  exact h

/-- The PONG has been parsed before or is the one that is parsed now. -/
theorem heard (same : s.SameTest s') {pong : Option UInt16}
    (hpongs : s'.pongs = s.pongs ++ pong.toList) :
    s'.Heard ↔ s.Heard ∨ pong = some s.gateway.testSeq := by
  unfold Heard
  rw [same.gateway.testSeq, hpongs, List.mem_append, Option.mem_toList]

/-- What `rs422_process_rx_buffer` returns goes with it. -/
theorem received_iff (same : s.SameTest s') {pong : Option UInt16}
    (hpongs : s'.pongs = s.pongs ++ pong.toList) (hsent : s.Sent) {received : Bool}
    (h : received = true ↔ s.Heard) :
    (received || decide (pong = some s.gateway.rs422.expectedPongSequence)) = true ↔
      s'.Heard := by
  rw [same.heard hpongs, Bool.or_eq_true, h, decide_eq_true_iff, hsent.expected]

theorem heard_same (same : s.SameTest s') (hpongs : s'.pongs = s.pongs) : s'.Heard ↔ s.Heard := by
  unfold Heard
  rw [same.gateway.testSeq, hpongs]

theorem waitsTx (same : s.SameTest s') (hpongs : s'.pongs = s.pongs) (h : s.WaitsTx received) :
    s'.WaitsTx received := by
  unfold WaitsTx at h ⊢
  rw [same.gateway.txCaller]
  cases hcaller : s.gateway.rs422.txCaller with
  | bringup =>
    simp only [hcaller] at h
    exact ⟨same.sent_same h.1, h.2.trans (same.heard_same hpongs).symm⟩
  | forward =>
    simp only [hcaller] at h
    exact same.report h

theorem waitsTx_byte (same : s.SameTest s') {pong : Option UInt16}
    (hpongs : s'.pongs = s.pongs ++ pong.toList) (h : s.WaitsTx received) :
    s'.WaitsTx (received || decide (pong = some s.gateway.rs422.expectedPongSequence)) := by
  unfold WaitsTx at h ⊢
  rw [same.gateway.txCaller]
  cases hcaller : s.gateway.rs422.txCaller with
  | bringup =>
    simp only [hcaller] at h
    exact ⟨same.sent_same h.1, same.received_iff hpongs h.1 h.2⟩
  | forward =>
    simp only [hcaller] at h
    exact same.report h

end SameTest

/-- A test ends whose PING has been sent. -/
theorem Sent.sound (h : s.Sent) (hpass : s.testResult = .pass → s.Heard)
    (hmissed : s.testResult = .pongTimeout ∨ s.testResult = .rxFailure → ¬ s.Heard)
    (hencoded : s.testResult ≠ .encodeFailure ∧ s.testResult ≠ .notRun) : s.current.Sound := by
  have hsome : s.current.sent ≠ none := by
    obtain ⟨frame, hframe⟩ := Gateway.bringupPing_frame s.gateway.testSeq
    show s.sent ≠ none
    rw [h.sent, hframe]
    exact Option.some_ne_none frame
  exact ⟨.inr h.sent, fun hp => ⟨hsome, hpass hp⟩, fun hm => ⟨hsome, hmissed hm⟩, hencoded⟩

/-- A test ends with a failure that says nothing of a PONG. -/
theorem txFailure_sound (hsent : s.current.sent = none ∨ s.current.sent =
    encodeFrame (Gateway.bringupPing s.current.seq)) (hresult : s.testResult = .txFailure) :
    s.current.Sound := by
  have hfailed : s.current.result = .txFailure := hresult
  refine ⟨hsent, ?_, ?_, ?_⟩
  · intro hpass
    cases hfailed.symm.trans hpass
  · rintro (hmissed | hmissed) <;> cases hfailed.symm.trans hmissed
  · rw [hfailed]
    decide

/-- `rs422_wait_for_tx_complete` has returned. -/
theorem progress_returned (h : s.WaitsTx received) (same : s.SameTest s')
    (hpongs : s'.pongs = s.pongs) {pass : Bool} {waiting : Gateway}
    (hcaller : waiting.rs422.txCaller = s.gateway.rs422.txCaller)
    (hreceived : waiting.rs422.matchingPongReceived = received)
    (hpc : s'.gateway.rs422.pc = waiting.returnPc pass)
    (hresult : s'.gateway.rs422.pc = .testDone →
      s'.testResult = if pass then .pass else .txFailure) :
    s'.Progress := by
  unfold WaitsTx at h
  unfold Gateway.returnPc at hpc
  rw [hcaller, hreceived] at hpc
  cases htx : s.gateway.rs422.txCaller with
  | bringup =>
    simp only [htx] at h hpc
    obtain ⟨hsent, hheard⟩ := h
    have hsent' := same.sent_same hsent
    have hheard' := same.heard_same hpongs
    split at hpc
    case isTrue hmissing =>
      simp only [Progress, hpc]
      rw [hmissing.2] at hheard
      exact ⟨hsent', fun hyes => Bool.false_ne_true (hheard.mpr (hheard'.mp hyes))⟩
    case isFalse hdone =>
      simp only [Progress, hpc]
      have hresult := hresult hpc
      refine ⟨hsent'.testing, ?_⟩
      cases pass with
      | false => exact txFailure_sound (.inr hsent'.sent) hresult
      | true =>
        have htrue : received = true := by simpa using hdone
        have hpassed : s'.testResult = .pass := hresult
        refine hsent'.sound (fun _ => hheard'.mpr (hheard.mp htrue)) ?_ ?_
        · rw [hpassed]
          rintro (hmissed | hmissed) <;> cases hmissed
        · rw [hpassed]
          decide
  | forward =>
    simp only [htx] at h hpc
    simp only [Progress, hpc]
    exact same.report h

/-! ## The steps -/

/-- RS422Task has made a step. -/
def after (s : Bringup) (a : SlotAction) (g : Gateway) : Bringup :=
  { s.note a g with gateway := g }

/-- The places from which a step neither begins a test nor sends its PING nor counts it. -/
def plain (s : Bringup) : Bool :=
  match s.gateway.rs422.pc with
  | .start | .bringup | .bringupTransmit | .testDone => false
  | _ => true

/-- A step from there. -/
structure Between (s : Bringup) (a : SlotAction) (s' : Bringup) : Prop where
  counted : s.Counted → s'.Counted
  tests : s'.tests = s.tests
  pingTestResult : s'.pingTestResult = s.pingTestResult
  sent : s'.sent = s.sent
  pongs : s'.pongs = s.pongs ++ s.gateway.parsedPong.toList
  testResult : s'.gateway.rs422.pc = .testDone → s'.testResult = s.gateway.bringupResult a

theorem after_between (a : SlotAction) (g : Gateway) (h : s.plain = true) :
    s.Between a (s.after a g) := by
  have hnote : s.note a g =
      { s with
        pongs := s.pongs ++ s.gateway.parsedPong.toList
        testResult :=
          if g.rs422.pc = .testDone then s.gateway.bringupResult a else s.testResult } := by
    unfold plain at h
    unfold note
    split <;> first | rfl | simp_all
  unfold after
  rw [hnote]
  exact ⟨fun hc => { hc with }, rfl, rfl, rfl, rfl, fun hpc => if_pos hpc⟩

theorem Between.same {a : SlotAction} (between : s.Between a s')
    (same : s.gateway.SameTest s'.gateway) : s.SameTest s' :=
  ⟨between.tests, between.pingTestResult, between.sent, same⟩

/-- No PONG is parsed. -/
theorem Between.quiet {a : SlotAction} (between : s.Between a s')
    (h : s.gateway.parsedPong = none) : s'.pongs = s.pongs := by
  rw [between.pongs, h]
  exact List.append_nil _

theorem parsedPong_none (h : ∀ caller, s.gateway.rs422.pc ≠ .rx caller) :
    s.gateway.parsedPong = none := by
  unfold Gateway.parsedPong
  split
  case h_1 caller byte rest hpc hring => exact absurd hpc (h caller)
  case h_2 => rfl

theorem parsedPong_empty (h : s.gateway.rxRing = []) : s.gateway.parsedPong = none := by
  unfold Gateway.parsedPong
  rw [h]
  split
  case h_1 heq => cases heq
  case h_2 => rfl

section Waiting

variable {a : SlotAction} {waiting : Gateway}

/-- `rs422_wait_for_tx_complete` goes on. -/
theorem inv_goes (counted : s.Counted) (plain : s.plain = true)
    (silent : s.gateway.parsedPong = none) (h : s.WaitsTx received)
    (same : s.gateway.SameTest g)
    (hpc : g.rs422.pc = .waitTx ∨ g.rs422.pc = .pollFlags ∨ g.rs422.pc = .checkBusy ∨
      g.rs422.pc = .waitFlags) (hreceived : g.rs422.matchingPongReceived = received) :
    (s.after a g).Inv := by
  have between := after_between a g plain
  have hwaits := (between.same same).waitsTx (between.quiet silent) h
  refine ⟨between.counted counted, ?_⟩
  have hgateway : (s.after a g).gateway = g := rfl
  subst hreceived
  unfold Progress
  rw [hgateway]
  rcases hpc with hpc | hpc | hpc | hpc <;> (rw [hpc]; exact hwaits)

/-- It calls `rs422_process_rx_buffer`. -/
theorem inv_calls (counted : s.Counted) (plain : s.plain = true)
    (silent : s.gateway.parsedPong = none) (h : s.WaitsTx s.gateway.rs422.matchingPongReceived)
    {caller : RxCaller} (hcaller : caller = .txLoop ∨ caller = .txDone) :
    (s.after a (s.gateway.callProcessRx caller)).Inv := by
  have between := after_between a (s.gateway.callProcessRx caller) plain
  have hwaits := (between.same ⟨rfl, rfl, rfl, rfl⟩).waitsTx (between.quiet silent) h
  refine ⟨between.counted counted, ?_⟩
  rw [← Bool.or_false s.gateway.rs422.matchingPongReceived] at hwaits
  rcases hcaller with rfl | rfl <;> exact hwaits

/-- It returns. -/
theorem inv_returns (counted : s.Counted) (plain : s.plain = true)
    (silent : s.gateway.parsedPong = none) (h : s.WaitsTx received)
    (same : s.gateway.SameTest waiting) (hreceived : waiting.rs422.matchingPongReceived = received)
    {pass : Bool} (hresult : s.gateway.bringupResult a = if pass then .pass else .txFailure) :
    (s.after a (waiting.returnWaitForTxComplete pass)).Inv := by
  have between := after_between a (waiting.returnWaitForTxComplete pass) plain
  obtain ⟨hsame, hpc⟩ := Gateway.returnWaitForTxComplete_test waiting pass
  refine ⟨between.counted counted, ?_⟩
  refine progress_returned h (between.same (same.trans hsame)) (between.quiet silent) same.txCaller
    hreceived hpc ?_
  intro hdone
  rw [between.testResult hdone, hresult]

/-- The PONG loop goes on, or ends without a PONG. -/
theorem inv_pong (counted : s.Counted) (plain : s.plain = true)
    (silent : s.gateway.parsedPong = none) (hsent : s.Sent) (hmissed : ¬ s.Heard)
    (same : s.gateway.SameTest g)
    (hpc : g.rs422.pc = .pongLoop ∨ g.rs422.pc = .pongElapsed ∨ g.rs422.pc = .pongWait ∨
      g.rs422.pc = .rx .pongLoop ∧ g.rs422.rxMatchingPongReceived = false ∨
      g.rs422.pc = .testDone ∧
        (s.gateway.bringupResult a = .pongTimeout ∨ s.gateway.bringupResult a = .rxFailure)) :
    (s.after a g).Inv := by
  have between := after_between a g plain
  have hsame := between.same same
  have hsent' := hsame.sent_same hsent
  have hmissed' : ¬ (s.after a g).Heard := fun hyes =>
    hmissed ((hsame.heard_same (between.quiet silent)).mp hyes)
  have hgateway : (s.after a g).gateway = g := rfl
  refine ⟨between.counted counted, ?_⟩
  unfold Progress
  rw [hgateway]
  rcases hpc with hpc | hpc | hpc | ⟨hpc, hnot⟩ | ⟨hpc, hresult⟩
  · rw [hpc]
    exact ⟨hsent', hmissed'⟩
  · rw [hpc]
    exact ⟨hsent', hmissed'⟩
  · rw [hpc]
    exact ⟨hsent', hmissed'⟩
  · rw [hpc]
    exact ⟨hsent', iff_of_false (Bool.eq_false_iff.mp hnot) hmissed'⟩
  · rw [hpc]
    rw [← between.testResult hpc] at hresult
    refine ⟨hsent'.testing, hsent'.sound ?_ (fun _ => hmissed') ?_⟩
    · intro hpass
      rw [hpass] at hresult
      rcases hresult with hresult | hresult <;> cases hresult
    · rcases hresult with hresult | hresult <;> (rw [hresult]; decide)

/-- RS422Task is in its main loop. -/
def main (g : Gateway) : Bool :=
  match g.rs422.pc with
  | .rx .main | .dequeue | .forward | .forwardPending | .forwardTransmit | .mainWait => true
  | _ => false

/-- It stays there, or waits for a transmission of its own. -/
theorem inv_main (counted : s.Counted) (plain : s.plain = true) (h : s.Report)
    (hpc : main g = true ∨ g.rs422.pc = .waitTx ∧ g.rs422.txCaller = .forward) :
    (s.after a g).Inv := by
  have between := after_between a g plain
  have hreport : (s.after a g).Report := by
    unfold Report
    rw [between.tests, between.pingTestResult]
    exact h
  have hgateway : (s.after a g).gateway = g := rfl
  refine ⟨between.counted counted, ?_⟩
  unfold Progress
  rw [hgateway]
  rcases hpc with hmain | ⟨hpc, hcaller⟩
  · unfold main at hmain
    split at hmain <;> simp_all
  · rw [hpc]
    unfold WaitsTx
    rw [hgateway, hcaller]
    exact hreport

end Waiting

end Bringup

end Rs422Gateway
