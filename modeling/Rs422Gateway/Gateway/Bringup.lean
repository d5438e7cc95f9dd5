import Rs422Gateway.Gateway.SlotTrace

/-!
# The bring-up test

What `rs422_ping_bringup_run` (`main.c:2699-2743`) makes of the results of its tests, over the steps
of RS422Task in `Gateway/Rs422Task.lean`. Each `return` of `rs422_ping_bringup_test`
(`main.c:2586-2697`) belongs to one place of RS422Task, so the place tells the result. The flag
calls of RS422Task may fail.

`sent`, `pongs` and `tests` are history.
-/

namespace Rs422Gateway

/-- `RS422_PING_TEST_NOT_RUN` and its like (`main.c:33-41`). -/
inductive PingTestResult where
  | notRun
  | pass
  | encodeFailure
  | txFailure
  | pongTimeout
  | rxFailure
  deriving DecidableEq, Repr

/-- A test that is over. -/
structure BringupTest where
  seq : UInt16
  result : PingTestResult
  /-- The frame that `HAL_UART_Transmit_IT` has accepted. -/
  sent : Option (List UInt8)
  /-- The SEQs of the PONGs parsed behind that. -/
  pongs : List UInt16
  deriving DecidableEq, Repr

/-- The gateway with the variables of `rs422_ping_bringup_run`. -/
structure Bringup where
  gateway : Gateway
  /-- `test_result`. -/
  testResult : PingTestResult
  /-- `last_failure`. -/
  lastFailure : PingTestResult
  /-- `g_rs422_ping_test_result`. -/
  pingTestResult : PingTestResult
  testTotal : UInt32
  testSuccess : UInt32
  testFail : UInt32
  sent : Option (List UInt8)
  pongs : List UInt16
  tests : List BringupTest

namespace Gateway

/-- The SEQ of the PONG that this byte completes. -/
def pongOf (s : Gateway) (byte : UInt8) : Option UInt16 :=
  if s.rs422Event byte = .frame ∧ (s.feedRs422 byte).rs422ReceivedPacket.msgId = msgPong then
    some (s.feedRs422 byte).rs422ReceivedPacket.seq
  else none

/-- The SEQ of the PONG that the next step of RS422Task parses. -/
def parsedPong (s : Gateway) : Option UInt16 :=
  match s.rs422.pc, s.rxRing with
  | .rx _, byte :: _ => s.pongOf byte
  | _, _ => none

/-- `sequence` of the test under way. -/
def testSeq (s : Gateway) : UInt16 := UInt16.ofNat (s.rs422.testIndex + 1)

/-- What `rs422_ping_bringup_test` returns if the next step of RS422Task ends it. -/
def bringupResult (s : Gateway) (a : SlotAction) : PingTestResult :=
  match s.rs422.pc with
  | .bringup =>
      if s.rs422TxBusy = false ∧ encodeFrame (bringupPing s.testSeq) = none then .encodeFailure
      else .txFailure
  | .bringupTransmit | .pollFlags | .checkBusy | .waitFlags => .txFailure
  | .pongLoop | .pongElapsed => .pongTimeout
  | .pongWait =>
      match a with
      | .gateway _ | .flagError .timeout => .pongTimeout
      | .flagError _ => .rxFailure
  | _ => .pass

end Gateway

namespace Bringup

def initial : Bringup := ⟨.initial, .notRun, .pass, .notRun, 0, 0, 0, none, [], []⟩

/-- `rs422_ping_bringup_run` begins (`main.c:2701-2709`), or is not called (`main.c:3286-3290`). -/
def begin (s : Bringup) (receiving : Bool) : Bringup :=
  if receiving then
    { s with
      lastFailure := .pass
      pingTestResult := .notRun
      testTotal := 0
      testSuccess := 0
      testFail := 0 }
  else { s with pingTestResult := .rxFailure }

/-- A test is over (`main.c:2718-2729`). -/
def count (s : Bringup) : Bringup :=
  let test : BringupTest := ⟨s.gateway.testSeq, s.testResult, s.sent, s.pongs⟩
  let s :=
    { s with
      testTotal := s.testTotal + 1
      pingTestResult := s.testResult
      tests := s.tests ++ [test] }
  if s.testResult = .pass then { s with testSuccess := s.testSuccess + 1 }
  else { s with testFail := s.testFail + 1, lastFailure := s.testResult }

/-- `rs422_ping_bringup_run` returns (`main.c:2737-2742`, `3284`). -/
def finish (s : Bringup) : Bringup :=
  { s with pingTestResult := if s.testFail = 0 then .pass else s.lastFailure }

/-- What a step of RS422Task to `g` does to the variables of the test. -/
def note (s : Bringup) (a : SlotAction) (g : Gateway) : Bringup :=
  match s.gateway.rs422.pc with
  | .start => s.begin (g.rs422.pc == .bringup)
  | .bringup => { s with sent := none, pongs := [], testResult := s.gateway.bringupResult a }
  | .bringupTransmit =>
      if g.rs422.pc = .waitTx then { s with sent := some s.gateway.rs422TxFrame }
      else { s with testResult := s.gateway.bringupResult a }
  | .testDone => if g.rs422.pc = .enable then s.count.finish else s.count
  | _ =>
      { s with
        pongs := s.pongs ++ s.gateway.parsedPong.toList
        testResult :=
          if g.rs422.pc = .testDone then s.gateway.bringupResult a else s.testResult }

/-- A step of RS422Task. -/
def byRs422Task : SlotAction → Bool
  | .gateway (.rs422 _ _) | .flagError _ => true
  | .gateway _ => false

def step (s : Bringup) (a : SlotAction) : Option Bringup :=
  (s.gateway.stepOrFail a).map fun g =>
    { if byRs422Task a then s.note a g else s with gateway := g }

end Bringup

end Rs422Gateway
