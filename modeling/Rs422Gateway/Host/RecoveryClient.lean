import Rs422Gateway.Host.TcpClient

/-!
# The recovery client

Rendering of `host/tcp_recovery_client.cpp`, which sends PINGs until it is interrupted and connects
again after every failure. What the operating system answers is a parameter of a step, and so is how
long a wait takes. `net_init` and `inet_pton` succeed.

The last four fields are history: the connections, what has been put on the socket of the last one,
what has been received for the PING under way, and the calls of `wait_for_pong` that have returned.
-/

namespace Rs422Gateway

/-- A line that the client prints. -/
inductive RecoveryLine where
  | connectFailed
  | connected
  | reconnected (count : UInt32)
  | pong (seq : UInt16)
  | sendFailed (seq : UInt16)
  | pongTimeout (seq : UInt16)
  | receiveError (seq : UInt16)
  | stopped (count : UInt32)
  deriving DecidableEq, Repr

/-- Where `main` stands. -/
inductive RecoveryPc where
  /-- At the top of the outer loop. -/
  | connecting
  /-- At the top of the inner loop. -/
  | pinging
  /-- At the top of the loop of `wait_for_pong`. -/
  | waiting
  | stopped
  deriving DecidableEq, Repr

/-- A call of `wait_for_pong`. -/
structure RecoveryWait where
  /-- The number of the connection. -/
  connection : Nat
  /-- What the client has put on its socket. -/
  sent : List UInt8
  seq : UInt16
  heard : List UInt8
  /-- It has returned `Pong`. -/
  answered : Bool
  deriving DecidableEq, Repr

/-- The variables of `main`. -/
structure RecoveryClient where
  /-- `g_stop_requested`. -/
  stopRequested : Bool
  hasConnected : Bool
  reconnectCount : UInt32
  sequence : UInt16
  parser : StreamParser
  pc : RecoveryPc
  lines : List RecoveryLine
  connections : Nat
  sent : List UInt8
  heard : List UInt8
  waits : List RecoveryWait

/-- What `wait_for_pong` learns of the operating system in a turn of its loop. -/
inductive RecoveryEvent where
  | received (bytes : List UInt8)
  /-- The time is over, or `recv` says so. -/
  | timeout
  /-- `select` has failed, because of SIGINT or not. -/
  | selectError (interrupted : Bool)
  /-- `recv` has failed, or the server has closed the connection. -/
  | recvError
  deriving DecidableEq, Repr

/-- SIGINT has come. -/
def RecoveryEvent.interrupts : RecoveryEvent → Bool
  | .selectError interrupted => interrupted
  | .received _ | .timeout | .recvError => false

/-- What can happen next. -/
inductive RecoveryAction where
  /-- SIGINT. -/
  | interrupt
  /-- `connect_gateway` is called. -/
  | connect (ok : Bool)
  /-- A PING is sent. -/
  | ping (failsBehind : Option Nat)
  | wait (event : RecoveryEvent)
  /-- The outer loop is left. -/
  | leave
  deriving DecidableEq, Repr

/-- `next_sequence`. -/
def nextSequence (sequence : UInt16) : UInt16 :=
  if sequence = 0xFFFF then 1 else sequence + 1

namespace RecoveryClient

/-- The client before its first connection. -/
def initial : RecoveryClient where
  stopRequested := false
  hasConnected := false
  reconnectCount := 0
  sequence := 1
  parser := .init
  pc := .connecting
  lines := []
  connections := 0
  sent := []
  heard := []
  waits := []

def print (s : RecoveryClient) (line : RecoveryLine) : RecoveryClient :=
  { s with lines := s.lines ++ [line] }

/-- A connection is made (`tcp_recovery_client.cpp:442-453`). -/
def connected (s : RecoveryClient) : RecoveryClient :=
  let s :=
    { s with
      parser := .init
      pc := .pinging
      connections := s.connections + 1
      sent := [] }
  if s.hasConnected then
    { s with reconnectCount := s.reconnectCount + 1 }.print (.reconnected (s.reconnectCount + 1))
  else { s with hasConnected := true }.print .connected

/-- The inner loop is left (`tcp_recovery_client.cpp:499-500`). -/
def disconnect (s : RecoveryClient) : RecoveryClient :=
  { s with parser := .init, pc := .connecting }

/-- `send_all`: the bytes on the socket, and the result. `failsBehind` says behind how many of them
    `send` fails. -/
def sendAll (data : List UInt8) : Option Nat → List UInt8 × Bool
  | none => (data, true)
  | some count => (data.take count, false)

/-- `send_ping`: the bytes on the socket, and the result. -/
def sendPing (sequence : UInt16) (failsBehind : Option Nat) : List UInt8 × Bool :=
  let ping :=
    { ProtocolPacket.zero with version := protocolVersion, msgId := msgPing, seq := sequence }
  match encodeFrame ping with
  | none => ([], false)
  | some frame => sendAll frame failsBehind

/-- A turn of the inner loop up to `wait_for_pong` (`tcp_recovery_client.cpp:458-473`). -/
def send (s : RecoveryClient) (failsBehind : Option Nat) : RecoveryClient :=
  if s.stopRequested then s.disconnect
  else
    match sendPing s.sequence failsBehind with
    | (bytes, true) => { s with sent := s.sent ++ bytes, pc := .waiting, heard := [] }
    | (bytes, false) =>
        ({ s with sent := s.sent ++ bytes }.print (.sendFailed s.sequence)).disconnect

/-- `WaitResult`. -/
inductive WaitResult where
  | pong
  | timeout
  | error
  | stopped
  deriving DecidableEq, Repr

/-- A turn of the loop of `wait_for_pong`: the parser, and the result if the function returns. Its
    loop over the bytes received is that of `tcp_client.cpp`. -/
def waitForPong (stopRequested : Bool) (parser : StreamParser) (expectedSeq : UInt16) :
    RecoveryEvent → StreamParser × Option WaitResult
  | .received bytes =>
      if stopRequested then (parser, some .stopped)
      else
        match TcpClient.findPong parser expectedSeq bytes with
        | (parser, true) => (parser, some .pong)
        | (parser, false) => (parser, none)
  | .timeout => (parser, some (if stopRequested then .stopped else .timeout))
  | .selectError interrupted =>
      (parser, some (if stopRequested || interrupted then .stopped else .error))
  | .recvError => (parser, some (if stopRequested then .stopped else .error))

/-- `wait_for_pong` returns. -/
def waited (s : RecoveryClient) (answered : Bool) : RecoveryClient :=
  { s with
    waits := s.waits ++ [⟨s.connections, s.sent, s.sequence, s.heard, answered⟩] }

/-- What the turn has read. -/
def reads (s : RecoveryClient) : RecoveryEvent → List UInt8
  | .received bytes => if s.stopRequested then [] else bytes
  | .timeout | .selectError _ | .recvError => []

/-- What `main` does with the result of `wait_for_pong` (`tcp_recovery_client.cpp:475-496`). -/
def handle (s : RecoveryClient) : WaitResult → RecoveryClient
  | .pong =>
      { (s.waited true).print (.pong s.sequence) with
        sequence := nextSequence s.sequence
        pc := .pinging }
  | .timeout => ((s.waited false).print (.pongTimeout s.sequence)).disconnect
  | .error => ((s.waited false).print (.receiveError s.sequence)).disconnect
  | .stopped => (s.waited false).disconnect

/-- What a turn of the loop of `wait_for_pong` changes. -/
def turn (s : RecoveryClient) (event : RecoveryEvent) (parser : StreamParser) : RecoveryClient :=
  { s with
    stopRequested := s.stopRequested || event.interrupts
    parser := parser
    heard := s.heard ++ s.reads event }

/-- A turn of the loop of `wait_for_pong`, and what `main` does when it returns. -/
def wait (s : RecoveryClient) (event : RecoveryEvent) : RecoveryClient :=
  match waitForPong s.stopRequested s.parser s.sequence event with
  | (parser, none) => s.turn event parser
  | (parser, some result) => (s.turn event parser).handle result

def step (s : RecoveryClient) : RecoveryAction → Option RecoveryClient
  | .interrupt => some { s with stopRequested := true }
  | .connect ok =>
      if s.pc = .connecting ∧ s.stopRequested = false then
        some (if ok then s.connected else s.print .connectFailed)
      else none
  | .ping failsBehind => if s.pc = .pinging then some (s.send failsBehind) else none
  | .wait event => if s.pc = .waiting then some (s.wait event) else none
  | .leave =>
      if s.pc = .connecting ∧ s.stopRequested = true then
        some ({ s with pc := .stopped }.print (.stopped s.reconnectCount))
      else none

end RecoveryClient

end Rs422Gateway
