import Rs422Gateway.Common.StreamParser

/-!
# The TCP client

Rendering of `wait_for_pong` and of the requests of `host/tcp_client.cpp`. What the operating system
answers is a parameter of a step. The options, the set-up of the socket, the measured times and the
statistics of them, and what is printed while the client runs are left out.
-/

namespace Rs422Gateway

/-- The status of a row of the CSV file. -/
inductive RttStatus where
  | ok
  | timeout
  | encodeError
  | sendError
  | rxError
  deriving DecidableEq, Repr

/-- A row of the CSV file, without the time. -/
structure RttRow where
  seq : UInt16
  status : RttStatus
  deriving DecidableEq, Repr

/-- The variables of `main` (`tcp_client.cpp:337-346`), and whether it is in `wait_for_pong`. -/
structure TcpClient where
  count : UInt32
  parser : StreamParser
  request : UInt32
  txCount : UInt32
  rxCount : UInt32
  timeoutCount : UInt32
  fatalError : Bool
  waiting : Bool
  csv : List RttRow

/-- What `wait_for_pong` learns of the operating system in a turn of its loop. -/
inductive WaitEvent where
  /-- `recv` has stored these bytes. -/
  | received (bytes : List UInt8)
  /-- The time is over, or `recv` says so. -/
  | timeout
  /-- `select` or `recv` has failed, or the server has closed the connection. -/
  | error
  deriving DecidableEq, Repr

namespace TcpClient

/-- The size of `rx_buffer` (`tcp_client.cpp:222`). -/
abbrev rxBufferSize : Nat := 512

/-- The client before its first request. -/
def initial (count : UInt32) : TcpClient := ⟨count, .init, 0, 0, 0, 0, false, false, []⟩

/-- `seq` of the request (`tcp_client.cpp:348`). -/
def seq (s : TcpClient) : UInt16 := (s.request + 1).toUInt16

/-- The PING of the request (`tcp_client.cpp:349-352`). -/
def ping (s : TcpClient) : ProtocolPacket :=
  { ProtocolPacket.zero with version := protocolVersion, msgId := msgPing, seq := s.seq }

/-- The loop over the requests goes on. -/
def running (s : TcpClient) : Bool := decide (s.request < s.count) && !s.fatalError

/-- A row is written. -/
def note (s : TcpClient) (status : RttStatus) : TcpClient :=
  { s with csv := s.csv ++ [⟨s.seq, status⟩] }

/-- A row is written and the loop is left. -/
def fail (s : TcpClient) (status : RttStatus) : TcpClient :=
  { s.note status with fatalError := true, waiting := false }

/-- The beginning of a request (`tcp_client.cpp:348-370`), and the bytes sent. -/
def send (s : TcpClient) (sent : Bool) : TcpClient × List UInt8 :=
  match encodeFrame s.ping with
  | none => (s.fail .encodeError, [])
  | some frame =>
      if sent then ({ s with txCount := s.txCount + 1, waiting := true }, frame)
      else (s.fail .sendError, [])

/-- The loop over the bytes received (`tcp_client.cpp:263-275`): the parser, and whether the PONG
    has come. The bytes behind it are dropped. -/
def findPong (parser : StreamParser) (expectedSeq : UInt16) : List UInt8 → StreamParser × Bool
  | [] => (parser, false)
  | byte :: rest =>
      let (parser, event, packet) := parser.feedByte byte .zero
      if event = .frame ∧ packet.msgId = msgPong ∧ packet.seq = expectedSeq ∧ packet.length = 0 then
        (parser, true)
      else findPong parser expectedSeq rest

/-- A turn of the loop of `wait_for_pong`, and what `main` does with its result
    (`tcp_client.cpp:372-394`). -/
def wait (s : TcpClient) : WaitEvent → TcpClient
  | .received bytes =>
      match findPong s.parser s.seq bytes with
      | (parser, true) =>
          { { s with parser := parser, rxCount := s.rxCount + 1 }.note .ok with
            request := s.request + 1
            waiting := false }
      | (parser, false) => { s with parser := parser }
  | .timeout =>
      { { s with parser := s.parser.resetFrame, timeoutCount := s.timeoutCount + 1 }.note
          .timeout with
        request := s.request + 1
        waiting := false }
  | .error => s.fail .rxError

/-- The exit code is `EXIT_SUCCESS` (`tcp_client.cpp:431`). -/
def success (s : TcpClient) : Bool := !s.fatalError && decide (s.rxCount = s.txCount)

end TcpClient

end Rs422Gateway
