import Rs422Gateway.Host.TcpClient

/-!
# A session of the TCP client

The requests of `tcp_client.cpp` at a server that may do anything. What the operating system answers
is a parameter of a step. `heard` and `requests` are history.
-/

namespace Rs422Gateway

/-- A request with a row in the CSV file. -/
structure TcpRequest where
  row : RttRow
  /-- What has been read between its PING and its row. -/
  heard : List UInt8
  deriving DecidableEq, Repr

/-- The client, and what it has read. -/
structure TcpSession where
  client : TcpClient
  /-- What has been read since the last PING. -/
  heard : List UInt8
  requests : List TcpRequest

/-- What can happen next. -/
inductive TcpSessionAction where
  /-- A request begins, and `send_all` sends its PING or fails. -/
  | send (sent : Bool)
  /-- A turn of the loop of `wait_for_pong`. -/
  | wait (event : WaitEvent)
  deriving DecidableEq, Repr

/-- What `recv` has stored. -/
def WaitEvent.bytes : WaitEvent → List UInt8
  | .received bytes => bytes
  | .timeout | .error => []

namespace TcpSession

def initial (count : UInt32) : TcpSession := ⟨.initial count, [], []⟩

/-- The client goes on. If it has written a row, the request is finished. -/
def advance (s : TcpSession) (client : TcpClient) (heard : List UInt8) : TcpSession where
  client := client
  heard := heard
  requests := s.requests ++ (client.csv.drop s.client.csv.length).map fun row => ⟨row, heard⟩

def step (s : TcpSession) : TcpSessionAction → Option TcpSession
  | .send sent =>
      if s.client.running ∧ s.client.waiting = false then
        some (s.advance (s.client.send sent).1 [])
      else none
  | .wait event =>
      if s.client.waiting then some (s.advance (s.client.wait event) (s.heard ++ event.bytes))
      else none

end TcpSession

end Rs422Gateway
