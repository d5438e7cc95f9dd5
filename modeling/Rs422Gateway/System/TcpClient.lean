import Rs422Gateway.Host.TcpClient
import Rs422Gateway.System.LockStep

/-!
# The TCP client at the gateway

`tcp_client` in the place of the client of `LockStep`: it sends its next PING when `wait_for_pong`
has found the PONG of the one before, and it receives the bytes of the gateway in chunks. No
`wait_for_pong` times out and no call of the operating system fails. In `system`, `sent`, `client`
and `inbox` are history.
-/

namespace Rs422Gateway

/-- The firmwares and the TCP client. -/
structure ClientSystem where
  system : System
  client : TcpClient
  /-- The bytes on their way to the client. -/
  toClient : List UInt8

/-- What can happen next. -/
inductive ClientAction where
  /-- The client sends the PING of its next request. -/
  | send
  /-- `recv` of the client stores so many bytes. -/
  | recv (count : Nat)
  /-- Anything else. -/
  | system (a : SystemAction)
  deriving DecidableEq, Repr

namespace ClientSystem

/-- The client sends a PING. -/
def sendPing (s : ClientSystem) : ClientSystem :=
  let (client, bytes) := s.client.send true
  { s with
    client := client
    system :=
      { s.system with
        toTcp := s.system.toTcp ++ bytes
        sent := s.system.sent ++ [s.client.seq]
        inbox := [] } }

/-- The client receives bytes. -/
def receive (s : ClientSystem) (count : Nat) : ClientSystem :=
  { s with
    client := s.client.wait (.received (s.toClient.take count))
    toClient := s.toClient.drop count }

/-- What the gateway has sent is on its way to the client. -/
def advance (s : ClientSystem) (system : System) : ClientSystem :=
  { s with
    system := system
    toClient := s.toClient ++ system.client.drop s.system.client.length }

def step (s : ClientSystem) : ClientAction → Option ClientSystem
  | .send => if s.client.running = true ∧ s.client.waiting = false then some s.sendPing else none
  | .recv count =>
      if s.client.waiting = true ∧ 0 < count ∧ count ≤ TcpClient.rxBufferSize ∧ s.toClient ≠ [] then
        some (s.receive count)
      else none
  | .system (.ping _) => none
  | .system a => (s.system.step a).map s.advance

end ClientSystem

end Rs422Gateway
