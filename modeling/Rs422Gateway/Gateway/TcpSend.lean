import Rs422Gateway.Gateway.TcpReceive
import Rs422Gateway.Gateway.UdpSend

/-!
# Sending on TCP

`w5500_tcp_send_frame` (`main.c:1104-1167`) and what it calls are for socket 0 what
`w5500_udp_send_frame` is for socket 1, so a `UdpSend` is the driver here too, and a datagram of it
is what one SEND command hands to TCP. The chip keeps these bytes until the client has acknowledged
them, since it may have to send them again, and Sn_TX_FSR is what they leave free. A new connection
begins with both pointers somewhere and nothing in the buffer.
-/

namespace Rs422Gateway

/-- `W5500_SOCKET0_IR_SEND_OK` (`main.c:117`). -/
def w5500Socket0IrSendOk : UInt8 := 0x10
/-- `W5500_SOCKET0_IR_TIMEOUT` (`main.c:118`). -/
def w5500Socket0IrTimeout : UInt8 := 0x08

/-! ## The functions of socket 0 -/

/-- `w5500_tcp_wait_for_tx_free` (`main.c:1028-1057`). -/
def w5500TcpWaitForTxFree : UdpSend → UInt16 → Bool → UdpSend :=
  UdpSend.waitForTxFree tcpStableReadAttempts

/-- `w5500_socket0_write_tx_buffer` (`main.c:945-987`). -/
def w5500Socket0WriteTxBuffer : UdpSend → UdpSend := UdpSend.writeTxBuffer tcpRxChunkSize

/-- `w5500_tcp_wait_for_send_result` (`main.c:1059-1102`). -/
def w5500TcpWaitForSendResult : UdpSend → UInt16 → Bool → UdpSend :=
  UdpSend.waitForSendResult w5500Socket0IrSendOk w5500Socket0IrTimeout

/-- `w5500_tcp_send_frame` (`main.c:1104-1167`): a transaction that succeeds. -/
def w5500TcpSendFrame : UdpSend → UInt16 → Bool → UdpSend :=
  UdpSend.sendFrame w5500TcpWaitForTxFree w5500Socket0WriteTxBuffer w5500TcpWaitForSendResult

/-- The constants of the two sockets have the same values. -/
theorem w5500TcpSendFrame_eq : w5500TcpSendFrame = UdpSend.spiOk := rfl

/-! ## The connection -/

/-- `w5500_tcp_send_frame`, the chip, and up to where the client has acknowledged. -/
structure TcpSend where
  driver : UdpSend
  acked : UInt16

/-- What can happen next. -/
inductive TcpAction where
  /-- A connection begins. -/
  | open (pointer : UInt16)
  /-- A call of `w5500_tcp_send_frame` or its next transaction. -/
  | driver (a : UdpAction)
  /-- The client acknowledges so many bytes more. -/
  | ack (count : Nat)
  deriving DecidableEq, Repr

namespace TcpSend

def initial : TcpSend := ⟨.initial, 0⟩

/-- The chip and the driver at the beginning of a connection. -/
def reopen (s : TcpSend) (pointer : UInt16) : TcpSend :=
  ⟨{ UdpSend.initial with chip := { s.driver.chip with txRd := pointer, txWr := pointer } },
    pointer⟩

/-- What has been handed to TCP in this connection. -/
def stream (s : TcpSend) : List UInt8 := s.driver.datagrams.flatten

/-- The number of bytes in the TX buffer. -/
def used (s : TcpSend) : Nat := (s.driver.chip.txWr - s.acked).toNat

/-- The number of those that TCP has been handed and that are not acknowledged. -/
def inFlight (s : TcpSend) : Nat := (s.driver.chip.txRd - s.acked).toNat

/-- What the chip sends again when an acknowledgement does not come: the bytes in flight. -/
def retransmission (s : TcpSend) : List UInt8 :=
  UdpChip.pending { s.driver.chip with txRd := s.acked, txWr := s.driver.chip.txRd }

def step (s : TcpSend) : TcpAction → Option TcpSend
  | .open pointer => if s.driver.pc = .idle then some (s.reopen pointer) else none
  | .driver a =>
      (s.driver.stepOf w5500TcpSendFrame a).map fun driver => { s with driver := driver }
  | .ack count =>
      if count ≤ s.inFlight then some { s with acked := s.acked + UInt16.ofNat count } else none

/-- Sn_TX_FSR never reads as more than is free, and Sn_TX_WR is written as a whole or not at
    all. -/
def Whole (s : TcpSend) : TcpAction → Prop
  | .driver (.spi status value arrived _) =>
      match s.driver.pc with
      | .readFsr _ _ => status = .ok → value.toNat + s.used ≤ w5500TxBufferSize
      | .writeTxWr => status = .ok ∨ arrived ≠ 1
      | _ => True
  | _ => True

instance (s : TcpSend) (a : TcpAction) : Decidable (s.Whole a) := by
  unfold Whole
  split
  · split <;> infer_instance
  · exact instDecidableTrue

end TcpSend

end Rs422Gateway
