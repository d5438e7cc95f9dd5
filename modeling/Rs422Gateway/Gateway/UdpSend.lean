import Rs422Gateway.Common.Protocol
import Rs422Gateway.Gateway.State
import Rs422Gateway.Misc.Ring

/-!
# Sending a UDP datagram

Rendering of `w5500_udp_send_frame` (`main.c:1905-1968`) and what it calls, SPI transaction by SPI
transaction, with the part of the W5500 it works on: the TX buffer of socket 1 and its two pointers.
A SEND command emits the bytes from Sn_TX_RD up to Sn_TX_WR as one datagram and sets Sn_TX_RD to
Sn_TX_WR; that the chip does so at once, in the step that writes Sn_CR, is the assumption on SEND.
What a transaction returns is a parameter of the step, and of a failed write also how many
of its data bytes have reached the chip. Sn_TX_WR reads as the chip holds it; what the other
registers read as is a parameter too, and whether the time of a wait has run out. The functions that
`w5500_tcp_send_frame` has for socket 0 are these with other names of the constants
(`Gateway/TcpSend.lean`), so what they share stands here once.

The last two fields of `UdpSend` are history: the frames the function was called with and the
datagrams the chip has emitted.
-/

namespace Rs422Gateway

/-- The TX buffer of a socket, which is 2 KB as long as the code does not change it. -/
abbrev w5500TxBufferSize : Nat := 2048
/-- `W5500_UDP_SPI_CHUNK_SIZE` (`main.c:169`). -/
abbrev w5500UdpSpiChunkSize : Nat := 64
/-- `W5500_UDP_STABLE_READ_ATTEMPTS` (`main.c:165`). -/
abbrev w5500UdpStableReadAttempts : Nat := 8
/-- `W5500_SOCKET1_IR_SEND_OK` (`main.c:158`). -/
def w5500Socket1IrSendOk : UInt8 := 0x10
/-- `W5500_SOCKET1_IR_TIMEOUT` (`main.c:159`). -/
def w5500Socket1IrTimeout : UInt8 := 0x08

/-- Socket 1 of the W5500, as far as sending needs it. -/
structure UdpChip where
  /-- Sn_TX_RD. -/
  txRd : UInt16
  /-- Sn_TX_WR. -/
  txWr : UInt16
  txBuffer : Vector UInt8 w5500TxBufferSize

namespace UdpChip

def initial : UdpChip := ⟨0, 0, Vector.replicate _ 0⟩

/-- The bytes of the TX buffer that a SEND command emits. -/
def pending (c : UdpChip) : List UInt8 :=
  Ring.contents c.txBuffer c.txRd.toNat (c.txWr - c.txRd).toNat

/-- The chip behind a SEND command. -/
def sent (c : UdpChip) : UdpChip := { c with txRd := c.txWr }

/-- `bytes` arrive in the TX buffer at an address, which the chip takes modulo the size. -/
def storeTx (c : UdpChip) (address : Nat) (bytes : List UInt8) : UdpChip :=
  { c with txBuffer := Ring.storeAll c.txBuffer address bytes }

/-- The first `arrived` of the two bytes of `pointer`, the high one first, reach Sn_TX_WR. -/
def writeTxWr (c : UdpChip) (pointer : UInt16) (arrived : Nat) : UdpChip :=
  match arrived with
  | 0 => c
  | 1 => { c with txWr := (pointer &&& 0xFF00) ||| (c.txWr &&& 0xFF) }
  | _ + 2 => { c with txWr := pointer }

end UdpChip

/-- Where `w5500_udp_send_frame` stands: each value is the transaction it makes next. -/
inductive UdpPc where
  /-- Between two calls. -/
  | idle
  /-- A read of Sn_TX_FSR in `w5500_socket1_read_stable_u16` (`main.c:1677-1711`), called by
      `w5500_udp_wait_for_tx_free` (`main.c:1829-1858`). -/
  | readFsr (attempt : Nat) (previous : UInt16)
  /-- The read of Sn_TX_WR (`main.c:1921-1927`). -/
  | readTxWr
  /-- The header of `w5500_socket1_write_tx_buffer` (`main.c:1731-1737`). -/
  | bufferHeader
  /-- Its chunk from `offset` on (`main.c:1738-1752`). -/
  | bufferChunk (offset : Nat)
  /-- The write of Sn_TX_WR (`main.c:1936-1949`). -/
  | writeTxWr
  /-- The clearing of the stale bits of Sn_IR (`main.c:1951-1959`). -/
  | clearIr
  /-- The write of the SEND command (`main.c:1759-1764`). -/
  | sendCommand
  /-- A read of Sn_CR behind it (`main.c:1774-1791`). -/
  | readCr
  /-- A read of Sn_IR in `w5500_udp_wait_for_send_result` (`main.c:1870-1879`, `1896-1901`). -/
  | readIr
  /-- The write of the result back to Sn_IR (`main.c:1880-1894`). -/
  | ackIr (sendResult : UInt8)
  deriving DecidableEq, Repr

/-- `w5500_udp_send_frame` and the chip. -/
structure UdpSend where
  pc : UdpPc
  frame : List UInt8
  txWritePointer : UInt16
  /-- What the last call has returned. -/
  status : HalStatus
  chip : UdpChip
  frames : List (List UInt8)
  datagrams : List (List UInt8)

/-- What can happen next. -/
inductive UdpAction where
  /-- `w5500_udp_send_frame` is called. -/
  | call (frame : List UInt8)
  /-- The next transaction. `value` is what a read returns, `arrived` the number of data bytes that
      reach the chip when a write fails. -/
  | spi (status : HalStatus) (value : UInt16) (arrived : Nat) (late : Bool)
  deriving DecidableEq, Repr

namespace UdpSend

def initial : UdpSend := ⟨.idle, [], 0, .ok, .initial, [], []⟩

def goto (s : UdpSend) (pc : UdpPc) : UdpSend := { s with pc := pc }

/-- `w5500_udp_send_frame` returns. -/
def returns (s : UdpSend) (status : HalStatus) : UdpSend := { s with pc := .idle, status := status }

/-- The length of a frame is tested first (`main.c:1909-1913`). -/
def call (s : UdpSend) (frame : List UInt8) : UdpSend :=
  if frame.length = 0 ∨ protocolMaxFrameSize < frame.length then s.returns .error
  else
    { s with
      pc := .readFsr 0 0
      frame := frame
      txWritePointer := 0
      frames := s.frames ++ [frame] }

/-- The chip takes the SEND command. -/
def send (s : UdpSend) : UdpSend :=
  { s with chip := s.chip.sent, datagrams := s.datagrams ++ [s.chip.pending] }

/-- `new_tx_write_pointer`. -/
def newTxWritePointer (s : UdpSend) : UInt16 := s.txWritePointer + UInt16.ofNat s.frame.length

/-- The bytes of the chunk from `offset` on. -/
def chunk (s : UdpSend) (offset : Nat) : List UInt8 :=
  (s.frame.drop offset).take w5500UdpSpiChunkSize

/-- The first `count` bytes of a chunk reach the TX buffer. -/
def storeChunk (s : UdpSend) (offset count : Nat) : UdpSend :=
  { s with chip := s.chip.storeTx (s.txWritePointer.toNat + offset) ((s.chunk offset).take count) }

/-! ## The functions of a socket -/

/-- A read of `w5500_*_wait_for_tx_free`, in `w5500_socket*_read_stable_u16`. -/
def waitForTxFree (attempts : Nat) (s : UdpSend) (value : UInt16) (late : Bool) : UdpSend :=
  match s.pc with
  | .readFsr attempt previous =>
      if attempt ≠ 0 ∧ value = previous then
        if s.frame.length ≤ value.toNat then s.goto .readTxWr
        else if late then s.returns .timeout
        else s.goto (.readFsr 0 0)
      else if attempt + 1 < attempts then s.goto (.readFsr (attempt + 1) value)
      else s.returns .timeout
  | _ => s

/-- The header or a chunk of `w5500_socket*_write_tx_buffer`. -/
def writeTxBuffer (chunkSize : Nat) (s : UdpSend) : UdpSend :=
  match s.pc with
  | .bufferHeader => s.goto (.bufferChunk 0)
  | .bufferChunk offset =>
      (s.storeChunk offset chunkSize).goto
        (if offset + chunkSize < s.frame.length then .bufferChunk (offset + chunkSize)
        else .writeTxWr)
  | _ => s

/-- A transaction of `w5500_*_wait_for_send_result`. -/
def waitForSendResult (irSendOk irTimeout : UInt8) (s : UdpSend) (value : UInt16) (late : Bool) :
    UdpSend :=
  match s.pc with
  | .readIr =>
      let sendResult := value.toUInt8 &&& (irSendOk ||| irTimeout)
      if sendResult ≠ 0 then s.goto (.ackIr sendResult)
      else if late then s.returns .timeout
      else s
  | .ackIr sendResult => s.returns (if sendResult &&& irTimeout ≠ 0 then .timeout else .ok)
  | _ => s

/-- A transaction of `w5500_*_send_frame`, which calls these three and sends in between. -/
def sendFrame (waitForTxFree : UdpSend → UInt16 → Bool → UdpSend)
    (writeTxBuffer : UdpSend → UdpSend)
    (waitForSendResult : UdpSend → UInt16 → Bool → UdpSend) (s : UdpSend) (value : UInt16)
    (late : Bool) : UdpSend :=
  match s.pc with
  | .idle => s
  | .readFsr _ _ => waitForTxFree s value late
  | .readTxWr => { s with pc := .bufferHeader, txWritePointer := s.chip.txWr }
  | .bufferHeader | .bufferChunk _ => writeTxBuffer s
  | .writeTxWr =>
      { s with pc := .clearIr, chip := s.chip.writeTxWr s.newTxWritePointer 2 }
  | .clearIr => s.goto .sendCommand
  | .sendCommand => s.send.goto .readCr
  | .readCr =>
      if value.toUInt8 = 0 then s.goto .readIr
      else if late then s.returns .timeout
      else s
  | .readIr | .ackIr _ => waitForSendResult s value late

/-! ## The functions of socket 1 -/

/-- `w5500_udp_wait_for_tx_free` (`main.c:1829-1858`). -/
def w5500UdpWaitForTxFree : UdpSend → UInt16 → Bool → UdpSend :=
  waitForTxFree w5500UdpStableReadAttempts

/-- `w5500_socket1_write_tx_buffer` (`main.c:1713-1755`). -/
def w5500Socket1WriteTxBuffer : UdpSend → UdpSend := writeTxBuffer w5500UdpSpiChunkSize

/-- `w5500_udp_wait_for_send_result` (`main.c:1860-1903`). -/
def w5500UdpWaitForSendResult : UdpSend → UInt16 → Bool → UdpSend :=
  waitForSendResult w5500Socket1IrSendOk w5500Socket1IrTimeout

/-- `w5500_udp_send_frame` (`main.c:1905-1968`): a transaction that succeeds. -/
def spiOk : UdpSend → UInt16 → Bool → UdpSend :=
  sendFrame w5500UdpWaitForTxFree w5500Socket1WriteTxBuffer w5500UdpWaitForSendResult

/-- What a transaction that fails does to the chip. -/
def spiFailed (s : UdpSend) (arrived : Nat) : UdpSend :=
  match s.pc with
  | .bufferChunk offset => s.storeChunk offset arrived
  | .writeTxWr => { s with chip := s.chip.writeTxWr s.newTxWritePointer arrived }
  | .sendCommand => if arrived = 0 then s else s.send
  | _ => s

/-- The steps of `w5500_*_send_frame`. -/
def stepOf (sendFrame : UdpSend → UInt16 → Bool → UdpSend) (s : UdpSend) :
    UdpAction → Option UdpSend
  | .call frame => if s.pc = .idle then some (s.call frame) else none
  | .spi status value arrived late =>
      if s.pc = .idle then none
      else if status = .ok then some (sendFrame s value late)
      else some ((s.spiFailed arrived).returns status)

def step : UdpSend → UdpAction → Option UdpSend := stepOf spiOk

end UdpSend

end Rs422Gateway
