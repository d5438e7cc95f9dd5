import Rs422Gateway.Gateway.State

/-!
# The receive path of TCP

Rendering of `w5500_tcp_process_rx` (`main.c:1274-1351`) with `w5500_socket0_read_stable_u16`
(`main.c:909-943`), `w5500_socket0_read_rx_buffer` (`main.c:988-1026`) and
`w5500_socket0_execute_command` (`main.c:813-848`), one SPI transaction a step, against the receive
side of socket 0 of the W5500. What a transaction returns is a parameter of the step. A transaction
that does not return `HAL_OK` may still have been seen by the chip: a write takes any number of its
bytes. The frames that are parsed are handled in `Gateway/EthernetTask.lean`; the other commands of
the socket do not touch its receive side and are left out, as are the diagnostic times and the
counter of the bytes.
-/

namespace Rs422Gateway

/-- `W5500_TCP_STABLE_READ_ATTEMPTS` (`main.c:135`). -/
abbrev tcpStableReadAttempts : Nat := 8
/-- `W5500_TCP_RX_CHUNK_SIZE` (`main.c:136`). -/
abbrev tcpRxChunkSize : Nat := 64
/-- `W5500_SOCKET0_RECV_COMMAND` (`main.c:116`). -/
def recvCommand : UInt8 := 0x40

/-! ## The chip -/

/-- The receive side of socket 0 in a session. -/
structure Socket0 where
  /-- The bytes received so far. -/
  received : List UInt8
  /-- How many of them `Sn_RX_RD` had passed when RECV committed it last. -/
  committed : Nat
  /-- `Sn_RX_RD` at the beginning of the session. -/
  base : UInt16
  /-- `Sn_RX_RD`. -/
  rxRd : UInt16
  /-- `Sn_CR`. -/
  cr : UInt8

namespace Socket0

/-- `Sn_RX_RD` as RECV committed it last. -/
def committedPointer (c : Socket0) : UInt16 := c.base + UInt16.ofNat c.committed

/-- `Sn_RX_RSR`: the number of received bytes behind the committed pointer. -/
def rxRsr (c : Socket0) : UInt16 := UInt16.ofNat (c.received.length - c.committed)

/-- The place in the stream that an address of the RX buffer stands for. -/
def position (c : Socket0) (address : UInt16) : Nat :=
  c.committed + (address - c.committedPointer).toNat

/-- The bytes of the RX buffer from an address. Where nothing is received yet it holds an old
    byte. -/
def readRxBuffer (c : Socket0) (address : UInt16) (length : Nat) (old : UInt8) : List UInt8 :=
  (c.received.drop (c.position address) ++ List.replicate length old).take length

/-- The first `taken` bytes of a big-endian write to `Sn_RX_RD`. -/
def writeRxRd (c : Socket0) (value : UInt16) (taken : Nat) : Socket0 :=
  { c with
    rxRd :=
      match taken with
      | 0 => c.rxRd
      | 1 => (value &&& 0xFF00) ||| (c.rxRd &&& 0x00FF)
      | _ => value }

/-- The first `taken` bytes of a write to `Sn_CR`. -/
def writeCr (c : Socket0) (command : UInt8) (taken : Nat) : Socket0 :=
  { c with cr := if taken = 0 then c.cr else command }

/-- The chip executes RECV: it commits `Sn_RX_RD` and clears `Sn_CR`. -/
def execute (c : Socket0) : Socket0 := { c with committed := c.position c.rxRd, cr := 0 }

end Socket0

/-! ## `w5500_tcp_process_rx` -/

/-- Where `w5500_tcp_process_rx` stands. -/
inductive TcpReceivePc where
  /-- Between two calls. -/
  | idle
  /-- The loop of `w5500_socket0_read_stable_u16` on `Sn_RX_RSR`. -/
  | readSize (attempt : Nat) (previousValue : UInt16)
  /-- The read of `Sn_RX_RD` (`main.c:1297-1303`). -/
  | readPointer (readLength : Nat)
  /-- The header of `w5500_socket0_read_rx_buffer`. -/
  | readHeader (readLength : Nat) (rxReadPointer : UInt16)
  /-- Its data. -/
  | readData (readLength : Nat) (rxReadPointer : UInt16)
  /-- The write of `Sn_RX_RD` (`main.c:1312-1325`). -/
  | writePointer (chunk : List UInt8) (rxReadPointer : UInt16)
  /-- The write of RECV to `Sn_CR` (`main.c:815-820`). -/
  | writeCommand (chunk : List UInt8)
  /-- The loop that polls `Sn_CR` (`main.c:828-847`). -/
  | poll (chunk : List UInt8)
  /-- The loop that feeds the bytes of `g_w5500_tcp_rx_chunk` (`main.c:1334-1348`). -/
  | feed (bytes : List UInt8)
  deriving DecidableEq

/-- The chip and the receive path. -/
structure TcpReceive where
  chip : Socket0
  pc : TcpReceivePc
  /-- `g_w5500_tcp_last_rx_status`. -/
  lastRxStatus : HalStatus
  /-- `g_tcp_parser` with `g_tcp_received_packet`. -/
  receiver : StreamParser.Receiver
  /-- All bytes fed to `g_tcp_parser`. -/
  fed : List UInt8

/-- What can happen next. -/
inductive TcpReceiveAction where
  /-- Bytes of the client arrive. -/
  | arrive (bytes : List UInt8)
  /-- The chip executes the command in `Sn_CR`. -/
  | execute
  /-- `w5500_tcp_process_rx` is called. -/
  | call
  /-- The next SPI transaction. `taken` is how many bytes of a failed write the chip has taken,
      `old` what the RX buffer holds behind the received bytes, `late` whether the time for a
      command has run out. -/
  | spi (status : HalStatus) (taken : Nat) (old : UInt8) (late : Bool)
  /-- The next byte is fed, or the call ends. -/
  | feed

namespace TcpReceive

/-- A session begins. -/
def initial (base : UInt16) (packet : ProtocolPacket) : TcpReceive where
  chip := ⟨[], 0, base, base, 0⟩
  pc := .idle
  lastRxStatus := .ok
  receiver := ⟨.init, packet⟩
  fed := []

/-- `w5500_tcp_process_rx` goes on at `pc`. -/
def goto (s : TcpReceive) (pc : TcpReceivePc) : TcpReceive := { s with pc := pc }

/-- `w5500_tcp_process_rx` returns. -/
def returns (s : TcpReceive) (status : HalStatus) : TcpReceive :=
  { s with pc := .idle, lastRxStatus := status }

/-- `new_rx_read_pointer`. -/
def newRxReadPointer (chunk : List UInt8) (rxReadPointer : UInt16) : UInt16 :=
  rxReadPointer + UInt16.ofNat chunk.length

/-- A successful read of `Sn_RX_RSR` in `w5500_socket0_read_stable_u16`, and what follows once it is
    stable (`main.c:1279-1296`). -/
def readSize (s : TcpReceive) (attempt : Nat) (previousValue : UInt16) : TcpReceive :=
  let currentValue := s.chip.rxRsr
  if attempt ≠ 0 ∧ currentValue = previousValue then
    if currentValue = 0 then s.returns .ok
    else
      s.goto
        (.readPointer
          (if tcpRxChunkSize < currentValue.toNat then tcpRxChunkSize else currentValue.toNat))
  else if attempt + 1 < tcpStableReadAttempts then s.goto (.readSize (attempt + 1) currentValue)
  else s.returns .timeout

/-- The next SPI transaction. -/
def spiStep (s : TcpReceive) (status : HalStatus) (taken : Nat) (old : UInt8) (late : Bool) :
    Option TcpReceive :=
  match s.pc with
  | .idle => none
  | .readSize attempt previousValue =>
      some (if status = .ok then s.readSize attempt previousValue else s.returns status)
  | .readPointer readLength =>
      some
        (if status = .ok then s.goto (.readHeader readLength s.chip.rxRd) else s.returns status)
  | .readHeader readLength rxReadPointer =>
      some
        (if status = .ok then s.goto (.readData readLength rxReadPointer) else s.returns status)
  | .readData readLength rxReadPointer =>
      some
        (if status = .ok then
          s.goto
            (.writePointer (s.chip.readRxBuffer rxReadPointer readLength old) rxReadPointer)
        else s.returns status)
  | .writePointer chunk rxReadPointer =>
      let value := newRxReadPointer chunk rxReadPointer
      some
        (if status = .ok then { s with chip := s.chip.writeRxRd value 2 }.goto (.writeCommand chunk)
        else { s with chip := s.chip.writeRxRd value taken }.returns status)
  | .writeCommand chunk =>
      some
        (if status = .ok then { s with chip := s.chip.writeCr recvCommand 1 }.goto (.poll chunk)
        else { s with chip := s.chip.writeCr recvCommand taken }.returns status)
  | .poll chunk =>
      some
        (if status = .ok then
          if s.chip.cr = 0 then s.goto (.feed chunk)
          else if late then s.returns .timeout
          else s
        else s.returns status)
  | .feed _ => none

/-- One step. The client does not send more than its window. -/
def step (s : TcpReceive) : TcpReceiveAction → Option TcpReceive
  | .arrive bytes =>
      if s.chip.received.length + bytes.length - s.chip.committed < 2 ^ 16 then
        some { s with chip := { s.chip with received := s.chip.received ++ bytes } }
      else none
  | .execute => if s.chip.cr = recvCommand then some { s with chip := s.chip.execute } else none
  | .call => if s.pc = .idle then some (s.goto (.readSize 0 0)) else none
  | .spi status taken old late => s.spiStep status taken old late
  | .feed =>
      match s.pc with
      | .feed [] => some (s.returns .ok)
      | .feed (byte :: rest) =>
          some
            { s with pc := .feed rest, receiver := s.receiver.feed byte, fed := s.fed ++ [byte] }
      | _ => none

end TcpReceive

end Rs422Gateway
