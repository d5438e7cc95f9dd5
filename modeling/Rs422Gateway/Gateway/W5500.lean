import Rs422Gateway.Gateway.TcpSend

/-!
# The W5500 on its SPI bus

The W5500 is a memory of blocks: the common registers, and for each socket its registers, its TX
buffer and its RX buffer. While CS is low it takes two bytes of an address, a control byte that
selects the block and the direction, and then data at rising addresses. A call of the HAL that fails
may have clocked any number of its bytes; CS is raised behind it, which ends the transfer wherever
it stands. A bit of Sn_IR is cleared by writing it, and SEND takes the bytes of the TX buffer
between its pointers. What else the chip does to its registers by itself is a parameter of the step.

Rendering of the accesses of EthernetTask (`main.c:584-811`, `850-1026`, `1556-1755`), of its
network configuration (`main.c:680-749`, `3419-3442`), of `w5500_start_udp_socket`
(`main.c:1970-2016`), and of the transactions that `w5500_tcp_send_frame` and
`w5500_udp_send_frame` put on the bus; each of these two is a `UdpSend`. What the rest of the task
does with socket 0 is any number of calls of its access functions. The pointers that are compared
with `NULL` are addresses of variables, and `W5500_UDP_LOCAL_TELEMETRY_ENABLED` is 0.
-/

namespace Rs422Gateway

/-! ## The chip -/

/-- What the next byte of a transfer is. -/
inductive SpiPhase where
  /-- CS is high. -/
  | high
  | addressHigh
  | addressLow (hi : UInt8)
  | control (address : UInt16)
  | data (control : UInt8) (address : UInt16)
  deriving DecidableEq, Repr

/-! `W5500_SOCKET0_*_ADDRESS` and `W5500_SOCKET1_*_ADDRESS` (`main.c:98-107`, `144-153`); the code
uses no address for Sn_TX_RD. -/

namespace SocketRegister

def mr : UInt16 := 0x0000
def cr : UInt16 := 0x0001
def ir : UInt16 := 0x0002
def sr : UInt16 := 0x0003
def port : UInt16 := 0x0004
def dipr : UInt16 := 0x000C
def dport : UInt16 := 0x0010
def txFsr : UInt16 := 0x0020
def txRd : UInt16 := 0x0022
def txWr : UInt16 := 0x0024

end SocketRegister

/-- `W5500_SOCKET0_SEND_COMMAND`, `W5500_SOCKET1_SEND_COMMAND` (`main.c:115`, `157`). -/
def w5500SendCommand : UInt8 := 0x20

/-- The W5500. -/
structure W5500 where
  phase : SpiPhase
  /-- The bytes of each block; of a buffer only the first 2 KB. -/
  memory : UInt8 → UInt16 → UInt8
  /-- What the SEND commands of a socket, which is named by its register block, have taken. -/
  sent : UInt8 → List (List UInt8)

namespace W5500

/-- Where an address of a block is: a buffer repeats. -/
def place (block : UInt8) (address : UInt16) : UInt16 :=
  if 2 ≤ block % 4 then address % 2048 else address

/-- A byte is changed. -/
def set (c : W5500) (block : UInt8) (address : UInt16) (value : UInt8) : W5500 :=
  { c with
    memory := Function.update c.memory block (Function.update (c.memory block) address value) }

/-- A register of two bytes. -/
def word (c : W5500) (block : UInt8) (address : UInt16) : UInt16 :=
  readU16Be [c.memory block address, c.memory block (address + 1)]

/-- The side of a socket that sends. -/
def socket (c : W5500) (block : UInt8) : UdpChip where
  txRd := c.word block SocketRegister.txRd
  txWr := c.word block SocketRegister.txWr
  txBuffer := Vector.ofFn fun i => c.memory (block + 1) (UInt16.ofNat i)

/-- A SEND command. -/
def send (c : W5500) (block : UInt8) : W5500 :=
  { (c.set block SocketRegister.txRd (c.memory block SocketRegister.txWr)).set block
      (SocketRegister.txRd + 1) (c.memory block (SocketRegister.txWr + 1)) with
    sent := Function.update c.sent block (c.sent block ++ [(c.socket block).pending]) }

/-- A data byte arrives. -/
def write (c : W5500) (block : UInt8) (address : UInt16) (value : UInt8) : W5500 :=
  if block % 4 = 1 ∧ address = SocketRegister.cr then
    let c := c.set block address value
    if value = w5500SendCommand then c.send block else c
  else if block % 4 = 1 ∧ address = SocketRegister.ir then
    c.set block address (c.memory block address &&& ~~~value)
  else c.set block (place block address) value

/-- The control byte asks for a write. -/
def isWrite (control : UInt8) : Bool := control &&& 0x04 ≠ 0

/-- The byte that the chip shifts out next. -/
def miso (c : W5500) : UInt8 :=
  match c.phase with
  | .data control address =>
      if isWrite control then 0 else c.memory (control >>> 3) (place (control >>> 3) address)
  | _ => 0

/-- The chip takes a byte. -/
def clock (c : W5500) (mosi : UInt8) : W5500 :=
  match c.phase with
  | .high => c
  | .addressHigh => { c with phase := .addressLow mosi }
  | .addressLow hi => { c with phase := .control (readU16Be [hi, mosi]) }
  | .control address => { c with phase := .data mosi address }
  | .data control address =>
      { (if isWrite control then c.write (control >>> 3) address mosi else c) with
        phase := .data control (address + 1) }

/-- So many bytes are clocked, and the chip has shifted out these. -/
def exchange (c : W5500) : List UInt8 → W5500 × List UInt8
  | [] => (c, [])
  | mosi :: rest => (((c.clock mosi).exchange rest).1, c.miso :: ((c.clock mosi).exchange rest).2)

/-- CS is lowered. -/
def select (c : W5500) : W5500 := if c.phase = .high then { c with phase := .addressHigh } else c

/-- CS is raised. -/
def deselect (c : W5500) : W5500 := { c with phase := .high }

end W5500

/-! ## Accesses -/

/-- What a call of the HAL returns, and how many bytes it has clocked when it fails. -/
structure HalCall where
  status : HalStatus
  clocked : Nat
  deriving DecidableEq, Repr

/-- The bytes that a call of the HAL clocks. -/
def HalCall.clocks (call : HalCall) (tx : List UInt8) : List UInt8 :=
  if call.status = .ok then tx else tx.take call.clocked

/-- Address and control byte. -/
def w5500Header (address : UInt16) (vdm : UInt8) : List UInt8 := writeU16Be address ++ [vdm]

/-- `w5500_write_common_registers` (`main.c:608-639`) and its like: `vdm` and the greatest length
    are what they differ in. -/
def w5500WriteRegisters (c : W5500) (vdm : UInt8) (maximum : Nat) (address : UInt16)
    (data : List UInt8) (call : HalCall) : W5500 × HalStatus :=
  if data.length = 0 ∨ maximum < data.length then (c, .error)
  else
    ((c.select.exchange (call.clocks (w5500Header address vdm ++ data))).1.deselect, call.status)

/-- `w5500_read_common_registers` (`main.c:641-678`) and its like. -/
def w5500ReadRegisters (c : W5500) (vdm : UInt8) (maximum : Nat) (address : UInt16) (length : Nat)
    (call : HalCall) : W5500 × HalStatus × List UInt8 :=
  if length = 0 ∨ maximum < length then (c, .error, [])
  else
    let (c, rx) :=
      c.select.exchange (call.clocks (w5500Header address vdm ++ List.replicate length 0))
    (c.deselect, call.status, rx.drop 3)

/-- `w5500_socket0_read_rx_buffer` (`main.c:989-1026`). What is clocked out behind the header is
    what is left in `g_w5500_tcp_rx_dummy`. -/
def w5500Socket0ReadRxBuffer (c : W5500) (address : UInt16) (dummy : List UInt8)
    (header data : HalCall) : W5500 :=
  let c := (c.select.exchange (header.clocks (w5500Header address 0x18))).1
  (if header.status = .ok then (c.exchange (data.clocks dummy)).1 else c).deselect

/-- The sockets that EthernetTask uses. -/
inductive W5500Socket where
  | zero
  | one
  deriving DecidableEq, Repr

namespace W5500Socket

/-- The register block. -/
def block : W5500Socket → UInt8
  | zero => 1
  | one => 5

/-- `W5500_SOCKET0_READ_VDM`, `W5500_SOCKET1_READ_VDM`. -/
def readVdm : W5500Socket → UInt8
  | zero => 0x08
  | one => 0x28

/-- `W5500_SOCKET0_WRITE_VDM`, `W5500_SOCKET1_WRITE_VDM`. -/
def writeVdm : W5500Socket → UInt8
  | zero => 0x0C
  | one => 0x2C

/-- `W5500_SOCKET0_TX_BUFFER_WRITE_VDM`, `W5500_SOCKET1_TX_BUFFER_WRITE_VDM`. -/
def txBufferWriteVdm : W5500Socket → UInt8
  | zero => 0x14
  | one => 0x34

/-- `W5500_SOCKET0_MAX_DATA_LENGTH`, `W5500_SOCKET1_MAX_DATA_LENGTH`. -/
def maxDataLength : W5500Socket → Nat
  | zero => 2
  | one => 4

/-- `w5500_tcp_send_frame`, `w5500_udp_send_frame`. -/
def sendFrame : W5500Socket → UdpSend → UInt16 → Bool → UdpSend
  | zero => w5500TcpSendFrame
  | one => UdpSend.spiOk

def other : W5500Socket → W5500Socket
  | zero => one
  | one => zero

end W5500Socket

/-- `w5500_write_common_registers`. -/
def w5500WriteCommonRegisters (c : W5500) : UInt16 → List UInt8 → HalCall → W5500 × HalStatus :=
  w5500WriteRegisters c 0x04 6

/-- `w5500_read_common_registers`, and for one byte `w5500_read_common_register`. -/
def w5500ReadCommonRegisters (c : W5500) :
    UInt16 → Nat → HalCall → W5500 × HalStatus × List UInt8 :=
  w5500ReadRegisters c 0x00 6

/-- `w5500_socket0_write_registers` (`main.c:751-781`), `w5500_socket1_write_registers`
    (`main.c:1556-1586`). -/
def w5500SocketWriteRegisters (c : W5500) (n : W5500Socket) :
    UInt16 → List UInt8 → HalCall → W5500 × HalStatus :=
  w5500WriteRegisters c n.writeVdm n.maxDataLength

/-- `w5500_socket0_read_registers` (`main.c:850-886`), `w5500_socket1_read_registers`
    (`main.c:1618-1654`), and for one byte `w5500_socket0_read_register`,
    `w5500_socket1_read_register`. -/
def w5500SocketReadRegisters (c : W5500) (n : W5500Socket) :
    UInt16 → Nat → HalCall → W5500 × HalStatus × List UInt8 :=
  w5500ReadRegisters c n.readVdm n.maxDataLength

/-! ## Sending -/

/-- What `UdpSend` has besides the chip. -/
structure SendControl where
  pc : UdpPc
  frame : List UInt8
  txWritePointer : UInt16
  status : HalStatus
  frames : List (List UInt8)

namespace UdpSend

def control (s : UdpSend) : SendControl := ⟨s.pc, s.frame, s.txWritePointer, s.status, s.frames⟩

/-- The header of `w5500_socket1_write_tx_buffer` is out, and CS is low. -/
def selected (s : UdpSend) : Bool :=
  match s.pc with
  | .bufferChunk _ => true
  | _ => false

/-- The bytes of the next transaction. -/
def transaction (s : UdpSend) (n : W5500Socket) : List UInt8 :=
  match s.pc with
  | .idle => []
  | .readFsr _ _ => w5500Header SocketRegister.txFsr n.readVdm ++ [0, 0]
  | .readTxWr => w5500Header SocketRegister.txWr n.readVdm ++ [0, 0]
  | .bufferHeader => w5500Header s.txWritePointer n.txBufferWriteVdm
  | .bufferChunk offset => s.chunk offset
  | .writeTxWr => w5500Header SocketRegister.txWr n.writeVdm ++ writeU16Be s.newTxWritePointer
  | .clearIr =>
      w5500Header SocketRegister.ir n.writeVdm ++ [w5500Socket1IrSendOk ||| w5500Socket1IrTimeout]
  | .sendCommand => w5500Header SocketRegister.cr n.writeVdm ++ [w5500SendCommand]
  | .readCr => w5500Header SocketRegister.cr n.readVdm ++ [0]
  | .readIr => w5500Header SocketRegister.ir n.readVdm ++ [0]
  | .ackIr sendResult => w5500Header SocketRegister.ir n.writeVdm ++ [sendResult]

/-- How many data bytes have arrived when so many bytes have been clocked. -/
def arrived (s : UdpSend) (clocked : Nat) : Nat := if s.selected then clocked else clocked - 3

end UdpSend

/-! ## EthernetTask on the bus -/

/-- A step of a function that goes through registers and returns at the first failure. -/
inductive RegisterStep where
  | write (address : UInt16) (data : List UInt8)
  | read (address : UInt16) (length : Nat)
  /-- A wait until a register has a value. -/
  | await (address : UInt16) (expected : UInt8)
  deriving DecidableEq, Repr

/-- GAR, SUBR, SHAR and SIPR with `g_w5500_net_gateway`, `g_w5500_net_subnet`, `g_w5500_net_mac` and
    `g_w5500_net_ip` (`main.c:82-89`, `286-297`). -/
def w5500NetworkConfig : List (UInt16 × List UInt8) :=
  [(0x0001, [0, 0, 0, 0]), (0x0005, [255, 255, 255, 0]), (0x0009, [0x02, 0, 0, 0, 0, 0x02]),
    (0x000F, [192, 168, 77, 2])]

/-- `w5500_write_network_config` (`main.c:680-702`). -/
def w5500WriteNetworkConfig : List RegisterStep :=
  w5500NetworkConfig.map fun r => .write r.1 r.2

/-- `w5500_read_network_config` (`main.c:704-726`). -/
def w5500ReadNetworkConfig : List RegisterStep :=
  w5500NetworkConfig.map fun r => .read r.1 r.2.length

/-- Where the datagrams go to: mode, local port, `g_w5500_udp_destination_ip` and destination
    port. -/
def w5500UdpConfig : List (UInt16 × List UInt8) :=
  [(SocketRegister.mr, [0x02]), (SocketRegister.port, writeU16Be 5001),
    (SocketRegister.dipr, [192, 168, 77, 1]), (SocketRegister.dport, writeU16Be 5002)]

/-- The addresses of a list of registers. -/
def registerAddresses (registers : List (UInt16 × List UInt8)) : List UInt16 :=
  registers.flatMap fun r => (List.range r.2.length).map fun i => r.1 + UInt16.ofNat i

def w5500NetworkAddresses : List UInt16 := registerAddresses w5500NetworkConfig

def w5500UdpAddresses : List UInt16 := registerAddresses w5500UdpConfig

/-- `w5500_start_udp_socket` (`main.c:1970-2016`). -/
def w5500StartUdpSocket : List RegisterStep :=
  [.write SocketRegister.mr [0x02], .write SocketRegister.port (writeU16Be 5001),
    .write SocketRegister.cr [0x01], .await SocketRegister.cr 0, .await SocketRegister.sr 0x22,
    .write SocketRegister.dipr [192, 168, 77, 1], .write SocketRegister.dport (writeU16Be 5002)]

/-- Where EthernetTask stands. -/
inductive BusPc where
  /-- `w5500_read_version` (`main.c:3420-3424`). -/
  | version
  /-- In `w5500_write_network_config`. -/
  | writeConfig (left : List RegisterStep)
  /-- In `w5500_read_network_config`. -/
  | readConfig (left : List RegisterStep)
  /-- In `w5500_start_tcp_server` (`main.c:3443-3451`). -/
  | startTcp
  /-- In `w5500_start_udp_socket` (`main.c:3453-3463`). -/
  | startUdp (left : List RegisterStep)
  /-- In its loop. -/
  | loop
  deriving DecidableEq, Repr

/-- EthernetTask and the chip. -/
structure W5500Bus where
  chip : W5500
  pc : BusPc
  /-- `g_w5500_gar_readback`, `g_w5500_subr_readback`, `g_w5500_shar_readback` and
      `g_w5500_sipr_readback`, as far as they have been read. -/
  readback : List (UInt16 × List UInt8)
  /-- `g_w5500_net_readback_ok`, which is set behind `g_w5500_net_config_ok` only. -/
  netReadbackOk : Bool
  /-- `g_w5500_udp_open_ok`. -/
  udpOpenOk : Bool
  /-- `w5500_tcp_send_frame` and `w5500_udp_send_frame`. -/
  control : W5500Socket → SendControl

/-- What can happen next. -/
inductive BusAction where
  /-- The chip changes a byte by itself. -/
  | own (block : UInt8) (address : UInt16) (value : UInt8)
  /-- The next transaction up to the loop. `late` tells that the time of a wait has run out. -/
  | boot (call : HalCall) (late : Bool)
  /-- A register of the PHY is read. -/
  | readCommon (address : UInt16) (length : Nat) (call : HalCall)
  /-- Registers of a socket are read. -/
  | readSocket (n : W5500Socket) (address : UInt16) (length : Nat) (call : HalCall)
  /-- `w5500_socket0_read_rx_buffer`. -/
  | readRxBuffer (address : UInt16) (dummy : List UInt8) (header data : HalCall)
  /-- Registers of socket 0 are written, other than by `w5500_tcp_send_frame`. -/
  | writeSocket0 (address : UInt16) (data : List UInt8) (call : HalCall)
  /-- `w5500_tcp_send_frame` or `w5500_udp_send_frame` is called. -/
  | call (n : W5500Socket) (frame : List UInt8)
  /-- Its next transaction. -/
  | spi (n : W5500Socket) (call : HalCall) (late : Bool)
  deriving DecidableEq, Repr

/-- How a `RegisterStep` ends. -/
inductive StepEnd where
  | next (rx : List UInt8)
  | again
  | failed
  deriving DecidableEq, Repr

/-- A `RegisterStep` with the two functions that write and read the registers. -/
def RegisterStep.run (write : W5500 → UInt16 → List UInt8 → HalCall → W5500 × HalStatus)
    (read : W5500 → UInt16 → Nat → HalCall → W5500 × HalStatus × List UInt8) (c : W5500)
    (call : HalCall) (late : Bool) : RegisterStep → W5500 × StepEnd
  | .write address data =>
      let (c, status) := write c address data call
      (c, if status = .ok then .next [] else .failed)
  | .read address length =>
      let (c, status, rx) := read c address length call
      (c, if status = .ok then .next rx else .failed)
  | .await address expected =>
      let (c, status, rx) := read c address 1 call
      (c,
        if status ≠ .ok then .failed
        else if rx = [expected] then .next rx
        else if late then .failed
        else .again)

/-- A `RegisterStep` on the common registers. -/
def RegisterStep.runCommon : W5500 → HalCall → Bool → RegisterStep → W5500 × StepEnd :=
  run w5500WriteCommonRegisters w5500ReadCommonRegisters

/-- A `RegisterStep` on the registers of socket 1. -/
def RegisterStep.runSocket1 : W5500 → HalCall → Bool → RegisterStep → W5500 × StepEnd :=
  run (w5500SocketWriteRegisters · .one) (w5500SocketReadRegisters · .one)

/-- What `w5500_read_network_config` has read last goes to its readback array. -/
def RegisterStep.saved (rx : List UInt8) : RegisterStep → List (UInt16 × List UInt8)
  | .read address _ => [(address, rx)]
  | _ => []

namespace W5500Bus

/-- Behind `w5500_hardware_reset`. -/
def initial (memory : UInt8 → UInt16 → UInt8) : W5500Bus where
  chip := ⟨.high, memory, fun _ => []⟩
  pc := .version
  readback := []
  netReadbackOk := false
  udpOpenOk := false
  control := fun _ => UdpSend.initial.control

/-- `w5500_tcp_send_frame` or `w5500_udp_send_frame` with its socket. -/
def send (s : W5500Bus) (n : W5500Socket) : UdpSend where
  pc := (s.control n).pc
  frame := (s.control n).frame
  txWritePointer := (s.control n).txWritePointer
  status := (s.control n).status
  chip := s.chip.socket n.block
  frames := (s.control n).frames
  datagrams := s.chip.sent n.block

/-- The next transaction up to the loop. -/
def boot (s : W5500Bus) (call : HalCall) (late : Bool) : W5500Bus :=
  match s.pc with
  | .version =>
      let (chip, status, rx) := w5500ReadCommonRegisters s.chip 0x0039 1 call
      { s with
        chip := chip
        pc := if status = .ok ∧ rx = [0x04] then .writeConfig w5500WriteNetworkConfig else .loop }
  | .writeConfig [] => { s with pc := .readConfig w5500ReadNetworkConfig }
  | .writeConfig (step :: left) =>
      let (chip, stepEnd) := step.runCommon s.chip call late
      { s with
        chip := chip
        pc :=
          match stepEnd with
          | .next _ => .writeConfig left
          | .again => .writeConfig (step :: left)
          | .failed => .loop }
  | .readConfig [] =>
      -- `w5500_network_readback_matches`
      if s.readback = w5500NetworkConfig then { s with pc := .startTcp, netReadbackOk := true }
      else { s with pc := .loop }
  | .readConfig (step :: left) =>
      let (chip, stepEnd) := step.runCommon s.chip call late
      match stepEnd with
      | .next rx =>
          { s with chip := chip, pc := .readConfig left, readback := s.readback ++ step.saved rx }
      | .again => { s with chip := chip }
      | .failed => { s with chip := chip, pc := .loop }
  | .startTcp => { s with pc := .startUdp w5500StartUdpSocket }
  | .startUdp [] => { s with pc := .loop, udpOpenOk := true }
  | .startUdp (step :: left) =>
      let (chip, stepEnd) := step.runSocket1 s.chip call late
      { s with
        chip := chip
        pc :=
          match stepEnd with
          | .next _ => .startUdp left
          | .again => .startUdp (step :: left)
          | .failed => .loop }
  | .loop => s

/-- EthernetTask is in none of the two functions. -/
def Idle (s : W5500Bus) : Prop := ∀ n, (s.control n).pc = .idle

instance (s : W5500Bus) : Decidable s.Idle :=
  decidable_of_iff ((s.control .zero).pc = .idle ∧ (s.control .one).pc = .idle)
    ⟨fun h n => by cases n; exacts [h.1, h.2], fun h => ⟨h .zero, h .one⟩⟩

/-- It may use socket 0. -/
def UsesSockets (s : W5500Bus) : Prop :=
  s.Idle ∧ (s.pc = .startTcp ∨ s.pc = .loop ∧ s.netReadbackOk = true)

instance (s : W5500Bus) : Decidable s.UsesSockets := inferInstanceAs (Decidable (_ ∧ _))

/-- It may send on a socket. -/
def MaySend (s : W5500Bus) : W5500Socket → Prop
  | .zero => s.pc = .loop ∧ s.netReadbackOk = true
  | .one => s.pc = .loop ∧ s.udpOpenOk = true

instance (s : W5500Bus) (n : W5500Socket) : Decidable (s.MaySend n) := by
  cases n <;> exact inferInstanceAs (Decidable (_ ∧ _))

/-- The chip with CS low for the next transaction of a sender. -/
def selected (s : W5500Bus) (n : W5500Socket) : W5500 :=
  if (s.send n).selected then s.chip else s.chip.select

/-- The chip behind the bytes of this transaction, and what it has shifted out. -/
def exchanged (s : W5500Bus) (n : W5500Socket) (call : HalCall) : W5500 × List UInt8 :=
  (s.selected n).exchange (call.clocks ((s.send n).transaction n))

/-- What a read returns. -/
def value (s : W5500Bus) (n : W5500Socket) (call : HalCall) : UInt16 :=
  match (s.exchanged n call).2.drop 3 with
  | [low] => low.toUInt16
  | data => readU16Be data

/-- The transaction, as `UdpSend` has it. -/
def action (s : W5500Bus) (n : W5500Socket) (call : HalCall) (late : Bool) : UdpAction :=
  .spi call.status (s.value n call) ((s.send n).arrived call.clocked) late

/-- How the sender goes on. It takes the TX write pointer from the bus. -/
def next (s : W5500Bus) (n : W5500Socket) (call : HalCall) (late : Bool) : SendControl :=
  if call.status = .ok then
    let next := (n.sendFrame (s.send n) (s.value n call) late).control
    if (s.send n).pc = .readTxWr then { next with txWritePointer := s.value n call } else next
  else ((s.send n).returns call.status).control

/-- A transaction of a sender. CS stays low between the header of a TX buffer and its chunks. -/
def spi (s : W5500Bus) (n : W5500Socket) (call : HalCall) (late : Bool) : W5500Bus :=
  let next := s.next n call late
  let chip := (s.exchanged n call).1
  { s with
    chip :=
      match next.pc with
      | .bufferChunk _ => chip
      | _ => chip.deselect
    control := Function.update s.control n next }

def step (s : W5500Bus) : BusAction → Option W5500Bus
  | .own block address value => some { s with chip := s.chip.set block address value }
  | .boot call late => if s.pc ≠ .loop then some (s.boot call late) else none
  | .readCommon address length call =>
      if s.Idle ∧ s.pc = .loop then
        some { s with chip := (w5500ReadCommonRegisters s.chip address length call).1 }
      else none
  | .readSocket n address length call =>
      if s.UsesSockets then
        some { s with chip := (w5500SocketReadRegisters s.chip n address length call).1 }
      else none
  | .readRxBuffer address dummy header data =>
      if s.UsesSockets then
        some { s with chip := w5500Socket0ReadRxBuffer s.chip address dummy header data }
      else none
  | .writeSocket0 address bytes call =>
      if s.UsesSockets then
        some { s with chip := (w5500SocketWriteRegisters s.chip .zero address bytes call).1 }
      else none
  | .call n frame =>
      if s.Idle ∧ s.MaySend n then
        some { s with control := Function.update s.control n ((s.send n).call frame).control }
      else none
  | .spi n call late =>
      if (s.control n).pc = .idle then none else some (s.spi n call late)

/-- The chip does not change by itself what it has been configured to. -/
def KeepsConfig (_ : W5500Bus) : BusAction → Prop
  | .own block address _ =>
      (block = 0 → address ∉ w5500NetworkAddresses) ∧
        (block = W5500Socket.block .one → address ∉ w5500UdpAddresses)
  | _ => True

instance (s : W5500Bus) (a : BusAction) : Decidable (s.KeepsConfig a) := by
  unfold KeepsConfig
  split <;> infer_instance

/-- Within a connection: the TX side of a socket is left to its sender, and besides sending
    EthernetTask writes Sn_RX_RD and the commands RECV and DISCON. What a sender does meets
    `guard`. -/
def Sending (guard : UdpSend → UdpAction → Prop) (s : W5500Bus) : BusAction → Prop
  | .own block address _ =>
      ∀ n : W5500Socket, block ≠ n.block + 1 ∧
        (block = n.block → address < SocketRegister.txRd ∨ SocketRegister.txWr + 1 < address)
  | .writeSocket0 address bytes _ =>
      address = 0x0028 ∧ bytes.length = 2 ∨
        address = SocketRegister.cr ∧ (bytes = [0x40] ∨ bytes = [0x08])
  | .call n frame => guard (s.send n) (.call frame)
  | .spi n call late => guard (s.send n) (s.action n call late)
  | _ => True

instance {guard : UdpSend → UdpAction → Prop} [∀ u b, Decidable (guard u b)] (s : W5500Bus)
    (a : BusAction) : Decidable (s.Sending guard a) := by
  unfold Sending
  split
  · exact decidable_of_iff (_ ∧ _)
      ⟨fun h n => by cases n; exacts [h.1, h.2], fun h => ⟨h .zero, h .one⟩⟩
  all_goals infer_instance

/-- In its loop EthernetTask is in none of the two functions, and CS is high. -/
def Quiet (s : W5500Bus) : Prop := s.pc = .loop ∧ s.Idle ∧ s.chip.phase = .high

end W5500Bus

end Rs422Gateway
