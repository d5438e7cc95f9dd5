import Rs422Gateway.Common.Frame

/-!
# The UDP client

Rendering of the receive loop and of the report of `host/udp_client.cpp`. The operating system is
the list of what `recvfrom` returns, which ends with a timeout, and the answer of the second
`set_receive_timeout`. The options but `--expected`, the set-up of the socket and what is printed
while datagrams arrive are left out, and so is `loss_percent`, a quotient of two fields of the
report.
-/

namespace Rs422Gateway

/-- A value of `--expected` that `parse_options` accepts (`udp_client.cpp:88-95`). -/
structure ExpectedCount where
  value : UInt32
  positive : 0 < value.toNat
  bounded : value.toNat ≤ 65536

/-- `read_u32_be` (`udp_client.cpp:171-177`). -/
def readU32Be (source : List UInt8) : UInt32 :=
  ((source.getD 0 0).toUInt32 <<< 24) ||| ((source.getD 1 0).toUInt32 <<< 16) |||
    ((source.getD 2 0).toUInt32 <<< 8) ||| (source.getD 3 0).toUInt32

/-- A row of the CSV file, `inserted` as its status says it. -/
inductive CsvRow where
  | telemetry (seq : UInt16) (uptimeMs : UInt32) (flags : UInt16) (inserted : Bool)
  | legacy (seq : UInt16) (sample : UInt16) (inserted : Bool)
  | missing (seq : UInt16)
  deriving DecidableEq, Repr

/-- The variables of the receive loop (`udp_client.cpp:239-244`). -/
structure UdpClient where
  receivedSequences : Finset UInt16
  crcErrors : UInt32
  invalidFrames : UInt32
  duplicateFrames : UInt32
  firstPacketReceived : Bool
  firstSeq : UInt16
  csv : List CsvRow

/-- What the client reports at its end (`udp_client.cpp:337-354`). -/
structure UdpReport where
  expected : UInt32
  received : UInt32
  missing : UInt32
  duplicates : UInt32
  crcErrors : UInt32
  invalid : UInt32
  csv : List CsvRow
  success : Bool

namespace UdpClient

def initial : UdpClient := ⟨∅, 0, 0, 0, false, 0, []⟩

/-- A TELEMETRY packet is entered (`udp_client.cpp:293-316`). -/
def enter (s : UdpClient) (packet : ProtocolPacket) : UdpClient :=
  let inserted := decide (packet.seq ∉ s.receivedSequences)
  { s with
    receivedSequences := insert packet.seq s.receivedSequences
    duplicateFrames := if inserted then s.duplicateFrames else s.duplicateFrames + 1
    csv :=
      s.csv ++
        [if packet.length = 6 then
          .telemetry packet.seq (readU32Be packet.payload.toList)
            (readU16Be (packet.payload.toList.drop 4)) inserted
        else .legacy packet.seq (readU16Be packet.payload.toList) inserted] }

/-- What `recvfrom` has stored is looked at (`udp_client.cpp:266-316`), and whether the loop goes
    on. -/
def receive (s : UdpClient) (timeoutSet : Bool) (datagram : List UInt8) : UdpClient × Bool :=
  let out := protocolDecode datagram .zero
  if out.result ≠ .ok then
    (if out.result = .errCrc then { s with crcErrors := s.crcErrors + 1 }
      else { s with invalidFrames := s.invalidFrames + 1 }, true)
  else if out.packet.msgId ≠ msgTelemetry ∨ (out.packet.length ≠ 6 ∧ out.packet.length ≠ 2) then
    ({ s with invalidFrames := s.invalidFrames + 1 }, true)
  else if s.firstPacketReceived then (s.enter out.packet, true)
  else
    let s := { s with firstPacketReceived := true, firstSeq := out.packet.seq }
    if timeoutSet then (s.enter out.packet, true) else (s, false)

/-- The receive loop (`udp_client.cpp:246-317`). `recvfrom` cuts a datagram to the size of
    `rx_buffer`; one without bytes ends the loop as a timeout does. -/
def receiveLoop (expected : ExpectedCount) (timeoutSet : Bool) :
    UdpClient → List (List UInt8) → UdpClient
  | s, [] => s
  | s, datagram :: rest =>
      if s.receivedSequences.card < expected.value.toNat then
        if datagram = [] then s
        else
          match s.receive timeoutSet (datagram.take protocolMaxFrameSize) with
          | (s, true) => receiveLoop expected timeoutSet s rest
          | (s, false) => s
      else s

/-- The SEQs of the window that have not been received (`udp_client.cpp:322-330`). -/
def missingSeqs (s : UdpClient) (expected : ExpectedCount) : List UInt16 :=
  ((List.range expected.value.toNat).map fun offset => s.firstSeq + UInt16.ofNat offset).filter
    fun seq => seq ∉ s.receivedSequences

/-- The end of `main` (`udp_client.cpp:319-354`). -/
def report (s : UdpClient) (expected : ExpectedCount) : UdpReport where
  expected := expected.value
  received := UInt32.ofNat s.receivedSequences.card
  missing :=
    if s.firstPacketReceived then UInt32.ofNat (s.missingSeqs expected).length else expected.value
  duplicates := s.duplicateFrames
  crcErrors := s.crcErrors
  invalid := s.invalidFrames
  csv :=
    if s.firstPacketReceived then s.csv ++ (s.missingSeqs expected).map .missing else s.csv
  success := s.firstPacketReceived

end UdpClient

/-- `main`, from the receive loop on. -/
def udpClient (expected : ExpectedCount) (timeoutSet : Bool) (datagrams : List (List UInt8)) :
    UdpReport :=
  (UdpClient.initial.receiveLoop expected timeoutSet datagrams).report expected

/-! ## Valid telemetry -/

/-- A valid TELEMETRY datagram, with uptime and flags or with a legacy sample. -/
structure TelemetryDatagram where
  message : Message
  telemetry : message.msgId = msgTelemetry
  size : message.payload.length = 6 ∨ message.payload.length = 2

namespace TelemetryDatagram

def bytes (d : TelemetryDatagram) : List UInt8 := d.message.wire

def seq (d : TelemetryDatagram) : UInt16 := d.message.seq

/-- The distinct SEQs of some datagrams. -/
def seqs (datagrams : Multiset TelemetryDatagram) : Finset UInt16 :=
  (datagrams.map seq).toFinset

/-- `missing_count` when the datagrams arrive in this order. -/
def missingCount (expected : ExpectedCount) (order : List TelemetryDatagram) : UInt32 :=
  (udpClient expected true (order.map bytes)).missing

end TelemetryDatagram

/-- So many values from `first` on, with 0 after 65535. -/
def consecutiveSeqs (first : UInt16) (count : Nat) : Finset UInt16 :=
  (Finset.range count).image fun offset => first + UInt16.ofNat offset

/-- How many of the SEQs are in the window that begins with `first`. -/
def inWindow (expected : ExpectedCount) (seqs : Finset UInt16) (first : UInt16) : Nat :=
  (seqs.filter fun seq => (seq - first).toNat < expected.value.toNat).card

/-- Whichever of the SEQs the window begins with, it holds as many of them. -/
def SameWindows (expected : ExpectedCount) (seqs : Finset UInt16) : Prop :=
  ∀ first ∈ seqs, ∀ other ∈ seqs, inWindow expected seqs first = inWindow expected seqs other

instance (expected : ExpectedCount) (seqs : Finset UInt16) :
    Decidable (SameWindows expected seqs) :=
  inferInstanceAs (Decidable (∀ first ∈ seqs, ∀ other ∈ seqs, _ = _))

/-- The loss report does not depend on the order of arrival, and nothing is missing of `expected`
    consecutive values. -/
def LossByContent (expected : ExpectedCount) (datagrams : Multiset TelemetryDatagram) : Prop :=
  (∀ order order' : List TelemetryDatagram, ↑order = datagrams → ↑order' = datagrams →
    TelemetryDatagram.missingCount expected order =
      TelemetryDatagram.missingCount expected order') ∧
  ((∃ first, TelemetryDatagram.seqs datagrams = consecutiveSeqs first expected.value.toNat) →
    ∀ order : List TelemetryDatagram, ↑order = datagrams →
      TelemetryDatagram.missingCount expected order = 0)

end Rs422Gateway
