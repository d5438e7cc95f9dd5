import Rs422Gateway.Gateway.EthernetTask
import Rs422Gateway.Host.UdpClient
import Rs422Gateway.RemoteNode.Calls

/-!
# The way of TELEMETRY

The remote node samples TELEMETRY and the gateway forwards it to the UDP client. All is left open:
what the remote node receives and is asked to do, what of a frame that `tx_fn` refuses is on the
line, what the line loses and adds, what the gateway does for TCP, what its HAL answers, and the
order of all steps. `TelemetryPath.Lossless` are the steps without a loss between the two
firmwares. `samples` is history.
-/

namespace Rs422Gateway

/-- What a TELEMETRY of the remote node says. -/
structure TelemetrySample where
  seq : UInt16
  uptimeMs : UInt32
  flags : UInt16
  deriving DecidableEq, Repr

namespace TelemetrySample

theorem payload_length (t : TelemetrySample) :
    (writeU32Be t.uptimeMs ++ writeU16Be t.flags).length = 6 := rfl

/-- The message of a TELEMETRY. -/
def message (t : TelemetrySample) : Message :=
  ⟨msgTelemetry, t.seq, writeU32Be t.uptimeMs ++ writeU16Be t.flags,
    t.payload_length.le.trans (by decide)⟩

/-- Its datagram. -/
def datagram (t : TelemetrySample) : TelemetryDatagram :=
  ⟨t.message, rfl, .inl t.payload_length⟩

/-- Its row in the CSV file of the UDP client, when it is no duplicate. -/
def row (t : TelemetrySample) : CsvRow := .telemetry t.seq t.uptimeMs t.flags true

end TelemetrySample

/-- The TELEMETRY that a call samples (`remote_node.c:287-301`), whether `tx_fn` accepts it or
    not. -/
def RemoteNode.sampled (node : RemoteNode) : NodeCall → List TelemetrySample
  | .processPeriodic now _ _ =>
      if telemetryPeriodMs ≤ now - node.lastTelemetryMs then
        [⟨node.telemetrySeq + 1, now, node.statusFlags⟩]
      else []
  | _ => []

/-- The bytes that calls of `tx_fn` put on the line: `cuts` says how many of each frame when it is
    refused, and 0 where it says nothing. -/
def lineBytes : List Transmission → List Nat → List UInt8
  | [], _ => []
  | t :: sent, cuts => t.onWire (cuts.headD 0) ++ lineBytes sent cuts.tail

/-- The remote node, the line from it to the gateway, and the gateway. -/
structure TelemetryPath where
  node : RemoteNode
  line : List UInt8
  gateway : Gateway
  samples : List TelemetrySample

/-- What can happen next. -/
inductive TelemetryAction where
  /-- A function of `remote_node.h` is called. `cuts` is what `lineBytes` says. -/
  | node (c : NodeCall) (cuts : List Nat)
  /-- The next byte of the line arrives. -/
  | arrive
  /-- The next byte of the line is lost. -/
  | lose
  /-- Something else happens in the gateway. A byte it receives here is not of the line. -/
  | gateway (a : GatewayAction)
  deriving DecidableEq, Repr

namespace TelemetryPath

/-- Both firmwares have started. -/
def initial (start : UInt32) : TelemetryPath := ⟨.init start, [], .initial, []⟩

def step (s : TelemetryPath) : TelemetryAction → Option TelemetryPath
  | .node c cuts =>
      some
        { s with
          node := (s.node.call c).1
          line := s.line ++ lineBytes (s.node.call c).2 cuts
          samples := s.samples ++ s.node.sampled c }
  | .arrive =>
      match s.line with
      | [] => none
      | byte :: rest =>
          (s.gateway.step (.uartRx byte)).map fun g => { s with line := rest, gateway := g }
  | .lose =>
      match s.line with
      | [] => none
      | _ :: rest => some { s with line := rest }
  | .gateway a => (s.gateway.step a).map fun g => { s with gateway := g }

/-- The steps without a loss: a frame that `tx_fn` refuses leaves nothing on the line, the line
    loses no byte and adds none, and a byte that arrives finds room in the RX ring. -/
def Lossless (s : TelemetryPath) : TelemetryAction → Prop
  | .node _ cuts => ∀ cut ∈ cuts, cut = 0
  | .arrive => s.gateway.rxRing.length < rs422RxRingCapacity
  | .lose => False
  | .gateway (.uartRx _) => False
  | .gateway _ => True

instance (s : TelemetryPath) (a : TelemetryAction) : Decidable (s.Lossless a) := by
  unfold Lossless
  split <;> infer_instance

end TelemetryPath

end Rs422Gateway
