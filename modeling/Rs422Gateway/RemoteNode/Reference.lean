import Rs422Gateway.Common.Scanner
import Rs422Gateway.RemoteNode.Calls

/-!
# What the remote node is for

The statistics of the remote node and its replies as functions of the history of its calls, apart
from how `remote_node.c` keeps them: the reports of the frame scanner for all bytes received so far
say which frames were valid and which were rejected.
-/

namespace Rs422Gateway

/-! ## The history -/

/-- The bytes given to `remote_node_process_byte`, in order. -/
def receivedBytes (calls : List NodeCall) : List UInt8 :=
  calls.filterMap fun
    | .processByte byte _ _ => some byte
    | _ => none

/-- The valid frames of a parse, in order. -/
def validFrames (reports : List Report) : List Message :=
  reports.filterMap fun
    | .frame m => some m
    | _ => none

/-- The number of frames of a parse that were rejected for their CRC. -/
def crcRejections (reports : List Report) : Nat :=
  reports.countP fun
    | .error e => e = .errCrc
    | _ => false

/-- The number of the other rejections of a parse. -/
def otherRejections (reports : List Report) : Nat :=
  reports.countP fun
    | .error e => e ≠ .errCrc
    | _ => false

/-- The assigned message identifiers (`protocol.h:20-27`). -/
def assignedMsgIds : List UInt8 :=
  [msgPing, msgPong, msgReadStatus, msgStatusResp, msgHeartbeat, msgTelemetry, msgError]

namespace Message

/-- The message identifier is not assigned. -/
def Unknown (m : Message) : Prop := m.msgId ∉ assignedMsgIds

instance (m : Message) : Decidable m.Unknown := inferInstanceAs (Decidable (_ ∉ _))

/-- A zero-length PING or READ_STATUS. -/
def IsRequest (m : Message) : Prop :=
  (m.msgId = msgPing ∨ m.msgId = msgReadStatus) ∧ m.payload = []

instance (m : Message) : Decidable m.IsRequest := inferInstanceAs (Decidable (_ ∧ _))

/-- What two requests have in common when one repeats the other. -/
def key (m : Message) : UInt8 × UInt16 := (m.msgId, m.seq)

end Message

/-- The number of adjacent equal pairs. -/
def adjacentEqual {α : Type} [DecidableEq α] (xs : List α) : Nat :=
  (xs.zip xs.tail).countP fun pair => pair.1 = pair.2

/-- A transmission has failed, or an RX overflow or a UART error has been noted. -/
def CommFailed (calls : List NodeCall) (sent : List Transmission) : Prop :=
  (∃ t ∈ sent, t.accepted = false) ∨ .noteRxOverflow ∈ calls ∨ .noteUartError ∈ calls

instance (calls : List NodeCall) (sent : List Transmission) : Decidable (CommFailed calls sent) :=
  inferInstanceAs (Decidable (_ ∨ _ ∨ _))

/-- The communication status. -/
def expectedStatus (failed : Bool) (frames : List Message) : CommStatus :=
  if failed then .error else if frames = [] then .init else .ok

/-! ## The replies -/

/-- A valid frame that is answered: what `time_fn` returns then, the parse up to it, and whether
    anything has failed before. -/
structure Request where
  message : Message
  now : UInt32
  reports : List Report
  failed : Bool

namespace Request

/-- The error code for a frame that is no zero-length PING or READ_STATUS. -/
def errorCode (msgId : UInt8) : RemoteErrorCode :=
  if msgId = msgPing ∨ msgId = msgReadStatus then .badLength
  else if msgId ∈ assignedMsgIds then .unsupported
  else .unknownMsg

/-- The payload of a STATUS_RESP: the time, the counters, the last SEQ and the status, all with the
    request itself. -/
def statusPayload (r : Request) : List UInt8 :=
  writeU32Be r.now ++ writeU32Be (UInt32.ofNat (validFrames r.reports).length) ++
    writeU32Be (UInt32.ofNat (otherRejections r.reports)) ++
    writeU32Be (UInt32.ofNat (crcRejections r.reports)) ++ writeU16Be r.message.seq ++
    [(if r.failed then CommStatus.error else CommStatus.ok).code, 0]

/-- The reply to a frame that is no ERROR. -/
def reply (r : Request) : Message :=
  if r.message.IsRequest then
    if r.message.msgId = msgPing then ⟨msgPong, r.message.seq, [], Message.nil_bounded⟩
    else ⟨msgStatusResp, r.message.seq, r.statusPayload, by simp [statusPayload, writeU32Be]⟩
  else
    ⟨msgError, r.message.seq, [(errorCode r.message.msgId).code, r.message.msgId],
      by rw [List.length_cons, List.length_singleton]; decide⟩

end Request

/-- The frames of a stream that are answered, from where `held` is held, after the parse
    `reports`. -/
def requests (reports : List Report) (held : List UInt8) (failed : Bool) :
    List (UInt8 × UInt32 × Bool) → List Request
  | [] => []
  | (byte, now, accepted) :: rest =>
      match Scanner.scan held byte with
      | (held, .frame m) =>
          if m.msgId = msgError then requests (reports ++ [.frame m]) held failed rest
          else
            ⟨m, now, reports ++ [.frame m], failed⟩ ::
              requests (reports ++ [.frame m]) held (failed || !accepted) rest
      | (held, report) => requests (reports ++ [report]) held failed rest

/-! ## The periodic frames -/

/-- The two kinds of periodic frames. -/
inductive PeriodicKind where
  | telemetry
  | heartbeat
  deriving DecidableEq, Repr

namespace PeriodicKind

/-- Its message identifier. -/
def msgId : PeriodicKind → UInt8
  | .telemetry => msgTelemetry
  | .heartbeat => msgHeartbeat

/-- Its period in milliseconds. -/
def period : PeriodicKind → UInt32
  | .telemetry => telemetryPeriodMs
  | .heartbeat => heartbeatPeriodMs

/-- A frame of this kind. -/
def IsFrame (kind : PeriodicKind) (frame : List UInt8) : Prop :=
  frame[offsetMsgId]? = some kind.msgId

instance (kind : PeriodicKind) : DecidablePred kind.IsFrame :=
  fun _ => inferInstanceAs (Decidable (_ = _))

end PeriodicKind

/-- A call of `remote_node_process_periodic`: what `time_fn` has returned, and the frames handed to
    `tx_fn`. -/
structure Poll where
  now : UInt32
  frames : List (List UInt8)

/-- The call has sent a frame of this kind. -/
def Poll.Emits (p : Poll) (kind : PeriodicKind) : Prop := ∃ f ∈ p.frames, kind.IsFrame f

instance (p : Poll) (kind : PeriodicKind) : Decidable (p.Emits kind) :=
  inferInstanceAs (Decidable (∃ f ∈ p.frames, _))

/-- What `time_fn` has returned in the `k`-th of these calls. -/
def pollTime (polls : List Poll) (k : Nat) : UInt32 := (polls.map Poll.now).getD k 0

/-- Two calls that have sent a frame of this kind, and none in between. -/
structure SuccessiveEmissions (polls : List Poll) (kind : PeriodicKind) (i j : Nat) : Prop where
  lt : i < j
  first : ∃ p, polls[i]? = some p ∧ p.Emits kind
  second : ∃ p, polls[j]? = some p ∧ p.Emits kind
  quiet : ∀ k p, i < k → k < j → polls[k]? = some p → ¬ p.Emits kind

/-- The calls of `remote_node_process_periodic` in a run. -/
def RemoteNode.polls (node : RemoteNode) : List NodeCall → List Poll
  | [] => []
  | .processPeriodic now telemetryAccepted heartbeatAccepted :: rest =>
      let (node, frames) := node.processPeriodic now telemetryAccepted heartbeatAccepted
      ⟨now, frames⟩ :: node.polls rest
  | c :: rest => (node.call c).1.polls rest

end Rs422Gateway
