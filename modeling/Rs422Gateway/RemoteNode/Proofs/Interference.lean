import Rs422Gateway.RemoteNode.Proofs.Statistics

/-!
# What `tx_fn` answers

Two runs that differ only in what `tx_fn` answers keep the same `protocolState`, all of the node but
its two statistics about transmissions, and send the same frames up to the status in a STATUS_RESP
(`run_interference`).
-/

namespace Rs422Gateway

open Scanner StreamParser

/-- A call apart from what `tx_fn` answers. -/
def NodeCall.input : NodeCall → NodeCall
  | .processByte byte now _ => .processByte byte now true
  | .processPeriodic now _ _ => .processPeriodic now true true
  | c => c

/-- The frames are equal, or they are STATUS_RESPs that differ at most in payload byte 18 and in
    their CRC. -/
def SameButStatus (f f' : List UInt8) : Prop :=
  f = f' ∨
    f.length = 30 ∧ f'.length = 30 ∧ f[offsetMsgId]? = some msgStatusResp ∧
      ∀ i, i ≠ offsetPayload + 18 → i ≠ 28 → i ≠ 29 → f[i]? = f'[i]?

namespace RemoteNode

/-- The node apart from its statistics about transmissions. -/
def protocolState (node : RemoteNode) : RemoteNode :=
  { node with stats := { node.stats with txErrorCount := 0, commStatus := .init } }

variable {node node' : RemoteNode}

@[simp] theorem protocolState_afterTx (node : RemoteNode) (accepted : Bool) :
    (node.afterTx accepted).protocolState = node.protocolState := by
  cases accepted <;> rfl

/-- What is noted of a report does not depend on the statistics about transmissions. -/
theorem protocolState_receive (node : RemoteNode) (byte : UInt8) (r : Report) :
    (node.receive byte r).protocolState = (node.protocolState.receive byte r).protocolState := by
  cases r with
  | none => rfl
  | frame m =>
    simp only [receive, noteReport, noteFrame]
    split
    · rfl
    · split <;> rfl
  | error e =>
    simp only [receive, noteReport, noteRejection]
    split <;> rfl

theorem receive_congr (h : node.protocolState = node'.protocolState) (byte : UInt8) (r : Report) :
    (node.receive byte r).protocolState = (node'.receive byte r).protocolState := by
  rw [protocolState_receive, h, ← protocolState_receive]

theorem parser_congr (h : node.protocolState = node'.protocolState) : node.parser = node'.parser :=
  congrArg (·.parser) h

/-! ## The frames -/

/-- The first 26 bytes of a STATUS_RESP. -/
def statusFront (seq : UInt16) (body : List UInt8) : List UInt8 :=
  writeU16Be protocolMagic ++ (protocolVersion :: msgStatusResp ::
    (writeU16Be seq ++ (writeU16Be 20 ++ body)))

/-- A STATUS_RESP ends with the status, the reserved byte and its CRC. -/
theorem wire_status {seq : UInt16} {body : List UInt8} (status : UInt8) (size : body.length = 18)
    (bounded : (body ++ [status, 0]).length ≤ 256) :
    ∃ hi lo, Message.wire ⟨msgStatusResp, seq, body ++ [status, 0], bounded⟩ =
      statusFront seq body ++ [status, 0, hi, lo] := by
  have hlength : Message.length ⟨msgStatusResp, seq, body ++ [status, 0], bounded⟩ = 20 := by
    simp only [Message.length, List.length_append, size, List.length_cons, List.length_nil]
    rfl
  obtain ⟨hi, lo, hcrc⟩ : ∃ hi lo,
      writeU16Be (Message.crc ⟨msgStatusResp, seq, body ++ [status, 0], bounded⟩) = [hi, lo] :=
    ⟨_, _, rfl⟩
  refine ⟨hi, lo, ?_⟩
  simp only [Message.wire, Message.framed, hcrc, Message.covered, hlength, statusFront,
    List.append_assoc, List.cons_append, List.nil_append]

theorem sameButStatus_wire {seq : UInt16} {body : List UInt8} {status status' : UInt8}
    (size : body.length = 18) (bounded : (body ++ [status, 0]).length ≤ 256)
    (bounded' : (body ++ [status', 0]).length ≤ 256) :
    SameButStatus (Message.wire ⟨msgStatusResp, seq, body ++ [status, 0], bounded⟩)
      (Message.wire ⟨msgStatusResp, seq, body ++ [status', 0], bounded'⟩) := by
  obtain ⟨hi, lo, hwire⟩ := wire_status status size bounded
  obtain ⟨hi', lo', hwire'⟩ := wire_status status' size bounded'
  have hfront : (statusFront seq body).length = 26 := by
    simp [statusFront, size]
  rw [hwire, hwire']
  refine .inr ⟨?_, ?_, rfl, ?_⟩
  · rw [List.length_append, hfront]
    rfl
  · rw [List.length_append, hfront]
    rfl
  · intro i hstatus hhi hlo
    rcases Nat.lt_or_ge i 26 with hi | hi
    · rw [List.getElem?_append_left (hfront.symm ▸ hi),
        List.getElem?_append_left (hfront.symm ▸ hi)]
    · rw [List.getElem?_append_right (hfront.symm ▸ hi),
        List.getElem?_append_right (hfront.symm ▸ hi), hfront]
      -- Behind the front only the reserved byte is left.
      rcases Nat.lt_or_ge i 30 with hlt | hge
      · have hoffset : offsetPayload + 18 = 26 := rfl
        obtain rfl : i = 27 := by omega
        rfl
      · rw [List.getElem?_eq_none, List.getElem?_eq_none]
        · show 4 ≤ i - 26
          omega
        · show 4 ≤ i - 26
          omega

theorem replyTo_congr (h : node.protocolState = node'.protocolState) (m : Message) (now : UInt32) :
    SameButStatus (node.replyTo m now).wire (node'.replyTo m now).wire := by
  unfold replyTo
  split
  · split
    · exact .inl rfl
    · have hvalid : node.stats.validFrameCount = node'.stats.validFrameCount :=
        congrArg (·.stats.validFrameCount) h
      have hparser : node.stats.parserErrorCount = node'.stats.parserErrorCount :=
        congrArg (·.stats.parserErrorCount) h
      have hcrc : node.stats.crcErrorCount = node'.stats.crcErrorCount :=
        congrArg (·.stats.crcErrorCount) h
      have hseq : node.stats.lastRxSeq = node'.stats.lastRxSeq :=
        congrArg (·.stats.lastRxSeq) h
      simp only [statusPayload, hvalid, hparser, hcrc, hseq]
      exact sameButStatus_wire rfl _ _
  · exact .inl rfl

/-! ## One call -/

theorem processByte_congr {held : List UInt8} (h : node.protocolState = node'.protocolState)
    (hrep : node.parser.Represents held) (byte : UInt8) (now : UInt32) (accepted accepted' : Bool) :
    (node.processByte byte now accepted).1.protocolState =
        (node'.processByte byte now accepted').1.protocolState ∧
      List.Forall₂ SameButStatus (node.processByte byte now accepted).2
        (node'.processByte byte now accepted').2 := by
  have hreceive := receive_congr h byte (scan held byte).2
  rw [processByte_scan hrep, processByte_scan (parser_congr h ▸ hrep)]
  cases (scan held byte).2.answered with
  | none => exact ⟨hreceive, .nil⟩
  | some m =>
    simp only [protocolState_afterTx]
    exact ⟨hreceive, .cons (replyTo_congr hreceive m now) .nil⟩

theorem periodicTelemetry_congr (h : node.protocolState = node'.protocolState) (now : UInt32)
    (accepted accepted' : Bool) :
    (node.periodicTelemetry now accepted).1.protocolState =
        (node'.periodicTelemetry now accepted').1.protocolState ∧
      (node.periodicTelemetry now accepted).2 = (node'.periodicTelemetry now accepted').2 := by
  have htimer : node.lastTelemetryMs = node'.lastTelemetryMs := congrArg (·.lastTelemetryMs) h
  have hseq : node.telemetrySeq = node'.telemetrySeq := congrArg (·.telemetrySeq) h
  have hflags : node.statusFlags = node'.statusFlags := congrArg (·.statusFlags) h
  have hdue : (node.noteTelemetry now).protocolState = (node'.noteTelemetry now).protocolState :=
    congrArg (·.noteTelemetry now) h
  rw [periodicTelemetry_eq, periodicTelemetry_eq, htimer]
  split
  · simp only [protocolState_afterTx]
    refine ⟨hdue, ?_⟩
    simp only [telemetry, noteTelemetry, hseq, hflags]
  · exact ⟨h, rfl⟩

theorem periodicHeartbeat_congr (h : node.protocolState = node'.protocolState) (now : UInt32)
    (accepted accepted' : Bool) :
    (node.periodicHeartbeat now accepted).1.protocolState =
        (node'.periodicHeartbeat now accepted').1.protocolState ∧
      (node.periodicHeartbeat now accepted).2 = (node'.periodicHeartbeat now accepted').2 := by
  have htimer : node.lastHeartbeatMs = node'.lastHeartbeatMs := congrArg (·.lastHeartbeatMs) h
  have hseq : node.heartbeatSeq = node'.heartbeatSeq := congrArg (·.heartbeatSeq) h
  have hdue : (node.noteHeartbeat now).protocolState = (node'.noteHeartbeat now).protocolState :=
    congrArg (·.noteHeartbeat now) h
  rw [periodicHeartbeat_eq, periodicHeartbeat_eq, htimer]
  split
  · simp only [protocolState_afterTx]
    refine ⟨hdue, ?_⟩
    simp only [heartbeat, noteHeartbeat, hseq]
  · exact ⟨h, rfl⟩

theorem frames_map (accepted : Bool) (frames : List (List UInt8)) :
    (frames.map (Transmission.mk · accepted)).map Transmission.frame = frames := by
  simp [Function.comp_def]

/-- One call with different answers of `tx_fn`. -/
theorem call_congr {held : List UInt8} (h : node.protocolState = node'.protocolState)
    (hrep : node.parser.Represents held) {c c' : NodeCall} (hinput : c.input = c'.input) :
    (node.call c).1.protocolState = (node'.call c').1.protocolState ∧
      List.Forall₂ SameButStatus ((node.call c).2.map Transmission.frame)
        ((node'.call c').2.map Transmission.frame) := by
  cases c with
  | processByte byte now accepted =>
    obtain ⟨accepted', rfl⟩ : ∃ accepted', c' = .processByte byte now accepted' := by
      cases c' <;> cases hinput
      exact ⟨_, rfl⟩
    simp only [call, frames_map]
    exact processByte_congr h hrep byte now accepted accepted'
  | processPeriodic now telemetryAccepted heartbeatAccepted =>
    obtain ⟨telemetryAccepted', heartbeatAccepted', rfl⟩ : ∃ telemetryAccepted' heartbeatAccepted',
        c' = .processPeriodic now telemetryAccepted' heartbeatAccepted' := by
      cases c' <;> cases hinput
      exact ⟨_, _, rfl⟩
    obtain ⟨htelemetry, hframes⟩ :=
      periodicTelemetry_congr h now telemetryAccepted telemetryAccepted'
    obtain ⟨hheartbeat, hframes'⟩ :=
      periodicHeartbeat_congr htelemetry now heartbeatAccepted heartbeatAccepted'
    simp only [call, List.map_append, frames_map, hframes, hframes']
    exact ⟨hheartbeat, List.forall₂_same.mpr fun _ _ => .inl rfl⟩
  | setStatusFlags statusFlags =>
    obtain rfl : c' = .setStatusFlags statusFlags := by
      cases c' <;> cases hinput
      rfl
    exact ⟨congrArg (·.setStatusFlags statusFlags) h, .nil⟩
  | noteRxOverflow =>
    obtain rfl : c' = .noteRxOverflow := by
      cases c' <;> cases hinput
      rfl
    exact ⟨congrArg (·.noteRxOverflow.protocolState) h, .nil⟩
  | noteUartError =>
    obtain rfl : c' = .noteUartError := by
      cases c' <;> cases hinput
      rfl
    exact ⟨congrArg (·.noteUartError.protocolState) h, .nil⟩

/-! ## Two runs -/

theorem run_congr {held : List UInt8} {reports : List Report} {failed : Bool}
    (h : node.protocolState = node'.protocolState) (htracks : node.Tracks held reports failed)
    {calls calls' : List NodeCall}
    (hinputs : calls.map NodeCall.input = calls'.map NodeCall.input) :
    (node.run calls).1.protocolState = (node'.run calls').1.protocolState ∧
      List.Forall₂ SameButStatus ((node.run calls).2.map Transmission.frame)
        ((node'.run calls').2.map Transmission.frame) := by
  induction calls generalizing node node' held reports failed calls' with
  | nil =>
    obtain rfl : calls' = [] := List.map_eq_nil_iff.mp hinputs.symm
    exact ⟨h, .nil⟩
  | cons c calls ih =>
    obtain ⟨c', rest, rfl, hinput, hrest⟩ := List.map_eq_cons_iff.mp hinputs.symm
    obtain ⟨hstate, hframes⟩ := call_congr h htracks.parser hinput.symm
    obtain ⟨hstate', hframes'⟩ := ih hstate (htracks.call c) hrest.symm
    simp only [run, List.map_append]
    exact ⟨hstate', List.rel_append hframes hframes'⟩

/-- What `tx_fn` answers does not interfere: two runs with the same calls, bytes and times end in
    the same protocol state, and send the same frames up to the status in a STATUS_RESP. -/
theorem run_interference (now : UInt32) (calls calls' : List NodeCall)
    (h : calls.map NodeCall.input = calls'.map NodeCall.input) :
    ((init now).run calls).1.protocolState = ((init now).run calls').1.protocolState ∧
      List.Forall₂ SameButStatus (((init now).run calls).2.map Transmission.frame)
        (((init now).run calls').2.map Transmission.frame) :=
  run_congr rfl (init_tracks now) h

/-- A TELEMETRY that is refused in one run and accepted in the other. -/
theorem run_interference_telemetry :
    ((init 0).run [.processPeriodic 100 false true]).1.protocolState =
        ((init 0).run [.processPeriodic 100 true true]).1.protocolState ∧
      List.Forall₂ SameButStatus
        (((init 0).run [.processPeriodic 100 false true]).2.map Transmission.frame)
        (((init 0).run [.processPeriodic 100 true true]).2.map Transmission.frame) :=
  run_interference 0 _ _ rfl

end RemoteNode

end Rs422Gateway
