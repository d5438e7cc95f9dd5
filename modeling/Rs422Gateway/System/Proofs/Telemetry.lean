import Rs422Gateway.Common.Proofs.Alignment
import Rs422Gateway.Gateway.Proofs.Relaying
import Rs422Gateway.Host.Proofs.UdpClient
import Rs422Gateway.Misc.Transition
import Rs422Gateway.RemoteNode.Proofs.PeriodicLaw
import Rs422Gateway.System.Telemetry

/-!
# What the UDP client learns of the remote node

Without a loss between the two firmwares the TELEMETRY frames that the gateway has parsed, followed
by those on the line, are a subsequence of the samples of the remote node, and the relay of the
gateway makes the datagrams a subsequence of what it has parsed. SEQ numbers the samples, so the
report of a client that reads a subsequence of the datagrams is true, as long as SEQ has not come
round.
-/

namespace Rs422Gateway

open Transition
open scoped List

/-! ## The remote node -/

/-- The messages of TELEMETRY among some messages. -/
def telemetryOf (ms : List Message) : List Message := ms.filter fun m => m.msgId = msgTelemetry

theorem telemetryOf_append (ms later : List Message) :
    telemetryOf (ms ++ later) = telemetryOf ms ++ telemetryOf later :=
  List.filter_append ms later

/-- Refused frames that leave nothing on the line. -/
theorem lineBytes_zero (sent : List Transmission) {cuts : List Nat} (h : ∀ cut ∈ cuts, cut = 0) :
    lineBytes sent cuts = lineBytes sent [] := by
  induction sent generalizing cuts with
  | nil => rfl
  | cons t sent ih =>
    have hhead : cuts.headD 0 = 0 := by
      cases cuts with
      | nil => rfl
      | cons cut cuts => exact h cut List.mem_cons_self
    have htail : lineBytes sent cuts.tail = lineBytes sent [] :=
      ih fun cut hcut => h cut (List.mem_of_mem_tail hcut)
    simp only [lineBytes, hhead, htail, List.headD_nil, List.tail_nil]

theorem lineBytes_append (sent later : List Transmission) :
    lineBytes (sent ++ later) [] = lineBytes sent [] ++ lineBytes later [] := by
  induction sent with
  | nil => rfl
  | cons t sent ih =>
    simp only [List.cons_append, lineBytes, List.tail_nil, ih, List.append_assoc]

/-- What is put on the line without a loss are whole frames, and those of TELEMETRY are among the
    samples. -/
def Carries (sent : List Transmission) (samples : List TelemetrySample) : Prop :=
  ∃ ms : List Message, lineBytes sent [] = ms.flatMap Message.wire ∧
    telemetryOf ms <+ samples.map TelemetrySample.message

namespace Carries

variable {sent later : List Transmission} {samples samples' : List TelemetrySample}

theorem nil : Carries [] [] := ⟨[], rfl, .slnil⟩

theorem append (h : Carries sent samples) (h' : Carries later samples') :
    Carries (sent ++ later) (samples ++ samples') := by
  obtain ⟨ms, hbytes, hsub⟩ := h
  obtain ⟨ms', hbytes', hsub'⟩ := h'
  refine ⟨ms ++ ms', ?_, ?_⟩
  · rw [lineBytes_append, hbytes, hbytes', List.flatMap_append]
  · rw [telemetryOf_append, List.map_append]
    exact hsub.append hsub'

/-- One frame is handed to `tx_fn`. -/
theorem frame (m : Message) (accepted : Bool) (hsub : telemetryOf [m] <+ samples.map (·.message)) :
    Carries [⟨m.wire, accepted⟩] samples := by
  cases accepted with
  | true => exact ⟨[m], by simp [lineBytes, Transmission.onWire], hsub⟩
  | false => exact ⟨[], by simp [lineBytes, Transmission.onWire], List.nil_sublist _⟩

/-- One frame that is no TELEMETRY. -/
theorem other {m : Message} (hne : m.msgId ≠ msgTelemetry) (accepted : Bool) :
    Carries [⟨m.wire, accepted⟩] [] := by
  apply frame
  rw [telemetryOf, List.filter_cons_of_neg (by simpa using hne)]
  exact .slnil

end Carries

namespace RemoteNode

variable {node : RemoteNode} {held : List UInt8} {reports : List Report} {failed : Bool}

theorem replyTo_msgId (node : RemoteNode) (m : Message) (now : UInt32) :
    (node.replyTo m now).msgId ≠ msgTelemetry := by
  have hnot := replyTo_not_periodic .telemetry node m now
  rwa [PeriodicKind.isFrame_wire] at hnot

/-- A call puts whole frames on the line, and no TELEMETRY but the one it has sampled. -/
theorem call_carries (h : node.Tracks held reports failed) (c : NodeCall) :
    Carries (node.call c).2 (node.sampled c) := by
  cases c with
  | processByte byte now accepted =>
    rw [call, processByte_scan h.parser]
    cases (Scanner.scan held byte).2.answered with
    | none => exact .nil
    | some m => exact .other (replyTo_msgId _ m now) accepted
  | processPeriodic now telemetryAccepted heartbeatAccepted =>
    have htelemetry : Carries
        ((node.periodicTelemetry now telemetryAccepted).2.map (⟨·, telemetryAccepted⟩))
        (node.sampled (.processPeriodic now telemetryAccepted heartbeatAccepted)) := by
      rw [periodicTelemetry_eq, sampled]
      split
      · exact .frame _ telemetryAccepted (List.Sublist.refl _)
      · exact .nil
    have hheartbeat : ∀ node : RemoteNode, Carries
        ((node.periodicHeartbeat now heartbeatAccepted).2.map (⟨·, heartbeatAccepted⟩)) [] := by
      intro node
      rw [periodicHeartbeat_eq]
      split
      · exact .other (show msgHeartbeat ≠ msgTelemetry by decide) heartbeatAccepted
      · exact .nil
    have hboth := htelemetry.append (hheartbeat (node.periodicTelemetry now telemetryAccepted).1)
    rwa [List.append_nil] at hboth
  | setStatusFlags statusFlags => exact .nil
  | noteRxOverflow => exact .nil
  | noteUartError => exact .nil

/-- The SEQ counts the samples, and each has the next SEQ. -/
theorem call_sampled (h : node.Tracks held reports failed) (c : NodeCall) :
    (node.sampled c = [] ∧ (node.call c).1.telemetrySeq = node.telemetrySeq) ∨
      ∃ t, node.sampled c = [t] ∧ t.seq = node.telemetrySeq + 1 ∧
        (node.call c).1.telemetrySeq = node.telemetrySeq + 1 := by
  cases c with
  | processPeriodic now telemetryAccepted heartbeatAccepted =>
    have hkind := processPeriodic_kind .telemetry node now telemetryAccepted heartbeatAccepted
    by_cases hdue : telemetryPeriodMs ≤ now - node.lastTelemetryMs
    · have hsent := (if_pos hdue).mp hkind
      exact .inr ⟨_, if_pos hdue, rfl, hsent.seq⟩
    · have huntouched := (if_neg hdue).mp hkind
      exact .inl ⟨if_neg hdue, huntouched.seq⟩
  | processByte byte now accepted =>
    exact .inl ⟨rfl, (processByte_untouched .telemetry h byte now accepted).seq⟩
  | setStatusFlags statusFlags => exact .inl ⟨rfl, rfl⟩
  | noteRxOverflow => exact .inl ⟨rfl, rfl⟩
  | noteUartError => exact .inl ⟨rfl, rfl⟩

end RemoteNode

/-! ## The gateway -/

namespace Gateway

variable {s s' : Gateway}

/-- The receive side of RS-422 is the same. -/
structure SameReceive (s s' : Gateway) : Prop where
  rxRing : s'.rxRing = s.rxRing
  rs422Parser : s'.rs422Parser = s.rs422Parser
  telemetryFrames : s'.history.telemetryFrames = s.history.telemetryFrames

theorem SameReceive.trans {s'' : Gateway} (h : s.SameReceive s') (h' : s'.SameReceive s'') :
    s.SameReceive s'' :=
  ⟨h'.rxRing.trans h.rxRing, h'.rs422Parser.trans h.rs422Parser,
    h'.telemetryFrames.trans h.telemetryFrames⟩

theorem takeFlags_sameReceive (s : Gateway) : s.SameReceive s.takeFlags := by
  unfold takeFlags handleTxDoneEvent handleTcpContextResetEvent
  cases s.flags.tcpContextReset <;> cases s.flags.txDone <;> exact ⟨rfl, rfl, rfl⟩

theorem forwardFailed_sameReceive (s : Gateway) : s.SameReceive s.forwardFailed := by
  unfold forwardFailed
  split <;> exact ⟨rfl, rfl, rfl⟩

theorem returnWaitForTxComplete_sameReceive (s : Gateway) (pass : Bool) :
    s.SameReceive (s.returnWaitForTxComplete pass) := by
  unfold returnWaitForTxComplete
  split
  · split <;> exact ⟨rfl, rfl, rfl⟩
  · cases pass with
    | true => exact ⟨rfl, rfl, rfl⟩
    | false => exact s.forwardFailed_sameReceive.trans ⟨rfl, rfl, rfl⟩

theorem returnProcessRx_sameReceive (s : Gateway) (caller : RxCaller) :
    s.SameReceive (s.returnProcessRx caller) := by
  cases caller with
  | txLoop => exact ⟨rfl, rfl, rfl⟩
  | txDone =>
    refine .trans ?_ (returnWaitForTxComplete_sameReceive _ true)
    exact ⟨rfl, rfl, rfl⟩
  | pongLoop =>
    simp only [returnProcessRx]
    split <;> exact ⟨rfl, rfl, rfl⟩
  | main => exact ⟨rfl, rfl, rfl⟩

theorem markPending_sameReceive (s : Gateway) : s.SameReceive s.markPending := by
  unfold markPending
  split <;> exact ⟨rfl, rfl, rfl⟩

/-- Only `rs422_process_rx_buffer` takes bytes off the RX ring and feeds them. -/
theorem rs422Step_receive {hal : HalStatus} {late : Bool} (taken : s.rs422Step hal late = some s') :
    s.SameReceive s' ∨ ∃ byte rest, s.rxRing = byte :: rest ∧
      s' = { s with rxRing := rest }.processRxByte byte := by
  cases rs422Step_move taken with
  | receive caller byte rest hpc ring => exact .inr ⟨byte, rest, ring, rfl⟩
  | goto => exact .inl ⟨rfl, rfl, rfl⟩
  | call => exact .inl ⟨rfl, rfl, rfl⟩
  | returnWait pass => exact .inl (s.returnWaitForTxComplete_sameReceive pass)
  | returnRx caller => exact .inl (s.returnProcessRx_sameReceive caller)
  | take => exact .inl (s.takeFlags_sameReceive.trans ⟨rfl, rfl, rfl⟩)
  | wake => exact .inl (s.takeFlags_sameReceive.trans ⟨rfl, rfl, rfl⟩)
  | armBringup => exact .inl ⟨rfl, rfl, rfl⟩
  | transmitBringup => exact .inl ⟨rfl, rfl, rfl⟩
  | transmitBringupFailed => exact .inl ⟨rfl, rfl, rfl⟩
  | nextTest => exact .inl ⟨rfl, rfl, rfl⟩
  | enable => exact .inl ⟨rfl, rfl, rfl⟩
  | dequeue => exact .inl ⟨rfl, rfl, rfl⟩
  | arm => exact .inl ⟨rfl, rfl, rfl⟩
  | mark => exact .inl (s.markPending_sameReceive.trans ⟨rfl, rfl, rfl⟩)
  | transmit => exact .inl ⟨rfl, rfl, rfl⟩
  | transmitFailed =>
    refine .inl (.trans ?_ ((forwardFailed_sameReceive _).trans ⟨rfl, rfl, rfl⟩))
    exact ⟨rfl, rfl, rfl⟩

theorem ethernetBegin_receive {op : EthernetOp} (taken : s.ethernetBegin op = some s') :
    s.SameReceive s' := by
  unfold ethernetBegin at taken
  cases op with
  | invalidate =>
    cases taken
    exact ⟨rfl, rfl, rfl⟩
  | discard =>
    cases taken
    exact ⟨rfl, rfl, rfl⟩
  | establish =>
    simp only at taken
    split at taken
    · cases taken
      exact ⟨rfl, rfl, rfl⟩
    · cases taken
  | receive bytes =>
    simp only at taken
    split at taken
    · cases taken
      exact ⟨rfl, rfl, rfl⟩
    · cases taken
  | drain =>
    simp only at taken
    split at taken
    · cases taken
      exact ⟨rfl, rfl, rfl⟩
    · cases taken
  | drainTelemetry =>
    cases taken
    exact ⟨rfl, rfl, rfl⟩

/-- EthernetTask leaves the receive side of RS-422 alone. -/
theorem ethernetStep_receive {op : EthernetOp} {hal : HalStatus}
    (taken : s.ethernetStep op hal = some s') : s.SameReceive s' := by
  cases ethernetStep_move taken with
  | start op s' hpc taken => exact ethernetBegin_receive taken
  | discardEnd left caller => cases caller <;> exact ⟨rfl, rfl, rfl⟩
  | feed byte rest =>
    unfold processTcpByte
    split <;> exact ⟨rfl, rfl, rfl⟩
  | put rest =>
    unfold putCommand
    split <;> exact ⟨rfl, rfl, rfl⟩
  | _ => exact ⟨rfl, rfl, rfl⟩

/-- A valid frame is noted, and handled without touching the receive side any more. -/
theorem handleRs422Frame_receive (s : Gateway) :
    s.noteRs422Frame.SameReceive s.handleRs422Frame := by
  obtain ⟨queue, success, fail, htelemetry⟩ := enqueueTelemetry_eq s.noteRs422Frame
  obtain ⟨received, hmatching⟩ := noteMatchingPong_eq s.noteRs422Frame.enqueueTelemetry
  unfold handleRs422Frame handlePong enqueueResponse
  rw [hmatching, htelemetry]
  split
  · split <;> exact ⟨rfl, rfl, rfl⟩
  · exact ⟨rfl, rfl, rfl⟩

/-- A byte of a stream of whole frames: what is parsed of TELEMETRY and what is still to come are
    together the same. -/
theorem processRxByte_telemetry (h : s.Parses) (byte : UInt8) {rest : List UInt8}
    {ms : List Message} (hexpects : s.rs422Parser.Expects (byte :: rest) ms) :
    ∃ later, (s.processRxByte byte).rs422Parser.Expects rest later ∧
      (s.processRxByte byte).rxRing = s.rxRing ∧
      (s.processRxByte byte).history.telemetryFrames ++ (telemetryOf later).map Message.wire =
        s.history.telemetryFrames ++ (telemetryOf ms).map Message.wire := by
  obtain ⟨-, hfeed⟩ := hexpects.feedByte s.rs422ReceivedPacket
  unfold processRxByte
  rcases hfeed with ⟨hevent, -, hexpects'⟩ | ⟨m, later, rfl, hevent, hpacket, hexpects'⟩
  · have hno : s.rs422Event byte ≠ .frame := by
      intro hframe
      cases hevent.symm.trans hframe
    rw [if_neg hno]
    exact ⟨ms, hexpects', rfl, rfl⟩
  · have hyes : s.rs422Event byte = .frame := hevent
    rw [if_pos hyes]
    have hreceive := (s.feedRs422 byte).handleRs422Frame_receive
    have hreceived : (s.feedRs422 byte).rs422ReceivedPacket = m.packet s.rs422ReceivedPacket :=
      hpacket
    have hframe : deliveredFrame (s.feedRs422 byte).rs422ReceivedPacket
        (s.feedRs422 byte).history.rs422Bytes = m.wire := by
      have hdelivered := (deliveredFrame_feedByte h.rs422 hevent).2
      rw [hpacket, ProtocolPacket.wire, Message.packet_message] at hdelivered
      rw [hreceived]
      exact hdelivered
    refine ⟨later, ?_, hreceive.rxRing, ?_⟩
    · rw [hreceive.rs422Parser]
      exact hexpects'
    · have hid : (s.feedRs422 byte).rs422ReceivedPacket.msgId = m.msgId := by
        rw [hreceived]
        rfl
      rw [hreceive.telemetryFrames]
      simp only [noteRs422Frame, hframe, hid]
      by_cases htelemetry : m.msgId = msgTelemetry
      · rw [if_pos htelemetry, telemetryOf, telemetryOf,
          List.filter_cons_of_pos (by simpa using htelemetry), List.map_cons, List.append_assoc]
        rfl
      · rw [if_neg htelemetry, telemetryOf, telemetryOf,
          List.filter_cons_of_neg (by simpa using htelemetry)]
        rfl

end Gateway

/-! ## The path -/

namespace TelemetryPath

/-- What has been sampled, what is on the line and what the gateway has parsed of it. -/
structure Carrying (s : TelemetryPath) : Prop where
  node : ∃ held reports failed, s.node.Tracks held reports failed
  numbered : s.node.telemetrySeq = UInt16.ofNat s.samples.length
  seqs : s.samples.map TelemetrySample.seq =
    (List.range s.samples.length).map fun k => UInt16.ofNat (k + 1)
  parses : s.gateway.Parses
  relaying : s.gateway.Relaying
  line : ∃ ms, s.gateway.rs422Parser.Expects (s.gateway.rxRing ++ s.line) ms ∧
    s.gateway.history.telemetryFrames ++ (telemetryOf ms).map Message.wire <+
      s.samples.map fun t => t.message.wire

namespace Carrying

variable {s : TelemetryPath}

theorem initial (start : UInt32) : (TelemetryPath.initial start).Carrying where
  node := ⟨_, _, _, RemoteNode.init_tracks start⟩
  numbered := rfl
  seqs := rfl
  parses := .initial
  relaying := .initial
  line := ⟨[], StreamParser.expects_nil StreamParser.init_represents, .slnil⟩

/-- A function of the remote node is called. -/
theorem node_call (h : s.Carrying) (c : NodeCall) {cuts : List Nat}
    (hcuts : ∀ cut ∈ cuts, cut = 0) :
    Carrying
      { s with
        node := (s.node.call c).1
        line := s.line ++ lineBytes (s.node.call c).2 cuts
        samples := s.samples ++ s.node.sampled c } := by
  obtain ⟨held, reports, failed, htracks⟩ := h.node
  obtain ⟨ms, hexpects, hsub⟩ := h.line
  obtain ⟨sent, hbytes, hsent⟩ := RemoteNode.call_carries htracks c
  rw [lineBytes_zero _ hcuts]
  have hline : ∃ ms, s.gateway.rs422Parser.Expects
      (s.gateway.rxRing ++ (s.line ++ lineBytes (s.node.call c).2 [])) ms ∧
      s.gateway.history.telemetryFrames ++ (telemetryOf ms).map Message.wire <+
        (s.samples ++ s.node.sampled c).map fun t => t.message.wire := by
    refine ⟨ms ++ sent, ?_, ?_⟩
    · rw [← List.append_assoc, hbytes]
      exact hexpects.append_all sent
    · rw [telemetryOf_append, List.map_append, List.map_append, ← List.append_assoc]
      refine hsub.append ?_
      have hmap := hsent.map Message.wire
      rwa [List.map_map] at hmap
  rcases RemoteNode.call_sampled htracks c with ⟨hnone, hseq⟩ | ⟨t, hone, ht, hseq⟩
  · rw [hnone, List.append_nil] at hline ⊢
    exact
      { h with
        node := ⟨_, _, _, htracks.call c⟩
        numbered := hseq.trans h.numbered
        line := hline }
  · rw [hone] at hline ⊢
    have hnext : s.node.telemetrySeq + 1 = UInt16.ofNat (s.samples.length + 1) := by
      rw [h.numbered, UInt16.ofNat_add]
      rfl
    refine
      { h with
        node := ⟨_, _, _, htracks.call c⟩
        numbered := ?_
        seqs := ?_
        line := hline }
    · rw [List.length_append]
      exact hseq.trans hnext
    · rw [List.map_append, h.seqs, List.length_append, List.length_singleton, List.range_succ,
        List.map_append, List.map_singleton, List.map_singleton, ht, hnext]

/-- The gateway leaves the receive side of RS-422 alone. -/
theorem quiet (h : s.Carrying) {g : Gateway} (parses : g.Parses) (relaying : g.Relaying)
    (same : s.gateway.SameReceive g) : Carrying { s with gateway := g } := by
  refine { h with parses := parses, relaying := relaying, line := ?_ }
  rw [same.rs422Parser, same.rxRing, same.telemetryFrames]
  exact h.line

/-- A step of the gateway that takes no byte of the line. -/
theorem gateway_step (h : s.Carrying) {g : Gateway} {a : GatewayAction}
    (hinside : ∀ byte, a ≠ .uartRx byte) (taken : s.gateway.step a = some g) :
    Carrying { s with gateway := g } := by
  have parses := h.parses.step taken
  have relaying := h.relaying.step h.parses taken
  cases a with
  | rs422 hal late =>
    rcases Gateway.rs422Step_receive taken with hsame | ⟨byte, rest, ring, rfl⟩
    · exact h.quiet parses relaying hsame
    · obtain ⟨ms, hexpects, hsub⟩ := h.line
      rw [ring, List.cons_append] at hexpects
      have hpop : Gateway.Parses { s.gateway with rxRing := rest } := { h.parses with }
      obtain ⟨later, hexpects', hring, hframes⟩ :=
        Gateway.processRxByte_telemetry hpop byte hexpects
      refine { h with parses := parses, relaying := relaying, line := ⟨later, ?_, ?_⟩ }
      · rw [hring]
        exact hexpects'
      · rw [hframes]
        exact hsub
  | ethernet op hal =>
    simp only [Gateway.step] at taken
    split at taken
    · exact h.quiet parses relaying (Gateway.ethernetStep_receive taken)
    · cases taken
  | uartRx byte => exact absurd rfl (hinside byte)
  | uartError =>
    cases taken
    exact h.quiet parses relaying ⟨rfl, rfl, rfl⟩
  | uartTxDone =>
    cases taken
    exact h.quiet parses relaying ⟨rfl, rfl, rfl⟩

/-- The next byte of the line is put on the RX ring. -/
theorem arrive (h : s.Carrying) {byte : UInt8} {rest : List UInt8} (hline : s.line = byte :: rest)
    (room : s.gateway.rxRing.length < rs422RxRingCapacity) :
    Carrying { s with line := rest, gateway := s.gateway.uartRxCpltCallback byte } := by
  have taken : s.gateway.step (.uartRx byte) = some (s.gateway.uartRxCpltCallback byte) := rfl
  obtain ⟨ms, hexpects, hsub⟩ := h.line
  refine
    { h with
      parses := h.parses.step taken
      relaying := h.relaying.step h.parses taken
      line := ⟨ms, ?_, hsub⟩ }
  rw [hline] at hexpects
  simp only [Gateway.uartRxCpltCallback, if_pos room, List.append_assoc, List.singleton_append]
  exact hexpects

theorem step {s' : TelemetryPath} {a : TelemetryAction} (h : s.Carrying) (allowed : s.Lossless a)
    (taken : s.step a = some s') : s'.Carrying := by
  cases a with
  | node c cuts =>
    cases taken
    exact h.node_call c allowed
  | arrive =>
    simp only [TelemetryPath.step] at taken
    split at taken
    case h_1 => cases taken
    case h_2 byte rest hline =>
      cases taken
      exact h.arrive hline allowed
  | lose => cases allowed
  | gateway a =>
    obtain ⟨g, hg, rfl⟩ := Option.map_eq_some_iff.mp taken
    refine h.gateway_step ?_ hg
    rintro byte rfl
    exact allowed

/-- The datagrams are those of some samples, in order. -/
theorem datagrams (h : s.Carrying) {received : List (List UInt8)}
    (hreceived : received <+ s.gateway.history.udpFrames) :
    ∃ kept : List TelemetrySample, kept <+ s.samples ∧
      received = kept.map fun t => t.datagram.bytes := by
  obtain ⟨ms, -, hsub⟩ := h.line
  have hparsed : s.gateway.history.telemetryFrames <+ s.samples.map fun t => t.message.wire :=
    (List.sublist_append_left _ _).trans hsub
  have hsent : s.gateway.history.udpFrames <+ s.gateway.history.telemetryFrames :=
    h.relaying.telemetry.sent_sublist
  exact List.sublist_map_iff.mp ((hreceived.trans hsent).trans hparsed)

end Carrying

theorem carrying {start : UInt32} {s : TelemetryPath}
    (run : Reachable TelemetryPath.step Lossless (TelemetryPath.initial start) s) : s.Carrying :=
  run.invariant (.initial start) fun _ _ _ h allowed taken => h.step allowed taken

end TelemetryPath

end Rs422Gateway
