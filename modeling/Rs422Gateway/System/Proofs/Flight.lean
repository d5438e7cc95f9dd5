import Rs422Gateway.Gateway.Proofs.Serving
import Rs422Gateway.RemoteNode.Proofs.Replies
import Rs422Gateway.System.LockStep

/-!
# The PING in flight

At every moment the PINGs of the client that are not answered yet are on their way, as a PING or
already as a PONG, and there is at most one of them. `InFlight start s f` says where: `f` splits
what is on the wires, and the gateway holds the rest.
-/

namespace Rs422Gateway

/-- The bytes of the chunk that EthernetTask has not fed yet. -/
def EthernetPc.unfed : EthernetPc → List UInt8
  | .feed bytes | .put bytes | .putCount _ bytes | .signal bytes => bytes
  | _ => []

/-- The packet has been decoded from a frame without payload. -/
def DecodedEmpty (msgId : UInt8) (p : ProtocolPacket) : Prop :=
  ∃ seq q, p = (emptyMessage msgId seq).packet q

namespace DecodedEmpty

variable {msgId : UInt8} {p : ProtocolPacket}

theorem msgId_eq (h : DecodedEmpty msgId p) : p.msgId = msgId := by
  obtain ⟨seq, q, rfl⟩ := h
  rfl

theorem encodable (h : DecodedEmpty msgId p) : p.Encodable := by
  obtain ⟨seq, q, rfl⟩ := h
  exact Message.packet_encodable _ _

theorem wire_eq (h : DecodedEmpty msgId p) : p.wire = (emptyMessage msgId p.seq).wire := by
  obtain ⟨seq, q, rfl⟩ := h
  exact congrArg Message.wire (Message.packet_message _ _)

end DecodedEmpty

theorem emptyFrame_eq (msgId : UInt8) (seq : UInt16) :
    emptyFrame msgId seq = (emptyMessage msgId seq).wire := by
  rw [emptyFrame, encodeFrame_filledPacket (Nat.zero_le _)]
  rfl

/-- The SEQs of the PONGs among the frames on the line to the gateway. -/
def pongSeqs (ms : List Message) : List UInt16 :=
  (ms.filter fun m => m.msgId = msgPong).map Message.seq

theorem pongSeqs_append (ms later : List Message) :
    pongSeqs (ms ++ later) = pongSeqs ms ++ pongSeqs later := by
  rw [pongSeqs, List.filter_append, List.map_append]
  rfl

theorem pongSeqs_pong (seq : UInt16) (later : List Message) :
    pongSeqs (emptyMessage msgPong seq :: later) = seq :: pongSeqs later := rfl

theorem RemoteNode.Periodic.not_pong {m : Message} (h : RemoteNode.Periodic m) :
    m.msgId ≠ msgPong := by
  intro hpong
  rcases h with htelemetry | hheartbeat
  · exact absurd (htelemetry.symm.trans hpong) (by decide)
  · exact absurd (hheartbeat.symm.trans hpong) (by decide)

theorem pongSeqs_periodic {ms : List Message} (h : ∀ m ∈ ms, RemoteNode.Periodic m) :
    pongSeqs ms = [] := by
  rw [pongSeqs, List.map_eq_nil_iff, List.filter_eq_nil_iff]
  intro m hm
  simpa using (h m hm).not_pong

theorem pongSeqs_pongs (seqs : List UInt16) :
    pongSeqs (seqs.map (emptyMessage msgPong)) = seqs := by
  induction seqs with
  | nil => rfl
  | cons seq seqs ih =>
    rw [List.map_cons, pongSeqs_pong, ih]

/-- What is on the wires. -/
structure Flight where
  /-- The SEQs of the PONGs that the client has. -/
  answered : List UInt16
  /-- The frames `g_rs422_parser` has not delivered yet. -/
  toGateway : List Message
  /-- The SEQs of the PINGs the parser of the remote node has not delivered yet. -/
  toNode : List UInt16
  /-- Those `g_tcp_parser` has not delivered yet. -/
  toTcp : List UInt16

/-- The SEQs of the PINGs that are not answered yet, the oldest first. -/
def Flight.outstanding (f : Flight) (g : Gateway) : List UInt16 :=
  g.pongs.map ProtocolPacket.seq ++ (pongSeqs f.toGateway ++ (f.toNode ++
    (g.pings.map ProtocolPacket.seq ++ f.toTcp)))

/-- What `rs422_forward_packet` has prepared for the command in hand. -/
structure Gateway.Prepared (g : Gateway) : Prop where
  txFrame : g.rs422.pc.armed = true → g.rs422TxFrame = g.rs422Command.packet.wire
  slot : g.rs422.pc = .forwardTransmit →
    g.tcpPingPending = true ∧ g.tcpPingPendingSeq = g.rs422Command.packet.seq

theorem Gateway.Prepared.of_released {g : Gateway} (h : g.rs422.pc.holding = false) :
    g.Prepared where
  txFrame := by
    intro harmed
    have hholding := Rs422Pc.holding_of_armed harmed
    rw [h] at hholding
    cases hholding
  slot := by
    intro hpc
    rw [hpc] at h
    cases h

/-- The PINGs of the client and their PONGs are where `f` says. -/
structure InFlight (start s : System) (f : Flight) : Prop where
  serving : s.gateway.Serving
  prepared : s.gateway.Prepared
  sent : f.answered ++ f.outstanding s.gateway = s.sent
  single : (f.outstanding s.gateway).length ≤ 1
  client : s.client = f.answered.flatMap (emptyFrame msgPong)
  inbox : f.outstanding s.gateway ≠ [] → s.inbox = []
  tcp : s.gateway.tcpParser.Expects (s.gateway.ethernet.unfed ++ s.toTcp)
    (f.toTcp.map (emptyMessage msgPing))
  node : s.node.parser.Expects s.toNode (f.toNode.map (emptyMessage msgPing))
  rs422 : s.gateway.rs422Parser.Expects (s.gateway.rxRing ++ s.toGateway) f.toGateway
  replies : ∀ m ∈ f.toGateway, m = emptyMessage msgPong m.seq ∨ RemoteNode.Periodic m
  pings : ∀ p ∈ s.gateway.pings, DecodedEmpty msgPing p
  pongs : ∀ p ∈ s.gateway.pongs, DecodedEmpty msgPong p
  slot : ∀ seq ∈ pongSeqs f.toGateway ++ f.toNode,
    s.gateway.tcpPingPending = true ∧ s.gateway.tcpPingPendingSeq = seq
  tcpErrors : s.gateway.tcpParser.SameErrors start.gateway.tcpParser
  rs422Errors : s.gateway.rs422Parser.SameErrors start.gateway.rs422Parser
  nodeErrors : s.node.parser.SameErrors start.node.parser

/-- Two states of the gateway hold the same frames. -/
structure Gateway.SameCargo (g g' : Gateway) : Prop where
  pings : g'.pings = g.pings
  pongs : g'.pongs = g.pongs
  unfed : g'.ethernet.unfed = g.ethernet.unfed
  rxRing : g'.rxRing = g.rxRing
  tcpParser : g'.tcpParser = g.tcpParser
  rs422Parser : g'.rs422Parser = g.rs422Parser
  pending : g'.tcpPingPending = g.tcpPingPending
  pendingSeq : g'.tcpPingPendingSeq = g.tcpPingPendingSeq

namespace System

variable {s : System} {g : Gateway}

theorem newBytes_nil {before after : List (List UInt8)} (h : after = before) :
    newBytes before after = [] := by
  rw [newBytes, h, List.drop_length]
  rfl

theorem newBytes_frame {before after : List (List UInt8)} {frame : List UInt8}
    (h : after = before ++ [frame]) : newBytes before after = frame := by
  rw [newBytes, h, List.drop_left, List.flatten_singleton]

theorem advance_quiet (htx : g.history.txFrames = s.gateway.history.txFrames)
    (htcp : g.history.tcpFrames = s.gateway.history.tcpFrames) :
    s.advance g = { s with gateway := g } := by
  simp only [advance, newBytes_nil htx, newBytes_nil htcp, List.append_nil]

theorem advance_transmit {frame : List UInt8}
    (htx : g.history.txFrames = s.gateway.history.txFrames ++ [frame])
    (htcp : g.history.tcpFrames = s.gateway.history.tcpFrames) :
    s.advance g = { s with gateway := g, toNode := s.toNode ++ frame } := by
  simp only [advance, newBytes_frame htx, newBytes_nil htcp, List.append_nil]

theorem advance_send {frame : List UInt8}
    (htx : g.history.txFrames = s.gateway.history.txFrames)
    (htcp : g.history.tcpFrames = s.gateway.history.tcpFrames ++ [frame]) :
    s.advance g =
      { s with gateway := g, client := s.client ++ frame, inbox := s.inbox ++ frame } := by
  simp only [advance, newBytes_nil htx, newBytes_frame htcp, List.append_nil]

end System

namespace InFlight

open Gateway

variable {start s : System} {f : Flight}

/-- A step that moves no frame. -/
theorem keep (h : InFlight start s f) {g : Gateway} (serving : g.Serving) (prepared : g.Prepared)
    (same : s.gateway.SameCargo g) : InFlight start { s with gateway := g } f := by
  have houtstanding : f.outstanding g = f.outstanding s.gateway := by
    rw [Flight.outstanding, Flight.outstanding, same.pings, same.pongs]
  exact
    { h with
      serving := serving
      prepared := prepared
      sent := by rw [houtstanding]; exact h.sent
      single := by rw [houtstanding]; exact h.single
      inbox := by rw [houtstanding]; exact h.inbox
      tcp := by rw [same.tcpParser, same.unfed]; exact h.tcp
      rs422 := by rw [same.rs422Parser, same.rxRing]; exact h.rs422
      pings := by rw [same.pings]; exact h.pings
      pongs := by rw [same.pongs]; exact h.pongs
      slot := by rw [same.pending, same.pendingSeq]; exact h.slot
      tcpErrors := by rw [same.tcpParser]; exact h.tcpErrors
      rs422Errors := by rw [same.rs422Parser]; exact h.rs422Errors }

/-- A step of the gateway that sends nothing. -/
theorem silent {g : Gateway} (h : InFlight start { s with gateway := g } f)
    (htx : g.history.txFrames = s.gateway.history.txFrames)
    (htcp : g.history.tcpFrames = s.gateway.history.tcpFrames) :
    InFlight start (s.advance g) f := by
  rw [System.advance_quiet htx htcp]
  exact h

/-- A step of the gateway that transmits a frame. -/
theorem transmitted {g : Gateway} {frame : List UInt8}
    (h : InFlight start { s with gateway := g, toNode := s.toNode ++ frame } f)
    (htx : g.history.txFrames = s.gateway.history.txFrames ++ [frame])
    (htcp : g.history.tcpFrames = s.gateway.history.tcpFrames) :
    InFlight start (s.advance g) f := by
  rw [System.advance_transmit htx htcp]
  exact h

/-- A step of the gateway that sends a frame on TCP. -/
theorem sentOnTcp {g : Gateway} {frame : List UInt8}
    (h : InFlight start
      { s with gateway := g, client := s.client ++ frame, inbox := s.inbox ++ frame } f)
    (htx : g.history.txFrames = s.gateway.history.txFrames)
    (htcp : g.history.tcpFrames = s.gateway.history.tcpFrames ++ [frame]) :
    InFlight start (s.advance g) f := by
  rw [System.advance_send htx htcp]
  exact h

/-! ## RS422Task -/

/-- The command in hand is a PING. -/
theorem command (h : InFlight start s f) (holds : s.gateway.rs422.pc.holding = true) :
    DecodedEmpty msgPing s.gateway.rs422Command.packet := by
  apply h.pings
  rw [pings_of_holding holds]
  exact List.mem_cons_self

/-- While a PING is in the gateway, no frame of the client is on the wires of RS-422. -/
theorem wires_nil (h : InFlight start s f) (holds : s.gateway.rs422.pc.holding = true) :
    pongSeqs f.toGateway ++ f.toNode = [] := by
  have hsingle := h.single
  rw [Flight.outstanding, pings_of_holding holds] at hsingle
  simp only [List.length_append, List.length_map, List.length_cons] at hsingle
  apply List.eq_nil_of_length_eq_zero
  rw [List.length_append]
  omega

/-- RS422Task goes on without a command in hand. -/
theorem quiet (h : InFlight start s f) {task : Rs422Task} {flags : Rs422Flags} {busy : Bool}
    {history : History} (released : s.gateway.rs422.pc.holding = false)
    (releases : task.pc.holding = false)
    (serving : Serving
      { s.gateway with rs422 := task, flags := flags, rs422TxBusy := busy, history := history }) :
    InFlight start
      { s with
        gateway :=
          { s.gateway with
            rs422 := task, flags := flags, rs422TxBusy := busy, history := history } } f := by
  refine h.keep serving (.of_released releases) ⟨?_, rfl, rfl, rfl, rfl, rfl, rfl, rfl⟩
  rw [pings_of_released releases, pings_of_released released]
  rfl

/-- The next command is taken from `rs422_cmd_queue`. -/
theorem dequeue (h : InFlight start s f) {packet : Command} {rest : List Command}
    {counts : GatewayCounts} (hpc : s.gateway.rs422.pc = .dequeue)
    (hqueue : s.gateway.cmdQueue = packet :: rest)
    (serving : Serving
      ({ s.gateway with cmdQueue := rest, rs422Command := packet, counts := counts }.rs422Goto
        .forward)) :
    InFlight start
      { s with
        gateway :=
          { s.gateway with cmdQueue := rest, rs422Command := packet, counts := counts }.rs422Goto
            .forward } f := by
  refine h.keep serving ⟨nofun, nofun⟩ ⟨?_, rfl, rfl, rfl, rfl, rfl, rfl, rfl⟩
  rw [pings_of_holding rfl, pings_of_released (by rw [hpc]; rfl), queuedPings, queuedPings, hqueue]
  rfl

/-- The frame of the command is encoded. -/
theorem arm (h : InFlight start s f) {frame : List UInt8} {flags : Rs422Flags}
    (hpc : s.gateway.rs422.pc = .forward)
    (hframe : encodeFrame s.gateway.rs422Command.packet = some frame)
    (serving : Serving
      ({ s.gateway with rs422TxFrame := frame, flags := flags }.rs422Goto .forwardPending)) :
    InFlight start
      { s with
        gateway :=
          { s.gateway with rs422TxFrame := frame, flags := flags }.rs422Goto .forwardPending }
      f := by
  refine h.keep serving ⟨fun _ => wire_of_encodeFrame hframe, nofun⟩
    ⟨?_, rfl, rfl, rfl, rfl, rfl, rfl, rfl⟩
  rw [pings_of_holding rfl, pings_of_holding (by rw [hpc]; rfl)]
  rfl

/-- The pending slot is taken for the command. -/
theorem mark (h : InFlight start s f) (hpc : s.gateway.rs422.pc = .forwardPending)
    (serving : Serving (s.gateway.markPending.rs422Goto .forwardTransmit)) :
    InFlight start
      { s with gateway := s.gateway.markPending.rs422Goto .forwardTransmit } f := by
  have holds : s.gateway.rs422.pc.holding = true := by rw [hpc]; rfl
  have hmark : s.gateway.markPending = _ :=
    if_pos ⟨(h.command holds).msgId_eq, h.serving.session⟩
  have hframe := h.prepared.txFrame (by rw [hpc]; rfl)
  rw [hmark] at serving ⊢
  have hpings : s.gateway.pings = s.gateway.rs422Command.packet :: s.gateway.queuedPings :=
    pings_of_holding holds
  have hsent := h.sent
  have hsingle := h.single
  have hinbox := h.inbox
  have hall := h.pings
  rw [Flight.outstanding, hpings] at hsent hsingle hinbox
  rw [hpings] at hall
  refine
    { h with
      serving := serving
      prepared := ⟨fun _ => hframe, fun _ => ⟨rfl, rfl⟩⟩
      sent := hsent
      single := hsingle
      inbox := hinbox
      pings := hall
      slot := ?_ }
  rw [h.wires_nil holds]
  nofun

/-- The command is transmitted. -/
theorem transmit (h : InFlight start s f) {task : Rs422Task} {history : History}
    (hpc : s.gateway.rs422.pc = .forwardTransmit) (releases : task.pc.holding = false)
    (serving : Serving
      { s.gateway with rs422 := task, rs422TxBusy := true, history := history }) :
    InFlight start
      { s with
        gateway := { s.gateway with rs422 := task, rs422TxBusy := true, history := history }
        toNode := s.toNode ++ s.gateway.rs422TxFrame }
      { f with toNode := f.toNode ++ [s.gateway.rs422Command.packet.seq] } := by
  have holds : s.gateway.rs422.pc.holding = true := by rw [hpc]; rfl
  have hpings : s.gateway.pings = s.gateway.rs422Command.packet :: s.gateway.queuedPings :=
    pings_of_holding holds
  have hpings' : Gateway.pings
      { s.gateway with rs422 := task, rs422TxBusy := true, history := history } =
        s.gateway.queuedPings := pings_of_released releases
  have houtstanding : Flight.outstanding
      { f with toNode := f.toNode ++ [s.gateway.rs422Command.packet.seq] }
      { s.gateway with rs422 := task, rs422TxBusy := true, history := history } =
        f.outstanding s.gateway := by
    rw [Flight.outstanding, Flight.outstanding, hpings, hpings', List.map_cons, List.append_assoc]
    rfl
  have hframe : s.gateway.rs422TxFrame =
      (emptyMessage msgPing s.gateway.rs422Command.packet.seq).wire :=
    (h.prepared.txFrame (by rw [hpc]; rfl)).trans (h.command holds).wire_eq
  refine
    { h with
      serving := serving
      prepared := .of_released releases
      sent := by rw [houtstanding]; exact h.sent
      single := by rw [houtstanding]; exact h.single
      inbox := by rw [houtstanding]; exact h.inbox
      node := ?_
      pings := ?_
      slot := ?_ }
  · rw [hframe, List.map_append]
    exact h.node.append _
  · rw [hpings']
    intro p hp
    apply h.pings
    rw [hpings]
    exact List.mem_cons_of_mem _ hp
  · rw [← List.append_assoc, h.wires_nil holds]
    intro seq hseq
    obtain rfl : seq = s.gateway.rs422Command.packet.seq := List.mem_singleton.mp hseq
    exact h.prepared.slot hpc

/-- A byte that completes no frame. -/
theorem receiveInside (h : InFlight start s f) {g : Gateway} {parser : StreamParser}
    {packet : ProtocolPacket} {history : History} {rest : List UInt8}
    (hexpects : parser.Expects (rest ++ s.toGateway) f.toGateway)
    (herrors : parser.SameErrors s.gateway.rs422Parser)
    (hg : g =
      { s.gateway with
        rxRing := rest, rs422Parser := parser, rs422ReceivedPacket := packet, history := history })
    (serving : g.Serving) : InFlight start { s with gateway := g } f := by
  subst hg
  exact
    { h with
      serving := serving
      prepared := { h.prepared with }
      rs422 := hexpects
      rs422Errors := herrors.trans h.rs422Errors }

/-- A TELEMETRY or HEARTBEAT is delivered. -/
theorem receivePeriodic (h : InFlight start s f) {g : Gateway} {parser : StreamParser}
    {packet : ProtocolPacket} {queue : List ProtocolPacket} {counts : GatewayCounts}
    {history : History} {rest : List UInt8} {m : Message} {later : List Message}
    (hms : f.toGateway = m :: later) (hne : m.msgId ≠ msgPong)
    (hexpects : parser.Expects (rest ++ s.toGateway) later)
    (herrors : parser.SameErrors s.gateway.rs422Parser)
    (hg : g =
      { s.gateway with
        rxRing := rest, rs422Parser := parser, rs422ReceivedPacket := packet
        udpTelemetryQueue := queue, counts := counts, history := history })
    (serving : g.Serving) :
    InFlight start { s with gateway := g } { f with toGateway := later } := by
  subst hg
  have hseqs : pongSeqs f.toGateway = pongSeqs later := by
    rw [hms, pongSeqs, List.filter_cons_of_neg (by simpa using hne)]
    rfl
  have hsent := h.sent
  have hsingle := h.single
  have hinbox := h.inbox
  have hslot := h.slot
  rw [Flight.outstanding, hseqs] at hsent hsingle hinbox
  rw [hseqs] at hslot
  exact
    { h with
      serving := serving
      prepared := { h.prepared with }
      sent := hsent
      single := hsingle
      inbox := hinbox
      rs422 := hexpects
      replies := fun m' hm' => h.replies m' (by rw [hms]; exact List.mem_cons_of_mem _ hm')
      slot := hslot
      rs422Errors := herrors.trans h.rs422Errors }

/-- A PONG is delivered and goes to `tcp_response_queue`. -/
theorem receivePong (h : InFlight start s f) {g : Gateway} {parser : StreamParser}
    {q : ProtocolPacket} {counts : GatewayCounts} {history : History} {task : Rs422Task}
    {rest : List UInt8} {seq : UInt16} {later : List Message} {request : Command}
    (hms : f.toGateway = emptyMessage msgPong seq :: later)
    (releases : s.gateway.rs422.pc.holding = false) (hpc : task.pc = s.gateway.rs422.pc)
    (hexpects : parser.Expects (rest ++ s.toGateway) later)
    (herrors : parser.SameErrors s.gateway.rs422Parser)
    (hg : g =
      { s.gateway with
        rxRing := rest
        rs422Parser := parser
        rs422ReceivedPacket := (emptyMessage msgPong seq).packet q
        rs422 := task
        tcpPingPending := false
        tcpResponseQueue :=
          s.gateway.tcpResponseQueue ++ [⟨(emptyMessage msgPong seq).packet q, request⟩]
        counts := counts
        history := history })
    (serving : g.Serving) :
    InFlight start { s with gateway := g } { f with toGateway := later } := by
  have released : g.rs422.pc.holding = false := by rw [hg, hpc]; exact releases
  have hpings : g.pings = s.gateway.pings := by
    rw [pings_of_released released, pings_of_released releases, hg]
    rfl
  have hpongs : g.pongs = s.gateway.pongs ++ [(emptyMessage msgPong seq).packet q] := by
    rw [hg, Gateway.pongs, Gateway.pongs, List.map_append, List.append_assoc]
    rfl
  have houtstanding : Flight.outstanding { f with toGateway := later } g =
      f.outstanding s.gateway := by
    rw [Flight.outstanding, Flight.outstanding, hms, hpings, hpongs, pongSeqs_pong, List.map_append,
      List.append_assoc]
    rfl
  have hnil : pongSeqs later ++ f.toNode = [] := by
    have hsingle := h.single
    rw [Flight.outstanding, hms, pongSeqs_pong] at hsingle
    simp only [List.length_append, List.length_map, List.length_cons] at hsingle
    apply List.eq_nil_of_length_eq_zero
    rw [List.length_append]
    omega
  subst hg
  refine
    { h with
      serving := serving
      prepared := .of_released released
      sent := by rw [houtstanding]; exact h.sent
      single := by rw [houtstanding]; exact h.single
      inbox := by rw [houtstanding]; exact h.inbox
      rs422 := hexpects
      replies := fun m' hm' => h.replies m' (by rw [hms]; exact List.mem_cons_of_mem _ hm')
      pings := by rw [hpings]; exact h.pings
      pongs := ?_
      slot := ?_
      rs422Errors := herrors.trans h.rs422Errors }
  · rw [hpongs]
    intro p hp
    rcases List.mem_append.mp hp with hp | hp
    · exact h.pongs p hp
    · exact ⟨seq, q, List.mem_singleton.mp hp⟩
  · rw [hnil]
    rintro _ ⟨⟩

/-- A byte of the RX ring. -/
theorem receive (h : InFlight start s f) {byte : UInt8} {rest : List UInt8}
    (released : s.gateway.rs422.pc.holding = false) (ring : s.gateway.rxRing = byte :: rest)
    (serving : ({ s.gateway with rxRing := rest }.processRxByte byte).Serving) :
    ∃ f', InFlight start
      (s.advance ({ s.gateway with rxRing := rest }.processRxByte byte)) f' := by
  have hexpects := h.rs422
  rw [ring, List.cons_append] at hexpects
  obtain ⟨herrors, hfeed⟩ := hexpects.feedByte s.gateway.rs422ReceivedPacket
  unfold Gateway.processRxByte at serving ⊢
  rcases hfeed with ⟨hevent, -, hexpects'⟩ | ⟨m, later, hms, hevent, hpacket, hexpects'⟩
  · have hno : ¬ Gateway.rs422Event { s.gateway with rxRing := rest } byte = .frame := by
      intro hframe
      cases hevent.symm.trans hframe
    rw [if_neg hno] at serving ⊢
    exact ⟨f, (h.receiveInside hexpects' herrors rfl serving).silent rfl rfl⟩
  · have hyes : Gateway.rs422Event { s.gateway with rxRing := rest } byte = .frame := hevent
    rw [if_pos hyes] at serving ⊢
    have hreceived :
        (Gateway.feedRs422 { s.gateway with rxRing := rest } byte).rs422ReceivedPacket =
          m.packet s.gateway.rs422ReceivedPacket := hpacket
    rcases h.replies m (by rw [hms]; exact List.mem_cons_self) with hpong | hperiodic
    · have hslot := h.slot m.seq
      rw [hms, hpong, pongSeqs_pong] at hslot
      obtain ⟨hpending, hseq⟩ := hslot List.mem_cons_self
      have hmatch : (Gateway.feedRs422 { s.gateway with rxRing := rest } byte).matchesPending := by
        refine ⟨?_, h.serving.session, hpending, ?_⟩
        · rw [hreceived, hpong]
          rfl
        · rw [hreceived]
          exact hseq.symm
      have room : s.gateway.tcpResponseQueue.length < tcpResponseQueueDepth := by
        have hsingle := h.single
        simp only [Flight.outstanding, Gateway.pongs, List.length_append, List.length_map]
          at hsingle
        simp only [tcpResponseQueueDepth]
        omega
      obtain ⟨task, counts, history, hg, hpc, -, htx, htcp⟩ :=
        Serving.handleRs422Frame_of_matchesPending hmatch room
      rw [hreceived, hpong] at hg
      rw [hpong] at hms
      exact ⟨_, (h.receivePong hms released hpc hexpects' herrors hg serving).silent
        (by rw [hg]; exact htx) (by rw [hg]; exact htcp)⟩
    · have hne :
          (Gateway.feedRs422 { s.gateway with rxRing := rest } byte).rs422ReceivedPacket.msgId ≠
            msgPong := by
        rw [hreceived]
        exact hperiodic.not_pong
      obtain ⟨queue, counts, history, hg, htx, htcp⟩ := Serving.handleRs422Frame_of_ne_pong hne
      exact ⟨_, (h.receivePeriodic hms hperiodic.not_pong hexpects' herrors hg serving).silent
        (by rw [hg]; exact htx) (by rw [hg]; exact htcp)⟩

/-- A step of RS422Task. -/
theorem rs422Step (h : InFlight start s f) {g : Gateway}
    (taken : s.gateway.rs422Step .ok false = some g) : ∃ f', InFlight start (s.advance g) f' := by
  have encodable : s.gateway.rs422.pc = .forward → s.gateway.rs422Command.packet.Encodable :=
    fun hpc => (h.command (by rw [hpc]; rfl)).encodable
  obtain ⟨serving, move⟩ := h.serving.rs422Step encodable taken
  cases move with
  | quiet task flags busy history released releases txFrames tcpFrames =>
    exact ⟨f, (h.quiet released releases serving).silent txFrames tcpFrames⟩
  | receive byte rest released ring => exact h.receive released ring serving
  | dequeue command rest hpc queue =>
    exact ⟨f, (h.dequeue hpc queue serving).silent rfl rfl⟩
  | arm frame hpc encoded =>
    exact ⟨f, (h.arm hpc encoded serving).silent rfl rfl⟩
  | mark hpc =>
    have hframes : s.gateway.markPending.history.txFrames = s.gateway.history.txFrames ∧
        s.gateway.markPending.history.tcpFrames = s.gateway.history.tcpFrames := by
      unfold markPending
      split <;> exact ⟨rfl, rfl⟩
    exact ⟨f, (h.mark hpc serving).silent hframes.1 hframes.2⟩
  | transmit hpc =>
    exact ⟨_, (h.transmit hpc rfl serving).transmitted rfl rfl⟩

end InFlight

end Rs422Gateway
