import Rs422Gateway.Misc.Transition
import Rs422Gateway.System.Proofs.Flight

/-!
# Every PING of a client in lock-step is answered

Whatever the order of the steps, the chunks and the frames between them, a drained system has sent
the client the PONGs of its PINGs, in order and nothing else, and no parser has reported an error.
-/

namespace Rs422Gateway

open Transition

namespace InFlight

open Gateway

variable {start s : System} {f : Flight}

/-! ## EthernetTask -/

/-- EthernetTask goes on and moves no PING or PONG. -/
theorem ethernetQuiet (h : InFlight start s f) {pc : EthernetPc} {counts : GatewayCounts}
    {cmdReady : Bool} {queue : List ProtocolPacket} {packet : ProtocolPacket} {history : History}
    (place : pc.serving = true) (unfed : pc.unfed = s.gateway.ethernet.unfed)
    (putting : pc.putting = s.gateway.ethernet.putting)
    (sending : pc.sending = s.gateway.ethernet.sending) :
    InFlight start
      { s with
        gateway :=
          { s.gateway with
            ethernet := pc
            counts := counts
            flags := { s.gateway.flags with cmdReady := cmdReady }
            udpTelemetryQueue := queue
            udpForwardPacket := packet
            history := history } } f := by
  refine h.keep { h.serving with ethernet := place } { h.prepared with }
    ⟨?_, ?_, unfed, rfl, rfl, rfl, rfl, rfl⟩
  · simp only [Gateway.pings, queuedPings, putting]
  · simp only [Gateway.pongs, sending]

/-- EthernetTask reads bytes of the client, or feeds one that completes no frame. -/
theorem tcpBytes (h : InFlight start s f) {g : Gateway} {parser : StreamParser}
    {packet : ProtocolPacket} {pc : EthernetPc} {history : History} {toTcp : List UInt8}
    (place : pc.serving = true) (putting : s.gateway.ethernet.putting = false)
    (putting' : pc.putting = false) (sending : pc.sending = s.gateway.ethernet.sending)
    (hexpects : parser.Expects (pc.unfed ++ toTcp) (f.toTcp.map (emptyMessage msgPing)))
    (herrors : parser.SameErrors s.gateway.tcpParser)
    (hg : g =
      { s.gateway with
        tcpParser := parser, tcpReceivedPacket := packet, ethernet := pc, history := history }) :
    InFlight start { s with gateway := g, toTcp := toTcp } f := by
  have hpings : g.pings = s.gateway.pings := by
    simp only [hg, Gateway.pings, queuedPings, putting, putting', inHand, Bool.false_eq_true,
      if_false]
  have hpongs : g.pongs = s.gateway.pongs := by
    simp only [hg, Gateway.pongs, sending]
  have houtstanding : f.outstanding g = f.outstanding s.gateway := by
    rw [Flight.outstanding, Flight.outstanding, hpings, hpongs]
  subst hg
  exact
    { h with
      serving := { h.serving with ethernet := place }
      prepared := { h.prepared with }
      sent := by rw [houtstanding]; exact h.sent
      single := by rw [houtstanding]; exact h.single
      inbox := by rw [houtstanding]; exact h.inbox
      tcp := hexpects
      pings := by rw [hpings]; exact h.pings
      pongs := by rw [hpongs]; exact h.pongs
      tcpErrors := herrors.trans h.tcpErrors }

/-- A PING is delivered. -/
theorem feedPing (h : InFlight start s f) {g : Gateway} {parser : StreamParser}
    {q : ProtocolPacket} {history : History} {byte : UInt8} {rest : List UInt8} {seq : UInt16}
    {later : List UInt16} (hpc : s.gateway.ethernet = .feed (byte :: rest))
    (hseqs : f.toTcp = seq :: later)
    (hexpects : parser.Expects (rest ++ s.toTcp) (later.map (emptyMessage msgPing)))
    (herrors : parser.SameErrors s.gateway.tcpParser)
    (hg : g =
      { s.gateway with
        tcpParser := parser, tcpReceivedPacket := (emptyMessage msgPing seq).packet q
        ethernet := .put rest, history := history }) :
    InFlight start { s with gateway := g } { f with toTcp := later } := by
  have hpings : g.pings = s.gateway.pings ++ [(emptyMessage msgPing seq).packet q] := by
    rw [hg, Gateway.pings, Gateway.pings, queuedPings, queuedPings, hpc]
    simp only [EthernetPc.putting, inHand, Bool.false_eq_true, if_false, if_true, List.append_assoc,
      List.append_nil]
  have hpongs : g.pongs = s.gateway.pongs := by
    rw [hg, Gateway.pongs, Gateway.pongs, hpc]
    rfl
  have houtstanding : Flight.outstanding { f with toTcp := later } g = f.outstanding s.gateway := by
    rw [Flight.outstanding, Flight.outstanding, hpings, hpongs, hseqs, List.map_append,
      List.append_assoc]
    rfl
  subst hg
  refine
    { h with
      serving := { h.serving with ethernet := rfl }
      prepared := { h.prepared with }
      sent := by rw [houtstanding]; exact h.sent
      single := by rw [houtstanding]; exact h.single
      inbox := by rw [houtstanding]; exact h.inbox
      tcp := hexpects
      pings := ?_
      pongs := by rw [hpongs]; exact h.pongs
      tcpErrors := herrors.trans h.tcpErrors }
  rw [hpings]
  intro p hp
  rcases List.mem_append.mp hp with hp | hp
  · exact h.pings p hp
  · exact ⟨seq, q, List.mem_singleton.mp hp⟩

/-- A byte of the chunk. -/
theorem feed (h : InFlight start s f) {byte : UInt8} {rest : List UInt8}
    (hpc : s.gateway.ethernet = .feed (byte :: rest)) :
    ∃ f', InFlight start (s.advance (s.gateway.processTcpByte byte rest)) f' := by
  have hexpects := h.tcp
  rw [hpc] at hexpects
  obtain ⟨herrors, hfeed⟩ := hexpects.feedByte s.gateway.tcpReceivedPacket
  unfold processTcpByte
  rcases hfeed with ⟨hevent, -, hexpects'⟩ | ⟨m, later, hms, hevent, hpacket, hexpects'⟩
  · have hno : ¬ (s.gateway.tcpEvent byte = .frame ∧
        (s.gateway.feedTcp byte).tcpReceivedPacket.msgId = msgPing) := by
      intro hframe
      cases hevent.symm.trans hframe.1
    rw [if_neg hno]
    refine ⟨f, silent (h.tcpBytes rfl ?_ rfl ?_ hexpects' herrors rfl) rfl rfl⟩ <;> rw [hpc] <;> rfl
  · obtain ⟨seq, left, hseqs, rfl, rfl⟩ := List.map_eq_cons_iff.mp hms
    have hreceived : (s.gateway.feedTcp byte).tcpReceivedPacket =
        (emptyMessage msgPing seq).packet s.gateway.tcpReceivedPacket := hpacket
    have hyes : s.gateway.tcpEvent byte = .frame ∧
        (s.gateway.feedTcp byte).tcpReceivedPacket.msgId = msgPing := by
      refine ⟨hevent, ?_⟩
      rw [hreceived]
      rfl
    have hg : (s.gateway.feedTcp byte).notePingFrame.ethernetGoto (.put rest) =
        { s.gateway with
          tcpParser := (s.gateway.feedTcp byte).tcpParser
          tcpReceivedPacket := (emptyMessage msgPing seq).packet s.gateway.tcpReceivedPacket
          ethernet := .put rest
          history := (s.gateway.feedTcp byte).notePingFrame.history } := by
      rw [← hreceived]
      rfl
    rw [if_pos hyes]
    exact ⟨_, (h.feedPing hpc hseqs hexpects' herrors hg).silent rfl rfl⟩

/-- The PING is put on `rs422_cmd_queue`, which has room. -/
theorem put (h : InFlight start s f) {rest : List UInt8}
    (hpc : s.gateway.ethernet = .put rest) :
    InFlight start (s.advance (s.gateway.countPing.putCommand rest)) f := by
  have hsingle := h.single
  simp only [Flight.outstanding, Gateway.pings, queuedPings, List.length_append,
    List.length_map] at hsingle
  have room : s.gateway.countPing.cmdQueue.length < rs422CmdQueueDepth := by
    show s.gateway.cmdQueue.length < 8
    omega
  unfold putCommand
  rw [if_pos room]
  apply InFlight.silent
  · refine h.keep { h.serving with ethernet := rfl } { h.prepared with }
      ⟨?_, ?_, ?_, rfl, rfl, rfl, rfl, rfl⟩
    · simp only [Gateway.pings, queuedPings, hpc, EthernetPc.putting, inHand, Bool.false_eq_true,
        if_false, if_true, List.map_append, List.append_nil]
      rfl
    · simp only [Gateway.pongs, hpc, EthernetPc.sending, inHand]
      rfl
    · simp only [hpc, EthernetPc.unfed]
  · rfl
  · rfl

/-- A response is taken from `tcp_response_queue`. -/
theorem drainPop (h : InFlight start s f) {left : Nat} {response : Response}
    {rest : List Response} (hpc : s.gateway.ethernet = .drain (left + 1))
    (hqueue : s.gateway.tcpResponseQueue = response :: rest) :
    InFlight start
      (s.advance
        ({ s.gateway with tcpResponseQueue := rest, tcpPong := response }.ethernetGoto
          (.drainCount left))) f := by
  apply InFlight.silent
  · refine h.keep { h.serving with ethernet := rfl } { h.prepared with }
      ⟨?_, ?_, ?_, rfl, rfl, rfl, rfl, rfl⟩
    · simp only [Gateway.pings, queuedPings, hpc, ethernetGoto, EthernetPc.putting]
    · simp only [Gateway.pongs, hpc, hqueue, ethernetGoto, EthernetPc.sending, inHand,
        Bool.false_eq_true, if_false, if_true, List.map_cons]
      rfl
    · simp only [hpc, ethernetGoto, EthernetPc.unfed]
  · rfl
  · rfl

/-- The PONG is sent to the client. -/
theorem send (h : InFlight start s f) {left : Nat} {frame : List UInt8}
    (hpc : s.gateway.ethernet = .send left)
    (hframe : encodeFrame s.gateway.tcpPong.packet = some frame) :
    ∃ f', InFlight start
      (s.advance ((s.gateway.noteTcpSend frame).ethernetGoto (.drain left))) f' := by
  have hpongs : s.gateway.pongs =
      s.gateway.tcpPong.packet :: s.gateway.tcpResponseQueue.map Response.packet := by
    rw [Gateway.pongs, hpc]
    rfl
  have hdecoded : DecodedEmpty msgPong s.gateway.tcpPong.packet := by
    apply h.pongs
    rw [hpongs]
    exact List.mem_cons_self
  have hwire : frame = emptyFrame msgPong s.gateway.tcpPong.packet.seq := by
    rw [wire_of_encodeFrame hframe, hdecoded.wire_eq, emptyFrame_eq]
  have hpings' : ((s.gateway.noteTcpSend frame).ethernetGoto (.drain left)).pings =
      s.gateway.pings := by
    simp only [Gateway.pings, queuedPings, hpc, ethernetGoto, EthernetPc.putting]
    rfl
  have hpongs' : ((s.gateway.noteTcpSend frame).ethernetGoto (.drain left)).pongs =
      s.gateway.tcpResponseQueue.map Response.packet := rfl
  have houtstanding : f.outstanding s.gateway = s.gateway.tcpPong.packet.seq ::
      f.outstanding ((s.gateway.noteTcpSend frame).ethernetGoto (.drain left)) := by
    rw [Flight.outstanding, Flight.outstanding, hpongs, hpongs', hpings']
    rfl
  have hnil : f.outstanding ((s.gateway.noteTcpSend frame).ethernetGoto (.drain left)) = [] := by
    have hsingle := h.single
    rw [houtstanding, List.length_cons] at hsingle
    apply List.eq_nil_of_length_eq_zero
    omega
  have hsent := h.sent
  rw [houtstanding] at hsent
  have htcp := h.tcp
  rw [hpc] at htcp
  refine ⟨{ f with answered := f.answered ++ [s.gateway.tcpPong.packet.seq] }, sentOnTcp ?_ rfl rfl⟩
  refine
    { h with
      serving := { h.serving with ethernet := rfl }
      prepared := { h.prepared with }
      sent := ?_
      single := ?_
      client := ?_
      inbox := fun hne => absurd hnil hne
      tcp := htcp
      pings := by rw [hpings']; exact h.pings
      pongs := ?_ }
  · rw [List.append_assoc]
    exact hsent
  · exact (congrArg List.length hnil).le.trans (Nat.zero_le 1)
  · rw [hwire, h.client, List.flatMap_append, List.flatMap_singleton]
  · rw [hpongs']
    intro p hp
    apply h.pongs
    rw [hpongs]
    exact List.mem_cons_of_mem _ hp

/-- EthernetTask is not at a place outside the session. -/
theorem not_serving (h : InFlight start s f) {pc : EthernetPc} (hpc : s.gateway.ethernet = pc)
    (hplace : pc.serving = false) : False := by
  have hserving := h.serving.ethernet
  rw [hpc, hplace] at hserving
  cases hserving

/-- EthernetTask begins a drain. -/
theorem ethernetBegin (h : InFlight start s f) {g : Gateway} {op : EthernetOp} {hal : HalStatus}
    (hop : op = .drain ∨ op = .drainTelemetry) (hpc : s.gateway.ethernet = .loop)
    (taken : s.gateway.ethernetStep op hal = some g) : InFlight start (s.advance g) f := by
  unfold Gateway.ethernetStep Gateway.ethernetBegin at taken
  rcases hop with rfl | rfl
  · simp only [hpc, h.serving.session, if_true] at taken
    cases taken
    refine silent (h.ethernetQuiet rfl ?_ ?_ ?_) rfl rfl <;> rw [hpc] <;> rfl
  · simp only [hpc] at taken
    cases taken
    refine silent (h.ethernetQuiet rfl ?_ ?_ ?_) rfl rfl <;> rw [hpc] <;> rfl

/-- A step of EthernetTask. It begins no other operation than a drain. -/
theorem ethernetStep (h : InFlight start s f) {g : Gateway} {op : EthernetOp} {hal : HalStatus}
    (hop : op = .drain ∨ op = .drainTelemetry) (taken : s.gateway.ethernetStep op hal = some g) :
    ∃ f', InFlight start (s.advance g) f' := by
  by_cases hloop : s.gateway.ethernet = .loop
  · exact ⟨f, h.ethernetBegin hop hloop taken⟩
  cases ethernetStep_move taken with
  | start op g hpc => exact absurd hpc hloop
  | invalidate hpc => exact (h.not_serving hpc rfl).elim
  | discardEnd left caller hpc => exact (h.not_serving hpc rfl).elim
  | discardPop left caller response rest hpc => exact (h.not_serving hpc rfl).elim
  | discardCount left caller hpc => exact (h.not_serving hpc rfl).elim
  | activate hpc => exact (h.not_serving hpc rfl).elim
  | feed byte rest hpc => exact h.feed hpc
  | put rest hpc => exact ⟨f, h.put hpc⟩
  | drainPop left response rest hpc queue => exact ⟨f, h.drainPop hpc queue⟩
  | send left frame hpc encoded => exact h.send hpc encoded
  | sendRefused left hpc encoded =>
    have hdecoded : DecodedEmpty msgPong s.gateway.tcpPong.packet := by
      apply h.pongs
      rw [Gateway.pongs, hpc]
      exact List.mem_cons_self
    rw [encodeFrame_of_encodable hdecoded.encodable] at encoded
    cases encoded
  | feedEnd hpc =>
    refine ⟨f, silent (h.ethernetQuiet rfl ?_ ?_ ?_) rfl rfl⟩ <;> rw [hpc] <;> rfl
  | putSuccess rest hpc =>
    refine ⟨f, silent (h.ethernetQuiet rfl ?_ ?_ ?_) rfl rfl⟩ <;> rw [hpc] <;> rfl
  | putFail rest hpc =>
    refine ⟨f, silent (h.ethernetQuiet rfl ?_ ?_ ?_) rfl rfl⟩ <;> rw [hpc] <;> rfl
  | signal rest hpc =>
    refine ⟨f, silent (h.ethernetQuiet rfl ?_ ?_ ?_) rfl rfl⟩ <;> rw [hpc] <;> rfl
  | drainEnd left hpc =>
    refine ⟨f, silent (h.ethernetQuiet rfl ?_ ?_ ?_) rfl rfl⟩ <;> rw [hpc] <;> rfl
  | drainCount left hpc =>
    refine ⟨f, silent (h.ethernetQuiet rfl ?_ ?_ ?_) rfl rfl⟩ <;> rw [hpc] <;> rfl
  | udpEnd left hpc =>
    refine ⟨f, silent (h.ethernetQuiet rfl ?_ ?_ ?_) rfl rfl⟩ <;> rw [hpc] <;> rfl
  | udpPop left packet rest hpc =>
    refine ⟨f, silent (h.ethernetQuiet rfl ?_ ?_ ?_) rfl rfl⟩ <;> rw [hpc] <;> rfl
  | udpCount left hpc =>
    refine ⟨f, silent (h.ethernetQuiet rfl ?_ ?_ ?_) rfl rfl⟩ <;> rw [hpc] <;> rfl
  | udpRefused left hpc =>
    refine ⟨f, silent (h.ethernetQuiet rfl ?_ ?_ ?_) rfl rfl⟩ <;> rw [hpc] <;> rfl
  | udpForward left frame next hpc after =>
    rcases after with rfl | rfl
    · refine ⟨f, silent (h.ethernetQuiet rfl ?_ ?_ ?_) rfl rfl⟩ <;> rw [hpc] <;> rfl
    · refine ⟨f, silent (h.ethernetQuiet rfl ?_ ?_ ?_) rfl rfl⟩ <;> rw [hpc] <;> rfl

/-- EthernetTask reads some bytes of the client. -/
theorem receiveTcp (h : InFlight start s f) {g : Gateway} (count : Nat)
    (hpc : s.gateway.ethernet = .loop)
    (taken : s.gateway.ethernetStep (.receive (s.toTcp.take count)) .ok = some g) :
    InFlight start ({ s with toTcp := s.toTcp.drop count }.advance g) f := by
  have hg : g = s.gateway.ethernetGoto (.feed (s.toTcp.take count)) := by
    unfold Gateway.ethernetStep Gateway.ethernetBegin at taken
    simp only [hpc, h.serving.session, if_true] at taken
    cases taken
    rfl
  have hexpects : s.gateway.tcpParser.Expects (s.toTcp.take count ++ s.toTcp.drop count)
      (f.toTcp.map (emptyMessage msgPing)) := by
    have htcp := h.tcp
    rw [hpc] at htcp
    rw [List.take_append_drop]
    exact htcp
  apply InFlight.silent
  · apply h.tcpBytes rfl ?_ rfl ?_ hexpects (.refl _) hg <;> rw [hpc] <;> rfl
  · rw [hg]
    rfl
  · rw [hg]
    rfl

/-! ## The lines -/

/-- A byte arrives at the RX ring, which has room. -/
theorem uartRx (h : InFlight start s f) {byte : UInt8} {rest : List UInt8}
    (hline : s.toGateway = byte :: rest)
    (room : s.gateway.rxRing.length < rs422RxRingCapacity) :
    InFlight start
      ({ s with toGateway := rest }.advance (s.gateway.uartRxCpltCallback byte)) f := by
  have hring : (s.gateway.uartRxCpltCallback byte).rxRing = s.gateway.rxRing ++ [byte] :=
    if_pos room
  have hexpects := h.rs422
  rw [hline, List.append_cons] at hexpects
  apply InFlight.silent
  · exact
      { h with
        serving := { h.serving with }
        prepared := { h.prepared with }
        rs422 := by rw [hring]; exact hexpects }
  · rfl
  · rfl

/-- The other interrupts only set a flag. -/
theorem interrupt (h : InFlight start s f) {rx txDone : Bool} :
    InFlight start
      { s with
        gateway :=
          { s.gateway with flags := { s.gateway.flags with rx := rx, txDone := txDone } } } f :=
  { h with serving := { h.serving with }, prepared := { h.prepared with } }

theorem chunk_bytes (line : List UInt8) (nows : List UInt32) :
    (List.zipWith (fun byte now => (byte, now, true)) line nows).map Prod.fst ++
      line.drop nows.length = line := by
  induction line generalizing nows with
  | nil => simp
  | cons byte line ih =>
    cases nows with
    | nil => rfl
    | cons now nows => exact congrArg (byte :: ·) (ih nows)

theorem chunk_accepted (line : List UInt8) (nows : List UInt32) :
    ∀ input ∈ List.zipWith (fun byte now => (byte, now, true)) line nows, input.2.2 = true := by
  induction line generalizing nows with
  | nil => simp
  | cons byte line ih =>
    cases nows with
    | nil => nofun
    | cons now nows =>
      intro input hinput
      rcases List.mem_cons.mp hinput with rfl | hinput
      · rfl
      · exact ih nows input hinput

/-- The remote node processes a chunk. -/
theorem processBytes (h : InFlight start s f) {inputs : List (UInt8 × UInt32 × Bool)}
    {rest : List UInt8} (hline : inputs.map Prod.fst ++ rest = s.toNode)
    (accepted : ∀ input ∈ inputs, input.2.2 = true) :
    ∃ f', InFlight start
      { s with
        node := (s.node.processBytes inputs).1
        toNode := rest
        toGateway := s.toGateway ++ (s.node.processBytes inputs).2.flatten } f' := by
  have hexpects := h.node
  rw [← hline] at hexpects
  obtain ⟨done, left, hseqs, hexpects', herrors, hframes⟩ :=
    RemoteNode.processBytes_pings accepted hexpects
  have houtstanding : Flight.outstanding
      { f with toNode := left, toGateway := f.toGateway ++ done.map (emptyMessage msgPong) }
      s.gateway = f.outstanding s.gateway := by
    rw [Flight.outstanding, Flight.outstanding, hseqs, pongSeqs_append, pongSeqs_pongs]
    simp only [List.append_assoc]
  have hslots : pongSeqs (f.toGateway ++ done.map (emptyMessage msgPong)) ++ left =
      pongSeqs f.toGateway ++ f.toNode := by
    rw [pongSeqs_append, pongSeqs_pongs, hseqs, List.append_assoc]
  have hbytes : (s.node.processBytes inputs).2.flatten =
      (done.map (emptyMessage msgPong)).flatMap Message.wire := by
    rw [hframes, List.flatMap_map]
    rfl
  refine
    ⟨{ f with toNode := left, toGateway := f.toGateway ++ done.map (emptyMessage msgPong) },
      { h with
        sent := by rw [houtstanding]; exact h.sent
        single := by rw [houtstanding]; exact h.single
        inbox := by rw [houtstanding]; exact h.inbox
        node := hexpects'
        rs422 := ?_
        replies := ?_
        slot := by rw [hslots]; exact h.slot
        nodeErrors := herrors.trans h.nodeErrors }⟩
  · rw [hbytes, ← List.append_assoc]
    exact h.rs422.append_all _
  · intro m hm
    rcases List.mem_append.mp hm with hm | hm
    · exact h.replies m hm
    · obtain ⟨seq, -, rfl⟩ := List.mem_map.mp hm
      exact .inl rfl

/-- The remote node sends frames of its own. -/
theorem processPeriodic (h : InFlight start s f) (now : UInt32) :
    ∃ f', InFlight start
      { s with
        node := (s.node.processPeriodic now true true).1
        toGateway := s.toGateway ++ (s.node.processPeriodic now true true).2.flatten } f' := by
  obtain ⟨hparser, ms, hframes, hperiodic⟩ := s.node.processPeriodic_frames now
  have hseqs : pongSeqs (f.toGateway ++ ms) = pongSeqs f.toGateway := by
    rw [pongSeqs_append, pongSeqs_periodic hperiodic, List.append_nil]
  have houtstanding : Flight.outstanding { f with toGateway := f.toGateway ++ ms } s.gateway =
      f.outstanding s.gateway := by
    rw [Flight.outstanding, Flight.outstanding, hseqs]
  refine
    ⟨{ f with toGateway := f.toGateway ++ ms },
      { h with
        sent := by rw [houtstanding]; exact h.sent
        single := by rw [houtstanding]; exact h.single
        inbox := by rw [houtstanding]; exact h.inbox
        node := by rw [hparser]; exact h.node
        rs422 := ?_
        replies := ?_
        slot := by rw [hseqs]; exact h.slot
        nodeErrors := by rw [hparser]; exact h.nodeErrors }⟩
  · rw [hframes, ← List.append_assoc]
    exact h.rs422.append_all ms
  · intro m hm
    rcases List.mem_append.mp hm with hm | hm
    · exact h.replies m hm
    · exact .inr (hperiodic m hm)

/-! ## The client -/

/-- A client that has the PONG of its last PING has no PING on the way. -/
theorem outstanding_nil (h : InFlight start s f) (hanswered : s.answered = true) :
    f.outstanding s.gateway = [] := by
  by_contra hne
  have hlast : s.sent.getLast? = (f.outstanding s.gateway).getLast? := by
    rw [← h.sent, List.getLast?_append_of_ne_nil _ hne]
  unfold System.answered at hanswered
  rw [hlast, List.getLast?_eq_some_getLast hne, h.inbox hne] at hanswered
  have hempty : emptyFrame msgPong ((f.outstanding s.gateway).getLast hne) = [] :=
    List.infix_nil.mp (of_decide_eq_true hanswered)
  rw [emptyFrame_eq] at hempty
  have hlength := congrArg List.length hempty
  rw [Message.wire_length] at hlength
  cases hlength

/-- The client sends its next PING. -/
theorem ping (h : InFlight start s f) (hanswered : s.answered = true) (seq : UInt16) :
    InFlight start
      { s with toTcp := s.toTcp ++ emptyFrame msgPing seq, sent := s.sent ++ [seq], inbox := [] }
      { f with toTcp := f.toTcp ++ [seq] } := by
  have hnil := h.outstanding_nil hanswered
  have houtstanding : Flight.outstanding { f with toTcp := f.toTcp ++ [seq] } s.gateway =
      f.outstanding s.gateway ++ [seq] := by
    simp only [Flight.outstanding, List.append_assoc]
  refine
    { h with
      sent := ?_
      single := ?_
      inbox := fun _ => rfl
      tcp := ?_ }
  · rw [houtstanding, ← List.append_assoc, h.sent]
  · rw [houtstanding, hnil]
    exact Nat.le_refl 1
  · rw [emptyFrame_eq, List.map_append, ← List.append_assoc]
    exact h.tcp.append _

/-! ## Whole runs -/

theorem step {s' : System} {a : SystemAction} (h : InFlight start s f)
    (taken : s.step a = some s') : ∃ f', InFlight start s' f' := by
  cases a with
  | ping seq =>
    simp only [System.step] at taken
    split at taken
    case isTrue hanswered =>
      cases taken
      exact ⟨_, h.ping hanswered seq⟩
    case isFalse => cases taken
  | rs422 =>
    obtain ⟨g, hg, rfl⟩ := Option.map_eq_some_iff.mp taken
    exact h.rs422Step hg
  | receive count =>
    simp only [System.step] at taken
    split at taken
    case isTrue hpc =>
      obtain ⟨g, hg, rfl⟩ := Option.map_eq_some_iff.mp taken
      simp only [Gateway.step] at hg
      split at hg
      · exact ⟨f, h.receiveTcp count hpc hg⟩
      · cases hg
    case isFalse => cases taken
  | ethernet op hal =>
    simp only [System.step] at taken
    split at taken
    case isTrue hop =>
      obtain ⟨g, hg, rfl⟩ := Option.map_eq_some_iff.mp taken
      simp only [Gateway.step] at hg
      split at hg
      · exact h.ethernetStep hop hg
      · cases hg
    case isFalse => cases taken
  | uartRx =>
    simp only [System.step] at taken
    split at taken
    case h_1 => cases taken
    case h_2 byte rest hline =>
      split at taken
      case isTrue room =>
        cases taken
        exact ⟨f, h.uartRx hline room⟩
      case isFalse => cases taken
  | uartError =>
    cases taken
    exact ⟨f, silent h.interrupt rfl rfl⟩
  | uartTxDone =>
    cases taken
    exact ⟨f, silent h.interrupt rfl rfl⟩
  | node nows =>
    cases taken
    exact h.processBytes (chunk_bytes s.toNode nows) (chunk_accepted s.toNode nows)
  | periodic now =>
    cases taken
    exact h.processPeriodic now

/-- A drained system holds no PING and no PONG. -/
theorem outstanding_of_drained (h : InFlight start s f) (drained : s.Drained) :
    f.outstanding s.gateway = [] := by
  have hpongs : s.gateway.pongs = [] := by
    rw [Gateway.pongs, drained.ethernet, drained.tcpResponseQueue]
    rfl
  have hpings : s.gateway.pings = [] := by
    rw [Gateway.pings, queuedPings, drained.ethernet, drained.rs422, drained.cmdQueue]
    rfl
  have htoGateway : f.toGateway = [] := by
    have hrs422 := h.rs422
    rw [drained.rxRing, drained.toGateway] at hrs422
    exact hrs422.eq_nil_of_drained
  have htoNode : f.toNode = [] := by
    have hnode := h.node
    rw [drained.toNode] at hnode
    exact List.map_eq_nil_iff.mp hnode.eq_nil_of_drained
  have htoTcp : f.toTcp = [] := by
    have htcp := h.tcp
    rw [drained.ethernet, drained.toTcp] at htcp
    exact List.map_eq_nil_iff.mp htcp.eq_nil_of_drained
  rw [Flight.outstanding, hpongs, hpings, htoGateway, htoNode, htoTcp]
  rfl

end InFlight

/-! ## After bring-up -/

/-- The gateway is in the main loop with one live TCP session, and nothing is on the way. -/
structure Gateway.Ready (g : Gateway) : Prop where
  rs422 : g.rs422.pc = .mainWait
  ethernet : g.ethernet = .loop
  session : g.tcpSessionActive = true
  noReset : g.flags.tcpContextReset = false
  idle : g.rs422TxBusy = false
  cmdQueue : g.cmdQueue = []
  tcpResponseQueue : g.tcpResponseQueue = []
  tcpParser : g.tcpParser.Represents []

/-- A bring-up test that is not answered. -/
def silentTest : List GatewayAction :=
  List.flatten
    [List.replicate 3 (.rs422 .ok false), [.uartTxDone], List.replicate 4 (.rs422 .ok false),
      [.rs422 .ok true], List.replicate 2 (.rs422 .ok false)]

/-- RS422Task starts, makes its 100 tests and reaches the main loop, and a session begins. -/
def readyRun : List GatewayAction :=
  List.flatten
    [[.rs422 .ok false], (List.replicate 100 silentTest).flatten,
      List.replicate 2 (.rs422 .ok false), [.ethernet .establish .ok],
      List.replicate 2 (.ethernet .drain .ok)]

/-- The gateway gets ready. -/
theorem Gateway.exists_ready :
    ∃ g, Reachable Gateway.step unguarded Gateway.initial g ∧ g.Ready ∧ g.rxRing = [] ∧
      g.rs422Parser.Represents [] := by
  obtain ⟨g, run, htest⟩ := exists_reachable Gateway.step unguarded Gateway.initial readyRun
    (fun g => decide (g.rs422.pc = .mainWait ∧ g.ethernet = .loop ∧ g.tcpSessionActive = true ∧
      g.flags.tcpContextReset = false ∧ g.rs422TxBusy = false ∧ g.cmdQueue = [] ∧
      g.tcpResponseQueue = [] ∧ g.rxRing = [] ∧ g.history.tcpBytes = [] ∧
      g.history.rs422Bytes = [])) (by decide +kernel)
  obtain ⟨hrs422, hethernet, hsession, hnoReset, hidle, hcmd, hresponse, hring, htcp, hbytes⟩ :=
    of_decide_eq_true htest
  have hparses : g.Parses := run.invariant .initial fun s a s' h _ taken => h.step taken
  have hparser := hparses.tcp
  rw [htcp] at hparser
  have hrs422Parser := hparses.rs422
  rw [hbytes] at hrs422Parser
  exact ⟨g, run, ⟨hrs422, hethernet, hsession, hnoReset, hidle, hcmd, hresponse, hparser⟩, hring,
    hrs422Parser⟩

/-- The client has not sent anything yet. The remote node may have sent frames of its own. -/
structure System.Ready (s : System) : Prop where
  gateway : s.gateway.Ready
  node : s.node.parser.Represents []
  toTcp : s.toTcp = []
  toNode : s.toNode = []
  toGateway : ∃ ms, s.gateway.rs422Parser.Expects (s.gateway.rxRing ++ s.toGateway) ms ∧
    ∀ m ∈ ms, RemoteNode.Periodic m
  sent : s.sent = []
  client : s.client = []

/-- Nothing is in flight at first. -/
theorem System.Ready.inFlight {s : System} (h : s.Ready) : ∃ f, InFlight s s f := by
  obtain ⟨ms, hexpects, hperiodic⟩ := h.toGateway
  have hpings : s.gateway.pings = [] := by
    rw [Gateway.pings, Gateway.queuedPings, h.gateway.ethernet, h.gateway.rs422, h.gateway.cmdQueue]
    rfl
  have hpongs : s.gateway.pongs = [] := by
    rw [Gateway.pongs, h.gateway.ethernet, h.gateway.tcpResponseQueue]
    rfl
  have houtstanding : Flight.outstanding ⟨[], ms, [], []⟩ s.gateway = [] := by
    rw [Flight.outstanding, hpings, hpongs, pongSeqs_periodic hperiodic]
    rfl
  have hidle : s.gateway.rs422.pc = .mainWait := h.gateway.rs422
  refine
    ⟨⟨[], ms, [], []⟩,
      { serving := ?_
        prepared := .of_released (by rw [hidle]; rfl)
        sent := by rw [houtstanding, h.sent]; rfl
        single := by rw [houtstanding]; exact Nat.zero_le 1
        client := h.client
        inbox := fun hne => absurd houtstanding hne
        tcp := ?_
        node := ?_
        rs422 := hexpects
        replies := fun m hm => .inr (hperiodic m hm)
        pings := by simp [hpings]
        pongs := by simp [hpongs]
        slot := by simp [pongSeqs_periodic hperiodic]
        tcpErrors := .refl _
        rs422Errors := .refl _
        nodeErrors := .refl _ }⟩
  · exact
      { session := h.gateway.session
        noReset := h.gateway.noReset
        rs422 := by rw [hidle]; rfl
        ethernet := by rw [h.gateway.ethernet]; rfl
        caller := by rw [hidle]; rintro ⟨⟩
        busy := by simp [h.gateway.idle] }
  · rw [h.gateway.ethernet, h.toTcp]
    exact StreamParser.expects_nil h.gateway.tcpParser
  · rw [h.toNode]
    exact StreamParser.expects_nil h.node

/-- End to end: once all is drained, the client has been sent the PONGs of its PINGs, one for each,
    in order and nothing else. No parser reports an error. -/
theorem lockStep_endToEnd {start s : System} (ready : start.Ready)
    (run : Reachable System.step unguarded start s) :
    (s.Drained → s.client = s.sent.flatMap (emptyFrame msgPong)) ∧
      s.gateway.tcpParser.SameErrors start.gateway.tcpParser ∧
      s.gateway.rs422Parser.SameErrors start.gateway.rs422Parser ∧
      s.node.parser.SameErrors start.node.parser := by
  have hflight : ∃ f, InFlight start s f := by
    refine run.invariant (P := fun s => ∃ f, InFlight start s f) ready.inFlight ?_
    rintro s a s' ⟨f, h⟩ - taken
    exact h.step taken
  obtain ⟨f, h⟩ := hflight
  refine ⟨?_, h.tcpErrors, h.rs422Errors, h.nodeErrors⟩
  intro drained
  rw [← h.sent, h.outstanding_of_drained drained, List.append_nil]
  exact h.client

/-- A system that has just been brought up. -/
def System.fresh : System where
  gateway :=
    { Gateway.initial with
      telemetryForwardingEnabled := true
      tcpSessionActive := true
      rs422 := ⟨.mainWait, 99, .bringup, 100, false, false⟩ }
  node := .init 0
  toTcp := []
  toNode := []
  toGateway := []
  sent := []
  client := []
  inbox := []

/-- The client sends a PING with SEQ 7 that is read in two chunks. The remote node reads it in two
    chunks as well, and sends TELEMETRY before the PONG, which both arrive before the end of the
    transmission. -/
def pingSevenRun (now : UInt32) : List SystemAction :=
  List.flatten
    [[.ping 7, .receive 4], List.replicate 5 (.ethernet .drain .ok), [.receive 6],
      List.replicate 9 (.ethernet .drain .ok), List.replicate 10 .rs422,
      [.periodic now, .node [now, now, now], .node (List.replicate 7 now)],
      List.replicate 26 .uartRx, List.replicate 31 .rs422, [.uartTxDone],
      List.replicate 4 .rs422, List.replicate 6 (.ethernet .drain .ok)]

theorem lockStep_endToEnd_repeated :
    ∃ s, Reachable System.step unguarded System.fresh s ∧ s.sent = [7, 7] ∧
      s.client = [7, 7].flatMap (emptyFrame msgPong) := by
  obtain ⟨s, run, htest⟩ := exists_reachable System.step unguarded System.fresh
    (pingSevenRun 100 ++ pingSevenRun 200) (fun s => decide (s.sent = [7, 7] ∧ s.Drained))
    (by decide +kernel)
  obtain ⟨hsent, drained⟩ := of_decide_eq_true htest
  have ready : System.fresh.Ready :=
    { gateway := ⟨rfl, rfl, rfl, rfl, rfl, rfl, rfl, StreamParser.init_represents⟩
      node := StreamParser.init_represents
      toTcp := rfl
      toNode := rfl
      toGateway := ⟨[], StreamParser.expects_nil StreamParser.init_represents, nofun⟩
      sent := rfl
      client := rfl }
  have hclient := (lockStep_endToEnd ready run).1 drained
  rw [hsent] at hclient
  exact ⟨s, run, hsent, hclient⟩

end Rs422Gateway
