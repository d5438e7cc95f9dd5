import Rs422Gateway.RemoteNode.Port

/-!
# The receive path of the remote node loses nothing silently

The interrupts may come at any place outside the masked section. The processed bytes, the byte in
hand and the ring are together the received bytes without the dropped ones, and the two counters
move from the pending variables over the local ones into the statistics without loss.
-/

namespace Rs422Gateway

open Transition

namespace UartRxRing

variable {r : UartRxRing}

/-- Both indices are in the storage. -/
structure Bounded (r : UartRxRing) : Prop where
  writeIndex : r.writeIndex.toNat < 512
  readIndex : r.readIndex.toNat < 512

theorem next_toNat {index : UInt16} (h : index.toNat < 512) :
    (next index).toNat = (index.toNat + 1) % 512 := by
  have hsize : (UInt16.ofNat uartRxRingSize).toNat = 512 := rfl
  have hsucc : (index + 1).toNat = index.toNat + 1 := by
    rw [UInt16.toNat_add, UInt16.toNat_one]
    omega
  unfold next
  split
  case isTrue hle =>
    rw [UInt16.le_iff_toNat_le, hsize, hsucc] at hle
    rw [UInt16.toNat_zero]
    omega
  case isFalse hlt =>
    rw [UInt16.le_iff_toNat_le, hsize, hsucc] at hlt
    rw [hsucc]
    omega

theorem next_lt {index : UInt16} (h : index.toNat < 512) : (next index).toNat < 512 := by
  rw [next_toNat h]
  exact Nat.mod_lt _ (by omega)

theorem count_lt (r : UartRxRing) : r.count < 512 := Nat.mod_lt _ (by decide)

/-- The write index is `count` positions behind the read index. -/
theorem writeIndex_position (h : r.Bounded) :
    r.writeIndex.toNat % 512 = (r.readIndex.toNat + r.count) % 512 := by
  have hwrite := h.writeIndex
  have hread := h.readIndex
  show _ = (r.readIndex.toNat + (r.writeIndex.toNat + 512 - r.readIndex.toNat) % 512) % 512
  omega

/-- The ring is full with one cell left. -/
theorem full_iff (h : r.Bounded) : r.full = true ↔ r.count = 511 := by
  have hwrite := h.writeIndex
  have hread := h.readIndex
  rw [full, decide_eq_true_iff, ← UInt16.toNat_inj, next_toNat hwrite]
  show _ ↔ (r.writeIndex.toNat + 512 - r.readIndex.toNat) % 512 = 511
  omega

theorem readIndex_ne_writeIndex (h : r.count ≠ 0) : r.readIndex ≠ r.writeIndex := by
  intro heq
  apply h
  show (r.writeIndex.toNat + 512 - r.readIndex.toNat) % 512 = 0
  rw [heq]
  omega

theorem count_push (h : r.Bounded) (hfull : r.full = false) (byte : UInt8) :
    (r.pushIsr byte).count = r.count + 1 := by
  have hwrite := h.writeIndex
  have hread := h.readIndex
  have hne : r.count ≠ 511 := by
    rw [ne_eq, ← full_iff h, hfull]
    exact Bool.false_ne_true
  rw [pushIsr, hfull]
  show ((next r.writeIndex).toNat + 512 - r.readIndex.toNat) % 512 =
    (r.writeIndex.toNat + 512 - r.readIndex.toNat) % 512 + 1
  replace hne : (r.writeIndex.toNat + 512 - r.readIndex.toNat) % 512 ≠ 511 := hne
  rw [next_toNat hwrite]
  omega

theorem count_pop (h : r.Bounded) (hne : r.readIndex ≠ r.writeIndex) :
    count { r with readIndex := next r.readIndex } + 1 = r.count := by
  have hwrite := h.writeIndex
  have hread := h.readIndex
  rw [ne_eq, ← UInt16.toNat_inj] at hne
  show (r.writeIndex.toNat + 512 - (next r.readIndex).toNat) % 512 + 1 =
    (r.writeIndex.toNat + 512 - r.readIndex.toNat) % 512
  rw [next_toNat hread]
  omega

/-- A push into a ring that is not full appends its byte. -/
theorem bytes_push (h : r.Bounded) (hfull : r.full = false) (byte : UInt8) :
    (r.pushIsr byte).bytes = r.bytes ++ [byte] := by
  have hcount := count_push h hfull byte
  have hstore : Ring.store r.storage r.writeIndex.toNat byte =
      Ring.store r.storage (r.readIndex.toNat + r.count) byte := by
    unfold Ring.store
    congr 1
    exact writeIndex_position h
  rw [bytes, hcount, pushIsr, hfull]
  show Ring.contents (Ring.store r.storage r.writeIndex.toNat byte) _ _ = _
  rw [hstore]
  exact Ring.contents_push _ _ _ r.count_lt

/-- The oldest byte is the one at the read index. -/
theorem bytes_pop (h : r.Bounded) (hne : r.readIndex ≠ r.writeIndex) :
    r.bytes =
      Ring.cell r.storage r.readIndex.toNat :: bytes { r with readIndex := next r.readIndex } := by
  have hposition : (next r.readIndex).toNat % 512 = (r.readIndex.toNat + 1) % 512 := by
    rw [next_toNat h.readIndex, Nat.mod_mod]
  have hrest : bytes { r with readIndex := next r.readIndex } =
      Ring.contents r.storage (r.readIndex.toNat + 1)
        (count { r with readIndex := next r.readIndex }) :=
    Ring.contents_congr _ hposition _
  rw [hrest, bytes, ← count_pop h hne]
  rfl

/-- While the ring holds a byte, a push leaves the oldest one as it is. -/
theorem push_cell (h : r.Bounded) (hne : r.readIndex ≠ r.writeIndex) (byte : UInt8) :
    Ring.cell (r.pushIsr byte).storage r.readIndex.toNat =
      Ring.cell r.storage r.readIndex.toNat := by
  unfold pushIsr
  cases hfull : r.full with
  | true => rfl
  | false =>
    have hpop := count_pop h hne
    have hposition : r.writeIndex.toNat % 512 ≠ r.readIndex.toNat % 512 := by
      rw [writeIndex_position h]
      exact Ring.mod_ne_of_lt (by omega) r.count_lt
    exact Ring.cell_store_ne r.storage byte hposition

end UartRxRing

namespace RemoteNode

variable {node : RemoteNode}

/-- The counters that `remote_node_port_process` keeps in the statistics. -/
def portCounters (node : RemoteNode) : UInt32 × UInt32 :=
  (node.stats.uartRxOverflowCount, node.stats.uartErrorCount)

@[simp] theorem sendPacket_portCounters (node : RemoteNode) (packet : ProtocolPacket)
    (accepted : Bool) : (node.sendPacket packet accepted).1.portCounters = node.portCounters := by
  unfold sendPacket
  cases encodeFrame packet with
  | none => rfl
  | some frame => cases accepted <;> rfl

@[simp] theorem sendError_portCounters (node : RemoteNode) (requestSeq : UInt16)
    (errorCode : RemoteErrorCode) (offendingMsgId : UInt8) (accepted : Bool) :
    (node.sendError requestSeq errorCode offendingMsgId accepted).1.portCounters =
      node.portCounters :=
  sendPacket_portCounters _ _ _

theorem handlePing_portCounters (node : RemoteNode) (request : ProtocolPacket) (accepted : Bool) :
    (node.handlePing request accepted).1.portCounters = node.portCounters := by
  unfold handlePing
  split
  · exact sendError_portCounters _ _ _ _ _
  · exact sendPacket_portCounters (node.rememberRequest request) _ _

theorem handleReadStatus_portCounters (node : RemoteNode) (request : ProtocolPacket) (now : UInt32)
    (accepted : Bool) :
    (node.handleReadStatus request now accepted).1.portCounters = node.portCounters := by
  unfold handleReadStatus
  split
  · exact sendError_portCounters _ _ _ _ _
  · exact sendPacket_portCounters (node.rememberRequest request) _ _

theorem handlePacket_portCounters (node : RemoteNode) (packet : ProtocolPacket) (now : UInt32)
    (accepted : Bool) :
    (node.handlePacket packet now accepted).1.portCounters = node.portCounters := by
  unfold handlePacket
  simp only
  split
  · exact handlePing_portCounters (node.noteValidFrame packet) _ _
  split
  · exact handleReadStatus_portCounters (node.noteValidFrame packet) _ _ _
  split
  · exact sendError_portCounters (node.noteValidFrame packet) _ _ _ _
  split
  · rfl
  · exact sendError_portCounters _ _ _ _ _

theorem processByte_portCounters (node : RemoteNode) (byte : UInt8) (now : UInt32)
    (accepted : Bool) :
    (node.processByte byte now accepted).1.portCounters = node.portCounters := by
  unfold processByte
  obtain ⟨parser, event, packet⟩ := node.parser.feedByte byte .zero
  cases event with
  | frame => exact handlePacket_portCounters { node with parser := parser } _ _ _
  | error =>
    show (noteParserError { node with parser := parser }).portCounters = _
    unfold noteParserError
    split <;> rfl
  | none => rfl

theorem processPeriodic_portCounters (node : RemoteNode) (now : UInt32)
    (telemetryAccepted heartbeatAccepted : Bool) :
    (node.processPeriodic now telemetryAccepted heartbeatAccepted).1.portCounters =
      node.portCounters := by
  have htelemetry : (node.periodicTelemetry now telemetryAccepted).1.portCounters =
      node.portCounters := by
    unfold periodicTelemetry
    split
    · exact sendPacket_portCounters
        { node with lastTelemetryMs := now, telemetrySeq := node.telemetrySeq + 1 } _ _
    · rfl
  have hheartbeat : ∀ node : RemoteNode,
      (node.periodicHeartbeat now heartbeatAccepted).1.portCounters = node.portCounters := by
    intro node
    unfold periodicHeartbeat
    split
    · exact sendPacket_portCounters
        { node with lastHeartbeatMs := now, heartbeatSeq := node.heartbeatSeq + 1 } _ _
    · rfl
  exact (hheartbeat _).trans htelemetry

end RemoteNode

/-- `uart_rx_ring_pop` is on its way, or its byte is still to be processed. -/
def PortPc.pops : PortPc → Bool
  | .popCompare | .popSlot | .popAdvance | .processByte => true
  | _ => false

/-- `uart_rx_ring_pop` has found a byte and not yet taken it out. -/
def PortPc.takes : PortPc → Bool
  | .popSlot | .popAdvance => true
  | _ => false

/-- The section of `remote_node_port_process` with the interrupts masked. -/
def PortPc.masked : PortPc → Bool
  | .readOverflow | .readError | .clearOverflow | .clearError | .enableIrq => true
  | _ => false

/-- The ring is the queue of the bytes kept and not yet processed. -/
structure NodePort.Fifo (s : NodePort) : Prop where
  bounded : s.ring.Bounded
  bytes : s.processed ++ s.inHand ++ s.ring.bytes = s.kept
  readIndex : s.process.pc = .popCompare → s.process.readIndex = s.ring.readIndex
  nonempty : s.process.pc.takes = true → s.ring.readIndex ≠ s.ring.writeIndex
  byte : s.process.pc = .popAdvance →
    s.process.byte = Ring.cell s.ring.storage s.ring.readIndex.toNat

namespace NodePort.Fifo

variable {s s' : NodePort}

theorem initial (now : UInt32) : (NodePort.initial now).Fifo where
  bounded := ⟨Nat.succ_pos _, Nat.succ_pos _⟩
  bytes := by
    have hcount : UartRxRing.init.count = 0 := by simp [UartRxRing.count, UartRxRing.init]
    show [] ++ [] ++ UartRxRing.init.bytes = []
    rw [UartRxRing.bytes, hcount]
    rfl
  readIndex := nofun
  nonempty := nofun
  byte := nofun

/-- With no byte in hand. -/
theorem bytes_free (h : s.Fifo) (hpc : s.process.pc ≠ .processByte) :
    s.processed ++ s.ring.bytes = s.kept := by
  have hbytes := h.bytes
  rw [inHand, if_neg hpc, List.append_nil] at hbytes
  exact hbytes

/-- A step that has nothing to do with the bytes. -/
theorem moved (h : s.Fifo) (hpc : s.process.pc ≠ .processByte) (hring : s'.ring = s.ring)
    (hprocessed : s'.processed = s.processed) (hreceived : s'.received = s.received)
    (houtside : s'.process.pc.pops = false) : s'.Fifo := by
  have hne : ∀ pc : PortPc, pc.pops = true → s'.process.pc ≠ pc := by
    intro pc hpops heq
    rw [← heq, houtside] at hpops
    cases hpops
  refine ⟨hring ▸ h.bounded, ?_, ?_, ?_, ?_⟩
  · rw [inHand, if_neg (hne _ rfl), List.append_nil, hprocessed, hring, kept, hreceived]
    exact h.bytes_free hpc
  · intro hpc'
    exact absurd hpc' (hne _ rfl)
  · intro htakes
    cases hpc' : s'.process.pc with
    | popSlot | popAdvance => exact absurd hpc' (hne _ rfl)
    | _ =>
      rw [hpc'] at htakes
      cases htakes
  · intro hpc'
    exact absurd hpc' (hne _ rfl)

theorem errorCallback (h : s.Fifo) : s.errorCallback.Fifo := { h with }

/-- The interrupt stores its byte behind the others, or drops it. -/
theorem rxCpltCallback (h : s.Fifo) (byte : UInt8) (rearmed : Bool) :
    (s.rxCpltCallback byte rearmed).Fifo := by
  have hkept : (s.rxCpltCallback byte rearmed).kept =
      s.kept ++ if s.ring.full then [] else [byte] := by
    show (List.filter Prod.snd (s.received ++ [(byte, !s.ring.full)])).map Prod.fst = _
    rw [List.filter_append, List.map_append]
    cases s.ring.full <;> rfl
  cases hfull : s.ring.full with
  | true =>
    have hring : s.ring.pushIsr byte = s.ring := by
      rw [UartRxRing.pushIsr, hfull]
      rfl
    rw [hfull] at hkept
    have hring' : (s.rxCpltCallback byte rearmed).ring = s.ring := hring
    refine ⟨hring' ▸ h.bounded, ?_, ?_, ?_, ?_⟩
    · rw [hkept, hring']
      exact h.bytes.trans (List.append_nil _).symm
    · rw [hring']
      exact h.readIndex
    · rw [hring']
      exact h.nonempty
    · rw [hring']
      exact h.byte
  | false =>
    have hread : (s.ring.pushIsr byte).readIndex = s.ring.readIndex := by
      rw [UartRxRing.pushIsr, hfull]
      rfl
    have hwrite : (s.ring.pushIsr byte).writeIndex = UartRxRing.next s.ring.writeIndex := by
      rw [UartRxRing.pushIsr, hfull]
      rfl
    rw [hfull] at hkept
    refine ⟨⟨?_, ?_⟩, ?_, ?_, ?_, ?_⟩
    · show (s.ring.pushIsr byte).writeIndex.toNat < 512
      rw [hwrite]
      exact UartRxRing.next_lt h.bounded.writeIndex
    · show (s.ring.pushIsr byte).readIndex.toNat < 512
      rw [hread]
      exact h.bounded.readIndex
    · have hpush : (s.rxCpltCallback byte rearmed).ring.bytes = s.ring.bytes ++ [byte] :=
        UartRxRing.bytes_push h.bounded hfull byte
      rw [hkept, hpush, ← List.append_assoc, ← h.bytes]
      rfl
    · intro hpc
      exact (h.readIndex hpc).trans hread.symm
    · intro
      apply UartRxRing.readIndex_ne_writeIndex
      show (s.ring.pushIsr byte).count ≠ 0
      rw [UartRxRing.count_push h.bounded hfull]
      exact Nat.succ_ne_zero _
    · intro hpc
      show s.process.byte =
        Ring.cell (s.ring.pushIsr byte).storage (s.ring.pushIsr byte).readIndex.toNat
      have hpc' : s.process.pc = .popAdvance := hpc
      rw [hread, UartRxRing.push_cell h.bounded (h.nonempty (by rw [hpc']; rfl))]
      exact h.byte hpc

/-- An access of `uart_rx_ring_pop`, or the processing of its byte. -/
theorem popStep (h : s.Fifo) (hpc : s.process.pc = .popReadIndex ∨ s.process.pc.pops = true)
    (now : UInt32) (accepted heartbeatAccepted : Bool) :
    (s.processStep now accepted heartbeatAccepted).Fifo := by
  unfold processStep
  cases hpc' : s.process.pc with
  | popReadIndex =>
    have hbytes := h.bytes_free (by simp [hpc'])
    refine ⟨h.bounded, ?_, fun _ => rfl, by rintro ⟨⟩, by rintro ⟨⟩⟩
    show s.processed ++ [] ++ s.ring.bytes = s.kept
    rw [List.append_nil, hbytes]
  | popCompare =>
    have hbytes := h.bytes_free (by simp [hpc'])
    simp only
    split
    case isTrue => exact h.moved (by simp [hpc']) rfl rfl rfl rfl
    case isFalse hne =>
      rw [h.readIndex hpc'] at hne
      refine ⟨h.bounded, ?_, by rintro ⟨⟩, fun _ => hne, by rintro ⟨⟩⟩
      show s.processed ++ [] ++ s.ring.bytes = s.kept
      rw [List.append_nil, hbytes]
  | popSlot =>
    have hbytes := h.bytes_free (by simp [hpc'])
    refine ⟨h.bounded, ?_, by rintro ⟨⟩, fun _ => h.nonempty (by rw [hpc']; rfl), fun _ => rfl⟩
    show s.processed ++ [] ++ s.ring.bytes = s.kept
    rw [List.append_nil, hbytes]
  | popAdvance =>
    have hbytes := h.bytes_free (by simp [hpc'])
    have hpop := UartRxRing.bytes_pop h.bounded (h.nonempty (by rw [hpc']; rfl))
    refine
      ⟨⟨h.bounded.writeIndex, UartRxRing.next_lt h.bounded.readIndex⟩, ?_, by rintro ⟨⟩,
        by rintro ⟨⟩, by rintro ⟨⟩⟩
    rw [hpop, ← h.byte hpc', List.append_cons] at hbytes
    exact hbytes
  | processByte =>
    have hbytes := h.bytes
    rw [inHand, if_pos hpc'] at hbytes
    refine ⟨h.bounded, ?_, by rintro ⟨⟩, by rintro ⟨⟩, by rintro ⟨⟩⟩
    show s.processed ++ [s.process.byte] ++ [] ++ s.ring.bytes = s.kept
    rw [List.append_nil, hbytes]
  | _ =>
    rw [hpc'] at hpc
    rcases hpc with hpc | hpc <;> cases hpc

theorem processStep (h : s.Fifo) (now : UInt32) (accepted heartbeatAccepted : Bool) :
    (s.processStep now accepted heartbeatAccepted).Fifo := by
  by_cases hpc : s.process.pc = .popReadIndex ∨ s.process.pc.pops = true
  · exact h.popStep hpc now accepted heartbeatAccepted
  · unfold NodePort.processStep
    cases hpc' : s.process.pc with
    | overflowLoop | errorLoop =>
      simp only
      split
      · exact h.moved (by rw [hpc']; nofun) rfl rfl rfl rfl
      · exact h.moved (by rw [hpc']; nofun) rfl rfl rfl rfl
    | popReadIndex => exact absurd (.inl hpc') hpc
    | popCompare | popSlot | popAdvance | processByte => exact absurd (.inr (by rw [hpc']; rfl)) hpc
    | _ => exact h.moved (by rw [hpc']; nofun) rfl rfl rfl rfl

end NodePort.Fifo

/-- `overflow_count` has been read and `rx_overflow_pending` not yet cleared. -/
def PortPc.overflowRead : PortPc → Bool
  | .readError | .clearOverflow => true
  | _ => false

/-- `error_count` has been read and `uart_error_pending` not yet cleared. -/
def PortPc.errorRead : PortPc → Bool
  | .clearOverflow | .clearError => true
  | _ => false

/-- The two counters are complete: what is not in a pending variable or a local one is in the
    statistics. -/
structure NodePort.Counted (s : NodePort) : Prop where
  masked : s.process.pc.masked = true → s.irqMasked = true
  overflowRead : s.process.pc.overflowRead = true → s.process.overflowCount = s.rxOverflowPending
  errorRead : s.process.pc.errorRead = true → s.process.errorCount = s.uartErrorPending
  overflow : UInt32.ofNat s.dropped =
    s.node.portCounters.1 + s.unappliedOverflow + s.rxOverflowPending
  error : UInt32.ofNat s.errors = s.node.portCounters.2 + s.unappliedError + s.uartErrorPending

namespace NodePort.Counted

variable {s s' : NodePort}

theorem initial (now : UInt32) : (NodePort.initial now).Counted where
  masked := nofun
  overflowRead := nofun
  errorRead := nofun
  overflow := rfl
  error := rfl

/-- Where an interrupt comes, no local counter is being handed over. -/
theorem unmasked (h : s.Counted) (hirq : s.irqMasked = false) :
    s.process.pc.masked = false ∧ s.process.pc.overflowRead = false ∧
      s.process.pc.errorRead = false := by
  have hmasked : s.process.pc.masked ≠ true := by
    intro hmasked
    rw [h.masked hmasked] at hirq
    cases hirq
  cases hpc : s.process.pc with
  | readOverflow | readError | clearOverflow | clearError | enableIrq =>
    rw [hpc] at hmasked
    exact absurd rfl hmasked
  | _ => exact ⟨rfl, rfl, rfl⟩

/-- An interrupt that counts its events in the pending variables. -/
theorem interrupt (h : s.Counted) (hirq : s.irqMasked = false) (hprocess : s'.process = s.process)
    (hnode : s'.node = s.node)
    (hoverflow : UInt32.ofNat s'.dropped + s.rxOverflowPending =
      UInt32.ofNat s.dropped + s'.rxOverflowPending)
    (herror : UInt32.ofNat s'.errors + s.uartErrorPending =
      UInt32.ofNat s.errors + s'.uartErrorPending) : s'.Counted := by
  obtain ⟨hmasked, hoverflowRead, herrorRead⟩ := h.unmasked hirq
  have hunapplied : s'.unappliedOverflow = s.unappliedOverflow := by
    rw [unappliedOverflow, unappliedOverflow, hprocess]
  have hunappliedError : s'.unappliedError = s.unappliedError := by
    rw [unappliedError, unappliedError, hprocess]
  refine ⟨?_, ?_, ?_, ?_, ?_⟩
  · intro hpc
    rw [hprocess, hmasked] at hpc
    cases hpc
  · intro hpc
    rw [hprocess, hoverflowRead] at hpc
    cases hpc
  · intro hpc
    rw [hprocess, herrorRead] at hpc
    cases hpc
  · rw [hnode, hunapplied]
    have h' := h.overflow
    grind
  · rw [hnode, hunappliedError]
    have h' := h.error
    grind

theorem errorCallback (h : s.Counted) (hirq : s.irqMasked = false) : s.errorCallback.Counted := by
  apply h.interrupt hirq
  · rfl
  · rfl
  · rfl
  · show UInt32.ofNat (s.errors + 1) + s.uartErrorPending =
      UInt32.ofNat s.errors + (s.uartErrorPending + 1)
    rw [UInt32.ofNat_add]
    grind

theorem rxCpltCallback (h : s.Counted) (hirq : s.irqMasked = false) (byte : UInt8)
    (rearmed : Bool) : (s.rxCpltCallback byte rearmed).Counted := by
  apply h.interrupt hirq
  · rfl
  · rfl
  · have hdropped : (s.rxCpltCallback byte rearmed).dropped =
        s.dropped + if s.ring.full then 1 else 0 := by
      show (List.filter (fun r => !r.2) (s.received ++ [(byte, !s.ring.full)])).length = _
      rw [List.filter_append, List.length_append]
      cases s.ring.full <;> rfl
    have hpending : (s.rxCpltCallback byte rearmed).rxOverflowPending =
        s.rxOverflowPending + if s.ring.full then 1 else 0 := by
      show (if s.ring.full then s.rxOverflowPending + 1 else s.rxOverflowPending) = _
      cases s.ring.full <;> simp
    rw [hdropped, hpending, UInt32.ofNat_add]
    cases s.ring.full <;> grind
  · cases rearmed with
    | true => rfl
    | false =>
      show UInt32.ofNat (s.errors + 1) + s.uartErrorPending =
        UInt32.ofNat s.errors + (s.uartErrorPending + 1)
      rw [UInt32.ofNat_add]
      grind

/-- A step that touches no counter. -/
theorem moved (h : s.Counted) (hnode : s'.node.portCounters = s.node.portCounters)
    (hpending : s'.rxOverflowPending = s.rxOverflowPending)
    (herror : s'.uartErrorPending = s.uartErrorPending) (hreceived : s'.received = s.received)
    (herrors : s'.errors = s.errors) (hunapplied : s'.unappliedOverflow = s.unappliedOverflow)
    (hunappliedError : s'.unappliedError = s.unappliedError)
    (houtside : s'.process.pc.masked = false) : s'.Counted := by
  have hread : s'.process.pc.overflowRead = false ∧ s'.process.pc.errorRead = false := by
    cases hpc : s'.process.pc with
    | readOverflow | readError | clearOverflow | clearError | enableIrq =>
      rw [hpc] at houtside
      cases houtside
    | _ => exact ⟨rfl, rfl⟩
  refine ⟨?_, ?_, ?_, ?_, ?_⟩
  · intro hpc
    rw [houtside] at hpc
    cases hpc
  · intro hpc
    rw [hread.1] at hpc
    cases hpc
  · intro hpc
    rw [hread.2] at hpc
    cases hpc
  · rw [hnode, hunapplied, hpending, dropped, hreceived]
    exact h.overflow
  · rw [hnode, hunappliedError, herror, herrors]
    exact h.error

/-- The section with the interrupts masked reads both counters, then clears both. -/
theorem maskedStep (h : s.Counted)
    (hpc : s.process.pc = .disableIrq ∨ s.process.pc.masked = true)
    (now : UInt32) (accepted heartbeatAccepted : Bool) :
    (s.processStep now accepted heartbeatAccepted).Counted := by
  have hoverflow := h.overflow
  have herror := h.error
  unfold processStep
  cases hpc' : s.process.pc with
  | disableIrq =>
    rw [unappliedOverflow, hpc'] at hoverflow
    rw [unappliedError, hpc'] at herror
    exact ⟨fun _ => rfl, by rintro ⟨⟩, by rintro ⟨⟩, hoverflow, herror⟩
  | readOverflow =>
    have hmasked := h.masked (by rw [hpc']; rfl)
    rw [unappliedOverflow, hpc'] at hoverflow
    rw [unappliedError, hpc'] at herror
    exact ⟨fun _ => hmasked, fun _ => rfl, by rintro ⟨⟩, hoverflow, herror⟩
  | readError =>
    have hmasked := h.masked (by rw [hpc']; rfl)
    have hread := h.overflowRead (by rw [hpc']; rfl)
    rw [unappliedOverflow, hpc'] at hoverflow
    rw [unappliedError, hpc'] at herror
    exact ⟨fun _ => hmasked, fun _ => hread, fun _ => rfl, hoverflow, herror⟩
  | clearOverflow =>
    have hmasked := h.masked (by rw [hpc']; rfl)
    have hread := h.overflowRead (by rw [hpc']; rfl)
    have hreadError := h.errorRead (by rw [hpc']; rfl)
    rw [unappliedOverflow, hpc', UInt32.add_zero, ← hread] at hoverflow
    rw [unappliedError, hpc'] at herror
    exact ⟨fun _ => hmasked, by rintro ⟨⟩, fun _ => hreadError,
      hoverflow.trans (UInt32.add_zero _).symm, herror⟩
  | clearError =>
    have hmasked := h.masked (by rw [hpc']; rfl)
    have hreadError := h.errorRead (by rw [hpc']; rfl)
    rw [unappliedOverflow, hpc'] at hoverflow
    rw [unappliedError, hpc', UInt32.add_zero, ← hreadError] at herror
    exact ⟨fun _ => hmasked, by rintro ⟨⟩, by rintro ⟨⟩, hoverflow,
      herror.trans (UInt32.add_zero _).symm⟩
  | enableIrq =>
    rw [unappliedOverflow, hpc'] at hoverflow
    rw [unappliedError, hpc'] at herror
    exact ⟨by rintro ⟨⟩, by rintro ⟨⟩, by rintro ⟨⟩, hoverflow, herror⟩
  | _ =>
    rw [hpc'] at hpc
    rcases hpc with hpc | hpc <;> cases hpc

theorem processStep (h : s.Counted) (now : UInt32) (accepted heartbeatAccepted : Bool) :
    (s.processStep now accepted heartbeatAccepted).Counted := by
  by_cases hpc : s.process.pc = .disableIrq ∨ s.process.pc.masked = true
  · exact h.maskedStep hpc now accepted heartbeatAccepted
  have hoverflow := h.overflow
  have herror := h.error
  unfold NodePort.processStep
  cases hpc' : s.process.pc with
  | disableIrq => exact absurd (.inl hpc') hpc
  | readOverflow | readError | clearOverflow | clearError | enableIrq =>
    exact absurd (.inr (by rw [hpc']; rfl)) hpc
  | overflowLoop =>
    rw [unappliedOverflow, hpc'] at hoverflow
    rw [unappliedError, hpc'] at herror
    simp only
    split
    case isTrue hzero =>
      rw [hzero] at hoverflow
      exact ⟨nofun, nofun, nofun, hoverflow, herror⟩
    case isFalse =>
      refine ⟨nofun, nofun, nofun, hoverflow.trans ?_, herror⟩
      show s.node.portCounters.1 + s.process.overflowCount + s.rxOverflowPending =
        s.node.portCounters.1 + 1 + (s.process.overflowCount - 1) + s.rxOverflowPending
      grind
  | errorLoop =>
    rw [unappliedOverflow, hpc'] at hoverflow
    rw [unappliedError, hpc'] at herror
    simp only
    split
    case isTrue hzero =>
      rw [hzero] at herror
      exact ⟨nofun, nofun, nofun, hoverflow, herror⟩
    case isFalse =>
      refine ⟨nofun, nofun, nofun, hoverflow, herror.trans ?_⟩
      show s.node.portCounters.2 + s.process.errorCount + s.uartErrorPending =
        s.node.portCounters.2 + 1 + (s.process.errorCount - 1) + s.uartErrorPending
      grind
  | popCompare =>
    simp only
    split
    · apply h.moved <;> simp only [goto, unappliedOverflow, unappliedError, hpc', PortPc.masked]
    · apply h.moved <;> simp only [goto, unappliedOverflow, unappliedError, hpc', PortPc.masked]
  | processByte =>
    apply h.moved (RemoteNode.processByte_portCounters _ _ _ _) <;>
      simp only [goto, unappliedOverflow, unappliedError, hpc', PortPc.masked]
  | periodic =>
    apply h.moved (RemoteNode.processPeriodic_portCounters _ _ _ _) <;>
      simp only [goto, unappliedOverflow, unappliedError, hpc', PortPc.masked]
  | _ =>
    apply h.moved <;> simp only [goto, unappliedOverflow, unappliedError, hpc', PortPc.masked]

end NodePort.Counted

namespace NodePort

variable {s s' : NodePort}

theorem step_invariants {a : PortAction} (h : s.Fifo ∧ s.Counted) (taken : s.step a = some s') :
    s'.Fifo ∧ s'.Counted := by
  obtain ⟨hfifo, hcounted⟩ := h
  cases a with
  | process now accepted heartbeatAccepted =>
    cases taken
    exact ⟨hfifo.processStep _ _ _, hcounted.processStep _ _ _⟩
  | rxCplt byte rearmed =>
    rw [step] at taken
    cases hirq : s.irqMasked with
    | true =>
      rw [hirq] at taken
      cases taken
    | false =>
      rw [hirq] at taken
      cases taken
      exact ⟨hfifo.rxCpltCallback byte rearmed, hcounted.rxCpltCallback hirq byte rearmed⟩
  | error =>
    rw [step] at taken
    cases hirq : s.irqMasked with
    | true =>
      rw [hirq] at taken
      cases taken
    | false =>
      rw [hirq] at taken
      cases taken
      exact ⟨hfifo.errorCallback, hcounted.errorCallback hirq⟩

theorem invariants {now : UInt32} (run : Reachable step unguarded (initial now) s) :
    s.Fifo ∧ s.Counted :=
  run.invariant ⟨.initial now, .initial now⟩ fun _ _ _ h _ taken => step_invariants h taken

end NodePort

/-- The receive path of the remote node: the bytes processed, the byte in hand and those in the ring
    are the received bytes in order without the dropped ones. The ring holds at most 511 bytes. The
    dropped bytes are counted, and so are the UART errors with the failed re-arms: in the pending
    variables, in the local ones of `remote_node_port_process` or in the statistics. -/
theorem remoteNodePort_conserves {now : UInt32} {s : NodePort}
    (run : Reachable NodePort.step unguarded (NodePort.initial now) s) :
    s.processed ++ s.inHand ++ s.ring.bytes = s.kept ∧ s.ring.bytes.length ≤ 511 ∧
      UInt32.ofNat s.dropped =
        s.node.stats.uartRxOverflowCount + s.unappliedOverflow + s.rxOverflowPending ∧
      UInt32.ofNat s.errors =
        s.node.stats.uartErrorCount + s.unappliedError + s.uartErrorPending := by
  obtain ⟨hfifo, hcounted⟩ := NodePort.invariants run
  have hlength : s.ring.bytes.length = s.ring.count := Ring.contents_length _ _ _
  refine ⟨hfifo.bytes, ?_, hcounted.overflow, hcounted.error⟩
  rw [hlength]
  exact Nat.le_of_lt_succ s.ring.count_lt

/-- A byte with a failed re-arm, an error and a second byte; then `remote_node_port_process` has the
    first byte in hand and has counted both errors when a third one comes. -/
theorem remoteNodePort_conserves_inHand :
    ∃ s, Reachable NodePort.step unguarded (NodePort.initial 0) s ∧ s.inHand = [0xAA] ∧
      s.node.stats.uartErrorCount = 2 ∧ s.uartErrorPending = 1 ∧
      s.processed ++ s.inHand ++ s.ring.bytes = [0xAA, 0x55] ∧
      UInt32.ofNat s.errors =
        s.node.stats.uartErrorCount + s.unappliedError + s.uartErrorPending := by
  obtain ⟨s, run, htest⟩ := exists_reachable NodePort.step unguarded (NodePort.initial 0)
    (List.flatten [[.rxCplt 0xAA false, .error, .rxCplt 0x55 true],
      List.replicate 18 (.process 0 true true), [.error]])
    (fun s => decide (s.inHand = [0xAA] ∧ s.node.stats.uartErrorCount = 2 ∧
      s.uartErrorPending = 1 ∧ s.kept = [0xAA, 0x55]))
    (by decide +kernel)
  obtain ⟨hhand, hcount, hpending, hkept⟩ := of_decide_eq_true htest
  have h := remoteNodePort_conserves run
  exact ⟨s, run, hhand, hcount, hpending, h.1.trans hkept, h.2.2.2⟩

end Rs422Gateway
