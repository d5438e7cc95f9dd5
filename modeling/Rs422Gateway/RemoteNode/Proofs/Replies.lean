import Rs422Gateway.Common.Proofs.Alignment
import Rs422Gateway.RemoteNode.Proofs.Handling

/-!
# What the remote node sends

A zero-length PING is answered by a PONG with its SEQ, and `remote_node_process_periodic` sends
whole frames of its own.
-/

namespace Rs422Gateway

/-- The message of a frame without payload. -/
def emptyMessage (msgId : UInt8) (seq : UInt16) : Message := ⟨msgId, seq, [], Message.nil_bounded⟩

namespace RemoteNode

variable {node : RemoteNode}

theorem sendPacket_empty {msgId : UInt8} {seq : UInt16} :
    node.sendPacket (filledPacket msgId seq []) true = (node, [(emptyMessage msgId seq).wire]) :=
  sendPacket_filledPacket (Nat.zero_le _) true

/-- A zero-length PING is answered by the PONG with its SEQ. -/
theorem handlePacket_ping (node : RemoteNode) (seq : UInt16) (q : ProtocolPacket) (now : UInt32) :
    ((node.handlePacket ((emptyMessage msgPing seq).packet q) now true).1.parser = node.parser) ∧
      (node.handlePacket ((emptyMessage msgPing seq).packet q) now true).2 =
        [(emptyMessage msgPong seq).wire] := by
  have hmsgId : ((emptyMessage msgPing seq).packet q).msgId = msgPing := rfl
  have hseq : ((emptyMessage msgPing seq).packet q).seq = seq := rfl
  have hlength : ((emptyMessage msgPing seq).packet q).length = 0 := rfl
  unfold handlePacket handlePing
  simp only [hmsgId, hseq, hlength, if_true, ne_eq, not_true_eq_false, if_false, sendPacket_empty,
    and_true]
  rfl

/-- One byte of a stream of zero-length PINGs. -/
theorem processByte_pings {byte : UInt8} {rest : List UInt8} {seqs : List UInt16} (now : UInt32)
    (h : node.parser.Expects (byte :: rest) (seqs.map (emptyMessage msgPing))) :
    ∃ done left, seqs = done ++ left ∧
      (node.processByte byte now true).1.parser.Expects rest (left.map (emptyMessage msgPing)) ∧
      (node.processByte byte now true).1.parser.SameErrors node.parser ∧
      (node.processByte byte now true).2 = done.map fun seq => (emptyMessage msgPong seq).wire := by
  obtain ⟨herrors, hfeed⟩ := h.feedByte .zero
  rcases hfeed with ⟨hevent, -, hexpects⟩ | ⟨m, later, hms, hevent, hpacket, hexpects⟩
  · refine ⟨[], seqs, rfl, ?_⟩
    simp only [processByte, hevent]
    exact ⟨hexpects, herrors, rfl⟩
  · obtain ⟨seq, left, rfl, rfl, rfl⟩ := List.map_eq_cons_iff.mp hms
    have hreply :=
      handlePacket_ping { node with parser := (node.parser.feedByte byte .zero).1 } seq .zero now
    refine ⟨[seq], left, rfl, ?_⟩
    simp only [processByte, hevent, hpacket, hreply]
    exact ⟨hexpects, herrors, rfl⟩

/-- A chunk of a stream of zero-length PINGs. -/
theorem processBytes_pings {inputs : List (UInt8 × UInt32 × Bool)} {rest : List UInt8}
    {seqs : List UInt16} (accepted : ∀ input ∈ inputs, input.2.2 = true)
    (h : node.parser.Expects (inputs.map Prod.fst ++ rest) (seqs.map (emptyMessage msgPing))) :
    ∃ done left, seqs = done ++ left ∧
      (node.processBytes inputs).1.parser.Expects rest (left.map (emptyMessage msgPing)) ∧
      (node.processBytes inputs).1.parser.SameErrors node.parser ∧
      (node.processBytes inputs).2 = done.map fun seq => (emptyMessage msgPong seq).wire := by
  induction inputs generalizing node seqs with
  | nil => exact ⟨[], seqs, rfl, h, .refl _, rfl⟩
  | cons input inputs ih =>
    obtain ⟨byte, now, ok⟩ := input
    obtain rfl : ok = true := accepted _ List.mem_cons_self
    obtain ⟨done, left, rfl, hexpects, herrors, hframes⟩ := processByte_pings now h
    obtain ⟨done', left', rfl, hexpects', herrors', hframes'⟩ :=
      ih (fun input hmem => accepted input (List.mem_cons_of_mem _ hmem)) hexpects
    refine
      ⟨done ++ done', left', (List.append_assoc _ _ _).symm, hexpects', herrors'.trans herrors, ?_⟩
    simp only [processBytes, hframes, hframes', List.map_append]

/-- A frame that `remote_node_process_periodic` sends. -/
def Periodic (m : Message) : Prop := m.msgId = msgTelemetry ∨ m.msgId = msgHeartbeat

/-- `remote_node_process_periodic` sends whole frames and leaves the parser alone. -/
theorem processPeriodic_frames (node : RemoteNode) (now : UInt32) :
    (node.processPeriodic now true true).1.parser = node.parser ∧
      ∃ ms : List Message, (node.processPeriodic now true true).2 = ms.map Message.wire ∧
        ∀ m ∈ ms, Periodic m := by
  have htelemetry : (node.periodicTelemetry now true).1.parser = node.parser ∧
      ∃ ms : List Message, (node.periodicTelemetry now true).2 = ms.map Message.wire ∧
        ∀ m ∈ ms, Periodic m := by
    unfold periodicTelemetry
    split
    · rw [sendPacket_filledPacket (by simp [writeU32Be, writeU16Be]) true]
      refine ⟨rfl, [_], rfl, ?_⟩
      intro m hm
      rw [List.mem_singleton.mp hm]
      exact .inl rfl
    · exact ⟨rfl, [], rfl, by simp⟩
  have hheartbeat : ∀ node : RemoteNode, (node.periodicHeartbeat now true).1.parser = node.parser ∧
      ∃ ms : List Message, (node.periodicHeartbeat now true).2 = ms.map Message.wire ∧
        ∀ m ∈ ms, Periodic m := by
    intro node
    unfold periodicHeartbeat
    split
    · rw [sendPacket_filledPacket (by simp [writeU32Be]) true]
      refine ⟨rfl, [_], rfl, ?_⟩
      intro m hm
      rw [List.mem_singleton.mp hm]
      exact .inr rfl
    · exact ⟨rfl, [], rfl, by simp⟩
  obtain ⟨hparser, ms, hms, hperiodic⟩ := htelemetry
  obtain ⟨hparser', ms', hms', hperiodic'⟩ := hheartbeat (node.periodicTelemetry now true).1
  refine ⟨hparser'.trans hparser, ms ++ ms', ?_, ?_⟩
  · rw [List.map_append, ← hms, ← hms']
    rfl
  · intro m hm
    rcases List.mem_append.mp hm with hm | hm
    · exact hperiodic m hm
    · exact hperiodic' m hm

end RemoteNode

end Rs422Gateway
