import Rs422Gateway.Common.Proofs.Alignment
import Rs422Gateway.RemoteNode.Proofs.Statistics
import Rs422Gateway.RemoteNode.Wired

/-!
# The replies of the remote node

What `remote_node_process_bytes` hands to `tx_fn` are the replies to the valid frames of the parse
that are no ERROR, one each and in order (`processBytes_requests`, `requests_messages`).

Between two nodes wired together a frame is answered at most twice, because a reply has a smaller
rank than the frame it answers (`rank_replyTo`) and an ERROR, of rank 0, is not answered.
-/

namespace Rs422Gateway

open Scanner StreamParser

/-! ## One reply -/

namespace Request

theorem statusPayload_length (r : Request) : r.statusPayload.length = 20 := by
  simp [statusPayload, writeU32Be]

/-- A reply echoes the SEQ. -/
theorem reply_seq (r : Request) : r.reply.seq = r.message.seq := by
  unfold reply
  split
  · split <;> rfl
  · rfl

/-- The LENGTH of a reply. -/
theorem reply_length (r : Request) :
    r.reply.payload.length =
      if r.message.IsRequest then (if r.message.msgId = msgPing then 0 else 20) else 2 := by
  unfold reply
  split
  · split
    · rfl
    · exact r.statusPayload_length
  · rfl

end Request

/-! ## The requests of a stream -/

theorem requests_cons (reports : List Report) (held : List UInt8) (failed : Bool) (byte : UInt8)
    (now : UInt32) (accepted : Bool) (rest : List (UInt8 × UInt32 × Bool)) :
    requests reports held failed ((byte, now, accepted) :: rest) =
      match (scan held byte).2.answered with
      | none => requests (reports ++ [(scan held byte).2]) (scan held byte).1 failed rest
      | some m =>
          ⟨m, now, reports ++ [(scan held byte).2], failed⟩ ::
            requests (reports ++ [(scan held byte).2]) (scan held byte).1 (failed || !accepted)
              rest := by
  rcases hscan : scan held byte with ⟨held', report⟩
  simp only [requests, hscan]
  cases report with
  | none => rfl
  | frame m => by_cases h : m.msgId = msgError <;> simp [Report.answered, h]
  | error e => rfl

/-- The requests of a stream are the valid frames of its parse that are no ERROR, in order. -/
theorem requests_messages (reports : List Report) (held : List UInt8) (failed : Bool)
    (inputs : List (UInt8 × UInt32 × Bool)) :
    (requests reports held failed inputs).map Request.message =
      (validFrames (Scanner.reports held (inputs.map Prod.fst))).filter (·.msgId ≠ msgError) := by
  induction inputs generalizing reports held failed with
  | nil => rfl
  | cons input inputs ih =>
    obtain ⟨byte, now, accepted⟩ := input
    have hreports : validFrames (Scanner.reports held (byte :: inputs.map Prod.fst)) =
        validFrames [(scan held byte).2] ++
          validFrames (Scanner.reports (scan held byte).1 (inputs.map Prod.fst)) :=
      validFrames_append [(scan held byte).2] _
    rw [requests_cons, List.map_cons, hreports, List.filter_append]
    cases (scan held byte).2 with
    | none => exact ih _ _ _
    | error e => exact ih _ _ _
    | frame m =>
      by_cases h : m.msgId = msgError <;> simp [Report.answered, validFrames_frame, h, ih]

namespace RemoteNode

variable {node : RemoteNode} {held : List UInt8} {reports : List Report} {failed : Bool}

theorem statusPayload_tracks {m : Message} (now : UInt32)
    (h : node.Tracks held (reports ++ [.frame m]) failed) :
    node.statusPayload now = Request.statusPayload ⟨m, now, reports ++ [.frame m], failed⟩ := by
  have hframes : validFrames (reports ++ [.frame m]) = validFrames reports ++ [m] :=
    validFrames_append _ _
  have hlast : (validFrames (reports ++ [.frame m])).getLast? = some m := by
    rw [hframes, List.getLast?_concat]
  have hstatus : node.stats.commStatus = if failed then .error else .ok := by
    rw [h.commStatus, hframes]
    cases failed with
    | true => rfl
    | false => simp [expectedStatus]
  unfold statusPayload Request.statusPayload
  rw [h.validFrameCount, h.parserErrorCount, h.crcErrorCount, h.lastRxSeq m hlast, hstatus]

/-- The reply sent after a frame has been noted is the reply to it in its history. -/
theorem replyTo_tracks {m : Message} (now : UInt32)
    (h : node.Tracks held (reports ++ [.frame m]) failed) :
    node.replyTo m now = Request.reply ⟨m, now, reports ++ [.frame m], failed⟩ := by
  unfold replyTo Request.reply
  simp only [statusPayload_tracks now h]

theorem answered_eq_some {r : Report} {m : Message} (h : r.answered = some m) :
    r = .frame m ∧ m.msgId ≠ msgError := by
  cases r with
  | none => cases h
  | error e => cases h
  | frame m' =>
    simp only [Report.answered] at h
    split at h
    case isTrue => cases h
    case isFalse hid =>
      cases h
      exact ⟨rfl, hid⟩

/-- The frames sent while a stream is received are the replies to its requests. -/
theorem processBytes_requests (h : node.Tracks held reports failed)
    (inputs : List (UInt8 × UInt32 × Bool)) :
    (node.processBytes inputs).2 =
      (requests reports held failed inputs).map fun r => r.reply.wire := by
  induction inputs generalizing node held reports failed with
  | nil => rfl
  | cons input inputs ih =>
    obtain ⟨byte, now, accepted⟩ := input
    have hreceive := h.receive byte
    rw [requests_cons]
    simp only [processBytes]
    rw [processByte_scan h.parser]
    cases hanswered : (scan held byte).2.answered with
    | none => exact ih hreceive
    | some m =>
      obtain ⟨hreport, -⟩ := answered_eq_some hanswered
      have hafter := ih (hreceive.afterTx accepted)
      simp only [hreport] at hreceive hafter ⊢
      rw [replyTo_tracks now hreceive, hafter]
      rfl

@[simp] theorem parser_afterTx (node : RemoteNode) (accepted : Bool) :
    (node.afterTx accepted).parser = node.parser := by
  cases accepted <;> rfl

end RemoteNode

/-! ## Two nodes wired together -/

/-- What is on the wire is the beginning of a frame, and all of it when it has been accepted. -/
theorem Delivery.onWire_prefix (d : Delivery) (frame : List UInt8) :
    ∃ missing, d.onWire frame ++ missing = frame := by
  unfold onWire Transmission.onWire
  split
  · exact ⟨[], List.append_nil frame⟩
  · exact ⟨frame.drop d.cut, List.take_append_drop _ _⟩

/-- How many replies a frame can cause. -/
def Message.rank (m : Message) : Nat :=
  if m.msgId = msgError then 0
  else if m.msgId = msgPong ∨ m.msgId = msgStatusResp then 1
  else 2

theorem Message.rank_le (m : Message) : m.rank ≤ 2 := by
  unfold rank
  split
  · decide
  · split <;> decide

/-- A reply causes fewer replies than the frame it answers. -/
theorem rank_replyTo (node : RemoteNode) {m : Message} (now : UInt32) (h : m.msgId ≠ msgError) :
    (node.replyTo m now).rank < m.rank := by
  by_cases hrequest : m.IsRequest
  · have hm : m.rank = 2 := by
      rcases hrequest.1 with hid | hid <;> (unfold Message.rank; rw [hid]; decide)
    have hreply : (node.replyTo m now).rank = 1 := by
      simp only [RemoteNode.replyTo, if_pos hrequest]
      split <;> rfl
    omega
  · have hm : 1 ≤ m.rank := by
      unfold Message.rank
      rw [if_neg h]
      split <;> decide
    have hreply : (node.replyTo m now).rank = 0 := by
      simp only [RemoteNode.replyTo, if_neg hrequest]
      rfl
    omega

namespace Wired

/-- `m` is on its way to `a`, maybe not all of it, and nothing else. -/
structure Carries (s : Wired) (m : Message) : Prop where
  idle : s.b.parser.Represents []
  silent : s.toB = []
  frame : ∃ held missing, s.a.parser.Represents held ∧ Aligned held (s.toA ++ missing) [m]
  budget : s.replies + m.rank ≤ 2

/-- Nothing is on its way. -/
structure Quiet (s : Wired) : Prop where
  idleA : s.a.parser.Represents []
  idleB : s.b.parser.Represents []
  silentA : s.toA = []
  silentB : s.toB = []
  budget : s.replies ≤ 2

/-- At most one frame is on its way. -/
def Settles (s : Wired) : Prop := s.Quiet ∨ (∃ m, s.Carries m) ∨ ∃ m, s.swap.Carries m

variable {s : Wired}

theorem Settles.budget (h : s.Settles) : s.replies ≤ 2 := by
  rcases h with h | ⟨m, h⟩ | ⟨m, h⟩
  · exact h.budget
  · exact Nat.le_trans (Nat.le_add_right _ _) h.budget
  · exact Nat.le_trans (Nat.le_add_right _ _) h.budget

theorem Settles.swap (h : s.Settles) : s.swap.Settles := by
  rcases h with h | h | h
  · exact .inl ⟨h.idleB, h.idleA, h.silentB, h.silentA, h.budget⟩
  · exact .inr (.inr h)
  · exact .inr (.inl h)

/-- The next byte of the frame on its way. -/
theorem Carries.deliver {m : Message} (h : s.Carries m) {byte : UInt8} {rest : List UInt8}
    (hnext : s.toA = byte :: rest) (d : Delivery) : (s.deliver d).Settles := by
  obtain ⟨held, missing, hrep, haligned⟩ := h.frame
  rw [hnext, List.cons_append] at haligned
  have hrep' := (feedByte_refines .zero byte hrep).1
  have hbudget := h.budget
  unfold Wired.deliver
  simp only [hnext, RemoteNode.processByte_scan hrep, h.silent]
  rcases haligned.scan with ⟨hreport, haligned'⟩ | ⟨m', later, hms, hreport, haligned'⟩
  · simp only [hreport, Report.answered]
    refine .inr (.inl ⟨m, h.idle, rfl, ⟨_, missing, ?_, haligned'⟩, hbudget⟩)
    rw [RemoteNode.parser_receive]
    exact hrep'
  · cases hms
    -- The frame is complete, so nothing is held and nothing is missing.
    have hempty := haligned'.bytes
    simp only [List.flatMap_nil, List.append_eq_nil_iff] at hempty
    obtain ⟨hheld, rfl, rfl⟩ := hempty
    rw [hheld] at hrep'
    by_cases herror : m.msgId = msgError
    · simp only [hreport, Report.answered, if_pos herror]
      refine .inl ⟨?_, h.idle, rfl, rfl, Nat.le_trans (Nat.le_add_right _ _) hbudget⟩
      rw [RemoteNode.parser_receive]
      exact hrep'
    · simp only [hreport, Report.answered, if_neg herror]
      generalize hnode : s.a.receive byte (.frame m) = node
      have hnodeParser : node.parser.Represents [] := by
        rw [← hnode, RemoteNode.parser_receive]
        exact hrep'
      have hrank := rank_replyTo node d.now herror
      obtain ⟨missing, hmissing⟩ := d.onWire_prefix (node.replyTo m d.now).wire
      have hreply : Aligned [] (d.onWire (node.replyTo m d.now).wire ++ missing)
          [node.replyTo m d.now] := by
        refine ⟨?_, .inl rfl⟩
        rw [List.nil_append, hmissing, List.flatMap_singleton]
      refine .inr (.inr ⟨node.replyTo m d.now, ?_, rfl, ⟨[], missing, h.idle, ?_⟩, ?_⟩)
      · exact (RemoteNode.parser_afterTx node d.accepted).symm ▸ hnodeParser
      · rw [← List.flatMap_singleton d.onWire] at hreply
        exact hreply
      · show s.replies + 1 + (node.replyTo m d.now).rank ≤ 2
        omega

theorem Settles.deliver (h : s.Settles) (d : Delivery) : (s.deliver d).Settles := by
  cases hnext : s.toA with
  | nil =>
    have hsame : s.deliver d = s := by
      unfold Wired.deliver
      rw [hnext]
    rw [hsame]
    exact h
  | cons byte rest =>
    rcases h with h | ⟨m, h⟩ | ⟨m, h⟩
    · exact absurd (h.silentA.symm.trans hnext) nofun
    · exact h.deliver hnext d
    · exact absurd (h.silent.symm.trans hnext) nofun

theorem Settles.step (h : s.Settles) (d : Delivery) : (s.step d).Settles := by
  unfold Wired.step
  split
  · exact h.deliver d
  · exact (h.swap.deliver d).swap

theorem Settles.run (h : s.Settles) (deliveries : List Delivery) :
    (deliveries.foldl Wired.step s).Settles := by
  induction deliveries generalizing s with
  | nil => exact h
  | cons d deliveries ih => exact ih (h.step d)

theorem inject_settles {a b : RemoteNode} (ha : a.parser.Represents [])
    (hb : b.parser.Represents []) (m : Message) : (inject a b m).Settles := by
  refine .inr (.inl ⟨m, hb, rfl, ⟨[], [], ha, ?_, .inl rfl⟩, ?_⟩)
  · rw [List.nil_append, List.append_nil, List.flatMap_singleton]
    rfl
  · show 0 + m.rank ≤ 2
    rw [Nat.zero_add]
    exact m.rank_le

end Wired

namespace RemoteNode

/-- A parser between two frames holds nothing. -/
theorem Tracks.between {node : RemoteNode} {held : List UInt8} {reports : List Report}
    {failed : Bool} (h : node.Tracks held reports failed)
    (state : node.parser.state = .waitMagic1) : node.parser.Represents [] := by
  have hempty : held = [] := by
    have hstate := h.parser.state
    rw [state] at hstate
    unfold stateOf at hstate
    by_contra hne
    rw [if_neg (fun h => hne (List.length_eq_zero_iff.mp h))] at hstate
    split at hstate
    · cases hstate
    · split at hstate <;> cases hstate
  rw [← hempty]
  exact h.parser

/-- The reply law: after every run, the frames sent while a stream is received are the replies to
    the valid frames in it that are no ERROR, and each of them can be decoded. Of two nodes wired
    together, both between two frames, a frame that is injected causes at most two replies. -/
theorem processBytes_replies (now : UInt32) (calls : List NodeCall) :
    (∀ inputs : List (UInt8 × UInt32 × Bool),
      let answered :=
        requests (Scanner.reports [] (receivedBytes calls)) (scanAll [] (receivedBytes calls))
          (CommFailed calls ((init now).run calls).2) inputs
      answered.map Request.message =
          (validFrames (Scanner.reports (scanAll [] (receivedBytes calls))
            (inputs.map Prod.fst))).filter (·.msgId ≠ msgError) ∧
        (((init now).run calls).1.processBytes inputs).2 =
          answered.map (fun r => r.reply.wire) ∧
        ∀ r ∈ answered, r.reply.seq = r.message.seq ∧
          r.reply.payload.length =
            (if r.message.IsRequest then (if r.message.msgId = msgPing then 0 else 20) else 2) ∧
          ∀ q, (protocolDecode r.reply.wire q).result = .ok ∧
            (protocolDecode r.reply.wire q).packet.message = r.reply) ∧
      ∀ (now' : UInt32) (calls' : List NodeCall) (m : Message) (deliveries : List Delivery),
        ((init now).run calls).1.parser.state = .waitMagic1 →
        ((init now').run calls').1.parser.state = .waitMagic1 →
        (deliveries.foldl Wired.step
          (.inject ((init now).run calls).1 ((init now').run calls').1 m)).replies ≤ 2 := by
  constructor
  · intro inputs answered
    refine ⟨requests_messages _ _ _ inputs, processBytes_requests (run_tracks now calls) inputs, ?_⟩
    intro r _
    refine ⟨r.reply_seq, r.reply_length, fun q => ?_⟩
    rw [protocolDecode_wire]
    exact ⟨rfl, Message.packet_message _ _⟩
  · intro now' calls' m deliveries state state'
    exact ((Wired.inject_settles ((run_tracks now calls).between state)
      ((run_tracks now' calls').between state') m).run deliveries).budget

/-- A PING between two nodes that have just been started, ten bytes to the one, the PONG to the
    other and the ERROR back. -/
theorem processBytes_replies_ping :
    ((List.replicate 10 (Delivery.mk true 0 true 0) ++
        List.replicate 10 (Delivery.mk false 0 true 0) ++
        List.replicate 12 (Delivery.mk true 0 true 0)).foldl Wired.step
      (.inject (init 0) (init 7) ⟨msgPing, 5, [], Nat.zero_le _⟩)).replies ≤ 2 :=
  (processBytes_replies 0 []).2 7 [] _ _ rfl rfl

end RemoteNode

end Rs422Gateway
