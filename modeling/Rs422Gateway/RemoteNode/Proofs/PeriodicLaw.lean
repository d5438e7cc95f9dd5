import Rs422Gateway.Misc.PeriodicTimer
import Rs422Gateway.RemoteNode.Proofs.Statistics

/-!
# The periodic frames of the remote node

Each kind of periodic frame has a timer, which is asked by every call of
`remote_node_process_periodic` and touched by nothing else, and a SEQ that counts its frames. So the
frames are numbered without a gap, and how far two of them are apart is what `PeriodicTimer` says
(`run_periodic`).
-/

namespace Rs422Gateway

open Scanner StreamParser

namespace PeriodicKind

/-- When a frame of this kind has been sent last. -/
def lastMs : PeriodicKind → RemoteNode → UInt32
  | .telemetry, node => node.lastTelemetryMs
  | .heartbeat, node => node.lastHeartbeatMs

/-- The SEQ of the last frame of this kind. -/
def seq : PeriodicKind → RemoteNode → UInt16
  | .telemetry, node => node.telemetrySeq
  | .heartbeat, node => node.heartbeatSeq

theorem isFrame_wire {kind : PeriodicKind} {m : Message} :
    kind.IsFrame m.wire ↔ m.msgId = kind.msgId := by
  have hid : m.wire[offsetMsgId]? = some m.msgId := rfl
  rw [IsFrame, hid, Option.some_inj]

/-- The timer and the SEQ of this kind are the same, and no such frame is among `frames`. -/
structure Untouched (kind : PeriodicKind) (node node' : RemoteNode)
    (frames : List (List UInt8)) : Prop where
  lastMs : kind.lastMs node' = kind.lastMs node
  seq : kind.seq node' = kind.seq node
  frames : frames.filter (kind.IsFrame ·) = []

/-- One frame of this kind is among `frames`, with the next SEQ, and the timer starts again. -/
structure Sent (kind : PeriodicKind) (node : RemoteNode) (now : UInt32) (node' : RemoteNode)
    (frames : List (List UInt8)) : Prop where
  lastMs : kind.lastMs node' = now
  seq : kind.seq node' = kind.seq node + 1
  frames : ∃ m : Message, frames.filter (kind.IsFrame ·) = [m.wire] ∧ m.msgId = kind.msgId ∧
    m.seq = kind.seq node + 1

variable {kind : PeriodicKind} {node node' node'' : RemoteNode} {frames later : List (List UInt8)}

theorem Untouched.trans (h : kind.Untouched node node' frames)
    (h' : kind.Untouched node' node'' later) : kind.Untouched node node'' (frames ++ later) where
  lastMs := h'.lastMs.trans h.lastMs
  seq := h'.seq.trans h.seq
  frames := by rw [List.filter_append, h.frames, h'.frames, List.append_nil]

theorem Untouched.sent {now : UInt32} (h : kind.Untouched node node' frames)
    (h' : kind.Sent node' now node'' later) : kind.Sent node now node'' (frames ++ later) where
  lastMs := h'.lastMs
  seq := by rw [h'.seq, h.seq]
  frames := by
    obtain ⟨m, hframes, hid, hseq⟩ := h'.frames
    exact ⟨m, by rw [List.filter_append, h.frames, hframes, List.nil_append], hid,
      by rw [hseq, h.seq]⟩

theorem Sent.untouched {now : UInt32} (h : kind.Sent node now node' frames)
    (h' : kind.Untouched node' node'' later) : kind.Sent node now node'' (frames ++ later) where
  lastMs := h'.lastMs.trans h.lastMs
  seq := h'.seq.trans h.seq
  frames := by
    obtain ⟨m, hframes, hid, hseq⟩ := h.frames
    exact ⟨m, by rw [List.filter_append, h'.frames, hframes, List.append_nil], hid, hseq⟩

end PeriodicKind

namespace RemoteNode

variable {node : RemoteNode} {held : List UInt8} {reports : List Report} {failed : Bool}
  (kind : PeriodicKind)

@[simp] theorem lastMs_afterTx (node : RemoteNode) (accepted : Bool) :
    kind.lastMs (node.afterTx accepted) = kind.lastMs node := by
  cases kind <;> cases accepted <;> rfl

@[simp] theorem seq_afterTx (node : RemoteNode) (accepted : Bool) :
    kind.seq (node.afterTx accepted) = kind.seq node := by
  cases kind <;> cases accepted <;> rfl

theorem receive_timers (node : RemoteNode) (byte : UInt8) (r : Report) :
    kind.lastMs (node.receive byte r) = kind.lastMs node ∧
      kind.seq (node.receive byte r) = kind.seq node := by
  cases r with
  | none => cases kind <;> exact ⟨rfl, rfl⟩
  | frame m =>
    simp only [receive, noteReport, noteFrame]
    split
    · cases kind <;> exact ⟨rfl, rfl⟩
    · split <;> cases kind <;> exact ⟨rfl, rfl⟩
  | error e =>
    simp only [receive, noteReport, noteRejection]
    split <;> cases kind <;> exact ⟨rfl, rfl⟩

/-- A reply is no periodic frame. -/
theorem replyTo_not_periodic (node : RemoteNode) (m : Message) (now : UInt32) :
    ¬ kind.IsFrame (node.replyTo m now).wire := by
  have hid : (node.replyTo m now).msgId = msgPong ∨ (node.replyTo m now).msgId = msgStatusResp ∨
      (node.replyTo m now).msgId = msgError := by
    unfold replyTo
    split
    · split
      · exact .inl rfl
      · exact .inr (.inl rfl)
    · exact .inr (.inr rfl)
  rw [PeriodicKind.isFrame_wire]
  rcases hid with hid | hid | hid <;> rw [hid] <;> cases kind <;> decide

theorem processByte_untouched (h : node.Tracks held reports failed) (byte : UInt8) (now : UInt32)
    (accepted : Bool) :
    kind.Untouched node (node.processByte byte now accepted).1
      (node.processByte byte now accepted).2 := by
  obtain ⟨hlast, hseq⟩ := receive_timers kind node byte (scan held byte).2
  rw [processByte_scan h.parser]
  cases (scan held byte).2.answered with
  | none => exact ⟨hlast, hseq, rfl⟩
  | some m =>
    refine ⟨?_, ?_, ?_⟩
    · rw [lastMs_afterTx, hlast]
    · rw [seq_afterTx, hseq]
    · simp [replyTo_not_periodic]

/-- The part of `remote_node_process_periodic` for TELEMETRY. -/
theorem periodicTelemetry_kind (node : RemoteNode) (now : UInt32) (accepted : Bool) :
    (if telemetryPeriodMs ≤ now - node.lastTelemetryMs then
        PeriodicKind.telemetry.Sent node now (node.periodicTelemetry now accepted).1
          (node.periodicTelemetry now accepted).2
      else
        PeriodicKind.telemetry.Untouched node (node.periodicTelemetry now accepted).1
          (node.periodicTelemetry now accepted).2) ∧
      PeriodicKind.heartbeat.Untouched node (node.periodicTelemetry now accepted).1
        (node.periodicTelemetry now accepted).2 := by
  rw [periodicTelemetry_eq]
  by_cases hdue : telemetryPeriodMs ≤ now - node.lastTelemetryMs
  · simp only [if_pos hdue]
    refine ⟨⟨?_, ?_, _, rfl, rfl, rfl⟩, ?_, ?_, rfl⟩
    · exact lastMs_afterTx .telemetry (node.noteTelemetry now) accepted
    · exact seq_afterTx .telemetry (node.noteTelemetry now) accepted
    · exact lastMs_afterTx .heartbeat (node.noteTelemetry now) accepted
    · exact seq_afterTx .heartbeat (node.noteTelemetry now) accepted
  · simp only [if_neg hdue]
    exact ⟨⟨rfl, rfl, rfl⟩, rfl, rfl, rfl⟩

/-- The part for HEARTBEAT. -/
theorem periodicHeartbeat_kind (node : RemoteNode) (now : UInt32) (accepted : Bool) :
    (if heartbeatPeriodMs ≤ now - node.lastHeartbeatMs then
        PeriodicKind.heartbeat.Sent node now (node.periodicHeartbeat now accepted).1
          (node.periodicHeartbeat now accepted).2
      else
        PeriodicKind.heartbeat.Untouched node (node.periodicHeartbeat now accepted).1
          (node.periodicHeartbeat now accepted).2) ∧
      PeriodicKind.telemetry.Untouched node (node.periodicHeartbeat now accepted).1
        (node.periodicHeartbeat now accepted).2 := by
  rw [periodicHeartbeat_eq]
  by_cases hdue : heartbeatPeriodMs ≤ now - node.lastHeartbeatMs
  · simp only [if_pos hdue]
    refine ⟨⟨?_, ?_, _, rfl, rfl, rfl⟩, ?_, ?_, rfl⟩
    · exact lastMs_afterTx .heartbeat (node.noteHeartbeat now) accepted
    · exact seq_afterTx .heartbeat (node.noteHeartbeat now) accepted
    · exact lastMs_afterTx .telemetry (node.noteHeartbeat now) accepted
    · exact seq_afterTx .telemetry (node.noteHeartbeat now) accepted
  · simp only [if_neg hdue]
    exact ⟨⟨rfl, rfl, rfl⟩, rfl, rfl, rfl⟩

/-- What `remote_node_process_periodic` does for a kind: when its period is over, one frame is
    sent. -/
theorem processPeriodic_kind (node : RemoteNode) (now : UInt32)
    (telemetryAccepted heartbeatAccepted : Bool) :
    if kind.period ≤ now - kind.lastMs node then
      kind.Sent node now (node.processPeriodic now telemetryAccepted heartbeatAccepted).1
        (node.processPeriodic now telemetryAccepted heartbeatAccepted).2
    else
      kind.Untouched node (node.processPeriodic now telemetryAccepted heartbeatAccepted).1
        (node.processPeriodic now telemetryAccepted heartbeatAccepted).2 := by
  obtain ⟨htelemetry, hheartbeat⟩ := periodicTelemetry_kind node now telemetryAccepted
  obtain ⟨hheartbeat', htelemetry'⟩ :=
    periodicHeartbeat_kind (node.periodicTelemetry now telemetryAccepted).1 now heartbeatAccepted
  cases kind with
  | telemetry =>
    by_cases hdue : telemetryPeriodMs ≤ now - node.lastTelemetryMs
    · rw [if_pos hdue] at htelemetry
      exact (if_pos hdue).mpr (htelemetry.untouched htelemetry')
    · rw [if_neg hdue] at htelemetry
      exact (if_neg hdue).mpr (htelemetry.trans htelemetry')
  | heartbeat =>
    have hlast : (node.periodicTelemetry now telemetryAccepted).1.lastHeartbeatMs =
        node.lastHeartbeatMs := hheartbeat.lastMs
    rw [hlast] at hheartbeat'
    by_cases hdue : heartbeatPeriodMs ≤ now - node.lastHeartbeatMs
    · rw [if_pos hdue] at hheartbeat'
      exact (if_pos hdue).mpr (hheartbeat.sent hheartbeat')
    · rw [if_neg hdue] at hheartbeat'
      exact (if_neg hdue).mpr (hheartbeat.trans hheartbeat')

/-- Every call but `remote_node_process_periodic` leaves the periodic frames alone. -/
theorem call_cases (h : node.Tracks held reports failed) (c : NodeCall) :
    (∃ now telemetryAccepted heartbeatAccepted,
        c = .processPeriodic now telemetryAccepted heartbeatAccepted) ∨
      kind.Untouched node (node.call c).1 ((node.call c).2.map Transmission.frame) ∧
        ∀ rest, node.polls (c :: rest) = (node.call c).1.polls rest := by
  cases c with
  | processPeriodic now telemetryAccepted heartbeatAccepted => exact .inl ⟨_, _, _, rfl⟩
  | processByte byte now accepted =>
    refine .inr ⟨?_, fun _ => rfl⟩
    have huntouched := processByte_untouched kind h byte now accepted
    rwa [← List.map_id (node.processByte byte now accepted).2,
      ← show Transmission.frame ∘ (Transmission.mk · accepted) = id from rfl,
      ← List.map_map] at huntouched
  | setStatusFlags statusFlags => cases kind <;> exact .inr ⟨⟨rfl, rfl, rfl⟩, fun _ => rfl⟩
  | noteRxOverflow => cases kind <;> exact .inr ⟨⟨rfl, rfl, rfl⟩, fun _ => rfl⟩
  | noteUartError => cases kind <;> exact .inr ⟨⟨rfl, rfl, rfl⟩, fun _ => rfl⟩

/-! ## A run -/

theorem polls_processPeriodic (node : RemoteNode) (now : UInt32)
    (telemetryAccepted heartbeatAccepted : Bool) (rest : List NodeCall) :
    node.polls (.processPeriodic now telemetryAccepted heartbeatAccepted :: rest) =
      ⟨now, (node.processPeriodic now telemetryAccepted heartbeatAccepted).2⟩ ::
        (node.processPeriodic now telemetryAccepted heartbeatAccepted).1.polls rest := rfl

theorem emits_iff_filter (p : Poll) :
    p.Emits kind ↔ p.frames.filter (kind.IsFrame ·) ≠ [] := by
  simp [Poll.Emits, List.filter_eq_nil_iff]

theorem emits_iff_due (node : RemoteNode) (now : UInt32)
    (telemetryAccepted heartbeatAccepted : Bool) :
    Poll.Emits ⟨now, (node.processPeriodic now telemetryAccepted heartbeatAccepted).2⟩ kind ↔
      kind.period ≤ now - kind.lastMs node := by
  have hkind := processPeriodic_kind kind node now telemetryAccepted heartbeatAccepted
  rw [emits_iff_filter]
  by_cases hdue : kind.period ≤ now - kind.lastMs node
  · rw [if_pos hdue] at hkind
    obtain ⟨m, hframes, -⟩ := hkind.frames
    simp only [hframes, hdue, ne_eq, reduceCtorEq, not_false_eq_true]
  · rw [if_neg hdue] at hkind
    simp only [hkind.frames, hdue, ne_eq, not_true_eq_false]

/-- The frames of a kind that a run sends are numbered from the last SEQ on. -/
theorem run_messages (h : node.Tracks held reports failed) (calls : List NodeCall) :
    ∃ ms : List Message,
      ((node.run calls).2.map Transmission.frame).filter (kind.IsFrame ·) = ms.map Message.wire ∧
        ∀ k m, ms[k]? = some m →
          m.msgId = kind.msgId ∧ m.seq = kind.seq node + UInt16.ofNat (k + 1) := by
  induction calls generalizing node held reports failed with
  | nil => exact ⟨[], rfl, nofun⟩
  | cons c calls ih =>
    obtain ⟨ms, hms, hseqs⟩ := ih (h.call c)
    simp only [run, List.map_append, List.filter_append]
    rcases call_cases kind h c with
      ⟨now, telemetryAccepted, heartbeatAccepted, rfl⟩ | ⟨huntouched, -⟩
    · have hkind := processPeriodic_kind kind node now telemetryAccepted heartbeatAccepted
      rw [call_processPeriodic_frames, hms]
      by_cases hdue : kind.period ≤ now - kind.lastMs node
      · rw [if_pos hdue] at hkind
        obtain ⟨m, hframes, hid, hseq⟩ := hkind.frames
        refine ⟨m :: ms, by rw [hframes]; rfl, ?_⟩
        intro k m' hm'
        cases k with
        | zero =>
          cases hm'
          exact ⟨hid, hseq⟩
        | succ k =>
          obtain ⟨hid', hseq'⟩ := hseqs k m' hm'
          refine ⟨hid', hseq'.trans ?_⟩
          have hnext : kind.seq (node.call (.processPeriodic now telemetryAccepted
              heartbeatAccepted)).1 = kind.seq node + 1 := hkind.seq
          rw [hnext, UInt16.add_assoc, UInt16.add_comm 1, UInt16.ofNat_add (k + 1) 1]
          rfl
      · rw [if_neg hdue] at hkind
        refine ⟨ms, by rw [hkind.frames]; rfl, ?_⟩
        intro k m' hm'
        rw [← hkind.seq]
        exact hseqs k m' hm'
    · refine ⟨ms, by rw [huntouched.frames, hms]; rfl, ?_⟩
      intro k m' hm'
      rw [← huntouched.seq]
      exact hseqs k m' hm'

/-- The frames of a kind are sent by the calls of `remote_node_process_periodic`, at most one by
    each. -/
theorem run_polls (h : node.Tracks held reports failed) (calls : List NodeCall) :
    ((node.run calls).2.map Transmission.frame).filter (kind.IsFrame ·) =
        (node.polls calls).flatMap (·.frames.filter (kind.IsFrame ·)) ∧
      ∀ p ∈ node.polls calls, (p.frames.filter (kind.IsFrame ·)).length ≤ 1 := by
  induction calls generalizing node held reports failed with
  | nil => exact ⟨rfl, nofun⟩
  | cons c calls ih =>
    obtain ⟨hframes, hone⟩ := ih (h.call c)
    simp only [run, List.map_append, List.filter_append, hframes]
    rcases call_cases kind h c with
      ⟨now, telemetryAccepted, heartbeatAccepted, rfl⟩ | ⟨huntouched, hpolls⟩
    · have hkind := processPeriodic_kind kind node now telemetryAccepted heartbeatAccepted
      rw [call_processPeriodic_frames, polls_processPeriodic]
      refine ⟨rfl, ?_⟩
      intro p hp
      rcases List.mem_cons.mp hp with rfl | hp
      · split at hkind
        · obtain ⟨m, hframes', -⟩ := hkind.frames
          exact Nat.le_of_eq (congrArg List.length hframes')
        · exact (congrArg List.length hkind.frames).trans_le (Nat.zero_le 1)
      · exact hone p hp
    · rw [huntouched.frames, hpolls]
      exact ⟨rfl, hone⟩

/-- Each call asks the timer of the kind, and sends a frame when the timer fires. -/
theorem emits_iff_fires (h : node.Tracks held reports failed) (calls : List NodeCall) {k : Nat}
    {p : Poll} (hp : (node.polls calls)[k]? = some p) :
    p.Emits kind ↔
      PeriodicTimer.Fires kind.period.toNat (kind.lastMs node).toBitVec
        (fun k => (pollTime (node.polls calls) k).toBitVec) k := by
  induction calls generalizing node held reports failed k with
  | nil => cases hp
  | cons c calls ih =>
    rcases call_cases kind h c with
      ⟨now, telemetryAccepted, heartbeatAccepted, rfl⟩ | ⟨huntouched, hpolls⟩
    · rw [polls_processPeriodic] at hp ⊢
      cases k with
      | zero =>
        cases hp
        rw [emits_iff_due]
        exact UInt32.le_iff_toNat_le
      | succ k =>
        have hkind := processPeriodic_kind kind node now telemetryAccepted heartbeatAccepted
        have hlast : PeriodicTimer.last kind.period.toNat (kind.lastMs node).toBitVec
            (fun k => (pollTime (⟨now, (node.processPeriodic now telemetryAccepted
              heartbeatAccepted).2⟩ :: (node.processPeriodic now telemetryAccepted
                heartbeatAccepted).1.polls calls) k).toBitVec) 1 =
            (kind.lastMs (node.processPeriodic now telemetryAccepted
              heartbeatAccepted).1).toBitVec := by
          split at hkind
          case isTrue hdue =>
            rw [hkind.lastMs]
            exact if_pos (UInt32.le_iff_toNat_le.mp hdue)
          case isFalse hdue =>
            rw [hkind.lastMs]
            exact if_neg fun hle => hdue (UInt32.le_iff_toNat_le.mpr hle)
        rw [PeriodicTimer.fires_succ, hlast]
        exact ih (h.call (.processPeriodic now telemetryAccepted heartbeatAccepted)) hp
    · rw [hpolls] at hp ⊢
      rw [← huntouched.lastMs]
      exact ih (h.call c) hp

/-- Two successive frames of a kind are two successive firings of its timer. -/
theorem successive_fires (h : node.Tracks held reports failed) {calls : List NodeCall} {i j : Nat}
    (hij : SuccessiveEmissions (node.polls calls) kind i j) :
    PeriodicTimer.Successive kind.period.toNat (kind.lastMs node).toBitVec
      (fun k => (pollTime (node.polls calls) k).toBitVec) i j := by
  obtain ⟨hlt, ⟨p, hp, hfirst⟩, ⟨p', hp', hsecond⟩, hquiet⟩ := hij
  refine ⟨hlt, (emits_iff_fires kind h calls hp).mp hfirst,
    (emits_iff_fires kind h calls hp').mp hsecond, ?_⟩
  intro k hik hkj hfires
  have hk : k < (node.polls calls).length :=
    hkj.trans (List.getElem?_eq_some_iff.mp hp').1
  have hget := List.getElem?_eq_getElem hk
  exact hquiet k _ hik hkj hget ((emits_iff_fires kind h calls hget).mpr hfires)

/-- The law of the periodic frames, over every run: the frames of a kind have the SEQs 1, 2, 3 and
    so on, modulo 2^16, and are sent by `remote_node_process_periodic`, at most one by each call.
    Two successive ones are at least a period apart, and less than `d` more than a period when the
    clock advances by at most `d` from one of these calls to the next. A call sends one exactly when
    the timer of the kind, started by `remote_node_init`, fires. -/
theorem run_periodic (start : UInt32) (calls : List NodeCall) (kind : PeriodicKind) :
    let sent := ((init start).run calls).2.map Transmission.frame
    let polls := (init start).polls calls
    (∃ ms : List Message, sent.filter (kind.IsFrame ·) = ms.map Message.wire ∧
        ∀ k m, ms[k]? = some m → m.msgId = kind.msgId ∧ m.seq = UInt16.ofNat (k + 1)) ∧
      (sent.filter (kind.IsFrame ·) = polls.flatMap (·.frames.filter (kind.IsFrame ·)) ∧
        ∀ p ∈ polls, (p.frames.filter (kind.IsFrame ·)).length ≤ 1) ∧
      (∀ i j, SuccessiveEmissions polls kind i j →
        kind.period ≤ pollTime polls j - pollTime polls i ∧
          ∀ d : Nat, 0 < d → d < 2 ^ 31 →
            (∀ k, k + 1 < polls.length →
              (pollTime polls (k + 1) - pollTime polls k).toNat ≤ d) →
            PeriodicTimer.elapsed (fun k => (pollTime polls k).toBitVec) i j ≤
                kind.period.toNat - 1 + d ∧
              (pollTime polls j - pollTime polls i).toNat =
                PeriodicTimer.elapsed (fun k => (pollTime polls k).toBitVec) i j) ∧
      ∀ k p, polls[k]? = some p →
        (p.Emits kind ↔
          PeriodicTimer.Fires kind.period.toNat start.toBitVec
            (fun k => (pollTime polls k).toBitVec) k) := by
  intro sent polls
  have htracks := init_tracks start
  refine ⟨?_, run_polls kind htracks calls, ?_, ?_⟩
  · obtain ⟨ms, hms, hseqs⟩ := run_messages kind htracks calls
    have hstart : kind.seq (init start) = 0 := by cases kind <;> rfl
    refine ⟨ms, hms, fun k m hm => ?_⟩
    obtain ⟨hid, hseq⟩ := hseqs k m hm
    rw [hstart, UInt16.zero_add] at hseq
    exact ⟨hid, hseq⟩
  · intro i j hij
    have hsuccessive := successive_fires kind htracks hij
    have hpos : 0 < kind.period.toNat := by cases kind <;> decide
    have hperiod : kind.period.toNat ≤ 500 := by cases kind <;> decide
    refine ⟨UInt32.le_iff_toNat_le.mpr hsuccessive.period_le, fun d _ hd hadvance => ?_⟩
    have hlength : j < polls.length := by
      obtain ⟨p, hp, -⟩ := hij.second
      exact (List.getElem?_eq_some_iff.mp hp).1
    have hlt : PeriodicTimer.elapsed (fun k => (pollTime polls k).toBitVec) i j <
        kind.period.toNat + d :=
      hsuccessive.elapsed_lt hpos (by omega) fun k _ hkj => hadvance k (by omega)
    have hshort : PeriodicTimer.elapsed (fun k => (pollTime polls k).toBitVec) i j < 2 ^ 32 := by
      omega
    have hshown := PeriodicTimer.toNat_sub_eq hij.lt.le hshort
    exact ⟨by omega, hshown⟩
  · intro k p hp
    have hstart : kind.lastMs (init start) = start := by cases kind <;> rfl
    have hfires := emits_iff_fires kind htracks calls hp
    rwa [hstart] at hfires

/-- Three calls 60 ms apart while the clock wraps. -/
def wrapCalls : List NodeCall :=
  [.processPeriodic 4294967266 true true, .processPeriodic 30 false true,
    .processPeriodic 90 true true]

/-- The first and the third of them send a TELEMETRY. -/
theorem run_periodic_wrap :
    telemetryPeriodMs ≤ pollTime ((init 4294967166).polls wrapCalls) 2 -
        pollTime ((init 4294967166).polls wrapCalls) 0 ∧
      PeriodicTimer.elapsed
          (fun k => (pollTime ((init 4294967166).polls wrapCalls) k).toBitVec) 0 2 ≤ 99 + 60 := by
  have htest : ((init 4294967166).polls wrapCalls).map
      (fun p => decide (p.Emits .telemetry)) = [true, false, true] := by decide +kernel
  have htimes : ((init 4294967166).polls wrapCalls).map Poll.now = [4294967266, 30, 90] := by
    decide +kernel
  have hlaw := (run_periodic 4294967166 wrapCalls .telemetry).2.2.1 0 2
  generalize (init 4294967166).polls wrapCalls = polls at htest htimes hlaw ⊢
  have hlength : polls.length = 3 := by simpa using congrArg List.length htest
  have hget : ∀ k (hk : k < polls.length),
      [true, false, true][k]? = some (decide (polls[k].Emits .telemetry)) := by
    intro k hk
    rw [← htest, List.getElem?_map, List.getElem?_eq_getElem hk]
    rfl
  have hsuccessive : SuccessiveEmissions polls .telemetry 0 2 := by
    refine ⟨by decide, ⟨_, List.getElem?_eq_getElem (by omega), ?_⟩,
      ⟨_, List.getElem?_eq_getElem (by omega), ?_⟩, ?_⟩
    · exact of_decide_eq_true (Option.some_inj.mp (hget 0 (by omega))).symm
    · exact of_decide_eq_true (Option.some_inj.mp (hget 2 (by omega))).symm
    · intro k p hk hk' hp
      obtain rfl : k = 1 := by omega
      obtain ⟨-, rfl⟩ := List.getElem?_eq_some_iff.mp hp
      exact of_decide_eq_false (Option.some_inj.mp (hget 1 (by omega))).symm
  obtain ⟨hperiod, hadvance⟩ := hlaw hsuccessive
  refine ⟨hperiod, (hadvance 60 (by decide) (by decide) ?_).1⟩
  intro k hk
  have hcases : k = 0 ∨ k = 1 := by omega
  rcases hcases with rfl | rfl <;> (simp only [pollTime, htimes]; decide)

end RemoteNode

end Rs422Gateway
