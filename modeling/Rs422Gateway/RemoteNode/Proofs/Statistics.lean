import Rs422Gateway.RemoteNode.Proofs.Handling

/-!
# The statistics of the remote node

At the end of every run the statistics are the reference function of the history: what the scanner
reports for all bytes received says how many frames were valid or rejected, how many were unknown
and how many requests were repeated (`run_statistics`).

The parser and the node count on their own. What both add for a byte is said by its report, so each
counter is a sum over the reports (`Report.framesOk_eq` and the like).
-/

namespace Rs422Gateway

open Scanner StreamParser

/-! ## Counting reports -/

@[simp] theorem validFrames_append (xs ys : List Report) :
    validFrames (xs ++ ys) = validFrames xs ++ validFrames ys :=
  List.filterMap_append

@[simp] theorem crcRejections_append (xs ys : List Report) :
    crcRejections (xs ++ ys) = crcRejections xs + crcRejections ys :=
  List.countP_append

@[simp] theorem otherRejections_append (xs ys : List Report) :
    otherRejections (xs ++ ys) = otherRejections xs + otherRejections ys :=
  List.countP_append

@[simp] theorem receivedBytes_append (xs ys : List NodeCall) :
    receivedBytes (xs ++ ys) = receivedBytes xs ++ receivedBytes ys :=
  List.filterMap_append

/-- The keys of the requests of a parse. -/
def requestKeys (reports : List Report) : List (UInt8 × UInt16) :=
  ((validFrames reports).filter (·.IsRequest)).map Message.key

@[simp] theorem requestKeys_append (xs ys : List Report) :
    requestKeys (xs ++ ys) = requestKeys xs ++ requestKeys ys := by
  simp [requestKeys]

theorem validFrames_frame (m : Message) : validFrames [.frame m] = [m] := rfl

theorem requestKeys_frame (m : Message) :
    requestKeys [.frame m] = if m.IsRequest then [m.key] else [] := by
  by_cases h : m.IsRequest <;> simp [requestKeys, validFrames_frame, h]

theorem requestKeys_singleton (r : Report) :
    requestKeys [r] = [] ∨ ∃ k, requestKeys [r] = [k] := by
  cases r with
  | none => exact .inl rfl
  | frame m =>
    rw [requestKeys_frame]
    split
    · exact .inr ⟨_, rfl⟩
    · exact .inl rfl
  | error e => exact .inl rfl

theorem Report.framesOk_eq (r : Report) : r.framesOk = UInt32.ofNat (validFrames [r]).length := by
  cases r <;> rfl

theorem Report.crcErrors_eq (r : Report) : r.crcErrors = UInt32.ofNat (crcRejections [r]) := by
  cases r with
  | none => rfl
  | frame m => rfl
  | error e => cases e <;> rfl

theorem Report.formatErrors_eq (r : Report) :
    r.formatErrors = UInt32.ofNat (otherRejections [r]) := by
  cases r with
  | none => rfl
  | frame m => rfl
  | error e => cases e <;> rfl

/-- One more element makes a pair with the last one. -/
theorem adjacentEqual_snoc {α : Type} [DecidableEq α] (xs : List α) (x : α) :
    adjacentEqual (xs ++ [x]) = adjacentEqual xs + if xs.getLast? = some x then 1 else 0 := by
  induction xs with
  | nil => rfl
  | cons a xs ih =>
    cases xs with
    | nil => simp [adjacentEqual, List.countP_cons]
    | cons b xs =>
      have hlast : (a :: b :: xs).getLast? = (b :: xs).getLast? := rfl
      rw [hlast]
      simp only [adjacentEqual, List.cons_append, List.tail_cons, List.zip_cons_cons,
        List.countP_cons] at ih ⊢
      rw [ih]
      omega

/-! ## The failures of a run -/

theorem commFailed_append (xs ys : List NodeCall) (sent later : List Transmission) :
    CommFailed (xs ++ ys) (sent ++ later) ↔ CommFailed xs sent ∨ CommFailed ys later := by
  simp only [CommFailed, List.mem_append, or_and_right, exists_or]
  grind

theorem expectedStatus_snoc (failed : Bool) (frames : List Message) (m : Message) :
    expectedStatus failed (frames ++ [m]) =
      if expectedStatus failed frames = .init then .ok else expectedStatus failed frames := by
  cases failed with
  | true => rfl
  | false => by_cases h : frames = [] <;> simp [expectedStatus, h]

namespace RemoteNode

/-! ## Noting a report -/

/-- The request that is remembered. -/
def lastRequest (node : RemoteNode) : Option (UInt8 × UInt16) :=
  if node.lastRequestValid then some (node.lastRequestMsgId, node.lastRequestSeq) else none

theorem lastRequest_eq_some {node : RemoteNode} {m : Message} :
    node.lastRequest = some m.key ↔
      node.lastRequestValid = true ∧ node.lastRequestMsgId = m.msgId ∧
        node.lastRequestSeq = m.seq := by
  by_cases h : node.lastRequestValid = true <;> simp [lastRequest, h, Message.key]

/-- The assigned identifiers include those of the requests. -/
theorem not_unknown_of_isRequest {m : Message} (h : m.IsRequest) : ¬ m.Unknown := by
  rcases h.1 with hid | hid <;> simp [Message.Unknown, hid, assignedMsgIds]

/-- What noting a report does to the node. -/
structure Noted (node node' : RemoteNode) (r : Report) : Prop where
  validFrameCount : node'.stats.validFrameCount =
    node.stats.validFrameCount + UInt32.ofNat (validFrames [r]).length
  crcErrorCount : node'.stats.crcErrorCount =
    node.stats.crcErrorCount + UInt32.ofNat (crcRejections [r])
  parserErrorCount : node'.stats.parserErrorCount =
    node.stats.parserErrorCount + UInt32.ofNat (otherRejections [r])
  unknownMsgCount : node'.stats.unknownMsgCount =
    node.stats.unknownMsgCount + UInt32.ofNat ((validFrames [r]).countP (·.Unknown))
  duplicateSeqCount : node'.stats.duplicateSeqCount =
    node.stats.duplicateSeqCount +
      UInt32.ofNat ((requestKeys [r]).countP (node.lastRequest = some ·))
  lastRxSeq : node'.stats.lastRxSeq =
    ((validFrames [r]).getLast?.map Message.seq).getD node.stats.lastRxSeq
  commStatus : ∀ failed frames, node.stats.commStatus = expectedStatus failed frames →
    node'.stats.commStatus = expectedStatus failed (frames ++ validFrames [r])
  lastRequest : node'.lastRequest = (requestKeys [r]).getLast?.or node.lastRequest

theorem noteFrame_noted (node : RemoteNode) (m : Message) :
    Noted node (node.noteFrame m) (.frame m) := by
  have hstatus : ∀ failed frames, node.stats.commStatus = expectedStatus failed frames →
      (if node.stats.commStatus = .init then .ok else node.stats.commStatus) =
        expectedStatus failed (frames ++ validFrames [.frame m]) := by
    intro failed frames h
    rw [h, validFrames_frame, expectedStatus_snoc]
  unfold noteFrame
  by_cases hrequest : m.IsRequest
  · have hunknown := not_unknown_of_isRequest hrequest
    simp only [if_pos hrequest]
    have hduplicate :
        ((node.noteValidFrame (m.packet .zero)).rememberRequest
          (m.packet .zero)).stats.duplicateSeqCount =
        if node.lastRequestValid = true ∧ node.lastRequestMsgId = m.msgId ∧
            node.lastRequestSeq = m.seq then node.stats.duplicateSeqCount + 1
        else node.stats.duplicateSeqCount := rfl
    refine ⟨rfl, (UInt32.add_zero _).symm, (UInt32.add_zero _).symm, ?_, ?_, rfl, hstatus, ?_⟩
    · rw [validFrames_frame, List.countP_singleton, if_neg (by simpa using hunknown)]
      exact (UInt32.add_zero _).symm
    · rw [hduplicate, requestKeys_frame, if_pos hrequest, List.countP_singleton]
      simp only [decide_eq_true_eq, lastRequest_eq_some]
      split
      · rfl
      · exact (UInt32.add_zero _).symm
    · rw [requestKeys_frame, if_pos hrequest]
      rfl
  · have hkeys : requestKeys [.frame m] = [] := by rw [requestKeys_frame, if_neg hrequest]
    simp only [if_neg hrequest]
    by_cases hunknown : m.Unknown
    · simp only [if_pos hunknown]
      refine ⟨rfl, (UInt32.add_zero _).symm, (UInt32.add_zero _).symm, ?_, ?_, rfl, hstatus, ?_⟩
      · rw [validFrames_frame, List.countP_singleton, if_pos (by simpa using hunknown)]
        rfl
      · rw [hkeys]
        exact (UInt32.add_zero _).symm
      · rw [hkeys]
        rfl
    · simp only [if_neg hunknown]
      refine ⟨rfl, (UInt32.add_zero _).symm, (UInt32.add_zero _).symm, ?_, ?_, rfl, hstatus, ?_⟩
      · rw [validFrames_frame, List.countP_singleton, if_neg (by simpa using hunknown)]
        exact (UInt32.add_zero _).symm
      · rw [hkeys]
        exact (UInt32.add_zero _).symm
      · rw [hkeys]
        rfl

/-- Every report is noted by its kind. -/
theorem noteReport_noted (node : RemoteNode) (r : Report) : Noted node (node.noteReport r) r := by
  cases r with
  | none =>
    refine ⟨(UInt32.add_zero _).symm, (UInt32.add_zero _).symm, (UInt32.add_zero _).symm,
      (UInt32.add_zero _).symm, (UInt32.add_zero _).symm, rfl, ?_, rfl⟩
    intro failed frames h
    exact h.trans (congrArg _ (List.append_nil _).symm)
  | frame m => exact noteFrame_noted node m
  | error e =>
    by_cases hcrc : e = .errCrc
    · subst hcrc
      refine ⟨(UInt32.add_zero _).symm, rfl, (UInt32.add_zero _).symm,
        (UInt32.add_zero _).symm, (UInt32.add_zero _).symm, rfl, ?_, rfl⟩
      intro failed frames h
      exact h.trans (congrArg _ (List.append_nil _).symm)
    · have hnone : crcRejections [.error e] = 0 := by simp [crcRejections, hcrc]
      have hone : otherRejections [.error e] = 1 := by simp [otherRejections, hcrc]
      simp only [noteReport, noteRejection, if_neg hcrc]
      refine ⟨(UInt32.add_zero _).symm, ?_, ?_, (UInt32.add_zero _).symm,
        (UInt32.add_zero _).symm, rfl, ?_, rfl⟩
      · rw [hnone]
        exact (UInt32.add_zero _).symm
      · rw [hone]
        rfl
      · intro failed frames h
        exact h.trans (congrArg _ (List.append_nil _).symm)

theorem receive_noted (node : RemoteNode) (byte : UInt8) (r : Report) :
    Noted node (node.receive byte r) r :=
  have h := noteReport_noted { node with parser := (node.parser.feedByte byte .zero).1 } r
  { validFrameCount := h.validFrameCount
    crcErrorCount := h.crcErrorCount
    parserErrorCount := h.parserErrorCount
    unknownMsgCount := h.unknownMsgCount
    duplicateSeqCount := h.duplicateSeqCount
    lastRxSeq := h.lastRxSeq
    commStatus := h.commStatus
    lastRequest := h.lastRequest }

/-- The statistics of a node and of its parser are those of a history: its parse is `reports`, and
    `failed` says whether anything has failed. -/
structure Statistics (node : RemoteNode) (reports : List Report) (failed : Bool) : Prop where
  validFrameCount : node.stats.validFrameCount = UInt32.ofNat (validFrames reports).length
  framesOk : node.parser.framesOk = UInt32.ofNat (validFrames reports).length
  crcErrorCount : node.stats.crcErrorCount = UInt32.ofNat (crcRejections reports)
  crcErrors : node.parser.crcErrors = UInt32.ofNat (crcRejections reports)
  parserErrorCount : node.stats.parserErrorCount = UInt32.ofNat (otherRejections reports)
  formatErrors : node.parser.formatErrors = UInt32.ofNat (otherRejections reports)
  unknownMsgCount : node.stats.unknownMsgCount =
    UInt32.ofNat ((validFrames reports).countP (·.Unknown))
  duplicateSeqCount : node.stats.duplicateSeqCount =
    UInt32.ofNat (adjacentEqual (((validFrames reports).filter (·.IsRequest)).map Message.key))
  lastRxSeq : ∀ m, (validFrames reports).getLast? = some m → node.stats.lastRxSeq = m.seq
  commStatus : node.stats.commStatus = expectedStatus failed (validFrames reports)

/-- The node has the statistics of its history, its parser holds `held`, and it remembers the last
    request. -/
structure Tracks (node : RemoteNode) (held : List UInt8) (reports : List Report)
    (failed : Bool) : Prop extends Statistics node reports failed where
  parser : node.parser.Represents held
  lastRequest : node.lastRequest = (requestKeys reports).getLast?

variable {node : RemoteNode} {held : List UInt8} {reports : List Report} {failed : Bool}

theorem init_tracks (now : UInt32) : (init now).Tracks [] [] false where
  validFrameCount := rfl
  framesOk := rfl
  crcErrorCount := rfl
  crcErrors := rfl
  parserErrorCount := rfl
  formatErrors := rfl
  unknownMsgCount := rfl
  duplicateSeqCount := rfl
  lastRxSeq := nofun
  commStatus := rfl
  parser := init_represents
  lastRequest := rfl

/-! ## One call -/

/-- A byte: the parser and the node count its report. -/
theorem Tracks.receive (h : node.Tracks held reports failed) (byte : UInt8) :
    (node.receive byte (scan held byte).2).Tracks (scan held byte).1
      (reports ++ [(scan held byte).2]) failed := by
  obtain ⟨hrep, hfollows⟩ := feedByte_refines .zero byte h.parser
  generalize (scan held byte).2 = r at hfollows ⊢
  have hnoted := receive_noted node byte r
  constructor
  · constructor
    · rw [hnoted.validFrameCount, h.validFrameCount, validFrames_append, List.length_append,
        UInt32.ofNat_add]
    · rw [parser_receive, hfollows.framesOk, h.framesOk, r.framesOk_eq, validFrames_append,
        List.length_append, UInt32.ofNat_add]
    · rw [hnoted.crcErrorCount, h.crcErrorCount, crcRejections_append, UInt32.ofNat_add]
    · rw [parser_receive, hfollows.crcErrors, h.crcErrors, r.crcErrors_eq, crcRejections_append,
        UInt32.ofNat_add]
    · rw [hnoted.parserErrorCount, h.parserErrorCount, otherRejections_append, UInt32.ofNat_add]
    · rw [parser_receive, hfollows.formatErrors, h.formatErrors, r.formatErrors_eq,
        otherRejections_append, UInt32.ofNat_add]
    · rw [hnoted.unknownMsgCount, h.unknownMsgCount, validFrames_append, List.countP_append,
        UInt32.ofNat_add]
    · have hkeys : ((validFrames (reports ++ [r])).filter (·.IsRequest)).map Message.key =
          requestKeys reports ++ requestKeys [r] := requestKeys_append _ _
      rw [hnoted.duplicateSeqCount, h.duplicateSeqCount, h.lastRequest, hkeys]
      rcases requestKeys_singleton r with hnil | ⟨k, hk⟩
      · rw [hnil, List.append_nil]
        exact UInt32.add_zero _
      · rw [hk, adjacentEqual_snoc, List.countP_singleton, UInt32.ofNat_add]
        simp only [decide_eq_true_eq]
        rfl
    · intro m hm
      rw [validFrames_append, List.getLast?_append] at hm
      rw [hnoted.lastRxSeq]
      cases hlast : (validFrames [r]).getLast? with
      | none =>
        rw [hlast, Option.none_or] at hm
        exact h.lastRxSeq m hm
      | some x =>
        rw [hlast, Option.some_or] at hm
        cases hm
        rfl
    · rw [validFrames_append]
      exact hnoted.commStatus _ _ h.commStatus
  · rw [parser_receive]
    exact hrep
  · rw [hnoted.lastRequest, h.lastRequest, requestKeys_append, List.getLast?_append]

theorem Tracks.afterTx (h : node.Tracks held reports failed) (accepted : Bool) :
    (node.afterTx accepted).Tracks held reports (failed || !accepted) := by
  cases accepted with
  | true =>
    rw [Bool.not_true, Bool.or_false]
    exact h
  | false =>
    rw [Bool.not_false, Bool.or_true]
    exact ⟨⟨h.validFrameCount, h.framesOk, h.crcErrorCount, h.crcErrors, h.parserErrorCount,
      h.formatErrors, h.unknownMsgCount, h.duplicateSeqCount, h.lastRxSeq, rfl⟩, h.parser,
      h.lastRequest⟩

theorem Tracks.noteRxOverflow (h : node.Tracks held reports failed) :
    node.noteRxOverflow.Tracks held reports true :=
  ⟨⟨h.validFrameCount, h.framesOk, h.crcErrorCount, h.crcErrors, h.parserErrorCount,
    h.formatErrors, h.unknownMsgCount, h.duplicateSeqCount, h.lastRxSeq, rfl⟩, h.parser,
    h.lastRequest⟩

theorem Tracks.noteUartError (h : node.Tracks held reports failed) :
    node.noteUartError.Tracks held reports true :=
  ⟨⟨h.validFrameCount, h.framesOk, h.crcErrorCount, h.crcErrors, h.parserErrorCount,
    h.formatErrors, h.unknownMsgCount, h.duplicateSeqCount, h.lastRxSeq, rfl⟩, h.parser,
    h.lastRequest⟩

/-- The timers, their SEQs and the status flags are no statistics. -/
theorem Tracks.of_eq {node' : RemoteNode} (h : node.Tracks held reports failed)
    (stats : node'.stats = node.stats) (parser : node'.parser = node.parser)
    (lastRequest : node'.lastRequest = node.lastRequest) : node'.Tracks held reports failed := by
  obtain ⟨⟨h1, h2, h3, h4, h5, h6, h7, h8, h9, h10⟩, hparser, hlast⟩ := h
  rw [← stats] at h1 h3 h5 h7 h8 h9 h10
  rw [← parser] at h2 h4 h6 hparser
  rw [← lastRequest] at hlast
  exact ⟨⟨h1, h2, h3, h4, h5, h6, h7, h8, h9, h10⟩, hparser, hlast⟩

/-- A frame that is not accepted is a failure, for every call that does not note one itself. -/
theorem commFailed_of_sent {c : NodeCall} (sent : List Transmission)
    (overflow : c ≠ .noteRxOverflow) (uart : c ≠ .noteUartError) :
    decide (CommFailed [c] sent) = sent.any (!·.accepted) := by
  rw [Bool.eq_iff_iff]
  simp [CommFailed, overflow.symm, uart.symm]

theorem Tracks.processByte (h : node.Tracks held reports failed) (byte : UInt8) (now : UInt32)
    (accepted : Bool) :
    (node.processByte byte now accepted).1.Tracks (scan held byte).1
      (reports ++ [(scan held byte).2])
      (failed || ((node.processByte byte now accepted).2.map
        (Transmission.mk · accepted)).any (!·.accepted)) := by
  have hreceive := h.receive byte
  rw [processByte_scan h.parser]
  cases (scan held byte).2.answered with
  | none =>
    simp only [List.map_nil, List.any_nil, Bool.or_false]
    exact hreceive
  | some m =>
    simp only [List.map_cons, List.map_nil, List.any_cons, List.any_nil, Bool.or_false]
    exact hreceive.afterTx accepted

theorem Tracks.periodicTelemetry (h : node.Tracks held reports failed) (now : UInt32)
    (accepted : Bool) :
    (node.periodicTelemetry now accepted).1.Tracks held reports
      (failed || ((node.periodicTelemetry now accepted).2.map
        (Transmission.mk · accepted)).any (!·.accepted)) := by
  have hdue : (node.noteTelemetry now).Tracks held reports failed := h.of_eq rfl rfl rfl
  rw [periodicTelemetry_eq]
  split
  · simp only [List.map_cons, List.map_nil, List.any_cons, List.any_nil, Bool.or_false]
    exact hdue.afterTx accepted
  · simp only [List.map_nil, List.any_nil, Bool.or_false]
    exact h

theorem Tracks.periodicHeartbeat (h : node.Tracks held reports failed) (now : UInt32)
    (accepted : Bool) :
    (node.periodicHeartbeat now accepted).1.Tracks held reports
      (failed || ((node.periodicHeartbeat now accepted).2.map
        (Transmission.mk · accepted)).any (!·.accepted)) := by
  have hdue : (node.noteHeartbeat now).Tracks held reports failed := h.of_eq rfl rfl rfl
  rw [periodicHeartbeat_eq]
  split
  · simp only [List.map_cons, List.map_nil, List.any_cons, List.any_nil, Bool.or_false]
    exact hdue.afterTx accepted
  · simp only [List.map_nil, List.any_nil, Bool.or_false]
    exact h

/-- Every call keeps the statistics up to date. -/
theorem Tracks.call (h : node.Tracks held reports failed) (c : NodeCall) :
    (node.call c).1.Tracks (scanAll held (receivedBytes [c]))
      (reports ++ Scanner.reports held (receivedBytes [c]))
      (failed || decide (CommFailed [c] (node.call c).2)) := by
  cases c with
  | processByte byte now accepted =>
    rw [@commFailed_of_sent (.processByte byte now accepted) _ (by simp) (by simp)]
    exact h.processByte byte now accepted
  | processPeriodic now telemetryAccepted heartbeatAccepted =>
    rw [@commFailed_of_sent (.processPeriodic now telemetryAccepted heartbeatAccepted) _ (by simp)
      (by simp)]
    simp only [RemoteNode.call, List.any_append]
    rw [← Bool.or_assoc]
    have htelemetry := h.periodicTelemetry now telemetryAccepted
    exact (List.append_nil reports).symm ▸ htelemetry.periodicHeartbeat now heartbeatAccepted
  | setStatusFlags statusFlags =>
    rw [@commFailed_of_sent (.setStatusFlags statusFlags) _ (by simp) (by simp)]
    simp only [RemoteNode.call, List.any_nil, Bool.or_false]
    exact (List.append_nil reports).symm ▸ h.of_eq rfl rfl rfl
  | noteRxOverflow =>
    rw [decide_eq_true (.inr (.inl List.mem_cons_self)), Bool.or_true]
    exact (List.append_nil reports).symm ▸ h.noteRxOverflow
  | noteUartError =>
    rw [decide_eq_true (.inr (.inr List.mem_cons_self)), Bool.or_true]
    exact (List.append_nil reports).symm ▸ h.noteUartError

/-! ## A run -/

/-- Along every run the node tracks the parse of all bytes received. -/
theorem run_tracks (now : UInt32) (calls : List NodeCall) :
    ((init now).run calls).1.Tracks (scanAll [] (receivedBytes calls))
      (Scanner.reports [] (receivedBytes calls))
      (decide (CommFailed calls ((init now).run calls).2)) := by
  induction calls using List.reverseRecOn with
  | nil => exact init_tracks now
  | append_singleton calls c ih =>
    have hcall := ih.call c
    have hfailed : decide (CommFailed (calls ++ [c]) ((init now).run (calls ++ [c])).2) =
        (decide (CommFailed calls ((init now).run calls).2) ||
          decide (CommFailed [c] (((init now).run calls).1.call c).2)) := by
      rw [Bool.eq_iff_iff, run_snoc]
      simp only [decide_eq_true_eq, Bool.or_eq_true, commFailed_append]
    rw [hfailed, receivedBytes_append, scanAll_append, reports_append, run_snoc]
    exact hcall

/-- At the end of every run the statistics are those of its history. -/
theorem run_statistics (now : UInt32) (calls : List NodeCall) :
    ((init now).run calls).1.Statistics (Scanner.reports [] (receivedBytes calls))
      (CommFailed calls ((init now).run calls).2) :=
  (run_tracks now calls).toStatistics

end RemoteNode

end Rs422Gateway
