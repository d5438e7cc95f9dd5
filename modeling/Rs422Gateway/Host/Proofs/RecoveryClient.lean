import Rs422Gateway.Host.Proofs.FindPong
import Rs422Gateway.Host.RecoveryClient
import Rs422Gateway.Misc.Transition

/-!
# The recovery client counts right

Whatever the operating system and the server do, a connection carries nothing but the PINGs waited
for, and a PONG is accepted only when the parser finds it behind its PING on the same connection.
Until then the client sends the same sequence number again, each time on a new connection.
-/

namespace Rs422Gateway

open Transition Scanner

/-- What the client can count on. -/
structure RecoveryWait.Sound (w : RecoveryWait) : Prop where
  ping : (emptyMessage msgPing w.seq).wire <:+ w.sent
  answered : w.answered = true ↔ HeardPong [] w.seq w.heard
  pong : w.answered = true → (emptyMessage msgPong w.seq).wire <:+: w.heard

/-- The sequence number behind a wait. -/
def RecoveryWait.nextSeq (w : RecoveryWait) : UInt16 :=
  if w.answered then nextSequence w.seq else w.seq

/-- How one wait follows another. -/
structure RecoveryWait.Follows (w w' : RecoveryWait) : Prop where
  seq : w'.seq = w.nextSeq
  connection : w.connection ≤ w'.connection
  reconnected : w.answered = false → w.connection < w'.connection

/-- The PINGs of the waits on a connection. -/
def pingsOn (waits : List RecoveryWait) (connection : Nat) : List UInt8 :=
  (waits.filter (·.connection = connection)).flatMap fun w => (emptyMessage msgPing w.seq).wire

theorem pingsOn_concat {waits : List RecoveryWait} {w : RecoveryWait} {connection : Nat}
    (h : w.connection = connection) :
    pingsOn (waits ++ [w]) connection =
      pingsOn waits connection ++ (emptyMessage msgPing w.seq).wire := by
  unfold pingsOn
  rw [List.filter_append, List.flatMap_append, List.filter_cons_of_pos (by simpa using h),
    List.filter_nil, List.flatMap_singleton]

/-- The sequence number of the `k`-th PONG, from 0 on. -/
def recoverySeq (k : Nat) : UInt16 := UInt16.ofNat (k % 65535 + 1)

theorem nextSequence_recoverySeq (k : Nat) :
    nextSequence (recoverySeq k) = recoverySeq (k + 1) := by
  have hlt : k % 65535 < 65535 := Nat.mod_lt _ (by decide)
  unfold nextSequence recoverySeq
  by_cases hlast : k % 65535 = 65534
  · have hwraps : (k + 1) % 65535 = 0 := by omega
    rw [hlast, hwraps]
    rfl
  · have hnext : (k + 1) % 65535 = k % 65535 + 1 := by omega
    have hne : UInt16.ofNat (k % 65535 + 1) ≠ 0xFFFF := by
      intro heq
      have hnat := congrArg UInt16.toNat heq
      rw [UInt16.toNat_ofNat', Nat.mod_eq_of_lt (by omega)] at hnat
      have hmax : (0xFFFF : UInt16).toNat = 65535 := rfl
      omega
    rw [if_neg hne, hnext, UInt16.ofNat_add (k % 65535 + 1)]
    rfl

namespace RecoveryClient

variable {s s' : RecoveryClient}

/-- The sequence numbers of the PONG lines. -/
def pongs (s : RecoveryClient) : List UInt16 :=
  s.lines.filterMap fun
    | .pong seq => some seq
    | _ => none

/-- The last connection comes behind a wait without an answer. -/
def Reconnected (s : RecoveryClient) : Prop :=
  ∀ w ∈ s.waits.getLast?, w.answered = false → w.connection < s.connections

/-- A connection with the PINGs that have been answered on it. -/
structure Pinging (s : RecoveryClient) : Prop where
  reconnected : s.Reconnected
  parser : s.parser.Represents []
  sent : s.sent = pingsOn s.waits s.connections

/-- `wait_for_pong` has not found the PONG yet. -/
structure Waiting (s : RecoveryClient) : Prop where
  reconnected : s.Reconnected
  parser : s.parser.Represents (scanAll [] s.heard)
  unheard : ¬ HeardPong [] s.sequence s.heard
  sent : s.sent = pingsOn s.waits s.connections ++ (emptyMessage msgPing s.sequence).wire

/-- What is under way. -/
def Progress (s : RecoveryClient) : Prop :=
  match s.pc with
  | .connecting | .stopped => True
  | .pinging => s.Pinging
  | .waiting => s.Waiting

/-- What has happened. -/
structure Log (s : RecoveryClient) : Prop where
  follows : s.waits.IsChain RecoveryWait.Follows
  sound : ∀ w ∈ s.waits, w.Sound
  sent : ∀ k w, s.waits[k]? = some w → w.sent = pingsOn (s.waits.take (k + 1)) w.connection
  bounded : ∀ w ∈ s.waits, w.connection ≤ s.connections
  last : ∀ w ∈ s.waits.getLast?, s.sequence = w.nextSeq
  answered : (s.waits.filter (·.answered)).map (·.seq) = s.pongs
  pongs : s.pongs = (List.range s.pongs.length).map recoverySeq
  sequence : s.sequence = recoverySeq s.pongs.length
  connections : s.hasConnected = decide (0 < s.connections)
  reconnects : s.reconnectCount = UInt32.ofNat (s.connections - 1)

/-- The invariant. -/
structure Inv (s : RecoveryClient) : Prop where
  log : s.Log
  progress : s.Progress

theorem inv_initial : initial.Inv where
  log :=
    { follows := .nil
      sound := fun _ hw => by cases hw
      sent := fun _ _ hw => by cases hw
      bounded := fun _ hw => by cases hw
      last := fun _ hw => by cases hw
      answered := rfl
      pongs := rfl
      sequence := rfl
      connections := rfl
      reconnects := rfl }
  progress := trivial

/-! ## Lines and waits -/

/-- A line that is not a PONG. -/
theorem pongs_print (s : RecoveryClient) {line : RecoveryLine} (h : ∀ seq, line ≠ .pong seq) :
    (s.print line).pongs = s.pongs := by
  unfold pongs print
  rw [List.filterMap_append]
  cases line with
  | pong seq => exact absurd rfl (h seq)
  | connectFailed | connected | reconnected _ | sendFailed _ | pongTimeout _ | receiveError _
    | stopped _ => exact List.append_nil _

theorem Log.print (h : s.Log) (line : RecoveryLine) (hline : ∀ seq, line ≠ .pong seq) :
    (s.print line).Log := by
  have hpongs := pongs_print s hline
  exact
    { h with
      answered := h.answered.trans hpongs.symm
      pongs := by
        rw [hpongs]
        exact h.pongs
      sequence := by
        rw [hpongs]
        exact h.sequence }

/-- The wait that returns. -/
def current (s : RecoveryClient) (answered : Bool) : RecoveryWait :=
  ⟨s.connections, s.sent, s.sequence, s.heard, answered⟩

/-- A connection with one more PING on it, whose wait ends. -/
structure Returns (s : RecoveryClient) (answered : Bool) : Prop where
  reconnected : s.Reconnected
  sent : s.sent = pingsOn s.waits s.connections ++ (emptyMessage msgPing s.sequence).wire
  heard : answered = true ↔ HeardPong [] s.sequence s.heard

namespace Returns

variable {answered : Bool}

theorem sound (h : s.Returns answered) : (s.current answered).Sound where
  ping := ⟨_, h.sent.symm⟩
  answered := h.heard
  pong hanswered := (h.heard.mp hanswered).whole

theorem follows (h : s.Returns answered) (log : s.Log) :
    (s.waits ++ [s.current answered]).IsChain RecoveryWait.Follows := by
  refine log.follows.append (.singleton _) ?_
  rintro w hw w' ⟨⟩
  exact ⟨log.last w hw, log.bounded w (List.mem_of_mem_getLast? hw), h.reconnected w hw⟩

theorem sent_take (h : s.Returns answered) (log : s.Log) {k : Nat} {w : RecoveryWait}
    (hw : (s.waits ++ [s.current answered])[k]? = some w) :
    w.sent = pingsOn ((s.waits ++ [s.current answered]).take (k + 1)) w.connection := by
  rcases Nat.lt_or_ge k s.waits.length with hlt | hge
  · rw [List.getElem?_append_left hlt] at hw
    rw [List.take_append_of_le_length hlt]
    exact log.sent k w hw
  · have hk : k < (s.waits ++ [s.current answered]).length := (List.getElem?_eq_some_iff.mp hw).1
    rw [List.length_append, List.length_singleton] at hk
    obtain rfl : k = s.waits.length := by omega
    rw [List.getElem?_concat_length] at hw
    cases hw
    rw [List.take_of_length_le (by simp), pingsOn_concat rfl]
    exact h.sent

end Returns

theorem last_waited (answered : Bool) {w : RecoveryWait}
    (hw : w ∈ (s.waited answered).waits.getLast?) : w = s.current answered := by
  have hlast : (s.waited answered).waits.getLast? = some (s.current answered) :=
    List.getLast?_concat
  rw [hlast] at hw
  exact (Option.mem_some_iff.mp hw).symm

/-- What a wait adds to the log, with and without an answer. -/
theorem mem_waited {answered : Bool} {w : RecoveryWait} (hw : w ∈ (s.waited answered).waits) :
    w ∈ s.waits ∨ w = s.current answered :=
  (List.mem_append.mp hw).imp_right List.mem_singleton.mp

/-- A wait without an answer. -/
theorem Log.unanswered (h : s.Log) (hreturns : s.Returns false) : (s.waited false).Log where
  follows := hreturns.follows h
  sound w hw := (mem_waited hw).elim (h.sound w) fun heq => heq ▸ hreturns.sound
  sent _ _ hw := hreturns.sent_take h hw
  bounded w hw := (mem_waited hw).elim (h.bounded w) fun heq => heq ▸ Nat.le_refl _
  last w hw := by
    rw [last_waited false hw]
    rfl
  answered := by
    unfold waited
    dsimp only
    rw [List.filter_append, List.map_append]
    exact (List.append_nil _).trans h.answered
  pongs := h.pongs
  sequence := h.sequence
  connections := h.connections
  reconnects := h.reconnects

/-- The PONG has come. -/
theorem pongs_handle (s : RecoveryClient) : (s.handle .pong).pongs = s.pongs ++ [s.sequence] := by
  unfold pongs
  exact List.filterMap_append

/-- A wait with its PONG. -/
theorem Log.answer (h : s.Log) (hreturns : s.Returns true) : (s.handle .pong).Log := by
  have hpongs := pongs_handle s
  have hlength : (s.pongs ++ [s.sequence]).length = s.pongs.length + 1 := List.length_append
  refine
    { h with
      follows := hreturns.follows h
      sound := fun w hw => (mem_waited hw).elim (h.sound w) fun heq => heq ▸ hreturns.sound
      sent := fun _ _ hw => hreturns.sent_take h hw
      bounded := fun w hw => (mem_waited hw).elim (h.bounded w) fun heq => heq ▸ Nat.le_refl _
      last := fun w hw => ?_
      answered := ?_
      pongs := ?_
      sequence := ?_ }
  · rw [last_waited true hw]
    rfl
  · show (List.filter _ (s.waits ++ [s.current true])).map _ = _
    rw [hpongs, List.filter_append, List.map_append, h.answered]
    rfl
  · rw [hpongs, hlength, List.range_succ, List.map_append, ← h.pongs, h.sequence]
    rfl
  · show nextSequence s.sequence = _
    rw [hpongs, hlength, h.sequence, nextSequence_recoverySeq]

/-! ## Steps -/

theorem inv_connected (h : s.Inv) : s.connected.Inv := by
  have log := h.log
  have hfirst := log.connections
  have hbounded : ∀ w ∈ s.waits, w.connection ≤ s.connections + 1 := fun w hw =>
    Nat.le_succ_of_le (log.bounded w hw)
  have hreconnected : ∀ w ∈ s.waits.getLast?, w.answered = false →
      w.connection < s.connections + 1 := fun w hw _ =>
    Nat.lt_succ_of_le (log.bounded w (List.mem_of_mem_getLast? hw))
  have hsent : [] = pingsOn s.waits (s.connections + 1) := by
    have hnone : s.waits.filter (·.connection = s.connections + 1) = [] := by
      rw [List.filter_eq_nil_iff]
      intro w hw
      have hle := log.bounded w hw
      rw [decide_eq_true_iff]
      omega
    rw [pingsOn, hnone, List.flatMap_nil]
  unfold connected
  dsimp only
  split
  case isTrue hbefore =>
    rw [hbefore] at hfirst
    have hpositive : 0 < s.connections := of_decide_eq_true hfirst.symm
    have hcount : s.reconnectCount + 1 = UInt32.ofNat (s.connections + 1 - 1) := by
      obtain ⟨n, hn⟩ := Nat.exists_eq_succ_of_ne_zero (Nat.ne_of_gt hpositive)
      rw [log.reconnects, hn]
      exact (UInt32.ofNat_add n 1).symm
    refine ⟨Log.print ?_ _ (by nofun), ⟨hreconnected, StreamParser.init_represents, hsent⟩⟩
    exact { log with bounded := hbounded, connections := hbefore, reconnects := hcount }
  case isFalse hbefore =>
    have hnone : s.connections = 0 := by
      rw [Bool.not_eq_true] at hbefore
      rw [hbefore] at hfirst
      exact Nat.eq_zero_of_not_pos (of_decide_eq_false hfirst.symm)
    have hcount : s.reconnectCount = UInt32.ofNat (s.connections + 1 - 1) := by
      rw [log.reconnects, hnone]
    refine ⟨Log.print ?_ _ (by nofun), ⟨hreconnected, StreamParser.init_represents, hsent⟩⟩
    exact { log with bounded := hbounded, connections := rfl, reconnects := hcount }

/-- `send_ping` succeeds only when the whole PING is on the socket. -/
theorem sendPing_whole {sequence : UInt16} {failsBehind : Option Nat} {bytes : List UInt8}
    (h : sendPing sequence failsBehind = (bytes, true)) :
    bytes = (emptyMessage msgPing sequence).wire := by
  unfold sendPing at h
  simp only [encodeFrame_ping sequence] at h
  cases failsBehind with
  | none =>
    cases h
    rfl
  | some count => cases h

theorem inv_send (h : s.Inv) (hpc : s.pc = .pinging) (failsBehind : Option Nat) :
    (s.send failsBehind).Inv := by
  have hpinging := h.progress
  unfold Progress at hpinging
  rw [hpc] at hpinging
  unfold send
  split
  · exact ⟨{ h.log with }, trivial⟩
  split
  case h_1 bytes hsent =>
    refine ⟨{ h.log with }, hpinging.reconnected, hpinging.parser, heardPong_nil [] s.sequence, ?_⟩
    show s.sent ++ bytes = _
    rw [hpinging.sent, sendPing_whole hsent]
  case h_2 bytes _ =>
    have log : Log { s with sent := s.sent ++ bytes } := { h.log with }
    have log := log.print (.sendFailed s.sequence) (by nofun)
    exact ⟨{ log with }, trivial⟩

/-- What a turn of `wait_for_pong` can do. -/
inductive Turn (s : RecoveryClient) (event : RecoveryEvent) :
    StreamParser × Option WaitResult → Prop where
  /-- The PONG is there, and the parser is at the beginning of a frame. -/
  | pong (parser : StreamParser) (represents : parser.Represents [])
      (heard : HeardPong [] s.sequence (s.heard ++ s.reads event)) :
      Turn s event (parser, some .pong)
  /-- The function goes on. -/
  | goes (parser : StreamParser)
      (represents : parser.Represents (scanAll [] (s.heard ++ s.reads event)))
      (unheard : ¬ HeardPong [] s.sequence (s.heard ++ s.reads event)) :
      Turn s event (parser, none)
  /-- The function returns without the PONG. -/
  | fails (result : WaitResult) (hresult : result ≠ .pong) (nothing : s.reads event = []) :
      Turn s event (s.parser, some result)

theorem waitForPong_turn (h : s.Waiting) (event : RecoveryEvent) :
    s.Turn event (waitForPong s.stopRequested s.parser s.sequence event) := by
  cases event with
  | received bytes =>
    simp only [waitForPong]
    split
    case isTrue hstop => exact .fails .stopped (by decide) (if_pos hstop)
    case isFalse hgoes =>
      have hreads : s.reads (.received bytes) = bytes := if_neg hgoes
      have happend := heardPong_append [] s.sequence s.heard bytes
      split
      case h_1 parser hfind =>
        rcases TcpClient.findPong_represents h.parser s.sequence bytes with
          ⟨-, hheard, hrepresents⟩ | ⟨hfound, -⟩
        · rw [hfind] at hrepresents
          refine .pong parser hrepresents ?_
          rw [hreads]
          exact happend.mpr (.inr hheard)
        · rw [hfind] at hfound
          cases hfound
      case h_2 parser hfind =>
        rcases TcpClient.findPong_represents h.parser s.sequence bytes with
          ⟨hfound, -⟩ | ⟨-, hheard, hrepresents⟩
        · rw [hfind] at hfound
          cases hfound
        · rw [hfind] at hrepresents
          refine .goes parser ?_ ?_
          · rw [hreads, scanAll_append]
            exact hrepresents
          · rw [hreads]
            exact fun hboth => (happend.mp hboth).elim h.unheard hheard
  | timeout => exact .fails _ (by split <;> decide) rfl
  | selectError interrupted => exact .fails _ (by split <;> decide) rfl
  | recvError => exact .fails _ (by split <;> decide) rfl

/-- `main` goes on behind a wait without an answer. -/
theorem inv_handle (log : s.Log) (hreturns : s.Returns false) {result : WaitResult}
    (hresult : result ≠ .pong) : (s.handle result).Inv := by
  have hwaited := log.unanswered hreturns
  cases result with
  | pong => exact absurd rfl hresult
  | timeout => exact ⟨{ hwaited.print (.pongTimeout s.sequence) (by nofun) with }, trivial⟩
  | error => exact ⟨{ hwaited.print (.receiveError s.sequence) (by nofun) with }, trivial⟩
  | stopped => exact ⟨{ hwaited with }, trivial⟩

theorem inv_wait (h : s.Inv) (hpc : s.pc = .waiting) (event : RecoveryEvent) :
    (s.wait event).Inv := by
  have hwaiting := h.progress
  unfold Progress at hwaiting
  rw [hpc] at hwaiting
  have hturn := waitForPong_turn hwaiting event
  unfold wait
  generalize waitForPong s.stopRequested s.parser s.sequence event = out at hturn
  cases hturn with
  | pong parser represents heard =>
    have log : (s.turn event parser).Log := { h.log with }
    have hreturns : (s.turn event parser).Returns true :=
      ⟨hwaiting.reconnected, hwaiting.sent, iff_of_true rfl heard⟩
    refine ⟨log.answer hreturns, ?_, represents, ?_⟩
    · intro w hw hnot
      rw [last_waited true hw] at hnot
      cases hnot
    · exact hwaiting.sent.trans
        (pingsOn_concat (w := (s.turn event parser).current true) rfl).symm
  | goes parser represents unheard =>
    refine ⟨{ h.log with }, ?_⟩
    unfold Progress turn
    simp only [hpc]
    exact ⟨hwaiting.reconnected, represents, unheard, hwaiting.sent⟩
  | fails result hresult nothing =>
    have log : (s.turn event s.parser).Log := { h.log with }
    refine inv_handle log ⟨hwaiting.reconnected, hwaiting.sent, ?_⟩ hresult
    show _ ↔ HeardPong [] s.sequence (s.heard ++ s.reads event)
    rw [nothing, List.append_nil]
    exact iff_of_false Bool.false_ne_true hwaiting.unheard

/-- What is printed and SIGINT do not matter to what is under way. -/
theorem Progress.frame (h : s.Progress) (stopRequested : Bool) (lines : List RecoveryLine) :
    Progress { s with stopRequested := stopRequested, lines := lines } := by
  unfold Progress at h ⊢
  dsimp only
  cases hpc : s.pc with
  | connecting | stopped => trivial
  | pinging =>
    simp only [hpc] at h
    exact ⟨h.reconnected, h.parser, h.sent⟩
  | waiting =>
    simp only [hpc] at h
    exact ⟨h.reconnected, h.parser, h.unheard, h.sent⟩

theorem inv_step (h : s.Inv) {a : RecoveryAction} (taken : s.step a = some s') : s'.Inv := by
  cases a with
  | interrupt =>
    cases taken
    exact ⟨{ h.log with }, h.progress.frame true s.lines⟩
  | connect ok =>
    simp only [step, Option.ite_none_right_eq_some, Option.some.injEq] at taken
    obtain ⟨-, rfl⟩ := taken
    cases ok with
    | true => exact inv_connected h
    | false =>
      have progress : (s.print .connectFailed).Progress :=
        h.progress.frame s.stopRequested _
      exact ⟨h.log.print _ (by nofun), progress⟩
  | ping failsBehind =>
    simp only [step, Option.ite_none_right_eq_some, Option.some.injEq] at taken
    obtain ⟨hpc, rfl⟩ := taken
    exact inv_send h hpc failsBehind
  | wait event =>
    simp only [step, Option.ite_none_right_eq_some, Option.some.injEq] at taken
    obtain ⟨hpc, rfl⟩ := taken
    exact inv_wait h hpc event
  | leave =>
    simp only [step, Option.ite_none_right_eq_some, Option.some.injEq] at taken
    obtain ⟨-, rfl⟩ := taken
    have log : Log { s with pc := .stopped } := { h.log with }
    exact ⟨log.print _ (by nofun), trivial⟩

end RecoveryClient

/-- In every run of the recovery client, whatever the operating system answers: what a connection
    has carried when `wait_for_pong` returns are the PINGs of its waits, the last with the sequence
    number of this one, and it returns `Pong` exactly when the parser finds the PONG in what it has
    read since. After an answer the next number comes, and without one the same number on a new
    connection. The PONG lines count from 1 and go on with 1 behind 65535, and `reconnect_count`
    counts the connections but the first. -/
theorem recoveryClient_run {s : RecoveryClient}
    (run : Reachable RecoveryClient.step unguarded .initial s) :
    (∀ w ∈ s.waits, w.Sound) ∧
      (∀ k w, s.waits[k]? = some w → w.sent = pingsOn (s.waits.take (k + 1)) w.connection) ∧
      s.waits.IsChain RecoveryWait.Follows ∧
      (s.waits.filter (·.answered)).map (·.seq) = s.pongs ∧
      s.pongs = (List.range s.pongs.length).map recoverySeq ∧
      s.reconnectCount = UInt32.ofNat (s.connections - 1) := by
  have h : s.Inv := run.invariant RecoveryClient.inv_initial
    fun _ _ _ h _ taken => RecoveryClient.inv_step h taken
  exact ⟨h.log.sound, h.log.sent, h.log.follows, h.log.answered, h.log.pongs, h.log.reconnects⟩

/-- The first PING has no answer in time. Its PONG comes on the next connection, in two pieces. -/
theorem recoveryClient_run_reconnected :
    ∃ s, Reachable RecoveryClient.step unguarded .initial s ∧ s.pongs = [1] ∧
      s.reconnectCount = 1 ∧
      ∃ w ∈ s.waits, w.answered = true ∧ (emptyMessage msgPong 1).wire <:+: w.heard := by
  let pong := (emptyMessage msgPong 1).wire
  obtain ⟨s, run, htest⟩ := exists_reachable RecoveryClient.step unguarded .initial
    [.connect false, .connect true, .ping none, .wait (.received (pong.take 4)), .wait .timeout,
      .connect true, .ping none, .wait (.received (0x00 :: pong.take 4)),
      .wait (.received (pong.drop 4))]
    (fun s => decide (s.pongs = [1] ∧ s.reconnectCount = 1 ∧
      ∃ w ∈ s.waits, w.answered = true ∧ w.seq = 1)) (by decide +kernel)
  obtain ⟨hpongs, hcount, w, hw, hanswered, hseq⟩ := of_decide_eq_true htest
  have hpong := ((recoveryClient_run run).1 w hw).pong hanswered
  rw [hseq] at hpong
  exact ⟨s, run, hpongs, hcount, w, hw, hanswered, hpong⟩

end Rs422Gateway
