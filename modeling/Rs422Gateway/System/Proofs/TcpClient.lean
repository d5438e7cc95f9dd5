import Rs422Gateway.Host.Proofs.FindPong
import Rs422Gateway.System.Proofs.EndToEnd
import Rs422Gateway.System.TcpClient

/-!
# The TCP client gets every PONG

The runs of the client at the gateway are runs of `LockStep`: when `wait_for_pong` has found a PONG,
that PONG is the last thing that the gateway has sent. So each request gets its row with status OK,
and a drained system does not wait.
-/

namespace Rs422Gateway

open Transition

/-! ## `wait_for_pong` -/

theorem StreamParser.Expects.nil {p : StreamParser} {rest : List UInt8} (h : p.Expects rest []) :
    rest = [] ∧ p.Represents [] := by
  obtain ⟨held, hrep, haligned⟩ := h
  obtain ⟨rfl, rfl⟩ := List.append_eq_nil_iff.mp haligned.bytes
  exact ⟨rfl, hrep⟩

namespace TcpClient

/-- At most the PONG it waits for is to come: `wait_for_pong` finds it, with nothing behind it, or
    goes on waiting for it. -/
theorem findPong_expects {p : StreamParser} {seq : UInt16} {bytes rest : List UInt8}
    {pongs : List UInt16} (hpongs : pongs = [] ∨ pongs = [seq])
    (h : p.Expects (bytes ++ rest) (pongs.map (emptyMessage msgPong))) :
    ((findPong p seq bytes).2 = false ∧
        (findPong p seq bytes).1.Expects rest (pongs.map (emptyMessage msgPong))) ∨
      ((findPong p seq bytes).2 = true ∧ pongs = [seq] ∧ rest = [] ∧
        (findPong p seq bytes).1.Expects [] []) := by
  induction bytes generalizing p with
  | nil => exact .inl ⟨rfl, h⟩
  | cons byte bytes ih =>
    obtain ⟨-, hfeed⟩ := h.feedByte .zero
    rcases hfeed with ⟨hevent, -, hexpects⟩ | ⟨m, later, hms, hevent, hpacket, hexpects⟩
    · have hstep : findPong p seq (byte :: bytes) =
          findPong (p.feedByte byte .zero).1 seq bytes := by
        rw [findPong]
        simp only [hevent, reduceCtorEq, false_and, if_false]
      rw [hstep]
      exact ih hexpects
    · rcases hpongs with rfl | rfl
      · cases hms
      · obtain ⟨rfl, rfl⟩ := List.cons.inj hms
        obtain ⟨hdrained, hrep⟩ := hexpects.nil
        obtain ⟨rfl, rfl⟩ := List.append_eq_nil_iff.mp hdrained
        have hfound : findPong p seq [byte] = ((p.feedByte byte .zero).1, true) := by
          rw [findPong]
          simp only [hevent, hpacket]
          exact if_pos ⟨trivial, rfl, rfl, rfl⟩
        rw [hfound]
        exact .inr ⟨rfl, rfl, rfl, StreamParser.expects_nil hrep⟩

end TcpClient

/-! ## The rest of the system -/

namespace System

variable {start s s' : System}

/-- What a step has sent to the client, if the client itself has not taken it. -/
theorem step_reply {a : SystemAction} (hping : ∀ seq, a ≠ .ping seq) (taken : s.step a = some s') :
    ∃ reply, s'.client = s.client ++ reply ∧ s'.inbox = s.inbox ++ reply ∧ s'.sent = s.sent := by
  have hadvance : ∀ (t : System) (a : GatewayAction), t.stepGateway a = some s' →
      t.client = s.client → t.inbox = s.inbox → t.sent = s.sent →
      ∃ reply, s'.client = s.client ++ reply ∧ s'.inbox = s.inbox ++ reply ∧ s'.sent = s.sent := by
    intro t a htaken hclient hinbox hsent
    obtain ⟨g, -, rfl⟩ := Option.map_eq_some_iff.mp htaken
    exact ⟨_, by rw [← hclient]; rfl, by rw [← hinbox]; rfl, hsent⟩
  cases a with
  | ping seq => exact absurd rfl (hping seq)
  | rs422 => exact hadvance s _ taken rfl rfl rfl
  | receive count =>
    simp only [System.step] at taken
    split at taken
    · exact hadvance _ _ taken rfl rfl rfl
    · cases taken
  | ethernet op hal =>
    simp only [System.step] at taken
    split at taken
    · exact hadvance s _ taken rfl rfl rfl
    · cases taken
  | uartRx =>
    simp only [System.step] at taken
    split at taken
    · cases taken
    · split at taken
      · exact hadvance _ _ taken rfl rfl rfl
      · cases taken
  | uartError => exact hadvance s _ taken rfl rfl rfl
  | uartTxDone => exact hadvance s _ taken rfl rfl rfl
  | node nows =>
    cases taken
    exact ⟨[], (List.append_nil _).symm, (List.append_nil _).symm, rfl⟩
  | periodic now =>
    cases taken
    exact ⟨[], (List.append_nil _).symm, (List.append_nil _).symm, rfl⟩

/-- The client has been sent the PONGs of all its PINGs but at most one. -/
structure Answers (s : System) (answered rest : List UInt16) : Prop where
  sent : s.sent = answered ++ rest
  single : rest.length ≤ 1
  client : s.client = answered.flatMap (emptyFrame msgPong)
  drained : s.Drained → rest = []

theorem answers (ready : start.Ready) (run : Reachable System.step unguarded start s) :
    ∃ answered rest, s.Answers answered rest := by
  have hflight : ∃ f, InFlight start s f := by
    refine run.invariant (P := fun s => ∃ f, InFlight start s f) ready.inFlight ?_
    rintro s a s' ⟨f, h⟩ - taken
    exact h.step taken
  obtain ⟨f, h⟩ := hflight
  exact ⟨f.answered, f.outstanding s.gateway, h.sent.symm, h.single, h.client,
    h.outstanding_of_drained⟩

theorem emptyFrame_length (msgId : UInt8) (seq : UInt16) : (emptyFrame msgId seq).length = 10 := by
  rw [emptyFrame_eq, Message.wire_length]
  rfl

theorem flatMap_emptyFrame_length (msgId : UInt8) (seqs : List UInt16) :
    (seqs.flatMap (emptyFrame msgId)).length = 10 * seqs.length := by
  induction seqs with
  | nil => rfl
  | cons seq seqs ih =>
    rw [List.flatMap_cons, List.length_append, ih, emptyFrame_length, List.length_cons]
    omega

/-- The PONGs that a step has sent to the client. -/
theorem Answers.reply {answered rest answered' rest' : List UInt16} {reply : List UInt8}
    (h : s.Answers answered rest) (h' : s'.Answers answered' rest')
    (hclient : s'.client = s.client ++ reply) (hsent : s'.sent = s.sent) :
    ∃ more, answered' = answered ++ more ∧ reply = more.flatMap (emptyFrame msgPong) := by
  have hlength := congrArg List.length hclient
  rw [h.client, h'.client, List.length_append, flatMap_emptyFrame_length,
    flatMap_emptyFrame_length] at hlength
  have hbefore : answered <+: s.sent := ⟨rest, h.sent.symm⟩
  have hafter : answered' <+: s.sent := ⟨rest', by rw [← hsent]; exact h'.sent.symm⟩
  have hprefix : answered <+: answered' :=
    List.prefix_of_prefix_length_le hbefore hafter (by omega)
  obtain ⟨more, rfl⟩ := hprefix
  refine ⟨more, rfl, ?_⟩
  rw [h.client, h'.client, List.flatMap_append] at hclient
  exact (List.append_cancel_left hclient).symm

end System

/-! ## The client -/

/-- The client has finished `n` requests, and the PONGs that it has not read are `pongs`. -/
structure ClientSystem.InStep (start s : ClientSystem) (n : Nat) (pongs : List UInt16) : Prop where
  run : Reachable System.step unguarded start.system s.system
  count : s.client.count = start.client.count
  bounded : n + s.client.awaited ≤ s.client.count.toNat
  request : s.client.request = UInt32.ofNat n
  rxCount : s.client.rxCount = UInt32.ofNat n
  txCount : s.client.txCount = UInt32.ofNat (n + s.client.awaited)
  timeoutCount : s.client.timeoutCount = 0
  fatalError : s.client.fatalError = false
  csv : s.client.csv = (requestSeqs n).map fun seq => ⟨seq, .ok⟩
  sent : s.system.sent = requestSeqs (n + s.client.awaited)
  answers : ∃ rest, s.system.Answers (requestSeqs n ++ pongs) rest
  stream : s.client.parser.Expects s.toClient (pongs.map (emptyMessage msgPong))
  inbox : s.system.sent ≠ [] → s.system.inbox =
    ((requestSeqs n ++ pongs).drop (n + s.client.awaited - 1)).flatMap (emptyFrame msgPong)

/-- The client is about to begin. -/
structure ClientSystem.Ready (s : ClientSystem) : Prop where
  system : s.system.Ready
  client : ∃ count, s.client = .initial count
  toClient : s.toClient = []

theorem TcpClient.send_sent (s : TcpClient) :
    s.send true =
      ({ s with txCount := s.txCount + 1, waiting := true }, emptyFrame msgPing s.seq) := by
  have hframe : encodeFrame s.ping = some (emptyFrame msgPing s.seq) := by
    rw [emptyFrame_eq]
    exact encodeFrame_ping s.seq
  unfold send
  rw [hframe]
  rfl

namespace ClientSystem.InStep

variable {start s : ClientSystem} {n : Nat} {pongs : List UInt16}

theorem ready (h : start.Ready) : start.InStep start 0 [] := by
  obtain ⟨count, hclient⟩ := h.client
  have hzero : start.client.awaited = 0 := by rw [hclient]; rfl
  refine ⟨.start, rfl, ?_, ?_, ?_, ?_, ?_, ?_, ?_, ?_, ?_, ?_, ?_⟩
  · rw [hzero]
    exact Nat.zero_le _
  · rw [hclient]; rfl
  · rw [hclient]; rfl
  · rw [hclient]; rfl
  · rw [hclient]; rfl
  · rw [hclient]; rfl
  · rw [hclient]; rfl
  · rw [hzero]
    exact h.system.sent
  · exact ⟨[], ⟨h.system.sent, Nat.zero_le 1, h.system.client, fun _ => rfl⟩⟩
  · rw [h.toClient, hclient]
    exact StreamParser.expects_nil StreamParser.init_represents
  · intro hne
    exact absurd h.system.sent hne

/-- Nothing is on its way to a client that does not wait. -/
theorem idle (h : start.InStep s n pongs) (hidle : s.client.waiting = false) :
    pongs = [] ∧ s.toClient = [] ∧ s.client.parser.Represents [] ∧
      s.system.Answers (requestSeqs n) [] := by
  have hzero : s.client.awaited = 0 := by rw [TcpClient.awaited, hidle]; rfl
  obtain ⟨rest, hanswers⟩ := h.answers
  have hsent := hanswers.sent
  rw [h.sent, hzero, List.append_assoc, Nat.add_zero] at hsent
  have hnil : pongs ++ rest = [] :=
    List.append_cancel_left (hsent.symm.trans (List.append_nil _).symm)
  obtain ⟨rfl, rfl⟩ := List.append_eq_nil_iff.mp hnil
  obtain ⟨hline, hparser⟩ := h.stream.nil
  rw [List.append_nil] at hanswers
  exact ⟨rfl, hline, hparser, hanswers⟩

/-- A client that does not wait has the PONG of its last PING. -/
theorem answered (h : start.InStep s n pongs) (hidle : s.client.waiting = false) :
    s.system.answered = true := by
  have hzero : s.client.awaited = 0 := by rw [TcpClient.awaited, hidle]; rfl
  obtain ⟨rfl, -, -, -⟩ := h.idle hidle
  have hsent := h.sent
  have hinbox := h.inbox
  rw [hzero, Nat.add_zero] at hsent hinbox
  unfold System.answered
  cases n with
  | zero => rw [hsent]; rfl
  | succ n =>
    have hne : s.system.sent ≠ [] := by
      rw [hsent, requestSeqs_succ]
      simp
    have hlast : (requestSeqs (n + 1) ++ []).drop n = [UInt16.ofNat (n + 1)] := by
      rw [List.append_nil, requestSeqs_succ, List.drop_left' (requestSeqs_length n)]
    rw [hinbox hne, Nat.add_sub_cancel, hlast, hsent, requestSeqs_succ, List.getLast?_concat,
      List.flatMap_singleton]
    exact decide_eq_true (List.infix_refl _)

/-- The client sends the PING of its next request. -/
theorem send (h : start.InStep s n pongs) (hrunning : s.client.running = true)
    (hidle : s.client.waiting = false) : start.InStep s.sendPing n [] := by
  have hzero : s.client.awaited = 0 := by rw [TcpClient.awaited, hidle]; rfl
  obtain ⟨rfl, hline, hparser, hanswers⟩ := h.idle hidle
  have hseq := TcpClient.seq_of_request h.request
  have hstep : s.sendPing =
      { s with
        client := { s.client with txCount := s.client.txCount + 1, waiting := true }
        system :=
          { s.system with
            toTcp := s.system.toTcp ++ emptyFrame msgPing s.client.seq
            sent := s.system.sent ++ [s.client.seq]
            inbox := [] } } := by
    rw [sendPing, TcpClient.send_sent]
  have hmore : n < s.client.count.toNat := by
    have hlt : s.client.request < s.client.count := by
      simpa [TcpClient.running, h.fatalError] using hrunning
    have hbounded := h.bounded
    have hcount := s.client.count.toNat_lt
    rw [h.request, UInt32.lt_iff_toNat_lt, UInt32.toNat_ofNat_of_lt' (by
      simp only [UInt32.size]; omega)] at hlt
    exact hlt
  have hsent : s.system.sent ++ [s.client.seq] = requestSeqs (n + 1) := by
    rw [h.sent, hzero, hseq, requestSeqs_succ]
    rfl
  have hclient := hanswers.client
  rw [hstep]
  refine
    { h with
      run := .step (.ping s.client.seq) h.run trivial (if_pos (h.answered hidle))
      bounded := hmore
      txCount := ?_
      sent := hsent
      answers := ?_
      stream := ?_
      inbox := ?_ }
  · show s.client.txCount + 1 = UInt32.ofNat (n + 1)
    rw [h.txCount, hzero, Nat.add_zero, UInt32.ofNat_add]
    rfl
  · refine ⟨[s.client.seq], ?_, Nat.le_refl 1, ?_, ?_⟩
    · rw [hanswers.sent]
    · rw [List.append_nil]
      exact hclient
    · intro drained
      have hempty : s.system.toTcp ++ emptyFrame msgPing s.client.seq = [] := drained.toTcp
      have hlength := congrArg List.length hempty
      rw [List.length_append, System.emptyFrame_length] at hlength
      cases hlength
  · show s.client.parser.Expects s.toClient []
    rw [hline]
    exact StreamParser.expects_nil hparser
  · intro _
    show [] = ((requestSeqs n ++ []).drop (n + 1 - 1)).flatMap (emptyFrame msgPong)
    rw [List.append_nil, Nat.add_sub_cancel, List.drop_of_length_le (requestSeqs_length n).le]
    rfl

/-- The PONGs on their way to a waiting client: at most the one it waits for. -/
theorem pongs_cases (h : start.InStep s n pongs) (hwaiting : s.client.waiting = true) :
    pongs = [] ∨ pongs = [s.client.seq] := by
  have hone : s.client.awaited = 1 := by rw [TcpClient.awaited, hwaiting]; rfl
  obtain ⟨rest, hanswers⟩ := h.answers
  have hsent := hanswers.sent
  rw [h.sent, hone, requestSeqs_succ, List.append_assoc] at hsent
  have hpongs : [UInt16.ofNat (n + 1)] = pongs ++ rest := List.append_cancel_left hsent
  rw [TcpClient.seq_of_request h.request]
  cases pongs with
  | nil => exact .inl rfl
  | cons seq later =>
    obtain ⟨rfl, hnil⟩ := List.cons.inj hpongs
    obtain ⟨rfl, -⟩ := List.append_eq_nil_iff.mp hnil.symm
    exact .inr rfl

/-- The client receives bytes, which may end with the PONG it waits for. -/
theorem receive (h : start.InStep s n pongs) (hwaiting : s.client.waiting = true) (count : Nat) :
    ∃ n' pongs', start.InStep (s.receive count) n' pongs' := by
  have hone : s.client.awaited = 1 := by rw [TcpClient.awaited, hwaiting]; rfl
  have hseq := TcpClient.seq_of_request h.request
  have hstream := h.stream
  rw [← List.take_append_drop count s.toClient] at hstream
  rcases TcpClient.findPong_expects (h.pongs_cases hwaiting) hstream with
    ⟨hnone, hexpects⟩ | ⟨hfound, rfl, hdrained, hexpects⟩
  · have hclient : s.client.wait (.received (s.toClient.take count)) =
        { s.client with
          parser := (TcpClient.findPong s.client.parser s.client.seq
            (s.toClient.take count)).1 } := by
      rw [TcpClient.wait]
      split
      case h_1 heq => rw [heq] at hnone; cases hnone
      case h_2 heq => rw [heq]
    refine ⟨n, pongs, ?_⟩
    rw [ClientSystem.receive, hclient]
    exact { h with stream := hexpects }
  · have hclient : s.client.wait (.received (s.toClient.take count)) =
        { s.client with
          parser := (TcpClient.findPong s.client.parser s.client.seq (s.toClient.take count)).1
          rxCount := s.client.rxCount + 1
          csv := s.client.csv ++ [⟨s.client.seq, .ok⟩]
          request := s.client.request + 1
          waiting := false } := by
      rw [TcpClient.wait]
      split
      case h_1 heq => rw [heq]; rfl
      case h_2 heq => rw [heq] at hfound; cases hfound
    have hanswers := h.answers
    have hinbox := h.inbox
    have hsent := h.sent
    have htx := h.txCount
    have hbounded := h.bounded
    rw [hone] at hinbox hsent htx hbounded
    rw [hseq, ← requestSeqs_succ] at hanswers hinbox
    refine ⟨n + 1, [], ?_⟩
    rw [ClientSystem.receive, hclient]
    refine
      { h with
        bounded := hbounded
        request := ?_
        rxCount := ?_
        txCount := htx
        csv := ?_
        sent := hsent
        answers := ?_
        stream := ?_
        inbox := ?_ }
    · show s.client.request + 1 = _
      rw [h.request, UInt32.ofNat_add]
      rfl
    · show s.client.rxCount + 1 = _
      rw [h.rxCount, UInt32.ofNat_add]
      rfl
    · rw [requestSeqs_succ, List.map_append, h.csv, hseq]
      rfl
    · rw [List.append_nil]
      exact hanswers
    · rw [hdrained]
      exact hexpects
    · rw [List.append_nil]
      exact hinbox

/-- Anything else happens. -/
theorem advance (h : start.InStep s n pongs) (ready : start.Ready) {system : System}
    {a : SystemAction} (hping : ∀ seq, a ≠ .ping seq) (taken : s.system.step a = some system) :
    ∃ pongs', start.InStep (s.advance system) n pongs' := by
  have run : Reachable System.step unguarded start.system system := .step a h.run trivial taken
  obtain ⟨reply, hclient, hinbox, hsent⟩ := System.step_reply hping taken
  obtain ⟨rest, hanswers⟩ := h.answers
  obtain ⟨answered', rest', hanswers'⟩ := System.answers ready.system run
  obtain ⟨more, rfl, hreply⟩ := hanswers.reply hanswers' hclient hsent
  have hnew : system.client.drop s.system.client.length = reply := by
    rw [hclient, List.drop_left]
  refine ⟨pongs ++ more, ?_⟩
  rw [ClientSystem.advance, hnew]
  refine
    { h with
      run := run
      sent := hsent.trans h.sent
      answers := ⟨rest', by rw [← List.append_assoc]; exact hanswers'⟩
      stream := ?_
      inbox := ?_ }
  · have hframes : reply = (more.map (emptyMessage msgPong)).flatMap Message.wire := by
      rw [hreply, List.flatMap_map]
      exact List.flatMap_congr fun seq _ => emptyFrame_eq msgPong seq
    rw [hframes, List.map_append]
    exact h.stream.append_all _
  · intro hne
    have hne' : s.system.sent ≠ [] := by rwa [← hsent]
    have hlength : n + s.client.awaited - 1 ≤ (requestSeqs n ++ pongs).length := by
      have hcount := congrArg List.length hanswers.sent
      have hsingle := hanswers.single
      rw [h.sent, requestSeqs_length, List.length_append] at hcount
      omega
    rw [hinbox, h.inbox hne', hreply, ← List.append_assoc,
      List.drop_append_of_le_length hlength, List.flatMap_append]

theorem step {s' : ClientSystem} {a : ClientAction} (h : start.InStep s n pongs)
    (ready : start.Ready) (taken : s.step a = some s') :
    ∃ n' pongs', start.InStep s' n' pongs' := by
  cases a with
  | send =>
    simp only [ClientSystem.step] at taken
    split at taken
    case isTrue hsend =>
      cases taken
      exact ⟨n, [], h.send hsend.1 hsend.2⟩
    case isFalse => cases taken
  | recv count =>
    simp only [ClientSystem.step] at taken
    split at taken
    case isTrue hrecv =>
      cases taken
      exact h.receive hrecv.1 count
    case isFalse => cases taken
  | system a =>
    by_cases hping : ∃ seq, a = .ping seq
    · obtain ⟨seq, rfl⟩ := hping
      cases taken
    · have hstep : s.step (.system a) = (s.system.step a).map s.advance := by
        cases a with
        | ping seq => exact absurd ⟨seq, rfl⟩ hping
        | _ => rfl
      rw [hstep] at taken
      obtain ⟨system, hsystem, rfl⟩ := Option.map_eq_some_iff.mp taken
      obtain ⟨pongs', h'⟩ := h.advance ready (fun seq heq => hping ⟨seq, heq⟩) hsystem
      exact ⟨n, pongs', h'⟩

/-- A drained system has answered the last request. -/
theorem drained (h : start.InStep s n pongs) (drained : s.system.Drained)
    (hline : s.toClient = []) : s.client.waiting = false := by
  by_contra hwaiting
  have hone : s.client.awaited = 1 := by
    rw [TcpClient.awaited, if_pos (Bool.not_eq_false _ ▸ hwaiting)]
  have hstream := h.stream
  rw [hline] at hstream
  obtain rfl : pongs = [] := List.map_eq_nil_iff.mp hstream.eq_nil_of_drained
  obtain ⟨rest, hanswers⟩ := h.answers
  have hlength := congrArg List.length hanswers.sent
  rw [h.sent, hone, hanswers.drained drained, List.append_nil, List.append_nil, requestSeqs_length,
    requestSeqs_length] at hlength
  omega

theorem success (h : start.InStep s n pongs) (hidle : s.client.waiting = false) :
    s.client.success = true := by
  have hzero : s.client.awaited = 0 := by rw [TcpClient.awaited, hidle]; rfl
  rw [TcpClient.success, h.fatalError, h.rxCount, h.txCount, hzero, Nat.add_zero]
  simp

/-- Behind its last request the client has a row for each. -/
theorem finished (h : start.InStep s n pongs) (hover : s.client.running = false) :
    n = s.client.count.toNat ∧ s.client.waiting = false := by
  have hbounded := h.bounded
  have hcount := s.client.count.toNat_lt
  have hle : s.client.count.toNat ≤ n := by
    have hnot : ¬ s.client.request < s.client.count := by
      simpa [TcpClient.running, h.fatalError] using hover
    have hrequest : s.client.request.toNat = n := by
      rw [h.request]
      exact UInt32.toNat_ofNat_of_lt' (by simp only [UInt32.size]; omega)
    rw [UInt32.lt_iff_toNat_lt, hrequest] at hnot
    exact Nat.not_lt.mp hnot
  refine ⟨by omega, ?_⟩
  cases hwaiting : s.client.waiting with
  | false => rfl
  | true =>
    rw [TcpClient.awaited, hwaiting, if_pos rfl] at hbounded
    omega

end ClientSystem.InStep

/-- The TCP client end to end: its runs are runs of `LockStep`, so its PINGs come one at a time.
    Each finished request has its row with status OK, in order, and none times out. A drained system
    waits for nothing, and a client that has come to its end has all its rows and exits with
    success. -/
theorem tcpClient_endToEnd {start s : ClientSystem} (ready : start.Ready)
    (run : Reachable ClientSystem.step unguarded start s) :
    Reachable System.step unguarded start.system s.system ∧
      (∃ n ≤ s.client.count.toNat, s.client.csv = (requestSeqs n).map (⟨·, .ok⟩) ∧
        s.client.rxCount = UInt32.ofNat n) ∧
      s.client.timeoutCount = 0 ∧
      (s.system.Drained → s.toClient = [] →
        s.client.waiting = false ∧ s.client.success = true) ∧
      (s.client.running = false →
        s.client.csv = (requestSeqs s.client.count.toNat).map (⟨·, .ok⟩) ∧
          s.client.success = true) := by
  have hinv : ∃ n pongs, start.InStep s n pongs := by
    refine run.invariant (P := fun s => ∃ n pongs, start.InStep s n pongs)
      ⟨0, [], .ready ready⟩ ?_
    rintro s a s' ⟨n, pongs, h⟩ - taken
    exact h.step ready taken
  obtain ⟨n, pongs, h⟩ := hinv
  refine ⟨h.run, ⟨n, ?_, h.csv, h.rxCount⟩, h.timeoutCount, ?_, ?_⟩
  · exact (Nat.le_add_right _ _).trans h.bounded
  · intro drained hline
    have hidle := h.drained drained hline
    exact ⟨hidle, h.success hidle⟩
  · intro hover
    obtain ⟨hn, hidle⟩ := h.finished hover
    exact ⟨hn ▸ h.csv, h.success hidle⟩

/-- The client of two requests, with the firmwares just brought up. -/
def ClientSystem.fresh : ClientSystem := ⟨.fresh, .initial 2, []⟩

/-- A request, as in `pingSevenRun`. -/
def requestRun (now : UInt32) : List ClientAction :=
  .send :: (pingSevenRun now).tail.map .system ++ [.recv 3, .recv 512]

theorem tcpClient_endToEnd_twice :
    ∃ s, Reachable ClientSystem.step unguarded ClientSystem.fresh s ∧
      s.client.csv = [⟨1, .ok⟩, ⟨2, .ok⟩] ∧ s.client.success = true := by
  obtain ⟨s, run, htest⟩ := exists_reachable ClientSystem.step unguarded ClientSystem.fresh
    (requestRun 100 ++ requestRun 200)
    (fun s => decide (s.client.running = false ∧ s.client.count = 2)) (by decide +kernel)
  obtain ⟨hover, hcount⟩ := of_decide_eq_true htest
  have ready : ClientSystem.fresh.Ready :=
    { system :=
        { gateway := ⟨rfl, rfl, rfl, rfl, rfl, rfl, rfl, StreamParser.init_represents⟩
          node := StreamParser.init_represents
          toTcp := rfl
          toNode := rfl
          toGateway := ⟨[], StreamParser.expects_nil StreamParser.init_represents, by simp⟩
          sent := rfl
          client := rfl }
      client := ⟨2, rfl⟩
      toClient := rfl }
  obtain ⟨-, -, -, -, hfinished⟩ := tcpClient_endToEnd ready run
  obtain ⟨hcsv, hsuccess⟩ := hfinished hover
  rw [hcount] at hcsv
  exact ⟨s, run, hcsv, hsuccess⟩

end Rs422Gateway
