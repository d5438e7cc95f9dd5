import Rs422Gateway.Host.Proofs.FindPong
import Rs422Gateway.Host.TcpSession
import Rs422Gateway.Misc.Transition

/-!
# The CSV file tells what the server has done

Whatever the server sends and whenever, a request has the status OK exactly when its own PONG has
come behind its PING and before its time was over. What is late or foreign is not taken for it.
-/

namespace Rs422Gateway

open Transition Scanner

/-- The row tells what has been read. -/
structure TcpRequest.Sound (r : TcpRequest) : Prop where
  ok : r.row.status = .ok ↔ HeardPong [] r.row.seq r.heard
  pong : r.row.status = .ok → (emptyMessage msgPong r.row.seq).wire <:+: r.heard
  encoded : r.row.status ≠ .encodeError

/-- The loop goes on behind the row. -/
def RttRow.Regular (row : RttRow) : Prop := row.status = .ok ∨ row.status = .timeout

/-- The loop over the requests has been left. -/
def TcpClient.Finished (s : TcpClient) : Prop := s.running = false ∧ s.waiting = false

/-- The number of rows with one status. -/
def TcpClient.rows (s : TcpClient) (status : RttStatus) : Nat :=
  s.csv.countP (·.status = status)

/-- The three counters. -/
structure TcpClient.Counts (s : TcpClient) : Prop where
  rxCount : s.rxCount.toNat = s.rows .ok
  timeoutCount : s.timeoutCount.toNat = s.rows .timeout
  txCount : s.txCount.toNat = s.rows .ok + s.rows .timeout + s.rows .rxError + s.awaited

/-! ## Rows -/

theorem countP_cons_status (row : RttRow) (rows : List RttRow) (status : RttStatus) :
    (row :: rows).countP (·.status = status) =
      rows.countP (·.status = status) + if row.status = status then 1 else 0 := by
  rw [List.countP_cons]
  simp only [decide_eq_true_eq]

namespace TcpClient

variable {s s' : TcpClient}

theorem rows_append {rows : List RttRow} {row : RttRow} (h : s'.csv = rows ++ [row])
    (status : RttStatus) :
    s'.rows status =
      rows.countP (·.status = status) + if row.status = status then 1 else 0 := by
  rw [TcpClient.rows, h, List.countP_append, List.countP_singleton]
  simp only [decide_eq_true_eq]

/-- Each row has a status. -/
theorem length_csv (s : TcpClient) :
    s.csv.length =
      s.rows .ok + s.rows .timeout + s.rows .rxError + s.rows .sendError + s.rows .encodeError := by
  unfold rows
  induction s.csv with
  | nil => rfl
  | cons row csv ih =>
    simp only [countP_cons_status, List.length_cons, ih]
    cases row.status <;> simp only [reduceCtorEq, if_true, if_false] <;> omega

end TcpClient

namespace TcpSession

variable {s s' : TcpSession} {count : UInt32}

/-- What is under way. -/
def Progress (s : TcpSession) : Prop :=
  if s.client.waiting then
    s.client.parser.Represents (scanAll [] s.heard) ∧ ¬ HeardPong [] s.client.seq s.heard
  else s.client.parser.Represents []

/-- No error has happened. -/
structure Open (s : TcpSession) : Prop where
  fatalError : s.client.fatalError = false
  regular : ∀ row ∈ s.client.csv, row.Regular
  request : s.client.request = UInt32.ofNat s.client.csv.length
  progress : s.Progress

/-- The loop has been left with an error. -/
structure Failed (s : TcpSession) : Prop where
  fatalError : s.client.fatalError = true
  waiting : s.client.waiting = false
  csv : ∃ rows row, s.client.csv = rows ++ [row] ∧ (∀ r ∈ rows, r.Regular) ∧ ¬ row.Regular

/-- What has happened. -/
structure Log (count : UInt32) (s : TcpSession) : Prop where
  rows : s.requests.map (·.row) = s.client.csv
  seqs : s.client.csv.map (·.seq) = requestSeqs s.client.csv.length
  sound : ∀ r ∈ s.requests, r.Sound
  counts : s.client.Counts
  bounded : s.client.csv.length + s.client.awaited ≤ count.toNat
  count : s.client.count = count

/-- The invariant. -/
def Inv (count : UInt32) (s : TcpSession) : Prop := s.Log count ∧ (s.Open ∨ s.Failed)

theorem inv_initial (count : UInt32) : (initial count).Inv count := by
  constructor
  · exact
      { rows := rfl
        seqs := rfl
        sound := fun _ hr => by cases hr
        counts := ⟨rfl, rfl, rfl⟩
        bounded := Nat.zero_le _
        count := rfl }
  · exact .inl
      { fatalError := rfl
        regular := fun _ hrow => by cases hrow
        request := rfl
        progress := StreamParser.init_represents }

theorem advance_same {client : TcpClient} (heard : List UInt8)
    (hcsv : client.csv = s.client.csv) : s.advance client heard = ⟨client, heard, s.requests⟩ := by
  rw [advance, hcsv, List.drop_length]
  exact congrArg (TcpSession.mk client heard) (List.append_nil _)

theorem advance_row {client : TcpClient} (heard : List UInt8) {row : RttRow}
    (hcsv : client.csv = s.client.csv ++ [row]) :
    s.advance client heard = ⟨client, heard, s.requests ++ [⟨row, heard⟩]⟩ := by
  rw [advance, hcsv, List.drop_left]
  rfl

/-- A row is written. -/
theorem Log.row (h : s.Log count) (hopen : s.Open) {client : TcpClient} {heard : List UInt8}
    {status : RttStatus} (hcsv : client.csv = s.client.csv ++ [⟨s.client.seq, status⟩])
    (hcount : client.count = s.client.count) (hidle : client.waiting = false)
    (hmore : s.client.csv.length < count.toNat) (hcounts : client.Counts)
    (hsound : TcpRequest.Sound ⟨⟨s.client.seq, status⟩, heard⟩) :
    (s.advance client heard).Log count := by
  have hzero : client.awaited = 0 := by rw [TcpClient.awaited, hidle]; rfl
  have hlength : client.csv.length = s.client.csv.length + 1 := by
    rw [hcsv, List.length_append]
    rfl
  rw [advance_row heard hcsv]
  refine
    { rows := ?_
      seqs := ?_
      sound := ?_
      counts := hcounts
      bounded := ?_
      count := hcount.trans h.count }
  · show (s.requests ++ _).map _ = client.csv
    rw [List.map_append, h.rows, hcsv]
    rfl
  · show client.csv.map _ = requestSeqs client.csv.length
    rw [hlength, hcsv, List.map_append, h.seqs, requestSeqs_succ]
    exact congrArg _ (congrArg (fun seq => [seq]) (TcpClient.seq_of_request hopen.request))
  · intro r hr
    rcases List.mem_append.mp hr with hr | hr
    · exact h.sound r hr
    · rw [List.mem_singleton.mp hr]
      exact hsound
  · show client.csv.length + client.awaited ≤ _
    rw [hzero, hlength]
    exact hmore

/-! ## Steps -/

/-- One more fits into a counter. -/
theorem toNat_succ (count : UInt32) {x : UInt32} (h : x.toNat < count.toNat) :
    (x + 1).toNat = x.toNat + 1 := by
  have hcount := count.toNat_lt
  rw [UInt32.toNat_add]
  exact Nat.mod_eq_of_lt (by have hone : (1 : UInt32).toNat = 1 := rfl; omega)

/-- A row behind which the loop goes on. -/
theorem Open.regular_row (h : s.Open) {rows : List RttRow} {row : RttRow}
    (hrows : rows = s.client.csv ++ [row]) (hrow : row.Regular) : ∀ r ∈ rows, r.Regular := by
  intro r hr
  rw [hrows] at hr
  rcases List.mem_append.mp hr with hr | hr
  · exact h.regular r hr
  · rw [List.mem_singleton.mp hr]
    exact hrow

theorem Open.request_succ (h : s.Open) :
    s.client.request + 1 = UInt32.ofNat (s.client.csv.length + 1) := by
  rw [h.request]
  exact (UInt32.ofNat_add _ 1).symm

theorem inv_send (h : s.Log count) (hopen : s.Open) (hrunning : s.client.running = true)
    (hidle : s.client.waiting = false) (sent : Bool) :
    (s.advance (s.client.send sent).1 []).Inv count := by
  have hzero : s.client.awaited = 0 := by rw [TcpClient.awaited, hidle]; rfl
  have hlt : s.client.request < s.client.count := by
    simpa [TcpClient.running, hopen.fatalError] using hrunning
  have hmore : s.client.csv.length < count.toNat := by
    have hbounded := h.bounded
    have hcount := count.toNat_lt
    rw [hopen.request, h.count, UInt32.lt_iff_toNat_lt, UInt32.toNat_ofNat_of_lt' (by
      simp only [UInt32.size]; omega)] at hlt
    exact hlt
  have hlength := s.client.length_csv
  have htx := h.counts.txCount
  rw [hzero, Nat.add_zero] at htx
  have hparser := hopen.progress
  unfold Progress at hparser
  rw [hidle] at hparser
  have hframe : encodeFrame s.client.ping = some _ := encodeFrame_ping s.client.seq
  unfold TcpClient.send
  rw [hframe]
  cases sent with
  | true =>
    have hsame : s.advance { s.client with txCount := s.client.txCount + 1, waiting := true } [] =
      ⟨_, [], s.requests⟩ := advance_same [] rfl
    dsimp only
    rw [if_pos rfl]
    dsimp only
    rw [hsame]
    refine ⟨{ h with counts := ?_, bounded := hmore }, .inl ?_⟩
    · refine { h.counts with txCount := ?_ }
      show (s.client.txCount + 1).toNat = _ + 1
      rw [toNat_succ count (by omega), htx]
      rfl
    · exact { hopen with progress := ⟨hparser, heardPong_nil [] _⟩ }
  | false =>
    dsimp only
    rw [if_neg Bool.false_ne_true]
    have hcsv : (s.client.fail .sendError).csv = s.client.csv ++ [⟨s.client.seq, .sendError⟩] := rfl
    refine ⟨h.row hopen hcsv rfl rfl hmore ?_ ?_, .inr ?_⟩
    · have hrows := TcpClient.rows_append hcsv
      refine ⟨?_, ?_, ?_⟩
      · rw [hrows]
        exact h.counts.rxCount
      · rw [hrows]
        exact h.counts.timeoutCount
      · rw [hrows, hrows, hrows]
        exact htx
    · exact ⟨iff_of_false nofun (heardPong_nil [] _), nofun, nofun⟩
    · rw [advance_row [] hcsv]
      exact ⟨rfl, rfl, s.client.csv, _, rfl, hopen.regular, by rintro (h | h) <;> cases h⟩

/-- A request ends and the loop goes on: the PONG has come, or the time is over. -/
theorem inv_row (h : s.Log count) (hopen : s.Open) (hwaiting : s.client.waiting = true)
    {client : TcpClient} {heard : List UInt8} (status : RttStatus)
    (hcsv : client.csv = s.client.csv ++ [⟨s.client.seq, status⟩])
    (hclient : client.count = s.client.count ∧ client.fatalError = s.client.fatalError ∧
      client.request = s.client.request + 1 ∧ client.txCount = s.client.txCount ∧
      client.waiting = false)
    (hrx : client.rxCount.toNat = s.client.rxCount.toNat + if status = .ok then 1 else 0)
    (htimeout : client.timeoutCount.toNat =
      s.client.timeoutCount.toNat + if status = .timeout then 1 else 0)
    (hregular : status = .ok ∨ status = .timeout) (hparser : client.parser.Represents [])
    (hsound : TcpRequest.Sound ⟨⟨s.client.seq, status⟩, heard⟩) :
    (s.advance client heard).Inv count := by
  obtain ⟨hcount, hfatalError, hrequest, htx, hidle⟩ := hclient
  have hone : s.client.awaited = 1 := by rw [TcpClient.awaited, hwaiting]; rfl
  have hzero : client.awaited = 0 := by rw [TcpClient.awaited, hidle]; rfl
  have hbounded := h.bounded
  have hrows := TcpClient.rows_append hcsv
  have hlength : client.csv.length = s.client.csv.length + 1 := by
    rw [hcsv, List.length_append]
    rfl
  have hcounts : client.Counts := by
    refine ⟨?_, ?_, ?_⟩
    · rw [hrx, h.counts.rxCount, hrows]
      rfl
    · rw [htimeout, h.counts.timeoutCount, hrows]
      rfl
    · rw [htx, h.counts.txCount, hone, hzero, hrows, hrows, hrows]
      unfold TcpClient.rows
      rcases hregular with rfl | rfl <;> simp only [reduceCtorEq, if_true, if_false] <;> omega
  refine ⟨h.row hopen hcsv hcount hidle (by omega) hcounts hsound, .inl ?_⟩
  rw [advance_row heard hcsv]
  refine
    { fatalError := hfatalError.trans hopen.fatalError
      regular := hopen.regular_row hcsv hregular
      request := ?_
      progress := ?_ }
  · show client.request = UInt32.ofNat client.csv.length
    rw [hrequest, hlength]
    exact hopen.request_succ
  · unfold Progress
    dsimp only
    rw [hidle]
    exact hparser

theorem inv_wait (h : s.Log count) (hopen : s.Open) (hwaiting : s.client.waiting = true)
    (event : WaitEvent) :
    (s.advance (s.client.wait event) (s.heard ++ event.bytes)).Inv count := by
  have hprogress := hopen.progress
  unfold Progress at hprogress
  rw [if_pos hwaiting] at hprogress
  obtain ⟨hparser, hnot⟩ := hprogress
  have hone : s.client.awaited = 1 := by rw [TcpClient.awaited, hwaiting]; rfl
  have hbounded := h.bounded
  have hlength := s.client.length_csv
  have hrx := h.counts.rxCount
  have htimeout := h.counts.timeoutCount
  have htx := h.counts.txCount
  cases event with
  | received bytes =>
    have happend := heardPong_append [] s.client.seq s.heard bytes
    unfold TcpClient.wait
    dsimp only [WaitEvent.bytes]
    rcases TcpClient.findPong_represents hparser s.client.seq bytes with
      ⟨hfound, hheard, hrepresents⟩ | ⟨hfound, hheard, hrepresents⟩
    · rw [show TcpClient.findPong s.client.parser s.client.seq bytes =
        ((TcpClient.findPong s.client.parser s.client.seq bytes).1, true) from Prod.ext rfl hfound]
      have hboth := happend.mpr (.inr hheard)
      refine inv_row h hopen hwaiting .ok rfl ⟨rfl, rfl, rfl, rfl, rfl⟩ ?_ rfl (.inl rfl)
        hrepresents ?_
      · exact toNat_succ count (by omega)
      · exact ⟨iff_of_true rfl hboth, fun _ => hboth.whole, nofun⟩
    · rw [show TcpClient.findPong s.client.parser s.client.seq bytes =
        ((TcpClient.findPong s.client.parser s.client.seq bytes).1, false) from Prod.ext rfl hfound]
      have hsame : s.advance
          { s.client with parser := (TcpClient.findPong s.client.parser s.client.seq bytes).1 }
          (s.heard ++ bytes) = ⟨_, s.heard ++ bytes, s.requests⟩ := advance_same _ rfl
      dsimp only
      rw [hsame]
      refine ⟨{ h with counts := { h.counts with } }, .inl { hopen with progress := ?_ }⟩
      unfold Progress
      rw [if_pos hwaiting]
      refine ⟨?_, fun hboth => (happend.mp hboth).elim hnot hheard⟩
      show StreamParser.Represents _ (scanAll [] (s.heard ++ bytes))
      rw [scanAll_append]
      exact hrepresents
  | timeout =>
    refine inv_row h hopen hwaiting .timeout rfl ⟨rfl, rfl, rfl, rfl, rfl⟩ rfl ?_
      (.inr rfl) (StreamParser.resetFrame_represents _) ?_
    · exact toNat_succ count (by omega)
    · rw [WaitEvent.bytes, List.append_nil]
      exact ⟨iff_of_false nofun hnot, nofun, nofun⟩
  | error =>
    have hcsv : (s.client.fail .rxError).csv = s.client.csv ++ [⟨s.client.seq, .rxError⟩] := rfl
    rw [WaitEvent.bytes, List.append_nil]
    show (s.advance (s.client.fail .rxError) s.heard).Inv count
    refine ⟨h.row hopen hcsv rfl rfl (by omega) ?_ ?_, .inr ?_⟩
    · have hrows := TcpClient.rows_append hcsv
      refine ⟨?_, ?_, ?_⟩
      · rw [hrows]
        exact hrx
      · rw [hrows]
        exact htimeout
      · rw [hrows, hrows, hrows]
        rw [hone] at htx
        exact htx
    · exact ⟨iff_of_false nofun hnot, nofun, nofun⟩
    · rw [advance_row s.heard hcsv]
      exact ⟨rfl, rfl, s.client.csv, _, rfl, hopen.regular, by rintro (h | h) <;> cases h⟩

theorem inv_step (h : s.Inv count) {a : TcpSessionAction} (taken : s.step a = some s') :
    s'.Inv count := by
  obtain ⟨log, hstate⟩ := h
  cases a with
  | send sent =>
    simp only [step, Option.ite_none_right_eq_some, Option.some.injEq] at taken
    obtain ⟨⟨hrunning, hidle⟩, rfl⟩ := taken
    rcases hstate with hopen | hfailed
    · exact inv_send log hopen hrunning hidle sent
    · rw [TcpClient.running, hfailed.fatalError, Bool.not_true, Bool.and_false] at hrunning
      cases hrunning
  | wait event =>
    simp only [step, Option.ite_none_right_eq_some, Option.some.injEq] at taken
    obtain ⟨hwaiting, rfl⟩ := taken
    rcases hstate with hopen | hfailed
    · exact inv_wait log hopen hwaiting event
    · rw [hfailed.waiting] at hwaiting
      cases hwaiting

/-! ## The exit code -/

theorem rows_regular {rows : List RttRow} (h : ∀ row ∈ rows, row.Regular) :
    rows.countP (·.status = .ok) + rows.countP (·.status = .timeout) = rows.length ∧
      rows.countP (·.status = .rxError) = 0 := by
  induction rows with
  | nil => exact ⟨rfl, rfl⟩
  | cons row rows ih =>
    obtain ⟨hsum, hzero⟩ := ih fun r hr => h r (List.mem_cons_of_mem _ hr)
    rw [countP_cons_status, countP_cons_status, countP_cons_status, hzero, List.length_cons]
    rcases h row List.mem_cons_self with hrow | hrow <;> rw [hrow] <;>
      simp only [reduceCtorEq, if_true, if_false] <;> exact ⟨by omega, trivial⟩

/-- At its end the client reports success exactly when every request has got its PONG. -/
theorem success_iff (h : s.Inv count) (hfinished : s.client.Finished) :
    s.client.success = true ↔
      s.client.csv.length = count.toNat ∧ ∀ row ∈ s.client.csv, row.status = .ok := by
  obtain ⟨log, hstate⟩ := h
  obtain ⟨hrunning, hidle⟩ := hfinished
  have hzero : s.client.awaited = 0 := by rw [TcpClient.awaited, hidle]; rfl
  have hbounded := log.bounded
  have hcount := count.toNat_lt
  rcases hstate with hopen | hfailed
  · have hdone : s.client.csv.length = count.toNat := by
      have hge : ¬ s.client.request < s.client.count := by
        simpa [TcpClient.running, hopen.fatalError] using hrunning
      rw [hopen.request, log.count, UInt32.lt_iff_toNat_lt, UInt32.toNat_ofNat_of_lt' (by
        simp only [UInt32.size]; omega)] at hge
      omega
    obtain ⟨hsum, hnone⟩ := rows_regular hopen.regular
    have hall : s.client.csv.countP (·.status = .ok) = s.client.csv.length ↔
        ∀ row ∈ s.client.csv, row.status = .ok := by
      rw [List.countP_eq_length]
      simp only [decide_eq_true_eq]
    have hrx := log.counts.rxCount
    have htx := log.counts.txCount
    rw [hzero] at htx
    unfold TcpClient.rows at hrx htx
    rw [← hall, TcpClient.success, hopen.fatalError, Bool.not_false, Bool.true_and,
      decide_eq_true_eq, ← UInt32.toNat_inj]
    omega
  · obtain ⟨rows, row, hcsv, -, hrow⟩ := hfailed.csv
    rw [TcpClient.success, hfailed.fatalError, Bool.not_true, Bool.false_and]
    refine iff_of_false Bool.false_ne_true ?_
    rintro ⟨-, hok⟩
    refine hrow (.inl (hok row ?_))
    rw [hcsv]
    exact List.mem_append_right _ (List.mem_singleton_self row)

end TcpSession

/-- In every run of the client, whatever the server sends: the rows have the SEQs 1, 2 and so on, a
    row says OK exactly when the parser finds the PONG with its SEQ in what has been read between
    its PING and the row, only the last row can be an error, the counters count the rows, and the
    exit code is success exactly when all requests asked for have got their PONG. -/
theorem tcpSession_run {count : UInt32} {s : TcpSession}
    (run : Reachable TcpSession.step unguarded (.initial count) s) :
    s.requests.map (·.row) = s.client.csv ∧
      s.client.csv.map (·.seq) = requestSeqs s.client.csv.length ∧
      (∀ r ∈ s.requests, r.Sound) ∧
      (∀ row ∈ s.client.csv.dropLast, row.Regular) ∧
      s.client.Counts ∧
      (s.client.Finished → (s.client.success = true ↔
        s.client.csv.length = count.toNat ∧ ∀ row ∈ s.client.csv, row.status = .ok)) := by
  have h : s.Inv count := run.invariant (TcpSession.inv_initial count)
    fun _ _ _ h _ taken => TcpSession.inv_step h taken
  refine ⟨h.1.rows, h.1.seqs, h.1.sound, ?_, h.1.counts, TcpSession.success_iff h⟩
  rcases h.2 with hopen | hfailed
  · exact fun row hrow => hopen.regular row (List.mem_of_mem_dropLast hrow)
  · obtain ⟨rows, row, hcsv, hregular, -⟩ := hfailed.csv
    rw [hcsv, List.dropLast_concat]
    exact hregular

/-- The PONG of the first request comes too late. It is read while the client waits for the second
    one, and it is not taken for that. -/
theorem tcpSession_run_late :
    ∃ s, Reachable TcpSession.step unguarded (.initial 2) s ∧ s.client.Finished ∧
      s.client.csv = [⟨1, .timeout⟩, ⟨2, .ok⟩] ∧ s.client.success = false := by
  let pong (seq : UInt16) := (emptyMessage msgPong seq).wire
  obtain ⟨s, run, htest⟩ := exists_reachable TcpSession.step unguarded (.initial 2)
    [.send true, .wait (.received ((pong 1).take 3)), .wait .timeout, .send true,
      .wait (.received (pong 1)), .wait (.received (pong 2))]
    (fun s => decide ((s.client.running = false ∧ s.client.waiting = false) ∧
      s.client.csv = [⟨1, .timeout⟩, ⟨2, .ok⟩])) (by decide +kernel)
  obtain ⟨hfinished, hcsv⟩ := of_decide_eq_true htest
  refine ⟨s, run, hfinished, hcsv, ?_⟩
  rw [Bool.eq_false_iff, Ne, (tcpSession_run run).2.2.2.2.2 hfinished, hcsv]
  rintro ⟨-, hok⟩
  exact absurd (hok _ List.mem_cons_self) (by decide)

end Rs422Gateway
