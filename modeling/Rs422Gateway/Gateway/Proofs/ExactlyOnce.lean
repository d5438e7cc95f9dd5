import Rs422Gateway.Gateway.TcpReceive
import Rs422Gateway.Misc.Transition

/-!
# Exactly-once receipt

`w5500_tcp_process_rx` feeds the bytes of a chunk only after it has moved `Sn_RX_RD` past them and
RECV has committed that. As long as these three go through together, what is fed to `g_tcp_parser`
is a prefix of the received stream, whatever the other SPI transactions return.
-/

namespace Rs422Gateway

open Transition

/-- A step that moves `Sn_RX_RD` succeeds, and so do the write of RECV and the wait for it that
    follow. -/
def TcpReceive.UpdatesWhole (s : TcpReceive) : TcpReceiveAction → Prop
  | .spi status taken _ late =>
      match s.pc with
      | .writePointer chunk rxReadPointer =>
          status = .ok ∨
            (s.chip.writeRxRd (newRxReadPointer chunk rxReadPointer) taken).rxRd = s.chip.rxRd
      | .writeCommand _ => status = .ok
      | .poll _ => status = .ok ∧ (s.chip.cr = 0 ∨ late = false)
      | _ => True
  | _ => True

instance (s : TcpReceive) (a : TcpReceiveAction) : Decidable (s.UpdatesWhole a) := by
  unfold TcpReceive.UpdatesWhole
  split
  · split <;> infer_instance
  · infer_instance

/-- What is fed to `g_tcp_parser` is a prefix of the received stream. -/
def TcpReceive.ExactlyOnce (s : TcpReceive) : Prop := s.fed <+: s.chip.received

namespace Socket0

variable {c : Socket0}

/-- The committed pointer is behind exactly the bytes `taken` of the stream. -/
structure Committed (c : Socket0) (taken : List UInt8) : Prop where
  bytes : taken = c.received.take c.committed
  le : c.committed ≤ c.received.length
  window : c.received.length - c.committed < 2 ^ 16

/-- `Sn_RX_RD` is committed and no command is under way. -/
structure AtRest (c : Socket0) (taken : List UInt8) : Prop extends Committed c taken where
  rxRd : c.rxRd = c.committedPointer
  idle : c.cr = 0

/-- The bytes behind the committed pointer begin with `chunk`. -/
structure Ahead (c : Socket0) (chunk : List UInt8) : Prop where
  next : chunk = (c.received.drop c.committed).take chunk.length
  bound : chunk.length ≤ 64

/-- `Sn_RX_RD` is behind `chunk`, and this is not committed. -/
structure Moved (c : Socket0) (taken chunk : List UInt8) : Prop extends
    Committed c taken, Ahead c chunk where
  rxRd : c.rxRd = c.committedPointer + UInt16.ofNat chunk.length

theorem Committed.isPrefix {taken : List UInt8} (h : c.Committed taken) : taken <+: c.received :=
  h.bytes ▸ List.take_prefix _ _

/-- The size register never shows more bytes than have been received. -/
theorem Committed.rxRsr_toNat {taken : List UInt8} (h : c.Committed taken) :
    c.rxRsr.toNat = c.received.length - c.committed := by
  have := h.window
  simp only [rxRsr, UInt16.toNat_ofNat']
  omega

/-- `Sn_RX_RD` at rest stands for the first byte that is not committed. -/
theorem AtRest.position {taken : List UInt8} (h : c.AtRest taken) :
    c.position c.rxRd = c.committed := by
  rw [Socket0.position, h.rxRd, UInt16.sub_self]
  rfl

/-- Received bytes are read from the RX buffer as they were sent. -/
theorem AtRest.readRxBuffer {taken : List UInt8} (h : c.AtRest taken) {length : Nat}
    (available : length ≤ c.received.length - c.committed) (old : UInt8) :
    c.readRxBuffer c.rxRd length old = (c.received.drop c.committed).take length := by
  rw [Socket0.readRxBuffer, h.position, List.take_append_of_le_length]
  rw [List.length_drop]
  exact available

theorem ahead_take {length : Nat} (bound : length ≤ 64)
    (available : length ≤ c.received.length - c.committed) :
    c.Ahead ((c.received.drop c.committed).take length) := by
  have hlength : ((c.received.drop c.committed).take length).length = length := by
    rw [List.length_take, List.length_drop, Nat.min_eq_left available]
  refine ⟨by rw [hlength], ?_⟩
  rw [hlength]
  exact bound

/-- `Sn_RX_RD` is moved behind the next chunk. -/
theorem AtRest.writeRxRd {taken chunk : List UInt8} (h : c.AtRest taken) (ahead : c.Ahead chunk) :
    (c.writeRxRd (TcpReceive.newRxReadPointer chunk c.rxRd) 2).Moved taken chunk where
  bytes := h.bytes
  le := h.le
  window := h.window
  next := ahead.next
  bound := ahead.bound
  rxRd := congrArg (· + _) h.rxRd

/-- RECV commits the chunk. -/
theorem Moved.execute {taken chunk : List UInt8} (h : c.Moved taken chunk) :
    c.execute.AtRest (taken ++ chunk) := by
  have hbound := h.bound
  have hposition : c.position c.rxRd = c.committed + chunk.length := by
    rw [Socket0.position, h.rxRd, UInt16.add_comm, UInt16.add_sub_cancel, UInt16.toNat_ofNat']
    omega
  have hlength := congrArg List.length h.next
  rw [List.length_take, List.length_drop] at hlength
  have hle := h.le
  have hwindow := h.window
  refine { bytes := ?_, le := ?_, window := ?_, rxRd := ?_, idle := rfl }
  · show taken ++ chunk = c.received.take (c.position c.rxRd)
    rw [hposition, List.take_add, ← h.bytes, ← h.next]
  · show c.position c.rxRd ≤ c.received.length
    omega
  · show c.received.length - c.position c.rxRd < 2 ^ 16
    omega
  · show c.rxRd = c.base + UInt16.ofNat (c.position c.rxRd)
    rw [hposition, h.rxRd, committedPointer, UInt16.ofNat_add, UInt16.add_assoc]

section Arrive

variable {bytes taken chunk : List UInt8}

/-- Bytes that arrive change nothing in front of them. -/
theorem Committed.arrive (h : c.Committed taken)
    (window : c.received.length + bytes.length - c.committed < 2 ^ 16) :
    { c with received := c.received ++ bytes }.Committed taken where
  bytes := by
    show taken = (c.received ++ bytes).take c.committed
    rw [List.take_append_of_le_length h.le]
    exact h.bytes
  le := by
    show c.committed ≤ (c.received ++ bytes).length
    rw [List.length_append]
    exact Nat.le_add_right_of_le h.le
  window := by
    show (c.received ++ bytes).length - c.committed < 2 ^ 16
    rw [List.length_append]
    exact window

theorem AtRest.arrive (h : c.AtRest taken)
    (window : c.received.length + bytes.length - c.committed < 2 ^ 16) :
    { c with received := c.received ++ bytes }.AtRest taken :=
  { h.toCommitted.arrive window with rxRd := h.rxRd, idle := h.idle }

theorem Ahead.arrive (h : c.Ahead chunk) (le : c.committed ≤ c.received.length) :
    { c with received := c.received ++ bytes }.Ahead chunk where
  next := by
    have hlength := congrArg List.length h.next
    rw [List.length_take, List.length_drop] at hlength
    show chunk = ((c.received ++ bytes).drop c.committed).take chunk.length
    rw [List.drop_append_of_le_length le, List.take_append_of_le_length]
    · exact h.next
    · rw [List.length_drop]
      omega
  bound := h.bound

theorem Moved.arrive (h : c.Moved taken chunk)
    (window : c.received.length + bytes.length - c.committed < 2 ^ 16) :
    { c with received := c.received ++ bytes }.Moved taken chunk :=
  { h.toCommitted.arrive window, h.toAhead.arrive h.le with rxRd := h.rxRd }

end Arrive

end Socket0

namespace TcpReceive

variable {s : TcpReceive}

/-- What the receive path knows about the chip at each of its places. -/
def Consistent (s : TcpReceive) : Prop :=
  match s.pc with
  | .idle | .readSize _ _ => s.chip.AtRest s.fed
  | .readPointer readLength =>
      s.chip.AtRest s.fed ∧ readLength ≤ 64 ∧
        readLength ≤ s.chip.received.length - s.chip.committed
  | .readHeader readLength rxReadPointer | .readData readLength rxReadPointer =>
      s.chip.AtRest s.fed ∧ readLength ≤ 64 ∧
        readLength ≤ s.chip.received.length - s.chip.committed ∧ rxReadPointer = s.chip.rxRd
  | .writePointer chunk rxReadPointer =>
      s.chip.AtRest s.fed ∧ s.chip.Ahead chunk ∧ rxReadPointer = s.chip.rxRd
  | .writeCommand chunk => s.chip.Moved s.fed chunk ∧ s.chip.cr = 0
  | .poll chunk =>
      s.chip.Moved s.fed chunk ∧ s.chip.cr = recvCommand ∨ s.chip.AtRest (s.fed ++ chunk)
  | .feed bytes => s.chip.AtRest (s.fed ++ bytes)

theorem consistent_initial (base : UInt16) (packet : ProtocolPacket) :
    (initial base packet).Consistent where
  bytes := rfl
  le := Nat.le_refl _
  window := Nat.two_pow_pos 16
  rxRd := (UInt16.add_zero base).symm
  idle := rfl

namespace Consistent

/-- What is fed is committed, in whichever place the receive path stands. -/
theorem exactlyOnce (h : s.Consistent) : s.ExactlyOnce := by
  unfold Consistent at h
  unfold ExactlyOnce
  cases hpc : s.pc with
  | idle =>
    simp only [hpc] at h
    exact h.isPrefix
  | readSize =>
    simp only [hpc] at h
    exact h.isPrefix
  | readPointer =>
    simp only [hpc] at h
    exact h.1.isPrefix
  | readHeader =>
    simp only [hpc] at h
    exact h.1.isPrefix
  | readData =>
    simp only [hpc] at h
    exact h.1.isPrefix
  | writePointer =>
    simp only [hpc] at h
    exact h.1.isPrefix
  | writeCommand =>
    simp only [hpc] at h
    exact h.1.isPrefix
  | poll =>
    simp only [hpc] at h
    rcases h with ⟨h, -⟩ | h
    · exact h.isPrefix
    · exact (List.prefix_append _ _).trans h.isPrefix
  | feed =>
    simp only [hpc] at h
    exact (List.prefix_append _ _).trans h.isPrefix

theorem arrive (h : s.Consistent) {bytes : List UInt8}
    (window : s.chip.received.length + bytes.length - s.chip.committed < 2 ^ 16) :
    { s with chip := { s.chip with received := s.chip.received ++ bytes } }.Consistent := by
  have hlength : (s.chip.received ++ bytes).length = s.chip.received.length + bytes.length :=
    List.length_append
  unfold Consistent at h ⊢
  cases hpc : s.pc with
  | idle =>
    simp only [hpc] at h ⊢
    exact h.arrive window
  | readSize =>
    simp only [hpc] at h ⊢
    exact h.arrive window
  | readPointer readLength =>
    simp only [hpc] at h ⊢
    obtain ⟨hrest, hbound, havailable⟩ := h
    exact ⟨hrest.arrive window, hbound, by omega⟩
  | readHeader readLength rxReadPointer =>
    simp only [hpc] at h ⊢
    obtain ⟨hrest, hbound, havailable, hpointer⟩ := h
    exact ⟨hrest.arrive window, hbound, by omega, hpointer⟩
  | readData readLength rxReadPointer =>
    simp only [hpc] at h ⊢
    obtain ⟨hrest, hbound, havailable, hpointer⟩ := h
    exact ⟨hrest.arrive window, hbound, by omega, hpointer⟩
  | writePointer chunk rxReadPointer =>
    simp only [hpc] at h ⊢
    obtain ⟨hrest, hahead, hpointer⟩ := h
    exact ⟨hrest.arrive window, hahead.arrive hrest.le, hpointer⟩
  | writeCommand chunk =>
    simp only [hpc] at h ⊢
    exact ⟨h.1.arrive window, h.2⟩
  | poll chunk =>
    simp only [hpc] at h ⊢
    exact h.imp (fun h => ⟨h.1.arrive window, h.2⟩) fun h => h.arrive window
  | feed bytes =>
    simp only [hpc] at h ⊢
    exact h.arrive window

/-- RECV is executed only while the receive path waits for it. -/
theorem execute (h : s.Consistent) (hcr : s.chip.cr = recvCommand) :
    { s with chip := s.chip.execute }.Consistent := by
  have hnot : ∀ {taken : List UInt8} {p : Prop}, s.chip.AtRest taken → p := by
    intro taken p hrest
    have hidle := hrest.idle
    rw [hcr] at hidle
    cases hidle
  unfold Consistent at h ⊢
  cases hpc : s.pc with
  | idle =>
    simp only [hpc] at h
    exact hnot h
  | readSize =>
    simp only [hpc] at h
    exact hnot h
  | readPointer =>
    simp only [hpc] at h
    exact hnot h.1
  | readHeader =>
    simp only [hpc] at h
    exact hnot h.1
  | readData =>
    simp only [hpc] at h
    exact hnot h.1
  | writePointer =>
    simp only [hpc] at h
    exact hnot h.1
  | writeCommand =>
    simp only [hpc] at h
    have hidle := h.2
    rw [hcr] at hidle
    cases hidle
  | poll chunk =>
    simp only [hpc] at h ⊢
    rcases h with ⟨hmoved, -⟩ | hrest
    · exact .inr hmoved.execute
    · exact hnot hrest
  | feed =>
    simp only [hpc] at h
    exact hnot h

theorem returns (h : s.chip.AtRest s.fed) (status : HalStatus) : (s.returns status).Consistent := h

/-- A size that is read is not more than what has been received. -/
theorem readSize (h : s.chip.AtRest s.fed) (attempt : Nat) (previousValue : UInt16) :
    (s.readSize attempt previousValue).Consistent := by
  have hsize := h.rxRsr_toNat
  unfold TcpReceive.readSize
  dsimp only
  split
  · split
    · exact h
    · split
      case isTrue hlong => exact ⟨h, Nat.le_refl _, by simp only [goto, tcpRxChunkSize] at *; omega⟩
      case isFalse hshort => exact ⟨h, by simpa using hshort, by simp only [goto]; omega⟩
  · split
    · exact h
    · exact h

theorem spiStep {s' : TcpReceive} {status : HalStatus} {taken : Nat} {old : UInt8} {late : Bool}
    (h : s.Consistent) (whole : s.UpdatesWhole (.spi status taken old late))
    (step : s.spiStep status taken old late = some s') : s'.Consistent := by
  have hs := h
  unfold Consistent at h
  unfold UpdatesWhole at whole
  unfold TcpReceive.spiStep at step
  cases hpc : s.pc with
  | idle =>
    simp only [hpc] at step
    cases step
  | readSize attempt previousValue =>
    simp only [hpc] at h step
    cases step
    split
    · exact readSize h attempt previousValue
    · exact returns h status
  | readPointer readLength =>
    simp only [hpc] at h step
    cases step
    split
    · exact ⟨h.1, h.2.1, h.2.2, rfl⟩
    · exact returns h.1 status
  | readHeader readLength rxReadPointer =>
    simp only [hpc] at h step
    cases step
    split
    · exact h
    · exact returns h.1 status
  | readData readLength rxReadPointer =>
    simp only [hpc] at h step
    obtain ⟨hrest, hbound, havailable, hpointer⟩ := h
    cases step
    split
    · rw [hpointer, hrest.readRxBuffer havailable old]
      exact ⟨hrest, Socket0.ahead_take hbound havailable, rfl⟩
    · exact returns hrest status
  | writePointer chunk rxReadPointer =>
    simp only [hpc] at h whole step
    obtain ⟨hrest, hahead, hpointer⟩ := h
    cases step
    split
    case isTrue =>
      rw [hpointer]
      exact ⟨hrest.writeRxRd hahead, hrest.idle⟩
    case isFalse hfailed =>
      have hsame := whole.resolve_left hfailed
      have hrest' : (s.chip.writeRxRd (newRxReadPointer chunk rxReadPointer) taken).AtRest s.fed :=
        { hrest with rxRd := hsame.trans hrest.rxRd }
      exact hrest'
  | writeCommand chunk =>
    simp only [hpc] at h whole step
    cases step
    rw [if_pos whole]
    exact .inl ⟨{ h.1 with }, rfl⟩
  | poll chunk =>
    simp only [hpc] at h whole step
    obtain ⟨hok, hdone⟩ := whole
    cases step
    rw [if_pos hok]
    split
    case isTrue hcr =>
      rcases h with ⟨-, hbusy⟩ | hrest
      · rw [hcr] at hbusy
        cases hbusy
      · exact hrest
    case isFalse hcr =>
      rw [if_neg (by rw [hdone.resolve_left hcr]; nofun)]
      exact hs
  | feed =>
    simp only [hpc] at step
    cases step

theorem feed {s' : TcpReceive} (h : s.Consistent) (step : s.step .feed = some s') :
    s'.Consistent := by
  unfold Consistent at h
  unfold TcpReceive.step at step
  simp only at step
  split at step
  case h_1 hpc =>
    simp only [hpc, List.append_nil] at h
    cases step
    exact returns h _
  case h_2 byte rest hpc =>
    simp only [hpc] at h
    cases step
    show s.chip.AtRest ((s.fed ++ [byte]) ++ rest)
    rw [List.append_assoc]
    exact h
  case h_3 => cases step

theorem step {s' : TcpReceive} {a : TcpReceiveAction} (h : s.Consistent) (whole : s.UpdatesWhole a)
    (step : s.step a = some s') : s'.Consistent := by
  cases a with
  | arrive bytes =>
    simp only [TcpReceive.step] at step
    split at step
    case isTrue window =>
      cases step
      exact h.arrive window
    case isFalse => cases step
  | execute =>
    simp only [TcpReceive.step] at step
    split at step
    case isTrue hcr =>
      cases step
      exact h.execute hcr
    case isFalse => cases step
  | call =>
    simp only [TcpReceive.step] at step
    split at step
    case isTrue hpc =>
      unfold Consistent at h
      simp only [hpc] at h
      cases step
      exact h
    case isFalse => cases step
  | spi status taken old late => exact h.spiStep whole step
  | feed => exact h.feed step

end Consistent

/-- A step feeds the parser the bytes it adds to `fed`. -/
theorem receiver_step {r : StreamParser.Receiver} {s' : TcpReceive} {a : TcpReceiveAction}
    (h : s.receiver = r.feedAll s.fed) (step : s.step a = some s') :
    s'.receiver = r.feedAll s'.fed := by
  cases a with
  | arrive bytes =>
    simp only [TcpReceive.step] at step
    split at step <;> cases step
    exact h
  | execute =>
    simp only [TcpReceive.step] at step
    split at step <;> cases step
    exact h
  | call =>
    simp only [TcpReceive.step] at step
    split at step <;> cases step
    exact h
  | spi status taken old late =>
    have hframe : s'.receiver = s.receiver ∧ s'.fed = s.fed := by
      simp only [TcpReceive.step, TcpReceive.spiStep, TcpReceive.readSize] at step
      split at step <;> cases step <;> repeat' split
      all_goals exact ⟨rfl, rfl⟩
    rw [hframe.1, hframe.2]
    exact h
  | feed =>
    simp only [TcpReceive.step] at step
    split at step
    · cases step
      exact h
    · cases step
      show s.receiver.feed _ = r.feedAll (s.fed ++ [_])
      rw [h, StreamParser.Receiver.feedAll, StreamParser.Receiver.feedAll, List.foldl_append]
      rfl
    · cases step

end TcpReceive

/-- In every run in which `Sn_RX_RD` is only moved together with a RECV that succeeds, the bytes fed
    to `g_tcp_parser` are a prefix of the received stream, whatever the other SPI transactions
    return. -/
theorem tcpReceive_exactlyOnce {base : UInt16} {packet : ProtocolPacket} {s : TcpReceive}
    (run : Reachable TcpReceive.step TcpReceive.UpdatesWhole (.initial base packet) s) :
    s.receiver = StreamParser.Receiver.feedAll ⟨.init, packet⟩ s.fed ∧ s.ExactlyOnce := by
  have hinv : s.receiver = StreamParser.Receiver.feedAll ⟨.init, packet⟩ s.fed ∧ s.Consistent :=
    Reachable.invariant
      (P := fun s => s.receiver = StreamParser.Receiver.feedAll ⟨.init, packet⟩ s.fed ∧
        s.Consistent)
      ⟨rfl, TcpReceive.consistent_initial base packet⟩
      (fun _ _ _ h whole step => ⟨TcpReceive.receiver_step h.1 step, h.2.step whole step⟩) run
  exact ⟨hinv.1, hinv.2.exactlyOnce⟩

/-- An SPI transaction that succeeds. -/
def spiOk : TcpReceiveAction := .spi .ok 0 0 false

/-- Four bytes arrive, the read of the RX buffer fails, and the next call feeds them. -/
def retriedRun : List TcpReceiveAction :=
  [.arrive [1, 2, 3, 4], .call, spiOk, spiOk, spiOk, spiOk, .spi .error 0 0 false,
    .call, spiOk, spiOk, spiOk, spiOk, spiOk, spiOk, spiOk, .execute, spiOk,
    .feed, .feed, .feed, .feed, .feed]

theorem tcpReceive_exactlyOnce_retried :
    ∃ s, Reachable TcpReceive.step TcpReceive.UpdatesWhole (.initial 0 .zero) s ∧
      s.fed = [1, 2, 3, 4] ∧ s.ExactlyOnce := by
  obtain ⟨s, run, htest⟩ := exists_reachable TcpReceive.step TcpReceive.UpdatesWhole
    (.initial 0 .zero) retriedRun (fun s => decide (s.fed = [1, 2, 3, 4])) (by decide +kernel)
  exact ⟨s, run, of_decide_eq_true htest, (tcpReceive_exactlyOnce run).2⟩

/-- Four bytes arrive, and RECV fails after `Sn_RX_RD` has been moved past them; four more arrive,
    and the next call succeeds. -/
def lostRun : List TcpReceiveAction :=
  [.arrive [1, 2, 3, 4], .call, spiOk, spiOk, spiOk, spiOk, spiOk, spiOk, .spi .error 0 0 false,
    .arrive [5, 6, 7, 8], .call, spiOk, spiOk, spiOk, spiOk, spiOk, spiOk, spiOk, .execute, spiOk,
    .feed, .feed, .feed, .feed]

theorem tcpReceive_bytesLost :
    ¬ ∀ s, Reachable TcpReceive.step unguarded (.initial 0 .zero) s → s.ExactlyOnce := by
  intro hall
  obtain ⟨s, run, htest⟩ := exists_reachable TcpReceive.step unguarded (.initial 0 .zero) lostRun
    (fun s => !decide (s.fed <+: s.chip.received)) (by decide +kernel)
  have honce : s.fed <+: s.chip.received := hall s run
  rw [decide_eq_true honce] at htest
  cases htest

end Rs422Gateway
