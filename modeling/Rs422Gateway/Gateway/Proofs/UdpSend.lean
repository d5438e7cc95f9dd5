import Rs422Gateway.Gateway.UdpSend
import Rs422Gateway.Misc.Transition

/-!
# One frame in a datagram

`w5500_udp_send_frame` moves Sn_TX_WR before it clears Sn_IR and gives the SEND command. If it fails
between the two, the frame stays between the pointers and goes out in one datagram with the next
one. As long as every moved Sn_TX_WR is followed by its SEND command, a datagram is one frame.
`SpiMove`, what a transaction can do, serves both sockets.
-/

namespace Rs422Gateway

open Transition

namespace UdpSend

/-! ## What a transaction that succeeds can do -/

/-- Where the function goes on, place by place, and what it has done to the chip. -/
inductive SpiMove (s : UdpSend) (value : UInt16) : UdpSend → Prop where
  /-- No call is on its way, or a wait polls once more. -/
  | stays (hpc : s.pc = .idle ∨ s.pc = .readCr ∨ s.pc = .readIr) : SpiMove s value s
  | reads {attempt attempt' : Nat} {previous previous' : UInt16}
      (hpc : s.pc = .readFsr attempt previous) :
      SpiMove s value (s.goto (.readFsr attempt' previous'))
  | free {attempt : Nat} {previous : UInt16} (hpc : s.pc = .readFsr attempt previous)
      (room : s.frame.length ≤ value.toNat) : SpiMove s value (s.goto .readTxWr)
  | noRoom {attempt : Nat} {previous : UInt16} (hpc : s.pc = .readFsr attempt previous) :
      SpiMove s value (s.returns .timeout)
  | pointer (hpc : s.pc = .readTxWr) :
      SpiMove s value { s with pc := .bufferHeader, txWritePointer := s.chip.txWr }
  | header (hpc : s.pc = .bufferHeader) : SpiMove s value (s.goto (.bufferChunk 0))
  /-- A chunk of full size. -/
  | chunk {offset : Nat} (hpc : s.pc = .bufferChunk offset)
      (more : offset + w5500UdpSpiChunkSize < s.frame.length)
      (size : (s.chunk offset).length = w5500UdpSpiChunkSize) :
      SpiMove s value
        ((s.storeChunk offset w5500UdpSpiChunkSize).goto
          (.bufferChunk (offset + w5500UdpSpiChunkSize)))
  /-- The last chunk. -/
  | lastChunk {offset : Nat} (hpc : s.pc = .bufferChunk offset)
      (last : offset < s.frame.length → offset + (s.chunk offset).length = s.frame.length) :
      SpiMove s value ((s.storeChunk offset w5500UdpSpiChunkSize).goto .writeTxWr)
  | moves (hpc : s.pc = .writeTxWr) :
      SpiMove s value
        { s with pc := .clearIr, chip := s.chip.writeTxWr s.newTxWritePointer 2 }
  | clears (hpc : s.pc = .clearIr) : SpiMove s value (s.goto .sendCommand)
  | sends (hpc : s.pc = .sendCommand) : SpiMove s value (s.send.goto .readCr)
  | taken (hpc : s.pc = .readCr) : SpiMove s value (s.goto .readIr)
  | answer {sendResult : UInt8} (hpc : s.pc = .readIr) :
      SpiMove s value (s.goto (.ackIr sendResult))
  | noAnswer (hpc : s.pc = .readCr ∨ s.pc = .readIr) : SpiMove s value (s.returns .timeout)
  | acks {sendResult : UInt8} {status : HalStatus} (hpc : s.pc = .ackIr sendResult) :
      SpiMove s value (s.returns status)

theorem chunk_length (s : UdpSend) (offset : Nat) :
    (s.chunk offset).length = min w5500UdpSpiChunkSize (s.frame.length - offset) := by
  rw [chunk, List.length_take, List.length_drop]

theorem chunk_whole (s : UdpSend) (offset : Nat) :
    (s.chunk offset).take w5500UdpSpiChunkSize = s.chunk offset :=
  List.take_of_length_le (List.length_take_le _ _)

/-- A chunk goes on where the ones before it end. -/
theorem take_chunk (s : UdpSend) (offset : Nat) :
    s.frame.take (offset + (s.chunk offset).length) = s.frame.take offset ++ s.chunk offset := by
  have hprefix : s.chunk offset = (s.frame.drop offset).take (s.chunk offset).length :=
    List.prefix_iff_eq_take.mp (List.take_prefix _ _)
  rw [List.take_add, ← hprefix]

theorem spiOk_move (s : UdpSend) (value : UInt16) (late : Bool) :
    s.SpiMove value (s.spiOk value late) := by
  unfold spiOk sendFrame w5500UdpWaitForTxFree w5500Socket1WriteTxBuffer w5500UdpWaitForSendResult
    waitForTxFree writeTxBuffer waitForSendResult
  cases hpc : s.pc with
  | idle => exact .stays (.inl hpc)
  | readFsr attempt previous =>
    dsimp only
    split
    · split
      case isTrue room => exact .free hpc room
      split
      · exact .noRoom hpc
      · exact .reads hpc
    split
    · exact .reads hpc
    · exact .noRoom hpc
  | readTxWr => exact .pointer hpc
  | bufferHeader => exact .header hpc
  | bufferChunk offset =>
    have hlength := s.chunk_length offset
    dsimp only
    split
    case isTrue more =>
      refine .chunk hpc more (hlength.trans ?_)
      exact Nat.min_eq_left (Nat.le_sub_of_add_le' (Nat.le_of_lt more))
    case isFalse =>
      refine .lastChunk hpc fun hlt => ?_
      rw [hlength, Nat.min_eq_right (Nat.sub_le_of_le_add (by omega))]
      omega
  | writeTxWr => exact .moves hpc
  | clearIr => exact .clears hpc
  | sendCommand => exact .sends hpc
  | readCr =>
    dsimp only
    split
    · exact .taken hpc
    split
    · exact .noAnswer (.inl hpc)
    · exact .stays (.inr (.inl hpc))
  | readIr =>
    dsimp only
    split
    · exact .answer hpc
    split
    · exact .noAnswer (.inr hpc)
    · exact .stays (.inr (.inr hpc))
  | ackIr sendResult => exact .acks hpc

/-! ## One frame in a datagram -/

/-- Every datagram is one of the frames the function was called with. -/
def OneFramePerDatagram (s : UdpSend) : Prop := ∀ d ∈ s.datagrams, d ∈ s.frames

/-- The step does not leave Sn_TX_WR moved without a SEND command: a failed write of Sn_TX_WR leaves
    it as it was, the clearing of Sn_IR does not fail, and the SEND command reaches the chip. -/
def Completes (s : UdpSend) : UdpAction → Prop
  | .call _ => True
  | .spi status _ arrived _ =>
      match s.pc with
      | .writeTxWr =>
          status = .ok ∨ (s.chip.writeTxWr s.newTxWritePointer arrived).txWr = s.chip.txWr
      | .clearIr => status = .ok
      | .sendCommand => status = .ok ∨ arrived ≠ 0
      | _ => True

instance (s : UdpSend) (a : UdpAction) : Decidable (s.Completes a) := by
  unfold Completes
  split
  · exact instDecidableTrue
  · split <;> infer_instance

/-- Sn_TX_WR is not moved yet, or the SEND command is given. -/
structure Settled (s : UdpSend) : Prop where
  pointers : s.chip.txRd = s.chip.txWr
  datagrams : s.datagrams.Sublist s.frames

/-- A call is on its way to the SEND command. `stored` bytes of its frame are in the TX buffer. -/
structure Sending (s : UdpSend) (stored : Nat) : Prop where
  frame : 0 < s.frame.length ∧ s.frame.length ≤ 266
  called : ∃ earlier, s.frames = earlier ++ [s.frame] ∧ s.datagrams.Sublist earlier
  contents : Ring.contents s.chip.txBuffer s.chip.txRd.toNat stored = s.frame.take stored

/-- What holds at each place. -/
def Inv (s : UdpSend) : Prop :=
  match s.pc with
  | .readFsr _ _ | .readTxWr => s.Settled ∧ s.Sending 0
  | .bufferHeader => s.Settled ∧ s.Sending 0 ∧ s.txWritePointer = s.chip.txWr
  | .bufferChunk offset =>
      s.Settled ∧ s.Sending offset ∧ offset < s.frame.length ∧ s.txWritePointer = s.chip.txWr
  | .writeTxWr => s.Settled ∧ s.Sending s.frame.length ∧ s.txWritePointer = s.chip.txWr
  | .clearIr | .sendCommand =>
      s.Sending s.frame.length ∧ s.chip.txWr = s.chip.txRd + UInt16.ofNat s.frame.length
  | .idle | .readCr | .readIr | .ackIr _ => s.Settled

variable {s s' : UdpSend}

theorem Settled.goto (h : s.Settled) (pc : UdpPc) : (s.goto pc).Settled := { h with }

theorem Settled.returns (h : s.Settled) (status : HalStatus) : (s.returns status).Inv :=
  { h with }

theorem Sending.goto {stored : Nat} (h : s.Sending stored) (pc : UdpPc) :
    (s.goto pc).Sending stored :=
  { h with }

/-- A chunk goes into the buffer behind the ones before it. -/
theorem Sending.storeChunk {offset : Nat} (h : s.Sending offset) (hlt : offset < s.frame.length)
    (hpointer : s.txWritePointer = s.chip.txRd) :
    (s.storeChunk offset w5500UdpSpiChunkSize).Sending (offset + (s.chunk offset).length) := by
  have hlength : (s.chunk offset).length ≤ s.frame.length - offset := by
    rw [chunk_length]
    exact Nat.min_le_right _ _
  have hframe := h.frame
  have hfits : offset + (s.chunk offset).length ≤ 2048 := by omega
  have hstored := Ring.contents_storeAll s.chip.txBuffer s.chip.txRd.toNat (s.chunk offset) hfits
  refine ⟨h.frame, h.called, ?_⟩
  show Ring.contents (Ring.storeAll s.chip.txBuffer (s.txWritePointer.toNat + offset)
    ((s.chunk offset).take w5500UdpSpiChunkSize)) s.chip.txRd.toNat _ = s.frame.take _
  rw [hpointer, chunk_whole, hstored, h.contents, take_chunk]

/-- The SEND command emits the frame. -/
theorem Sending.send (h : s.Sending s.frame.length)
    (hpointer : s.chip.txWr = s.chip.txRd + UInt16.ofNat s.frame.length) : s.send.Settled := by
  obtain ⟨earlier, hframes, hsub⟩ := h.called
  have hlength : (s.chip.txWr - s.chip.txRd).toNat = s.frame.length := by
    have hframe := h.frame.2
    rw [hpointer, UInt16.add_comm, UInt16.add_sub_cancel, UInt16.toNat_ofNat']
    omega
  have hpending : s.chip.pending = s.frame := by
    rw [UdpChip.pending, hlength, h.contents, List.take_length]
  refine ⟨rfl, ?_⟩
  show (s.datagrams ++ [s.chip.pending]).Sublist s.frames
  rw [hpending, hframes]
  exact hsub.append (List.Sublist.refl _)

theorem inv_initial : initial.Inv := ⟨rfl, List.Sublist.refl _⟩

/-- Except between the write of Sn_TX_WR and the SEND command, the pointers are equal. -/
theorem Inv.settled (h : s.Inv) (h1 : s.pc ≠ .clearIr) (h2 : s.pc ≠ .sendCommand) : s.Settled := by
  unfold Inv at h
  cases hpc : s.pc with
  | clearIr => exact absurd hpc h1
  | sendCommand => exact absurd hpc h2
  | readFsr | readTxWr | bufferHeader | bufferChunk | writeTxWr =>
    simp only [hpc] at h
    exact h.1
  | idle | readCr | readIr | ackIr =>
    simp only [hpc] at h
    exact h

theorem inv_call (h : s.Inv) (hpc : s.pc = .idle) (frame : List UInt8) : (s.call frame).Inv := by
  have hsettled := h.settled (by rw [hpc]; nofun) (by rw [hpc]; nofun)
  unfold call
  split
  · exact hsettled.returns _
  case isFalse hvalid =>
    have hlength : 0 < frame.length ∧ frame.length ≤ 266 := by
      have hmax : protocolMaxFrameSize = 266 := rfl
      omega
    refine ⟨⟨hsettled.pointers, ?_⟩, ⟨hlength, ⟨s.frames, rfl, hsettled.datagrams⟩, rfl⟩⟩
    exact hsettled.datagrams.trans (List.sublist_append_left _ _)

/-- A transaction that succeeds. -/
theorem inv_spiOk (h : s.Inv) (value : UInt16) (late : Bool) : (s.spiOk value late).Inv := by
  have hmove := s.spiOk_move value late
  generalize s.spiOk value late = s' at hmove ⊢
  have hinv := h
  unfold Inv at h
  cases hmove with
  | stays => exact hinv
  | reads hpc | free hpc =>
    rw [hpc] at h
    obtain ⟨hsettled, hsending⟩ := h
    exact ⟨hsettled.goto _, hsending.goto _⟩
  | noRoom hpc =>
    rw [hpc] at h
    exact h.1.returns _
  | pointer hpc =>
    rw [hpc] at h
    obtain ⟨hsettled, hsending⟩ := h
    exact ⟨⟨hsettled.pointers, hsettled.datagrams⟩, ⟨hsending.frame, hsending.called, rfl⟩, rfl⟩
  | header hpc =>
    rw [hpc] at h
    obtain ⟨hsettled, hsending, hpointer⟩ := h
    exact ⟨hsettled.goto _, hsending.goto _, hsending.frame.1, hpointer⟩
  | chunk hpc more size =>
    rw [hpc] at h
    obtain ⟨hsettled, hsending, hlt, hpointer⟩ := h
    have hstored := hsending.storeChunk hlt (hpointer.trans hsettled.pointers.symm)
    rw [size] at hstored
    exact ⟨⟨hsettled.pointers, hsettled.datagrams⟩, hstored.goto _, more, hpointer⟩
  | lastChunk hpc last =>
    rw [hpc] at h
    obtain ⟨hsettled, hsending, hlt, hpointer⟩ := h
    have hstored := hsending.storeChunk hlt (hpointer.trans hsettled.pointers.symm)
    rw [last hlt] at hstored
    exact ⟨⟨hsettled.pointers, hsettled.datagrams⟩, hstored.goto _, hpointer⟩
  | moves hpc =>
    rw [hpc] at h
    obtain ⟨hsettled, hsending, hpointer⟩ := h
    refine ⟨⟨hsending.frame, hsending.called, hsending.contents⟩, ?_⟩
    show s.txWritePointer + _ = s.chip.txRd + _
    rw [hpointer, hsettled.pointers]
  | clears hpc =>
    rw [hpc] at h
    exact ⟨h.1.goto _, h.2⟩
  | sends hpc =>
    rw [hpc] at h
    exact (h.1.send h.2).goto _
  | taken hpc | answer hpc =>
    rw [hpc] at h
    exact h.goto _
  | noAnswer hpc =>
    rcases hpc with hpc | hpc <;> (rw [hpc] at h; exact h.returns _)
  | acks hpc =>
    rw [hpc] at h
    exact h.returns _

/-- A transaction that fails. -/
theorem inv_spiFailed (h : s.Inv) {status : HalStatus} {value : UInt16} {arrived : Nat}
    {late : Bool} (hstatus : status ≠ .ok)
    (completes : s.Completes (.spi status value arrived late)) :
    ((s.spiFailed arrived).returns status).Inv := by
  unfold Completes at completes
  unfold spiFailed
  cases hpc : s.pc with
  | clearIr =>
    simp only [hpc] at completes
    exact absurd completes hstatus
  | sendCommand =>
    simp only [hpc] at completes ⊢
    unfold Inv at h
    simp only [hpc] at h
    rw [if_neg (completes.resolve_left hstatus)]
    exact (h.1.send h.2).returns _
  | writeTxWr =>
    simp only [hpc] at completes ⊢
    have hsettled := h.settled (by rw [hpc]; nofun) (by rw [hpc]; nofun)
    have hwr := completes.resolve_left hstatus
    have hrd : (s.chip.writeTxWr s.newTxWritePointer arrived).txRd = s.chip.txRd := by
      unfold UdpChip.writeTxWr
      split <;> rfl
    exact ⟨hrd.trans (hsettled.pointers.trans hwr.symm), hsettled.datagrams⟩
  | bufferChunk offset =>
    have hsettled := h.settled (by rw [hpc]; nofun) (by rw [hpc]; nofun)
    exact ⟨hsettled.pointers, hsettled.datagrams⟩
  | idle | readFsr | readTxWr | bufferHeader | readCr | readIr | ackIr =>
    exact (h.settled (by rw [hpc]; nofun) (by rw [hpc]; nofun)).returns _

theorem inv_step {a : UdpAction} (h : s.Inv) (completes : s.Completes a)
    (taken : s.step a = some s') : s'.Inv := by
  cases a with
  | call frame =>
    simp only [step, stepOf] at taken
    split at taken
    case isTrue hpc =>
      cases taken
      exact inv_call h hpc frame
    case isFalse => cases taken
  | spi status value arrived late =>
    simp only [step, stepOf] at taken
    split at taken
    · cases taken
    split at taken
    · cases taken
      exact inv_spiOk h value late
    case isFalse hstatus =>
      cases taken
      exact inv_spiFailed h hstatus completes

/-- In any state the datagrams so far are frames. -/
theorem Inv.datagrams (h : s.Inv) : s.datagrams.Sublist s.frames := by
  by_cases hpc : s.pc = .clearIr ∨ s.pc = .sendCommand
  · have hsending : s.Sending s.frame.length := by
      unfold Inv at h
      rcases hpc with hpc | hpc
      · simp only [hpc] at h
        exact h.1
      · simp only [hpc] at h
        exact h.1
    obtain ⟨earlier, hframes, hsub⟩ := hsending.called
    rw [hframes]
    exact hsub.trans (List.sublist_append_left _ _)
  · exact (h.settled (fun hc => hpc (.inl hc)) (fun hc => hpc (.inr hc))).datagrams

end UdpSend

/-- In every run whose transactions do not leave Sn_TX_WR moved without a SEND command, every
    datagram is one of the frames that were to be sent; the datagrams come in their order, and none
    comes twice. -/
theorem udpSendFrame_oneFramePerDatagram {s : UdpSend}
    (run : Reachable UdpSend.step UdpSend.Completes .initial s) :
    s.OneFramePerDatagram ∧ s.datagrams.Sublist s.frames := by
  have h : s.Inv := run.invariant UdpSend.inv_initial fun _ _ _ h completes taken =>
    UdpSend.inv_step h completes taken
  exact ⟨fun d hd => h.datagrams.subset hd, h.datagrams⟩

/-- The transactions of a call with a short frame, up to the write of Sn_TX_WR. -/
def udpFillRun : List UdpAction :=
  [.spi .ok 2048 0 false, .spi .ok 2048 0 false, .spi .ok 0 0 false, .spi .ok 0 0 false,
    .spi .ok 0 0 false, .spi .ok 0 0 false]

/-- The first call fails in the TX buffer, the second one sends its frame. -/
theorem udpSendFrame_oneFramePerDatagram_retry :
    ∃ s, Reachable UdpSend.step UdpSend.Completes .initial s ∧ s.frames = [[0x11], [0x22]] ∧
      s.datagrams = [[0x22]] ∧ s.OneFramePerDatagram := by
  obtain ⟨s, run, htest⟩ := exists_reachable UdpSend.step UdpSend.Completes .initial
    (List.flatten [[.call [0x11]], udpFillRun.take 4, [.spi .timeout 0 1 false, .call [0x22]],
      udpFillRun, [.spi .ok 0 0 false, .spi .ok 0 0 false]])
    (fun s => decide (s.frames = [[0x11], [0x22]] ∧ s.datagrams = [[0x22]])) (by decide +kernel)
  obtain ⟨hframes, hdatagrams⟩ := of_decide_eq_true htest
  exact ⟨s, run, hframes, hdatagrams, (udpSendFrame_oneFramePerDatagram run).1⟩

/-- The first call fails when it clears Sn_IR, and the second one sends both frames. -/
theorem udpSendFrame_gluedFrames :
    ¬ ∀ s, Reachable UdpSend.step unguarded .initial s → s.OneFramePerDatagram := by
  intro hall
  obtain ⟨s, run, htest⟩ := exists_reachable UdpSend.step unguarded .initial
    (List.flatten [[.call [0x11]], udpFillRun, [.spi .timeout 0 0 false, .call [0x22]], udpFillRun,
      [.spi .ok 0 0 false, .spi .ok 0 0 false]])
    (fun s => decide (s.frames = [[0x11], [0x22]] ∧ s.datagrams = [[0x11, 0x22]]))
    (by decide +kernel)
  obtain ⟨hframes, hdatagrams⟩ := of_decide_eq_true htest
  have hglued := hall s run [0x11, 0x22] (by rw [hdatagrams]; exact List.mem_singleton.mpr rfl)
  rw [hframes] at hglued
  revert hglued
  decide

end Rs422Gateway
