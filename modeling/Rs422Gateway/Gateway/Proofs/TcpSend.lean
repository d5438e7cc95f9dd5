import Rs422Gateway.Gateway.Proofs.UdpSend
import Rs422Gateway.Gateway.TcpSend

/-!
# Whole frames on TCP

Whatever transactions fail, the TX buffer holds the end of a sequence of whole frames: what TCP has
been handed and is not acknowledged, and behind it the frames that a failed call has left between
the pointers. They go out in front of the next frame, so the stream stays a sequence of whole
frames. A frame is written only where nothing is left to send again.
-/

namespace Rs422Gateway

open Transition
open scoped List

namespace TcpSend

variable {s s' : TcpSend} {emitted unsent : List (List UInt8)}

/-- The frames handed to TCP, those between the pointers, and the TX buffer. -/
structure Queued (s : TcpSend) (emitted unsent : List (List UInt8)) : Prop where
  stream : s.stream = emitted.flatten
  between : unsent.flatten.length = (s.driver.chip.txWr - s.driver.chip.txRd).toNat
  used : s.inFlight + unsent.flatten.length = s.used
  fits : s.used ≤ w5500TxBufferSize
  buffer : Ring.contents s.driver.chip.txBuffer s.acked.toNat s.used <:+
    (emitted ++ unsent).flatten

/-- A call has its frame, and the frames before it are queued or lost. -/
structure Called (s : TcpSend) (queued : List (List UInt8)) : Prop where
  frame : 0 < s.driver.frame.length ∧ s.driver.frame.length ≤ 266
  earlier : ∃ earlier, s.driver.frames = earlier ++ [s.driver.frame] ∧ queued <+ earlier

/-- There is room for the frame, and `stored` bytes of it are in the TX buffer. -/
structure Filling (s : TcpSend) (stored : Nat) : Prop where
  room : s.used + s.driver.frame.length ≤ w5500TxBufferSize
  contents : Ring.contents s.driver.chip.txBuffer s.acked.toNat (s.used + stored) =
    Ring.contents s.driver.chip.txBuffer s.acked.toNat s.used ++ s.driver.frame.take stored

/-- The frame of the last call is the last one handed to TCP. -/
def Emitted (s : TcpSend) (emitted : List (List UInt8)) : Prop :=
  ∃ frame, s.driver.frames.getLast? = some frame ∧ emitted.getLast? = some frame

/-- What holds at each place. -/
def InvAt (s : TcpSend) (emitted unsent : List (List UInt8)) : UdpPc → Prop
  | .readFsr _ _ => s.Called (emitted ++ unsent)
  | .readTxWr => s.Called (emitted ++ unsent) ∧ s.Filling 0
  | .bufferHeader =>
      s.Called (emitted ++ unsent) ∧ s.Filling 0 ∧ s.driver.txWritePointer = s.driver.chip.txWr
  | .bufferChunk offset =>
      s.Called (emitted ++ unsent) ∧ s.Filling offset ∧ offset < s.driver.frame.length ∧
        s.driver.txWritePointer = s.driver.chip.txWr
  | .writeTxWr =>
      s.Called (emitted ++ unsent) ∧ s.Filling s.driver.frame.length ∧
        s.driver.txWritePointer = s.driver.chip.txWr
  | .clearIr | .sendCommand => emitted ++ unsent <+ s.driver.frames ∧ s.Emitted unsent
  | .readCr | .readIr | .ackIr _ => emitted ++ unsent <+ s.driver.frames ∧ s.Emitted emitted
  | .idle =>
      emitted ++ unsent <+ s.driver.frames ∧
        (s.driver.status = .ok → s.driver.frames = [] ∨ s.Emitted emitted)

/-- The invariant. -/
def Inv (s : TcpSend) : Prop :=
  ∃ emitted unsent, s.Queued emitted unsent ∧ s.InvAt emitted unsent s.driver.pc

/-! ## Positions in the TX buffer -/

/-- Sn_TX_WR is behind what is used. -/
theorem position_used (acked txWr : UInt16) (k : Nat) :
    (acked.toNat + ((txWr - acked).toNat + k)) % 2048 = (txWr.toNat + k) % 2048 := by
  have := acked.toNat_lt
  have := txWr.toNat_lt
  rw [UInt16.toNat_sub]
  omega

/-- A pointer that is moved on by less than what is free. -/
theorem sub_add_toNat (txWr pointer : UInt16) {n : Nat} (h : (txWr - pointer).toNat + n < 65536) :
    (txWr + UInt16.ofNat n - pointer).toNat = (txWr - pointer).toNat + n := by
  have := pointer.toNat_lt
  have := txWr.toNat_lt
  simp only [UInt16.toNat_sub, UInt16.toNat_add, UInt16.toNat_ofNat'] at h ⊢
  omega

/-- A pointer that follows. -/
theorem sub_toNat_add (txWr pointer : UInt16) {n : Nat} (h : n ≤ (txWr - pointer).toNat) :
    (txWr - (pointer + UInt16.ofNat n)).toNat + n = (txWr - pointer).toNat := by
  have := pointer.toNat_lt
  have := txWr.toNat_lt
  simp only [UInt16.toNat_sub, UInt16.toNat_add, UInt16.toNat_ofNat'] at h ⊢
  omega

/-! ## Chunks -/

/-- Some bytes of the chunk reach the TX buffer. -/
def storing (s : TcpSend) (offset count : Nat) : TcpSend :=
  { s with driver := s.driver.storeChunk offset count }

/-- They stand behind what is used and what has been stored before. -/
theorem storing_txBuffer {offset count : Nat}
    (hpointer : s.driver.txWritePointer = s.driver.chip.txWr) :
    (s.storing offset count).driver.chip.txBuffer =
      Ring.storeAll s.driver.chip.txBuffer (s.acked.toNat + (s.used + offset))
        ((s.driver.chunk offset).take count) := by
  have hposition := position_used s.acked s.driver.chip.txWr offset
  rw [← hpointer] at hposition
  rw [used, ← hpointer]
  exact Ring.storeAll_congr _ hposition.symm _

theorem chunk_take_length (s : UdpSend) (offset count : Nat) :
    ((s.chunk offset).take count).length ≤ s.frame.length - offset := by
  rw [List.length_take, UdpSend.chunk_length]
  omega

/-- What is used stays as it is. -/
theorem Queued.storing {offset : Nat} (h : s.Queued emitted unsent) (hfilling : s.Filling offset)
    (hlt : offset < s.driver.frame.length)
    (hpointer : s.driver.txWritePointer = s.driver.chip.txWr) (count : Nat) :
    (s.storing offset count).Queued emitted unsent := by
  have hroom := hfilling.room
  have hlength := chunk_take_length s.driver offset count
  have hfits : s.used + offset + ((s.driver.chunk offset).take count).length ≤
      w5500TxBufferSize := by omega
  have hused := Ring.contents_storeAll_before s.driver.chip.txBuffer s.acked.toNat
    ((s.driver.chunk offset).take count) hfits
  refine { h with buffer := ?_ }
  rw [storing_txBuffer hpointer]
  show Ring.contents _ s.acked.toNat s.used <:+ _
  rw [hused]
  exact h.buffer

/-- A whole chunk is stored behind the ones before it. -/
theorem Filling.storing {offset : Nat} (h : s.Filling offset)
    (hlt : offset < s.driver.frame.length)
    (hpointer : s.driver.txWritePointer = s.driver.chip.txWr) :
    (s.storing offset w5500UdpSpiChunkSize).Filling (offset + (s.driver.chunk offset).length) := by
  have hlength := chunk_take_length s.driver offset w5500UdpSpiChunkSize
  have hroom := h.room
  rw [UdpSend.chunk_whole] at hlength
  have hfits : s.used + offset + (s.driver.chunk offset).length ≤ w5500TxBufferSize := by omega
  have hstored := Ring.contents_storeAll s.driver.chip.txBuffer s.acked.toNat
    (s.driver.chunk offset) hfits
  have hused := Ring.contents_storeAll_before s.driver.chip.txBuffer s.acked.toNat
    (s.driver.chunk offset) hfits
  refine ⟨hroom, ?_⟩
  rw [storing_txBuffer hpointer, UdpSend.chunk_whole]
  show Ring.contents _ s.acked.toNat (s.used + (offset + (s.driver.chunk offset).length)) =
    Ring.contents _ s.acked.toNat s.used ++ s.driver.frame.take _
  rw [← Nat.add_assoc s.used, hstored, h.contents, hused, UdpSend.take_chunk, List.append_assoc]

/-! ## The pointers -/

/-- Sn_TX_WR has been moved behind the frame. -/
def moving (s : TcpSend) : TcpSend :=
  { s with
    driver :=
      { s.driver with
        chip := s.driver.chip.writeTxWr s.driver.newTxWritePointer 2 } }

/-- The frame is between the pointers now. -/
theorem Queued.moving (h : s.Queued emitted unsent)
    (hfilling : s.Filling s.driver.frame.length)
    (hpointer : s.driver.txWritePointer = s.driver.chip.txWr) :
    s.moving.Queued emitted (unsent ++ [s.driver.frame]) := by
  have hroom := hfilling.room
  have hbetween := h.between
  have husedEq := h.used
  have hwr : s.moving.driver.chip.txWr =
      s.driver.chip.txWr + UInt16.ofNat s.driver.frame.length := by
    rw [← hpointer]
    rfl
  have hused : s.moving.used = s.used + s.driver.frame.length := by
    have hbound : (s.driver.chip.txWr - s.acked).toNat + s.driver.frame.length < 65536 :=
      Nat.lt_of_le_of_lt hroom (by decide)
    show (s.moving.driver.chip.txWr - s.acked).toNat = _
    rw [hwr]
    exact sub_add_toNat _ _ hbound
  have hlength : (unsent ++ [s.driver.frame]).flatten.length =
      unsent.flatten.length + s.driver.frame.length := by
    rw [List.flatten_append, List.length_append, List.flatten_singleton]
  refine ⟨h.stream, ?_, ?_, ?_, ?_⟩
  · rw [hlength, hwr, hbetween]
    refine (sub_add_toNat _ _ ?_).symm
    have : w5500TxBufferSize = 2048 := rfl
    omega
  · rw [hlength, hused, ← husedEq]
    exact (Nat.add_assoc _ _ _).symm
  · rw [hused]
    exact hroom
  · rw [hused, ← List.append_assoc, List.flatten_append, List.flatten_singleton]
    show Ring.contents s.driver.chip.txBuffer s.acked.toNat _ <:+ _
    rw [hfilling.contents, List.take_length]
    obtain ⟨before, hbefore⟩ := h.buffer
    exact ⟨before, by rw [← List.append_assoc, hbefore]⟩

/-- The chip has taken the SEND command. -/
def sending (s : TcpSend) : TcpSend := { s with driver := s.driver.send }

/-- What was between the pointers is handed to TCP. -/
theorem Queued.sending (h : s.Queued emitted unsent) : s.sending.Queued (emitted ++ unsent) [] := by
  have hused := h.used
  have hbetween := h.between
  have hpending : s.driver.chip.pending = unsent.flatten := by
    have hposition : (s.acked.toNat + s.inFlight) % 2048 = s.driver.chip.txRd.toNat % 2048 :=
      position_used s.acked s.driver.chip.txRd 0
    have hcontents := h.buffer
    rw [← hused, Ring.contents_add] at hcontents
    have hsuffix : Ring.contents s.driver.chip.txBuffer (s.acked.toNat + s.inFlight)
        unsent.flatten.length <:+ (emitted ++ unsent).flatten :=
      (List.suffix_append _ _).trans hcontents
    rw [List.flatten_append] at hsuffix
    have hsame := List.suffix_of_suffix_length_le hsuffix (List.suffix_append _ _)
      (Ring.contents_length _ _ _).le
    calc s.driver.chip.pending
        = Ring.contents s.driver.chip.txBuffer s.driver.chip.txRd.toNat
            unsent.flatten.length := by rw [UdpChip.pending, hbetween]
      _ = Ring.contents s.driver.chip.txBuffer (s.acked.toNat + s.inFlight)
            unsent.flatten.length := Ring.contents_congr _ hposition.symm _
      _ = unsent.flatten := hsame.eq_of_length (Ring.contents_length _ _ _)
  refine ⟨?_, ?_, ?_, h.fits, ?_⟩
  · show (s.driver.datagrams ++ [s.driver.chip.pending]).flatten = _
    rw [List.flatten_append, List.flatten_singleton, hpending, List.flatten_append]
    exact congrArg (· ++ _) h.stream
  · show ([] : List UInt8).length = (s.driver.chip.txWr - s.driver.chip.txWr).toNat
    rw [UInt16.sub_self]
    rfl
  · rfl
  · rw [List.append_nil]
    exact h.buffer

/-! ## Acknowledgements -/

/-- The client has acknowledged so many bytes more. -/
def acknowledging (s : TcpSend) (count : Nat) : TcpSend :=
  { s with acked := s.acked + UInt16.ofNat count }

section Acknowledging

variable {count : Nat}

theorem acknowledging_inFlight (h : count ≤ s.inFlight) :
    (s.acknowledging count).inFlight + count = s.inFlight := sub_toNat_add _ _ h

theorem Queued.acknowledging_used (h : s.Queued emitted unsent) (hcount : count ≤ s.inFlight) :
    (s.acknowledging count).used + count = s.used := by
  have hused := h.used
  exact sub_toNat_add _ _ (show count ≤ s.used by omega)

/-- What is left begins behind the acknowledged bytes. -/
theorem contents_acknowledging (s : TcpSend) (count left : Nat) :
    Ring.contents s.driver.chip.txBuffer (s.acknowledging count).acked.toNat left =
      (Ring.contents s.driver.chip.txBuffer s.acked.toNat (left + count)).drop count := by
  have hposition : (s.acked + UInt16.ofNat count).toNat % 2048 =
      (s.acked.toNat + count) % 2048 := by
    rw [UInt16.toNat_add, UInt16.toNat_ofNat']
    omega
  rw [Nat.add_comm left count, Ring.contents_add,
    List.drop_left' (Ring.contents_length _ _ _)]
  exact Ring.contents_congr _ hposition left

theorem Queued.acknowledging (h : s.Queued emitted unsent) (hcount : count ≤ s.inFlight) :
    (s.acknowledging count).Queued emitted unsent := by
  have hinFlight := acknowledging_inFlight hcount
  have hacked := h.acknowledging_used hcount
  have hused := h.used
  have hfits := h.fits
  refine { h with used := by omega, fits := by omega, buffer := ?_ }
  show Ring.contents s.driver.chip.txBuffer (s.acknowledging count).acked.toNat _ <:+ _
  rw [contents_acknowledging, hacked]
  exact (List.drop_suffix _ _).trans h.buffer

theorem Filling.acknowledging {stored : Nat} (h : s.Filling stored)
    (hqueued : s.Queued emitted unsent) (hcount : count ≤ s.inFlight) :
    (s.acknowledging count).Filling stored := by
  have hacked := hqueued.acknowledging_used hcount
  have hused := hqueued.used
  have hroom := h.room
  refine ⟨?_, ?_⟩
  · show (s.acknowledging count).used + s.driver.frame.length ≤ w5500TxBufferSize
    omega
  · show Ring.contents s.driver.chip.txBuffer (s.acknowledging count).acked.toNat _ =
      Ring.contents s.driver.chip.txBuffer (s.acknowledging count).acked.toNat _ ++
        s.driver.frame.take stored
    have htotal : (s.acknowledging count).used + stored + count = s.used + stored := by omega
    rw [contents_acknowledging, contents_acknowledging, htotal, hacked, h.contents]
    exact List.drop_append_of_le_length (by rw [Ring.contents_length]; omega)

end Acknowledging

/-! ## One step -/

theorem inv_initial : initial.Inv :=
  ⟨[], [], ⟨rfl, rfl, rfl, by decide, List.nil_suffix⟩, .slnil, fun _ => .inl rfl⟩

theorem inv_reopen (s : TcpSend) (pointer : UInt16) : (s.reopen pointer).Inv := by
  have hused : (s.reopen pointer).used = 0 := by
    show (pointer - pointer).toNat = 0
    rw [UInt16.sub_self]
    rfl
  refine ⟨[], [], ⟨rfl, hused.symm, ?_, ?_, ?_⟩, .slnil, fun _ => .inl rfl⟩
  · rw [hused]
    exact hused
  · rw [hused]
    decide
  · rw [hused]
    exact List.nil_suffix

/-- The call ends, and does not return `HAL_OK`. -/
theorem inv_returns (h : s.Queued emitted unsent) (hsub : emitted ++ unsent <+ s.driver.frames)
    {status : HalStatus} (hstatus : status ≠ .ok) :
    Inv { s with driver := s.driver.returns status } :=
  ⟨emitted, unsent, { h with }, hsub, fun hok => absurd hok hstatus⟩

theorem Called.sub {queued : List (List UInt8)} (h : s.Called queued) :
    queued <+ s.driver.frames := by
  obtain ⟨earlier, hframes, hsub⟩ := h.earlier
  rw [hframes]
  exact hsub.trans (List.sublist_append_left _ _)

theorem inv_call (h : s.Inv) (hpc : s.driver.pc = .idle) (frame : List UInt8) :
    Inv { s with driver := s.driver.call frame } := by
  obtain ⟨emitted, unsent, hqueued, hat⟩ := h
  rw [hpc] at hat
  unfold UdpSend.call
  split
  · exact inv_returns hqueued hat.1 (by decide)
  case isFalse hvalid =>
    have hlength : 0 < frame.length ∧ frame.length ≤ 266 := by
      have hmax : protocolMaxFrameSize = 266 := rfl
      omega
    exact ⟨emitted, unsent, { hqueued with }, hlength, s.driver.frames, rfl, hat.1⟩

/-- Sn_TX_WR is moved. -/
theorem inv_moving (hqueued : s.Queued emitted unsent) (hcalled : s.Called (emitted ++ unsent))
    (hfilling : s.Filling s.driver.frame.length)
    (hpointer : s.driver.txWritePointer = s.driver.chip.txWr) :
    s.moving.Queued emitted (unsent ++ [s.driver.frame]) ∧
      emitted ++ (unsent ++ [s.driver.frame]) <+ s.driver.frames ∧
      s.moving.Emitted (unsent ++ [s.driver.frame]) := by
  obtain ⟨earlier, hframes, hsub⟩ := hcalled.earlier
  refine ⟨hqueued.moving hfilling hpointer, ?_, s.driver.frame, ?_, List.getLast?_concat⟩
  · rw [hframes, ← List.append_assoc]
    exact hsub.append (List.Sublist.refl _)
  · show s.driver.frames.getLast? = some s.driver.frame
    rw [hframes, List.getLast?_concat]

/-- The SEND command is taken. -/
theorem inv_sending (hqueued : s.Queued emitted unsent)
    (hsub : emitted ++ unsent <+ s.driver.frames) (hemitted : s.Emitted unsent) :
    s.sending.Queued (emitted ++ unsent) [] ∧ emitted ++ unsent ++ [] <+ s.driver.frames ∧
      s.sending.Emitted (emitted ++ unsent) := by
  obtain ⟨frame, hlast, hunsent⟩ := hemitted
  refine ⟨hqueued.sending, ?_, frame, hlast, ?_⟩
  · rw [List.append_nil]
    exact hsub
  · have hne : unsent ≠ [] := by
      rintro rfl
      cases hunsent
    rw [List.getLast?_append_of_ne_nil _ hne]
    exact hunsent

/-- A transaction that succeeds. -/
theorem inv_spiOk (h : s.Inv) {value : UInt16} {arrived : Nat} {late : Bool}
    (whole : s.Whole (.driver (.spi .ok value arrived late))) :
    Inv { s with driver := s.driver.spiOk value late } := by
  have hmove := s.driver.spiOk_move value late
  generalize s.driver.spiOk value late = driver at hmove ⊢
  have hinv := h
  obtain ⟨emitted, unsent, hqueued, hat⟩ := h
  cases hmove with
  | stays => exact hinv
  | reads hpc =>
    rw [hpc] at hat
    exact ⟨emitted, unsent, { hqueued with }, { hat with }⟩
  | free hpc room =>
    rw [hpc] at hat
    have hroom : s.used + s.driver.frame.length ≤ w5500TxBufferSize := by
      unfold Whole at whole
      simp only [hpc] at whole
      have hvalue := whole trivial
      omega
    exact ⟨emitted, unsent, { hqueued with }, { hat with }, hroom, (List.append_nil _).symm⟩
  | noRoom hpc =>
    rw [hpc] at hat
    exact inv_returns hqueued hat.sub (by decide)
  | pointer hpc =>
    rw [hpc] at hat
    obtain ⟨hcalled, hfilling⟩ := hat
    exact ⟨emitted, unsent, { hqueued with }, { hcalled with }, { hfilling with }, rfl⟩
  | header hpc =>
    rw [hpc] at hat
    obtain ⟨hcalled, hfilling, hpointer⟩ := hat
    exact ⟨emitted, unsent, { hqueued with }, { hcalled with }, { hfilling with },
      hcalled.frame.1, hpointer⟩
  | chunk hpc more size =>
    rw [hpc] at hat
    obtain ⟨hcalled, hfilling, hlt, hpointer⟩ := hat
    have hqueued' := hqueued.storing hfilling hlt hpointer w5500UdpSpiChunkSize
    have hstored := hfilling.storing hlt hpointer
    rw [size] at hstored
    exact ⟨emitted, unsent, { hqueued' with }, { hcalled with }, { hstored with }, more, hpointer⟩
  | lastChunk hpc last =>
    rw [hpc] at hat
    obtain ⟨hcalled, hfilling, hlt, hpointer⟩ := hat
    have hqueued' := hqueued.storing hfilling hlt hpointer w5500UdpSpiChunkSize
    have hstored := hfilling.storing hlt hpointer
    rw [last hlt] at hstored
    exact ⟨emitted, unsent, { hqueued' with }, { hcalled with }, { hstored with }, hpointer⟩
  | moves hpc =>
    rw [hpc] at hat
    obtain ⟨hcalled, hfilling, hpointer⟩ := hat
    obtain ⟨hqueued', hsub, hemitted⟩ := inv_moving hqueued hcalled hfilling hpointer
    exact ⟨emitted, unsent ++ [s.driver.frame], { hqueued' with }, hsub, hemitted⟩
  | clears hpc =>
    rw [hpc] at hat
    exact ⟨emitted, unsent, { hqueued with }, hat.1, hat.2⟩
  | sends hpc =>
    rw [hpc] at hat
    obtain ⟨hqueued', hsub, hemitted⟩ := inv_sending hqueued hat.1 hat.2
    exact ⟨emitted ++ unsent, [], { hqueued' with }, hsub, hemitted⟩
  | taken hpc | answer hpc =>
    rw [hpc] at hat
    exact ⟨emitted, unsent, { hqueued with }, hat.1, hat.2⟩
  | noAnswer hpc =>
    rcases hpc with hpc | hpc <;> (rw [hpc] at hat; exact inv_returns hqueued hat.1 (by decide))
  | acks hpc =>
    rw [hpc] at hat
    exact ⟨emitted, unsent, { hqueued with }, hat.1, fun _ => .inr hat.2⟩

/-- A transaction that fails. -/
theorem inv_spiFailed (h : s.Inv) {status : HalStatus} {value : UInt16} {arrived : Nat}
    {late : Bool} (hstatus : status ≠ .ok)
    (whole : s.Whole (.driver (.spi status value arrived late))) :
    Inv { s with driver := (s.driver.spiFailed arrived).returns status } := by
  obtain ⟨emitted, unsent, hqueued, hat⟩ := h
  unfold Whole at whole
  unfold UdpSend.spiFailed
  cases hpc : s.driver.pc with
  | idle =>
    simp only [hpc] at hat ⊢
    exact inv_returns hqueued hat.1 hstatus
  | readFsr attempt previous =>
    simp only [hpc] at hat ⊢
    exact inv_returns hqueued hat.sub hstatus
  | readTxWr | bufferHeader =>
    simp only [hpc] at hat ⊢
    exact inv_returns hqueued hat.1.sub hstatus
  | bufferChunk offset =>
    simp only [hpc] at hat ⊢
    obtain ⟨hcalled, hfilling, hlt, hpointer⟩ := hat
    have hqueued' := hqueued.storing hfilling hlt hpointer arrived
    exact inv_returns hqueued' hcalled.sub hstatus
  | writeTxWr =>
    simp only [hpc] at hat whole ⊢
    obtain ⟨hcalled, hfilling, hpointer⟩ := hat
    match arrived, whole with
    | 0, _ => exact inv_returns hqueued hcalled.sub hstatus
    | 1, hwhole => exact absurd hwhole (by simp [hstatus])
    | _ + 2, _ =>
      obtain ⟨hqueued', hsub, _⟩ := inv_moving hqueued hcalled hfilling hpointer
      exact inv_returns hqueued' hsub hstatus
  | clearIr | readCr | readIr | ackIr _ =>
    simp only [hpc] at hat ⊢
    exact inv_returns hqueued hat.1 hstatus
  | sendCommand =>
    simp only [hpc] at hat ⊢
    split
    · exact inv_returns hqueued hat.1 hstatus
    · obtain ⟨hqueued', hsub, _⟩ := inv_sending hqueued hat.1 hat.2
      exact inv_returns hqueued' hsub hstatus

/-- An acknowledgement, wherever the call stands. -/
theorem inv_acknowledging (h : s.Inv) {count : Nat} (hcount : count ≤ s.inFlight) :
    (s.acknowledging count).Inv := by
  obtain ⟨emitted, unsent, hqueued, hat⟩ := h
  have hqueued' := hqueued.acknowledging hcount
  have hfilling {stored : Nat} (hfilling : s.Filling stored) :
      (s.acknowledging count).Filling stored := hfilling.acknowledging hqueued hcount
  refine ⟨emitted, unsent, hqueued', ?_⟩
  show (s.acknowledging count).InvAt emitted unsent s.driver.pc
  cases hpc : s.driver.pc with
  | readFsr attempt previous =>
    rw [hpc] at hat
    exact { hat with }
  | readTxWr =>
    rw [hpc] at hat
    exact ⟨{ hat.1 with }, hfilling hat.2⟩
  | bufferHeader | writeTxWr =>
    rw [hpc] at hat
    exact ⟨{ hat.1 with }, hfilling hat.2.1, hat.2.2⟩
  | bufferChunk offset =>
    rw [hpc] at hat
    exact ⟨{ hat.1 with }, hfilling hat.2.1, hat.2.2⟩
  | idle | clearIr | sendCommand | readCr | readIr | ackIr _ =>
    rw [hpc] at hat
    exact hat

theorem inv_step (h : s.Inv) {a : TcpAction} (whole : s.Whole a) (hs : s.step a = some s') :
    s'.Inv := by
  cases a with
  | «open» pointer =>
    simp only [step, Option.ite_none_right_eq_some, Option.some.injEq] at hs
    rw [← hs.2]
    exact inv_reopen s pointer
  | ack count =>
    simp only [step, Option.ite_none_right_eq_some, Option.some.injEq] at hs
    rw [← hs.2]
    exact inv_acknowledging h hs.1
  | driver a =>
    simp only [step, Option.map_eq_some_iff] at hs
    obtain ⟨driver, hdriver, rfl⟩ := hs
    cases a with
    | call frame =>
      simp only [UdpSend.stepOf, Option.ite_none_right_eq_some, Option.some.injEq] at hdriver
      rw [← hdriver.2]
      exact inv_call h hdriver.1 frame
    | spi status value arrived late =>
      simp only [UdpSend.stepOf, Option.ite_none_left_eq_some] at hdriver
      obtain ⟨_, hdriver⟩ := hdriver
      by_cases hstatus : status = .ok
      · subst hstatus
        rw [if_pos rfl, Option.some.injEq] at hdriver
        rw [← hdriver]
        exact inv_spiOk h whole
      · rw [if_neg hstatus, Option.some.injEq] at hdriver
        rw [← hdriver]
        exact inv_spiFailed h hstatus whole

/-- The bytes in flight are the last ones of the stream. -/
theorem Queued.retransmission (h : s.Queued emitted unsent) : s.retransmission <:+ s.stream := by
  obtain ⟨before, hbefore⟩ := h.buffer
  rw [← h.used, Ring.contents_add, List.flatten_append, ← List.append_assoc] at hbefore
  have hlength : (Ring.contents s.driver.chip.txBuffer (s.acked.toNat + s.inFlight)
      unsent.flatten.length).length = unsent.flatten.length := Ring.contents_length _ _ _
  obtain ⟨hinFlight, _⟩ := List.append_inj' hbefore hlength
  exact ⟨before, hinFlight.trans h.stream.symm⟩

/-- The frames are frames of calls, in their order. -/
theorem InvAt.sub {pc : UdpPc} (h : s.InvAt emitted unsent pc) :
    emitted ++ unsent <+ s.driver.frames := by
  cases pc with
  | readFsr attempt previous => exact Called.sub h
  | readTxWr | bufferHeader | bufferChunk _ | writeTxWr => exact h.1.sub
  | idle | clearIr | sendCommand | readCr | readIr | ackIr _ => exact h.1

end TcpSend

/-- What TCP is handed in a connection is a sequence of whole frames, in the order of the calls and
    none twice, and its last frame is the one of a call that has just returned `HAL_OK`. What the
    chip would send again is the end of what it has been handed. -/
theorem tcpSendFrame_stream {s : TcpSend}
    (run : Reachable TcpSend.step TcpSend.Whole .initial s) :
    (∃ emitted, s.stream = emitted.flatten ∧ emitted <+ s.driver.frames ∧
      (s.driver.pc = .idle → s.driver.status = .ok →
        emitted.getLast? = s.driver.frames.getLast?)) ∧
    s.retransmission <:+ s.stream := by
  obtain ⟨emitted, unsent, hqueued, hat⟩ : s.Inv :=
    run.invariant TcpSend.inv_initial fun _ _ _ h whole taken => TcpSend.inv_step h whole taken
  have hsub : emitted <+ s.driver.frames := (List.sublist_append_left _ _).trans hat.sub
  refine ⟨⟨emitted, hqueued.stream, hsub, ?_⟩, hqueued.retransmission⟩
  intro hpc hstatus
  rw [hpc] at hat
  rcases hat.2 hstatus with hframes | ⟨frame, hlast, hemitted⟩
  · rw [hframes, List.sublist_nil] at hsub
    rw [hframes, hsub]
  · rw [hlast, hemitted]

/-- The first call fails when it clears Sn_IR. The second one sends both frames, and the client has
    acknowledged one byte of them. -/
theorem tcpSendFrame_stream_retry :
    ∃ s, Reachable TcpSend.step TcpSend.Whole .initial s ∧
      s.driver.frames = [[0x11, 0x12], [0x22]] ∧ s.stream = [0x11, 0x12, 0x22] ∧
      s.retransmission = [0x12, 0x22] ∧
      ∃ emitted, s.stream = emitted.flatten ∧ emitted <+ s.driver.frames ∧
        emitted.getLast? = some [0x22] := by
  obtain ⟨s, run, htest⟩ := exists_reachable TcpSend.step TcpSend.Whole .initial
    (.open 0xFFFF :: List.map TcpAction.driver (List.flatten [[.call [0x11, 0x12]], udpFillRun,
      [.spi .timeout 0 0 false, .call [0x22], .spi .ok 2046 0 false, .spi .ok 2046 0 false],
      udpFillRun.drop 2, [.spi .ok 0 0 false, .spi .ok 0 0 false, .spi .ok 0 0 false,
      .spi .ok 0x10 0 false, .spi .ok 0 0 false]]) ++ [.ack 1])
    (fun s => decide (s.driver.frames = [[0x11, 0x12], [0x22]] ∧ s.stream = [0x11, 0x12, 0x22] ∧
      s.retransmission = [0x12, 0x22] ∧ s.driver.pc = .idle ∧ s.driver.status = .ok))
    (by decide +kernel)
  obtain ⟨hframes, hstream, hretransmission, hpc, hstatus⟩ := of_decide_eq_true htest
  obtain ⟨⟨emitted, hemitted, hsub, hlast⟩, _⟩ := tcpSendFrame_stream run
  have hframe := hlast hpc hstatus
  rw [hframes] at hframe
  exact ⟨s, run, hframes, hstream, hretransmission, emitted, hemitted, hsub, hframe⟩

end Rs422Gateway
