import Rs422Gateway.Gateway.Proofs.UdpSend
import Rs422Gateway.Gateway.Proofs.W5500

/-!
# Both senders on one bus

Each transaction of a sender does to its socket what `UdpSend` says, wherever the transfer is cut,
and nothing to the other socket or to the configuration of the chip.
-/

namespace Rs422Gateway

open Transition

namespace W5500Bus

variable {s s' : W5500Bus} {n : W5500Socket}

/-! ## CS -/

/-- CS is low only between the header of a TX buffer and its last chunk, and only one of the two
    functions is under way. -/
structure Framed (s : W5500Bus) : Prop where
  exclusive : ∀ n, (s.control n).pc = .idle ∨ (s.control n.other).pc = .idle
  boot : s.pc ≠ .loop → s.Idle
  chunk : ∀ n offset, (s.control n).pc = .bufferChunk offset →
    s.chip.phase =
      .data n.txBufferWriteVdm ((s.control n).txWritePointer + UInt16.ofNat offset)
  high : (∀ n, ¬ (s.send n).selected) → s.chip.phase = .high

theorem not_selected {u : UdpSend} (h : ∀ offset, u.pc ≠ .bufferChunk offset) : ¬ u.selected := by
  unfold UdpSend.selected
  split
  case h_1 offset hpc => exact absurd hpc (h offset)
  case h_2 => exact Bool.false_ne_true

theorem Framed.idle_high (h : s.Framed) (hidle : s.Idle) : s.chip.phase = .high := by
  apply h.high
  intro n
  apply not_selected
  intro offset
  show (s.control n).pc ≠ .bufferChunk offset
  rw [hidle n]
  nofun

/-- While a sender is under way, but not in a TX buffer, CS is high. -/
theorem Framed.other_high (h : s.Framed) (hpc : (s.control n).pc ≠ .idle)
    (hselected : ¬ (s.send n).selected) : s.chip.phase = .high := by
  apply h.high
  intro m
  by_cases hm : m = n
  · rw [hm]
    exact hselected
  · have hother : n.other = m := by
      cases n <;> cases m <;> first | rfl | exact absurd rfl hm
    have hidle := (h.exclusive n).resolve_left hpc
    rw [hother] at hidle
    apply not_selected
    intro offset
    show (s.control m).pc ≠ .bufferChunk offset
    rw [hidle]
    nofun

/-! ## What a transaction does to the chip -/

/-- The chip behind a transaction of a sender. -/
def written (s : W5500Bus) (n : W5500Socket) (call : HalCall) : W5500 :=
  match (s.send n).pc with
  | .bufferChunk offset =>
      s.chip.writeAll (n.block + 1) ((s.send n).txWritePointer + UInt16.ofNat offset)
        (call.clocks ((s.send n).chunk offset))
  | .writeTxWr =>
      s.chip.writeAll n.block SocketRegister.txWr
        (call.arrived (writeU16Be (s.send n).newTxWritePointer))
  | .clearIr =>
      s.chip.writeAll n.block SocketRegister.ir
        (call.arrived [w5500Socket1IrSendOk ||| w5500Socket1IrTimeout])
  | .sendCommand => s.chip.writeAll n.block SocketRegister.cr (call.arrived [w5500SendCommand])
  | .ackIr sendResult => s.chip.writeAll n.block SocketRegister.ir (call.arrived [sendResult])
  | _ => s.chip

theorem writeVdm_write (n : W5500Socket) : W5500.isWrite n.writeVdm = true := by cases n <;> rfl

theorem readVdm_read (n : W5500Socket) : W5500.isWrite n.readVdm = false := by cases n <;> rfl

theorem writeVdm_block (n : W5500Socket) : n.writeVdm >>> 3 = n.block := by cases n <;> rfl

theorem readVdm_block (n : W5500Socket) : n.readVdm >>> 3 = n.block := by cases n <;> rfl

theorem txBufferWriteVdm_write (n : W5500Socket) : W5500.isWrite n.txBufferWriteVdm = true := by
  cases n <;> rfl

theorem txBufferWriteVdm_block (n : W5500Socket) : n.txBufferWriteVdm >>> 3 = n.block + 1 := by
  cases n <;> rfl

theorem exchanged_eq (h : s.Framed) (hpc : (s.control n).pc ≠ .idle) (call : HalCall) :
    (s.exchanged n call).1.deselect = (s.written n call).deselect := by
  have hread (address : UInt16) (data : List UInt8) (hhigh : s.chip.phase = .high) :=
    W5500.read_transfer hhigh (readVdm_read n) address data call
  have hwrite (address : UInt16) (data : List UInt8) (hhigh : s.chip.phase = .high) :=
    W5500.write_transfer hhigh (writeVdm_write n) address data call
  have hhigh := h.other_high hpc
  unfold exchanged selected written UdpSend.transaction
  rw [writeVdm_block] at hwrite
  cases hat : (s.send n).pc with
  | idle => exact absurd hat hpc
  | bufferChunk offset =>
    have hselected : (s.send n).selected := by
      unfold UdpSend.selected
      rw [hat]
    have hphase : s.chip.phase =
        .data n.txBufferWriteVdm ((s.send n).txWritePointer + UInt16.ofNat offset) :=
      h.chunk n offset hat
    have hdata := W5500.exchange_write_at (txBufferWriteVdm_write n) hphase
      (call.clocks ((s.send n).chunk offset))
    rw [txBufferWriteVdm_block] at hdata
    rw [if_pos hselected]
    show (s.chip.exchange _).1.deselect = _
    rw [hdata]
    rfl
  | bufferHeader =>
    have hselected : ¬ (s.send n).selected := not_selected (by rw [hat]; nofun)
    have hheader := W5500.write_transfer (hhigh hselected) (txBufferWriteVdm_write n)
      (s.send n).txWritePointer [] call
    have harrived : call.arrived [] = [] := by
      unfold HalCall.arrived
      split
      · rfl
      · exact List.take_nil
    rw [if_neg hselected]
    rw [List.append_nil, harrived] at hheader
    exact hheader
  | readFsr _ _ | readTxWr | readCr | readIr =>
    have hselected : ¬ (s.send n).selected := not_selected (by rw [hat]; nofun)
    rw [if_neg hselected]
    exact hread _ _ (hhigh hselected)
  | writeTxWr | clearIr | sendCommand | ackIr _ =>
    have hselected : ¬ (s.send n).selected := not_selected (by rw [hat]; nofun)
    rw [if_neg hselected]
    exact hwrite _ _ (hhigh hselected)

/-- Nothing happens to other blocks. -/
theorem written_other (call : HalCall) {block : UInt8} (h : block ≠ n.block)
    (h' : block ≠ n.block + 1) :
    (s.written n call).memory block = s.chip.memory block ∧
      (s.written n call).sent block = s.chip.sent block := by
  unfold written
  split
  · exact W5500.writeAll_other _ h' _ _
  · exact W5500.writeAll_other _ h _ _
  · exact W5500.writeAll_other _ h _ _
  · exact W5500.writeAll_other _ h _ _
  · exact W5500.writeAll_other _ h _ _
  · exact ⟨rfl, rfl⟩

/-- The chip as a sender sees it. -/
def Sees (c : W5500) (n : W5500Socket) (chip : UdpChip) (datagrams : List (List UInt8)) : Prop :=
  c.socket n.block = chip ∧ c.sent n.block = datagrams

theorem sees_ir (c : W5500) (n : W5500Socket) (value : UInt8) :
    Sees (c.write n.block SocketRegister.ir value) n (c.socket n.block) (c.sent n.block) := by
  refine ⟨?_, congrFun (W5500.write_sent c n.block (by decide) value) n.block⟩
  rw [W5500.write_ir]
  exact W5500.socket_set c n (.inl (by decide)) _

theorem sees_send (c : W5500) (n : W5500Socket) :
    Sees (c.write n.block SocketRegister.cr w5500SendCommand) n (c.socket n.block).sent
      (c.sent n.block ++ [(c.socket n.block).pending]) := by
  have hset : (c.set n.block SocketRegister.cr w5500SendCommand).socket n.block =
      c.socket n.block := W5500.socket_set c n (.inl (by decide)) _
  have hsend := W5500.socket_send (c.set n.block SocketRegister.cr w5500SendCommand) n
  rw [hset] at hsend
  rw [W5500.write_cr, if_pos rfl]
  exact hsend

theorem sees_txWr (c : W5500) (n : W5500Socket) (pointer : UInt16) (count : Nat) :
    Sees (c.writeAll n.block SocketRegister.txWr ((writeU16Be pointer).take count)) n
      ((c.socket n.block).writeTxWr pointer count) (c.sent n.block) := by
  refine ⟨W5500.socket_writeAll_txWr c n pointer count, ?_⟩
  have hsent (c : W5500) {address : UInt16} (h : address ≠ SocketRegister.cr) (value : UInt8) :
      (c.write n.block address value).sent n.block = c.sent n.block :=
    congrFun (W5500.write_sent c n.block h value) n.block
  match count with
  | 0 => rfl
  | 1 => exact hsent c (by decide) _
  | _ + 2 =>
    rw [List.take_of_length_le (Nat.le_add_left 2 _)]
    exact (hsent _ (by decide) _).trans (hsent c (by decide) _)

theorem sees_buffer (c : W5500) (n : W5500Socket) (pointer : UInt16) (offset : Nat)
    (data : List UInt8) :
    Sees (c.writeAll (n.block + 1) (pointer + UInt16.ofNat offset) data) n
      ((c.socket n.block).storeTx (pointer.toNat + offset) data) (c.sent n.block) := by
  have hposition : (pointer + UInt16.ofNat offset).toNat % w5500TxBufferSize =
      (pointer.toNat + offset) % w5500TxBufferSize := by
    have hsize : w5500TxBufferSize = 2048 := rfl
    rw [UInt16.toNat_add, UInt16.toNat_ofNat', hsize]
    omega
  refine ⟨?_, (W5500.writeAll_other c (W5500.buffer_ne n).symm _ _).2⟩
  rw [W5500.socket_writeAll_buffer, W5500.storeTx_congr _ hposition]

/-- A transaction that succeeds. -/
theorem written_ok {call : HalCall} (hok : call.status = .ok) (value : UInt16) (late : Bool) :
    Sees (s.written n call) n ((s.send n).spiOk value late).chip
      ((s.send n).spiOk value late).datagrams := by
  have hmove := (s.send n).spiOk_move value late
  generalize (s.send n).spiOk value late = u at hmove ⊢
  unfold written
  simp only [HalCall.clocks, HalCall.arrived, if_pos hok]
  cases hmove with
  | stays hpc => rcases hpc with hpc | hpc | hpc <;> (rw [hpc]; exact ⟨rfl, rfl⟩)
  | reads hpc | free hpc | noRoom hpc | pointer hpc | header hpc | taken hpc | answer hpc =>
    rw [hpc]
    exact ⟨rfl, rfl⟩
  | @chunk offset hpc | @lastChunk offset hpc =>
    have hsees := sees_buffer s.chip n (s.send n).txWritePointer offset ((s.send n).chunk offset)
    rw [hpc]
    dsimp only [UdpSend.storeChunk, UdpSend.goto]
    rw [UdpSend.chunk_whole]
    exact hsees
  | moves hpc =>
    rw [hpc]
    exact sees_txWr s.chip n (s.send n).newTxWritePointer 2
  | clears hpc | acks hpc =>
    rw [hpc]
    exact sees_ir s.chip n _
  | sends hpc =>
    rw [hpc]
    exact sees_send s.chip n
  | noAnswer hpc => rcases hpc with hpc | hpc <;> (rw [hpc]; exact ⟨rfl, rfl⟩)

theorem arrived_data {u : UdpSend} (h : ¬ u.selected) (clocked : Nat) :
    u.arrived clocked = clocked - 3 := if_neg h

/-- A transaction that fails. -/
theorem written_failed {call : HalCall} (hfailed : call.status ≠ .ok) :
    Sees (s.written n call) n
      ((s.send n).spiFailed ((s.send n).arrived call.clocked)).chip
      ((s.send n).spiFailed ((s.send n).arrived call.clocked)).datagrams := by
  unfold written UdpSend.spiFailed
  simp only [HalCall.clocks, HalCall.arrived, if_neg hfailed]
  cases hpc : (s.send n).pc with
  | idle | readFsr _ _ | readTxWr | bufferHeader | readCr | readIr => exact ⟨rfl, rfl⟩
  | bufferChunk offset =>
    have hselected : (s.send n).selected := by
      unfold UdpSend.selected
      rw [hpc]
    dsimp only
    rw [UdpSend.arrived, if_pos hselected]
    exact sees_buffer s.chip n (s.send n).txWritePointer offset _
  | writeTxWr =>
    dsimp only
    rw [arrived_data (by simp [UdpSend.selected, hpc])]
    exact sees_txWr s.chip n (s.send n).newTxWritePointer _
  | clearIr | ackIr _ =>
    dsimp only
    cases call.clocked - 3 with
    | zero => exact ⟨rfl, rfl⟩
    | succ count =>
      rw [List.take_of_length_le (Nat.le_add_left 1 count)]
      exact sees_ir s.chip n _
  | sendCommand =>
    dsimp only
    rw [arrived_data (by simp [UdpSend.selected, hpc])]
    cases call.clocked - 3 with
    | zero => exact ⟨rfl, rfl⟩
    | succ count =>
      rw [List.take_of_length_le (Nat.le_add_left 1 count), if_neg (Nat.succ_ne_zero count)]
      exact sees_send s.chip n

/-! ## One transaction is one step of its sender -/

/-- What Sn_TX_WR reads as. -/
theorem value_txWr (h : s.Framed) (hpc : (s.send n).pc = .readTxWr) {call : HalCall}
    (hok : call.status = .ok) : s.value n call = (s.send n).chip.txWr := by
  have hselected : ¬ (s.send n).selected := not_selected (by rw [hpc]; nofun)
  have hidle : (s.control n).pc ≠ .idle := by
    show (s.send n).pc ≠ .idle
    rw [hpc]
    nofun
  have hdata := W5500.read_transfer_data (h.other_high hidle hselected) (readVdm_read n)
    SocketRegister.txWr [0, 0] hok
  have hplace (a : UInt16) : W5500.place n.block a = a := by cases n <;> rfl
  have hexchanged : (s.exchanged n call).2.drop 3 =
      [s.chip.memory n.block SocketRegister.txWr,
        s.chip.memory n.block (SocketRegister.txWr + 1)] := by
    unfold exchanged selected UdpSend.transaction
    rw [if_neg hselected, hpc]
    dsimp only
    rw [hdata, readVdm_block]
    show [s.chip.memory n.block (W5500.place n.block SocketRegister.txWr),
      s.chip.memory n.block (W5500.place n.block (SocketRegister.txWr + 1))] = _
    rw [hplace, hplace]
  unfold value
  rw [hexchanged]
  rfl

theorem sendFrame_eq (n : W5500Socket) : n.sendFrame = UdpSend.spiOk := by
  cases n with
  | zero => exact w5500TcpSendFrame_eq
  | one => rfl

theorem next_ok (h : s.Framed) {call : HalCall} (hok : call.status = .ok) (late : Bool) :
    s.next n call late = ((s.send n).spiOk (s.value n call) late).control := by
  unfold next
  rw [if_pos hok, sendFrame_eq]
  dsimp only
  split
  case isTrue hpc =>
    rw [value_txWr h hpc hok]
    unfold UdpSend.spiOk UdpSend.sendFrame
    rw [hpc]
    rfl
  case isFalse => rfl

theorem spiFailed_control (u : UdpSend) (arrived : Nat) :
    (u.spiFailed arrived).control = u.control := by
  unfold UdpSend.spiFailed
  split
  · rfl
  · rfl
  · split <;> rfl
  · rfl

theorem returns_control {u v : UdpSend} (h : u.control = v.control) (status : HalStatus) :
    (u.returns status).control = (v.returns status).control := by
  unfold UdpSend.control at h
  injection h with _ hframe hpointer _ hframes
  unfold UdpSend.control UdpSend.returns
  dsimp only
  rw [hframe, hpointer, hframes]

/-- A sender has stepped. -/
theorem send_eq {s' : W5500Bus} {u : UdpSend} (hcontrol : s'.control n = u.control)
    (hsees : Sees s'.chip n u.chip u.datagrams) : s'.send n = u := by
  unfold send
  rw [hcontrol, hsees.1, hsees.2]
  rfl

theorem spi_chip (h : s.Framed) (hpc : (s.control n).pc ≠ .idle) (call : HalCall) (late : Bool) :
    (s.spi n call late).chip.deselect = (s.written n call).deselect := by
  rw [← exchanged_eq h hpc]
  unfold spi
  dsimp only
  split <;> rfl

/-- The sender of the transaction. -/
theorem spi_send (h : s.Framed) (hpc : (s.control n).pc ≠ .idle) (call : HalCall) (late : Bool) :
    (s.send n).step (s.action n call late) = some ((s.spi n call late).send n) := by
  have hchip := spi_chip h hpc call late
  have hsees {chip : UdpChip} {datagrams : List (List UInt8)}
      (hwritten : Sees (s.written n call) n chip datagrams) :
      Sees (s.spi n call late).chip n chip datagrams := by
    show Sees (s.spi n call late).chip.deselect n chip datagrams
    rw [hchip]
    exact hwritten
  have hcontrol : (s.spi n call late).control n = s.next n call late := Function.update_self _ _ _
  unfold UdpSend.step UdpSend.stepOf action
  dsimp only
  rw [if_neg (show (s.send n).pc ≠ .idle from hpc)]
  by_cases hok : call.status = .ok
  · rw [if_pos hok, Option.some.injEq]
    exact (send_eq (hcontrol.trans (next_ok h hok late)) (hsees (written_ok hok _ late))).symm
  · rw [if_neg hok, Option.some.injEq]
    have hnext : s.next n call late = (((s.send n).spiFailed
        ((s.send n).arrived call.clocked)).returns call.status).control := by
      rw [next, if_neg hok]
      exact (returns_control (spiFailed_control _ _) call.status).symm
    exact (send_eq (hcontrol.trans hnext) (hsees (written_failed hok))).symm

/-- The other sender. -/
theorem spi_other (h : s.Framed) (hpc : (s.control n).pc ≠ .idle) (call : HalCall) (late : Bool)
    {m : W5500Socket} (hm : m ≠ n) : (s.spi n call late).send m = s.send m := by
  have hblock : m.block ≠ n.block ∧ m.block ≠ n.block + 1 ∧ m.block + 1 ≠ n.block ∧
      m.block + 1 ≠ n.block + 1 := by
    cases m <;> cases n <;> first | exact absurd rfl hm | decide
  have hchip := spi_chip h hpc call late
  have hsame {block : UInt8} (hne : block ≠ n.block) (hne' : block ≠ n.block + 1) :
      (s.spi n call late).chip.memory block = s.chip.memory block ∧
        (s.spi n call late).chip.sent block = s.chip.sent block := by
    show (s.spi n call late).chip.deselect.memory block = _ ∧
      (s.spi n call late).chip.deselect.sent block = _
    rw [hchip]
    exact written_other call hne hne'
  have hregisters := hsame hblock.1 hblock.2.1
  have hbuffer := hsame hblock.2.2.1 hblock.2.2.2
  have hcontrol : (s.spi n call late).control m = s.control m := Function.update_of_ne hm _ _
  exact send_eq hcontrol
    ⟨W5500.socket_congr (fun _ _ _ => congrFun hregisters.1 _) hbuffer.1, hregisters.2⟩

/-! ## CS over a run -/

/-- When a sender goes on in a TX buffer. -/
theorem spiOk_chunk {u : UdpSend} {value : UInt16} {late : Bool} {offset : Nat}
    (hpc : u.pc ≠ .idle) (h : (u.spiOk value late).pc = .bufferChunk offset) :
    (u.spiOk value late).txWritePointer = u.txWritePointer ∧
      (u.pc = .bufferHeader ∧ offset = 0 ∨
        ∃ before, u.pc = .bufferChunk before ∧ offset = before + 64 ∧
          (u.chunk before).length = 64) := by
  have hmove := u.spiOk_move value late
  generalize u.spiOk value late = v at hmove h ⊢
  cases hmove with
  | stays hat =>
    rcases hat with hat | hat | hat
    · exact absurd hat hpc
    iterate 2
      rw [hat] at h
      cases h
  | header hat =>
    cases h
    exact ⟨rfl, .inl ⟨hat, rfl⟩⟩
  | chunk hat more size =>
    cases h
    exact ⟨rfl, .inr ⟨_, hat, rfl, size⟩⟩
  | _ => cases h

/-- The chip then waits for the next chunk. -/
theorem exchanged_chunk (h : s.Framed) (hpc : (s.control n).pc ≠ .idle) {call : HalCall}
    {late : Bool} {offset : Nat} (hnext : (s.next n call late).pc = .bufferChunk offset) :
    (s.exchanged n call).1.phase =
      .data n.txBufferWriteVdm ((s.next n call late).txWritePointer + UInt16.ofNat offset) := by
  by_cases hok : call.status = .ok
  case neg =>
    rw [next, if_neg hok] at hnext
    cases hnext
  rw [next_ok h hok late] at hnext ⊢
  obtain ⟨hpointer, ⟨hheader, rfl⟩ | ⟨before, hchunk, rfl, hlength⟩⟩ := spiOk_chunk hpc hnext
  · have hselected : ¬ (s.send n).selected := not_selected (by rw [hheader]; nofun)
    have hphase := W5500.exchange_whole_header (h.other_high hpc hselected)
      (s.send n).txWritePointer n.txBufferWriteVdm
    unfold exchanged selected UdpSend.transaction
    rw [HalCall.clocks, if_pos hok, if_neg hselected, hheader]
    show (s.chip.select.exchange (w5500Header _ _)).1.phase =
      .data _ ((UdpSend.spiOk _ _ _).txWritePointer + 0)
    rw [hphase, hpointer, UInt16.add_zero]
  · have hselected : (s.send n).selected := by
      unfold UdpSend.selected
      rw [hchunk]
    have hphase := W5500.exchange_write_at (txBufferWriteVdm_write n) (h.chunk n before hchunk)
      ((s.send n).chunk before)
    unfold exchanged selected UdpSend.transaction
    rw [HalCall.clocks, if_pos hok, if_pos hselected, hchunk]
    show (s.chip.exchange ((s.send n).chunk before)).1.phase =
      .data _ ((UdpSend.spiOk _ _ _).txWritePointer + UInt16.ofNat (before + 64))
    rw [hphase, hpointer, hlength, UInt16.ofNat_add, ← UInt16.add_assoc]
    rfl

theorem framed_idle (h : s.Framed) (hidle : s.Idle) {chip : W5500} (hphase : chip.phase = .high) :
    Framed { s with chip := chip } where
  exclusive := h.exclusive
  boot := h.boot
  chunk m offset hpc := by
    have hidle : (s.control m).pc = .idle := hidle m
    rw [show (s.control m).pc = .bufferChunk offset from hpc] at hidle
    cases hidle
  high _ := hphase

theorem writeRegisters_high {c : W5500} (h : c.phase = .high) (vdm : UInt8) (maximum : Nat)
    (address : UInt16) (data : List UInt8) (call : HalCall) :
    (w5500WriteRegisters c vdm maximum address data call).1.phase = .high := by
  unfold w5500WriteRegisters
  split
  · exact h
  · rfl

theorem readRegisters_high {c : W5500} (h : c.phase = .high) (vdm : UInt8) (maximum : Nat)
    (address : UInt16) (length : Nat) (call : HalCall) :
    (w5500ReadRegisters c vdm maximum address length call).1.phase = .high := by
  unfold w5500ReadRegisters
  split
  · exact h
  · rfl

theorem run_high {write : W5500 → UInt16 → List UInt8 → HalCall → W5500 × HalStatus}
    {read : W5500 → UInt16 → Nat → HalCall → W5500 × HalStatus × List UInt8} {c : W5500}
    {call : HalCall} (hwrite : ∀ address data, (write c address data call).1.phase = .high)
    (hread : ∀ address length, (read c address length call).1.phase = .high) (late : Bool)
    (step : RegisterStep) : (step.run write read c call late).1.phase = .high := by
  cases step with
  | write address data => exact hwrite address data
  | read address length => exact hread address length
  | await address expected => exact hread address 1

theorem boot_control (s : W5500Bus) (call : HalCall) (late : Bool) :
    (s.boot call late).control = s.control := by
  unfold boot
  split
  · rfl
  · rfl
  · rfl
  · split <;> rfl
  · dsimp only
    split <;> rfl
  · rfl
  · rfl
  · rfl
  · rfl

theorem boot_high (h : s.chip.phase = .high) (call : HalCall) (late : Bool) :
    (s.boot call late).chip.phase = .high := by
  have hcommon (step : RegisterStep) : (step.runCommon s.chip call late).1.phase = .high :=
    run_high (fun _ _ => writeRegisters_high h _ _ _ _ _)
      (fun _ _ => readRegisters_high h _ _ _ _ _) late step
  have hsocket1 (step : RegisterStep) : (step.runSocket1 s.chip call late).1.phase = .high :=
    run_high (fun _ _ => writeRegisters_high h _ _ _ _ _)
      (fun _ _ => readRegisters_high h _ _ _ _ _) late step
  unfold boot
  split
  · exact readRegisters_high h _ _ _ _ _
  · exact h
  · exact hcommon _
  · split <;> exact h
  · dsimp only
    split <;> exact hcommon _
  · exact h
  · exact h
  · exact hsocket1 _
  · exact h

theorem framed_initial (memory : UInt8 → UInt16 → UInt8) : (initial memory).Framed where
  exclusive _ := .inl rfl
  boot _ _ := rfl
  chunk _ _ hpc := by cases hpc
  high _ := rfl

theorem framed_spi (h : s.Framed) (hpc : (s.control n).pc ≠ .idle) (call : HalCall)
    (late : Bool) : (s.spi n call late).Framed := by
  have hother := (h.exclusive n).resolve_left hpc
  have hne : n.other ≠ n := by cases n <;> decide
  have hcontrol : (s.spi n call late).control n = s.next n call late := Function.update_self _ _ _
  have hcontrol' : (s.spi n call late).control n.other = s.control n.other :=
    Function.update_of_ne hne _ _
  have hcases (m : W5500Socket) : m = n ∨ m = n.other := by
    cases m <;> cases n <;> simp [W5500Socket.other]
  have hinvolution : n.other.other = n := by cases n <;> rfl
  refine ⟨?_, ?_, ?_, ?_⟩
  · intro m
    rcases hcases m with rfl | rfl
    · rw [hcontrol', hother]
      exact .inr rfl
    · rw [hcontrol', hother]
      exact .inl rfl
  · intro hboot
    exact absurd (h.boot hboot n) hpc
  · intro m offset hm
    rcases hcases m with rfl | rfl
    · rw [hcontrol] at hm ⊢
      have hphase := exchanged_chunk h hpc hm
      unfold spi
      dsimp only
      rw [hm]
      exact hphase
    · rw [hcontrol', hother] at hm
      cases hm
  · intro hselected
    have hn := hselected n
    unfold UdpSend.selected send at hn
    rw [hcontrol] at hn
    unfold spi
    dsimp only at hn ⊢
    split
    case h_1 offset hm =>
      rw [hm] at hn
      exact absurd rfl hn
    case h_2 => rfl

theorem call_pc (u : UdpSend) (frame : List UInt8) :
    (u.call frame).pc = .idle ∨ (u.call frame).pc = .readFsr 0 0 := by
  unfold UdpSend.call
  split
  · exact .inl rfl
  · exact .inr rfl

theorem MaySend.loop (h : s.MaySend n) : s.pc = .loop := by
  cases n with
  | zero => exact h.1
  | one => exact h.1

theorem framed_call (h : s.Framed) (hidle : s.Idle) (hmay : s.MaySend n) (frame : List UInt8) :
    Framed { s with
      control := Function.update s.control n ((s.send n).call frame).control } where
  exclusive m := by
    by_cases hm : m = n
    · refine .inr ?_
      have hother : m.other ≠ n := by cases m <;> cases n <;> first | decide | cases hm
      dsimp only
      rw [Function.update_of_ne hother]
      exact hidle m.other
    · refine .inl ?_
      dsimp only
      rw [Function.update_of_ne hm]
      exact hidle m
  boot hboot := absurd hmay.loop hboot
  chunk m offset hm := by
    dsimp only at hm
    by_cases hmn : m = n
    · rw [hmn, Function.update_self] at hm
      rcases call_pc (s.send n) frame with hpc | hpc
      · cases hpc.symm.trans hm
      · cases hpc.symm.trans hm
    · rw [Function.update_of_ne hmn, hidle m] at hm
      cases hm
  high _ := h.idle_high hidle

/-- Any step. -/
theorem framed_step (h : s.Framed) {a : BusAction} (taken : s.step a = some s') : s'.Framed := by
  cases a with
  | own block address value =>
    cases taken
    exact ⟨h.exclusive, h.boot, h.chunk, h.high⟩
  | boot call late =>
    simp only [step, Option.ite_none_right_eq_some, Option.some.injEq] at taken
    obtain ⟨hpc, rfl⟩ := taken
    have hidle := h.boot hpc
    have hcontrol := boot_control s call late
    have hhigh := boot_high (h.idle_high hidle) call late
    refine ⟨?_, ?_, ?_, fun _ => hhigh⟩
    · rw [hcontrol]
      exact h.exclusive
    · intro _ m
      rw [hcontrol]
      exact hidle m
    · intro m offset hm
      rw [hcontrol, hidle m] at hm
      cases hm
  | readCommon address length call =>
    simp only [step, Option.ite_none_right_eq_some, Option.some.injEq] at taken
    obtain ⟨⟨hidle, _⟩, rfl⟩ := taken
    exact framed_idle h hidle (readRegisters_high (h.idle_high hidle) _ _ _ _ _)
  | readSocket m address length call =>
    simp only [step, Option.ite_none_right_eq_some, Option.some.injEq] at taken
    obtain ⟨⟨hidle, _⟩, rfl⟩ := taken
    exact framed_idle h hidle (readRegisters_high (h.idle_high hidle) _ _ _ _ _)
  | readRxBuffer address dummy header data =>
    simp only [step, Option.ite_none_right_eq_some, Option.some.injEq] at taken
    obtain ⟨⟨hidle, _⟩, rfl⟩ := taken
    exact framed_idle h hidle rfl
  | writeSocket0 address bytes call =>
    simp only [step, Option.ite_none_right_eq_some, Option.some.injEq] at taken
    obtain ⟨⟨hidle, _⟩, rfl⟩ := taken
    exact framed_idle h hidle (writeRegisters_high (h.idle_high hidle) _ _ _ _ _)
  | call m frame =>
    simp only [step, Option.ite_none_right_eq_some, Option.some.injEq] at taken
    obtain ⟨⟨hidle, hmay⟩, rfl⟩ := taken
    exact framed_call h hidle hmay frame
  | spi m call late =>
    simp only [step, Option.ite_none_left_eq_some, Option.some.injEq] at taken
    obtain ⟨hpc, rfl⟩ := taken
    exact framed_spi h hpc call late

/-! ## A run of the bus is a run of each sender -/

variable {guard : UdpSend → UdpAction → Prop}

/-- The bus steps, and a sender does not. -/
theorem send_same {chip : W5500} {control : W5500Socket → SendControl} {pc : BusPc}
    (hcontrol : control n = s.control n) (hsocket : chip.socket n.block = s.chip.socket n.block)
    (hsent : chip.sent n.block = s.chip.sent n.block) :
    send { s with chip := chip, pc := pc, control := control } n = s.send n :=
  send_eq hcontrol ⟨hsocket, hsent⟩

/-- Raising CS does not matter to a sender. -/
theorem send_deselect {chip : W5500} (h : chip.deselect = s.chip.deselect) :
    send { s with chip := chip } n = s.send n :=
  send_same rfl (congrArg (fun c => c.socket n.block) h) (congrArg (fun c => c.sent n.block) h)

theorem readRegisters_chip {c : W5500} (hhigh : c.phase = .high) {vdm : UInt8}
    (hread : W5500.isWrite vdm = false) (maximum : Nat) (address : UInt16) (length : Nat)
    (call : HalCall) :
    (w5500ReadRegisters c vdm maximum address length call).1.deselect = c.deselect := by
  unfold w5500ReadRegisters
  split
  · rfl
  · exact W5500.read_transfer hhigh hread address _ call

theorem readRxBuffer_chip {c : W5500} (hhigh : c.phase = .high) (address : UInt16)
    (dummy : List UInt8) (header data : HalCall) :
    (w5500Socket0ReadRxBuffer c address dummy header data).deselect = c.deselect := by
  have hread : W5500.isWrite 0x18 = false := rfl
  unfold w5500Socket0ReadRxBuffer
  dsimp only
  split
  case isTrue hok =>
    rw [HalCall.clocks, if_pos hok, W5500.exchange_whole_header hhigh, W5500.exchange_read c hread]
    rfl
  case isFalse hfailed =>
    have hheader := W5500.read_transfer hhigh hread address [] header
    rw [List.append_nil] at hheader
    exact hheader

/-- What EthernetTask writes besides sending. -/
theorem writeSocket0_chip {c : W5500} (hhigh : c.phase = .high) (address : UInt16)
    (bytes : List UInt8) (call : HalCall) :
    ∃ data, data <+: bytes ∧
      (w5500SocketWriteRegisters c .zero address bytes call).1.deselect =
        (c.writeAll 1 address data).deselect := by
  unfold w5500SocketWriteRegisters w5500WriteRegisters
  split
  · exact ⟨[], List.nil_prefix, rfl⟩
  · refine ⟨call.arrived bytes, ?_, W5500.write_transfer hhigh (writeVdm_write .zero) _ _ _⟩
    unfold HalCall.arrived
    split
    · exact List.prefix_rfl
    · exact List.take_prefix _ _

/-- A register behind the pointers. -/
theorem sees_behind (c : W5500) (n : W5500Socket) {address : UInt16}
    (h : SocketRegister.txWr + 1 < address) (value : UInt8) :
    Sees (c.write n.block address value) n (c.socket n.block) (c.sent n.block) := by
  have hblock : n.block % 4 < 2 := by
    rw [W5500.block_registers]
    decide
  have hcr : address ≠ SocketRegister.cr := by
    rintro rfl
    exact absurd h (by decide)
  have hir : address ≠ SocketRegister.ir := by
    rintro rfl
    exact absurd h (by decide)
  rw [W5500.write_plain c hblock hcr hir]
  exact ⟨W5500.socket_set c n (.inr h) value, rfl⟩

/-- Sn_RX_RD is one. -/
theorem writeAll_rxRd (c : W5500) (n : W5500Socket) {data : List UInt8} (h : data.length ≤ 2) :
    Sees (c.writeAll n.block 0x0028 data) n (c.socket n.block) (c.sent n.block) := by
  have hfirst (value : UInt8) := sees_behind c n (show _ < (0x0028 : UInt16) by decide) value
  cases data with
  | nil => exact ⟨rfl, rfl⟩
  | cons hi rest =>
    have hsecond (value : UInt8) := sees_behind (c.write n.block 0x0028 hi) n
      (show _ < (0x0028 + 1 : UInt16) by decide) value
    rw [(hfirst hi).1, (hfirst hi).2] at hsecond
    cases rest with
    | nil => exact hfirst hi
    | cons lo rest =>
      obtain rfl : rest = [] := List.eq_nil_of_length_eq_zero (by
        rw [List.length_cons, List.length_cons] at h
        omega)
      exact hsecond lo

/-- A command that does not send. -/
theorem writeAll_cr (c : W5500) (n : W5500Socket) {command : UInt8}
    (h : command ≠ w5500SendCommand) {data : List UInt8} (hdata : data <+: [command]) :
    Sees (c.writeAll n.block SocketRegister.cr data) n (c.socket n.block) (c.sent n.block) := by
  cases data with
  | nil => exact ⟨rfl, rfl⟩
  | cons value rest =>
    obtain ⟨rfl, hrest⟩ := List.cons_prefix_cons.mp hdata
    obtain rfl := List.prefix_nil.mp hrest
    show Sees (c.write n.block SocketRegister.cr value) n _ _
    rw [W5500.write_cr, if_neg h]
    exact ⟨W5500.socket_set c n (.inl (by decide)) value, rfl⟩

/-- A step of the bus is a step of one sender, or of none. -/
theorem send_step (h : s.Framed) (hloop : s.pc = .loop) {a : BusAction}
    (allowed : s.Sending guard a) (taken : s.step a = some s') (n : W5500Socket) :
    s'.send n = s.send n ∨
      ∃ b, guard (s.send n) b ∧ (s.send n).step b = some (s'.send n) := by
  cases a with
  | own block address value =>
    cases taken
    left
    obtain ⟨hbuffer, hpointers⟩ := allowed n
    refine send_same rfl ?_ rfl
    by_cases hblock : block = n.block
    · rw [hblock]
      exact W5500.socket_set s.chip n (hpointers hblock) value
    · have hregisters : (s.chip.set block address value).memory n.block =
          s.chip.memory n.block := Function.update_of_ne (Ne.symm hblock) _ _
      exact W5500.socket_congr (fun _ _ _ => congrFun hregisters _)
        (Function.update_of_ne (Ne.symm hbuffer) _ _)
  | boot call late =>
    simp only [step, Option.ite_none_right_eq_some] at taken
    exact absurd hloop taken.1
  | readCommon address length call =>
    simp only [step, Option.ite_none_right_eq_some, Option.some.injEq] at taken
    obtain ⟨⟨hidle, _⟩, rfl⟩ := taken
    left
    have hread : W5500.isWrite 0x00 = false := rfl
    exact send_deselect (readRegisters_chip (h.idle_high hidle) hread 6 address length call)
  | readSocket m address length call =>
    simp only [step, Option.ite_none_right_eq_some, Option.some.injEq] at taken
    obtain ⟨⟨hidle, _⟩, rfl⟩ := taken
    left
    exact send_deselect
      (readRegisters_chip (h.idle_high hidle) (readVdm_read m) m.maxDataLength address length call)
  | readRxBuffer address dummy header data =>
    simp only [step, Option.ite_none_right_eq_some, Option.some.injEq] at taken
    obtain ⟨⟨hidle, _⟩, rfl⟩ := taken
    left
    exact send_deselect (readRxBuffer_chip (h.idle_high hidle) address dummy header data)
  | writeSocket0 address bytes call =>
    simp only [step, Option.ite_none_right_eq_some, Option.some.injEq] at taken
    obtain ⟨⟨hidle, _⟩, rfl⟩ := taken
    left
    obtain ⟨data, hdata, hchip⟩ := writeSocket0_chip (h.idle_high hidle) address bytes call
    have hsees : Sees (s.chip.writeAll (W5500Socket.block .zero) address data) n
        (s.chip.socket n.block) (s.chip.sent n.block) := by
      cases n with
      | zero =>
        rcases allowed with ⟨rfl, hlength⟩ | ⟨rfl, rfl | rfl⟩
        · exact writeAll_rxRd s.chip .zero (hlength ▸ hdata.length_le)
        · exact writeAll_cr s.chip .zero (by decide) hdata
        · exact writeAll_cr s.chip .zero (by decide) hdata
      | one =>
        have hregisters := W5500.writeAll_other s.chip
          (show W5500Socket.block .one ≠ W5500Socket.block .zero by decide) address data
        have hbuffer := W5500.writeAll_other s.chip
          (show W5500Socket.block .one + 1 ≠ W5500Socket.block .zero by decide) address data
        exact ⟨W5500.socket_congr (fun _ _ _ => congrFun hregisters.1 _) hbuffer.1, hregisters.2⟩
    exact send_same rfl ((congrArg (fun c => c.socket n.block) hchip).trans hsees.1)
      ((congrArg (fun c => c.sent n.block) hchip).trans hsees.2)
  | call m frame =>
    simp only [step, Option.ite_none_right_eq_some, Option.some.injEq] at taken
    obtain ⟨⟨hidle, _⟩, rfl⟩ := taken
    by_cases hm : n = m
    · subst hm
      right
      refine ⟨.call frame, allowed, ?_⟩
      have hcall : (s.send n).step (.call frame) = some ((s.send n).call frame) :=
        if_pos (hidle n)
      have hchip : ((s.send n).call frame).chip = (s.send n).chip ∧
          ((s.send n).call frame).datagrams = (s.send n).datagrams := by
        unfold UdpSend.call
        split <;> exact ⟨rfl, rfl⟩
      have hsend : send { s with
          control := Function.update s.control n ((s.send n).call frame).control } n =
          (s.send n).call frame :=
        send_eq (Function.update_self _ _ _) ⟨hchip.1.symm, hchip.2.symm⟩
      rw [hcall, hsend]
    · left
      exact send_same (Function.update_of_ne hm _ _) rfl rfl
  | spi m call late =>
    simp only [step, Option.ite_none_left_eq_some, Option.some.injEq] at taken
    obtain ⟨hpc, rfl⟩ := taken
    by_cases hm : n = m
    · subst hm
      right
      exact ⟨s.action n call late, allowed, spi_send h hpc call late⟩
    · left
      exact spi_other h hpc call late hm

theorem loop_step (hloop : s.pc = .loop) {a : BusAction} (taken : s.step a = some s') :
    s'.pc = .loop := by
  cases a with
  | own block address value =>
    cases taken
    exact hloop
  | boot call late =>
    simp only [step, Option.ite_none_right_eq_some] at taken
    exact absurd hloop taken.1
  | readCommon _ _ _ | readSocket _ _ _ _ | readRxBuffer _ _ _ _ | writeSocket0 _ _ _ | call _ _ =>
    simp only [step, Option.ite_none_right_eq_some, Option.some.injEq] at taken
    rw [← taken.2]
    exact hloop
  | spi m call late =>
    simp only [step, Option.ite_none_left_eq_some, Option.some.injEq] at taken
    rw [← taken.2]
    exact hloop

theorem Quiet.framed (h : s.Quiet) : s.Framed where
  exclusive m := .inl (h.2.1 m)
  boot hboot := absurd h.1 hboot
  chunk m offset hm := by
    rw [h.2.1 m] at hm
    cases hm
  high _ := h.2.2

end W5500Bus

/-- Whatever transfers fail, and wherever they are cut, the bytes on the bus do to each socket what
    the transactions of its sender do: a run of the bus is a run of `w5500_tcp_send_frame` on
    socket 0 and of `w5500_udp_send_frame` on socket 1, and neither disturbs the other. -/
theorem w5500Bus_senders {guard : UdpSend → UdpAction → Prop} {s₀ s : W5500Bus}
    (quiet : s₀.Quiet) (run : Reachable W5500Bus.step (W5500Bus.Sending guard) s₀ s)
    (n : W5500Socket) : Reachable UdpSend.step guard (s₀.send n) (s.send n) := by
  have h : s.Framed ∧ s.pc = .loop ∧ Reachable UdpSend.step guard (s₀.send n) (s.send n) := by
    refine run.invariant (P := fun s => s.Framed ∧ s.pc = .loop ∧
      Reachable UdpSend.step guard (s₀.send n) (s.send n)) ⟨quiet.framed, quiet.1, .start⟩ ?_
    rintro s a s' ⟨framed, hloop, hsend⟩ allowed taken
    refine ⟨W5500Bus.framed_step framed taken, W5500Bus.loop_step hloop taken, ?_⟩
    rcases W5500Bus.send_step framed hloop allowed taken n with hsame | ⟨b, hguard, hstep⟩
    · rw [hsame]
      exact hsend
    · exact .step b hsend hguard hstep
  exact h.2.2

/-- EthernetTask in its loop, with 2 KB free on each socket. -/
def W5500Bus.serving : W5500Bus :=
  { W5500Bus.initial fun _ address => if address = SocketRegister.txFsr then 0x08 else 0 with
    pc := .loop
    netReadbackOk := true
    udpOpenOk := true }

/-- Transactions of a sender. -/
def spiRun (n : W5500Socket) (calls : List HalCall) : List BusAction :=
  calls.map fun call => .spi n call false

/-- A datagram whose Sn_IR is not cleared since the header is cut, a segment whose Sn_TX_WR is not
    moved for the same reason, and a datagram that is sent with the first. -/
theorem w5500Bus_senders_cut :
    ∃ s, Reachable W5500Bus.step (W5500Bus.Sending unguarded) .serving s ∧
      s.chip.memory 6 0 = 0x11 ∧ s.chip.memory 6 1 = 0x22 ∧ (s.chip.sent 5).length = 1 ∧
      (s.send .zero).frames = [[0x33]] ∧
      Reachable UdpSend.step unguarded (W5500Bus.serving.send .one) (s.send .one) := by
  obtain ⟨s, run, htest⟩ := exists_reachable W5500Bus.step (W5500Bus.Sending unguarded) .serving
    (List.flatten [[.call .one [0x11]], spiRun .one (List.replicate 6 ⟨.ok, 0⟩),
      spiRun .one [⟨.timeout, 2⟩], [.call .zero [0x33]], spiRun .zero (List.replicate 5 ⟨.ok, 0⟩),
      spiRun .zero [⟨.timeout, 2⟩], [.call .one [0x22]],
      spiRun .one (List.replicate 8 ⟨.ok, 0⟩)])
    (fun s => decide (s.chip.memory 6 0 = 0x11 ∧ s.chip.memory 6 1 = 0x22 ∧
      (s.chip.sent 5).length = 1 ∧ (s.send .zero).frames = [[0x33]])) (by decide +kernel)
  obtain ⟨hfirst, hsecond, hsent, hframes⟩ := of_decide_eq_true htest
  have quiet : W5500Bus.serving.Quiet := ⟨rfl, fun _ => rfl, rfl⟩
  exact ⟨s, run, hfirst, hsecond, hsent, hframes, w5500Bus_senders quiet run .one⟩

end Rs422Gateway
