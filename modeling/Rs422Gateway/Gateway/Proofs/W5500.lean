import Rs422Gateway.Common.Frame
import Rs422Gateway.Gateway.W5500

/-!
# Transfers of the W5500

However a transfer is cut, the data bytes that have been clocked are written one after another from
the address on, and nothing else happens; a read changes nothing, and shifts out what is there.
-/

namespace Rs422Gateway

/-- The data bytes that reach the chip behind a header. -/
def HalCall.arrived (call : HalCall) (data : List UInt8) : List UInt8 :=
  if call.status = .ok then data else data.take (call.clocked - 3)

namespace W5500

/-! ## Bytes -/

theorem exchange_append (c : W5500) (as bs : List UInt8) :
    c.exchange (as ++ bs) =
      (((c.exchange as).1.exchange bs).1,
        (c.exchange as).2 ++ ((c.exchange as).1.exchange bs).2) := by
  induction as generalizing c with
  | nil => rfl
  | cons a rest ih =>
    rw [List.cons_append, exchange, ih]
    rfl

/-- Data bytes arrive one after another. -/
def writeAll (c : W5500) (block : UInt8) (address : UInt16) : List UInt8 → W5500
  | [] => c
  | value :: rest => (c.write block address value).writeAll block (address + 1) rest

/-- The bytes at rising addresses. -/
def cells (c : W5500) (block : UInt8) (address : UInt16) : Nat → List UInt8
  | 0 => []
  | count + 1 =>
      c.memory block (place block address) :: c.cells block (address + 1) count

theorem write_phase (c : W5500) (phase : SpiPhase) (block : UInt8) (address : UInt16)
    (value : UInt8) :
    ({ c with phase := phase }.write block address value) =
      { c.write block address value with phase := phase } := by
  unfold write
  split
  · dsimp only
    split <;> rfl
  · split <;> rfl

/-- The data of a write. -/
theorem exchange_write (c : W5500) {control : UInt8} (hwrite : isWrite control = true)
    (address : UInt16) (data : List UInt8) :
    ({ c with phase := .data control address }.exchange data).1 =
      { c.writeAll (control >>> 3) address data with
        phase := .data control (address + UInt16.ofNat data.length) } := by
  induction data generalizing c address with
  | nil =>
    show ({ c with phase := .data control address } : W5500) =
      { c with phase := .data control (address + 0) }
    rw [UInt16.add_zero]
  | cons value rest ih =>
    have hnext : ({ c with phase := .data control address } : W5500).clock value =
        { c.write (control >>> 3) address value with phase := .data control (address + 1) } := by
      simp only [clock, hwrite, if_true, write_phase]
    have hlength : address + 1 + UInt16.ofNat rest.length =
        address + UInt16.ofNat (rest.length + 1) := by
      rw [UInt16.add_assoc, UInt16.ofNat_add, UInt16.add_comm 1]
      rfl
    rw [exchange, hnext]
    show (({ c.write (control >>> 3) address value with
      phase := .data control (address + 1) } : W5500).exchange rest).1 = _
    rw [ih, hlength]
    rfl

theorem exchange_write_at {c : W5500} {control : UInt8} (hwrite : isWrite control = true)
    {address : UInt16} (hphase : c.phase = .data control address) (data : List UInt8) :
    (c.exchange data).1 =
      { c.writeAll (control >>> 3) address data with
        phase := .data control (address + UInt16.ofNat data.length) } := by
  have hdata := exchange_write c hwrite address data
  rwa [← hphase] at hdata

/-- The data of a read. -/
theorem exchange_read (c : W5500) {control : UInt8} (hread : isWrite control = false)
    (address : UInt16) (data : List UInt8) :
    ({ c with phase := .data control address }.exchange data) =
      ({ c with phase := .data control (address + UInt16.ofNat data.length) },
        c.cells (control >>> 3) address data.length) := by
  induction data generalizing address with
  | nil =>
    show (({ c with phase := .data control address } : W5500), ([] : List UInt8)) =
      ({ c with phase := .data control (address + 0) }, [])
    rw [UInt16.add_zero]
  | cons value rest ih =>
    have hnext : ({ c with phase := .data control address } : W5500).clock value =
        { c with phase := .data control (address + 1) } := by
      simp only [clock, hread]
      rfl
    have hmiso : ({ c with phase := .data control address } : W5500).miso =
        c.memory (control >>> 3) (place (control >>> 3) address) := by
      simp only [miso, hread]
      rfl
    have hlength : address + 1 + UInt16.ofNat rest.length =
        address + UInt16.ofNat (rest.length + 1) := by
      rw [UInt16.add_assoc, UInt16.ofNat_add, UInt16.add_comm 1]
      rfl
    rw [exchange, hnext, hmiso, ih, hlength]
    rfl

/-! ## Transfers -/

section Transfers

variable {c : W5500} (hhigh : c.phase = .high)

include hhigh

/-- The header, as far as it is clocked, changes nothing. -/
theorem exchange_header (address : UInt16) (vdm : UInt8) (count : Nat) :
    (c.select.exchange ((w5500Header address vdm).take count)).1 =
      { c with
        phase :=
          match count with
          | 0 => .addressHigh
          | 1 => .addressLow ((writeU16Be address).getD 0 0)
          | 2 => .control address
          | _ + 3 => .data vdm address } := by
  have hword : readU16Be (writeU16Be address) = address := readU16Be_writeU16Be address []
  rw [select, if_pos hhigh]
  match count with
  | 0 => rfl
  | 1 => rfl
  | 2 =>
    show ({ c with phase := .control (readU16Be (writeU16Be address)) } : W5500) = _
    rw [hword]
  | count + 3 =>
    have hwhole : (w5500Header address vdm).take (count + 3) = w5500Header address vdm :=
      List.take_of_length_le (Nat.le_add_left 3 count)
    rw [hwhole]
    show ({ c with phase := .data vdm (readU16Be (writeU16Be address)) } : W5500) = _
    rw [hword]

theorem exchange_whole_header (address : UInt16) (vdm : UInt8) :
    (c.select.exchange (w5500Header address vdm)).1 = { c with phase := .data vdm address } :=
  exchange_header hhigh address vdm 3

/-- A write transfer, wherever it is cut. -/
theorem write_transfer {vdm : UInt8} (hwrite : isWrite vdm = true) (address : UInt16)
    (data : List UInt8) (call : HalCall) :
    (c.select.exchange (call.clocks (w5500Header address vdm ++ data))).1.deselect =
      (c.writeAll (vdm >>> 3) address (call.arrived data)).deselect := by
  unfold HalCall.clocks HalCall.arrived
  split
  · rw [exchange_append, exchange_whole_header hhigh, exchange_write c hwrite]
    rfl
  · rw [List.take_append, exchange_append, exchange_header hhigh]
    have hlength : (w5500Header address vdm).length = 3 := rfl
    rw [hlength]
    match call.clocked with
    | 0 | 1 | 2 => rfl
    | count + 3 =>
      dsimp only
      rw [exchange_write c hwrite]
      rfl

/-- A read transfer, wherever it is cut. -/
theorem read_transfer {vdm : UInt8} (hread : isWrite vdm = false) (address : UInt16)
    (data : List UInt8) (call : HalCall) :
    (c.select.exchange (call.clocks (w5500Header address vdm ++ data))).1.deselect =
      c.deselect := by
  unfold HalCall.clocks
  split
  · rw [exchange_append, exchange_whole_header hhigh, exchange_read c hread]
    rfl
  · rw [List.take_append, exchange_append, exchange_header hhigh]
    have hlength : (w5500Header address vdm).length = 3 := rfl
    rw [hlength]
    match call.clocked with
    | 0 | 1 | 2 => rfl
    | count + 3 =>
      dsimp only
      rw [exchange_read c hread]
      rfl

/-- What a whole read transfer returns. -/
theorem read_transfer_data {vdm : UInt8} (hread : isWrite vdm = false)
    (address : UInt16) (data : List UInt8) {call : HalCall} (hok : call.status = .ok) :
    (c.select.exchange (call.clocks (w5500Header address vdm ++ data))).2.drop 3 =
      c.cells (vdm >>> 3) address data.length := by
  have hlength : (c.select.exchange (w5500Header address vdm)).2.length = 3 := rfl
  rw [HalCall.clocks, if_pos hok, exchange_append, exchange_whole_header hhigh,
    exchange_read c hread, List.drop_left' hlength]

end Transfers

/-! ## What a write leaves alone -/

/-- Another block. -/
theorem write_other (c : W5500) {block block' : UInt8} (h : block' ≠ block) (address : UInt16)
    (value : UInt8) :
    (c.write block address value).memory block' = c.memory block' ∧
      (c.write block address value).sent block' = c.sent block' := by
  unfold write
  split
  · dsimp only
    split
    · refine ⟨?_, Function.update_of_ne h _ _⟩
      simp only [send, set, Function.update_of_ne h]
    · exact ⟨Function.update_of_ne h _ _, rfl⟩
  · split
    · exact ⟨Function.update_of_ne h _ _, rfl⟩
    · exact ⟨Function.update_of_ne h _ _, rfl⟩

theorem writeAll_other (c : W5500) {block block' : UInt8} (h : block' ≠ block) (address : UInt16)
    (data : List UInt8) :
    (c.writeAll block address data).memory block' = c.memory block' ∧
      (c.writeAll block address data).sent block' = c.sent block' := by
  induction data generalizing c address with
  | nil => exact ⟨rfl, rfl⟩
  | cons value rest ih =>
    have hwrite := write_other c h address value
    have hrest := ih (c.write block address value) (address + 1)
    exact ⟨hrest.1.trans hwrite.1, hrest.2.trans hwrite.2⟩

theorem set_memory_ne (c : W5500) (block : UInt8) {address x : UInt16} (h : x ≠ address)
    (value : UInt8) : (c.set block address value).memory block x = c.memory block x := by
  unfold set
  dsimp only
  rw [Function.update_self, Function.update_of_ne h]

theorem set_memory_self (c : W5500) (block : UInt8) (address : UInt16) (value : UInt8) :
    (c.set block address value).memory block address = value := by
  unfold set
  dsimp only
  rw [Function.update_self, Function.update_self]

/-- Another register of the same block, unless SEND moves it. -/
theorem write_register (c : W5500) {block : UInt8} (hblock : block % 4 < 2) {address x : UInt16}
    (hrd : x ≠ SocketRegister.txRd) (hrd' : x ≠ SocketRegister.txRd + 1) (h : x ≠ address)
    (value : UInt8) : (c.write block address value).memory block x = c.memory block x := by
  have hplace : place block address = address := if_neg (UInt8.not_le.mpr hblock)
  unfold write
  split
  · dsimp only
    split
    · rw [send, set_memory_ne _ _ hrd', set_memory_ne _ _ hrd, set_memory_ne _ _ h]
    · exact set_memory_ne c block h value
  · split
    · exact set_memory_ne c block h _
    · rw [hplace]
      exact set_memory_ne c block h value

theorem writeAll_register (c : W5500) {block : UInt8} (hblock : block % 4 < 2)
    {address x : UInt16} (hrd : x ≠ SocketRegister.txRd) (hrd' : x ≠ SocketRegister.txRd + 1)
    {data : List UInt8} (h : ∀ i < data.length, x ≠ address + UInt16.ofNat i) :
    (c.writeAll block address data).memory block x = c.memory block x := by
  induction data generalizing c address with
  | nil => rfl
  | cons value rest ih =>
    have hfirst : x ≠ address := by
      have hzero : x ≠ address + 0 := h 0 (Nat.succ_pos _)
      rwa [UInt16.add_zero] at hzero
    have hrest : ∀ i < rest.length, x ≠ address + 1 + UInt16.ofNat i := by
      intro i hi
      have hnext := h (i + 1) (Nat.succ_lt_succ hi)
      rwa [UInt16.ofNat_add, UInt16.add_comm (UInt16.ofNat i), ← UInt16.add_assoc] at hnext
    exact (ih (c.write block address value) hrest).trans
      (write_register c hblock hrd hrd' hfirst value)

/-- Only Sn_CR sends. -/
theorem write_sent (c : W5500) (block : UInt8) {address : UInt16} (h : address ≠ SocketRegister.cr)
    (value : UInt8) : (c.write block address value).sent = c.sent := by
  unfold write
  rw [if_neg (fun hcr => h hcr.2)]
  split <;> rfl

/-! ## Registers that hold what is written -/

/-- The addresses of a run of registers, none of which does anything when it is written. -/
def Plain (address : UInt16) (count : Nat) : Prop :=
  ∀ i < count, address + UInt16.ofNat i ∉
    [SocketRegister.cr, SocketRegister.ir, SocketRegister.txRd, SocketRegister.txRd + 1]

instance (address : UInt16) (count : Nat) : Decidable (Plain address count) :=
  inferInstanceAs (Decidable (∀ i < count, _))

theorem cells_memory {c c' : W5500} (h : c'.memory = c.memory) (block : UInt8) (address : UInt16)
    (count : Nat) : c'.cells block address count = c.cells block address count := by
  induction count generalizing address with
  | zero => rfl
  | succ count ih => rw [cells, cells, h, ih]

theorem cells_congr {c c' : W5500} {block : UInt8} (hblock : block % 4 < 2) {address : UInt16}
    {count : Nat} (h : ∀ i < count, c'.memory block (address + UInt16.ofNat i) =
      c.memory block (address + UInt16.ofNat i)) :
    c'.cells block address count = c.cells block address count := by
  have hplace (a : UInt16) : place block a = a := if_neg (UInt8.not_le.mpr hblock)
  induction count generalizing address with
  | zero => rfl
  | succ count ih =>
    have hfirst : c'.memory block (address + 0) = c.memory block (address + 0) :=
      h 0 (Nat.succ_pos _)
    have hrest : ∀ i < count, c'.memory block (address + 1 + UInt16.ofNat i) =
        c.memory block (address + 1 + UInt16.ofNat i) := by
      intro i hi
      have hnext := h (i + 1) (Nat.succ_lt_succ hi)
      rwa [UInt16.ofNat_add, UInt16.add_comm (UInt16.ofNat i), ← UInt16.add_assoc] at hnext
    rw [UInt16.add_zero] at hfirst
    rw [cells, cells, hplace, hfirst, ih hrest]

/-- An address does not come again behind it. -/
theorem ne_add_of_lt (address : UInt16) {i : Nat} (h : i + 1 < 65536) :
    address ≠ address + 1 + UInt16.ofNat i := by
  intro heq
  have hnat := congrArg UInt16.toNat heq
  have hlt := address.toNat_lt
  have hone : (1 : UInt16).toNat = 1 := rfl
  rw [UInt16.toNat_add, UInt16.toNat_add, UInt16.toNat_ofNat', hone] at hnat
  omega

/-- A register that does nothing when it is written. -/
theorem write_plain (c : W5500) {block : UInt8} (hblock : block % 4 < 2) {address : UInt16}
    (hcr : address ≠ SocketRegister.cr) (hir : address ≠ SocketRegister.ir) (value : UInt8) :
    c.write block address value = c.set block address value := by
  have hplace : place block address = address := if_neg (UInt8.not_le.mpr hblock)
  unfold write
  rw [if_neg (fun h => hcr h.2), if_neg (fun h => hir h.2), hplace]

theorem cells_writeAll (c : W5500) {block : UInt8} (hblock : block % 4 < 2) {address : UInt16}
    {data : List UInt8} (hlength : data.length ≤ 65536) (hplain : Plain address data.length) :
    (c.writeAll block address data).cells block address data.length = data := by
  have hplace (a : UInt16) : place block a = a := if_neg (UInt8.not_le.mpr hblock)
  induction data generalizing c address with
  | nil => rfl
  | cons value rest ih =>
    have hfirst : address + 0 ∉ _ := hplain 0 (Nat.succ_pos _)
    rw [UInt16.add_zero] at hfirst
    simp only [List.mem_cons, List.not_mem_nil, or_false, not_or] at hfirst
    obtain ⟨hcr, hir, hrd, hrd'⟩ := hfirst
    have hrest : Plain (address + 1) rest.length := by
      intro i hi
      have hnext := hplain (i + 1) (Nat.succ_lt_succ hi)
      rwa [UInt16.ofNat_add, UInt16.add_comm (UInt16.ofNat i), ← UInt16.add_assoc] at hnext
    have hwritten := write_plain c hblock hcr hir value
    have hkept : ∀ i < rest.length, address ≠ address + 1 + UInt16.ofNat i := fun i hi =>
      ne_add_of_lt address (by rw [List.length_cons] at hlength; omega)
    rw [List.length_cons] at hlength ⊢
    rw [cells, writeAll, ih _ (by omega) hrest, hplace, writeAll_register _ hblock hrd hrd' hkept,
      hwritten, set_memory_self]

/-! ## The side of a socket that sends -/

section Socket

variable (c : W5500) (n : W5500Socket)

theorem block_registers : n.block % 4 = 1 := by cases n <;> rfl

theorem buffer_ne : n.block + 1 ≠ n.block := by cases n <;> decide

theorem socket_congr {c c' : W5500} {n : W5500Socket}
    (hregisters : ∀ address, SocketRegister.txRd ≤ address → address ≤ SocketRegister.txWr + 1 →
      c'.memory n.block address = c.memory n.block address)
    (hbuffer : c'.memory (n.block + 1) = c.memory (n.block + 1)) :
    c'.socket n.block = c.socket n.block := by
  unfold socket word
  rw [hregisters _ (by decide) (by decide), hregisters _ (by decide) (by decide),
    hregisters _ (by decide) (by decide), hregisters _ (by decide) (by decide), hbuffer]

theorem storeTx_congr (chip : UdpChip) {a b : Nat}
    (h : a % w5500TxBufferSize = b % w5500TxBufferSize) (data : List UInt8) :
    chip.storeTx a data = chip.storeTx b data := by
  unfold UdpChip.storeTx
  rw [Ring.storeAll_congr _ h]

theorem storeTx_cons (chip : UdpChip) (a : Nat) (value : UInt8) (rest : List UInt8) :
    (chip.storeTx a [value]).storeTx (a + 1) rest = chip.storeTx a (value :: rest) := rfl

/-- A data byte arrives in the TX buffer. -/
theorem socket_write_buffer (address : UInt16) (value : UInt8) :
    (c.write (n.block + 1) address value).socket n.block =
      (c.socket n.block).storeTx address.toNat [value] := by
  have hother := write_other c (buffer_ne n).symm address value
  have hplace : place (n.block + 1) address = address % 2048 := by cases n <;> rfl
  have hwritten : c.write (n.block + 1) address value =
      c.set (n.block + 1) (address % 2048) value := by
    have hblock : (n.block + 1) % 4 ≠ 1 := by cases n <;> decide
    unfold write
    rw [if_neg (fun h => hblock h.1), if_neg (fun h => hblock h.1), hplace]
  have hbuffer : (Vector.ofFn fun i : Fin w5500TxBufferSize =>
      (c.write (n.block + 1) address value).memory (n.block + 1) (UInt16.ofNat i)) =
      Ring.store (Vector.ofFn fun i : Fin w5500TxBufferSize =>
        c.memory (n.block + 1) (UInt16.ofNat i)) address.toNat value := by
    apply Vector.ext
    intro i hi
    have hi' : i < 2048 := hi
    have hcell : UInt16.ofNat i = address % 2048 ↔ address.toNat % 2048 = i := by
      have hsize : (2048 : UInt16).toNat = 2048 := rfl
      rw [← UInt16.toNat_inj, UInt16.toNat_ofNat', UInt16.toNat_mod, hsize]
      omega
    rw [hwritten, Ring.store, Vector.getElem_ofFn, Vector.getElem_set, Vector.getElem_ofFn]
    by_cases h : address.toNat % 2048 = i
    · rw [if_pos h, hcell.mpr h, set_memory_self]
    · rw [if_neg h, set_memory_ne _ _ (fun heq => h (hcell.mp heq))]
  unfold socket UdpChip.storeTx word
  rw [hother.1, hbuffer]
  rfl

/-- The data of a transfer to the TX buffer. -/
theorem socket_writeAll_buffer (address : UInt16) (data : List UInt8) :
    (c.writeAll (n.block + 1) address data).socket n.block =
      (c.socket n.block).storeTx address.toNat data := by
  induction data generalizing c address with
  | nil => rfl
  | cons value rest ih =>
    have hposition : (address + 1).toNat % w5500TxBufferSize =
        (address.toNat + 1) % w5500TxBufferSize := by
      have hone : (1 : UInt16).toNat = 1 := rfl
      have hsize : w5500TxBufferSize = 2048 := rfl
      rw [UInt16.toNat_add, hone, hsize]
      omega
    rw [writeAll, ih, socket_write_buffer, storeTx_congr _ hposition]
    exact storeTx_cons _ _ _ _

/-- A register that is none of the pointers. -/
theorem socket_set {address : UInt16}
    (h : address < SocketRegister.txRd ∨ SocketRegister.txWr + 1 < address) (value : UInt8) :
    (c.set n.block address value).socket n.block = c.socket n.block := by
  apply socket_congr
  · intro x hlow hhigh
    apply set_memory_ne
    rintro rfl
    rcases h with h | h
    · exact absurd hlow (UInt16.not_le.mpr h)
    · exact absurd hhigh (UInt16.not_le.mpr h)
  · exact Function.update_of_ne (buffer_ne n) _ _

/-- The high byte of one word and the low byte of another. -/
theorem readU16Be_high_low (hi lo hi' lo' : UInt8) :
    (readU16Be [hi, lo] &&& 0xFF00) ||| (readU16Be [hi', lo'] &&& 0xFF) = readU16Be [hi, lo'] := by
  apply UInt16.toBitVec_inj.mp
  apply BitVec.eq_of_getElem_eq
  intro i hi
  simp only [readU16Be, List.getD_cons_zero, List.getD_cons_succ, UInt16.toBitVec_or,
    UInt16.toBitVec_and, UInt16.toBitVec_shiftLeft, UInt8.toBitVec_toUInt16, BitVec.getElem_or,
    BitVec.getElem_and]
  interval_cases i <;> simp

/-- The bytes of Sn_TX_WR. -/
theorem socket_set_txWr (hi : UInt8) :
    (c.set n.block SocketRegister.txWr hi).socket n.block =
      { c.socket n.block with
        txWr := readU16Be [hi, c.memory n.block (SocketRegister.txWr + 1)] } := by
  have hbuffer : (c.set n.block SocketRegister.txWr hi).memory (n.block + 1) =
      c.memory (n.block + 1) := Function.update_of_ne (buffer_ne n) _ _
  unfold socket word
  rw [hbuffer, set_memory_self, set_memory_ne _ _ (by decide), set_memory_ne _ _ (by decide),
    set_memory_ne _ _ (by decide)]

theorem socket_set_txWr_low (lo : UInt8) :
    (c.set n.block (SocketRegister.txWr + 1) lo).socket n.block =
      { c.socket n.block with
        txWr := readU16Be [c.memory n.block SocketRegister.txWr, lo] } := by
  have hbuffer : (c.set n.block (SocketRegister.txWr + 1) lo).memory (n.block + 1) =
      c.memory (n.block + 1) := Function.update_of_ne (buffer_ne n) _ _
  unfold socket word
  rw [hbuffer, set_memory_self, set_memory_ne _ _ (by decide), set_memory_ne _ _ (by decide),
    set_memory_ne _ _ (by decide)]

/-- The data of a transfer to Sn_TX_WR, wherever it is cut. -/
theorem socket_writeAll_txWr (pointer : UInt16) (count : Nat) :
    (c.writeAll n.block SocketRegister.txWr ((writeU16Be pointer).take count)).socket n.block =
      (c.socket n.block).writeTxWr pointer count := by
  have hblock : n.block % 4 < 2 := by
    rw [block_registers]
    decide
  obtain ⟨hi, lo, hbytes⟩ : ∃ hi lo, writeU16Be pointer = [hi, lo] := ⟨_, _, rfl⟩
  have hpointer : pointer = readU16Be [hi, lo] := by
    rw [← hbytes]
    exact (readU16Be_writeU16Be pointer []).symm
  rw [hbytes]
  match count with
  | 0 => rfl
  | 1 =>
    show (c.write n.block SocketRegister.txWr hi).socket n.block = _
    rw [write_plain c hblock (by decide) (by decide), socket_set_txWr, UdpChip.writeTxWr, hpointer]
    unfold socket word
    dsimp only
    rw [readU16Be_high_low]
  | count + 2 =>
    rw [List.take_of_length_le (Nat.le_add_left 2 count)]
    show ((c.write n.block SocketRegister.txWr hi).write n.block (SocketRegister.txWr + 1)
      lo).socket n.block = _
    rw [write_plain c hblock (by decide) (by decide),
      write_plain _ hblock (by decide) (by decide), socket_set_txWr_low, set_memory_self,
      socket_set_txWr, UdpChip.writeTxWr, hpointer]

/-- A byte of Sn_IR. -/
theorem write_ir (value : UInt8) :
    c.write n.block SocketRegister.ir value =
      c.set n.block SocketRegister.ir (c.memory n.block SocketRegister.ir &&& ~~~value) := by
  unfold write
  rw [if_neg (fun h => absurd h.2 (by decide)), if_pos ⟨block_registers n, rfl⟩]

theorem write_cr (command : UInt8) :
    c.write n.block SocketRegister.cr command =
      if command = w5500SendCommand then
        (c.set n.block SocketRegister.cr command).send n.block
      else c.set n.block SocketRegister.cr command := by
  unfold write
  rw [if_pos ⟨block_registers n, rfl⟩]

/-- The SEND command arrives. -/
theorem socket_send :
    (c.send n.block).socket n.block = (c.socket n.block).sent ∧
      (c.send n.block).sent n.block = c.sent n.block ++ [(c.socket n.block).pending] := by
  refine ⟨?_, Function.update_self _ _ _⟩
  have hbuffer : (c.send n.block).memory (n.block + 1) = c.memory (n.block + 1) := by
    have hne := buffer_ne n
    simp only [send, set, Function.update_of_ne hne]
  have hrd : (c.send n.block).memory n.block SocketRegister.txRd =
      c.memory n.block SocketRegister.txWr := by
    rw [send, set_memory_ne _ _ (by decide), set_memory_self]
  have hrd' : (c.send n.block).memory n.block (SocketRegister.txRd + 1) =
      c.memory n.block (SocketRegister.txWr + 1) := by
    rw [send, set_memory_self]
  have hwr : (c.send n.block).memory n.block SocketRegister.txWr =
      c.memory n.block SocketRegister.txWr := by
    rw [send, set_memory_ne _ _ (by decide), set_memory_ne _ _ (by decide)]
  have hwr' : (c.send n.block).memory n.block (SocketRegister.txWr + 1) =
      c.memory n.block (SocketRegister.txWr + 1) := by
    rw [send, set_memory_ne _ _ (by decide), set_memory_ne _ _ (by decide)]
  unfold socket word
  rw [hbuffer, hrd, hrd', hwr, hwr']
  rfl

end Socket

end W5500

end Rs422Gateway
