import Rs422Gateway.Gateway.RxRing

/-!
# The RX ring is a bounded queue

The 16-bit indices wrap every 65536 bytes, which is a whole number of rounds of the ring, so a
masked index is the position of the byte in the stream. Whatever the order of pushes and accesses of
a pop, the ring holds the bytes stored and not yet popped, at most 512 of them.
-/

namespace Rs422Gateway

open Transition

namespace RxRing

variable {r : RxRing}

/-- The number of bytes in the ring. -/
def count (r : RxRing) : Nat := (r.head - r.tail).toNat

theorem slot_eq (i : UInt16) : slot i = i.toNat % 512 := by
  have hmask : rs422RxRingMask.toNat = 2 ^ 9 - 1 := rfl
  rw [slot, UInt16.toNat_and, hmask, Nat.and_two_pow_sub_one_eq_mod]

theorem slot_mod (i : UInt16) : slot i % 512 = i.toNat % 512 := by
  rw [slot_eq, Nat.mod_mod]

theorem full_iff : r.full = true ↔ 512 ≤ r.count := by
  rw [full, decide_eq_true_iff, UInt16.le_iff_toNat_le]
  rfl

/-- The head is `count` positions behind the tail. -/
theorem head_position (r : RxRing) : slot r.head % 512 = (r.tail.toNat + r.count) % 512 := by
  have hhead := r.head.toNat_lt
  have htail := r.tail.toNat_lt
  rw [slot_mod, count, UInt16.toNat_sub]
  omega

theorem count_push (h : r.full = false) : (r.head + 1 - r.tail).toNat = r.count + 1 := by
  have hlt : ¬ 512 ≤ r.count := by
    rw [← full_iff, h]
    exact Bool.false_ne_true
  have hhead := r.head.toNat_lt
  have htail := r.tail.toNat_lt
  rw [count, UInt16.toNat_sub] at hlt
  rw [count, UInt16.toNat_sub, UInt16.toNat_sub, UInt16.toNat_add, UInt16.toNat_one]
  omega

theorem count_pop (h : r.tail ≠ r.head) : (r.head - (r.tail + 1)).toNat + 1 = r.count := by
  have hne : r.tail.toNat ≠ r.head.toNat := fun heq => h (UInt16.toNat_inj.mp heq)
  have hhead := r.head.toNat_lt
  have htail := r.tail.toNat_lt
  rw [count, UInt16.toNat_sub, UInt16.toNat_sub, UInt16.toNat_add, UInt16.toNat_one]
  omega

theorem tail_ne_head (h : r.count ≠ 0) : r.tail ≠ r.head := by
  intro heq
  apply h
  rw [count, heq, UInt16.sub_self]
  rfl

/-- The bytes in the ring. -/
def bytes (r : RxRing) : List UInt8 := Ring.contents r.storage r.tail.toNat r.count

/-- A push that is not refused appends its byte. -/
theorem bytes_push (h : r.full = false) (byte : UInt8) :
    (r.pushFromIsr byte).bytes = r.bytes ++ [byte] := by
  have hlt : r.count < 512 := by
    rw [← Nat.not_le, ← full_iff, h]
    exact Bool.false_ne_true
  have hstore : Ring.store r.storage (slot r.head) byte =
      Ring.store r.storage (r.tail.toNat + r.count) byte := by
    unfold Ring.store
    congr 1
    exact r.head_position
  rw [pushFromIsr, h, bytes]
  show Ring.contents (Ring.store r.storage (slot r.head) byte) r.tail.toNat
    (r.head + 1 - r.tail).toNat = _
  rw [count_push h, hstore, Ring.contents_push _ _ _ hlt]
  rfl

/-- The oldest byte is the one at the tail. -/
theorem bytes_pop (h : r.tail ≠ r.head) :
    r.bytes = Ring.cell r.storage (slot r.tail) :: bytes { r with tail := r.tail + 1 } := by
  have hposition : (r.tail + 1).toNat % 512 = (r.tail.toNat + 1) % 512 := by
    have htail := r.tail.toNat_lt
    rw [UInt16.toNat_add, UInt16.toNat_one]
    omega
  have hcell : Ring.cell r.storage (slot r.tail) = Ring.cell r.storage r.tail.toNat :=
    Ring.cell_congr _ (slot_mod r.tail)
  have hrest : bytes { r with tail := r.tail + 1 } =
      Ring.contents r.storage (r.tail.toNat + 1) (r.head - (r.tail + 1)).toNat :=
    Ring.contents_congr _ hposition _
  rw [bytes, ← count_pop h, hcell, hrest]
  rfl

/-- While the ring holds a byte, a push leaves the slot of the tail as it is. -/
theorem push_slot (h : r.tail ≠ r.head) (byte : UInt8) :
    Ring.cell (r.pushFromIsr byte).storage (slot r.tail) = Ring.cell r.storage (slot r.tail) := by
  unfold pushFromIsr
  cases hfull : r.full with
  | true => rfl
  | false =>
    have hlt : r.count < 512 := by
      rw [← Nat.not_le, ← full_iff, hfull]
      exact Bool.false_ne_true
    have hpos : 0 < r.count := by
      have hpop := count_pop h
      omega
    have hne : slot r.head % 512 ≠ slot r.tail % 512 := by
      rw [r.head_position, slot_mod]
      exact Ring.mod_ne_of_lt hpos hlt
    exact Ring.cell_store_ne r.storage byte hne

end RxRing

/-- The ring refines a queue of at most 512 bytes. -/
structure RxRingState.Fifo (s : RxRingState) : Prop where
  bounded : s.ring.count ≤ 512
  bytes : s.popped ++ s.stored = s.accepted
  overflow : s.ring.overflowCount = UInt32.ofNat s.refused
  tail : s.pop.pc ≠ .readTail → s.pop.tail = s.ring.tail
  reading : s.Reading → s.ring.tail ≠ s.ring.head
  byte : s.pop.pc = .writeTail → s.pop.byte = Ring.cell s.ring.storage (RxRing.slot s.ring.tail)

namespace RxRingState.Fifo

variable {s : RxRingState}

theorem initial : RxRingState.initial.Fifo where
  bounded := Nat.zero_le _
  bytes := rfl
  overflow := rfl
  tail := fun h => absurd rfl h
  reading := by rintro (h | h) <;> cases h
  byte := nofun

/-- A push. -/
theorem push (h : s.Fifo) (byte : UInt8) :
    Fifo
      { s with
        ring := s.ring.pushFromIsr byte
        pushes := s.pushes ++ [(byte, !s.ring.full)] } := by
  cases hfull : s.ring.full with
  | true =>
    have hpush : s.ring.pushFromIsr byte =
        { s.ring with overflowCount := s.ring.overflowCount + 1 } := by
      rw [RxRing.pushFromIsr, hfull]
      rfl
    rw [hpush]
    refine { h with bytes := ?_, overflow := ?_ }
    · have hbytes := h.bytes
      rw [accepted] at hbytes
      rw [accepted, List.filter_append, List.map_append]
      exact hbytes.trans (List.append_nil _).symm
    · show s.ring.overflowCount + 1 = _
      rw [refused, List.filter_append, List.length_append, h.overflow, refused]
      exact (UInt32.ofNat_add _ _).symm
  | false =>
    have hpush : s.ring.pushFromIsr byte =
        { s.ring with
          storage := Ring.store s.ring.storage (RxRing.slot s.ring.head) byte
          head := s.ring.head + 1 } := by
      rw [RxRing.pushFromIsr, hfull]
      rfl
    have hcount : (s.ring.pushFromIsr byte).count = s.ring.count + 1 := by
      rw [hpush]
      exact RxRing.count_push hfull
    have htail : (s.ring.pushFromIsr byte).tail = s.ring.tail := by rw [hpush]
    have hlt : ¬ 512 ≤ s.ring.count := by
      rw [← RxRing.full_iff, hfull]
      exact Bool.false_ne_true
    refine ⟨?_, ?_, ?_, ?_, ?_, ?_⟩
    · rw [hcount]
      omega
    · have hstored : RxRing.bytes (s.ring.pushFromIsr byte) = s.stored ++ [byte] :=
        RxRing.bytes_push hfull byte
      show s.popped ++ RxRing.bytes (s.ring.pushFromIsr byte) = _
      rw [hstored, ← List.append_assoc, h.bytes, accepted, accepted, List.filter_append,
        List.map_append]
      rfl
    · rw [hpush, refused, List.filter_append, List.length_append]
      exact h.overflow
    · intro hpc
      rw [htail]
      exact h.tail hpc
    · intro hreading
      apply RxRing.tail_ne_head
      rw [hcount]
      exact Nat.succ_ne_zero _
    · intro hpc
      show s.pop.byte = Ring.cell (s.ring.pushFromIsr byte).storage
        (RxRing.slot (s.ring.pushFromIsr byte).tail)
      rw [htail, RxRing.push_slot (h.reading (.inr hpc)) byte]
      exact h.byte hpc

/-- An access of `rs422_rx_ring_pop`. -/
theorem popStep (h : s.Fifo) : s.popStep.Fifo := by
  unfold RxRingState.popStep
  cases hpc : s.pop.pc with
  | readTail =>
    exact
      { h with
        tail := fun _ => rfl
        reading := by rintro (h | h) <;> cases h
        byte := nofun }
  | compareHead =>
    have htail : s.pop.tail = s.ring.tail := h.tail (by rw [hpc]; nofun)
    simp only
    split
    case isTrue =>
      exact
        { h with
          tail := fun hne => absurd rfl hne
          reading := by rintro (h | h) <;> cases h
          byte := nofun }
    case isFalse hne =>
      rw [htail] at hne
      exact { h with tail := fun _ => htail, reading := fun _ => hne, byte := nofun }
  | readSlot =>
    have htail : s.pop.tail = s.ring.tail := h.tail (by rw [hpc]; nofun)
    refine { h with tail := fun _ => htail, reading := fun _ => h.reading (.inl hpc), byte := ?_ }
    intro
    show Ring.cell s.ring.storage (RxRing.slot s.pop.tail) = _
    rw [htail]
  | writeTail =>
    have htail : s.pop.tail = s.ring.tail := h.tail (by rw [hpc]; nofun)
    have hne := h.reading (.inr hpc)
    have hcount := RxRing.count_pop hne
    rw [htail]
    refine
      { h with
        bounded := ?_
        bytes := ?_
        tail := fun hpc' => absurd rfl hpc'
        reading := by rintro (h | h) <;> cases h
        byte := nofun }
    · have hbounded := h.bounded
      rw [← hcount] at hbounded
      exact Nat.le_of_succ_le hbounded
    · have hbytes := h.bytes
      have hpop :
          s.stored = s.pop.byte :: RxRing.bytes { s.ring with tail := s.ring.tail + 1 } := by
        rw [h.byte hpc]
        exact RxRing.bytes_pop hne
      rw [hpop, List.append_cons] at hbytes
      exact hbytes

theorem step {s' : RxRingState} {a : RxRingAction} (h : s.Fifo) (taken : s.step a = some s') :
    s'.Fifo := by
  cases a with
  | push byte =>
    cases taken
    exact h.push byte
  | pop =>
    cases taken
    exact h.popStep

theorem reachable (run : Reachable RxRingState.step unguarded RxRingState.initial s) : s.Fifo :=
  run.invariant initial fun _ _ _ h _ taken => h.step taken

end RxRingState.Fifo

/-- The RX ring of the gateway is a queue of at most 512 bytes: the bytes popped and those in the
    ring are the pushed bytes in order without those that were refused, which the overflow counter
    counts. A push is refused exactly when 512 bytes are stored, and no push writes the slot that a
    pop has decided to read. -/
theorem rxRing_refinesFifo {s : RxRingState}
    (run : Reachable RxRingState.step unguarded RxRingState.initial s) :
    (s.ring.head - s.ring.tail).toNat ≤ 512 ∧ s.popped ++ s.stored = s.accepted ∧
      s.ring.overflowCount = UInt32.ofNat s.refused ∧
      ∀ byte s', s.step (.push byte) = some s' →
        s'.pushes = s.pushes ++ [(byte, decide (s.stored.length ≠ 512))] ∧
          (s.Reading → Ring.cell s'.ring.storage (RxRing.slot s.pop.tail) =
            Ring.cell s.ring.storage (RxRing.slot s.pop.tail)) := by
  have h := RxRingState.Fifo.reachable run
  refine ⟨h.bounded, h.bytes, h.overflow, ?_⟩
  intro byte s' taken
  cases taken
  constructor
  · have hlength : s.stored.length = s.ring.count := Ring.contents_length _ _ _
    have hfull : (!s.ring.full) = decide (s.stored.length ≠ 512) := by
      have hbounded := h.bounded
      rw [hlength, Bool.eq_iff_iff, Bool.not_eq_true', Bool.eq_false_iff, ne_eq, RxRing.full_iff,
        decide_eq_true_iff]
      omega
    rw [hfull]
  · intro hreading
    have htail : s.pop.tail = s.ring.tail := by
      apply h.tail
      rcases hreading with hpc | hpc
      · rw [hpc]
        nofun
      · rw [hpc]
        nofun
    rw [htail]
    exact RxRing.push_slot (h.reading hreading) byte

/-- Two bytes arrive, RS422Task takes the first one, and a third arrives while it takes the next. -/
theorem rxRing_refinesFifo_reading :
    ∃ s, Reachable RxRingState.step unguarded RxRingState.initial s ∧ s.popped = [0x11] ∧
      s.pop.pc = .writeTail ∧ s.popped ++ s.stored = [0x11, 0x22, 0x33] := by
  obtain ⟨s, run, htest⟩ := exists_reachable RxRingState.step unguarded RxRingState.initial
    (List.flatten [[.push 0x11, .push 0x22], List.replicate 7 .pop, [.push 0x33]])
    (fun s => decide (s.popped = [0x11] ∧ s.pop.pc = .writeTail ∧ s.accepted = [0x11, 0x22, 0x33]))
    (by decide +kernel)
  obtain ⟨hpopped, hpc, haccepted⟩ := of_decide_eq_true htest
  exact ⟨s, run, hpopped, hpc, (rxRing_refinesFifo run).2.1.trans haccepted⟩

end Rs422Gateway
