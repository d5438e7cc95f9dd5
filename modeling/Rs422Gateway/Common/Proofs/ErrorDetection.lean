import Rs422Gateway.Common.Proofs.CrcPolynomial

/-!
# Error detection

Two frames of one length begin with the same MAGIC, and behind it their bits differ by a multiple
of the generator. So a corruption that keeps the length is rejected when it is a burst of at most
16 bits, when it has an odd number of wrong bits, and when it has at most three of them.
-/

namespace Rs422Gateway

open Polynomial CyclicCode

/-- The positions at which the bits of two byte strings differ. -/
def errorPattern (b b' : List UInt8) : List Bool :=
  List.zipWith xor (transmitted b) (transmitted b')

/-- The number of bit positions in which two byte strings differ. -/
def bitDistance (b b' : List UInt8) : Nat := (errorPattern b b').count true

theorem errorPattern_length {b b' : List UInt8} (h : b.length = b'.length) :
    (errorPattern b b').length = 8 * b.length := by
  rw [errorPattern, List.length_zipWith, transmitted_length, transmitted_length, h, Nat.min_self]

theorem poly_errorPattern {b b' : List UInt8} (h : b.length = b'.length) :
    poly (errorPattern b b') = poly (transmitted b) + poly (transmitted b') :=
  poly_xor (by rw [transmitted_length, transmitted_length, h])

theorem mem_zipWith_xor {xs ys : List Bool} (h : xs.length = ys.length) (hne : xs ≠ ys) :
    true ∈ List.zipWith xor xs ys := by
  induction xs generalizing ys with
  | nil => exact absurd (List.eq_nil_of_length_eq_zero h.symm).symm hne
  | cons x xs ih =>
    obtain ⟨y, ys, rfl⟩ : ∃ y ys', ys = y :: ys' :=
      List.exists_cons_of_length_eq_add_one h.symm
    by_cases hxy : x = y
    · subst hxy
      exact List.mem_cons_of_mem _ (ih (Nat.succ.inj h) fun heq => hne (by rw [heq]))
    · have hxor : (x ^^ y) = true := by
        cases x <;> cases y <;> first | rfl | exact absurd rfl hxy
      rw [List.zipWith_cons_cons, hxor]
      exact List.mem_cons_self

/-- Different strings differ in a bit. -/
theorem mem_errorPattern {b b' : List UInt8} (h : b.length = b'.length) (hne : b ≠ b') :
    true ∈ errorPattern b b' :=
  mem_zipWith_xor (by rw [transmitted_length, transmitted_length, h])
    fun heq => hne (transmitted_inj heq)

/-- Behind MAGIC a frame takes the register to zero. -/
theorem crc16CcittFalse_covered (m : Message) :
    crc16CcittFalse (m.covered ++ writeU16Be m.crc) = 0 := crc16CcittFalse_append_crc m.covered

/-- Two strings of one length that take the register to zero differ by a multiple of the
    generator. -/
theorem generator_dvd_of_crc {c c' : List UInt8} (h : c.length = c'.length)
    (hc : crc16CcittFalse c = 0) (hc' : crc16CcittFalse c' = 0) :
    generator crc16Taps ∣ poly (transmitted c) + poly (transmitted c') := by
  have hmk := mk_foldl_crc16Byte 0xFFFF c
  have hmk' := mk_foldl_crc16Byte 0xFFFF c'
  rw [← crc16CcittFalse, hc] at hmk
  rw [← crc16CcittFalse, hc', ← h] at hmk'
  have hdvd := AdjoinRoot.mk_eq_mk.mp (hmk.symm.trans hmk')
  rw [add_sub_add_right_eq_sub, CharTwo.sub_eq_add, ← add_mul] at hdvd
  exact dvd_of_dvd_mul_X_pow (by decide) (by decide) hdvd

/-- The bits in which two accepted strings of one length differ form a multiple of the
    generator. -/
theorem generator_dvd_errorPattern {b b' : List UInt8} {q q' : ProtocolPacket}
    (accepted : (protocolDecode b q).result = .ok) (accepted' : (protocolDecode b' q').result = .ok)
    (h : b.length = b'.length) : generator crc16Taps ∣ poly (errorPattern b b') := by
  obtain ⟨m, rfl⟩ := (protocolDecode_ok_iff b q).mp accepted
  obtain ⟨m', rfl⟩ := (protocolDecode_ok_iff b' q').mp accepted'
  have hlength : (m.covered ++ writeU16Be m.crc).length =
      (m'.covered ++ writeU16Be m'.crc).length := by
    rw [Message.wire_length, Message.wire_length] at h
    rw [List.length_append, List.length_append, Message.covered_length, Message.covered_length,
      writeU16Be_length, writeU16Be_length]
    omega
  have hsum : poly (errorPattern m.wire m'.wire) =
      poly (transmitted (m.covered ++ writeU16Be m.crc)) +
        poly (transmitted (m'.covered ++ writeU16Be m'.crc)) := by
    rw [poly_errorPattern h, Message.wire, Message.wire, Message.framed, Message.framed,
      transmitted_append (writeU16Be protocolMagic), transmitted_append (writeU16Be protocolMagic),
      poly_append, poly_append, transmitted_length, transmitted_length, hlength,
      add_add_add_comm, CharTwo.add_self_eq_zero, zero_add]
  rw [hsum]
  exact generator_dvd_of_crc hlength (crc16CcittFalse_covered m) (crc16CcittFalse_covered m')

/-- A frame whose wrong bits all lie within 16 consecutive bits is rejected. -/
theorem protocolDecode_detectsBurst (b b' : List UInt8) (q q' : ProtocolPacket) (k : Nat)
    (accepted : (protocolDecode b q).result = .ok) (hlength : b.length = b'.length)
    (hne : b ≠ b')
    (burst : ∀ i, (errorPattern b b')[i]? = some true → k ≤ i ∧ i < k + 16) :
    (protocolDecode b' q').result ≠ .ok := by
  intro accepted'
  have hdvd := generator_dvd_errorPattern accepted accepted' hlength
  exact not_mem_of_dvd_burst (by decide) (by decide) burst hdvd (mem_errorPattern hlength hne)

/-- The frame of the PING with SEQ 7. -/
def pingFrame : List UInt8 := [0xAA, 0x55, 0x01, 0x01, 0x00, 0x07, 0x00, 0x00, 0x64, 0x71]

/-- A burst over the end of LENGTH and the beginning of the CRC. -/
def burstFrame : List UInt8 := [0xAA, 0x55, 0x01, 0x01, 0x00, 0x07, 0x00, 0x0F, 0xE4, 0x71]

theorem protocolDecode_detectsBurst_crc : (protocolDecode burstFrame .zero).result ≠ .ok := by
  refine protocolDecode_detectsBurst pingFrame burstFrame .zero .zero 60 (by decide +kernel) rfl
    (by decide) ?_
  intro i hi
  have hlength : (errorPattern pingFrame burstFrame).length = 80 := errorPattern_length rfl
  obtain ⟨hlt, -⟩ := List.getElem?_eq_some_iff.mp hi
  have hall : ∀ i < 80, (errorPattern pingFrame burstFrame)[i]? = some true → 60 ≤ i ∧ i < 76 := by
    decide +kernel
  exact hall i (hlength ▸ hlt) hi

/-! ## Single bits -/

theorem generator_root : (generator crc16Taps).eval 1 = 0 := by
  rw [generator_crc16Taps]
  simp only [eval_add, eval_pow, eval_X, eval_one, one_pow]
  decide

/-- The register does not come back to 1 within the bits of the longest frame. -/
theorem crc16Taps_avoids : avoids crc16Taps 1 2128 (shift crc16Taps 1) = true := by
  decide +kernel

theorem protocolDecode_length_le {b : List UInt8} {q : ProtocolPacket}
    (accepted : (protocolDecode b q).result = .ok) : b.length ≤ 266 := by
  obtain ⟨m, rfl⟩ := (protocolDecode_ok_iff b q).mp accepted
  have hbounded := m.bounded
  rw [Message.wire_length]
  omega

/-- Two different frames of one length differ in an even number of bits, at least four. -/
theorem frame_distance {b b' : List UInt8} {q q' : ProtocolPacket}
    (accepted : (protocolDecode b q).result = .ok) (accepted' : (protocolDecode b' q').result = .ok)
    (hlength : b.length = b'.length) (hne : b ≠ b') :
    Even (bitDistance b b') ∧ 4 ≤ bitDistance b b' := by
  have hdvd := generator_dvd_errorPattern accepted accepted' hlength
  have hshort := protocolDecode_length_le accepted
  refine ⟨even_count_of_dvd generator_root hdvd, ?_⟩
  refine four_le_count (by decide) (by decide) generator_root ?_ hdvd (mem_errorPattern hlength hne)
  intro d hpos hd
  rw [errorPattern_length hlength] at hd
  exact not_dvd_of_avoids (by decide) crc16Taps_avoids hpos (by omega)

/-- Different strings of one length that `protocol_decode` accepts differ in an even number of
    bits, at least four. So a frame with one, two, three or any odd number of wrong bits is
    rejected. -/
theorem protocolDecode_distance :
    (∀ (b b' : List UInt8) (q q' : ProtocolPacket), (protocolDecode b q).result = .ok →
      (protocolDecode b' q').result = .ok → b.length = b'.length → b ≠ b' →
        Even (bitDistance b b') ∧ 4 ≤ bitDistance b b') ∧
    ∀ (b b' : List UInt8) (q q' : ProtocolPacket), (protocolDecode b q).result = .ok →
      b.length = b'.length →
      (bitDistance b b' = 1 ∨ bitDistance b b' = 2 ∨ bitDistance b b' = 3 ∨
        Odd (bitDistance b b')) →
        (protocolDecode b' q').result ≠ .ok := by
  refine ⟨fun b b' q q' accepted accepted' hlength hne =>
    frame_distance accepted accepted' hlength hne, ?_⟩
  intro b b' q q' accepted hlength hcount accepted'
  have hne : b ≠ b' := by
    rintro rfl
    have hzero : bitDistance b b = 0 := by
      simp [bitDistance, errorPattern, List.count_eq_zero]
    rw [hzero] at hcount
    simp at hcount
  obtain ⟨heven, hfour⟩ := frame_distance accepted accepted' hlength hne
  rcases hcount with h | h | h | hodd
  · omega
  · omega
  · omega
  · exact Nat.not_even_iff_odd.mpr hodd heven

/-- The frame of the PING with SEQ 8. -/
def nextPingFrame : List UInt8 := [0xAA, 0x55, 0x01, 0x01, 0x00, 0x08, 0x00, 0x00, 0x48, 0x40]

/-- The frame of the PING with SEQ 7 with three wrong bits. -/
def threeBitFrame : List UInt8 := [0xAA, 0x55, 0x01, 0x01, 0x80, 0x06, 0x00, 0x00, 0x64, 0x31]

theorem protocolDecode_distance_ping :
    4 ≤ bitDistance pingFrame nextPingFrame ∧
      (protocolDecode threeBitFrame .zero).result ≠ .ok := by
  constructor
  · exact (protocolDecode_distance.1 pingFrame nextPingFrame .zero .zero (by decide +kernel)
      (by decide +kernel) rfl (by decide)).2
  · exact protocolDecode_distance.2 pingFrame threeBitFrame .zero .zero (by decide +kernel) rfl
      (by decide +kernel)

end Rs422Gateway
