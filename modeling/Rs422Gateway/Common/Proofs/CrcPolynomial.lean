import Rs422Gateway.Common.Proofs.Codec
import Rs422Gateway.Misc.CyclicCode

/-!
# The CRC as a remainder

The bit loop of `crc16_ccitt_false` is a shift register with the generator
`x^16 + x^12 + x^5 + 1` (`docs/protocol_v1.md` section 8.1), so that the CRC is a remainder modulo
it.
-/

namespace Rs422Gateway

open Polynomial CyclicCode

/-- `0x1021`: the generator below its leading term. -/
def crc16Taps : BitVec 16 := 0x1021#16

/-- The bits of a byte string in the order of their transmission. -/
def transmitted (bytes : List UInt8) : List Bool := bytes.flatMap fun byte => bits byte.toBitVec

@[simp] theorem transmitted_length (bytes : List UInt8) :
    (transmitted bytes).length = 8 * bytes.length := by
  rw [transmitted, List.length_flatMap]
  simp [Nat.mul_comm]

theorem transmitted_append (xs ys : List UInt8) :
    transmitted (xs ++ ys) = transmitted xs ++ transmitted ys := List.flatMap_append

/-- A byte string is determined by its bits. -/
theorem transmitted_inj {xs ys : List UInt8} (h : transmitted xs = transmitted ys) : xs = ys := by
  induction xs generalizing ys with
  | nil =>
    cases ys with
    | nil => rfl
    | cons y ys =>
      have hlength := congrArg List.length h
      simp at hlength
  | cons x xs ih =>
    cases ys with
    | nil =>
      have hlength := congrArg List.length h
      simp at hlength
    | cons y ys =>
      have hsplit : bits x.toBitVec ++ transmitted xs = bits y.toBitVec ++ transmitted ys := h
      obtain ⟨hbyte, hrest⟩ := List.append_inj hsplit (by simp)
      have hxy : x = y := UInt8.toBitVec_inj.mp (poly_bits_inj (congrArg poly hbyte))
      rw [hxy, ih hrest]

theorem transmitted_writeU16Be (value : UInt16) :
    transmitted (writeU16Be value) = bits value.toBitVec := by
  simp [transmitted, writeU16Be, bits, List.range, List.range.loop]

/-! ## The register of the C code -/

theorem crc16Bit_toBitVec (crc : UInt16) :
    (crc16Bit crc).toBitVec = shift crc16Taps crc.toBitVec := by
  have htop : (crc &&& 0x8000).toBitVec =
      if crc.toBitVec.getLsbD 15 then BitVec.twoPow 16 15 else 0#16 := by
    rw [← BitVec.and_twoPow]
    rfl
  have hmsb : crc.toBitVec.msb = crc.toBitVec.getLsbD 15 := BitVec.msb_eq_getLsbD_last _
  have htest : (crc &&& 0x8000 != 0) = crc.toBitVec.msb := by
    rw [hmsb]
    cases hbit : crc.toBitVec.getLsbD 15 with
    | true =>
      rw [hbit, if_pos rfl] at htop
      have hne : crc &&& 0x8000 ≠ 0 := fun h => by
        rw [h] at htop
        exact absurd htop (by decide)
      exact bne_iff_ne.mpr hne
    | false =>
      rw [hbit, if_neg (by decide)] at htop
      have heq : crc &&& 0x8000 = 0 := UInt16.toBitVec_inj.mp htop
      rw [heq]
      rfl
  unfold crc16Bit shift
  rw [htest]
  cases crc.toBitVec.msb with
  | true => rfl
  | false => rfl

theorem crc16Bit_iterate_toBitVec (n : Nat) (crc : UInt16) :
    (crc16Bit^[n] crc).toBitVec = (shift crc16Taps)^[n] crc.toBitVec := by
  induction n generalizing crc with
  | zero => rfl
  | succ n ih =>
    rw [Function.iterate_succ_apply, ih, crc16Bit_toBitVec, Function.iterate_succ_apply]

theorem crc16Byte_toBitVec (crc : UInt16) (byte : UInt8) :
    (crc16Byte crc byte).toBitVec = feed crc16Taps crc.toBitVec byte.toBitVec :=
  crc16Bit_iterate_toBitVec 8 _

theorem foldl_crc16Byte_toBitVec (crc : UInt16) (data : List UInt8) :
    (data.foldl crc16Byte crc).toBitVec =
      (data.map UInt8.toBitVec).foldl (feed crc16Taps) crc.toBitVec := by
  induction data generalizing crc with
  | nil => rfl
  | cons byte data ih => rw [List.foldl_cons, ih, crc16Byte_toBitVec]; rfl

/-! ## Remainders -/

theorem generator_crc16Taps : generator crc16Taps = X ^ 16 + X ^ 12 + X ^ 5 + 1 := by
  have hbits : bits crc16Taps = [false, false, false, true, false, false, false, false,
      false, false, true, false, false, false, false, true] := by decide
  rw [generator, hbits]
  simp [poly]
  ring

theorem mk_foldl_crc16Byte (crc : UInt16) (data : List UInt8) :
    AdjoinRoot.mk (generator crc16Taps) (poly (bits (data.foldl crc16Byte crc).toBitVec)) =
      AdjoinRoot.mk (generator crc16Taps)
        (poly (transmitted data) * X ^ 16 + poly (bits crc.toBitVec) * X ^ (8 * data.length)) := by
  have hbits : (data.map UInt8.toBitVec).flatMap bits = transmitted data :=
    List.flatMap_map _ _ _
  rw [foldl_crc16Byte_toBitVec, mk_foldl_feed (by decide) (by decide), hbits, List.length_map]

/-- The CRC behind the data takes the register to zero. -/
theorem crc16CcittFalse_append_crc (data : List UInt8) :
    crc16CcittFalse (data ++ writeU16Be (crc16CcittFalse data)) = 0 := by
  have hfold : crc16CcittFalse (data ++ writeU16Be (crc16CcittFalse data)) =
      (writeU16Be (crc16CcittFalse data)).foldl crc16Byte (crc16CcittFalse data) :=
    List.foldl_append
  have hmk := mk_foldl_crc16Byte (crc16CcittFalse data) (writeU16Be (crc16CcittFalse data))
  rw [transmitted_writeU16Be, writeU16Be_length, CharTwo.add_self_eq_zero] at hmk
  have hzero : poly (bits (0#16)) = 0 := (poly_eq_zero_iff _).mpr (by decide)
  have hpoly := eq_modByMonic hmk
  rw [zero_modByMonic, ← hzero] at hpoly
  rw [hfold]
  exact UInt16.toBitVec_inj.mp (poly_bits_inj hpoly)

/-- `crc16_ccitt_false` of a byte string, read as a polynomial `d` with the most significant bit
    first, is the remainder of `d * x^16 + 0xFFFF * x^(8 n)` modulo `x^16 + x^12 + x^5 + 1`; and
    the CRC of the string with its CRC behind it is 0. -/
theorem crc16CcittFalse_remainder (data : List UInt8) :
    poly (bits (crc16CcittFalse data).toBitVec) =
        (poly (transmitted data) * X ^ 16 +
            poly (bits (0xFFFF : UInt16).toBitVec) * X ^ (8 * data.length)) %ₘ
          (X ^ 16 + X ^ 12 + X ^ 5 + 1) ∧
      crc16CcittFalse (data ++ writeU16Be (crc16CcittFalse data)) = 0 := by
  refine ⟨?_, crc16CcittFalse_append_crc data⟩
  rw [← generator_crc16Taps]
  exact eq_modByMonic (mk_foldl_crc16Byte 0xFFFF data)

end Rs422Gateway
