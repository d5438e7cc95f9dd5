import Rs422Gateway.Common.StreamParser
import Rs422Gateway.Common.Proofs.Codec

/-!
# The frame scanner

An abstract account of the stream parser: all it knows between two bytes is the list of bytes it
holds, the beginning of a frame that has not ended yet. `scan` says what one more byte does to
that list and what is reported. The parser of `common/stream_parser.c` refines it
(`Proofs/ScannerRefinement.lean`), so that statements about streams are proved here, over lists,
without its indices and counters.
-/

namespace Rs422Gateway

/-- What a scanner reports for one byte. -/
inductive Report where
  | none
  | frame (m : Message)
  | error (e : ProtocolResult)

namespace Scanner

/-- The LENGTH field of a held header. -/
def lengthField (held : List UInt8) : Nat :=
  (readU16Be (held.drop offsetLength)).toNat

/-- The end of a rejected header that can begin the next frame. -/
def tail (held : List UInt8) : List UInt8 :=
  if [magicHi, magicLo] <:+ held then [magicHi, magicLo]
  else if [magicHi] <:+ held then [magicHi]
  else []

/-- One byte: the bytes held afterwards and the report. -/
def scan (held : List UInt8) (byte : UInt8) : List UInt8 × Report :=
  match held with
  | [] => (if byte = magicHi then [magicHi] else [], .none)
  | [_] =>
      (if byte = magicLo then [magicHi, magicLo]
        else if byte = magicHi then [magicHi]
        else [], .none)
  | _ :: _ :: _ =>
      let candidate := held ++ [byte]
      if candidate.length < 8 then (candidate, .none)
      else if candidate.length = 8 then
        if candidate.getD offsetVersion 0 ≠ protocolVersion then
          (tail candidate, .error .errVersion)
        else if 256 < lengthField candidate then (tail candidate, .error .errLength)
        else (candidate, .none)
      else if candidate.length < lengthField candidate + 10 then (candidate, .none)
      else
        let out := protocolDecode candidate .zero
        if out.result = .ok then ([], .frame out.packet.message) else ([], .error out.result)

/-- The number of bytes of noise that one byte shows to be noise. -/
def discards (held : List UInt8) (byte : UInt8) : Nat :=
  match held with
  | [] => if byte = magicHi then 0 else 1
  | [_] => if byte = magicLo then 0 else if byte = magicHi then 1 else 2
  | _ :: _ :: _ => 0

/-- The bytes held after a stream. -/
def scanAll (held bytes : List UInt8) : List UInt8 :=
  bytes.foldl (fun held byte => (scan held byte).1) held

/-- The reports for a stream, byte by byte. -/
def reports (held : List UInt8) : List UInt8 → List Report
  | [] => []
  | byte :: rest => (scan held byte).2 :: reports (scan held byte).1 rest

/-- The number of bytes a stream shows to be noise. -/
def discardsAll (held : List UInt8) : List UInt8 → Nat
  | [] => 0
  | byte :: rest => discards held byte + discardsAll (scan held byte).1 rest

/-- The lists a scanner can hold: nothing, half a MAGIC, or a MAGIC with fewer than eight header
    bytes, or with a good header and less than its whole frame. -/
inductive Candidate : List UInt8 → Prop
  | empty : Candidate []
  | half : Candidate [magicHi]
  | header (held : List UInt8) (magic : [magicHi, magicLo] <+: held) (short : held.length < 8) :
      Candidate held
  | frame (held : List UInt8) (magic : [magicHi, magicLo] <+: held) (long : 8 ≤ held.length)
      (version : held.getD offsetVersion 0 = protocolVersion)
      (bound : lengthField held ≤ 256) (short : held.length < lengthField held + 10) :
      Candidate held

/-! ## Streams -/

theorem scanAll_append (held xs ys : List UInt8) :
    scanAll held (xs ++ ys) = scanAll (scanAll held xs) ys :=
  List.foldl_append

theorem reports_append (held xs ys : List UInt8) :
    reports held (xs ++ ys) = reports held xs ++ reports (scanAll held xs) ys := by
  induction xs generalizing held with
  | nil => rfl
  | cons x xs ih => exact congrArg (_ :: ·) (ih _)

theorem discardsAll_append (held xs ys : List UInt8) :
    discardsAll held (xs ++ ys) = discardsAll held xs + discardsAll (scanAll held xs) ys := by
  induction xs generalizing held with
  | nil => exact (Nat.zero_add _).symm
  | cons x xs ih =>
    simp only [List.cons_append, discardsAll, ih, Nat.add_assoc]
    rfl

/-! ## One byte -/

@[simp] theorem scan_nil (byte : UInt8) :
    scan [] byte = (if byte = magicHi then [magicHi] else [], .none) := rfl

@[simp] theorem scan_singleton (b byte : UInt8) :
    scan [b] byte = (if byte = magicLo then [magicHi, magicLo]
      else if byte = magicHi then [magicHi] else [], .none) := rfl

/-- A candidate whose header is still incomplete only grows. -/
theorem scan_header {held : List UInt8} (byte : UInt8) (long : 2 ≤ held.length)
    (short : held.length < 7) : scan held byte = (held ++ [byte], .none) := by
  match held, long with
  | a :: b :: rest, _ =>
    have h : (a :: b :: rest ++ [byte]).length < 8 := by
      rw [List.length_append, List.length_singleton]
      omega
    simp only [scan, if_pos h]

/-- The last header byte. -/
theorem scan_lastHeader {held : List UInt8} (byte : UInt8) (size : held.length = 7) :
    scan held byte =
      if (held ++ [byte]).getD offsetVersion 0 ≠ protocolVersion then
        (tail (held ++ [byte]), .error .errVersion)
      else if 256 < lengthField (held ++ [byte]) then
        (tail (held ++ [byte]), .error .errLength)
      else (held ++ [byte], .none) := by
  match held, size with
  | a :: b :: rest, size =>
    have h : (a :: b :: rest ++ [byte]).length = 8 := by
      rw [List.length_append, List.length_singleton, size]
    have hlt : ¬ (a :: b :: rest ++ [byte]).length < 8 := by omega
    simp only [scan, if_neg hlt, if_pos h]

/-- A byte behind the header. -/
theorem scan_rest {held : List UInt8} (byte : UInt8) (long : 8 ≤ held.length) :
    scan held byte =
      if (held ++ [byte]).length < lengthField (held ++ [byte]) + 10 then
        (held ++ [byte], .none)
      else if (protocolDecode (held ++ [byte]) .zero).result = .ok then
        ([], .frame (protocolDecode (held ++ [byte]) .zero).packet.message)
      else ([], .error (protocolDecode (held ++ [byte]) .zero).result) := by
  match held, long with
  | a :: b :: rest, long =>
    have h : ¬ (a :: b :: rest ++ [byte]).length < 8 := by
      rw [List.length_append, List.length_singleton]
      omega
    have hne : (a :: b :: rest ++ [byte]).length ≠ 8 := by
      rw [List.length_append, List.length_singleton]
      omega
    simp only [scan, if_neg h, if_neg hne]

theorem discards_of_long {held : List UInt8} (byte : UInt8) (long : 2 ≤ held.length) :
    discards held byte = 0 := by
  match held, long with
  | _ :: _ :: _, _ => rfl

/-- The tail looks at the last two bytes only. -/
theorem tail_append_pair (init : List UInt8) (x y : UInt8) :
    tail (init ++ [x, y]) =
      if x = magicHi ∧ y = magicLo then [magicHi, magicLo]
      else if y = magicHi then [magicHi]
      else [] := by
  have hpair : [magicHi, magicLo] <:+ init ++ [x, y] ↔ x = magicHi ∧ y = magicLo := by
    constructor
    · rintro ⟨before, h⟩
      have := (List.append_inj' h rfl).2
      simp only [List.cons.injEq, and_true] at this
      exact ⟨this.1.symm, this.2.symm⟩
    · rintro ⟨rfl, rfl⟩
      exact List.suffix_append init _
  have hlast : [magicHi] <:+ init ++ [x, y] ↔ y = magicHi := by
    have hsplit : init ++ [x, y] = (init ++ [x]) ++ [y] := by simp
    rw [hsplit]
    constructor
    · rintro ⟨before, h⟩
      have := (List.append_inj' h rfl).2
      simp only [List.cons.injEq, and_true] at this
      exact this.symm
    · rintro rfl
      exact List.suffix_append _ _
  simp only [tail, hpair, hlast]

/-! ## The header fields of a candidate -/

/-- The fields of a complete header do not depend on the bytes behind it. -/
theorem lengthField_append {held : List UInt8} (byte : UInt8) (long : 8 ≤ held.length) :
    lengthField (held ++ [byte]) = lengthField held := by
  obtain ⟨b0, b1, b2, b3, b4, b5, b6, b7, rest, rfl⟩ := exists_header held long
  rfl

theorem version_append {held : List UInt8} (byte : UInt8) (long : 8 ≤ held.length) :
    (held ++ [byte]).getD offsetVersion 0 = held.getD offsetVersion 0 := by
  obtain ⟨b0, b1, b2, b3, b4, b5, b6, b7, rest, rfl⟩ := exists_header held long
  rfl

theorem readU16Be_magic {held : List UInt8} (magic : [magicHi, magicLo] <+: held) :
    readU16Be (held.drop offsetMagic) = protocolMagic := by
  obtain ⟨rest, rfl⟩ := magic
  exact readU16Be_eq_iff.mpr (by decide)

/-! ## A whole candidate -/

/-- A candidate that one more byte completes is a frame around a message. -/
theorem exists_framed {held : List UInt8} {byte : UInt8} (magic : [magicHi, magicLo] <+: held)
    (long : 8 ≤ held.length) (version : held.getD offsetVersion 0 = protocolVersion)
    (bound : lengthField held ≤ 256) (last : held.length + 1 = lengthField held + 10) :
    ∃ (m : Message) (crc : UInt16), held ++ [byte] = m.framed crc := by
  have hfield := lengthField_append byte long
  have hversion := version_append byte long
  apply exists_framed_of_header
  · exact readU16Be_magic (magic.trans (List.prefix_append held [byte]))
  · rw [hversion, version]
  · exact Nat.le_trans (Nat.le_of_eq hfield) bound
  · rw [List.length_append, List.length_singleton, last]
    exact congrArg (· + 10) hfield.symm

/-- A completed candidate is delivered or rejected for its CRC, and nothing of it is held. -/
theorem scan_complete {held : List UInt8} {byte : UInt8} (long : 8 ≤ held.length) (m : Message)
    (crc : UInt16) (h : held ++ [byte] = m.framed crc) :
    scan held byte = ([], if crc = m.crc then .frame m else .error .errCrc) := by
  have hsize : ¬ (m.framed crc).length < lengthField (m.framed crc) + 10 := by
    rw [lengthField, framed_length_field, Message.framed_length, Message.length_toNat]
    omega
  rw [scan_rest byte long, h, if_neg hsize, protocolDecode_framed]
  by_cases hcrc : crc = m.crc
  · simp [hcrc]
  · simp [hcrc]

/-! ## What is held is always a candidate -/

theorem candidate_tail (held : List UInt8) : Candidate (tail held) := by
  unfold tail
  split
  · exact .header _ (List.prefix_refl _) (by decide)
  split
  · exact .half
  · exact .empty

theorem candidate_scan {held : List UInt8} (h : Candidate held) (byte : UInt8) :
    Candidate (scan held byte).1 := by
  cases h with
  | empty =>
    rw [scan_nil]
    split
    · exact .half
    · exact .empty
  | half =>
    rw [scan_singleton]
    split
    · exact .header _ (List.prefix_refl _) (by decide)
    split
    · exact .half
    · exact .empty
  | header _ magic short =>
    have long := magic.length_le
    have magic' : [magicHi, magicLo] <+: held ++ [byte] :=
      magic.trans (List.prefix_append held [byte])
    by_cases h7 : held.length = 7
    · have hlength : (held ++ [byte]).length = 8 := by
        rw [List.length_append, List.length_singleton, h7]
      rw [scan_lastHeader byte h7]
      split
      · exact candidate_tail _
      split
      · exact candidate_tail _
      · rename_i hversion hbound
        exact .frame (held ++ [byte]) magic' (Nat.le_of_eq hlength.symm)
          (Decidable.not_not.mp hversion) (Nat.not_lt.mp hbound) (by omega)
    · rw [scan_header byte long (by omega)]
      exact .header _ magic' (by rw [List.length_append, List.length_singleton]; omega)
  | frame _ magic long version bound short =>
    have magic' : [magicHi, magicLo] <+: held ++ [byte] :=
      magic.trans (List.prefix_append held [byte])
    have hfield := lengthField_append byte long
    by_cases last : held.length + 1 = lengthField held + 10
    · obtain ⟨m, crc, hm⟩ := exists_framed magic long version bound last
      rw [scan_complete long m crc hm]
      exact .empty
    · have hlength : (held ++ [byte]).length = held.length + 1 := List.length_append
      rw [scan_rest byte long, if_pos (by omega)]
      exact .frame (held ++ [byte]) magic' (by omega)
        (by rw [version_append byte long, version]) (by omega) (by omega)

theorem candidate_scanAll {held : List UInt8} (h : Candidate held) (bytes : List UInt8) :
    Candidate (scanAll held bytes) := by
  induction bytes generalizing held with
  | nil => exact h
  | cons byte rest ih => exact ih (candidate_scan h byte)

end Scanner

end Rs422Gateway
