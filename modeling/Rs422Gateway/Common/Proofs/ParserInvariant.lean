import Rs422Gateway.Common.FeedBranch
import Rs422Gateway.Common.Proofs.ScannerRefinement

/-!
# The representation invariant of the stream parser

A parser that holds a candidate is well formed, whatever has been called before. From a well-formed
parser `stream_parser_feed_byte` takes no defensive branch, and `protocol_decode` finds nothing
wrong but the CRC.
-/

namespace Rs422Gateway

open Scanner

namespace StreamParser

variable {p : StreamParser} {held : List UInt8}

/-! ## The branches make up the function -/

theorem feedByte_eq_runBranch (p : StreamParser) (byte : UInt8) (q : ProtocolPacket) :
    p.feedByte byte q = p.runBranch byte q (p.feedBranch byte) := by
  rw [feedByte, feedBranch]
  cases p.state with
  | waitMagic1 =>
    dsimp only
    split <;> rfl
  | waitMagic2 =>
    dsimp only
    split_ifs <;> rfl
  | readHeader =>
    simp only [feedReadHeader, ← payloadLength.eq_1, ← frameLength.eq_1]
    by_cases hroom : protocolFixedHeaderSize ≤ p.frameIndex
    · rw [if_pos hroom, if_pos hroom]
      rfl
    rw [if_neg hroom, if_neg hroom]
    by_cases hshort : (p.store byte).frameIndex < protocolFixedHeaderSize
    · rw [if_pos hshort, if_pos hshort]
      rfl
    rw [if_neg hshort, if_neg hshort]
    by_cases hversion : (p.store byte).byteAt offsetVersion ≠ protocolVersion
    · rw [if_pos hversion, if_pos hversion]
      rfl
    rw [if_neg hversion, if_neg hversion]
    by_cases hlength : protocolMaxPayload < (p.store byte).payloadLength
    · rw [if_pos hlength, if_pos hlength]
      rfl
    rw [if_neg hlength, if_neg hlength]
    by_cases hframe : protocolMaxFrameSize < (p.store byte).frameLength
    · rw [if_pos hframe, if_pos hframe]
      rfl
    · rw [if_neg hframe, if_neg hframe]
      rfl
  | readRest =>
    simp only [feedReadRest]
    by_cases hroom : protocolMaxFrameSize ≤ p.frameIndex
    · rw [if_pos hroom, if_pos hroom]
      rfl
    rw [if_neg hroom, if_neg hroom]
    by_cases hshort : (p.store byte).frameIndex < (p.store byte).expectedFrameLength
    · rw [if_pos hshort, if_pos hshort]
      rfl
    rw [if_neg hshort, if_neg hshort]
    by_cases hlong : (p.store byte).expectedFrameLength < (p.store byte).frameIndex
    · rw [if_pos hlong, if_pos hlong]
      rfl
    · rw [if_neg hlong, if_neg hlong]
      rfl

/-! ## The invariant -/

theorem Holds.byteAt_magic (h : p.Holds held) (magic : [magicHi, magicLo] <+: held) :
    p.byteAt 0 = magicHi ∧ p.byteAt 1 = magicLo := by
  obtain ⟨rest, rfl⟩ := magic
  exact ⟨h.byteAt (by simp), h.byteAt (by simp)⟩

theorem lengthField_eq (long : 8 ≤ held.length) :
    lengthField held = (held.getD 6 0).toNat * 256 + (held.getD 7 0).toNat := by
  obtain ⟨b0, b1, b2, b3, b4, b5, b6, b7, rest, rfl⟩ := exists_header held long
  exact readU16Be_cons b6 b7 rest

theorem Represents.wellFormed (h : p.Represents held) : p.WellFormed := by
  have hstate := h.state
  have hindex := h.index
  cases h.candidate with
  | empty => exact .waitMagic1 hstate hindex
  | half => exact .waitMagic2 hstate hindex (h.byteAt (by decide))
  | header _ magic short =>
    have long : 2 ≤ held.length := magic.length_le
    have hread : stateOf held = .readHeader := by
      rw [stateOf, if_neg (by omega), if_neg (by omega), if_pos short]
    obtain ⟨hhi, hlo⟩ := h.byteAt_magic magic
    exact .readHeader (hstate.trans hread) (by omega) (by omega) hhi hlo
  | frame _ magic long version bound short =>
    have hread : stateOf held = .readRest := by
      rw [stateOf, if_neg (by omega), if_neg (by omega), if_neg (by omega)]
    have hexpected := h.expected long
    obtain ⟨hhi, hlo⟩ := h.byteAt_magic magic
    refine .readRest (hstate.trans hread) (by omega) (by omega) ?_ (by omega) hhi hlo ?_
    · rw [hexpected, h.byteAt (by omega), h.byteAt (by omega), lengthField_eq long]
      omega
    · rw [h.byteAt (by omega)]
      exact version

/-! ## The branches -/

/-- From a well-formed parser no defensive branch is taken. -/
theorem WellFormed.not_defensive (h : p.WellFormed) (byte : UInt8) :
    ¬ (p.feedBranch byte).Defensive := by
  rw [feedBranch]
  cases h with
  | waitMagic1 state =>
    rw [state]
    dsimp only
    split <;> simp [FeedBranch.Defensive]
  | waitMagic2 state =>
    rw [state]
    dsimp only
    split_ifs <;> simp [FeedBranch.Defensive]
  | readHeader state _ short =>
    have hframe : (p.store byte).payloadLength ≤ 256 → ¬ 266 < (p.store byte).frameLength := by
      intro hlength
      simp only [frameLength, protocolFixedHeaderSize, protocolCrcSize]
      omega
    rw [state]
    dsimp only
    rw [if_neg (Nat.not_le.mpr short)]
    split_ifs with hshort hversion hlength hlong
    · simp [FeedBranch.Defensive]
    · simp [FeedBranch.Defensive]
    · simp [FeedBranch.Defensive]
    · exact absurd hlong (hframe (Nat.not_lt.mp hlength))
    · simp [FeedBranch.Defensive]
  | readRest state _ short expected bound =>
    have hindex : (p.store byte).frameIndex = p.frameIndex + 1 := rfl
    have hexpected : (p.store byte).expectedFrameLength = p.expectedFrameLength := rfl
    rw [state]
    dsimp only
    have hroom : ¬ protocolMaxFrameSize ≤ p.frameIndex :=
      Nat.not_le.mpr (Nat.lt_of_lt_of_le short bound)
    rw [if_neg hroom, hindex, hexpected]
    split_ifs with hrest hlong
    · simp [FeedBranch.Defensive]
    · omega
    · simp [FeedBranch.Defensive]

/-- `protocol_decode` stays in its buffer. -/
theorem protocolDecodeIndices_lt (buffer : List UInt8) :
    ∀ i ∈ protocolDecodeIndices buffer, i < buffer.length := by
  intro i hi
  rw [protocolDecodeIndices] at hi
  split at hi
  case isTrue => cases hi
  case isFalse hmin =>
    have hten : 10 ≤ buffer.length := Nat.not_lt.mp hmin
    rcases List.mem_append.mp hi with hi | hi
    · simp [offsetMagic] at hi
      omega
    split at hi
    · cases hi
    rcases List.mem_append.mp hi with hi | hi
    · simp [offsetVersion] at hi
      omega
    split at hi
    · cases hi
    rcases List.mem_append.mp hi with hi | hi
    · simp [offsetLength] at hi
      omega
    split at hi
    · cases hi
    split at hi
    case isTrue => cases hi
    case isFalse hsize =>
      have hlength : buffer.length = 8 + (readU16Be (buffer.drop offsetLength)).toNat + 2 :=
        Decidable.not_not.mp hsize
      simp [List.mem_range'_1, offsetVersion, offsetMsgId, offsetSeq, offsetPayload] at hi
      omega

theorem store_candidate_length (p : StreamParser) (byte : UInt8) :
    (p.store byte).candidate.length ≤ 266 := by
  rw [candidate, List.length_take, Vector.length_toList]
  exact Nat.min_le_right _ _

theorem resyncIndices_lt {p : StreamParser} (h : p.frameIndex ≤ 266) :
    ∀ i ∈ p.resyncIndices, i < 266 := by
  have hmagic : ∀ i ∈ (if 2 ≤ p.frameIndex then
      (p.frameIndex - 2) ::
        if p.byteAt (p.frameIndex - 2) = magicHi then [p.frameIndex - 1] else []
      else []), i < 266 := by
    intro i hi
    split_ifs at hi <;> simp at hi <;> omega
  have hhalf : ∀ i ∈ (if 1 ≤ p.frameIndex then [p.frameIndex - 1] else []), i < 266 := by
    intro i hi
    split_ifs at hi <;> simp at hi
    omega
  intro i hi
  rw [resyncIndices] at hi
  split at hi
  · rcases List.mem_append.mp hi with hi | hi
    · exact hmagic i hi
    · simp at hi
      omega
  split at hi
  · rcases List.mem_append.mp hi with hi | hi
    · rcases List.mem_append.mp hi with hi | hi
      · exact hmagic i hi
      · exact hhalf i hi
    · simp at hi
      omega
  · rcases List.mem_append.mp hi with hi | hi
    · exact hmagic i hi
    · exact hhalf i hi

theorem branchIndices_lt (hindex : p.frameIndex < 266) (byte : UInt8) (branch : FeedBranch) :
    ∀ i ∈ p.branchIndices byte branch, i < 266 := by
  intro i hi
  cases branch with
  | versionError | lengthError | expectedOverlong =>
    rcases List.mem_append.mp hi with hi | hi
    · simp [offsetVersion, offsetLength] at hi
      omega
    · exact resyncIndices_lt (p := p.store byte) hindex i hi
  | decode =>
    rcases List.mem_cons.mp hi with hi | hi
    · omega
    · exact Nat.lt_of_lt_of_le (protocolDecodeIndices_lt _ i hi) (store_candidate_length p byte)
  | _ =>
    simp [branchIndices, offsetVersion, offsetLength] at hi
    try omega

theorem WellFormed.frameIndex_lt (h : p.WellFormed) : p.frameIndex < 266 := by
  cases h <;> omega

/-- Only a complete candidate is decoded. -/
theorem complete_of_decode {byte : UInt8} (hdecode : p.feedBranch byte = .decode) :
    p.state = .readRest ∧ p.expectedFrameLength ≤ p.frameIndex + 1 := by
  rw [feedBranch] at hdecode
  cases hstate : p.state with
  | readRest =>
    rw [hstate] at hdecode
    dsimp only at hdecode
    split_ifs at hdecode with hroom hrest hlong
    exact ⟨rfl, Nat.not_lt.mp hrest⟩
  | _ =>
    rw [hstate] at hdecode
    dsimp only at hdecode
    split_ifs at hdecode

/-- All that `protocol_decode` can find wrong with a complete candidate is the CRC. -/
theorem Represents.protocolDecode_result (h : p.Represents held) (byte : UInt8)
    (q : ProtocolPacket) (hdecode : p.feedBranch byte = .decode) :
    (protocolDecode (p.store byte).candidate q).result = .ok ∨
      (protocolDecode (p.store byte).candidate q).result = .errCrc := by
  obtain ⟨hstate, hcomplete⟩ := complete_of_decode hdecode
  have hindex := h.index
  have hread : stateOf held = .readRest := h.state.symm.trans hstate
  cases h.candidate with
  | empty => cases hread
  | half => cases hread
  | header _ magic short =>
    rw [stateOf] at hread
    split_ifs at hread
  | frame _ magic long version bound short =>
    have hexpected := h.expected long
    obtain ⟨m, crc, hm⟩ : ∃ (m : Message) (crc : UInt16), held ++ [byte] = m.framed crc :=
      exists_framed magic long version bound (by omega)
    have hcandidate : (p.store byte).candidate = m.framed crc := by
      have hstore := h.store byte (by omega)
      rw [StreamParser.candidate, hstore.index, hstore.bytes, hm]
    rw [hcandidate, protocolDecode_framed]
    split
    · exact .inl rfl
    · exact .inr rfl

/-- Every error is counted by one of the two counters. -/
theorem Represents.countsError (h : p.Represents held) (byte : UInt8) (q : ProtocolPacket)
    (herror : (p.feedByte byte q).2.1 = .error) :
    CountsError (p.feedBranch byte) p (p.feedByte byte q).1 := by
  have hlive := h.wellFormed.not_defensive byte
  have hdecode := h.protocolDecode_result byte q
  rw [feedByte_eq_runBranch] at herror ⊢
  have hreject (error : ProtocolResult) :=
    resyncFromTail_statistics
      { p.store byte with
        lastError := error, formatErrors := (p.store byte).formatErrors + 1 }
  cases hbranch : p.feedBranch byte with
  | versionError =>
    obtain ⟨hlast, -, hcrc, hformat, -⟩ := hreject .errVersion
    exact .version rfl hlast hcrc hformat
  | lengthError =>
    obtain ⟨hlast, -, hcrc, hformat, -⟩ := hreject .errLength
    exact .length rfl hlast hcrc hformat
  | headerOverrun => exact absurd (.inl hbranch) hlive
  | expectedOverlong => exact absurd (.inr (.inl hbranch)) hlive
  | restOverrun => exact absurd (.inr (.inr (.inl hbranch))) hlive
  | frameSizeError => exact absurd (.inr (.inr (.inr hbranch))) hlive
  | decode =>
    rw [hbranch] at herror
    rcases hdecode hbranch with hok | hcrc
    · simp only [runBranch, decodeCandidate, if_pos hok, reduceCtorEq] at herror
    · have hne : (protocolDecode (p.store byte).candidate q).result ≠ .ok := by simp [hcrc]
      simp only [runBranch, decodeCandidate, if_neg hne, if_pos hcrc]
      exact .crc rfl hcrc rfl rfl
  | _ =>
    rw [hbranch] at herror
    cases herror

end StreamParser

open StreamParser in
/-- The parser is well formed whatever has been called since `stream_parser_init`; the next byte
    stays in `frame_buffer` and takes no defensive branch, a complete candidate is decoded or fails
    its CRC, and an error is counted by the counter for its code. -/
theorem streamParser_wellFormed (q : ProtocolPacket) (calls : List Receiver.Call) :
    (Receiver.callAll ⟨.init, q⟩ calls).parser.WellFormed ∧
      ∀ (byte : UInt8) (q' : ProtocolPacket),
        let p := (Receiver.callAll ⟨.init, q⟩ calls).parser
        (∀ i ∈ p.bufferIndices byte, i < 266) ∧
        p.feedByte byte q' = p.runBranch byte q' (p.feedBranch byte) ∧
        ¬ (p.feedBranch byte).Defensive ∧
        (p.feedBranch byte = .decode →
          (protocolDecode (p.store byte).candidate q').result = .ok ∨
            (protocolDecode (p.store byte).candidate q').result = .errCrc) ∧
        ((p.feedByte byte q').2.1 = .error →
          CountsError (p.feedBranch byte) p (p.feedByte byte q').1) := by
  obtain ⟨held, h⟩ := Receiver.callAll_represents (r := ⟨.init, q⟩) init_represents calls
  exact ⟨h.wellFormed, fun byte q' => ⟨branchIndices_lt h.wellFormed.frameIndex_lt byte _,
    feedByte_eq_runBranch _ byte q', h.wellFormed.not_defensive byte,
    h.protocolDecode_result byte q', h.countsError byte q'⟩⟩

end Rs422Gateway
