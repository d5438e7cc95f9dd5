import Rs422Gateway.Common.Frame

/-!
# The codec and the frame format

`protocol_encode` and `protocol_decode` (`common/protocol.c:24-152`) are the two directions of
one bijection between messages and their wire forms.
-/

namespace Rs422Gateway

/-! ## Encoding -/

/-- A store right behind the bytes written so far extends them. -/
theorem overwrite_next (buffer written bytes : List UInt8) (offset next : Nat)
    (h : written.length = offset) (hnext : offset + bytes.length = next) :
    overwrite (written ++ buffer.drop offset) offset bytes =
      (written ++ bytes) ++ buffer.drop next := by
  have hdrop : (written ++ buffer.drop offset).drop (offset + bytes.length) =
      buffer.drop next := by
    rw [← List.drop_drop, List.drop_left' h, List.drop_drop, hnext]
  rw [overwrite, hdrop, List.take_left' h]

theorem overwrite_zero (buffer bytes : List UInt8) :
    overwrite buffer 0 bytes = bytes ++ buffer.drop bytes.length := by
  simp [overwrite]

/-- The bytes before the CRC field, field by field. -/
theorem covered_fields (p : ProtocolPacket) (h : p.Encodable) :
    writeU16Be protocolMagic ++ [p.version] ++ [p.msgId] ++ writeU16Be p.seq ++
        writeU16Be p.length ++ p.message.payload =
      writeU16Be protocolMagic ++ p.message.covered := by
  simp only [Message.covered, h.message_length, h.1, List.append_assoc, List.cons_append,
    List.nil_append]
  rfl

/-- The bytes `protocol_encode` has stored before it computes the CRC. -/
theorem encode_before_crc (p : ProtocolPacket) (h : p.Encodable) (buffer : List UInt8) :
    (let buffer := overwrite buffer offsetMagic (writeU16Be protocolMagic)
     let buffer := overwrite buffer offsetVersion [p.version]
     let buffer := overwrite buffer offsetMsgId [p.msgId]
     let buffer := overwrite buffer offsetSeq (writeU16Be p.seq)
     let buffer := overwrite buffer offsetLength (writeU16Be p.length)
     if 0 < p.length then
       overwrite buffer offsetPayload (p.payload.toList.take p.length.toNat)
     else buffer) =
      (writeU16Be protocolMagic ++ p.message.covered) ++ buffer.drop (8 + p.length.toNat) := by
  have hlen := h.payload_length
  let magic := writeU16Be protocolMagic
  have version := overwrite_next buffer magic [p.version] 2 3 rfl rfl
  have msgId := overwrite_next buffer (magic ++ [p.version]) [p.msgId] 3 4 rfl rfl
  have seq := overwrite_next buffer (magic ++ [p.version] ++ [p.msgId]) (writeU16Be p.seq) 4 6
    rfl rfl
  have length := overwrite_next buffer (magic ++ [p.version] ++ [p.msgId] ++ writeU16Be p.seq)
    (writeU16Be p.length) 6 8 rfl rfl
  simp only
  rw [overwrite_zero, writeU16Be_length, version, msgId, seq, length, ← covered_fields p h]
  split
  case isTrue _ =>
    exact overwrite_next buffer _ p.message.payload 8 _ rfl (by rw [hlen])
  case isFalse hzero =>
    have hzero : p.length.toNat = 0 := by
      simpa [UInt16.lt_iff_toNat_lt] using hzero
    have hnil : p.message.payload = [] := List.length_eq_zero_iff.mp (hlen.trans hzero)
    rw [hnil, hzero, List.append_nil]

/-- `protocol_encode` on an encodable packet and a buffer that is large enough. -/
theorem protocolEncode_of_encodable (p : ProtocolPacket) (h : p.Encodable) (buffer : List UInt8)
    (room : p.length.toNat + 10 ≤ buffer.length) :
    protocolEncode p buffer =
      ⟨.ok, p.message.wire ++ buffer.drop (p.length.toNat + 10), p.length.toNat + 10⟩ := by
  have hlen := h.payload_length
  have before := encode_before_crc p h buffer
  simp only at before
  have hcrc : List.take (6 + p.length.toNat) (List.drop offsetVersion
      ((writeU16Be protocolMagic ++ p.message.covered) ++ buffer.drop (8 + p.length.toNat))) =
        p.message.covered := by
    have hmagic : (writeU16Be protocolMagic).length = offsetVersion := rfl
    rw [List.append_assoc, List.drop_left' hmagic,
      List.take_left' (by rw [Message.covered_length]; omega)]
  have hversion : ¬ p.version ≠ protocolVersion := fun hne => hne h.1
  have hlength : ¬ protocolMaxPayload < p.length.toNat := Nat.not_lt.mpr h.2
  have hroom : ¬ buffer.length < 8 + p.length.toNat + 2 := by omega
  have last := overwrite_next buffer (writeU16Be protocolMagic ++ p.message.covered)
    (writeU16Be (crc16CcittFalse p.message.covered)) (8 + p.length.toNat) (p.length.toNat + 10)
    (by simp only [List.length_append, writeU16Be_length, Message.covered_length]; omega)
    (by simp only [writeU16Be_length]; omega)
  have hsize : 8 + p.length.toNat + 2 = p.length.toNat + 10 := by omega
  simp only [protocolEncode, if_neg hversion, if_neg hlength, if_neg hroom]
  rw [before, hcrc, last, hsize, List.append_assoc (writeU16Be protocolMagic)]
  rfl

/-- The other results of `protocol_encode` leave the buffer alone and report length 0. -/
theorem protocolEncode_of_not (p : ProtocolPacket) (buffer : List UInt8)
    (h : ¬ (p.Encodable ∧ p.length.toNat + 10 ≤ buffer.length)) :
    (protocolEncode p buffer).result ≠ .ok ∧ (protocolEncode p buffer).buffer = buffer ∧
      (protocolEncode p buffer).encodedLength = 0 := by
  simp only [protocolEncode]
  split
  · simp
  split
  · simp
  split
  · simp
  · rename_i hversion hlength hroom
    have room : p.length.toNat + 10 ≤ buffer.length := by
      simp only [protocolFixedHeaderSize, protocolCrcSize] at hroom
      omega
    exact absurd ⟨⟨Decidable.not_not.mp hversion, Nat.not_lt.mp hlength⟩, room⟩ h

theorem protocolEncode_ok_iff (p : ProtocolPacket) (buffer : List UInt8) :
    (protocolEncode p buffer).result = .ok ↔
      p.Encodable ∧ p.length.toNat + 10 ≤ buffer.length := by
  constructor
  · intro hok
    by_contra hne
    exact (protocolEncode_of_not p buffer hne).1 hok
  · rintro ⟨h, room⟩
    rw [protocolEncode_of_encodable p h buffer room]

/-- The frame the callers of `protocol_encode` obtain. -/
theorem encodeFrame_eq (p : ProtocolPacket) :
    encodeFrame p = if p.Encodable then some p.message.wire else none := by
  have hsize : (List.replicate protocolMaxFrameSize (0 : UInt8)).length = 266 :=
    List.length_replicate
  by_cases h : p.Encodable
  · have := h.2
    have hwire : p.message.wire.length = p.length.toNat + 10 := by
      rw [Message.wire_length, h.payload_length]
    rw [encodeFrame, protocolEncode_of_encodable p h _ (by omega)]
    simp [h, List.take_left' hwire]
  · have hne := (protocolEncode_of_not p (List.replicate protocolMaxFrameSize 0)
      (fun hp => h hp.1)).1
    simp [encodeFrame, hne, h]

theorem encodeFrame_of_encodable {p : ProtocolPacket} (h : p.Encodable) :
    encodeFrame p = some p.message.wire := by
  rw [encodeFrame_eq, if_pos h]

/-! ## Decoding -/

section FramedFields

variable (m : Message) (crc : UInt16)

theorem framed_magic : readU16Be ((m.framed crc).drop offsetMagic) = protocolMagic :=
  readU16Be_writeU16Be _ _

theorem framed_version : (m.framed crc).getD offsetVersion 0 = protocolVersion := rfl

theorem framed_msgId : (m.framed crc).getD offsetMsgId 0 = m.msgId := rfl

theorem framed_seq : readU16Be ((m.framed crc).drop offsetSeq) = m.seq :=
  readU16Be_writeU16Be m.seq (writeU16Be m.length ++ m.payload ++ writeU16Be crc)

theorem framed_drop_length : (m.framed crc).drop offsetLength =
    writeU16Be m.length ++ (m.payload ++ writeU16Be crc) := rfl

theorem framed_length_field : readU16Be ((m.framed crc).drop offsetLength) = m.length := by
  rw [framed_drop_length, readU16Be_writeU16Be]

theorem framed_drop_payload : (m.framed crc).drop offsetPayload = m.payload ++ writeU16Be crc :=
  rfl

theorem framed_covered :
    ((m.framed crc).drop offsetVersion).take (6 + m.payload.length) = m.covered := by
  have hdrop : (m.framed crc).drop offsetVersion = m.covered ++ writeU16Be crc := rfl
  rw [hdrop, List.take_left' (by rw [Message.covered_length, Nat.add_comm])]

theorem framed_crc :
    readU16Be ((m.framed crc).drop (offsetPayload + m.payload.length)) = crc := by
  rw [← List.drop_drop, framed_drop_payload, List.drop_left]
  exact readU16Be_writeU16Be crc []

end FramedFields

/-- The payload copy is skipped for length 0, where it would copy nothing. -/
theorem copyPayload_framed (m : Message) (crc : UInt16) (payload : Vector UInt8 256) :
    (if 0 < m.length then
      copyPayload payload ((m.framed crc).drop offsetPayload) m.length.toNat
    else payload) = copyPayload payload m.payload m.payload.length := by
  rw [framed_drop_payload, Message.length_toNat, copyPayload_append]
  split
  case isTrue _ => rfl
  case isFalse hzero =>
    have hzero : m.payload.length = 0 := by
      simpa [UInt16.lt_iff_toNat_lt] using hzero
    apply Vector.ext
    intro i hi
    rw [copyPayload_getElem_ge _ _ hi (by omega)]

/-- `protocol_decode` on a frame checks nothing but the CRC. -/
theorem protocolDecode_framed (m : Message) (crc : UInt16) (q : ProtocolPacket) :
    protocolDecode (m.framed crc) q =
      if crc = m.crc then ⟨.ok, m.packet q⟩ else ⟨.errCrc, q⟩ := by
  have hbound : ¬ protocolMaxPayload < m.length.toNat := by
    rw [Message.length_toNat]
    exact Nat.not_lt.mpr m.bounded
  have hmin : ¬ (m.framed crc).length < protocolMinFrameSize := by
    rw [Message.framed_length]
    exact Nat.not_lt.mpr (Nat.le_add_left 10 _)
  have hsize : (m.framed crc).length = 8 + m.payload.length + 2 := by
    rw [Message.framed_length]
    omega
  have hfit : ¬ (m.framed crc).length ≠ 8 + m.payload.length + 2 := fun hne => hne hsize
  have hcalc : crc16CcittFalse m.covered = m.crc := rfl
  rw [protocolDecode, if_neg hmin, if_neg (fun hne => hne (framed_magic m crc)),
    if_neg (fun hne => hne (framed_version m crc))]
  simp only [framed_length_field]
  rw [if_neg hbound, copyPayload_framed, Message.length_toNat, if_neg hfit, framed_covered,
    framed_crc, hcalc, framed_version, framed_msgId, framed_seq]
  by_cases h : crc = m.crc
  · rw [if_neg (fun hne => hne h.symm), if_pos h]
    rfl
  · rw [if_pos (fun heq => h heq.symm), if_neg h]

theorem protocolDecode_wire (m : Message) (q : ProtocolPacket) :
    protocolDecode m.wire q = ⟨.ok, m.packet q⟩ := by
  rw [Message.wire, protocolDecode_framed, if_pos rfl]

theorem exists_header (b : List UInt8) (h : 8 ≤ b.length) :
    ∃ b0 b1 b2 b3 b4 b5 b6 b7 rest, b = b0 :: b1 :: b2 :: b3 :: b4 :: b5 :: b6 :: b7 :: rest := by
  rcases b with _ | ⟨b0, _ | ⟨b1, _ | ⟨b2, _ | ⟨b3, _ | ⟨b4, _ | ⟨b5, _ | ⟨b6, _ | ⟨b7, rest⟩⟩⟩⟩⟩⟩⟩⟩
  case cons.cons.cons.cons.cons.cons.cons.cons =>
    exact ⟨b0, b1, b2, b3, b4, b5, b6, b7, rest, rfl⟩
  all_goals
    simp only [List.length_cons, List.length_nil] at h
    omega

/-- Eight header bytes and the right number of bytes behind them are a frame around a message. -/
theorem exists_framed_of_header (b : List UInt8)
    (magic : readU16Be (b.drop offsetMagic) = protocolMagic)
    (version : b.getD offsetVersion 0 = protocolVersion)
    (bound : (readU16Be (b.drop offsetLength)).toNat ≤ 256)
    (size : b.length = (readU16Be (b.drop offsetLength)).toNat + 10) :
    ∃ (m : Message) (crc : UInt16), b = m.framed crc := by
  obtain ⟨b0, b1, b2, b3, b4, b5, b6, b7, rest, rfl⟩ := exists_header b (by omega)
  change (readU16Be (b6 :: b7 :: rest)).toNat ≤ 256 at bound
  change rest.length + 8 = (readU16Be (b6 :: b7 :: rest)).toNat + 10 at size
  change b2 = protocolVersion at version
  have hmagic : [b0, b1] = writeU16Be protocolMagic := readU16Be_eq_iff.mp magic
  generalize hlength : readU16Be (b6 :: b7 :: rest) = length at bound size
  have hbytes : [b6, b7] = writeU16Be length := readU16Be_eq_iff.mp hlength
  obtain ⟨c0, c1, hcrc⟩ : ∃ c0 c1, rest.drop length.toNat = [c0, c1] :=
    List.length_eq_two.mp (by rw [List.length_drop]; omega)
  have htake : (rest.take length.toNat).length = length.toNat := by
    rw [List.length_take]
    omega
  let m : Message := ⟨b3, readU16Be [b4, b5], rest.take length.toNat, by omega⟩
  have hm : m.length = length := by
    rw [Message.length, htake, UInt16.ofNat_toNat]
  refine ⟨m, readU16Be [c0, c1], ?_⟩
  have hrest : rest = m.payload ++ [c0, c1] := by
    rw [← hcrc, List.take_append_drop]
  rw [Message.framed, Message.covered, hm, ← hmagic, ← hbytes, writeU16Be_readU16Be,
    writeU16Be_readU16Be, version]
  simp only [List.cons_append, List.nil_append, ← hrest]
  rfl

/-- Every result of `protocol_decode` that is not `PROTO_OK` leaves the packet alone, and
    `PROTO_OK` needs a frame. -/
theorem protocolDecode_cases (b : List UInt8) (q : ProtocolPacket) :
    ((protocolDecode b q).result ≠ .ok ∧ (protocolDecode b q).packet = q) ∨
      ∃ m : Message, b = m.wire ∧ protocolDecode b q = ⟨.ok, m.packet q⟩ := by
  by_cases hmin : b.length < protocolMinFrameSize
  · simp [protocolDecode, hmin]
  by_cases hmagic : readU16Be (b.drop offsetMagic) = protocolMagic
  case neg => rw [protocolDecode, if_neg hmin, if_pos hmagic]; simp
  by_cases hversion : b.getD offsetVersion 0 = protocolVersion
  case neg =>
    rw [protocolDecode, if_neg hmin, if_neg (fun h => h hmagic), if_pos hversion]
    simp
  by_cases hbound : protocolMaxPayload < (readU16Be (b.drop offsetLength)).toNat
  · rw [protocolDecode, if_neg hmin, if_neg (fun h => h hmagic), if_neg (fun h => h hversion)]
    simp only [if_pos hbound]
    simp
  by_cases hsize : b.length = 8 + (readU16Be (b.drop offsetLength)).toNat + 2
  case neg =>
    rw [protocolDecode, if_neg hmin, if_neg (fun h => h hmagic), if_neg (fun h => h hversion)]
    simp only [if_neg hbound]
    rw [if_pos hsize]
    simp
  obtain ⟨m, crc, rfl⟩ := exists_framed_of_header b hmagic hversion (Nat.not_lt.mp hbound)
    (by omega)
  rw [protocolDecode_framed]
  split
  case isTrue hcrc => exact Or.inr ⟨m, by rw [hcrc]; rfl, rfl⟩
  case isFalse => exact Or.inl ⟨by simp, rfl⟩

theorem protocolDecode_ok_iff (b : List UInt8) (q : ProtocolPacket) :
    (protocolDecode b q).result = .ok ↔ ∃ m : Message, b = m.wire := by
  constructor
  · intro hok
    rcases protocolDecode_cases b q with ⟨hne, _⟩ | ⟨m, rfl, _⟩
    · exact absurd hok hne
    · exact ⟨m, rfl⟩
  · rintro ⟨m, rfl⟩
    rw [protocolDecode_wire]

/-! ## The round trip -/

/-- What the decoder leaves behind for the frame of an encodable packet `p` in a packet that held
    `q`. -/
theorem packet_sameMessage {p : ProtocolPacket} (h : p.Encodable) (q : ProtocolPacket) :
    (p.message.packet q).SameMessage p where
  version := h.1.symm
  msgId := rfl
  seq := rfl
  length := h.message_length
  payload := by
    intro i hi hlt
    have hlt' : i < p.message.payload.length := by rwa [h.payload_length]
    simp only [Message.packet]
    rw [copyPayload_getElem_lt _ _ hi hlt']
    simp [ProtocolPacket.message, hlt, hi]

theorem packet_stale_tail {p : ProtocolPacket} (h : p.Encodable) (q : ProtocolPacket) {i : Nat}
    (hi : i < 256) (hge : p.length.toNat ≤ i) :
    (p.message.packet q).payload[i] = q.payload[i] := by
  simp only [Message.packet]
  exact copyPayload_getElem_ge _ _ hi (by rwa [h.payload_length])

/-- Every message is the content of a packet that can be encoded. -/
theorem exists_encodeFrame_eq_wire (m : Message) : ∃ p, encodeFrame p = some m.wire :=
  ⟨m.packet .zero, by
    rw [encodeFrame_of_encodable (m.packet_encodable _), Message.packet_message]⟩

theorem encodeFrame_eq_some_iff {p : ProtocolPacket} {b : List UInt8} :
    encodeFrame p = some b ↔ p.Encodable ∧ b = p.message.wire := by
  rw [encodeFrame_eq]
  split
  · simp [*, eq_comm]
  · simp [*]

/-- `protocol_encode` and `protocol_decode` are mutually inverse. `protocol_encode` succeeds on
    exactly the version 1 packets with at most 256 payload bytes and room in the buffer, and then
    stores exactly the frame and its length; `protocol_decode` succeeds on exactly the frames,
    where it restores the packet up to the payload bytes that are not on the wire, which keep
    their old values. Neither touches its output on any other result. -/
theorem protocolEncode_protocolDecode_inverse :
    (∀ (p : ProtocolPacket) (buffer : List UInt8),
      ((protocolEncode p buffer).result = .ok ↔
        p.version = 1 ∧ p.length.toNat ≤ 256 ∧ p.length.toNat + 10 ≤ buffer.length) ∧
      ((protocolEncode p buffer).result = .ok →
        (protocolEncode p buffer).encodedLength = p.length.toNat + 10 ∧
        ∃ frame, encodeFrame p = some frame ∧ frame.length = p.length.toNat + 10 ∧
          (protocolEncode p buffer).buffer = frame ++ buffer.drop (p.length.toNat + 10)) ∧
      ((protocolEncode p buffer).result ≠ .ok →
        (protocolEncode p buffer).buffer = buffer ∧
        (protocolEncode p buffer).encodedLength = 0)) ∧
    (∀ (b : List UInt8) (q : ProtocolPacket),
      ((protocolDecode b q).result = .ok ↔ ∃ p, encodeFrame p = some b) ∧
      (∀ p, encodeFrame p = some b →
        (protocolDecode b q).packet.SameMessage p ∧
        (∀ i (hi : i < 256), p.length.toNat ≤ i →
          (protocolDecode b q).packet.payload[i] = q.payload[i]) ∧
        encodeFrame (protocolDecode b q).packet = some b) ∧
      ((protocolDecode b q).result ≠ .ok → (protocolDecode b q).packet = q)) := by
  refine ⟨fun p buffer => ⟨?_, ?_, ?_⟩, fun b q => ⟨?_, ?_, ?_⟩⟩
  · rw [protocolEncode_ok_iff, ProtocolPacket.Encodable, and_assoc]
    rfl
  · intro hok
    obtain ⟨h, room⟩ := (protocolEncode_ok_iff p buffer).mp hok
    rw [protocolEncode_of_encodable p h buffer room]
    exact ⟨rfl, p.message.wire, encodeFrame_of_encodable h,
      by rw [Message.wire_length, h.payload_length], rfl⟩
  · intro hne
    exact (protocolEncode_of_not p buffer
      (fun h => hne ((protocolEncode_ok_iff p buffer).mpr h))).2
  · rw [protocolDecode_ok_iff]
    constructor
    · rintro ⟨m, rfl⟩
      exact exists_encodeFrame_eq_wire m
    · rintro ⟨p, hp⟩
      exact ⟨p.message, (encodeFrame_eq_some_iff.mp hp).2⟩
  · intro p hp
    obtain ⟨h, rfl⟩ := encodeFrame_eq_some_iff.mp hp
    rw [protocolDecode_wire]
    refine ⟨packet_sameMessage h q, fun i hi hge => packet_stale_tail h q hi hge, ?_⟩
    rw [encodeFrame_of_encodable (Message.packet_encodable _ q), Message.packet_message]
  · intro hne
    rcases protocolDecode_cases b q with ⟨_, hkeep⟩ | ⟨m, _, hm⟩
    · exact hkeep
    · exact absurd (by rw [hm]) hne

end Rs422Gateway
