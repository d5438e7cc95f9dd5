import Rs422Gateway.Common.Protocol

/-!
# The frame format

What a Protocol V1 frame is, apart from how the codec computes it: a `Message` is a message
identifier, a sequence number and at most 256 payload bytes, and `Message.wire` is the one byte
string that stands for it (`docs/protocol_v1.md` section 3). The lemmas below connect the two
directions of the codec to it: `protocol_encode` writes exactly `p.message.wire`, and
`protocol_decode` accepts a byte string exactly when it is the wire form of a message.
-/

namespace Rs422Gateway

/-! ## Big-endian words -/

theorem readU16Be_cons (hi lo : UInt8) (rest : List UInt8) :
    (readU16Be (hi :: lo :: rest)).toNat = hi.toNat * 256 + lo.toNat := by
  have hhi := hi.toNat_lt
  have hlo := lo.toNat_lt
  have hor : hi.toNat <<< 8 ||| lo.toNat = hi.toNat * 256 + lo.toNat := by
    rw [← Nat.shiftLeft_add_eq_or_of_lt (by omega), Nat.shiftLeft_eq]
  simp only [readU16Be, List.getD_cons_zero, List.getD_cons_succ, UInt16.toNat_or,
    UInt16.toNat_shiftLeft, UInt8.toNat_toUInt16]
  rw [← hor]
  congr 1
  simp [Nat.shiftLeft_eq]
  omega

theorem writeU16Be_eq (value : UInt16) :
    writeU16Be value = [UInt8.ofNat (value.toNat / 256), UInt8.ofNat (value.toNat % 256)] := by
  have h := value.toNat_lt
  have low : ∀ n : Nat, n &&& 255 = n % 256 := fun n => Nat.and_two_pow_sub_one_eq_mod n 8
  simp only [writeU16Be, List.cons.injEq, and_true]
  constructor
  · apply UInt8.toNat_inj.mp
    simp [Nat.shiftRight_eq_div_pow, low]
  · apply UInt8.toNat_inj.mp
    simp [low]

@[simp] theorem writeU16Be_length (value : UInt16) : (writeU16Be value).length = 2 := rfl

@[simp] theorem readU16Be_writeU16Be (value : UInt16) (rest : List UInt8) :
    readU16Be (writeU16Be value ++ rest) = value := by
  have h := value.toNat_lt
  apply UInt16.toNat_inj.mp
  rw [writeU16Be_eq]
  simp only [List.cons_append, List.nil_append, readU16Be_cons, UInt8.toNat_ofNat']
  omega

theorem writeU16Be_readU16Be (hi lo : UInt8) (rest : List UInt8) :
    writeU16Be (readU16Be (hi :: lo :: rest)) = [hi, lo] := by
  have hhi := hi.toNat_lt
  have hlo := lo.toNat_lt
  rw [writeU16Be_eq, readU16Be_cons]
  have h1 : (hi.toNat * 256 + lo.toNat) / 256 = hi.toNat := by omega
  have h2 : (hi.toNat * 256 + lo.toNat) % 256 = lo.toNat := by omega
  simp [h1, h2]

/-- Two bytes read as the word `value` exactly when they are the two bytes written for it. -/
theorem readU16Be_eq_iff {hi lo : UInt8} {rest : List UInt8} {value : UInt16} :
    readU16Be (hi :: lo :: rest) = value ↔ [hi, lo] = writeU16Be value := by
  constructor
  · rintro rfl
    exact (writeU16Be_readU16Be hi lo rest).symm
  · intro h
    have := readU16Be_writeU16Be value rest
    rwa [← h] at this

/-! ## Messages and their wire form -/

/-- The content of a frame. The bound on the payload is part of the type, so every message has a
    wire form. -/
@[ext]
structure Message where
  msgId : UInt8
  seq : UInt16
  payload : List UInt8
  bounded : payload.length ≤ 256

namespace Message

theorem nil_bounded : ([] : List UInt8).length ≤ 256 := Nat.zero_le _

/-- The LENGTH field of the message. -/
def length (m : Message) : UInt16 := UInt16.ofNat m.payload.length

@[simp] theorem length_toNat (m : Message) : m.length.toNat = m.payload.length := by
  have := m.bounded
  simp only [length, UInt16.toNat_ofNat']
  omega

/-- The bytes the CRC covers: VERSION | MSG_ID | SEQ | LENGTH | PAYLOAD
    (`docs/protocol_v1.md` section 8.2). -/
def covered (m : Message) : List UInt8 :=
  protocolVersion :: m.msgId :: (writeU16Be m.seq ++ (writeU16Be m.length ++ m.payload))

/-- A frame around the message whose CRC field is `crc`, right or wrong. -/
def framed (m : Message) (crc : UInt16) : List UInt8 :=
  writeU16Be protocolMagic ++ (m.covered ++ writeU16Be crc)

/-- The CRC of the message. -/
def crc (m : Message) : UInt16 := crc16CcittFalse m.covered

/-- The valid frame of the message. -/
def wire (m : Message) : List UInt8 := m.framed m.crc

/-- The packet `protocol_decode` leaves behind for the message in a packet that held `q`: the
    payload bytes of `q` from the message's length on stay. -/
def packet (m : Message) (q : ProtocolPacket) : ProtocolPacket where
  version := protocolVersion
  msgId := m.msgId
  seq := m.seq
  length := m.length
  payload := copyPayload q.payload m.payload m.payload.length

@[simp] theorem covered_length (m : Message) : m.covered.length = m.payload.length + 6 := by
  simp only [covered, List.length_cons, List.length_append, writeU16Be_length]
  omega

@[simp] theorem framed_length (m : Message) (crc : UInt16) :
    (m.framed crc).length = m.payload.length + 10 := by
  simp only [framed, List.length_append, writeU16Be_length, covered_length]
  omega

@[simp] theorem wire_length (m : Message) : m.wire.length = m.payload.length + 10 :=
  m.framed_length _

end Message

/-- The content of a packet: the fields on the wire. -/
def ProtocolPacket.message (p : ProtocolPacket) : Message where
  msgId := p.msgId
  seq := p.seq
  payload := p.payload.toList.take p.length.toNat
  bounded := by simp only [List.length_take, Vector.length_toList]; omega

/-- A packet `protocol_encode` accepts when the buffer is large enough. -/
def ProtocolPacket.Encodable (p : ProtocolPacket) : Prop :=
  p.version = protocolVersion ∧ p.length.toNat ≤ 256

instance (p : ProtocolPacket) : Decidable p.Encodable :=
  inferInstanceAs (Decidable (_ ∧ _))

namespace ProtocolPacket

theorem Encodable.payload_length {p : ProtocolPacket} (h : p.Encodable) :
    p.message.payload.length = p.length.toNat := by
  have := h.2
  simp only [message, List.length_take, Vector.length_toList]
  omega

theorem Encodable.message_length {p : ProtocolPacket} (h : p.Encodable) :
    p.message.length = p.length := by
  apply UInt16.toNat_inj.mp
  rw [Message.length_toNat, h.payload_length]

end ProtocolPacket

/-- `r` shows the same message as `p`: the same header fields and the same first `length`
    payload bytes. -/
structure ProtocolPacket.SameMessage (r p : ProtocolPacket) : Prop where
  version : r.version = p.version
  msgId : r.msgId = p.msgId
  seq : r.seq = p.seq
  length : r.length = p.length
  payload : ∀ i (hi : i < 256), i < p.length.toNat → r.payload[i] = p.payload[i]

/-! ## The packet of a message -/

theorem copyPayload_toList_take (payload : Vector UInt8 256) (src : List UInt8)
    (h : src.length ≤ 256) :
    (copyPayload payload src src.length).toList.take src.length = src := by
  apply List.ext_getElem
  · simp [h]
  · intro i h1 h2
    simp [copyPayload, h2]

theorem copyPayload_getElem_lt (payload : Vector UInt8 256) (src : List UInt8)
    {count i : Nat} (hi : i < 256) (h : i < count) :
    (copyPayload payload src count)[i] = src.getD i 0 := by
  simp [copyPayload, h]

theorem copyPayload_getElem_ge (payload : Vector UInt8 256) (src : List UInt8)
    {count i : Nat} (hi : i < 256) (h : count ≤ i) :
    (copyPayload payload src count)[i] = payload[i] := by
  simp [copyPayload, Nat.not_lt.mpr h]

/-- Only the first `count` source bytes reach the payload. -/
theorem copyPayload_append (payload : Vector UInt8 256) (src rest : List UInt8) :
    copyPayload payload (src ++ rest) src.length = copyPayload payload src src.length := by
  apply Vector.ext
  intro i hi
  by_cases h : i < src.length
  · rw [copyPayload_getElem_lt _ _ hi h, copyPayload_getElem_lt _ _ hi h]
    simp [List.getD_eq_getElem?_getD, List.getElem?_append_left h]
  · rw [copyPayload_getElem_ge _ _ hi (by omega), copyPayload_getElem_ge _ _ hi (by omega)]

namespace Message

theorem packet_encodable (m : Message) (q : ProtocolPacket) : (m.packet q).Encodable :=
  ⟨rfl, by simpa only [packet, length_toNat] using m.bounded⟩

@[simp] theorem packet_message (m : Message) (q : ProtocolPacket) : (m.packet q).message = m := by
  apply Message.ext
  · rfl
  · rfl
  · simp only [ProtocolPacket.message, packet, length_toNat]
    exact copyPayload_toList_take _ _ m.bounded

end Message

end Rs422Gateway
