import Rs422Gateway.Common.Crc16

/-!
# Protocol V1 frames

Rendering of `common/protocol.h` and `common/protocol.c`. A buffer is the list of the
`buffer_size` bytes behind its pointer and `size_t` is `Nat`. A pointer is the object it points
to, so the NULL checks that open `protocol_encode` and `protocol_decode` (`protocol.c:30-33`,
`92-95`) have no input; `errNull` stays in the enumeration for the header's sake.
-/

namespace Rs422Gateway

/-- `PROTOCOL_MAGIC` (`protocol.h:11`). -/
def protocolMagic : UInt16 := 0xAA55
/-- `PROTOCOL_VERSION` (`protocol.h:12`). -/
def protocolVersion : UInt8 := 0x01
/-- `PROTOCOL_MAX_PAYLOAD` (`protocol.h:13`). -/
abbrev protocolMaxPayload : Nat := 256
/-- `PROTOCOL_FIXED_HEADER_SIZE` (`protocol.h:15`). -/
abbrev protocolFixedHeaderSize : Nat := 8
/-- `PROTOCOL_CRC_SIZE` (`protocol.h:16`). -/
abbrev protocolCrcSize : Nat := 2
/-- `PROTOCOL_MIN_FRAME_SIZE` (`protocol.h:17`). -/
abbrev protocolMinFrameSize : Nat := protocolFixedHeaderSize + protocolCrcSize
/-- `PROTOCOL_MAX_FRAME_SIZE` (`protocol.h:18`). -/
abbrev protocolMaxFrameSize : Nat :=
  protocolFixedHeaderSize + protocolMaxPayload + protocolCrcSize

/-! The message identifiers (`protocol.h:21-27`). -/

def msgPing : UInt8 := 0x01
def msgPong : UInt8 := 0x81
def msgReadStatus : UInt8 := 0x10
def msgStatusResp : UInt8 := 0x90
def msgHeartbeat : UInt8 := 0x20
def msgTelemetry : UInt8 := 0x40
def msgError : UInt8 := 0xE0

/-! The field offsets (`protocol.c:6-11`). -/

abbrev offsetMagic : Nat := 0
abbrev offsetVersion : Nat := 2
abbrev offsetMsgId : Nat := 3
abbrev offsetSeq : Nat := 4
abbrev offsetLength : Nat := 6
abbrev offsetPayload : Nat := 8

/-- `protocol_result_t` (`protocol.h:29-39`). -/
inductive ProtocolResult where
  | ok
  | errNull
  | errBuffer
  | errMagic
  | errVersion
  | errLength
  | errFrameSize
  | errCrc
  deriving DecidableEq, Repr

/-- `protocol_packet_t` (`protocol.h:49-56`). The payload array always has 256 bytes; only the
    first `length` of them are on the wire. -/
structure ProtocolPacket where
  version : UInt8
  msgId : UInt8
  seq : UInt16
  length : UInt16
  payload : Vector UInt8 256
  deriving DecidableEq

/-- The all-zero packet, as static storage and `memset` leave it. -/
def ProtocolPacket.zero : ProtocolPacket :=
  ⟨0, 0, 0, 0, Vector.replicate 256 0⟩

/-- `write_u16_be` (`protocol.c:13-17`): the two bytes it stores. -/
def writeU16Be (value : UInt16) : List UInt8 :=
  [((value >>> 8) &&& 0xFF).toUInt8, (value &&& 0xFF).toUInt8]

/-- `read_u16_be` (`protocol.c:19-22`). -/
def readU16Be (src : List UInt8) : UInt16 :=
  ((src.getD 0 0).toUInt16 <<< 8) ||| (src.getD 1 0).toUInt16

/-- `bytes` stored over `buffer` from `offset` on, as the indexed stores and `memcpy` do. -/
def overwrite (buffer : List UInt8) (offset : Nat) (bytes : List UInt8) : List UInt8 :=
  buffer.take offset ++ bytes ++ buffer.drop (offset + bytes.length)

/-- What `protocol_encode` returns and stores through its pointers. -/
structure EncodeOutput where
  result : ProtocolResult
  buffer : List UInt8
  encodedLength : Nat

/-- `protocol_encode` (`protocol.c:24-85`). -/
def protocolEncode (packet : ProtocolPacket) (buffer : List UInt8) : EncodeOutput :=
  if packet.version ≠ protocolVersion then ⟨.errVersion, buffer, 0⟩
  else if protocolMaxPayload < packet.length.toNat then ⟨.errLength, buffer, 0⟩
  else
    let frameLength := protocolFixedHeaderSize + packet.length.toNat + protocolCrcSize
    if buffer.length < frameLength then ⟨.errBuffer, buffer, 0⟩
    else
      let buffer := overwrite buffer offsetMagic (writeU16Be protocolMagic)
      let buffer := overwrite buffer offsetVersion [packet.version]
      let buffer := overwrite buffer offsetMsgId [packet.msgId]
      let buffer := overwrite buffer offsetSeq (writeU16Be packet.seq)
      let buffer := overwrite buffer offsetLength (writeU16Be packet.length)
      let buffer :=
        if 0 < packet.length then
          overwrite buffer offsetPayload (packet.payload.toList.take packet.length.toNat)
        else buffer
      let crcInputLength := 6 + packet.length.toNat
      let crc := crc16CcittFalse ((buffer.drop offsetVersion).take crcInputLength)
      let buffer := overwrite buffer (offsetPayload + packet.length.toNat) (writeU16Be crc)
      ⟨.ok, buffer, frameLength⟩

/-- `memcpy(packet->payload, src, count)`: the bytes from `count` on keep their old values. -/
def copyPayload (payload : Vector UInt8 256) (src : List UInt8) (count : Nat) :
    Vector UInt8 256 :=
  Vector.ofFn fun i => if i.val < count then src.getD i.val 0 else payload[i.val]

/-- What `protocol_decode` returns and leaves in the caller's packet. -/
structure DecodeOutput where
  result : ProtocolResult
  packet : ProtocolPacket

/-- `protocol_decode` (`protocol.c:87-152`). The buffer holds exactly `buffer_length` bytes. -/
def protocolDecode (buffer : List UInt8) (packet : ProtocolPacket) : DecodeOutput :=
  if buffer.length < protocolMinFrameSize then ⟨.errBuffer, packet⟩
  else if readU16Be (buffer.drop offsetMagic) ≠ protocolMagic then ⟨.errMagic, packet⟩
  else if buffer.getD offsetVersion 0 ≠ protocolVersion then ⟨.errVersion, packet⟩
  else
    let payloadLength := readU16Be (buffer.drop offsetLength)
    if protocolMaxPayload < payloadLength.toNat then ⟨.errLength, packet⟩
    else
      let expectedFrameLength :=
        protocolFixedHeaderSize + payloadLength.toNat + protocolCrcSize
      if buffer.length ≠ expectedFrameLength then ⟨.errFrameSize, packet⟩
      else
        let crcInputLength := 6 + payloadLength.toNat
        let calculatedCrc := crc16CcittFalse ((buffer.drop offsetVersion).take crcInputLength)
        let receivedCrc := readU16Be (buffer.drop (offsetPayload + payloadLength.toNat))
        if calculatedCrc ≠ receivedCrc then ⟨.errCrc, packet⟩
        else
          ⟨.ok,
            { version := buffer.getD offsetVersion 0
              msgId := buffer.getD offsetMsgId 0
              seq := readU16Be (buffer.drop offsetSeq)
              length := payloadLength
              payload :=
                if 0 < payloadLength then
                  copyPayload packet.payload (buffer.drop offsetPayload) payloadLength.toNat
                else packet.payload }⟩

/-- `protocol_encode` into a fresh `uint8_t frame[PROTOCOL_MAX_FRAME_SIZE]`, as every caller in
    the two firmwares makes the call: the encoded bytes, or `none` for a result other than
    `PROTO_OK`. -/
def encodeFrame (packet : ProtocolPacket) : Option (List UInt8) :=
  let out := protocolEncode packet (List.replicate protocolMaxFrameSize 0)
  if out.result = .ok then some (out.buffer.take out.encodedLength) else none

end Rs422Gateway
