import Rs422Gateway.Common.StreamParser

/-!
# The branches of the stream parser

Which branch of `stream_parser_feed_byte` a byte takes, what runs there and which elements of
`frame_buffer` it reads or writes. Conditions are evaluated in the order of the source, and `&&`
does not look at its second operand when the first is false.
-/

namespace Rs422Gateway

/-- The elements of `buffer` that `protocol_decode` reads (`protocol.c:97-149`). -/
def protocolDecodeIndices (buffer : List UInt8) : List Nat :=
  if buffer.length < protocolMinFrameSize then []
  else
    [offsetMagic, offsetMagic + 1] ++
      if readU16Be (buffer.drop offsetMagic) ≠ protocolMagic then []
      else
        [offsetVersion] ++
          if buffer.getD offsetVersion 0 ≠ protocolVersion then []
          else
            let payloadLength := (readU16Be (buffer.drop offsetLength)).toNat
            [offsetLength, offsetLength + 1] ++
              if protocolMaxPayload < payloadLength then []
              else if
                buffer.length ≠ protocolFixedHeaderSize + payloadLength + protocolCrcSize
              then []
              else
                List.range' offsetVersion (6 + payloadLength) ++
                  [offsetPayload + payloadLength, offsetPayload + payloadLength + 1] ++
                  -- What is read once the CRC is right has been read for the CRC.
                  [offsetMsgId, offsetSeq, offsetSeq + 1] ++
                  List.range' offsetPayload payloadLength

namespace StreamParser

/-- A branch of `stream_parser_feed_byte`. -/
inductive FeedBranch where
  /-- `STREAM_STATE_WAIT_MAGIC_1` (`stream_parser.c:93-107`). -/
  | firstMagic
  | discard
  /-- `STREAM_STATE_WAIT_MAGIC_2` (`stream_parser.c:109-135`). -/
  | secondMagic
  | firstMagicAgain
  | discardBoth
  /-- `STREAM_STATE_READ_HEADER` (`stream_parser.c:137-188`): `PROTO_ERR_BUFFER`. -/
  | headerOverrun
  | header
  | versionError
  | lengthError
  /-- `expected_frame_length > PROTOCOL_MAX_FRAME_SIZE` (`stream_parser.c:177-182`). -/
  | expectedOverlong
  | headerComplete
  /-- `STREAM_STATE_READ_REST` (`stream_parser.c:190-251`): `PROTO_ERR_BUFFER`. -/
  | restOverrun
  | rest
  /-- `PROTO_ERR_FRAME_SIZE` (`stream_parser.c:207-213`). -/
  | frameSizeError
  | decode
  deriving DecidableEq, Repr

/-- The branches that guard against a state the parser should not be in. -/
def FeedBranch.Defensive (branch : FeedBranch) : Prop :=
  branch = headerOverrun ∨ branch = expectedOverlong ∨ branch = restOverrun ∨
    branch = frameSizeError

/-- LENGTH in the buffer, as `read_u16_be` reads it. -/
def payloadLength (parser : StreamParser) : Nat :=
  (readU16Be (parser.frameBuffer.toList.drop offsetLength)).toNat

/-- `PROTOCOL_FIXED_HEADER_SIZE + payload_length + PROTOCOL_CRC_SIZE`. -/
def frameLength (parser : StreamParser) : Nat :=
  protocolFixedHeaderSize + parser.payloadLength + protocolCrcSize

/-- What `protocol_decode` is given: the first `frame_index` bytes of the buffer. -/
def candidate (parser : StreamParser) : List UInt8 :=
  parser.frameBuffer.toList.take parser.frameIndex

def feedBranch (parser : StreamParser) (byte : UInt8) : FeedBranch :=
  match parser.state with
  | .waitMagic1 => if byte = magicHi then .firstMagic else .discard
  | .waitMagic2 =>
      if byte = magicLo then .secondMagic
      else if byte = magicHi then .firstMagicAgain
      else .discardBoth
  | .readHeader =>
      if protocolFixedHeaderSize ≤ parser.frameIndex then .headerOverrun
      else
        let parser := parser.store byte
        if parser.frameIndex < protocolFixedHeaderSize then .header
        else if parser.byteAt offsetVersion ≠ protocolVersion then .versionError
        else if protocolMaxPayload < parser.payloadLength then .lengthError
        else if protocolMaxFrameSize < parser.frameLength then .expectedOverlong
        else .headerComplete
  | .readRest =>
      if protocolMaxFrameSize ≤ parser.frameIndex then .restOverrun
      else
        let parser := parser.store byte
        if parser.frameIndex < parser.expectedFrameLength then .rest
        else if parser.expectedFrameLength < parser.frameIndex then .frameSizeError
        else .decode

/-- A complete candidate is decoded (`stream_parser.c:215-250`). -/
def decodeCandidate (parser : StreamParser) (outPacket : ProtocolPacket) :
    StreamParser × StreamParserEvent × ProtocolPacket :=
  let out := protocolDecode parser.candidate outPacket
  let parser := { parser with lastError := out.result }
  if out.result = .ok then
    (resetFrame { parser with framesOk := parser.framesOk + 1 }, .frame, out.packet)
  else
    let parser :=
      if out.result = .errCrc then { parser with crcErrors := parser.crcErrors + 1 }
      else { parser with formatErrors := parser.formatErrors + 1 }
    ({ parser.resetFrame with lastError := out.result }, .error, out.packet)

/-- What runs in a branch. -/
def runBranch (parser : StreamParser) (byte : UInt8) (outPacket : ProtocolPacket) :
    FeedBranch → StreamParser × StreamParserEvent × ProtocolPacket
  | .firstMagic | .discard => (parser.feedWaitMagic1 byte, .none, outPacket)
  | .secondMagic | .firstMagicAgain | .discardBoth =>
      (parser.feedWaitMagic2 byte, .none, outPacket)
  | .headerOverrun | .restOverrun =>
      (resetFrame
        { parser with lastError := .errBuffer, formatErrors := parser.formatErrors + 1 },
        .error, outPacket)
  | .header | .rest => (parser.store byte, .none, outPacket)
  | .versionError => ((parser.store byte).rejectHeader .errVersion, .error, outPacket)
  | .lengthError => ((parser.store byte).rejectHeader .errLength, .error, outPacket)
  | .expectedOverlong =>
      (rejectHeader
        { parser.store byte with expectedFrameLength := (parser.store byte).frameLength }
        .errLength, .error, outPacket)
  | .headerComplete =>
      ({ parser.store byte with
          expectedFrameLength := (parser.store byte).frameLength, state := .readRest },
        .none, outPacket)
  | .frameSizeError =>
      (resetFrame
        { parser.store byte with
          lastError := .errFrameSize, formatErrors := parser.formatErrors + 1 },
        .error, outPacket)
  | .decode => (parser.store byte).decodeCandidate outPacket

/-- The elements of `frame_buffer` that `resync_from_tail` reads and writes. -/
def resyncIndices (parser : StreamParser) : List Nat :=
  let n := parser.frameIndex
  let magic :=
    if 2 ≤ n then (n - 2) :: if parser.byteAt (n - 2) = magicHi then [n - 1] else [] else []
  let half := if 1 ≤ n then [n - 1] else []
  if 2 ≤ n ∧ parser.byteAt (n - 2) = magicHi ∧ parser.byteAt (n - 1) = magicLo then magic ++ [0, 1]
  else if 1 ≤ n ∧ parser.byteAt (n - 1) = magicHi then magic ++ half ++ [0]
  else magic ++ half

/-- The elements of `frame_buffer` that a branch reads and writes, with the conditions that lead to
    it. -/
def branchIndices (parser : StreamParser) (byte : UInt8) : FeedBranch → List Nat
  | .firstMagic | .firstMagicAgain => [0]
  | .secondMagic => [1]
  | .discard | .discardBoth | .headerOverrun | .restOverrun => []
  | .header | .rest | .frameSizeError => [parser.frameIndex]
  | .versionError => [parser.frameIndex, offsetVersion] ++ (parser.store byte).resyncIndices
  | .lengthError | .expectedOverlong =>
      [parser.frameIndex, offsetVersion, offsetLength, offsetLength + 1] ++
        (parser.store byte).resyncIndices
  | .headerComplete => [parser.frameIndex, offsetVersion, offsetLength, offsetLength + 1]
  | .decode => parser.frameIndex :: protocolDecodeIndices (parser.store byte).candidate

/-- The elements of `frame_buffer` that a call of `stream_parser_feed_byte` reads and writes. -/
def bufferIndices (parser : StreamParser) (byte : UInt8) : List Nat :=
  parser.branchIndices byte (parser.feedBranch byte)

/-- The states a parser can be in between two calls. -/
inductive WellFormed (parser : StreamParser) : Prop where
  | waitMagic1 (state : parser.state = .waitMagic1) (index : parser.frameIndex = 0)
  | waitMagic2 (state : parser.state = .waitMagic2) (index : parser.frameIndex = 1)
      (magic : parser.byteAt 0 = magicHi)
  | readHeader (state : parser.state = .readHeader) (long : 2 ≤ parser.frameIndex)
      (short : parser.frameIndex < 8) (hi : parser.byteAt 0 = magicHi)
      (lo : parser.byteAt 1 = magicLo)
  | readRest (state : parser.state = .readRest) (long : 8 ≤ parser.frameIndex)
      (short : parser.frameIndex < parser.expectedFrameLength)
      (expected : parser.expectedFrameLength =
        10 + (256 * (parser.byteAt 6).toNat + (parser.byteAt 7).toNat))
      (bound : parser.expectedFrameLength ≤ 266) (hi : parser.byteAt 0 = magicHi)
      (lo : parser.byteAt 1 = magicLo) (version : parser.byteAt 2 = protocolVersion)

/-- An error that one of the two counters counts, from `parser` before the call to `parser'` after
    it, with the code that `last_error` is left at. -/
inductive CountsError (branch : FeedBranch) (parser parser' : StreamParser) : Prop where
  | crc (taken : branch = .decode) (code : parser'.lastError = .errCrc)
      (crcErrors : parser'.crcErrors = parser.crcErrors + 1)
      (formatErrors : parser'.formatErrors = parser.formatErrors)
  | version (taken : branch = .versionError) (code : parser'.lastError = .errVersion)
      (crcErrors : parser'.crcErrors = parser.crcErrors)
      (formatErrors : parser'.formatErrors = parser.formatErrors + 1)
  | length (taken : branch = .lengthError) (code : parser'.lastError = .errLength)
      (crcErrors : parser'.crcErrors = parser.crcErrors)
      (formatErrors : parser'.formatErrors = parser.formatErrors + 1)

end StreamParser

end Rs422Gateway
