import Rs422Gateway.Common.Protocol

/-!
# The stream parser

Rendering of `common/stream_parser.h` and `common/stream_parser.c`, which cut frames out of a
byte stream. `frame_index` and `expected_frame_length` are `size_t`, here `Nat`; a store outside
`frame_buffer` does nothing here. The caller's `out_packet` is passed in and returned, because
`protocol_decode` leaves its payload bytes past LENGTH alone. Both pointers of
`stream_parser_feed_byte` are objects, so its NULL check (`stream_parser.c:86-89`) has no input,
and `parser->state` is one of its four values, so neither has the `default` branch
(`stream_parser.c:253-257`).
-/

namespace Rs422Gateway

/-- `MAGIC_HI` (`stream_parser.c:5`). -/
def magicHi : UInt8 := 0xAA
/-- `MAGIC_LO` (`stream_parser.c:6`). -/
def magicLo : UInt8 := 0x55

/-- `stream_parser_state_t` (`stream_parser.h:13-19`). -/
inductive StreamParserState where
  | waitMagic1
  | waitMagic2
  | readHeader
  | readRest
  deriving DecidableEq, Repr

/-- `stream_parser_event_t` (`stream_parser.h:21-26`). -/
inductive StreamParserEvent where
  | error
  | none
  | frame
  deriving DecidableEq, Repr

/-- `stream_parser_t` (`stream_parser.h:28-42`). -/
structure StreamParser where
  state : StreamParserState
  frameBuffer : Vector UInt8 266
  frameIndex : Nat
  expectedFrameLength : Nat
  lastError : ProtocolResult
  framesOk : UInt32
  crcErrors : UInt32
  formatErrors : UInt32
  discardedBytes : UInt32
  deriving DecidableEq

namespace StreamParser

/-- `stream_parser_init` (`stream_parser.c:56-66`). -/
def init : StreamParser where
  state := .waitMagic1
  frameBuffer := Vector.replicate 266 0
  frameIndex := 0
  expectedFrameLength := 0
  lastError := .ok
  framesOk := 0
  crcErrors := 0
  formatErrors := 0
  discardedBytes := 0

/-- `stream_parser_reset_frame` (`stream_parser.c:68-79`). -/
def resetFrame (parser : StreamParser) : StreamParser :=
  { parser with
    state := .waitMagic1
    frameIndex := 0
    expectedFrameLength := 0
    lastError := .ok }

/-- `frame_buffer[index]`. -/
def byteAt (parser : StreamParser) (index : Nat) : UInt8 :=
  parser.frameBuffer.toList.getD index 0

/-- `resync_from_tail` (`stream_parser.c:26-54`). -/
def resyncFromTail (parser : StreamParser) : StreamParser :=
  let n := parser.frameIndex
  if 2 ≤ n ∧ parser.byteAt (n - 2) = magicHi ∧ parser.byteAt (n - 1) = magicLo then
    { parser with
      frameBuffer :=
        (parser.frameBuffer.setIfInBounds 0 magicHi).setIfInBounds 1 magicLo
      frameIndex := 2
      expectedFrameLength := 0
      state := .readHeader }
  else if 1 ≤ n ∧ parser.byteAt (n - 1) = magicHi then
    { parser with
      frameBuffer := parser.frameBuffer.setIfInBounds 0 magicHi
      frameIndex := 1
      expectedFrameLength := 0
      state := .waitMagic2 }
  else
    { parser with
      frameIndex := 0
      expectedFrameLength := 0
      state := .waitMagic1 }

/-- A rejected header: the error is recorded and counted, and the MAGIC search goes on from the
    tail (`stream_parser.c:155-160`, `165-170`, `177-182`). -/
def rejectHeader (parser : StreamParser) (error : ProtocolResult) : StreamParser :=
  resyncFromTail
    { parser with lastError := error, formatErrors := parser.formatErrors + 1 }

/-- `parser->frame_buffer[parser->frame_index++] = byte`. -/
def store (parser : StreamParser) (byte : UInt8) : StreamParser :=
  { parser with
    frameBuffer := parser.frameBuffer.setIfInBounds parser.frameIndex byte
    frameIndex := parser.frameIndex + 1 }

/-- The branch for `STREAM_STATE_WAIT_MAGIC_1` (`stream_parser.c:93-107`). -/
def feedWaitMagic1 (parser : StreamParser) (byte : UInt8) : StreamParser :=
  if byte = magicHi then
    { parser with
      frameBuffer := parser.frameBuffer.setIfInBounds 0 byte
      frameIndex := 1
      state := .waitMagic2 }
  else { parser with discardedBytes := parser.discardedBytes + 1 }

/-- The branch for `STREAM_STATE_WAIT_MAGIC_2` (`stream_parser.c:109-135`). -/
def feedWaitMagic2 (parser : StreamParser) (byte : UInt8) : StreamParser :=
  if byte = magicLo then
    { parser with
      frameBuffer := parser.frameBuffer.setIfInBounds 1 byte
      frameIndex := 2
      state := .readHeader }
  else if byte = magicHi then
    { parser with
      frameBuffer := parser.frameBuffer.setIfInBounds 0 magicHi
      frameIndex := 1
      discardedBytes := parser.discardedBytes + 1 }
  else
    { parser with
      frameIndex := 0
      state := .waitMagic1
      discardedBytes := parser.discardedBytes + 2 }

/-- The branch for `STREAM_STATE_READ_HEADER` (`stream_parser.c:137-188`). -/
def feedReadHeader (parser : StreamParser) (byte : UInt8) : StreamParser × StreamParserEvent :=
  if protocolFixedHeaderSize ≤ parser.frameIndex then
    (resetFrame
      { parser with lastError := .errBuffer, formatErrors := parser.formatErrors + 1 }, .error)
  else
    let parser := parser.store byte
    if parser.frameIndex < protocolFixedHeaderSize then (parser, .none)
    else if parser.byteAt offsetVersion ≠ protocolVersion then
      (parser.rejectHeader .errVersion, .error)
    else
      let payloadLength := readU16Be (parser.frameBuffer.toList.drop offsetLength)
      if protocolMaxPayload < payloadLength.toNat then
        (parser.rejectHeader .errLength, .error)
      else
        let parser :=
          { parser with
            expectedFrameLength :=
              protocolFixedHeaderSize + payloadLength.toNat + protocolCrcSize }
        if protocolMaxFrameSize < parser.expectedFrameLength then
          (parser.rejectHeader .errLength, .error)
        else ({ parser with state := .readRest }, .none)

/-- The branch for `STREAM_STATE_READ_REST` (`stream_parser.c:190-251`). -/
def feedReadRest (parser : StreamParser) (byte : UInt8) (outPacket : ProtocolPacket) :
    StreamParser × StreamParserEvent × ProtocolPacket :=
  if protocolMaxFrameSize ≤ parser.frameIndex then
    (resetFrame
      { parser with lastError := .errBuffer, formatErrors := parser.formatErrors + 1 },
      .error, outPacket)
  else
    let parser := parser.store byte
    if parser.frameIndex < parser.expectedFrameLength then (parser, .none, outPacket)
    else if parser.expectedFrameLength < parser.frameIndex then
      (resetFrame
        { parser with lastError := .errFrameSize, formatErrors := parser.formatErrors + 1 },
        .error, outPacket)
    else
      let out := protocolDecode (parser.frameBuffer.toList.take parser.frameIndex) outPacket
      let parser := { parser with lastError := out.result }
      if out.result = .ok then
        (resetFrame { parser with framesOk := parser.framesOk + 1 }, .frame, out.packet)
      else
        let parser :=
          if out.result = .errCrc then { parser with crcErrors := parser.crcErrors + 1 }
          else { parser with formatErrors := parser.formatErrors + 1 }
        ({ parser.resetFrame with lastError := out.result }, .error, out.packet)

/-- `stream_parser_feed_byte` (`stream_parser.c:81-259`): the parser afterwards, the event it
    returns and the caller's packet. -/
def feedByte (parser : StreamParser) (byte : UInt8) (outPacket : ProtocolPacket) :
    StreamParser × StreamParserEvent × ProtocolPacket :=
  match parser.state with
  | .waitMagic1 => (parser.feedWaitMagic1 byte, .none, outPacket)
  | .waitMagic2 => (parser.feedWaitMagic2 byte, .none, outPacket)
  | .readHeader =>
      let (parser, event) := parser.feedReadHeader byte
      (parser, event, outPacket)
  | .readRest => parser.feedReadRest byte outPacket

/-- What the caller sees of one call of `stream_parser_feed_byte`: the event, its packet and
    `parser->last_error`. -/
structure Output where
  event : StreamParserEvent
  packet : ProtocolPacket
  lastError : ProtocolResult

/-- A parser and the packet its caller passes to every call. -/
structure Receiver where
  parser : StreamParser
  outPacket : ProtocolPacket

namespace Receiver

/-- One call of `stream_parser_feed_byte`. -/
def feed (r : Receiver) (byte : UInt8) : Receiver :=
  let (parser, _, packet) := r.parser.feedByte byte r.outPacket
  ⟨parser, packet⟩

/-- What the caller sees of that call. -/
def output (r : Receiver) (byte : UInt8) : Output :=
  let (parser, event, packet) := r.parser.feedByte byte r.outPacket
  ⟨event, packet, parser.lastError⟩

/-- The bytes of a stream fed one by one, as every receive loop of the firmware does. -/
def feedAll (r : Receiver) (bytes : List UInt8) : Receiver :=
  bytes.foldl feed r

/-- What the caller sees while it feeds a stream, byte by byte. -/
def outputs (r : Receiver) : List UInt8 → List Output
  | [] => []
  | byte :: rest => r.output byte :: outputs (r.feed byte) rest

/-- A call on a parser after `stream_parser_init`. -/
inductive Call where
  | feedByte (byte : UInt8)
  | resetFrame
  deriving DecidableEq, Repr

/-- The call, with the caller's packet. -/
def call (r : Receiver) : Call → Receiver
  | .feedByte byte => r.feed byte
  | .resetFrame => { r with parser := r.parser.resetFrame }

/-- Any sequence of calls. -/
def callAll (r : Receiver) (calls : List Call) : Receiver :=
  calls.foldl call r

end Receiver

end StreamParser

end Rs422Gateway
