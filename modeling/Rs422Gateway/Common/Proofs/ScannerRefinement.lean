import Rs422Gateway.Common.Scanner

/-!
# The stream parser refines the frame scanner

`Represents parser held` relates a parser of `common/stream_parser.c` to the bytes it holds. Every
call of `stream_parser_feed_byte` follows one `scan` of these bytes: the same report, counted in
the matching counter, and the relation again afterwards. Only the branches that `scan` has are
taken, so the parser's other branches (an index past the buffer, an expected length past the
frame size or overrun, `default`) are dead.
-/

namespace Rs422Gateway

open Scanner

namespace Report

/-- The event a report is returned as. -/
def event : Report → StreamParserEvent
  | .none => .none
  | .frame _ => .frame
  | .error _ => .error

/-- The caller's packet after a report. -/
def packet (q : ProtocolPacket) : Report → ProtocolPacket
  | .frame m => m.packet q
  | _ => q

/-! What a report adds to the statistics. -/

def framesOk : Report → UInt32
  | .frame _ => 1
  | _ => 0

def crcErrors : Report → UInt32
  | .error .errCrc => 1
  | _ => 0

def formatErrors : Report → UInt32
  | .error .errCrc => 0
  | .error _ => 1
  | _ => 0

end Report

namespace StreamParser

/-- The first bytes of the frame buffer, up to the index, are `held`. -/
structure Holds (p : StreamParser) (held : List UInt8) : Prop where
  bytes : p.frameBuffer.toList.take held.length = held
  index : p.frameIndex = held.length

/-- The state in which the parser holds `held`. -/
def stateOf (held : List UInt8) : StreamParserState :=
  if held.length = 0 then .waitMagic1
  else if held.length = 1 then .waitMagic2
  else if held.length < 8 then .readHeader
  else .readRest

/-- The parser holds exactly `held` and is in the state for it. -/
structure Represents (p : StreamParser) (held : List UInt8) : Prop extends Holds p held where
  state : p.state = stateOf held
  expected : 8 ≤ held.length → p.expectedFrameLength = lengthField held + 10
  candidate : Candidate held

/-- One call of `stream_parser_feed_byte`, from `p` with the caller's packet `q` to `out`, does
    what the report says: event, packet, error code and statistics. -/
structure Follows (p : StreamParser) (q : ProtocolPacket)
    (out : StreamParser × StreamParserEvent × ProtocolPacket) (report : Report)
    (discarded : Nat) : Prop where
  event : out.2.1 = report.event
  packet : out.2.2 = report.packet q
  lastError : ∀ e, report = .error e → out.1.lastError = e
  framesOk : out.1.framesOk = p.framesOk + report.framesOk
  crcErrors : out.1.crcErrors = p.crcErrors + report.crcErrors
  formatErrors : out.1.formatErrors = p.formatErrors + report.formatErrors
  discardedBytes : out.1.discardedBytes = p.discardedBytes + UInt32.ofNat discarded

/-- The bytes below the index can be read back. -/
theorem Holds.byteAt {p : StreamParser} {held : List UInt8} (h : p.Holds held) {i : Nat}
    (hi : i < held.length) : p.byteAt i = held.getD i 0 := by
  have hget : (p.frameBuffer.toList.take held.length)[i]? = p.frameBuffer.toList[i]? :=
    List.getElem?_take_of_lt hi
  rw [h.bytes] at hget
  simp only [StreamParser.byteAt, List.getD_eq_getElem?_getD, hget]

theorem Holds.lengthField {p : StreamParser} {held : List UInt8} (h : p.Holds held)
    (long : 8 ≤ held.length) :
    (readU16Be (p.frameBuffer.toList.drop offsetLength)).toNat = lengthField held := by
  have happend : p.frameBuffer.toList = held ++ p.frameBuffer.toList.drop held.length := by
    conv_lhs => rw [← List.take_append_drop held.length p.frameBuffer.toList, h.bytes]
  rw [happend]
  obtain ⟨b0, b1, b2, b3, b4, b5, b6, b7, rest, rfl⟩ := exists_header held long
  rfl

/-- A store at the index extends the bytes held. -/
theorem Holds.store {p : StreamParser} {held : List UInt8} (h : p.Holds held) (byte : UInt8)
    (room : held.length < 266) : (p.store byte).Holds (held ++ [byte]) where
  bytes := by
    have hsize : held.length < p.frameBuffer.toList.length := by
      rwa [Vector.length_toList]
    have hset : held.length < (p.frameBuffer.toList.set held.length byte).length := by
      rwa [List.length_set]
    simp only [StreamParser.store, Vector.toList_setIfInBounds, h.index, List.length_append,
      List.length_singleton]
    rw [List.take_succ_eq_append_getElem hset, List.take_set_of_le (Nat.le_refl _), h.bytes,
      List.getElem_set_self]
  index := by simp [StreamParser.store, h.index]

/-- The first bytes after a store at the start of the buffer. -/
theorem set_zero_take (buffer : Vector UInt8 266) (byte : UInt8) :
    (buffer.setIfInBounds 0 byte).toList.take 1 = [byte] := by
  have hsize : 0 < (buffer.toList.set 0 byte).length := by
    rw [List.length_set, Vector.length_toList]
    omega
  rw [Vector.toList_setIfInBounds, List.take_succ_eq_append_getElem hsize, List.getElem_set_self]
  rfl

theorem set_one_take {buffer : Vector UInt8 266} {first : UInt8} (byte : UInt8)
    (h : buffer.toList.take 1 = [first]) :
    (buffer.setIfInBounds 1 byte).toList.take 2 = [first, byte] := by
  have hsize : 1 < (buffer.toList.set 1 byte).length := by
    rw [List.length_set, Vector.length_toList]
    omega
  rw [Vector.toList_setIfInBounds, List.take_succ_eq_append_getElem hsize, List.getElem_set_self,
    List.take_set_of_le (Nat.le_refl _), h]
  rfl

/-! ## The MAGIC search after a rejected header -/

theorem resyncFromTail_represents {p : StreamParser} {held : List UInt8} (h : p.Holds held)
    (long : 2 ≤ held.length) : p.resyncFromTail.Represents (tail held) := by
  obtain ⟨init, x, y, rfl⟩ : ∃ init x y, held = init ++ [x, y] := by
    have hdrop : (held.drop (held.length - 2)).length = 2 := by
      rw [List.length_drop]
      omega
    obtain ⟨x, y, hxy⟩ := List.length_eq_two.mp hdrop
    exact ⟨held.take (held.length - 2), x, y, by rw [← hxy, List.take_append_drop]⟩
  have hindex : p.frameIndex = init.length + 2 := by
    simpa using h.index
  have hx : p.byteAt init.length = x := by
    rw [h.byteAt (by simp)]
    simp
  have hy : p.byteAt (init.length + 1) = y := by
    rw [h.byteAt (by simp)]
    simp
  rw [tail_append_pair]
  simp only [resyncFromTail, hindex, Nat.add_sub_cancel, hx,
    show init.length + 2 - 1 = init.length + 1 from rfl, hy]
  have hlong : 2 ≤ init.length + 2 := by omega
  have hone : 1 ≤ init.length + 2 := by omega
  simp only [hlong, hone, true_and]
  split
  · exact ⟨⟨set_one_take _ (set_zero_take _ _), rfl⟩, rfl, by simp,
      .header _ (List.prefix_refl _) (by decide)⟩
  split
  · exact ⟨⟨set_zero_take _ _, rfl⟩, rfl, by simp, .half⟩
  · exact ⟨⟨rfl, rfl⟩, rfl, by simp, .empty⟩

/-! ## One byte -/

section Feed

variable {p : StreamParser} {held : List UInt8} (q : ProtocolPacket) (byte : UInt8)

theorem resetFrame_represents (p : StreamParser) : p.resetFrame.Represents [] :=
  ⟨⟨rfl, rfl⟩, rfl, by simp, .empty⟩

/-- A byte that is neither counted nor reported. -/
theorem follows_none {p p' : StreamParser} (q : ProtocolPacket)
    (framesOk : p'.framesOk = p.framesOk) (crcErrors : p'.crcErrors = p.crcErrors)
    (formatErrors : p'.formatErrors = p.formatErrors)
    (discardedBytes : p'.discardedBytes = p.discardedBytes) :
    p.Follows q (p', .none, q) .none 0 where
  event := rfl
  packet := rfl
  lastError := nofun
  framesOk := framesOk.trans (UInt32.add_zero _).symm
  crcErrors := crcErrors.trans (UInt32.add_zero _).symm
  formatErrors := formatErrors.trans (UInt32.add_zero _).symm
  discardedBytes := discardedBytes.trans (UInt32.add_zero _).symm

theorem feedWaitMagic1_refines (h : p.Represents []) :
    (p.feedWaitMagic1 byte).Represents (scan [] byte).1 ∧
      p.Follows q (p.feedWaitMagic1 byte, .none, q) (scan [] byte).2 (discards [] byte) := by
  rw [scan_nil, feedWaitMagic1, discards]
  split
  case isTrue hbyte =>
    subst hbyte
    exact ⟨⟨⟨set_zero_take _ _, rfl⟩, rfl, by simp, .half⟩, follows_none q rfl rfl rfl rfl⟩
  case isFalse =>
    exact ⟨⟨⟨h.bytes, h.index⟩, h.state, by simp, .empty⟩,
      ⟨rfl, rfl, nofun, by simp [Report.framesOk], by simp [Report.crcErrors],
        by simp [Report.formatErrors], rfl⟩⟩

theorem feedWaitMagic2_refines (h : p.Represents [magicHi]) :
    (p.feedWaitMagic2 byte).Represents (scan [magicHi] byte).1 ∧
      p.Follows q (p.feedWaitMagic2 byte, .none, q) (scan [magicHi] byte).2
        (discards [magicHi] byte) := by
  have hone : p.frameBuffer.toList.take 1 = [magicHi] := h.bytes
  rw [scan_singleton, feedWaitMagic2, discards]
  split
  case isTrue hbyte =>
    subst hbyte
    exact ⟨⟨⟨set_one_take _ hone, rfl⟩, rfl, by simp, .header _ (List.prefix_refl _) (by decide)⟩,
      follows_none q rfl rfl rfl rfl⟩
  split
  case isTrue =>
    exact ⟨⟨⟨set_zero_take _ _, rfl⟩, h.state, by simp, .half⟩,
      ⟨rfl, rfl, nofun, by simp [Report.framesOk], by simp [Report.crcErrors],
        by simp [Report.formatErrors], rfl⟩⟩
  case isFalse =>
    exact ⟨⟨⟨rfl, rfl⟩, rfl, by simp, .empty⟩,
      ⟨rfl, rfl, nofun, by simp [Report.framesOk], by simp [Report.crcErrors],
        by simp [Report.formatErrors], rfl⟩⟩

/-- The MAGIC search leaves the error code and the statistics alone. -/
theorem resyncFromTail_statistics (p : StreamParser) :
    p.resyncFromTail.lastError = p.lastError ∧ p.resyncFromTail.framesOk = p.framesOk ∧
      p.resyncFromTail.crcErrors = p.crcErrors ∧
      p.resyncFromTail.formatErrors = p.formatErrors ∧
      p.resyncFromTail.discardedBytes = p.discardedBytes := by
  unfold resyncFromTail
  dsimp only
  split
  · exact ⟨rfl, rfl, rfl, rfl, rfl⟩
  split
  · exact ⟨rfl, rfl, rfl, rfl, rfl⟩
  · exact ⟨rfl, rfl, rfl, rfl, rfl⟩

/-- A header the parser rejects after storing its last byte. -/
theorem rejectHeader_refines {p : StreamParser} {held : List UInt8} (q : ProtocolPacket)
    (byte : UInt8) (h : (p.store byte).Holds (held ++ [byte])) (long : 2 ≤ (held ++ [byte]).length)
    {error : ProtocolResult} (he : error ≠ .errCrc) :
    ((p.store byte).rejectHeader error).Represents (tail (held ++ [byte])) ∧
      p.Follows q ((p.store byte).rejectHeader error, .error, q) (.error error) 0 := by
  obtain ⟨h1, h2, h3, h4, h5⟩ := resyncFromTail_statistics
    { p.store byte with
      lastError := error, formatErrors := (p.store byte).formatErrors + 1 }
  refine ⟨resyncFromTail_represents ⟨h.bytes, h.index⟩ long, rfl, rfl, ?_, ?_, ?_, ?_, ?_⟩
  · rintro e ⟨⟩
    exact h1
  · exact h2.trans (UInt32.add_zero _).symm
  · refine h3.trans ?_
    cases error <;> first | exact absurd rfl he | exact (UInt32.add_zero _).symm
  · refine h4.trans ?_
    cases error <;> first | exact absurd rfl he | rfl
  · exact h5.trans (UInt32.add_zero _).symm

theorem feedReadHeader_refines (h : p.Represents held) (long : 2 ≤ held.length)
    (short : held.length < 8) :
    (p.feedReadHeader byte).1.Represents (scan held byte).1 ∧
      p.Follows q ((p.feedReadHeader byte).1, (p.feedReadHeader byte).2, q)
        (scan held byte).2 (discards held byte) := by
  have hstore := h.store byte (by omega)
  have hlength : (held ++ [byte]).length = held.length + 1 := List.length_append
  have hindex : (p.store byte).frameIndex = held.length + 1 := hstore.index.trans hlength
  have hmagic : [magicHi, magicLo] <+: held := by
    cases h.candidate with
    | empty => exact absurd long (by decide)
    | half => exact absurd long (by decide)
    | header _ magic => exact magic
    | frame _ magic => exact magic
  have hmagic' : [magicHi, magicLo] <+: held ++ [byte] :=
    hmagic.trans (List.prefix_append held [byte])
  have hroom : ¬ 8 ≤ p.frameIndex := by
    rw [h.index]
    omega
  rw [discards_of_long byte long]
  simp only [feedReadHeader, protocolFixedHeaderSize, protocolMaxPayload, protocolCrcSize,
    protocolMaxFrameSize, if_neg hroom, hindex]
  by_cases h7 : held.length = 7
  · have hversion : (p.store byte).byteAt offsetVersion = (held ++ [byte]).getD offsetVersion 0 :=
      hstore.byteAt (by rw [hlength, h7]; decide)
    rw [scan_lastHeader byte h7, if_neg (by omega), hversion, hstore.lengthField (by omega)]
    split
    case isTrue => exact rejectHeader_refines q byte hstore (by omega) (by decide)
    case isFalse hgood =>
      split
      case isTrue => exact rejectHeader_refines q byte hstore (by omega) (by decide)
      case isFalse hbound =>
        have hfits : ¬ 8 + 256 + 2 < 8 + lengthField (held ++ [byte]) + 2 := by omega
        rw [if_neg hfits]
        refine ⟨⟨⟨hstore.bytes, hlength.symm⟩, ?_, ?_, ?_⟩, follows_none q rfl rfl rfl rfl⟩
        · simp [stateOf, h7]
        · intro _
          show 8 + lengthField (held ++ [byte]) + 2 = lengthField (held ++ [byte]) + 10
          omega
        · exact .frame _ hmagic' (by dsimp only; omega) (Decidable.not_not.mp hgood)
            (by dsimp only; omega)
            (by dsimp only; omega)
  · rw [scan_header byte long (by omega), if_pos (by omega)]
    dsimp only
    refine ⟨⟨hstore, ?_, ?_, .header _ hmagic' (by omega)⟩, follows_none q rfl rfl rfl rfl⟩
    · have hstate : p.state = stateOf (held ++ [byte]) := by
        rw [h.state, stateOf, stateOf, hlength, if_neg (by omega), if_neg (by omega),
          if_pos short, if_neg (by omega), if_neg (by omega), if_pos (by omega)]
      exact hstate
    · intro hlong
      omega

theorem feedReadRest_refines (h : p.Represents held) (long : 8 ≤ held.length) :
    (p.feedReadRest byte q).1.Represents (scan held byte).1 ∧
      p.Follows q (p.feedReadRest byte q) (scan held byte).2 (discards held byte) := by
  have hlength : (held ++ [byte]).length = held.length + 1 := List.length_append
  have hcandidate : [magicHi, magicLo] <+: held ∧
      held.getD offsetVersion 0 = protocolVersion ∧ lengthField held ≤ 256 ∧
      held.length < lengthField held + 10 := by
    cases h.candidate with
    | empty => exact absurd long (by decide)
    | half => exact absurd long (by decide)
    | header _ _ short => omega
    | frame _ magic _ version bound short => exact ⟨magic, version, bound, short⟩
  obtain ⟨magic, version, bound, short⟩ := hcandidate
  have hexpected := h.expected long
  have hstore := h.store byte (by omega)
  have hindex : (p.store byte).frameIndex = held.length + 1 := hstore.index.trans hlength
  have hexpected' : (p.store byte).expectedFrameLength = lengthField held + 10 := hexpected
  have hroom : ¬ 8 + 256 + 2 ≤ p.frameIndex := by
    rw [h.index]
    omega
  rw [discards_of_long byte (by omega)]
  simp only [feedReadRest, protocolFixedHeaderSize, protocolMaxPayload, protocolCrcSize,
    protocolMaxFrameSize, if_neg hroom, hindex, hexpected']
  by_cases last : held.length + 1 = lengthField held + 10
  · obtain ⟨m, crc, hm⟩ := exists_framed magic long version bound last
    have hbytes : (p.store byte).frameBuffer.toList.take (held.length + 1) = m.framed crc := by
      rw [← hm, ← hstore.bytes, hlength]
    rw [scan_complete long m crc hm, if_neg (by omega), if_neg (by omega), hbytes,
      protocolDecode_framed]
    by_cases hcrc : crc = m.crc
    · simp only [if_pos hcrc]
      refine ⟨resetFrame_represents _, rfl, rfl, nofun, rfl, ?_, ?_, ?_⟩
      · exact (UInt32.add_zero _).symm
      · exact (UInt32.add_zero _).symm
      · exact (UInt32.add_zero _).symm
    · simp only [if_neg hcrc, reduceCtorEq, if_false, if_true]
      refine ⟨⟨⟨rfl, rfl⟩, rfl, by simp, .empty⟩, rfl, rfl, ?_, ?_, rfl, ?_, ?_⟩
      · rintro e ⟨⟩
        rfl
      · exact (UInt32.add_zero _).symm
      · exact (UInt32.add_zero _).symm
      · exact (UInt32.add_zero _).symm
  · have hfield := lengthField_append byte long
    rw [scan_rest byte long, if_pos (by omega), if_pos (by omega)]
    refine ⟨⟨hstore, ?_, ?_, ?_⟩, follows_none q rfl rfl rfl rfl⟩
    · have hstate : p.state = stateOf (held ++ [byte]) := by
        rw [h.state, stateOf, stateOf, hlength, if_neg (by omega), if_neg (by omega),
          if_neg (by omega), if_neg (by omega), if_neg (by omega), if_neg (by omega)]
      exact hstate
    · intro _
      dsimp only
      omega
    · exact .frame _ (magic.trans (List.prefix_append held [byte])) (by dsimp only; omega)
        ((version_append byte long).trans version) (by dsimp only; omega) (by dsimp only; omega)

/-- One call of `stream_parser_feed_byte` does what the scanner does with the bytes held. -/
theorem feedByte_refines (h : p.Represents held) :
    (p.feedByte byte q).1.Represents (scan held byte).1 ∧
      p.Follows q (p.feedByte byte q) (scan held byte).2 (discards held byte) := by
  have hstate := h.state
  have hcandidate := h.candidate
  unfold feedByte
  cases hcandidate with
  | empty =>
    rw [hstate]
    exact feedWaitMagic1_refines q byte h
  | half =>
    rw [hstate]
    exact feedWaitMagic2_refines q byte h
  | header _ magic short =>
    have long : 2 ≤ held.length := magic.length_le
    have hread : stateOf held = .readHeader := by
      rw [stateOf, if_neg (by omega), if_neg (by omega), if_pos short]
    rw [hstate, hread]
    exact feedReadHeader_refines q byte h long short
  | frame _ _ long =>
    have hread : stateOf held = .readRest := by
      rw [stateOf, if_neg (by omega), if_neg (by omega), if_neg (by omega)]
    rw [hstate, hread]
    exact feedReadRest_refines q byte h long

end Feed

/-! ## Streams -/

/-- What the caller sees agrees with a report. -/
def Output.Agrees (out : Output) : Report → Prop
  | .none => out.event = .none
  | .frame m => out.event = .frame ∧ out.packet.Encodable ∧ out.packet.message = m
  | .error e => out.event = .error ∧ out.lastError = e

theorem init_represents : init.Represents [] :=
  ⟨⟨rfl, rfl⟩, rfl, by simp, .empty⟩

/-- A parser that waits for the first byte of a frame, whatever else is in it. -/
theorem represents_nil {p : StreamParser} (state : p.state = .waitMagic1)
    (index : p.frameIndex = 0) : p.Represents [] :=
  ⟨⟨rfl, index⟩, state, by simp, .empty⟩

namespace Receiver

variable {r : Receiver} {held : List UInt8}

theorem output_agrees (h : r.parser.Represents held) (byte : UInt8) :
    (r.output byte).Agrees (scan held byte).2 := by
  have hf := (feedByte_refines r.outPacket byte h).2
  have hevent : (r.output byte).event = (scan held byte).2.event := hf.event
  have hpacket : (r.output byte).packet = (scan held byte).2.packet r.outPacket := hf.packet
  have herror : ∀ e, (scan held byte).2 = .error e → (r.output byte).lastError = e := hf.lastError
  cases hreport : (scan held byte).2 with
  | none => exact hevent.trans (congrArg Report.event hreport)
  | frame m =>
    rw [hreport] at hevent hpacket
    refine ⟨hevent, ?_⟩
    rw [hpacket]
    exact ⟨m.packet_encodable _, m.packet_message _⟩
  | error e =>
    rw [hreport] at hevent
    exact ⟨hevent, herror e hreport⟩

theorem feed_represents (h : r.parser.Represents held) (byte : UInt8) :
    (r.feed byte).parser.Represents (scan held byte).1 :=
  (feedByte_refines r.outPacket byte h).1

theorem feedAll_represents (h : r.parser.Represents held) (bytes : List UInt8) :
    (r.feedAll bytes).parser.Represents (scanAll held bytes) := by
  induction bytes generalizing r held with
  | nil => exact h
  | cons byte rest ih => exact ih (feed_represents h byte)

/-- Whatever is called, the parser holds a candidate. -/
theorem callAll_represents (h : r.parser.Represents held) (calls : List Call) :
    ∃ held', (r.callAll calls).parser.Represents held' := by
  induction calls generalizing r held with
  | nil => exact ⟨held, h⟩
  | cons c calls ih =>
    cases c with
    | feedByte byte => exact ih (feed_represents h byte)
    | resetFrame => exact ih (resetFrame_represents r.parser)

theorem outputs_agree (h : r.parser.Represents held) (bytes : List UInt8) :
    List.Forall₂ Output.Agrees (r.outputs bytes) (reports held bytes) := by
  induction bytes generalizing r held with
  | nil => exact .nil
  | cons byte rest ih => exact .cons (output_agrees h byte) (ih (feed_represents h byte))

/-- The statistics after a stream count the reports, mod 2^32. -/
theorem feedAll_statistics (h : r.parser.Represents held) (bytes : List UInt8) :
    (r.feedAll bytes).parser.framesOk
        = r.parser.framesOk + ((reports held bytes).map Report.framesOk).sum ∧
      (r.feedAll bytes).parser.crcErrors
        = r.parser.crcErrors + ((reports held bytes).map Report.crcErrors).sum ∧
      (r.feedAll bytes).parser.formatErrors
        = r.parser.formatErrors + ((reports held bytes).map Report.formatErrors).sum ∧
      (r.feedAll bytes).parser.discardedBytes
        = r.parser.discardedBytes + UInt32.ofNat (discardsAll held bytes) := by
  induction bytes generalizing r held with
  | nil => exact ⟨by simp [reports, feedAll], by simp [reports, feedAll],
      by simp [reports, feedAll], by simp [discardsAll, feedAll]⟩
  | cons byte rest ih =>
    have hf := (feedByte_refines r.outPacket byte h).2
    have h1 : (r.feed byte).parser.framesOk = _ := hf.framesOk
    have h2 : (r.feed byte).parser.crcErrors = _ := hf.crcErrors
    have h3 : (r.feed byte).parser.formatErrors = _ := hf.formatErrors
    have h4 : (r.feed byte).parser.discardedBytes = _ := hf.discardedBytes
    obtain ⟨i1, i2, i3, i4⟩ := ih (feed_represents h byte)
    have hcons : r.feedAll (byte :: rest) = (r.feed byte).feedAll rest := rfl
    simp only [hcons, i1, i2, i3, i4, h1, h2, h3, h4, reports, discardsAll, List.map_cons,
      List.sum_cons, UInt32.ofNat_add, UInt32.add_assoc]
    exact ⟨trivial, trivial, trivial, trivial⟩

end Receiver

end StreamParser

end Rs422Gateway
