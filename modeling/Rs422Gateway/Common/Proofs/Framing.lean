import Rs422Gateway.Common.Proofs.ScannerRefinement

/-!
# The framing law of the stream parser

A stream that is cut into noise, valid frames and frames with a wrong CRC is reported segment by
segment, whatever the parser held of the noise when a frame began (`protocol_v1.md` section 14).
-/

namespace Rs422Gateway

open Scanner

/-- A byte string without the pair AA 55. -/
def NoMagic (bytes : List UInt8) : Prop :=
  bytes.IsChain fun a b => ¬ (a = magicHi ∧ b = magicLo)

instance (bytes : List UInt8) : Decidable (NoMagic bytes) :=
  inferInstanceAs (Decidable (List.IsChain _ _))

/-- A part of a byte stream. -/
inductive Segment where
  /-- Bytes outside any frame. -/
  | noise (bytes : List UInt8)
  /-- A valid frame. -/
  | valid (p : ProtocolPacket)
  /-- A frame around `m` whose CRC field is `crc`. -/
  | crcBad (m : Message) (crc : UInt16)

/-- What a caller of the parser is to see at one byte. -/
inductive Expected where
  | none
  | frame (p : ProtocolPacket)
  | crcError

/-- What the scanner is to report there. -/
def Expected.report : Expected → Report
  | none => .none
  | frame p => .frame p.message
  | crcError => .error .errCrc

namespace Segment

def bytes : Segment → List UInt8
  | noise b => b
  | valid p => (encodeFrame p).getD []
  | crcBad m crc => m.framed crc

def WellFormed : Segment → Prop
  | noise b => NoMagic b
  | valid p => p.Encodable
  | crcBad m crc => crc ≠ m.crc

instance (s : Segment) : Decidable s.WellFormed :=
  match s with
  | noise b => inferInstanceAs (Decidable (NoMagic b))
  | valid p => inferInstanceAs (Decidable p.Encodable)
  | crcBad m crc => inferInstanceAs (Decidable (crc ≠ m.crc))

def isNoise : Segment → Bool
  | noise _ => true
  | _ => false

def isValid : Segment → Bool
  | valid _ => true
  | _ => false

def isCrcBad : Segment → Bool
  | crcBad _ _ => true
  | _ => false

/-- The number of noise bytes of the segment. -/
def noiseLength : Segment → Nat
  | noise b => b.length
  | _ => 0

/-- One entry for each byte of the segment. -/
def expected : Segment → List Expected
  | noise b => List.replicate b.length .none
  | valid p => List.replicate (p.length.toNat + 9) .none ++ [.frame p]
  | crcBad m _ => List.replicate (m.payload.length + 9) .none ++ [.crcError]

end Segment

/-- What the caller sees is what is expected. -/
def StreamParser.Output.Meets (out : StreamParser.Output) : Expected → Prop
  | .none => out.event = .none
  | .frame p => out.event = .frame ∧ out.packet.SameMessage p
  | .crcError => out.event = .error ∧ out.lastError = .errCrc

/-! ## The bytes of a frame -/

namespace Message

/-- What a frame around `m` is reported as. -/
def report (m : Message) (crc : UInt16) : Report :=
  if crc = m.crc then .frame m else .error .errCrc

variable (m : Message) (crc : UInt16)

theorem framed_lengthField : lengthField (m.framed crc) = m.payload.length := by
  rw [lengthField, framed_length_field, length_toNat]

end Message

namespace Scanner

theorem lengthField_take {bytes : List UInt8} {k : Nat} (hk : 8 ≤ k) (long : 8 ≤ bytes.length) :
    lengthField (bytes.take k) = lengthField bytes := by
  obtain ⟨b0, b1, b2, b3, b4, b5, b6, b7, rest, rfl⟩ := exists_header bytes long
  obtain ⟨j, rfl⟩ := Nat.exists_eq_add_of_le' hk
  rfl

theorem version_take {bytes : List UInt8} {k : Nat} (hk : 8 ≤ k) (long : 8 ≤ bytes.length) :
    (bytes.take k).getD offsetVersion 0 = bytes.getD offsetVersion 0 := by
  obtain ⟨b0, b1, b2, b3, b4, b5, b6, b7, rest, rfl⟩ := exists_header bytes long
  obtain ⟨j, rfl⟩ := Nat.exists_eq_add_of_le' hk
  rfl

section Frame

variable (m : Message) (crc : UInt16)

/-- Inside a frame the scanner only collects. -/
theorem scan_framed_inside {k : Nat} (hk : 1 ≤ k) (h : k + 1 < (m.framed crc).length) :
    scan ((m.framed crc).take k) ((m.framed crc)[k]) = ((m.framed crc).take (k + 1), .none) := by
  have hlength := m.framed_length crc
  have hfield := m.framed_lengthField crc
  have hbound := m.bounded
  have htake : ((m.framed crc).take k).length = k := by
    rw [List.length_take]
    omega
  have hnext : (m.framed crc).take k ++ [(m.framed crc)[k]] = (m.framed crc).take (k + 1) :=
    (List.take_succ_eq_append_getElem (by omega)).symm
  rcases Nat.lt_or_ge k 2 with hlt | hge
  · obtain rfl : k = 1 := by omega
    rfl
  rcases Nat.lt_or_ge k 7 with hlt | hge7
  · rw [scan_header _ (by omega) (by omega), hnext]
  have hfield' : lengthField ((m.framed crc).take (k + 1)) = m.payload.length := by
    rw [lengthField_take (by omega) (by omega), hfield]
  have hversion : ((m.framed crc).take (k + 1)).getD offsetVersion 0 = protocolVersion := by
    rw [version_take (by omega) (by omega), framed_version]
  rcases Nat.eq_or_lt_of_le hge7 with rfl | hlt
  · rw [scan_lastHeader _ htake, hnext, hversion, hfield', if_neg (fun h => h rfl),
      if_neg (by omega)]
  · have hshort : ((m.framed crc).take (k + 1)).length < m.payload.length + 10 := by
      rw [List.length_take]
      omega
    rw [scan_rest _ (by omega), hnext, hfield', if_pos hshort]

/-- The last byte of a frame. -/
theorem scan_framed_last {k : Nat} (h : k + 1 = (m.framed crc).length) :
    scan ((m.framed crc).take k) ((m.framed crc)[k]) = ([], m.report crc) := by
  have hlength := m.framed_length crc
  have hlong : 8 ≤ ((m.framed crc).take k).length := by
    rw [List.length_take]
    omega
  refine scan_complete hlong m crc ?_
  rw [← List.take_succ_eq_append_getElem (by omega), h, List.take_length]

/-- Nothing of a frame counts as noise once its first byte is held. -/
theorem discards_framed {k : Nat} (hk : 1 ≤ k) (h : k < (m.framed crc).length) :
    discards ((m.framed crc).take k) ((m.framed crc)[k]) = 0 := by
  rcases Nat.lt_or_ge k 2 with hlt | hge
  · obtain rfl : k = 1 := by omega
    rfl
  · exact discards_of_long _ (by rw [List.length_take]; omega)

/-- The rest of a frame, from its byte `k` on, behind the bytes before it. -/
theorem scanAll_framed_drop {n k : Nat} (hk : 1 ≤ k) (h : k + (n + 1) = (m.framed crc).length) :
    scanAll ((m.framed crc).take k) ((m.framed crc).drop k) = [] ∧
      reports ((m.framed crc).take k) ((m.framed crc).drop k) =
        List.replicate n .none ++ [m.report crc] ∧
      discardsAll ((m.framed crc).take k) ((m.framed crc).drop k) = 0 := by
  induction n generalizing k with
  | zero =>
    have hlast := scan_framed_last m crc (k := k) (by omega)
    rw [List.drop_eq_getElem_cons (by omega), List.drop_of_length_le (by omega)]
    simp only [scanAll, List.foldl_cons, List.foldl_nil, reports, discardsAll, hlast,
      discards_framed m crc hk (by omega)]
    exact ⟨trivial, rfl, trivial⟩
  | succ n ih =>
    obtain ⟨h1, h2, h3⟩ := ih (k := k + 1) (by omega) (by omega)
    have hinside := scan_framed_inside m crc hk (by omega)
    rw [List.drop_eq_getElem_cons (by omega)]
    simp only [reports, discardsAll, hinside, h2, h3, discards_framed m crc hk (by omega)]
    refine ⟨?_, rfl, trivial⟩
    rw [← h1]
    simp only [scanAll, List.foldl_cons, hinside]

/-- Between frames the scanner holds nothing or a first MAGIC byte. -/
def Hunting (held : List UInt8) : Prop := held = [] ∨ held = [magicHi]

variable {held : List UInt8}

/-- A whole frame: a byte held before it turns out to be noise. -/
theorem scanAll_framed (hunting : Hunting held) :
    scanAll held (m.framed crc) = [] ∧
      reports held (m.framed crc) =
        List.replicate (m.payload.length + 9) .none ++ [m.report crc] ∧
      discardsAll held (m.framed crc) = held.length := by
  have hlength := m.framed_length crc
  have hfirst : scan held magicHi = ([magicHi], .none) ∧ discards held magicHi = held.length := by
    rcases hunting with rfl | rfl
    · exact ⟨rfl, rfl⟩
    · exact ⟨rfl, rfl⟩
  obtain ⟨h1, h2, h3⟩ :=
    scanAll_framed_drop m crc (n := m.payload.length + 8) (k := 1) (by omega) (by omega)
  have htake : (m.framed crc).take 1 = [magicHi] := rfl
  rw [htake] at h1 h2 h3
  have hsplit : m.framed crc = magicHi :: (m.framed crc).drop 1 := rfl
  rw [hsplit]
  simp only [reports, discardsAll, hfirst, h2, h3]
  refine ⟨?_, rfl, rfl⟩
  rw [← h1]
  simp only [scanAll, List.foldl_cons, hfirst]

end Frame

/-! ## Noise -/

theorem noMagic_tail {b : UInt8} {bytes : List UInt8} (h : NoMagic (b :: bytes)) :
    NoMagic bytes :=
  List.IsChain.tail h

/-- One byte of noise. -/
theorem scan_noise {held rest : List UInt8} {byte : UInt8} (hunting : Hunting held)
    (clean : NoMagic (held ++ byte :: rest)) :
    Hunting (scan held byte).1 ∧ (scan held byte).2 = .none ∧
      (scan held byte).1.length + discards held byte = held.length + 1 ∧
      NoMagic ((scan held byte).1 ++ rest) := by
  rcases hunting with rfl | rfl
  · rw [scan_nil, discards]
    split
    case isTrue hbyte =>
      subst hbyte
      exact ⟨.inr rfl, rfl, rfl, clean⟩
    case isFalse => exact ⟨.inl rfl, rfl, rfl, noMagic_tail clean⟩
  · have hne : byte ≠ magicLo := fun h => (List.isChain_cons_cons.mp clean).1 ⟨rfl, h⟩
    rw [scan_singleton, discards, if_neg hne, if_neg hne]
    split
    case isTrue hbyte =>
      subst hbyte
      exact ⟨.inr rfl, rfl, rfl, noMagic_tail clean⟩
    case isFalse => exact ⟨.inl rfl, rfl, rfl, noMagic_tail (noMagic_tail clean)⟩

/-- Noise is never reported, and every byte of it is discarded or still held. -/
theorem scanAll_noise {held noise : List UInt8} (hunting : Hunting held)
    (clean : NoMagic (held ++ noise)) :
    Hunting (scanAll held noise) ∧ reports held noise = List.replicate noise.length .none ∧
      (scanAll held noise).length + discardsAll held noise = held.length + noise.length := by
  induction noise generalizing held with
  | nil => exact ⟨hunting, rfl, rfl⟩
  | cons byte rest ih =>
    obtain ⟨h1, h2, h3, h4⟩ := scan_noise hunting clean
    obtain ⟨i1, i2, i3⟩ := ih h1 h4
    have hall : scanAll held (byte :: rest) = scanAll (scan held byte).1 rest := rfl
    rw [hall]
    refine ⟨i1, ?_, ?_⟩
    · rw [reports, h2, i2]
      rfl
    · simp only [discardsAll, List.length_cons]
      omega

end Scanner

/-- Two packets with the same content show the same message. -/
theorem ProtocolPacket.Encodable.sameMessage {r p : ProtocolPacket} (hr : r.Encodable)
    (hp : p.Encodable) (h : r.message = p.message) : r.SameMessage p where
  version := hr.1.trans hp.1.symm
  msgId := congrArg Message.msgId h
  seq := congrArg Message.seq h
  length := by rw [← hr.message_length, ← hp.message_length, h]
  payload := by
    intro i hi hlt
    have hget := congrArg (fun m : Message => m.payload[i]?) h
    have hlength : r.length = p.length := by rw [← hr.message_length, ← hp.message_length, h]
    simp only [ProtocolPacket.message, hlength, List.getElem?_take_of_lt hlt] at hget
    simpa [hi] using hget

/-! ## Streams of segments -/

namespace Segment

theorem valid_bytes {p : ProtocolPacket} (h : p.Encodable) :
    (valid p).bytes = p.message.framed p.message.crc := by
  rw [bytes, encodeFrame_of_encodable h]
  rfl

/-- A frame segment, behind whatever noise the scanner holds. -/
theorem scanAll_frame {s : Segment} {held : List UInt8} (wf : s.WellFormed)
    (frame : s.isNoise = false) (hunting : Hunting held) :
    scanAll held s.bytes = [] ∧
      reports held s.bytes = s.expected.map Expected.report ∧
      discardsAll held s.bytes = held.length := by
  cases s with
  | noise b => cases frame
  | valid p =>
    rw [valid_bytes wf]
    obtain ⟨h1, h2, h3⟩ := scanAll_framed p.message p.message.crc hunting
    refine ⟨h1, h2.trans ?_, h3⟩
    rw [Message.report, if_pos rfl, wf.payload_length]
    simp [expected, Expected.report]
  | crcBad m crc =>
    obtain ⟨h1, h2, h3⟩ := scanAll_framed m crc hunting
    refine ⟨h1, h2.trans ?_, h3⟩
    rw [Message.report, if_neg wf]
    simp [expected, Expected.report]

/-- Segments one after another. A noise segment only follows a frame, so it begins with nothing
    held. -/
theorem scanAll_segments {segments : List Segment} {held : List UInt8} (hunting : Hunting held)
    (wf : ∀ s ∈ segments, s.WellFormed)
    (apart : segments.IsChain fun s t => ¬ (s.isNoise = true ∧ t.isNoise = true))
    (fresh : held = [] ∨ ∀ s ∈ segments.head?, s.isNoise = false) :
    Hunting (scanAll held (segments.flatMap bytes)) ∧
      reports held (segments.flatMap bytes) =
        (segments.flatMap expected).map Expected.report ∧
      (scanAll held (segments.flatMap bytes)).length +
          discardsAll held (segments.flatMap bytes) =
        held.length + (segments.map noiseLength).sum := by
  induction segments generalizing held with
  | nil => exact ⟨hunting, rfl, rfl⟩
  | cons s rest ih =>
    have hwf : s.WellFormed := wf s List.mem_cons_self
    have hrest : ∀ t ∈ rest, t.WellFormed := fun t ht => wf t (List.mem_cons_of_mem s ht)
    obtain ⟨hnext, hchain⟩ := List.isChain_cons.mp apart
    rw [List.flatMap_cons, scanAll_append, reports_append, discardsAll_append, List.flatMap_cons,
      List.map_append, List.map_cons, List.sum_cons]
    cases hs : s.isNoise with
    | true =>
      obtain ⟨b, rfl⟩ : ∃ b, s = noise b := by
        cases s <;> first | exact ⟨_, rfl⟩ | cases hs
      obtain rfl : held = [] := by
        rcases fresh with h | h
        · exact h
        · exact absurd (h _ rfl) (by simp [hs])
      have hfresh : Hunting [] := .inl rfl
      obtain ⟨n1, n2, n3⟩ := scanAll_noise hfresh hwf
      obtain ⟨i1, i2, i3⟩ := ih n1 hrest hchain
        (.inr fun t ht => by simpa [hs] using hnext t ht)
      refine ⟨i1, by rw [bytes, n2, i2]; simp [expected, Expected.report], ?_⟩
      simp only [bytes, noiseLength, List.length_nil] at n3 i3 ⊢
      omega
    | false =>
      obtain ⟨f1, f2, f3⟩ := scanAll_frame hwf hs hunting
      rw [f1, f2, f3]
      obtain ⟨i1, i2, i3⟩ := ih (.inl rfl) hrest hchain (.inl rfl)
      have hzero : s.noiseLength = 0 := by
        cases s <;> first | rfl | cases hs
      rw [List.length_nil] at i3
      exact ⟨i1, by rw [i2], by omega⟩

/-- Nothing is held behind a stream that ends with a frame. -/
theorem scanAll_last {segments : List Segment} (wf : ∀ s ∈ segments, s.WellFormed)
    (apart : segments.IsChain fun s t => ¬ (s.isNoise = true ∧ t.isNoise = true))
    (last : ∃ s ∈ segments.getLast?, s.isNoise = false) :
    scanAll [] (segments.flatMap bytes) = [] := by
  obtain ⟨s, hs, hframe⟩ := last
  obtain ⟨init, rfl⟩ := List.getLast?_eq_some_iff.mp hs
  have hinit : ∀ t ∈ init, t.WellFormed := fun t ht => wf t (List.mem_append_left _ ht)
  have hwf : s.WellFormed := wf s (List.mem_append_right _ List.mem_cons_self)
  have hfresh : Hunting [] := .inl rfl
  obtain ⟨hunting, -, -⟩ := scanAll_segments hfresh hinit apart.left_of_append (.inl rfl)
  rw [List.flatMap_append, List.flatMap_singleton, scanAll_append]
  exact (scanAll_frame hwf hframe hunting).1

/-- The one entry of a segment that is counted. -/
def counted : Segment → Expected
  | noise _ => .none
  | valid p => .frame p
  | crcBad _ _ => .crcError

theorem sum_expected (count : Report → UInt32) (quiet : count .none = 0) (s : Segment) :
    ((s.expected.map Expected.report).map count).sum = count s.counted.report := by
  have hreplicate : ∀ n, (((List.replicate n Expected.none).map Expected.report).map count).sum
      = 0 := by
    intro n
    induction n with
    | zero => rfl
    | succ n ih =>
      rw [List.replicate_succ, List.map_cons, List.map_cons, List.sum_cons, ih]
      exact (UInt32.add_zero _).trans quiet
  cases s with
  | noise b => exact (hreplicate _).trans quiet.symm
  | valid p =>
    rw [expected, List.map_append, List.map_append, List.sum_append, hreplicate, UInt32.zero_add]
    exact UInt32.add_zero _
  | crcBad m crc =>
    rw [expected, List.map_append, List.map_append, List.sum_append, hreplicate, UInt32.zero_add]
    exact UInt32.add_zero _

/-- A counter that counts the segments of one kind. -/
theorem sum_flatMap_expected (count : Report → UInt32) (quiet : count .none = 0)
    (kind : Segment → Bool) (h : ∀ s, count s.counted.report = if kind s then 1 else 0)
    (segments : List Segment) :
    (((segments.flatMap expected).map Expected.report).map count).sum =
      UInt32.ofNat (segments.countP kind) := by
  induction segments with
  | nil => rfl
  | cons s rest ih =>
    rw [List.flatMap_cons, List.map_append, List.map_append, List.sum_append,
      sum_expected count quiet, ih, h, List.countP_cons]
    split
    · rw [UInt32.ofNat_add, UInt32.add_comm]
      rfl
    · exact UInt32.zero_add _

/-- Only packets that can be encoded are expected. -/
theorem expected_encodable {segments : List Segment} (wf : ∀ s ∈ segments, s.WellFormed)
    {p : ProtocolPacket} (h : Expected.frame p ∈ segments.flatMap expected) : p.Encodable := by
  obtain ⟨s, hs, hp⟩ := List.mem_flatMap.mp h
  have hwf := wf s hs
  cases s with
  | noise b => simp [expected] at hp
  | valid p' =>
    have : p = p' := by simpa [expected] using hp
    exact this ▸ hwf
  | crcBad m crc => simp [expected] at hp

end Segment

theorem meets_of_agrees {out : StreamParser.Output} {e : Expected}
    (encodable : ∀ p, e = .frame p → p.Encodable) (h : out.Agrees e.report) : out.Meets e := by
  cases e with
  | none => exact h
  | frame p => exact ⟨h.1, h.2.1.sameMessage (encodable p rfl) h.2.2⟩
  | crcError => exact h

/-- A parser that holds no more than noise shows a stream of segments as expected. -/
theorem outputs_meet {r : StreamParser.Receiver} {segments : List Segment} {held : List UInt8}
    (h : r.parser.Represents held) (hunting : Hunting held)
    (wf : ∀ s ∈ segments, s.WellFormed)
    (apart : segments.IsChain fun s t => ¬ (s.isNoise = true ∧ t.isNoise = true))
    (fresh : held = [] ∨ ∀ s ∈ segments.head?, s.isNoise = false) :
    List.Forall₂ StreamParser.Output.Meets (r.outputs (segments.flatMap Segment.bytes))
      (segments.flatMap Segment.expected) := by
  have hagrees := StreamParser.Receiver.outputs_agree h (segments.flatMap Segment.bytes)
  rw [(Segment.scanAll_segments hunting wf apart fresh).2.1, List.forall₂_map_right_iff]
    at hagrees
  have hmember : ∀ e ∈ segments.flatMap Segment.expected, ∀ p, e = .frame p → p.Encodable := by
    rintro e he p rfl
    exact Segment.expected_encodable wf he
  have hgood := (List.forall₂_and_left _ _).mpr ⟨hmember, hagrees.flip⟩
  exact (hgood.imp fun e out h => meets_of_agrees h.1 h.2).flip

/-- Framing law: from a parser between two frames, every segment of a stream is reported at its
    last byte and nothing is reported elsewhere, the statistics count the segments and the noise
    bytes, and the parser is between two frames again. -/
theorem streamParser_framing (r : StreamParser.Receiver) (segments : List Segment)
    (state : r.parser.state = .waitMagic1) (index : r.parser.frameIndex = 0)
    (wf : ∀ s ∈ segments, s.WellFormed)
    (apart : segments.IsChain fun s t => ¬ (s.isNoise = true ∧ t.isNoise = true))
    (last : ∃ s ∈ segments.getLast?, s.isNoise = false) :
    let final := (r.feedAll (segments.flatMap Segment.bytes)).parser
    List.Forall₂ StreamParser.Output.Meets (r.outputs (segments.flatMap Segment.bytes))
        (segments.flatMap Segment.expected) ∧
      final.framesOk = r.parser.framesOk + UInt32.ofNat (segments.countP Segment.isValid) ∧
      final.crcErrors = r.parser.crcErrors + UInt32.ofNat (segments.countP Segment.isCrcBad) ∧
      final.discardedBytes =
        r.parser.discardedBytes + UInt32.ofNat (segments.map Segment.noiseLength).sum ∧
      final.formatErrors = r.parser.formatErrors ∧
      final.state = .waitMagic1 ∧ final.frameIndex = 0 := by
  have hrep := StreamParser.represents_nil state index
  have hunting : Hunting [] := .inl rfl
  obtain ⟨-, h2, h3⟩ := Segment.scanAll_segments hunting wf apart (.inl rfl)
  obtain ⟨s1, s2, s3, s4⟩ :=
    StreamParser.Receiver.feedAll_statistics hrep (segments.flatMap Segment.bytes)
  have hfinal := StreamParser.Receiver.feedAll_represents hrep (segments.flatMap Segment.bytes)
  have hempty : scanAll [] (segments.flatMap Segment.bytes) = [] :=
    Segment.scanAll_last wf apart last
  rw [hempty] at hfinal h3
  refine ⟨?_, ?_, ?_, ?_, ?_, hfinal.state, hfinal.index⟩
  · exact outputs_meet hrep hunting wf apart (.inl rfl)
  · rw [s1, h2, Segment.sum_flatMap_expected _ rfl Segment.isValid]
    rintro (_ | _ | _) <;> rfl
  · rw [s2, h2, Segment.sum_flatMap_expected _ rfl Segment.isCrcBad]
    rintro (_ | _ | _) <;> rfl
  · rw [s4]
    congr 2
    simpa using h3
  · rw [s3, h2, Segment.sum_flatMap_expected _ rfl fun _ => false]
    · simp
    · rintro (_ | _ | _) <;> rfl

/-- Noise that ends in a first MAGIC byte, a frame behind it, a frame with a wrong CRC and a frame
    again. -/
def mixedSegments : List Segment :=
  let ping : Message := ⟨msgPing, 7, [], by decide⟩
  [.noise [0x00, 0xAA, 0xAA], .valid (ping.packet .zero), .crcBad ping 0,
    .valid (ping.packet .zero)]

theorem streamParser_framing_mixed :
    List.Forall₂ StreamParser.Output.Meets
      (StreamParser.Receiver.outputs ⟨.init, .zero⟩ (mixedSegments.flatMap Segment.bytes))
      (mixedSegments.flatMap Segment.expected) :=
  (streamParser_framing ⟨.init, .zero⟩ mixedSegments rfl rfl (by decide +kernel) (by decide)
    ⟨_, rfl, rfl⟩).1

end Rs422Gateway
