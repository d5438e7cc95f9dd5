import Rs422Gateway.Common.Proofs.Framing

/-!
# Bounded resynchronisation

A parser that was interrupted anywhere, for instance inside a false frame, is back on the frames
of a stream after 264 bytes: at most six header bytes and then 258 payload and CRC bytes are
taken for the false frame (`protocol_v1.md` section 14.3). After that it either hunts through the
rest of the frame it is in or has found that frame's MAGIC.
-/

namespace Rs422Gateway

namespace Scanner

/-- The most bytes a scanner inside a frame can still take for that frame. -/
def remaining (held : List UInt8) : Nat :=
  if held.length < 8 then 8 - held.length + 258 else lengthField held + 10 - held.length

theorem remaining_pos {held : List UInt8} (h : Candidate held) : 0 < remaining held := by
  unfold remaining
  cases h with
  | empty => decide
  | half => decide
  | header _ _ short =>
    rw [if_pos short]
    omega
  | frame _ _ long _ _ short =>
    rw [if_neg (by omega)]
    omega

/-- A scanner that holds at most one byte hunts, any other has at most 264 bytes to go. -/
theorem Candidate.hunting_or_long {held : List UInt8} (h : Candidate held) :
    Hunting held ∨ 2 ≤ held.length ∧ remaining held ≤ 264 := by
  unfold remaining
  cases h with
  | empty => exact .inl (.inl rfl)
  | half => exact .inl (.inr rfl)
  | header _ magic short =>
    have long : 2 ≤ held.length := magic.length_le
    rw [if_pos short]
    exact .inr ⟨long, by omega⟩
  | frame _ _ long _ bound short =>
    rw [if_neg (by omega)]
    exact .inr ⟨by omega, by omega⟩

/-- One byte inside a frame: it is taken for the frame, or it ends the frame, or the header is
    rejected. -/
theorem scan_inside {held : List UInt8} (h : Candidate held) (long : 2 ≤ held.length)
    (byte : UInt8) :
    ((scan held byte).1 = held ++ [byte] ∧ remaining (held ++ [byte]) + 1 ≤ remaining held) ∨
      (scan held byte).1 = [] ∨ (scan held byte).1 = tail (held ++ [byte]) := by
  have hlength : (held ++ [byte]).length = held.length + 1 := List.length_append
  unfold remaining
  cases h with
  | empty => exact absurd long (by decide)
  | half => exact absurd long (by decide)
  | header _ magic short =>
    by_cases h7 : held.length = 7
    · rw [scan_lastHeader byte h7]
      split
      · exact .inr (.inr rfl)
      split
      · exact .inr (.inr rfl)
      · rw [if_neg (by omega)]
        exact .inl ⟨rfl, by omega⟩
    · rw [scan_header byte long (by omega), if_pos (by omega), if_pos short]
      exact .inl ⟨rfl, by omega⟩
  | frame _ magic long version bound short =>
    by_cases last : held.length + 1 = lengthField held + 10
    · obtain ⟨m, crc, hm⟩ := exists_framed magic long version bound last
      rw [scan_complete long m crc hm]
      exact .inr (.inl rfl)
    · have hfield := lengthField_append byte long
      rw [scan_rest byte long, if_pos (by omega), if_neg (by omega), if_neg (by omega)]
      exact .inl ⟨rfl, by omega⟩

section Frame

variable {m : Message} {crc : UInt16} (clean : NoMagic ((m.framed crc).drop 1))

include clean

theorem noMagic_drop {k : Nat} (hk : 1 ≤ k) : NoMagic ((m.framed crc).drop k) := by
  have hdrop : (m.framed crc).drop k = ((m.framed crc).drop 1).drop (k - 1) := by
    rw [List.drop_drop]
    congr 1
    omega
  rw [hdrop]
  exact List.IsChain.drop clean _

omit clean in
theorem hunting_of_aligned {k : Nat} (hk : 1 ≤ k) (hlt : k < 10) :
    Hunting (scanAll ((m.framed crc).take k) ((m.framed crc).drop k)) := by
  have hlength := m.framed_length crc
  have hsize : k + (m.payload.length + 9 - k + 1) = (m.framed crc).length := by omega
  exact .inl (scanAll_framed_drop m crc hk hsize).1

/-- A header that is rejected at byte `k` of a frame: its tail is this frame's own MAGIC or ends
    in noise. -/
theorem hunting_of_tail {k : Nat} {init : List UInt8} {x : UInt8}
    (hk : k < (m.framed crc).length) (hx : ∀ j, k = j + 1 → (m.framed crc)[j]? = some x) :
    Hunting (scanAll (tail (init ++ [x, (m.framed crc)[k]])) ((m.framed crc).drop (k + 1))) := by
  rw [tail_append_pair]
  cases k with
  | zero =>
    have hfirst : (m.framed crc)[0] = magicHi := rfl
    rw [hfirst, if_neg (fun h => absurd h.2 (by decide)), if_pos rfl]
    exact hunting_of_aligned (k := 1) (by omega) (by omega)
  | succ j =>
    obtain ⟨hj, hget⟩ := List.getElem?_eq_some_iff.mp (hx j rfl)
    have hdrop : (m.framed crc).drop j =
        x :: (m.framed crc)[j + 1] :: (m.framed crc).drop (j + 2) := by
      rw [List.drop_eq_getElem_cons hj, List.drop_eq_getElem_cons hk, hget]
    split
    case isTrue hmagic =>
      -- a MAGIC inside the stream is at the start of a frame
      have hzero : j = 0 := by
        by_contra hne
        have hclean := noMagic_drop clean (k := j) (by omega)
        rw [hdrop] at hclean
        exact (List.isChain_cons_cons.mp hclean).1 hmagic
      subst hzero
      exact hunting_of_aligned (k := 2) (by omega) (by omega)
    split
    case isTrue hhi =>
      have hclean := noMagic_drop clean (k := j + 1) (by omega)
      rw [List.drop_eq_getElem_cons hk, hhi] at hclean
      exact (scanAll_noise (.inr rfl) hclean).1
    case isFalse => exact (scanAll_noise (.inl rfl) (noMagic_drop clean (by omega))).1

/-- A frame that begins inside another one: behind it the scanner hunts, or it is still inside
    and has come nearer to its end by every byte. -/
theorem drain_frame {n k : Nat} {held : List UInt8} (h : Candidate held) (long : 2 ≤ held.length)
    (hk : k + n = (m.framed crc).length)
    (hlast : ∀ j, k = j + 1 → held.getLast? = (m.framed crc)[j]?) :
    Hunting (scanAll held ((m.framed crc).drop k)) ∨
      2 ≤ (scanAll held ((m.framed crc).drop k)).length ∧
        remaining (scanAll held ((m.framed crc).drop k)) + n ≤ remaining held := by
  induction n generalizing k held with
  | zero =>
    rw [List.drop_of_length_le (by omega)]
    exact .inr ⟨long, Nat.le_refl _⟩
  | succ n ih =>
    have hlt : k < (m.framed crc).length := by omega
    have hcandidate := candidate_scan h (m.framed crc)[k]
    have hall : scanAll held ((m.framed crc).drop k) =
        scanAll (scan held (m.framed crc)[k]).1 ((m.framed crc).drop (k + 1)) := by
      rw [List.drop_eq_getElem_cons hlt]
      rfl
    rw [hall]
    rcases scan_inside h long (m.framed crc)[k] with ⟨hscan, hless⟩ | hscan | hscan
    · rw [hscan] at hcandidate ⊢
      have hlength : 2 ≤ (held ++ [(m.framed crc)[k]]).length := by
        rw [List.length_append]
        omega
      have hget : ∀ j, k + 1 = j + 1 →
          (held ++ [(m.framed crc)[k]]).getLast? = (m.framed crc)[j]? := by
        rintro j ⟨⟩
        rw [List.getLast?_concat, List.getElem?_eq_getElem hlt]
      rcases ih hcandidate hlength (by omega) hget with hunting | ⟨hlong, hrest⟩
      · exact .inl hunting
      · exact .inr ⟨hlong, by omega⟩
    · rw [hscan]
      exact .inl (scanAll_noise (.inl rfl) (noMagic_drop clean (by omega))).1
    · rw [hscan]
      obtain ⟨init, x, rfl⟩ : ∃ init x, held = init ++ [x] :=
        ⟨held.dropLast, held.getLast (List.ne_nil_of_length_pos (by omega)),
          (List.dropLast_concat_getLast _).symm⟩
      have hpair : init ++ [x] ++ [(m.framed crc)[k]] = init ++ [x, (m.framed crc)[k]] := by simp
      rw [hpair]
      refine .inl (hunting_of_tail clean hlt fun j hj => ?_)
      rw [← hlast j hj, List.getLast?_concat]

end Frame

/-- A scanner that hunts at the start of a frame hunts at the end of it. -/
theorem hunting_frames (messages : List Message) {held : List UInt8} (hunting : Hunting held) :
    Hunting (scanAll held (messages.flatMap Message.wire)) := by
  induction messages generalizing held with
  | nil => exact hunting
  | cons m rest ih =>
    rw [List.flatMap_cons, scanAll_append]
    exact ih (.inl (scanAll_framed m m.crc hunting).1)

theorem drain_frames {messages : List Message}
    (clean : ∀ m ∈ messages, NoMagic (m.wire.drop 1)) {held : List UInt8} (h : Candidate held)
    (long : 2 ≤ held.length) :
    Hunting (scanAll held (messages.flatMap Message.wire)) ∨
      2 ≤ (scanAll held (messages.flatMap Message.wire)).length ∧
        remaining (scanAll held (messages.flatMap Message.wire)) +
          (messages.flatMap Message.wire).length ≤ remaining held := by
  induction messages generalizing held with
  | nil => exact .inr ⟨long, Nat.le_refl _⟩
  | cons m rest ih =>
    have hrest : ∀ m ∈ rest, NoMagic (m.wire.drop 1) :=
      fun m' hm => clean m' (List.mem_cons_of_mem m hm)
    rw [List.flatMap_cons, scanAll_append, List.length_append]
    rcases drain_frame (clean m List.mem_cons_self) h long (k := 0) (Nat.zero_add _) nofun
      with hunting | ⟨hlong, hless⟩
    · exact .inl (hunting_frames rest hunting)
    · rcases ih hrest (candidate_scanAll h m.wire) hlong with hunting | ⟨hlong', hless'⟩
      · exact .inl hunting
      · refine .inr ⟨hlong', ?_⟩
        change remaining (scanAll held m.wire) + m.wire.length ≤ remaining held at hless
        omega

/-- After 264 bytes of frames the scanner hunts at every start of a frame. -/
theorem hunting_after_264 {messages : List Message}
    (clean : ∀ m ∈ messages, NoMagic (m.wire.drop 1)) {held : List UInt8} (h : Candidate held)
    (enough : 264 ≤ (messages.flatMap Message.wire).length) :
    Hunting (scanAll held (messages.flatMap Message.wire)) := by
  rcases h.hunting_or_long with hunting | ⟨long, hbound⟩
  · exact hunting_frames messages hunting
  rcases drain_frames clean h long with hunting | ⟨-, hless⟩
  · exact hunting
  · have hpos := remaining_pos (candidate_scanAll h (messages.flatMap Message.wire))
    omega

end Scanner

/-- The frames of a list of packets, one after another. -/
def encodeAll (packets : List ProtocolPacket) : List UInt8 :=
  packets.flatMap fun p => (encodeFrame p).getD []

theorem encodeAll_eq {packets : List ProtocolPacket} (encodable : ∀ p ∈ packets, p.Encodable) :
    encodeAll packets = (packets.map ProtocolPacket.message).flatMap Message.wire := by
  rw [encodeAll, List.flatMap_map]
  refine List.flatMap_congr fun p hp => ?_
  rw [encodeFrame_of_encodable (encodable p hp), Option.getD_some]

open Scanner

/-- Bounded resynchronisation: whatever a parser has read before, a frame that begins at byte 264
    or later of a stream of valid frames is delivered, and so are all frames behind it, without
    any other FRAME or ERROR. -/
theorem streamParser_resync (q : ProtocolPacket) (history : List UInt8)
    (before frames : List ProtocolPacket)
    (encodable : ∀ p ∈ before ++ frames, p.Encodable)
    (clean : ∀ p ∈ before ++ frames, ∀ frame, encodeFrame p = some frame →
      NoMagic (frame.drop 1))
    (enough : 264 ≤ (encodeAll before).length) :
    List.Forall₂ StreamParser.Output.Meets
      (StreamParser.Receiver.outputs
        (StreamParser.Receiver.feedAll ⟨.init, q⟩ (history ++ encodeAll before))
        (encodeAll frames))
      (frames.flatMap fun p => (Segment.valid p).expected) := by
  have hbefore : ∀ p ∈ before, p.Encodable := fun p hp => encodable p (List.mem_append_left _ hp)
  have hframes : ∀ p ∈ frames, p.Encodable := fun p hp => encodable p (List.mem_append_right _ hp)
  have hclean : ∀ m ∈ before.map ProtocolPacket.message, NoMagic (m.wire.drop 1) := by
    intro m hm
    obtain ⟨p, hp, rfl⟩ := List.mem_map.mp hm
    exact clean p (List.mem_append_left _ hp) _ (encodeFrame_of_encodable (hbefore p hp))
  have hheld := candidate_scanAll .empty history
  have hunting : Hunting (scanAll [] (history ++ encodeAll before)) := by
    rw [encodeAll_eq hbefore] at enough ⊢
    rw [scanAll_append]
    exact hunting_after_264 hclean hheld enough
  have hrep := StreamParser.Receiver.feedAll_represents (r := ⟨.init, q⟩)
    StreamParser.init_represents (history ++ encodeAll before)
  have hwf : ∀ s ∈ frames.map Segment.valid, s.WellFormed := by
    intro s hs
    obtain ⟨p, hp, rfl⟩ := List.mem_map.mp hs
    exact hframes p hp
  have hapart : (frames.map Segment.valid).IsChain
      fun s t => ¬ (s.isNoise = true ∧ t.isNoise = true) := by
    rw [List.isChain_map]
    exact (List.pairwise_of_forall fun p p' => by simp [Segment.isNoise]).isChain
  have hfresh : ∀ s ∈ (frames.map Segment.valid).head?, s.isNoise = false := by
    intro s hs
    obtain ⟨p, -, rfl⟩ := List.mem_map.mp (List.mem_of_mem_head? hs)
    rfl
  have hmeet := outputs_meet hrep hunting hwf hapart (.inr hfresh)
  simpa only [List.flatMap_map, encodeAll, Segment.bytes] using hmeet

/-- A parser that has read the beginning of a false frame, and 27 frames of ten bytes. -/
theorem streamParser_resync_false_frame :
    let ping : ProtocolPacket := (⟨msgPing, 7, [], by decide⟩ : Message).packet .zero
    List.Forall₂ StreamParser.Output.Meets
      (StreamParser.Receiver.outputs
        (StreamParser.Receiver.feedAll ⟨.init, .zero⟩
          ([0xAA, 0x55, 0x01] ++ encodeAll (List.replicate 27 ping)))
        (encodeAll [ping]))
      ([ping].flatMap fun p => (Segment.valid p).expected) :=
  streamParser_resync .zero [0xAA, 0x55, 0x01]
    (List.replicate 27 ((⟨msgPing, 7, [], by decide⟩ : Message).packet .zero))
    [(⟨msgPing, 7, [], by decide⟩ : Message).packet .zero]
    (by
      intro p hp
      obtain rfl : p = (⟨msgPing, 7, [], by decide⟩ : Message).packet .zero := by
        simpa using hp
      exact Message.packet_encodable _ _)
    (by
      intro p hp frame hframe
      obtain rfl : p = (⟨msgPing, 7, [], by decide⟩ : Message).packet .zero := by
        simpa using hp
      rw [encodeFrame_of_encodable (Message.packet_encodable _ _), Message.packet_message] at hframe
      cases hframe
      decide +kernel)
    (by decide +kernel)

end Rs422Gateway
