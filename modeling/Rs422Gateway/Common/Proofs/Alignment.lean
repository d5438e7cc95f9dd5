import Rs422Gateway.Common.Proofs.Framing

/-!
# A parser on a stream of whole frames

`StreamParser.Expects p rest ms` says that the parser is somewhere in a stream of whole valid
frames: what it holds and what is still to come, `rest`, are together the frames of the messages
`ms`, and it has not gone past the first of them. Such a parser reports no error, whatever the
chunks in which the rest of the stream reaches it.
-/

namespace Rs422Gateway

open Scanner

/-- What is held and what is still to come are the frames of `ms`, the first one not complete. -/
structure Aligned (held rest : List UInt8) (ms : List Message) : Prop where
  bytes : held ++ rest = ms.flatMap Message.wire
  inside : held = [] ∨ ∃ m later, ms = m :: later ∧ held.length < m.wire.length

namespace Aligned

variable {held rest : List UInt8} {ms : List Message} {byte : UInt8}

/-- Another frame is sent. -/
theorem append (h : Aligned held rest ms) (m : Message) :
    Aligned held (rest ++ m.wire) (ms ++ [m]) where
  bytes := by
    rw [← List.append_assoc, h.bytes, List.flatMap_append, List.flatMap_singleton]
  inside := by
    rcases h.inside with hempty | ⟨first, later, rfl, hshort⟩
    · exact .inl hempty
    · exact .inr ⟨first, later ++ [m], rfl, hshort⟩

/-- When nothing is to come, no frame has begun. -/
theorem eq_nil_of_drained (h : Aligned held [] ms) : ms = [] := by
  have hbytes := h.bytes
  rw [List.append_nil] at hbytes
  cases ms with
  | nil => rfl
  | cons m later =>
    have hlength := congrArg List.length hbytes
    rw [List.flatMap_cons, List.length_append, m.wire_length] at hlength
    rcases h.inside with hempty | ⟨first, later', hms, hshort⟩
    · rw [hempty] at hlength
      simp only [List.length_nil] at hlength
      omega
    · cases hms
      rw [m.wire_length] at hshort
      omega

/-- The next byte is a byte of the first frame. -/
theorem exists_next (h : Aligned held (byte :: rest) ms) :
    ∃ m later k, ∃ hk : k < m.wire.length, ms = m :: later ∧ held = m.wire.take k ∧
      byte = m.wire[k] ∧ rest = m.wire.drop (k + 1) ++ later.flatMap Message.wire := by
  have hbytes := h.bytes
  cases ms with
  | nil => simp at hbytes
  | cons m later =>
    have hlt : held.length < m.wire.length := by
      rcases h.inside with hempty | ⟨first, later', hms, hshort⟩
      · rw [hempty, m.wire_length]
        exact Nat.succ_pos _
      · cases hms
        exact hshort
    rw [List.flatMap_cons] at hbytes
    have htake := congrArg (List.take held.length) hbytes
    rw [List.take_left, List.take_append_of_le_length hlt.le] at htake
    have hdrop := congrArg (List.drop held.length) hbytes
    rw [List.drop_left, List.drop_append_of_le_length hlt.le, List.drop_eq_getElem_cons hlt,
      List.cons_append] at hdrop
    obtain ⟨hbyte, hrest⟩ := List.cons.inj hdrop
    exact ⟨m, later, held.length, hlt, rfl, htake, hbyte, hrest⟩

/-- The scanner collects the first frame and reports it with its last byte. -/
theorem scan (h : Aligned held (byte :: rest) ms) :
    (Scanner.scan held byte).2 = .none ∧ Aligned (Scanner.scan held byte).1 rest ms ∨
      ∃ m later, ms = m :: later ∧ (Scanner.scan held byte).2 = .frame m ∧
        Aligned (Scanner.scan held byte).1 rest later := by
  obtain ⟨m, later, k, hk, rfl, rfl, rfl, hrest⟩ := h.exists_next
  rcases Nat.lt_or_ge (k + 1) m.wire.length with hshort | hlast
  · have hscan : Scanner.scan (m.wire.take k) m.wire[k] = (m.wire.take (k + 1), .none) := by
      rcases Nat.eq_zero_or_pos k with rfl | hpos
      · rfl
      · exact scan_framed_inside m m.crc hpos hshort
    left
    rw [hscan]
    refine ⟨rfl, ?_, .inr ⟨m, later, rfl, ?_⟩⟩
    · rw [hrest, ← List.append_assoc, List.take_append_drop]
      rfl
    · rw [List.length_take]
      omega
  · have hsize : k + 1 = m.wire.length := by omega
    have hscan := scan_framed_last m m.crc hsize
    rw [Message.report, if_pos rfl] at hscan
    right
    refine ⟨m, later, rfl, congrArg Prod.snd hscan, ?_, .inl (congrArg Prod.fst hscan)⟩
    rw [show (Scanner.scan (m.wire.take k) m.wire[k]).1 = [] from congrArg Prod.fst hscan, hrest,
      hsize, List.drop_length]
    rfl

end Aligned

namespace StreamParser

/-- The parser is in a stream of whole valid frames, of which `ms` are not delivered yet. -/
def Expects (p : StreamParser) (rest : List UInt8) (ms : List Message) : Prop :=
  ∃ held, p.Represents held ∧ Aligned held rest ms

variable {p : StreamParser} {rest : List UInt8} {ms : List Message} {byte : UInt8}

theorem expects_nil (h : p.Represents []) : p.Expects [] [] := ⟨[], h, rfl, .inl rfl⟩

theorem Expects.append (h : p.Expects rest ms) (m : Message) :
    p.Expects (rest ++ m.wire) (ms ++ [m]) := by
  obtain ⟨held, hrep, haligned⟩ := h
  exact ⟨held, hrep, haligned.append m⟩

theorem Expects.append_all (h : p.Expects rest ms) (later : List Message) :
    p.Expects (rest ++ later.flatMap Message.wire) (ms ++ later) := by
  induction later generalizing rest ms with
  | nil =>
    rw [List.flatMap_nil, List.append_nil, List.append_nil]
    exact h
  | cons m later ih =>
    have hnext := ih (h.append m)
    rw [List.append_assoc, List.append_assoc] at hnext
    exact hnext

theorem Expects.eq_nil_of_drained (h : p.Expects [] ms) : ms = [] := by
  obtain ⟨held, -, haligned⟩ := h
  exact haligned.eq_nil_of_drained

/-- The error statistics are those of another parser. -/
structure SameErrors (p q : StreamParser) : Prop where
  crcErrors : p.crcErrors = q.crcErrors
  formatErrors : p.formatErrors = q.formatErrors

theorem SameErrors.refl (p : StreamParser) : p.SameErrors p := ⟨rfl, rfl⟩

theorem SameErrors.trans {p q r : StreamParser} (h : p.SameErrors q) (h' : q.SameErrors r) :
    p.SameErrors r :=
  ⟨h.crcErrors.trans h'.crcErrors, h.formatErrors.trans h'.formatErrors⟩

/-- One byte: nothing is reported, or the first frame is delivered. -/
theorem Expects.feedByte (h : p.Expects (byte :: rest) ms) (q : ProtocolPacket) :
    (p.feedByte byte q).1.SameErrors p ∧
      ((p.feedByte byte q).2.1 = .none ∧ (p.feedByte byte q).2.2 = q ∧
          (p.feedByte byte q).1.Expects rest ms ∨
        ∃ m later, ms = m :: later ∧ (p.feedByte byte q).2.1 = .frame ∧
          (p.feedByte byte q).2.2 = m.packet q ∧ (p.feedByte byte q).1.Expects rest later) := by
  obtain ⟨held, hrep, haligned⟩ := h
  obtain ⟨hrep', hfollows⟩ := feedByte_refines q byte hrep
  rcases haligned.scan with ⟨hreport, haligned'⟩ | ⟨m, later, hms, hreport, haligned'⟩
  · rw [hreport] at hfollows
    refine ⟨⟨?_, ?_⟩, .inl ⟨hfollows.event, hfollows.packet, _, hrep', haligned'⟩⟩
    · exact hfollows.crcErrors.trans (UInt32.add_zero _)
    · exact hfollows.formatErrors.trans (UInt32.add_zero _)
  · rw [hreport] at hfollows
    refine ⟨⟨?_, ?_⟩,
      .inr ⟨m, later, hms, hfollows.event, hfollows.packet, _, hrep', haligned'⟩⟩
    · exact hfollows.crcErrors.trans (UInt32.add_zero _)
    · exact hfollows.formatErrors.trans (UInt32.add_zero _)

end StreamParser

end Rs422Gateway
