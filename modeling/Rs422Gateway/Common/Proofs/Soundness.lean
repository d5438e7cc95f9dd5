import Rs422Gateway.Common.Proofs.ScannerRefinement

/-!
# Soundness of the stream parser

What a scanner holds is always the end of what it has read, and a delivered frame empties it.
So every FRAME carries the last bytes read, and no byte belongs to two frames.
-/

namespace Rs422Gateway

namespace Scanner

theorem tail_suffix (held : List UInt8) : tail held <:+ held := by
  unfold tail
  split
  · assumption
  split
  · assumption
  · exact List.nil_suffix

/-- One byte: a frame is the bytes held with that byte, and nothing is invented. -/
theorem scan_sound {held : List UInt8} (h : Candidate held) (byte : UInt8) :
    (scan held byte).1 <:+ held ++ [byte] ∧
      ∀ m, (scan held byte).2 = .frame m →
        held ++ [byte] = m.wire ∧ (scan held byte).1 = [] := by
  cases h with
  | empty =>
    rw [scan_nil]
    refine ⟨?_, nofun⟩
    split
    case isTrue hbyte =>
      subst hbyte
      exact List.suffix_refl _
    case isFalse => exact List.nil_suffix
  | half =>
    rw [scan_singleton]
    refine ⟨?_, nofun⟩
    split
    case isTrue hbyte =>
      subst hbyte
      exact List.suffix_refl _
    split
    case isTrue hbyte =>
      subst hbyte
      exact List.suffix_cons _ _
    case isFalse => exact List.nil_suffix
  | header _ magic short =>
    by_cases h7 : held.length = 7
    · rw [scan_lastHeader byte h7]
      split
      · exact ⟨tail_suffix _, nofun⟩
      split
      · exact ⟨tail_suffix _, nofun⟩
      · exact ⟨List.suffix_refl _, nofun⟩
    · rw [scan_header byte magic.length_le (by omega)]
      exact ⟨List.suffix_refl _, nofun⟩
  | frame _ magic long version bound short =>
    by_cases last : held.length + 1 = lengthField held + 10
    · obtain ⟨m, crc, hm⟩ := exists_framed magic long version bound last
      rw [scan_complete long m crc hm]
      refine ⟨List.nil_suffix, ?_⟩
      intro m' hreport
      by_cases hcrc : crc = m.crc
      · rw [if_pos hcrc] at hreport
        cases hreport
        exact ⟨by rw [hm, hcrc, Message.wire], rfl⟩
      · rw [if_neg hcrc] at hreport
        cases hreport
    · have hlength : (held ++ [byte]).length = held.length + 1 := List.length_append
      have hfield := lengthField_append byte long
      rw [scan_rest byte long, if_pos (by omega)]
      exact ⟨List.suffix_refl _, nofun⟩

theorem scanAll_suffix {held : List UInt8} (h : Candidate held) (bytes : List UInt8) :
    scanAll held bytes <:+ held ++ bytes := by
  induction bytes generalizing held with
  | nil =>
    rw [List.append_nil]
    exact List.suffix_refl _
  | cons byte rest ih =>
    refine (ih (candidate_scan h byte)).trans ?_
    have hsplit : held ++ byte :: rest = (held ++ [byte]) ++ rest := by simp
    rw [hsplit]
    obtain ⟨before, hbefore⟩ := (scan_sound h byte).1
    exact ⟨before, by rw [← hbefore, List.append_assoc]⟩

theorem reports_getElem? (held bytes : List UInt8) (t : Nat) :
    (reports held bytes)[t]? =
      bytes[t]?.map fun byte => (scan (scanAll held (bytes.take t)) byte).2 := by
  induction bytes generalizing held t with
  | nil => simp [reports]
  | cons byte rest ih =>
    cases t with
    | zero => rfl
    | succ t => exact ih _ t

/-- What is held when a frame is delivered: all of it but its last byte before, and nothing
    behind it. -/
theorem frame_at {bytes : List UInt8} {t : Nat} {m : Message}
    (h : (reports [] bytes)[t]? = some (.frame m)) :
    t < bytes.length ∧ m.wire <:+ bytes.take (t + 1) ∧
      (scanAll [] (bytes.take t)).length + 1 = m.wire.length ∧
      scanAll [] (bytes.take (t + 1)) = [] := by
  rw [reports_getElem?] at h
  obtain ⟨byte, hbyte, hreport⟩ := Option.map_eq_some_iff.mp h
  obtain ⟨hlt, -⟩ := List.getElem?_eq_some_iff.mp hbyte
  have htake : bytes.take (t + 1) = bytes.take t ++ [byte] := by
    rw [List.take_add_one, hbyte]
    rfl
  obtain ⟨-, hframe⟩ := scan_sound (candidate_scanAll .empty (bytes.take t)) byte
  obtain ⟨hwire, hempty⟩ := hframe m hreport
  obtain ⟨before, hbefore⟩ := scanAll_suffix .empty (bytes.take t)
  refine ⟨hlt, ⟨before, ?_⟩, ?_, ?_⟩
  · rw [← hwire, ← List.append_assoc, hbefore, htake, List.nil_append]
  · rw [← hwire, List.length_append, List.length_singleton]
  · rw [htake, scanAll_append]
    exact hempty

/-- The bytes of a later frame all come behind an earlier one. -/
theorem frames_apart {bytes : List UInt8} {t₁ t₂ : Nat} {m₁ m₂ : Message} (hlt : t₁ < t₂)
    (h₁ : (reports [] bytes)[t₁]? = some (.frame m₁))
    (h₂ : (reports [] bytes)[t₂]? = some (.frame m₂)) : t₁ + m₂.wire.length ≤ t₂ := by
  obtain ⟨-, -, -, hempty⟩ := frame_at h₁
  obtain ⟨hbound, -, hheld, -⟩ := frame_at h₂
  have hsplit : bytes.take t₂ = bytes.take (t₁ + 1) ++ (bytes.take t₂).drop (t₁ + 1) := by
    conv_lhs => rw [← List.take_append_drop (t₁ + 1) (bytes.take t₂)]
    rw [List.take_take, Nat.min_eq_left hlt]
  have hsuffix := (scanAll_suffix .empty ((bytes.take t₂).drop (t₁ + 1))).length_le
  rw [hsplit, scanAll_append, hempty] at hheld
  rw [List.nil_append, List.length_drop, List.length_take] at hsuffix
  omega

/-- Every frame uses up at least ten bytes. -/
theorem frames_count {held : List UInt8} (h : Candidate held) (bytes : List UInt8) :
    10 * (reports held bytes).countP (·.event = .frame) + (scanAll held bytes).length ≤
      held.length + bytes.length := by
  induction bytes generalizing held with
  | nil => simp [reports, scanAll]
  | cons byte rest ih =>
    have hrest := ih (candidate_scan h byte)
    obtain ⟨hsuffix, hframe⟩ := scan_sound h byte
    have hstep : 10 * (if (scan held byte).2.event = .frame then 1 else 0) +
        (scan held byte).1.length ≤ held.length + 1 := by
      cases hreport : (scan held byte).2 with
      | frame m =>
        obtain ⟨hwire, hempty⟩ := hframe m hreport
        have hlength := congrArg List.length hwire
        rw [List.length_append, List.length_singleton, Message.wire_length] at hlength
        simp only [hempty, Report.event, if_true, List.length_nil]
        omega
      | none => simpa [Report.event] using hsuffix.length_le
      | error e => simpa [Report.event] using hsuffix.length_le
    have hall : scanAll held (byte :: rest) = scanAll (scan held byte).1 rest := rfl
    simp only [reports, List.countP_cons, List.length_cons, hall, decide_eq_true_eq]
    omega

end Scanner

open Scanner

namespace StreamParser

/-- The message of a FRAME output, as the scanner reports it. -/
theorem outputs_frame {q : ProtocolPacket} {bytes : List UInt8} {t : Nat} {out : Output}
    (h : (Receiver.outputs ⟨.init, q⟩ bytes)[t]? = some out) (frame : out.event = .frame) :
    ∃ m, (reports [] bytes)[t]? = some (.frame m) ∧ out.packet.Encodable ∧
      out.packet.message = m := by
  have hagrees := Receiver.outputs_agree (r := ⟨.init, q⟩) init_represents bytes
  obtain ⟨hlt, rfl⟩ := List.getElem?_eq_some_iff.mp h
  have hlt' : t < (reports [] bytes).length := hagrees.length_eq ▸ hlt
  have hout : ((Receiver.outputs ⟨.init, q⟩ bytes)[t]).Agrees (reports [] bytes)[t] :=
    hagrees.get hlt hlt'
  cases hreport : (reports [] bytes)[t] with
  | none =>
    rw [hreport] at hout
    exact absurd (hout.symm.trans frame) nofun
  | frame m =>
    rw [hreport] at hout
    exact ⟨m, List.getElem?_eq_some_iff.mpr ⟨hlt', hreport⟩, hout.2.1, hout.2.2⟩
  | error e =>
    rw [hreport] at hout
    exact absurd (hout.1.symm.trans frame) nofun

theorem Output.Agrees.event_eq {out : Output} {report : Report} (h : out.Agrees report) :
    out.event = report.event := by
  cases report with
  | none => exact h
  | frame m => exact h.1
  | error e => exact h.1

theorem outputs_events (q : ProtocolPacket) (bytes : List UInt8) :
    (Receiver.outputs ⟨.init, q⟩ bytes).map Output.event =
      (reports [] bytes).map Report.event := by
  have hagrees := Receiver.outputs_agree (r := ⟨.init, q⟩) init_represents bytes
  rw [← List.forall₂_eq_eq_eq, List.forall₂_map_left_iff, List.forall₂_map_right_iff]
  exact hagrees.imp fun _ _ h => h.event_eq

end StreamParser

/-- Soundness: every FRAME of a stream carries a packet whose frame is exactly the last bytes
    read, the windows of two FRAMEs do not overlap and come in order, and `n` bytes hold at most
    `n / 10` frames. -/
theorem streamParser_sound (q : ProtocolPacket) (bytes : List UInt8) :
    let outs := StreamParser.Receiver.outputs ⟨.init, q⟩ bytes
    (∀ t out, outs[t]? = some out → out.event = .frame →
      ∃ frame, encodeFrame out.packet = some frame ∧
        frame.length = out.packet.length.toNat + 10 ∧ frame <:+ bytes.take (t + 1)) ∧
    (∀ t₁ t₂ out₁ out₂, t₁ < t₂ → outs[t₁]? = some out₁ → outs[t₂]? = some out₂ →
      out₁.event = .frame → out₂.event = .frame →
        t₁ < t₂ + 1 - (out₂.packet.length.toNat + 10)) ∧
    outs.countP (·.event = .frame) ≤ bytes.length / 10 := by
  refine ⟨?_, ?_, ?_⟩
  · intro t out h frame
    obtain ⟨m, hreport, hencodable, hmessage⟩ := StreamParser.outputs_frame h frame
    obtain ⟨-, hsuffix, -, -⟩ := frame_at hreport
    refine ⟨m.wire, by rw [encodeFrame_of_encodable hencodable, hmessage], ?_, hsuffix⟩
    rw [Message.wire_length, ← hmessage, hencodable.payload_length]
  · intro t₁ t₂ out₁ out₂ hlt h₁ h₂ frame₁ frame₂
    obtain ⟨m₁, hreport₁, -, -⟩ := StreamParser.outputs_frame h₁ frame₁
    obtain ⟨m₂, hreport₂, hencodable, hmessage⟩ := StreamParser.outputs_frame h₂ frame₂
    have hapart := frames_apart hlt hreport₁ hreport₂
    rw [Message.wire_length, ← hmessage, hencodable.payload_length] at hapart
    omega
  · have hcount := frames_count .empty bytes
    have hevents := congrArg (List.countP (· = .frame)) (StreamParser.outputs_events q bytes)
    rw [List.countP_map, List.countP_map] at hevents
    simp only [List.length_nil, Nat.zero_add] at hcount
    rw [Nat.le_div_iff_mul_le (by decide)]
    simp only [Function.comp_def] at hevents
    omega

end Rs422Gateway
