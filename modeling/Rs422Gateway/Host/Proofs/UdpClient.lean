import Rs422Gateway.Common.Proofs.Codec
import Rs422Gateway.Host.UdpClient

/-!
# What the loss report depends on

The set of SEQs that is received does not depend on the order of arrival, the window that
`missing_count` is counted over does: it begins with the SEQ of the first datagram to arrive, so
that a SEQ before it falls out although it has been received.
-/

namespace Rs422Gateway

namespace UdpClient

variable {expected : ExpectedCount}

/-! ## One datagram -/

theorem receive_telemetry (s : UdpClient) (d : TelemetryDatagram) :
    s.receive true d.bytes =
      (enter { s with
        firstPacketReceived := true
        firstSeq := if s.firstPacketReceived then s.firstSeq else d.seq } (d.message.packet .zero),
        true) := by
  have hdecode : protocolDecode d.bytes .zero = ⟨.ok, d.message.packet .zero⟩ :=
    protocolDecode_wire d.message .zero
  have hid : (d.message.packet .zero).msgId = msgTelemetry := d.telemetry
  have hlength : (d.message.packet .zero).length = 6 ∨ (d.message.packet .zero).length = 2 := by
    refine d.size.imp ?_ ?_ <;>
    · intro hsize
      change d.message.length = _
      rw [Message.length, hsize]
      rfl
  simp only [receive, hdecode, hid, ne_eq, not_true_eq_false, false_or, if_false, if_true]
  rw [if_neg (by tauto)]
  cases hfirst : s.firstPacketReceived with
  | true => simp [← hfirst]
  | false => simp; rfl

/-- The datagrams that the client enters are the valid TELEMETRY datagrams. -/
theorem receive_enters_iff (datagram : List UInt8) :
    (initial.receive true datagram).1.firstPacketReceived = true ↔
      ∃ d : TelemetryDatagram, d.bytes = datagram := by
  constructor
  · intro hfirst
    rw [receive] at hfirst
    dsimp only at hfirst
    split at hfirst
    case isTrue =>
      split at hfirst <;> cases hfirst
    case isFalse hok =>
      obtain ⟨m, rfl⟩ := (protocolDecode_ok_iff _ _).mp (Decidable.not_not.mp hok)
      rw [protocolDecode_wire] at hfirst
      split at hfirst
      case isTrue => cases hfirst
      case isFalse hvalid =>
        obtain ⟨hid, hlength⟩ := not_or.mp hvalid
        refine ⟨⟨m, Decidable.not_not.mp hid, ?_⟩, rfl⟩
        have hsize : m.length = 6 ∨ m.length = 2 := by
          by_contra hnot
          exact hlength (not_or.mp hnot)
        rw [← m.length_toNat]
        exact hsize.imp (congrArg UInt16.toNat) (congrArg UInt16.toNat)
  · rintro ⟨d, rfl⟩
    rw [receive_telemetry]
    rfl

/-- A datagram that the loop receives is entered whole. -/
theorem receiveLoop_cons {s : UdpClient} (d : TelemetryDatagram) (rest : List (List UInt8))
    (hcard : s.receivedSequences.card < expected.value.toNat) :
    s.receiveLoop expected true (d.bytes :: rest) =
      (s.receive true d.bytes).1.receiveLoop expected true rest := by
  have hlength : d.bytes.length = d.message.payload.length + 10 := d.message.wire_length
  have hne : d.bytes ≠ [] := by
    intro hnil
    rw [hnil] at hlength
    cases hlength
  have htake : d.bytes.take protocolMaxFrameSize = d.bytes :=
    List.take_of_length_le (hlength.le.trans (Nat.add_le_add_right d.message.bounded 10))
  rw [receiveLoop, if_pos hcard, if_neg hne, htake, receive_telemetry]

/-- Once the first datagram is there, the loop receives every SEQ: when it stops at the count, there
    is no other left. -/
theorem receiveLoop_received {s : UdpClient} (hfirst : s.firstPacketReceived = true)
    (order : List TelemetryDatagram)
    (hcard : (s.receivedSequences ∪ (order.map TelemetryDatagram.seq).toFinset).card ≤
      expected.value.toNat) :
    (s.receiveLoop expected true (order.map TelemetryDatagram.bytes)).receivedSequences =
        s.receivedSequences ∪ (order.map TelemetryDatagram.seq).toFinset ∧
      (s.receiveLoop expected true (order.map TelemetryDatagram.bytes)).firstSeq = s.firstSeq ∧
      (s.receiveLoop expected true (order.map TelemetryDatagram.bytes)).firstPacketReceived =
        true := by
  induction order generalizing s with
  | nil => exact ⟨by simp [receiveLoop], rfl, hfirst⟩
  | cons d rest ih =>
    by_cases hmore : s.receivedSequences.card < expected.value.toNat
    · have hunion : s.receivedSequences ∪ ((d :: rest).map TelemetryDatagram.seq).toFinset =
          insert d.seq s.receivedSequences ∪ (rest.map TelemetryDatagram.seq).toFinset := by
        simp [Finset.union_insert, Finset.insert_union]
      rw [hunion] at hcard ⊢
      rw [List.map_cons, receiveLoop_cons d _ hmore, receive_telemetry]
      simp only [hfirst, if_true]
      exact ih (s := enter { s with firstPacketReceived := true, firstSeq := s.firstSeq }
        (d.message.packet .zero)) rfl hcard
    · have hall : s.receivedSequences =
          s.receivedSequences ∪ ((d :: rest).map TelemetryDatagram.seq).toFinset :=
        Finset.eq_of_subset_of_card_le Finset.subset_union_left
          (hcard.trans (Nat.not_lt.mp hmore))
      have hstop : s.receiveLoop expected true ((d :: rest).map TelemetryDatagram.bytes) = s := by
        rw [List.map_cons, receiveLoop, if_neg hmore]
      rw [hstop]
      exact ⟨hall, rfl, hfirst⟩

/-- The loop from its beginning. -/
theorem receiveLoop_initial (d : TelemetryDatagram) (rest : List TelemetryDatagram)
    (hcard : (((d :: rest).map TelemetryDatagram.seq).toFinset).card ≤ expected.value.toNat) :
    (initial.receiveLoop expected true ((d :: rest).map TelemetryDatagram.bytes)).receivedSequences
        = ((d :: rest).map TelemetryDatagram.seq).toFinset ∧
      (initial.receiveLoop expected true ((d :: rest).map TelemetryDatagram.bytes)).firstSeq =
        d.seq ∧
      (initial.receiveLoop expected true
        ((d :: rest).map TelemetryDatagram.bytes)).firstPacketReceived = true := by
  have hunion : ((d :: rest).map TelemetryDatagram.seq).toFinset =
      insert d.seq ∅ ∪ (rest.map TelemetryDatagram.seq).toFinset := by
    simp
  rw [hunion] at hcard ⊢
  rw [List.map_cons, receiveLoop_cons (s := initial) d _ expected.positive, receive_telemetry]
  exact receiveLoop_received (s := enter { initial with
    firstPacketReceived := true, firstSeq := d.seq } (d.message.packet .zero)) rfl rest hcard

/-! ## The window -/

theorem toNat_sub_add_ofNat (first : UInt16) {offset : Nat} (h : offset < 65536) :
    (first + UInt16.ofNat offset - first).toNat = offset := by
  rw [UInt16.toNat_sub, UInt16.toNat_add, UInt16.toNat_ofNat']
  have := first.toNat_lt
  omega

theorem add_ofNat_toNat_sub (first seq : UInt16) :
    first + UInt16.ofNat (seq - first).toNat = seq := by
  rw [UInt16.ofNat_toNat]
  apply UInt16.toNat_inj.mp
  rw [UInt16.toNat_add, UInt16.toNat_sub]
  have := first.toNat_lt
  have := seq.toNat_lt
  omega

/-- The offsets at which a received SEQ is found are the received SEQs of the window. -/
theorem card_offsets (expected : ExpectedCount) (seqs : Finset UInt16) (first : UInt16) :
    ((Finset.range expected.value.toNat).filter
      fun offset => first + UInt16.ofNat offset ∈ seqs).card = inWindow expected seqs first := by
  have hbound := expected.bounded
  refine Finset.card_nbij' (fun offset => first + UInt16.ofNat offset)
    (fun seq => (seq - first).toNat) ?_ ?_ ?_ ?_
  · intro offset h
    obtain ⟨hrange, hmem⟩ := Finset.mem_filter.mp h
    have hlt := Finset.mem_range.mp hrange
    refine Finset.mem_filter.mpr ⟨hmem, ?_⟩
    rwa [toNat_sub_add_ofNat first (by omega)]
  · intro seq h
    obtain ⟨hmem, hlt⟩ := Finset.mem_filter.mp h
    refine Finset.mem_filter.mpr ⟨Finset.mem_range.mpr hlt, ?_⟩
    rwa [add_ofNat_toNat_sub]
  · intro offset h
    have hlt := Finset.mem_range.mp (Finset.mem_filter.mp h).1
    exact toNat_sub_add_ofNat first (by omega)
  · intro seq _
    exact add_ofNat_toNat_sub first seq

theorem missingSeqs_length (s : UdpClient) (expected : ExpectedCount) :
    (s.missingSeqs expected).length + inWindow expected s.receivedSequences s.firstSeq =
      expected.value.toNat := by
  have hmissing : (s.missingSeqs expected).length =
      ((Finset.range expected.value.toNat).filter
        fun offset => s.firstSeq + UInt16.ofNat offset ∉ s.receivedSequences).card := by
    rw [missingSeqs, List.filter_map, List.length_map]
    rfl
  rw [hmissing, ← card_offsets, Nat.add_comm, Finset.card_filter_add_card_filter_not,
    Finset.card_range]

theorem inWindow_consecutiveSeqs (expected : ExpectedCount) (first : UInt16) :
    inWindow expected (consecutiveSeqs first expected.value.toNat) first =
      expected.value.toNat := by
  rw [← card_offsets, Finset.filter_true_of_mem, Finset.card_range]
  intro offset h
  exact Finset.mem_image_of_mem _ h

/-- A window of all SEQs holds every SEQ received. -/
theorem inWindow_all (h : expected.value.toNat = 65536) (seqs : Finset UInt16)
    (first : UInt16) : inWindow expected seqs first = seqs.card := by
  rw [inWindow, Finset.filter_true_of_mem]
  intro seq _
  rw [h]
  exact (seq - first).toNat_lt

end UdpClient

theorem sameWindows_of_all {expected : ExpectedCount} (h : expected.value.toNat = 65536)
    (seqs : Finset UInt16) : SameWindows expected seqs := by
  intro first _ other _
  rw [UdpClient.inWindow_all h, UdpClient.inWindow_all h]

namespace TelemetryDatagram

variable {expected : ExpectedCount} {datagrams : Multiset TelemetryDatagram}

/-! ## Orders of arrival -/

theorem seqs_coe (order : List TelemetryDatagram) :
    seqs (order : Multiset TelemetryDatagram) = (order.map seq).toFinset := rfl

theorem mem_seqs {first : UInt16} :
    first ∈ seqs datagrams ↔ ∃ d ∈ datagrams, d.seq = first := by
  rw [seqs, Multiset.mem_toFinset, Multiset.mem_map]

/-- Any of the datagrams can be the first to arrive. -/
theorem exists_order {d : TelemetryDatagram} (h : d ∈ datagrams) :
    ∃ rest : List TelemetryDatagram, ↑(d :: rest) = datagrams := by
  obtain ⟨others, rfl⟩ := Multiset.exists_cons_of_mem h
  obtain ⟨rest, rfl⟩ := Quot.exists_rep others
  exact ⟨rest, rfl⟩

/-- `missing_count` depends on the SEQs received and on which of them comes first. -/
theorem missingCount_cons (expected : ExpectedCount) (d : TelemetryDatagram)
    (rest : List TelemetryDatagram)
    (hcard : (seqs ↑(d :: rest)).card ≤ expected.value.toNat) :
    (missingCount expected (d :: rest)).toNat + inWindow expected (seqs ↑(d :: rest)) d.seq =
      expected.value.toNat := by
  obtain ⟨hreceived, hseq, hfirst⟩ := UdpClient.receiveLoop_initial d rest hcard
  have hlength := UdpClient.missingSeqs_length
    (UdpClient.initial.receiveLoop expected true ((d :: rest).map bytes)) expected
  rw [hreceived, hseq, ← seqs_coe] at hlength
  have hbound := expected.bounded
  have hcount : (missingCount expected (d :: rest)).toNat =
      ((UdpClient.initial.receiveLoop expected true ((d :: rest).map bytes)).missingSeqs
        expected).length := by
    rw [missingCount, udpClient, UdpClient.report, if_pos hfirst]
    exact UInt32.toNat_ofNat_of_lt' (Nat.lt_of_le_of_lt (by omega) (by decide : 65536 < 2 ^ 32))
  rw [hcount, hlength]

/-- Two first arrivals lead to the same report exactly if their windows hold as much. -/
theorem missingCount_eq_iff {d e : TelemetryDatagram} {rest rest' : List TelemetryDatagram}
    (hd : ↑(d :: rest) = datagrams) (he : ↑(e :: rest') = datagrams)
    (hcard : (seqs datagrams).card ≤ expected.value.toNat) :
    missingCount expected (d :: rest) = missingCount expected (e :: rest') ↔
      inWindow expected (seqs datagrams) d.seq = inWindow expected (seqs datagrams) e.seq := by
  have hdcount := missingCount_cons expected d rest (by rwa [hd])
  have hecount := missingCount_cons expected e rest' (by rwa [he])
  rw [hd] at hdcount
  rw [he] at hecount
  rw [← UInt32.toNat_inj]
  omega

end TelemetryDatagram

/-- The loss report depends on the datagrams alone exactly if every received SEQ has as many
    received SEQs in the window that begins with it. -/
theorem udpClient_lossByContent (expected : ExpectedCount)
    (datagrams : Multiset TelemetryDatagram)
    (hcard : (TelemetryDatagram.seqs datagrams).card ≤ expected.value.toNat) :
    LossByContent expected datagrams ↔
      SameWindows expected (TelemetryDatagram.seqs datagrams) := by
  open TelemetryDatagram in
  constructor
  · rintro ⟨hfree, -⟩ first hfirst other hother
    obtain ⟨d, hd, rfl⟩ := mem_seqs.mp hfirst
    obtain ⟨e, he, rfl⟩ := mem_seqs.mp hother
    obtain ⟨rest, hrest⟩ := exists_order hd
    obtain ⟨rest', hrest'⟩ := exists_order he
    exact (missingCount_eq_iff hrest hrest' hcard).mp (hfree _ _ hrest hrest')
  · intro hsame
    constructor
    · intro order order' horder horder'
      have hperm : order.Perm order' := Multiset.coe_eq_coe.mp (horder.trans horder'.symm)
      cases order with
      | nil => rw [hperm.nil_eq]
      | cons d rest =>
        cases order' with
        | nil => cases hperm.eq_nil
        | cons e rest' =>
          have hd : d ∈ datagrams := by simp [← horder]
          have he : e ∈ datagrams := by simp [← horder']
          exact (missingCount_eq_iff horder horder' hcard).mpr
            (hsame _ (mem_seqs.mpr ⟨d, hd, rfl⟩) _ (mem_seqs.mpr ⟨e, he, rfl⟩))
    · rintro ⟨first, hconsecutive⟩ order horder
      have hfirst : first ∈ seqs datagrams := by
        rw [hconsecutive]
        exact Finset.mem_image.mpr ⟨0, Finset.mem_range.mpr expected.positive, by simp⟩
      cases order with
      | nil =>
        rw [← horder] at hfirst
        cases hfirst
      | cons d rest =>
        have hd : d ∈ datagrams := by simp [← horder]
        have hwindow : inWindow expected (seqs datagrams) d.seq = expected.value.toNat := by
          rw [hsame _ (mem_seqs.mpr ⟨d, hd, rfl⟩) _ hfirst, hconsecutive]
          exact UdpClient.inWindow_consecutiveSeqs expected first
        have hcount := missingCount_cons expected d rest (by rwa [horder])
        rw [horder, hwindow] at hcount
        exact UInt32.toNat_inj.mp (by simpa using hcount)

/-- A datagram of a node that has just started. -/
def zeroTelemetry (seq : UInt16) : TelemetryDatagram :=
  ⟨⟨msgTelemetry, seq, [0, 0, 0, 0, 0, 0], by decide⟩, rfl, .inl rfl⟩

/-- A window of all SEQs. -/
theorem udpClient_lossByContent_all :
    LossByContent ⟨65536, by decide, by decide⟩
      ↑[zeroTelemetry 65535, zeroTelemetry 0, zeroTelemetry 1, zeroTelemetry 0] :=
  (udpClient_lossByContent _ _ (by decide)).mpr (sameWindows_of_all rfl _)

/-- Two datagrams are expected and both arrive, the second before the first: one is missing. -/
theorem udpClient_lossByContent_reordered :
    ¬ ∀ (expected : ExpectedCount) (datagrams : Multiset TelemetryDatagram),
      (TelemetryDatagram.seqs datagrams).card ≤ expected.value.toNat →
        LossByContent expected datagrams := by
  intro hall
  obtain ⟨hfree, -⟩ := hall ⟨2, by decide, by decide⟩ ↑[zeroTelemetry 1, zeroTelemetry 2]
    (by decide +kernel)
  have hsame := hfree _ [zeroTelemetry 2, zeroTelemetry 1] rfl
    (Multiset.coe_eq_coe.mpr (.swap _ _ _))
  have hinOrder : TelemetryDatagram.missingCount ⟨2, by decide, by decide⟩
      [zeroTelemetry 1, zeroTelemetry 2] = 0 := by decide +kernel
  have hreordered : TelemetryDatagram.missingCount ⟨2, by decide, by decide⟩
      [zeroTelemetry 2, zeroTelemetry 1] = 1 := by decide +kernel
  rw [hinOrder, hreordered] at hsame
  cases hsame

end Rs422Gateway
