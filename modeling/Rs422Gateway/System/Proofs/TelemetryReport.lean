import Rs422Gateway.System.Proofs.Telemetry

/-!
# The report on TELEMETRY that arrives in order

A client that receives samples with different SEQs enters each of them, until it has as many as it
expects, and the SEQs it reports as missing are those of its window that are not among them.
-/

namespace Rs422Gateway

open Transition
open scoped List

/-- Bytes shifted to their places. -/
theorem or_shiftLeft_bytes {b2 b1 b0 : Nat} (b3 : Nat) (h2 : b2 < 256) (h1 : b1 < 256)
    (h0 : b0 < 256) :
    b3 <<< 24 ||| b2 <<< 16 ||| b1 <<< 8 ||| b0 =
      2 ^ 24 * b3 + 2 ^ 16 * b2 + 2 ^ 8 * b1 + b0 := by
  have hupper : b3 <<< 24 ||| b2 <<< 16 = 2 ^ 16 * (2 ^ 8 * b3 + b2) := by
    rw [← Nat.shiftLeft_add_eq_or_of_lt (by rw [Nat.shiftLeft_eq]; omega), Nat.shiftLeft_eq,
      Nat.shiftLeft_eq]
    ring
  have hmiddle : 2 ^ 16 * (2 ^ 8 * b3 + b2) ||| b1 <<< 8 =
      2 ^ 8 * (2 ^ 16 * b3 + 2 ^ 8 * b2 + b1) := by
    rw [← Nat.two_pow_add_eq_or_of_lt (by rw [Nat.shiftLeft_eq]; omega), Nat.shiftLeft_eq]
    ring
  rw [hupper, hmiddle, ← Nat.two_pow_add_eq_or_of_lt (by omega)]
  ring

theorem readU32Be_writeU32Be (value : UInt32) (rest : List UInt8) :
    readU32Be (writeU32Be value ++ rest) = value := by
  have h := value.toNat_lt
  have low : ∀ n : Nat, n &&& 255 = n % 256 := fun n => Nat.and_two_pow_sub_one_eq_mod n 8
  have shifted : ∀ n k : Nat, k ≤ 24 → (n % 256) <<< k % 4294967296 = (n % 256) <<< k := by
    intro n k hk
    apply Nat.mod_eq_of_lt
    have hpow : 2 ^ k ≤ 2 ^ 24 := Nat.pow_le_pow_right (by decide) hk
    have hmod : n % 256 < 256 := Nat.mod_lt n (by decide)
    rw [Nat.shiftLeft_eq]
    exact Nat.mul_lt_mul_of_lt_of_le hmod hpow (by decide)
  apply UInt32.toNat_inj.mp
  simp only [readU32Be, writeU32Be, List.cons_append, List.nil_append, List.getD_cons_zero,
    List.getD_cons_succ, UInt32.toNat_or, UInt32.toNat_shiftLeft, UInt8.toNat_toUInt32,
    UInt32.toNat_toUInt8, UInt32.toNat_and, UInt32.toNat_shiftRight, UInt32.reduceToNat, low,
    Nat.shiftRight_eq_div_pow, Nat.reduceMod, Nat.reducePow, Nat.mod_mod]
  rw [shifted _ 24 (by decide), shifted _ 16 (by decide), shifted _ 8 (by decide),
    or_shiftLeft_bytes _ (by omega) (by omega) (by omega)]
  omega

namespace TelemetrySample

/-- The payload of the decoded packet begins with the payload of the sample. -/
theorem packet_payload (t : TelemetrySample) :
    ∃ rest, (t.message.packet .zero).payload.toList =
      writeU32Be t.uptimeMs ++ (writeU16Be t.flags ++ rest) := by
  have htake := copyPayload_toList_take ProtocolPacket.zero.payload t.message.payload
    t.message.bounded
  have hsix : (t.message.packet .zero).payload.toList.take 6 =
      writeU32Be t.uptimeMs ++ writeU16Be t.flags := htake
  refine ⟨(t.message.packet .zero).payload.toList.drop 6, ?_⟩
  rw [← List.append_assoc, ← hsix, List.take_append_drop]

end TelemetrySample

namespace UdpClient

variable {expected : ExpectedCount}

/-- A sample has been entered whose SEQ was not received before. -/
def entered (s : UdpClient) (t : TelemetrySample) : UdpClient :=
  { s with
    receivedSequences := insert t.seq s.receivedSequences
    firstPacketReceived := true
    firstSeq := if s.firstPacketReceived then s.firstSeq else t.seq
    csv := s.csv ++ [t.row] }

theorem receive_sample {s : UdpClient} {t : TelemetrySample} (hnew : t.seq ∉ s.receivedSequences) :
    s.receive true t.datagram.bytes = (s.entered t, true) := by
  obtain ⟨rest, hpayload⟩ := t.packet_payload
  have hpacket : t.datagram.message.packet .zero = t.message.packet .zero := rfl
  have hseq : (t.message.packet .zero).seq = t.seq := rfl
  have hlength : (t.message.packet .zero).length = 6 := rfl
  have huptime := readU32Be_writeU32Be t.uptimeMs (writeU16Be t.flags ++ rest)
  have hflags : readU16Be ((writeU32Be t.uptimeMs ++ (writeU16Be t.flags ++ rest)).drop 4) =
      t.flags := readU16Be_writeU16Be t.flags rest
  rw [receive_telemetry, hpacket]
  simp only [enter, hseq, hlength, if_true, hpayload, huptime, hflags, hnew, not_false_eq_true,
    decide_true]
  rfl

/-- The loop enters samples with new and different SEQs, until there are as many as expected. -/
theorem receiveLoop_samples {s : UdpClient} (samples : List TelemetrySample)
    (hnodup : (samples.map TelemetrySample.seq).Nodup)
    (hnew : ∀ t ∈ samples, t.seq ∉ s.receivedSequences) :
    s.receiveLoop expected true (samples.map fun t => t.datagram.bytes) =
      (samples.take (expected.value.toNat - s.receivedSequences.card)).foldl entered s := by
  induction samples generalizing s with
  | nil => rw [List.take_nil]; rfl
  | cons t rest ih =>
    obtain ⟨hfirst, hrest⟩ := List.nodup_cons.mp hnodup
    have ht : t.seq ∉ s.receivedSequences := hnew t List.mem_cons_self
    by_cases hmore : s.receivedSequences.card < expected.value.toNat
    · have hcard : (s.entered t).receivedSequences.card = s.receivedSequences.card + 1 :=
        Finset.card_insert_of_notMem ht
      have hleft : expected.value.toNat - s.receivedSequences.card =
          expected.value.toNat - (s.entered t).receivedSequences.card + 1 := by omega
      have hnew' : ∀ t' ∈ rest, t'.seq ∉ (s.entered t).receivedSequences := by
        intro t' ht' hmem
        rcases Finset.mem_insert.mp hmem with heq | hmem
        · exact hfirst (heq ▸ List.mem_map_of_mem ht')
        · exact hnew t' (List.mem_cons_of_mem _ ht') hmem
      rw [List.map_cons, receiveLoop_cons t.datagram _ hmore, receive_sample ht, hleft,
        List.take_succ_cons, List.foldl_cons]
      exact ih hrest hnew'
    · rw [Nat.sub_eq_zero_of_le (Nat.not_lt.mp hmore), List.map_cons, receiveLoop, if_neg hmore]
      rfl

/-- What the client holds after it has entered some samples. -/
theorem foldl_entered (samples : List TelemetrySample) (s : UdpClient) :
    samples.foldl entered s =
      { s with
        receivedSequences :=
          s.receivedSequences ∪ (samples.map TelemetrySample.seq).toFinset
        firstPacketReceived := s.firstPacketReceived || !samples.isEmpty
        firstSeq :=
          if s.firstPacketReceived then s.firstSeq
          else ((samples.map TelemetrySample.seq).head?).getD s.firstSeq
        csv := s.csv ++ samples.map TelemetrySample.row } := by
  induction samples generalizing s with
  | nil => simp
  | cons t rest ih =>
    rw [List.foldl_cons, ih]
    simp [entered, Finset.union_insert, Finset.insert_union]

/-- The client has received nothing yet, and receives samples with different SEQs. -/
theorem receiveLoop_initial_samples (samples : List TelemetrySample)
    (hnodup : (samples.map TelemetrySample.seq).Nodup) :
    initial.receiveLoop expected true (samples.map fun t => t.datagram.bytes) =
      { initial with
        receivedSequences :=
          ((samples.take expected.value.toNat).map TelemetrySample.seq).toFinset
        firstPacketReceived := !(samples.take expected.value.toNat).isEmpty
        firstSeq := (((samples.take expected.value.toNat).map TelemetrySample.seq).head?).getD 0
        csv := (samples.take expected.value.toNat).map TelemetrySample.row } := by
  rw [receiveLoop_samples samples hnodup (by simp [initial]), foldl_entered]
  simp [initial]

end UdpClient

/-! ## Samples in order -/

/-- The samples of a node: SEQ numbers them from 1 on. -/
def Numbered (samples : List TelemetrySample) : Prop :=
  samples.map TelemetrySample.seq = (List.range samples.length).map fun k => UInt16.ofNat (k + 1)

namespace Numbered

variable {samples : List TelemetrySample} {t : TelemetrySample}

theorem seq_eq (h : Numbered samples) {k : Nat} (ht : samples[k]? = some t) :
    t.seq = UInt16.ofNat (k + 1) := by
  have hlength : k < samples.length := (List.getElem?_eq_some_iff.mp ht).1
  have hseq := congrArg (·[k]?) h
  simp only [List.getElem?_map, ht, List.getElem?_range hlength, Option.map_some,
    Option.some_inj] at hseq
  exact hseq

/-- Until SEQ has come round, it is different for each sample. -/
theorem nodup (h : Numbered samples) (hcount : samples.length ≤ 65536) :
    (samples.map TelemetrySample.seq).Nodup := by
  rw [h]
  apply List.Nodup.map_on
  · intro i hi j hj heq
    have hi' := List.mem_range.mp hi
    have hj' := List.mem_range.mp hj
    have htoNat := congrArg UInt16.toNat heq
    simp only [UInt16.toNat_ofNat'] at htoNat
    omega
  · exact List.nodup_range

end Numbered

/-! ## Where the elements of a sublist stand -/

section Sublist

variable {α : Type*} {xs kept : List α} {first x : α}

/-- An element stands no later in the sublist than in the list. -/
theorem mem_take_of_sublist (hsub : kept <+ xs) (hnodup : xs.Nodup) {j : Nat} (hx : xs[j]? = some x)
    (hmem : x ∈ kept) : x ∈ kept.take (j + 1) := by
  induction hsub generalizing j with
  | slnil => cases hmem
  | @cons kept xs a hsub ih =>
    obtain ⟨ha, hrest⟩ := List.nodup_cons.mp hnodup
    cases j with
    | zero =>
      cases hx
      exact absurd (hsub.subset hmem) ha
    | succ j => exact List.take_subset_take_left kept (by omega) (ih hrest hx hmem)
  | @cons_cons kept xs a hsub ih =>
    obtain ⟨-, hrest⟩ := List.nodup_cons.mp hnodup
    rcases List.mem_cons.mp hmem with rfl | hmem
    · exact List.mem_cons_self
    · cases j with
      | zero =>
        cases hx
        exact List.mem_cons_self
      | succ j => exact List.mem_cons_of_mem _ (ih hrest hx hmem)

/-- The sublist begins where its head stands. -/
theorem sublist_drop (hsub : first :: kept <+ xs) (hnodup : xs.Nodup) {i : Nat}
    (hfirst : xs[i]? = some first) : first :: kept <+ xs.drop i := by
  induction i generalizing xs with
  | zero => exact hsub
  | succ i ih =>
    cases xs with
    | nil => cases hfirst
    | cons a xs =>
      obtain ⟨ha, hrest⟩ := List.nodup_cons.mp hnodup
      cases hsub with
      | cons _ hsub => exact ih hsub hrest hfirst
      | cons_cons =>
        have hlater : xs[i]? = some first := hfirst
        exact absurd (List.mem_of_getElem? hlater) ha

end Sublist

/-! ## The report -/

namespace UdpClient

variable {expected : ExpectedCount} {samples kept : List TelemetrySample}

theorem report_csv {s : UdpClient} (hfirst : s.firstPacketReceived = true) :
    (s.report expected).csv = s.csv ++ (s.missingSeqs expected).map .missing :=
  if_pos hfirst

/-- The samples of the window are reported as missing, unless they have been entered. -/
theorem mem_missingSeqs {s : UdpClient} (hnumbered : Numbered samples) {i j : Nat}
    {first t : TelemetrySample} (hi : samples[i]? = some first) (hj : samples[j]? = some t)
    (hij : i ≤ j) (hwindow : j < i + expected.value.toNat) (hfirst : s.firstSeq = first.seq) :
    t.seq ∈ s.missingSeqs expected ↔ t.seq ∉ s.receivedSequences := by
  have hseq : first.seq + UInt16.ofNat (j - i) = t.seq := by
    rw [hnumbered.seq_eq hi, hnumbered.seq_eq hj, ← UInt16.ofNat_add]
    congr 1
    omega
  rw [missingSeqs, List.mem_filter, hfirst, decide_eq_true_iff]
  constructor
  · exact fun h => h.2
  · intro hnot
    refine ⟨List.mem_map.mpr ⟨j - i, List.mem_range.mpr ?_, hseq⟩, hnot⟩
    omega

/-- The client at the end of its loop, when it has received some samples in order. -/
def receivedInOrder (expected : ExpectedCount) (kept : List TelemetrySample) : UdpClient :=
  initial.receiveLoop expected true (kept.map fun t => t.datagram.bytes)

/-- What it holds. -/
theorem receivedInOrder_eq (hnodup : (kept.map TelemetrySample.seq).Nodup) :
    receivedInOrder expected kept =
      { initial with
        receivedSequences :=
          ((kept.take expected.value.toNat).map TelemetrySample.seq).toFinset
        firstPacketReceived := !(kept.take expected.value.toNat).isEmpty
        firstSeq := (((kept.take expected.value.toNat).map TelemetrySample.seq).head?).getD 0
        csv := (kept.take expected.value.toNat).map TelemetrySample.row } :=
  receiveLoop_initial_samples kept hnodup

/-- A sample in the window is reported as missing unless it has been received. -/
theorem missing_mem_csv (hnumbered : Numbered samples) (hcount : samples.length ≤ 65536)
    (hkept : kept <+ samples) {i j : Nat} {first t : TelemetrySample}
    (hhead : kept.head? = some first) (hi : samples[i]? = some first) (hj : samples[j]? = some t)
    (hij : i ≤ j) (hwindow : j < i + expected.value.toNat) :
    CsvRow.missing t.seq ∈ ((receivedInOrder expected kept).report expected).csv ↔ t ∉ kept := by
  have hseqs := hnumbered.nodup hcount
  have hnodup : samples.Nodup := List.Nodup.of_map _ hseqs
  have hloop : receivedInOrder expected kept = _ :=
    receivedInOrder_eq (hseqs.sublist (hkept.map _))
  obtain ⟨rest, rfl⟩ : ∃ rest, kept = first :: rest := List.head?_eq_some_iff.mp hhead
  obtain ⟨n, hn⟩ : ∃ n, expected.value.toNat = n + 1 :=
    Nat.exists_eq_succ_of_ne_zero (Nat.pos_iff_ne_zero.mp expected.positive)
  have hfirst : (receivedInOrder expected (first :: rest)).firstPacketReceived = true := by
    rw [hloop, hn]
    rfl
  have hfirstSeq : (receivedInOrder expected (first :: rest)).firstSeq = first.seq := by
    rw [hloop, hn]
    rfl
  have hrows : ∀ seq, CsvRow.missing seq ∉ (receivedInOrder expected (first :: rest)).csv := by
    intro seq hmem
    rw [hloop] at hmem
    obtain ⟨t, -, hrow⟩ := List.mem_map.mp hmem
    cases hrow
  have hentered : t.seq ∈ (receivedInOrder expected (first :: rest)).receivedSequences ↔
      t ∈ first :: rest := by
    rw [hloop, List.mem_toFinset]
    constructor
    · intro hmem
      obtain ⟨t', ht', hseq⟩ := List.mem_map.mp hmem
      have hkept' : t' ∈ first :: rest := List.mem_of_mem_take ht'
      have hsame : t' = t :=
        List.inj_on_of_nodup_map hseqs (hkept.subset hkept') (List.mem_of_getElem? hj) hseq
      exact hsame ▸ hkept'
    · intro hmem
      have hdrop := sublist_drop hkept hnodup hi
      have hget : (samples.drop i)[j - i]? = some t := by
        rw [List.getElem?_drop, Nat.add_sub_cancel' hij]
        exact hj
      have htake := mem_take_of_sublist hdrop (hnodup.sublist (List.drop_sublist i _)) hget hmem
      exact List.mem_map_of_mem (List.take_subset_take_left _ (by omega) htake)
  rw [report_csv hfirst, List.mem_append, or_iff_right (hrows t.seq),
    List.mem_map_of_injective (by intro x y h; cases h; rfl),
    mem_missingSeqs hnumbered hi hj hij hwindow hfirstSeq, hentered]

end UdpClient

/-- TELEMETRY end to end: without a loss between the two firmwares the frames handed to
    `w5500_udp_send_frame` are those of some samples of the remote node, in order. A client that
    receives some of them in order, each as a datagram, while SEQ has not come round, reports each
    with its uptime and flags, until it has as many as it expects, and nothing as a duplicate,
    invalid or corrupted. Of the samples in its window, which begins with the first one received, it
    reports as missing those that have not been received. -/
theorem telemetry_endToEnd {start : UInt32} {s : TelemetryPath}
    (run : Reachable TelemetryPath.step TelemetryPath.Lossless (TelemetryPath.initial start) s)
    {received : List (List UInt8)} (hreceived : received <+ s.gateway.history.udpFrames)
    (expected : ExpectedCount) :
    Numbered s.samples ∧
      ∃ kept, kept <+ s.samples ∧ received = kept.map (fun t => t.datagram.bytes) ∧
        (s.samples.length ≤ 65536 →
          let report := udpClient expected true received
          report.duplicates = 0 ∧ report.crcErrors = 0 ∧ report.invalid = 0 ∧
            report.received.toNat = min expected.value.toNat kept.length ∧
            (∃ missing : List UInt16,
              report.csv = (kept.take expected.value.toNat).map TelemetrySample.row ++
                missing.map .missing) ∧
            ∀ i j first t, kept.head? = some first → s.samples[i]? = some first →
              s.samples[j]? = some t → i ≤ j → j < i + expected.value.toNat →
                (CsvRow.missing t.seq ∈ report.csv ↔ t ∉ kept)) := by
  have h := TelemetryPath.carrying run
  obtain ⟨kept, hkept, rfl⟩ := h.datagrams hreceived
  refine ⟨h.seqs, kept, hkept, rfl, ?_⟩
  intro hcount report
  have hkeptSeqs : (kept.map TelemetrySample.seq).Nodup :=
    (Numbered.nodup h.seqs hcount).sublist (hkept.map _)
  have htakeSeqs : ((kept.take expected.value.toNat).map TelemetrySample.seq).Nodup :=
    hkeptSeqs.sublist ((List.take_sublist _ _).map _)
  have hloop : UdpClient.receivedInOrder expected kept = _ :=
    UdpClient.receivedInOrder_eq hkeptSeqs
  have hreport : report = (UdpClient.receivedInOrder expected kept).report expected := rfl
  refine ⟨?_, ?_, ?_, ?_, ?_, ?_⟩
  · rw [hreport, hloop]
    rfl
  · rw [hreport, hloop]
    rfl
  · rw [hreport, hloop]
    rfl
  · have hcard : report.received = UInt32.ofNat (min expected.value.toNat kept.length) := by
      rw [hreport, hloop, UdpClient.report, List.toFinset_card_of_nodup htakeSeqs, List.length_map,
        List.length_take]
    have hbound := expected.bounded
    rw [hcard]
    exact UInt32.toNat_ofNat_of_lt' (by simp only [UInt32.size]; omega)
  · cases hfirst : (UdpClient.receivedInOrder expected kept).firstPacketReceived with
    | true => exact ⟨_, by rw [hreport, UdpClient.report_csv hfirst, hloop]⟩
    | false =>
      refine ⟨[], ?_⟩
      rw [hreport, UdpClient.report, hfirst, hloop]
      simp
  · intro i j first t hhead hi hj hij hwindow
    exact UdpClient.missing_mem_csv h.seqs hcount hkept hhead hi hj hij hwindow

/-- RS422Task starts without bring-up. The remote node samples twice, and `tx_fn` refuses the second
    TELEMETRY. The first one goes through the gateway. -/
def refusedTelemetryRun : List TelemetryAction :=
  List.flatten
    [[.gateway (.rs422 .error false), .gateway (.rs422 .ok false),
        .node (.processPeriodic 100 true true) [], .node (.processPeriodic 200 false true) []],
      List.replicate 16 .arrive, List.replicate 21 (.gateway (.rs422 .ok false)),
      List.replicate 4 (.gateway (.ethernet .drainTelemetry .ok))]

theorem telemetry_endToEnd_refused :
    ∃ s, Reachable TelemetryPath.step TelemetryPath.Lossless (TelemetryPath.initial 0) s ∧
      s.samples = [⟨1, 100, 0⟩, ⟨2, 200, 0⟩] ∧
      CsvRow.missing 2 ∈
        (udpClient ⟨2, by decide, by decide⟩ true s.gateway.history.udpFrames).csv := by
  obtain ⟨s, run, htest⟩ := exists_reachable TelemetryPath.step TelemetryPath.Lossless
    (TelemetryPath.initial 0) refusedTelemetryRun
    (fun s => decide (s.samples = [⟨1, 100, 0⟩, ⟨2, 200, 0⟩] ∧
      s.gateway.history.udpFrames = [(TelemetrySample.mk 1 100 0).datagram.bytes]))
    (by decide +kernel)
  obtain ⟨hsamples, hudp⟩ := of_decide_eq_true htest
  obtain ⟨-, kept, hkept, hbytes, hreport⟩ :=
    telemetry_endToEnd run (List.Sublist.refl _) ⟨2, by decide, by decide⟩
  rw [hsamples] at hkept hreport
  have hfirst : kept = [⟨1, 100, 0⟩] := by
    rw [hudp] at hbytes
    have hcases : kept ∈ ([[], [⟨1, 100, 0⟩], [⟨2, 200, 0⟩], [⟨1, 100, 0⟩, ⟨2, 200, 0⟩]] :
        List (List TelemetrySample)) := List.mem_sublists.mpr hkept
    simp only [List.mem_cons, List.not_mem_nil, or_false] at hcases
    rcases hcases with rfl | rfl | rfl | rfl
    · cases hbytes
    · rfl
    · exact absurd hbytes (by decide +kernel)
    · cases hbytes
  subst hfirst
  obtain ⟨-, -, -, -, -, hmissing⟩ := hreport (by decide)
  have hnot : (⟨2, 200, 0⟩ : TelemetrySample) ∉ [(⟨1, 100, 0⟩ : TelemetrySample)] := by decide
  refine ⟨s, run, hsamples, ?_⟩
  exact (hmissing 0 1 ⟨1, 100, 0⟩ ⟨2, 200, 0⟩ rfl rfl rfl (by decide) (by decide)).mpr hnot

end Rs422Gateway
