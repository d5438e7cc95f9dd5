import Rs422Gateway.Common.Proofs.Soundness
import Rs422Gateway.Host.TcpClient
import Rs422Gateway.RemoteNode.Proofs.Replies

/-!
# The requests of the TCP clients

What the PING of a request looks like, and what `wait_for_pong` finds: it finds the PONG in what it
reads exactly when the scanner reports one, and then the parser is at the beginning of a frame.
-/

namespace Rs422Gateway

open Scanner

/-! ## PINGs -/

/-- The PING of the two clients. -/
theorem encodeFrame_ping (seq : UInt16) :
    encodeFrame
        { ProtocolPacket.zero with version := protocolVersion, msgId := msgPing, seq := seq } =
      some (emptyMessage msgPing seq).wire := by
  have hencodable : ProtocolPacket.Encodable
      { ProtocolPacket.zero with version := protocolVersion, msgId := msgPing, seq := seq } := by
    refine ⟨rfl, ?_⟩
    show (0 : UInt16).toNat ≤ 256
    decide
  have hpayload : ProtocolPacket.zero.payload.toList.take 0 = [] := List.take_zero
  rw [encodeFrame_of_encodable hencodable]
  exact congrArg some (congrArg Message.wire (Message.ext rfl rfl hpayload))

/-- The SEQs of the first `n` requests. -/
def requestSeqs (n : Nat) : List UInt16 := (List.range n).map fun k => UInt16.ofNat (k + 1)

theorem requestSeqs_succ (n : Nat) :
    requestSeqs (n + 1) = requestSeqs n ++ [UInt16.ofNat (n + 1)] := by
  rw [requestSeqs, List.range_succ, List.map_append]
  rfl

theorem requestSeqs_length (n : Nat) : (requestSeqs n).length = n := by
  rw [requestSeqs, List.length_map, List.length_range]

/-- The number of requests that the client waits for. -/
def TcpClient.awaited (s : TcpClient) : Nat := if s.waiting then 1 else 0

theorem TcpClient.seq_of_request {s : TcpClient} {n : Nat} (h : s.request = UInt32.ofNat n) :
    s.seq = UInt16.ofNat (n + 1) := by
  apply UInt16.toNat_inj.mp
  rw [seq, h]
  simp only [UInt32.toNat_toUInt16, UInt32.toNat_add, UInt32.toNat_ofNat', UInt32.toNat_one,
    UInt16.toNat_ofNat']
  omega

/-! ## `wait_for_pong` -/

/-- The scanner reports the PONG. -/
def HeardPong (held : List UInt8) (seq : UInt16) (bytes : List UInt8) : Prop :=
  .frame (emptyMessage msgPong seq) ∈ reports held bytes

theorem heardPong_nil (held : List UInt8) (seq : UInt16) : ¬ HeardPong held seq [] :=
  List.not_mem_nil

theorem heardPong_cons {held : List UInt8} {seq : UInt16} {byte : UInt8} {rest : List UInt8} :
    HeardPong held seq (byte :: rest) ↔
      .frame (emptyMessage msgPong seq) = (scan held byte).2 ∨
        HeardPong (scan held byte).1 seq rest :=
  List.mem_cons

theorem heardPong_append (held : List UInt8) (seq : UInt16) (xs ys : List UInt8) :
    HeardPong held seq (xs ++ ys) ↔
      HeardPong held seq xs ∨ HeardPong (scanAll held xs) seq ys := by
  unfold HeardPong
  rw [reports_append]
  exact List.mem_append

/-- The PONG stands in what has been heard. -/
theorem HeardPong.whole {seq : UInt16} {bytes : List UInt8} (h : HeardPong [] seq bytes) :
    (emptyMessage msgPong seq).wire <:+: bytes := by
  obtain ⟨t, ht⟩ := List.mem_iff_getElem?.mp h
  obtain ⟨-, hsuffix, -⟩ := frame_at ht
  exact hsuffix.isInfix.trans (List.take_prefix _ _).isInfix

/-- The test of `wait_for_pong`. -/
theorem isPong_iff (m : Message) (seq : UInt16) (q : ProtocolPacket) :
    ((m.packet q).msgId = msgPong ∧ (m.packet q).seq = seq ∧ (m.packet q).length = 0) ↔
      m = emptyMessage msgPong seq := by
  constructor
  · rintro ⟨hmsgId, hseq, hlength⟩
    have hpayload : m.payload = [] := by
      apply List.eq_nil_of_length_eq_zero
      have hzero : m.length.toNat = 0 := congrArg UInt16.toNat hlength
      rwa [Message.length_toNat] at hzero
    exact Message.ext hmsgId hseq hpayload
  · rintro rfl
    exact ⟨rfl, rfl, rfl⟩

namespace TcpClient

/-- The test for one byte. -/
def Delivers (out : StreamParser × StreamParserEvent × ProtocolPacket) (seq : UInt16) : Prop :=
  out.2.1 = .frame ∧ out.2.2.msgId = msgPong ∧ out.2.2.seq = seq ∧ out.2.2.length = 0

instance (out : StreamParser × StreamParserEvent × ProtocolPacket) (seq : UInt16) :
    Decidable (Delivers out seq) := inferInstanceAs (Decidable (_ ∧ _))

theorem findPong_cons (p : StreamParser) (seq : UInt16) (byte : UInt8) (rest : List UInt8) :
    findPong p seq (byte :: rest) =
      if Delivers (p.feedByte byte .zero) seq then ((p.feedByte byte .zero).1, true)
      else findPong (p.feedByte byte .zero).1 seq rest := rfl

/-- It is passed when the scanner reports the PONG. -/
theorem delivers_iff {p : StreamParser} {held : List UInt8} (h : p.Represents held)
    (seq : UInt16) (byte : UInt8) :
    Delivers (p.feedByte byte .zero) seq ↔
      .frame (emptyMessage msgPong seq) = (scan held byte).2 := by
  obtain ⟨-, hfollows⟩ := StreamParser.feedByte_refines .zero byte h
  have hevent := hfollows.event
  have hpacket := hfollows.packet
  unfold Delivers
  rw [hevent, hpacket]
  cases (scan held byte).2 with
  | none | error _ =>
    constructor
    · rintro ⟨hframe, -⟩
      cases hframe
    · intro heq
      cases heq
  | frame m =>
    constructor
    · rintro ⟨-, htest⟩
      rw [(isPong_iff m seq _).mp htest]
    · intro heq
      cases heq
      exact ⟨rfl, rfl, rfl, rfl⟩

/-- The loop over the bytes received. -/
theorem findPong_represents {p : StreamParser} {held : List UInt8} (h : p.Represents held)
    (seq : UInt16) (bytes : List UInt8) :
    ((findPong p seq bytes).2 = true ∧ HeardPong held seq bytes ∧
        (findPong p seq bytes).1.Represents []) ∨
      ((findPong p seq bytes).2 = false ∧ ¬ HeardPong held seq bytes ∧
        (findPong p seq bytes).1.Represents (scanAll held bytes)) := by
  induction bytes generalizing p held with
  | nil => exact .inr ⟨rfl, heardPong_nil held seq, h⟩
  | cons byte rest ih =>
    have hrepresents := (StreamParser.feedByte_refines .zero byte h).1
    have hdelivers := delivers_iff h seq byte
    rw [findPong_cons, heardPong_cons]
    split
    case isTrue hfound =>
      have hreport := hdelivers.mp hfound
      rw [((scan_sound h.candidate byte).2 _ hreport.symm).2] at hrepresents
      exact .inl ⟨rfl, .inl hreport, hrepresents⟩
    case isFalse hgoes =>
      rw [or_iff_right (fun hreport => hgoes (hdelivers.mpr hreport))]
      exact ih hrepresents

end TcpClient

end Rs422Gateway
