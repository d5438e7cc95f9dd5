import Rs422Gateway.Common.Proofs.ScannerRefinement

/-!
# The MAGIC search after a rejected header

`resync_from_tail` looks at the last two bytes of a rejected header only. A search that starts
again behind its first byte would find every MAGIC in it; the two agree exactly when there is none
between the VERSION and the second byte of SEQ.
-/

namespace Rs422Gateway

namespace Scanner

/-- What a search for MAGIC holds after fewer than eight bytes: all from the first MAGIC on, or a
    last byte that can begin one. -/
def search : List UInt8 → List UInt8
  | [] => []
  | byte :: rest =>
      if [magicHi, magicLo] <+: byte :: rest then byte :: rest
      else if rest = [] ∧ byte = magicHi then [magicHi]
      else search rest

theorem search_singleton (byte : UInt8) :
    search [byte] = if byte = magicHi then [magicHi] else [] := by
  have hmagic : ¬ [magicHi, magicLo] <+: [byte] := by
    intro h
    have hlength := h.length_le
    simp at hlength
  rw [search, if_neg hmagic, search]
  simp

theorem search_cons_cons (x y : UInt8) (rest : List UInt8) :
    search (x :: y :: rest) =
      if x = magicHi ∧ y = magicLo then x :: y :: rest else search (y :: rest) := by
  have hmagic : [magicHi, magicLo] <+: x :: y :: rest ↔ x = magicHi ∧ y = magicLo := by
    simp [List.cons_prefix_cons, eq_comm]
  conv_lhs => rw [search]
  simp only [hmagic, reduceCtorEq, false_and, if_false]

/-- From a MAGIC on, fewer than eight bytes are only held. -/
theorem scanAll_held {held bytes : List UInt8} (long : 2 ≤ held.length)
    (short : held.length + bytes.length < 8) : scanAll held bytes = held ++ bytes := by
  induction bytes generalizing held with
  | nil => rw [List.append_nil]; rfl
  | cons byte rest ih =>
    rw [List.length_cons] at short
    have hlength : (held ++ [byte]).length = held.length + 1 := List.length_append
    have hstep : scanAll held (byte :: rest) = scanAll (held ++ [byte]) rest := by
      show scanAll (scan held byte).1 rest = _
      rw [scan_header byte long (by omega)]
    rw [hstep, ih (by omega) (by omega), List.append_assoc]
    rfl

/-- The scanner searches, from nothing or from the first byte of a MAGIC. -/
theorem scanAll_search (bytes : List UInt8) :
    (bytes.length < 8 → scanAll [] bytes = search bytes) ∧
      (bytes.length < 7 → scanAll [magicHi] bytes = search (magicHi :: bytes)) := by
  induction bytes with
  | nil =>
    refine ⟨fun _ => rfl, fun _ => ?_⟩
    rw [search_singleton, if_pos rfl]
    rfl
  | cons byte rest ih =>
    obtain ⟨hempty, hhalf⟩ := ih
    have hstart : (byte :: rest).length < 8 →
        scanAll [] (byte :: rest) = search (byte :: rest) := by
      intro short
      rw [List.length_cons] at short
      show scanAll (scan [] byte).1 rest = _
      rw [scan_nil]
      by_cases hbyte : byte = magicHi
      · subst hbyte
        rw [if_pos rfl, hhalf (by omega)]
      · rw [if_neg hbyte, hempty (by omega), search, if_neg, if_neg fun h => hbyte h.2]
        intro hmagic
        exact hbyte (List.cons_prefix_cons.mp hmagic).1.symm
    refine ⟨hstart, fun short => ?_⟩
    rw [search_cons_cons]
    by_cases hlo : byte = magicLo
    · subst hlo
      rw [if_pos ⟨rfl, rfl⟩]
      rw [List.length_cons] at short
      have hheld : scanAll [magicHi, magicLo] rest = [magicHi, magicLo] ++ rest :=
        scanAll_held (Nat.le_refl 2) (show 2 + rest.length < 8 by omega)
      exact hheld
    · rw [if_neg fun h => hlo h.2, ← hstart (by omega)]
      show scanAll (scan [magicHi] byte).1 rest = scanAll (scan [] byte).1 rest
      rw [scan_singleton, scan_nil, if_neg hlo]

/-- MAGIC at the offset `j`. -/
def MagicAt (bytes : List UInt8) (j : Nat) : Prop := [magicHi, magicLo] <+: bytes.drop j

instance (bytes : List UInt8) (j : Nat) : Decidable (MagicAt bytes j) :=
  inferInstanceAs (Decidable (_ <+: _))

/-- The search skips no MAGIC. -/
theorem length_le_search {bytes : List UInt8} {j : Nat} (h : MagicAt bytes j) :
    bytes.length ≤ j + (search bytes).length := by
  induction bytes generalizing j with
  | nil => exact Nat.zero_le _
  | cons byte rest ih =>
    rw [search]
    split
    case isTrue => exact Nat.le_add_left _ _
    case isFalse hfirst =>
      cases j with
      | zero => exact absurd h hfirst
      | succ j =>
        have hrest : MagicAt rest j := h
        have hne : ¬ (rest = [] ∧ byte = magicHi) := by
          rintro ⟨rfl, -⟩
          rw [MagicAt, List.drop_nil] at hrest
          exact absurd hrest.length_le (by decide)
        have hlength := ih hrest
        rw [if_neg hne, List.length_cons]
        omega

/-- Where no MAGIC begins, nothing is held. -/
theorem search_drop {bytes : List UInt8} {n : Nat} (hn : n < bytes.length)
    (h : ∀ j < n, ¬ MagicAt bytes j) : search bytes = search (bytes.drop n) := by
  induction n generalizing bytes with
  | zero => rfl
  | succ n ih =>
    obtain ⟨byte, rest, rfl⟩ := List.exists_cons_of_length_pos (Nat.zero_lt_of_lt hn)
    have hfirst : ¬ [magicHi, magicLo] <+: byte :: rest := h 0 (Nat.succ_pos n)
    have hlength : n < rest.length := Nat.lt_of_succ_lt_succ hn
    have hne : ¬ (rest = [] ∧ byte = magicHi) := by
      rintro ⟨rfl, -⟩
      exact absurd hlength (Nat.not_lt_zero n)
    rw [search, if_neg hfirst, if_neg hne, List.drop_succ_cons]
    exact ih hlength fun j hj => h (j + 1) (Nat.succ_lt_succ hj)

theorem exists_last_two {h : List UInt8} {n : Nat} (size : h.length = n + 2) :
    ∃ x y, h.drop n = [x, y] ∧ h = h.take n ++ [x, y] := by
  obtain ⟨x, y, hxy⟩ : ∃ x y, h.drop n = [x, y] :=
    List.length_eq_two.mp (by rw [List.length_drop]; omega)
  exact ⟨x, y, hxy, by rw [← hxy, List.take_append_drop]⟩

/-- What `resync_from_tail` keeps of the last two bytes is what a search of them holds. -/
theorem tail_eq_search {h : List UInt8} {n : Nat} (size : h.length = n + 2) :
    tail h = search (h.drop n) := by
  obtain ⟨x, y, hxy, hsplit⟩ := exists_last_two size
  rw [hxy, hsplit, tail_append_pair, search_cons_cons, search_singleton]
  split
  case isTrue hmagic => rw [hmagic.1, hmagic.2]
  case isFalse => rfl

theorem tail_last_two {h : List UInt8} {byte : UInt8} (size : (h ++ [byte]).length = 8) :
    tail (h ++ [byte]) =
      if MagicAt (h ++ [byte]) 6 then [magicHi, magicLo]
      else if byte = magicHi then [magicHi] else [] := by
  obtain ⟨x, y, hdrop, hsplit⟩ := exists_last_two size
  have hlast : byte = y := by
    have hget := congrArg List.getLast? hsplit
    rwa [List.getLast?_concat, List.getLast?_append_cons, List.getLast?_cons_cons,
      List.getLast?_singleton, Option.some_inj] at hget
  have hmagic : MagicAt (h ++ [byte]) 6 ↔ x = magicHi ∧ byte = magicLo := by
    rw [MagicAt, hdrop, hlast]
    simp [List.cons_prefix_cons, eq_comm]
  simp only [hmagic]
  rw [hsplit, tail_append_pair, hlast]

theorem length_tail_le (h : List UInt8) : (tail h).length ≤ 2 := by
  unfold tail
  split
  · exact Nat.le_refl 2
  split
  · exact Nat.le_succ 1
  · exact Nat.zero_le 2

/-- The search from the second byte of a header on finds what `resync_from_tail` keeps exactly when
    there is no MAGIC between VERSION and the second byte of SEQ. -/
theorem search_header_iff {h : List UInt8} (magic : MagicAt h 0) (size : h.length = 8) :
    tail h = search (h.drop 1) ↔ ∀ j, 2 ≤ j → j ≤ 5 → ¬ MagicAt h j := by
  have hshift : ∀ j, MagicAt (h.drop 1) j ↔ MagicAt h (1 + j) := fun j => by
    rw [MagicAt, List.drop_drop, MagicAt]
  have hlength : (h.drop 1).length = 7 := by rw [List.length_drop, size]
  constructor
  · intro heq j hlow hhigh hj
    obtain ⟨i, rfl⟩ := Nat.exists_eq_add_of_le (Nat.le_of_succ_le hlow)
    have hfound := length_le_search ((hshift i).mpr hj)
    have hshort := length_tail_le h
    rw [heq] at hshort
    omega
  · intro hnone
    have hskip : search (h.drop 1) = search ((h.drop 1).drop 5) := by
      refine search_drop (by omega) fun j hj hmagic => ?_
      rw [hshift] at hmagic
      rcases Nat.eq_zero_or_pos j with rfl | hpos
      · -- the second byte of MAGIC is not its first one
        obtain ⟨rest, rfl⟩ : [magicHi, magicLo] <+: h := magic
        exact absurd (List.cons_prefix_cons.mp hmagic).1 (by decide)
      · exact hnone (1 + j) (by omega) (by omega) hmagic
    rw [tail_eq_search size, hskip, List.drop_drop]

end Scanner

open Scanner StreamParser

namespace StreamParser

/-- The parser goes on with `held`: it is in the state for these bytes, and they are all it
    holds. -/
structure GoesOnWith (p : StreamParser) (held : List UInt8) : Prop extends Holds p held where
  state : p.state = stateOf held

theorem GoesOnWith.unique {p : StreamParser} {held held' : List UInt8} (h : p.GoesOnWith held)
    (h' : p.GoesOnWith held') : held = held' := by
  have hlength : held.length = held'.length := h.index.symm.trans h'.index
  rw [← h.bytes, ← h'.bytes, hlength]

/-- The parser is in READ_HEADER with seven bytes, and the next one completes a header that is
    rejected. -/
def RejectsHeader (p : StreamParser) (h : List UInt8) : Prop :=
  p.state = .readHeader ∧ p.frameIndex = 7 ∧ p.frameBuffer.toList.take 7 = h.take 7 ∧
    h.length = 8 ∧ (h.getD offsetVersion 0 ≠ protocolVersion ∨ 256 < lengthField h)

instance (p : StreamParser) (h : List UInt8) : Decidable (p.RejectsHeader h) :=
  inferInstanceAs (Decidable (_ ∧ _ ∧ _ ∧ _ ∧ _))

variable {p : StreamParser} {held h : List UInt8} (byte : UInt8) (q : ProtocolPacket)

/-- A rejected header: the parser goes on with what its last two bytes can begin. -/
theorem goesOnWith_tail (hp : p.Represents held) (rejects : p.RejectsHeader (h ++ [byte])) :
    (p.feedByte byte q).1.GoesOnWith (tail (h ++ [byte])) ∧ MagicAt (h ++ [byte]) 0 := by
  obtain ⟨hstate, hindex, hbytes, hsize, hbad⟩ := rejects
  have hseven : held.length = 7 := hp.index.symm.trans hindex
  have hlength : h.length = 7 := by
    rw [List.length_append, List.length_singleton] at hsize
    omega
  have hheld : held = h := by
    rw [← hp.bytes, hseven, hbytes, ← hlength, List.take_left]
  subst hheld
  have hscan : (scan held byte).1 = tail (held ++ [byte]) := by
    rw [scan_lastHeader byte hseven]
    split
    case isTrue => rfl
    case isFalse hversion =>
      rw [if_pos (hbad.resolve_left hversion)]
  have hnext := (feedByte_refines q byte hp).1
  rw [hscan] at hnext
  refine ⟨⟨⟨hnext.bytes, hnext.index⟩, hnext.state⟩, ?_⟩
  cases hp.candidate with
  | empty => exact absurd hseven (by decide)
  | half => exact absurd hseven (by decide)
  | header _ magic => exact magic.trans (List.prefix_append held [byte])
  | frame _ magic => exact magic.trans (List.prefix_append held [byte])

end StreamParser

open StreamParser

/-- A header that any reachable parser rejects: the parser goes on with the MAGIC in its last two
    bytes, or with a last byte that can begin one, or with nothing. This is what a scanner restarted
    at its second byte would hold, all from the first MAGIC on, exactly when there is no MAGIC at
    the offsets 2 to 5. -/
theorem streamParser_headerResync (q q' : ProtocolPacket) (calls : List Receiver.Call)
    (h : List UInt8) (byte : UInt8)
    (rejects : (Receiver.callAll ⟨.init, q⟩ calls).parser.RejectsHeader (h ++ [byte])) :
    ((Receiver.callAll ⟨.init, q⟩ calls).parser.feedByte byte q').1.GoesOnWith
        (if MagicAt (h ++ [byte]) 6 then [magicHi, magicLo]
        else if byte = magicHi then [magicHi] else []) ∧
      scanAll [] ((h ++ [byte]).drop 1) = search ((h ++ [byte]).drop 1) ∧
      (((Receiver.callAll ⟨.init, q⟩ calls).parser.feedByte byte q').1.GoesOnWith
          (search ((h ++ [byte]).drop 1)) ↔
        ∀ j, 2 ≤ j → j ≤ 5 → ¬ MagicAt (h ++ [byte]) j) := by
  obtain ⟨held, hheld⟩ := Receiver.callAll_represents (r := ⟨.init, q⟩) init_represents calls
  obtain ⟨hgoes, hmagic⟩ := goesOnWith_tail byte q' hheld rejects
  have hsize : (h ++ [byte]).length = 8 := rejects.2.2.2.1
  refine ⟨?_, ?_, ?_⟩
  · rw [← tail_last_two hsize]
    exact hgoes
  · refine (scanAll_search _).1 ?_
    rw [List.length_drop, hsize]
    decide
  · rw [← search_header_iff hmagic hsize]
    constructor
    · intro hsearch
      exact hgoes.unique hsearch
    · intro heq
      rw [← heq]
      exact hgoes

/-- A frame of an unknown version whose last header bytes are a MAGIC. -/
theorem streamParser_headerResync_tail :
    ((Receiver.callAll ⟨.init, .zero⟩
        ([0xAA, 0x55, 0x02, 0x01, 0x00, 0x07, 0xAA].map .feedByte)).parser.feedByte 0x55
          .zero).1.GoesOnWith [0xAA, 0x55] :=
  (streamParser_headerResync .zero .zero ([0xAA, 0x55, 0x02, 0x01, 0x00, 0x07, 0xAA].map .feedByte)
    [0xAA, 0x55, 0x02, 0x01, 0x00, 0x07, 0xAA] 0x55
    (by decide +kernel)).1

/-- A MAGIC without its frame, and the frame of a PING with SEQ 7 behind it. The header
    `AA 55 AA 55 01 01 00 07` is rejected for its version, and with it goes the PING. -/
theorem streamParser_headerResync_skips :
    (¬ ∀ (q q' : ProtocolPacket) (calls : List Receiver.Call) (h : List UInt8) (byte : UInt8),
      (Receiver.callAll ⟨.init, q⟩ calls).parser.RejectsHeader (h ++ [byte]) →
        ((Receiver.callAll ⟨.init, q⟩ calls).parser.feedByte byte q').1.GoesOnWith
          (search ((h ++ [byte]).drop 1))) ∧
      ∀ out ∈ Receiver.outputs ⟨.init, .zero⟩
        [0xAA, 0x55, 0xAA, 0x55, 0x01, 0x01, 0x00, 0x07, 0x00, 0x00, 0x64, 0x71],
        out.event ≠ .frame := by
  constructor
  · intro hall
    have hgoes := hall .zero .zero ([0xAA, 0x55, 0xAA, 0x55, 0x01, 0x01, 0x00].map .feedByte)
      [0xAA, 0x55, 0xAA, 0x55, 0x01, 0x01, 0x00] 0x07 (by decide +kernel)
    exact absurd hgoes.index (by decide +kernel)
  · decide +kernel

end Rs422Gateway
