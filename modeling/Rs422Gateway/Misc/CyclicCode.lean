import Mathlib

/-!
# Cyclic codes

A string of bits is a polynomial over GF(2), with the first bit as the leading one. A register that
is shifted and reduced by a generator computes remainders modulo it. What the generator divides
cannot be a short burst, and has an even number of ones, at least four, if the generator has the
root 1 and no difference of two monomials of the length in question is a multiple of it.
-/

namespace Rs422Gateway.CyclicCode

open Polynomial

/-! ## Bit strings -/

/-- The polynomial of a bit string. -/
noncomputable def poly : List Bool → (ZMod 2)[X]
  | [] => 0
  | bit :: bits => C (bit.toNat : ZMod 2) * X ^ bits.length + poly bits

/-- The bits of a word, the most significant one first. -/
def bits {w : Nat} (v : BitVec w) : List Bool := ((List.range w).map v.getLsbD).reverse

@[simp] theorem bits_length {w : Nat} (v : BitVec w) : (bits v).length = w := by
  simp [bits]

theorem coeff_poly (bits : List Bool) (k : Nat) :
    (poly bits).coeff k = ((bits.reverse[k]?.getD false).toNat : ZMod 2) := by
  induction bits with
  | nil => rfl
  | cons bit bits ih =>
    rw [poly, coeff_add, coeff_C_mul_X_pow, ih, List.reverse_cons]
    by_cases hlt : k < bits.length
    · rw [if_neg (by omega), zero_add, List.getElem?_append_left (by rwa [List.length_reverse])]
    · rw [List.getElem?_eq_none (by rw [List.length_reverse]; omega),
        List.getElem?_append_right (by rw [List.length_reverse]; omega), List.length_reverse]
      by_cases heq : k = bits.length
      · simp [heq]
      · have hnone : ([bit] : List Bool)[k - bits.length]? = none :=
          List.getElem?_eq_none (by rw [List.length_singleton]; omega)
        simp [heq, hnone]

theorem coeff_poly_bits {w : Nat} (v : BitVec w) (k : Nat) :
    (poly (bits v)).coeff k = ((v.getLsbD k).toNat : ZMod 2) := by
  rw [coeff_poly, bits, List.reverse_reverse, List.getElem?_map]
  by_cases hlt : k < w
  · simp [List.getElem?_range hlt]
  · have hnone : (List.range w)[k]? = none :=
      List.getElem?_eq_none (by rw [List.length_range]; omega)
    simp [hnone, BitVec.getLsbD_of_ge v k (by omega)]

theorem degree_poly_lt (bits : List Bool) : (poly bits).degree < bits.length := by
  rw [degree_lt_iff_coeff_zero]
  intro k hk
  have hnone : bits.reverse[k]? = none :=
    List.getElem?_eq_none (by rw [List.length_reverse]; omega)
  rw [coeff_poly, hnone]
  rfl

theorem poly_append (xs ys : List Bool) :
    poly (xs ++ ys) = poly xs * X ^ ys.length + poly ys := by
  induction xs with
  | nil => simp [poly]
  | cons x xs ih =>
    rw [List.cons_append, poly, poly, ih, List.length_append, pow_add]
    ring

/-- Only a string without a one is the zero polynomial. -/
theorem poly_eq_zero_iff (bits : List Bool) : poly bits = 0 ↔ true ∉ bits := by
  constructor
  · intro hzero hmem
    obtain ⟨k, hk⟩ := List.getElem?_of_mem (List.mem_reverse.mpr hmem)
    have hcoeff := coeff_poly bits k
    rw [hzero, hk, coeff_zero] at hcoeff
    exact absurd hcoeff (by decide)
  · intro hmem
    induction bits with
    | nil => rfl
    | cons bit bits ih =>
      rw [List.mem_cons, not_or] at hmem
      obtain rfl : bit = false := Bool.eq_false_of_not_eq_true fun h => hmem.1 h.symm
      rw [poly, ih hmem.2]
      simp

theorem natCast_toNat_xor (x y : Bool) :
    ((x ^^ y).toNat : ZMod 2) = (x.toNat : ZMod 2) + (y.toNat : ZMod 2) := by
  cases x <;> cases y <;> decide

/-- The difference of two strings of one length is the sum of their polynomials. -/
theorem poly_xor {xs ys : List Bool} (h : xs.length = ys.length) :
    poly (List.zipWith xor xs ys) = poly xs + poly ys := by
  induction xs generalizing ys with
  | nil =>
    obtain rfl : ys = [] := List.eq_nil_of_length_eq_zero h.symm
    simp [poly]
  | cons x xs ih =>
    obtain ⟨y, ys, rfl⟩ : ∃ y ys', ys = y :: ys' :=
      List.exists_cons_of_length_eq_add_one h.symm
    have hlength : xs.length = ys.length := Nat.succ.inj h
    rw [List.zipWith_cons_cons, poly, ih hlength, natCast_toNat_xor, List.length_zipWith, hlength,
      Nat.min_self, poly, poly, C_add, hlength]
    ring

/-- At 1 a string's polynomial is the parity of its ones. -/
theorem eval_one_poly (bits : List Bool) :
    (poly bits).eval 1 = ((bits.count true : Nat) : ZMod 2) := by
  induction bits with
  | nil => simp [poly]
  | cons bit bits ih =>
    rw [poly, eval_add, ih]
    cases bit with
    | false => simp
    | true => simp [add_comm]

/-! ## The shift register -/

section Register

variable {w : Nat} (g : BitVec w)

/-- One turn of the register. -/
def shift (v : BitVec w) : BitVec w := if v.msb then (v <<< 1) ^^^ g else v <<< 1

/-- The generator whose coefficients below the leading one are `g`. -/
noncomputable def generator : (ZMod 2)[X] := X ^ w + poly (bits g)

theorem degree_poly_bits_lt (v : BitVec w) : (poly (bits v)).degree < w := by
  have h := degree_poly_lt (bits v)
  rwa [bits_length] at h

theorem generator_monic : (generator g).Monic := monic_X_pow_add (degree_poly_bits_lt g)

theorem degree_generator : (generator g).degree = w := by
  rw [generator, degree_add_eq_left_of_degree_lt]
  · exact degree_X_pow w
  · rw [degree_X_pow]
    exact degree_poly_bits_lt g

variable {g}

theorem poly_bits_inj {v v' : BitVec w} (h : poly (bits v) = poly (bits v')) : v = v' := by
  apply BitVec.eq_of_getLsbD_eq
  intro k _
  have hcoeff := congrArg (fun p => p.coeff k) h
  simp only [coeff_poly_bits] at hcoeff
  revert hcoeff
  cases v.getLsbD k <;> cases v'.getLsbD k <;> decide

theorem poly_bits_xor (v v' : BitVec w) :
    poly (bits (v ^^^ v')) = poly (bits v) + poly (bits v') := by
  ext k
  rw [coeff_add, coeff_poly_bits, coeff_poly_bits, coeff_poly_bits, BitVec.getLsbD_xor,
    natCast_toNat_xor]

/-- A turn multiplies by X and takes the generator off when the degree reaches its own. -/
theorem poly_shift (hw : 0 < w) (v : BitVec w) :
    poly (bits (shift g v)) = X * poly (bits v) + C (v.msb.toNat : ZMod 2) * generator g := by
  have hmsb : v.msb = v.getLsbD (w - 1) := BitVec.msb_eq_getLsbD_last v
  have hshift : ∀ k, (shift g v).getLsbD k =
      ((decide (k < w) && !decide (k < 1) && v.getLsbD (k - 1)) ^^ (v.msb && g.getLsbD k)) := by
    intro k
    unfold shift
    cases v.msb with
    | true => simp
    | false => simp
  ext k
  rw [coeff_add, coeff_C_mul, generator, coeff_add, coeff_X_pow, coeff_poly_bits, coeff_poly_bits,
    hshift, natCast_toNat_xor]
  cases k with
  | zero =>
    rw [mul_coeff_zero, coeff_X_zero, zero_mul, if_neg (by omega)]
    cases v.msb <;> cases g.getLsbD 0 <;> simp
  | succ k =>
    rw [coeff_X_mul, coeff_poly_bits]
    rcases Nat.lt_trichotomy (k + 1) w with hlt | heq | hgt
    · rw [if_neg (by omega)]
      cases v.msb <;> cases g.getLsbD (k + 1) <;> simp [hlt]
    · subst heq
      have hlast : v.getLsbD k = v.msb := hmsb.symm
      rw [if_pos rfl, hlast, BitVec.getLsbD_of_ge g _ (Nat.le_refl _)]
      cases v.msb with
      | true =>
        simp only [Bool.toNat_true, Nat.cast_one, lt_irrefl, decide_false, Bool.false_and,
          Bool.toNat_false, Nat.cast_zero, Bool.and_false]
        decide
      | false => simp
    · have hv : v.getLsbD k = false := BitVec.getLsbD_of_ge v _ (by omega)
      have hnot : ¬ k + 1 < w := by omega
      rw [if_neg (by omega), hv, BitVec.getLsbD_of_ge g _ (by omega)]
      simp [hnot]

/-! ## The remainder it computes -/

/-- A turn multiplies by X in the ring of remainders. -/
theorem mk_shift (hw : 0 < w) (v : BitVec w) :
    AdjoinRoot.mk (generator g) (poly (bits (shift g v))) =
      AdjoinRoot.mk (generator g) (X * poly (bits v)) := by
  rw [poly_shift hw, map_add, map_mul _ (C _), AdjoinRoot.mk_self, mul_zero, add_zero]

theorem mk_shift_iterate (hw : 0 < w) (n : Nat) (v : BitVec w) :
    AdjoinRoot.mk (generator g) (poly (bits ((shift g)^[n] v))) =
      AdjoinRoot.mk (generator g) (X ^ n * poly (bits v)) := by
  induction n generalizing v with
  | zero => rw [Function.iterate_zero, id, pow_zero, one_mul]
  | succ n ih =>
    rw [Function.iterate_succ_apply, ih, map_mul, mk_shift hw, ← map_mul, pow_succ, mul_assoc]

/-- What the register holds is the remainder of what it stands for. -/
theorem eq_modByMonic {v : BitVec w} {p : (ZMod 2)[X]}
    (h : AdjoinRoot.mk (generator g) (poly (bits v)) = AdjoinRoot.mk (generator g) p) :
    poly (bits v) = p %ₘ generator g := by
  have hsmall : (poly (bits v)).degree < (generator g).degree := by
    rw [degree_generator]
    exact degree_poly_bits_lt v
  rw [← modByMonic_eq_of_dvd_sub (generator_monic g) (AdjoinRoot.mk_eq_mk.mp h)]
  exact ((modByMonic_eq_self_iff (generator_monic g)).mpr hsmall).symm

/-- A symbol is added to the upper end of the register, which then turns once for each of its
    bits. -/
def feed {k : Nat} (g v : BitVec w) (symbol : BitVec k) : BitVec w :=
  (shift g)^[k] (v ^^^ (symbol.setWidth w <<< (w - k)))

theorem poly_upper {k : Nat} (hk : k ≤ w) (symbol : BitVec k) :
    poly (bits (symbol.setWidth w <<< (w - k))) = poly (bits symbol) * X ^ (w - k) := by
  ext i
  rw [coeff_mul_X_pow', coeff_poly_bits, coeff_poly_bits, BitVec.getLsbD_shiftLeft,
    BitVec.getLsbD_setWidth]
  by_cases hlow : i < w - k
  · rw [if_neg (by omega)]
    simp [hlow]
  · rw [if_pos (by omega)]
    by_cases hhigh : i < w
    · have hin : i - (w - k) < w := by omega
      simp [hlow, hhigh, hin]
    · rw [BitVec.getLsbD_of_ge symbol _ (by omega)]
      simp

theorem mk_feed {k : Nat} (hw : 0 < w) (hk : k ≤ w) (v : BitVec w) (symbol : BitVec k) :
    AdjoinRoot.mk (generator g) (poly (bits (feed g v symbol))) =
      AdjoinRoot.mk (generator g) (poly (bits v) * X ^ k + poly (bits symbol) * X ^ w) := by
  have hpow : (X : (ZMod 2)[X]) ^ w = X ^ (w - k) * X ^ k := by
    rw [← pow_add, Nat.sub_add_cancel hk]
  rw [feed, mk_shift_iterate hw, poly_bits_xor, poly_upper hk, hpow]
  refine congrArg (AdjoinRoot.mk (generator g)) ?_
  ring

/-- The register after a string of symbols. -/
theorem mk_foldl_feed {k : Nat} (hw : 0 < w) (hk : k ≤ w) (v : BitVec w)
    (symbols : List (BitVec k)) :
    AdjoinRoot.mk (generator g) (poly (bits (symbols.foldl (feed g) v))) =
      AdjoinRoot.mk (generator g)
        (poly (symbols.flatMap bits) * X ^ w + poly (bits v) * X ^ (k * symbols.length)) := by
  induction symbols generalizing v with
  | nil => simp [poly]
  | cons symbol symbols ih =>
    have hlength : (symbols.flatMap bits).length = k * symbols.length := by
      rw [List.length_flatMap]
      simp [Nat.mul_comm]
    rw [List.foldl_cons, ih, List.flatMap_cons, poly_append, hlength, List.length_cons, map_add,
      map_mul _ (poly _) (X ^ (k * _)), mk_feed hw hk, ← map_mul, ← map_add, Nat.mul_add_one,
      pow_add]
    refine congrArg (AdjoinRoot.mk (generator g)) ?_
    ring

end Register

/-! ## What the generator does not divide -/

section Detection

variable {w : Nat} {g : BitVec w}

theorem isCoprime_X_pow (hw : 0 < w) (hlow : g.getLsbD 0 = true) (n : Nat) :
    IsCoprime (generator g) (X ^ n) := by
  have hndvd : ¬ X ∣ generator g := by
    rw [X_dvd_iff, generator, coeff_add, coeff_X_pow, if_neg (by omega), coeff_poly_bits, hlow]
    decide
  exact ((irreducible_X.coprime_iff_not_dvd.mpr hndvd).symm).pow_right

/-- Trailing zeros do not matter. -/
theorem dvd_of_dvd_mul_X_pow (hw : 0 < w) (hlow : g.getLsbD 0 = true) {p : (ZMod 2)[X]} {n : Nat}
    (h : generator g ∣ p * X ^ n) : generator g ∣ p :=
  (isCoprime_X_pow hw hlow n).dvd_of_dvd_mul_right h

/-- A nonzero burst no longer than the register is not divisible. -/
theorem not_mem_of_dvd_burst (hw : 0 < w) (hlow : g.getLsbD 0 = true) {e : List Bool} {k : Nat}
    (burst : ∀ i, e[i]? = some true → k ≤ i ∧ i < k + w) (h : generator g ∣ poly e) :
    true ∉ e := by
  have hsplit : e = e.take k ++ ((e.drop k).take w ++ e.drop (k + w)) := by
    rw [← List.drop_drop, List.take_append_drop, List.take_append_drop]
  have hbefore : true ∉ e.take k := by
    intro hmem
    obtain ⟨i, hi⟩ := List.getElem?_of_mem hmem
    rw [List.getElem?_take] at hi
    split at hi
    case isTrue hlt => exact absurd (burst i hi).1 (Nat.not_le.mpr hlt)
    case isFalse => cases hi
  have hbehind : true ∉ e.drop (k + w) := by
    intro hmem
    obtain ⟨i, hi⟩ := List.getElem?_of_mem hmem
    rw [List.getElem?_drop] at hi
    have := (burst _ hi).2
    omega
  have hpoly : poly e = poly ((e.drop k).take w) * X ^ (e.drop (k + w)).length := by
    conv_lhs => rw [hsplit]
    rw [poly_append, poly_append, (poly_eq_zero_iff _).mpr hbefore,
      (poly_eq_zero_iff _).mpr hbehind, zero_mul, zero_add, add_zero]
  have hsmall : (poly ((e.drop k).take w)).degree < (generator g).degree := by
    rw [degree_generator]
    refine lt_of_lt_of_le (degree_poly_lt _) ?_
    exact_mod_cast List.length_take_le w (e.drop k)
  rw [hpoly] at h
  have hzero := eq_zero_of_dvd_of_degree_lt (dvd_of_dvd_mul_X_pow hw hlow h) hsmall
  rw [← poly_eq_zero_iff, hpoly, hzero, zero_mul]

/-- With the root 1, what the generator divides has an even number of ones. -/
theorem even_count_of_dvd (root : (generator g).eval 1 = 0) {e : List Bool}
    (h : generator g ∣ poly e) : Even (e.count true) := by
  rw [← ZMod.natCast_eq_zero_iff_even, ← eval_one_poly]
  obtain ⟨q, hq⟩ := h
  rw [hq, eval_mul, root, zero_mul]

/-- A string with two ones. -/
theorem exists_of_count_eq_two {e : List Bool} (h : e.count true = 2) :
    ∃ a b c, e = a ++ true :: (b ++ true :: c) ∧ true ∉ a ∧ true ∉ b ∧ true ∉ c := by
  obtain ⟨a, rest, rfl, ha⟩ :=
    List.eq_append_cons_of_mem (List.count_pos_iff.mp (by omega : 0 < e.count true))
  have hrest : rest.count true = 1 := by
    rw [List.count_append, List.count_eq_zero_of_not_mem ha, List.count_cons_self] at h
    omega
  obtain ⟨b, c, rfl, hb⟩ :=
    List.eq_append_cons_of_mem (List.count_pos_iff.mp (by omega : 0 < rest.count true))
  refine ⟨a, b, c, rfl, ha, hb, ?_⟩
  rw [List.count_append, List.count_eq_zero_of_not_mem hb, List.count_cons_self] at hrest
  exact List.count_eq_zero.mp (by omega)

/-- What the generator divides has no two ones if it divides no `X ^ d + 1` of the length. -/
theorem count_ne_two_of_dvd (hw : 0 < w) (hlow : g.getLsbD 0 = true) {e : List Bool}
    (order : ∀ d, 0 < d → d < e.length → ¬ generator g ∣ X ^ d + 1)
    (h : generator g ∣ poly e) : e.count true ≠ 2 := by
  intro htwo
  obtain ⟨a, b, c, rfl, ha, hb, hc⟩ := exists_of_count_eq_two htwo
  have hpoly : poly (a ++ true :: (b ++ true :: c)) = (X ^ (b.length + 1) + 1) * X ^ c.length := by
    rw [poly_append, (poly_eq_zero_iff _).mpr ha, poly, poly_append,
      (poly_eq_zero_iff _).mpr hb, poly, (poly_eq_zero_iff _).mpr hc, List.length_append,
      List.length_cons, List.length_cons]
    simp only [Bool.toNat_true, Nat.cast_one, map_one, zero_mul, zero_add, one_mul, add_zero]
    ring
  rw [hpoly] at h
  refine order (b.length + 1) (Nat.succ_pos _) ?_ (dvd_of_dvd_mul_X_pow hw hlow h)
  simp only [List.length_append, List.length_cons]
  omega

/-- A nonzero string that the generator divides has at least four ones. -/
theorem four_le_count (hw : 0 < w) (hlow : g.getLsbD 0 = true)
    (root : (generator g).eval 1 = 0) {e : List Bool}
    (order : ∀ d, 0 < d → d < e.length → ¬ generator g ∣ X ^ d + 1)
    (h : generator g ∣ poly e) (hmem : true ∈ e) : 4 ≤ e.count true := by
  obtain ⟨n, hn⟩ := even_count_of_dvd root h
  have hpos : 0 < e.count true := List.count_pos_iff.mpr hmem
  have hne := count_ne_two_of_dvd hw hlow order h
  omega

/-- The register does not come back to `v` in the next `n` turns from `c`. -/
def avoids (g v : BitVec w) : Nat → BitVec w → Bool
  | 0, _ => true
  | n + 1, c => decide (c ≠ v) && avoids g v n (shift g c)

theorem iterate_ne_of_avoids {v : BitVec w} {n : Nat} {c : BitVec w} (h : avoids g v n c = true)
    {d : Nat} (hd : d < n) : (shift g)^[d] c ≠ v := by
  induction n generalizing c d with
  | zero => omega
  | succ n ih =>
    obtain ⟨hne, hrest⟩ := Bool.and_eq_true_iff.mp h
    cases d with
    | zero => exact of_decide_eq_true hne
    | succ d =>
      rw [Function.iterate_succ_apply]
      exact ih hrest (by omega)

/-- The register holds 1 again when the generator divides `X ^ d + 1`. -/
theorem not_dvd_of_avoids (hw : 1 < w) {n : Nat} (h : avoids g 1 n (shift g 1) = true) {d : Nat}
    (hpos : 0 < d) (hd : d ≤ n) : ¬ generator g ∣ X ^ d + 1 := by
  intro hdvd
  have hone : poly (bits (1 : BitVec w)) = 1 := by
    ext k
    have hbit : (1 : BitVec w).getLsbD k = (decide (0 < w) && decide (k = 0)) :=
      BitVec.getLsbD_one
    rw [coeff_poly_bits, coeff_one, hbit]
    cases k with
    | zero => simp [Nat.lt_of_succ_lt hw]
    | succ k => simp
  have hback : AdjoinRoot.mk (generator g) (X ^ d) = AdjoinRoot.mk (generator g) 1 := by
    rw [AdjoinRoot.mk_eq_mk, CharTwo.sub_eq_add]
    exact hdvd
  obtain ⟨d, rfl⟩ := Nat.exists_eq_add_of_lt hpos
  rw [Nat.zero_add] at hback hd
  refine iterate_ne_of_avoids h (d := d) (by omega) ?_
  rw [← Function.iterate_succ_apply]
  apply poly_bits_inj
  have hiterate := mk_shift_iterate (g := g) (Nat.lt_of_succ_lt hw) (d + 1) 1
  rw [hone, mul_one, hback] at hiterate
  have hleft := eq_modByMonic hiterate
  have hright : poly (bits (1 : BitVec w)) = 1 %ₘ generator g :=
    eq_modByMonic (by rw [hone])
  rw [hleft, hright]

end Detection

end Rs422Gateway.CyclicCode
