import Mathlib

/-!
# A periodic timer on a wrapping clock

The timer is asked again and again, with `now k` what the clock shows the `k`-th time. It fires when
`period` has passed since it fired last, both read from a clock of `w` bits that wraps. It never
fires too early (`Successive.period_le`), and if the clock advances by at most `d` from one time to
the next, it fires at most `d` too late (`Successive.elapsed_lt`).
-/

namespace Rs422Gateway.PeriodicTimer

variable {w : Nat}

/-- What the clock showed when the timer fired last, before it is asked the `k`-th time. -/
def last (period : Nat) (start : BitVec w) (now : Nat → BitVec w) : Nat → BitVec w
  | 0 => start
  | k + 1 =>
      if period ≤ (now k - last period start now k).toNat then now k else last period start now k

/-- The timer fires when it is asked the `k`-th time. -/
def Fires (period : Nat) (start : BitVec w) (now : Nat → BitVec w) (k : Nat) : Prop :=
  period ≤ (now k - last period start now k).toNat

/-- The timer fires twice, and not in between. -/
structure Successive (period : Nat) (start : BitVec w) (now : Nat → BitVec w) (i j : Nat) :
    Prop where
  lt : i < j
  first : Fires period start now i
  second : Fires period start now j
  quiet : ∀ k, i < k → k < j → ¬ Fires period start now k

/-- How far the clock has advanced from the `i`-th to the `j`-th time, wraps included. -/
def elapsed (now : Nat → BitVec w) (i j : Nat) : Nat :=
  ∑ k ∈ Finset.Ico i j, (now (k + 1) - now k).toNat

variable {period : Nat} {start : BitVec w} {now : Nat → BitVec w} {i j : Nat}

/-- Asked from the second time on, the timer goes on from what it has done the first time. -/
theorem last_succ (period : Nat) (start : BitVec w) (now : Nat → BitVec w) (k : Nat) :
    last period start now (k + 1) =
      last period (last period start now 1) (fun k => now (k + 1)) k := by
  induction k with
  | zero => rfl
  | succ k ih =>
    rw [last, ih]
    rfl

theorem fires_succ (period : Nat) (start : BitVec w) (now : Nat → BitVec w) (k : Nat) :
    Fires period start now (k + 1) ↔
      Fires period (last period start now 1) (fun k => now (k + 1)) k := by
  rw [Fires, Fires, last_succ]

/-- Until it fires again, the timer counts from where it has fired. -/
theorem last_of_quiet (first : Fires period start now i)
    (quiet : ∀ k, i < k → k < j → ¬ Fires period start now k) (lt : i < j) :
    last period start now j = now i := by
  induction j, lt using Nat.le_induction with
  | base => exact if_pos first
  | succ j hj ih =>
    have hlast := ih fun k hik hkj => quiet k hik (Nat.lt_succ_of_lt hkj)
    have hquiet : ¬ period ≤ (now j - last period start now j).toNat :=
      quiet j hj (Nat.lt_succ_self j)
    rw [last, if_neg hquiet, hlast]

/-- Two firings are a period apart, as the clock shows it. -/
theorem Successive.period_le (h : Successive period start now i j) :
    period ≤ (now j - now i).toNat := by
  have hsecond := h.second
  rwa [Fires, last_of_quiet h.first h.quiet h.lt] at hsecond

theorem elapsed_succ (now : Nat → BitVec w) (h : i ≤ j) :
    elapsed now i (j + 1) = elapsed now i j + (now (j + 1) - now j).toNat :=
  Finset.sum_Ico_succ_top h _

/-- The clock shows the time that has passed, modulo its wraps. -/
theorem sub_eq_ofNat (now : Nat → BitVec w) (h : i ≤ j) :
    now j - now i = BitVec.ofNat w (elapsed now i j) := by
  induction j, h using Nat.le_induction with
  | base => simp [elapsed]
  | succ j hj ih =>
    rw [elapsed_succ now hj, BitVec.ofNat_add, ← ih, BitVec.ofNat_toNat, BitVec.setWidth_eq,
      sub_add_sub_cancel']

theorem toNat_sub_eq (h : i ≤ j) (short : elapsed now i j < 2 ^ w) :
    (now j - now i).toNat = elapsed now i j := by
  rw [sub_eq_ofNat now h, BitVec.toNat_ofNat, Nat.mod_eq_of_lt short]

/-- Two firings are less than `period + d` apart when the clock advances by at most `d` from one
    time to the next. -/
theorem Successive.elapsed_lt (h : Successive period start now i j) {d : Nat} (pos : 0 < period)
    (fits : period + d ≤ 2 ^ w)
    (advance : ∀ k, i ≤ k → k < j → (now (k + 1) - now k).toNat ≤ d) :
    elapsed now i j < period + d := by
  have hlt := h.lt
  -- As long as the timer is quiet, less than a period has passed.
  have hquiet : ∀ k, i ≤ k → k < j → elapsed now i k < period := by
    intro k hik
    induction k, hik using Nat.le_induction with
    | base => intro _; simpa [elapsed] using pos
    | succ k hk ih =>
      intro hkj
      have hbefore := ih (by omega)
      have hadvance := advance k hk (by omega)
      have hnot := h.quiet (k + 1) (by omega) hkj
      rw [Fires, last_of_quiet h.first (fun l hil hlk => h.quiet l hil (by omega)) (by omega),
        toNat_sub_eq (by omega) (by rw [elapsed_succ now hk]; omega)] at hnot
      omega
  obtain ⟨k, rfl⟩ : ∃ k, j = k + 1 := ⟨j - 1, by omega⟩
  have hbefore := hquiet k (by omega) (by omega)
  have hadvance := advance k (by omega) (by omega)
  rw [elapsed_succ now (by omega)]
  omega

end Rs422Gateway.PeriodicTimer
