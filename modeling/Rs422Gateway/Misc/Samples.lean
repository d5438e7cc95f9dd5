import Mathlib

/-!
# Samples of a signal

The samples of a signal with two levels, the newest first, and how often it has fallen and come
back. That it goes up for the first time is not a return.
-/

namespace Rs422Gateway.Samples

/-- How often a sample was down where the one before was up. -/
def falls : List Bool → Nat
  | [] => 0
  | up :: older => falls older + if up = false ∧ older.head? = some true then 1 else 0

/-- How often a sample was up where the one before was down and the signal had been up before. -/
def returns : List Bool → Nat
  | [] => 0
  | up :: older =>
      returns older + if up = true ∧ older.head? = some false ∧ true ∈ older then 1 else 0

/-- The signal has been up, and the last sample was down. -/
def Lost (samples : List Bool) : Prop := samples.head? = some false ∧ true ∈ samples

instance (samples : List Bool) : Decidable (Lost samples) :=
  inferInstanceAs (Decidable (_ ∧ _))

variable {samples : List Bool} {up : Bool}

theorem not_lost_of_up (h : samples.head? = some true) : ¬ Lost samples := by
  intro hlost
  rw [Lost, h] at hlost
  exact absurd hlost.1 (by decide)

/-- A sample like the one before changes nothing. -/
theorem same (h : samples.head? = some up) :
    falls (up :: samples) = falls samples ∧ returns (up :: samples) = returns samples ∧
      (Lost (up :: samples) ↔ Lost samples) ∧ (true ∈ up :: samples ↔ true ∈ samples) := by
  have hmem : true ∈ up :: samples ↔ true ∈ samples := by
    constructor
    · intro hmem
      rcases List.mem_cons.mp hmem with hup | hmem
      · exact List.mem_of_mem_head? (hup ▸ h)
      · exact hmem
    · exact List.mem_cons_of_mem up
  refine ⟨?_, ?_, ?_, hmem⟩
  · cases up <;> simp [falls, h]
  · cases up <;> simp [returns, h]
  · rw [Lost, Lost, hmem, h]
    rfl

/-- The signal falls. -/
theorem fall (h : samples.head? = some true) :
    falls (false :: samples) = falls samples + 1 ∧
      returns (false :: samples) = returns samples := by
  simp [falls, returns, h]

/-- The signal comes back. -/
theorem return_ (h : Lost samples) :
    falls (true :: samples) = falls samples ∧
      returns (true :: samples) = returns samples + 1 := by
  simp [falls, returns, h.1, h.2]

/-- A signal that has never been up has neither fallen nor come back. -/
theorem never (h : true ∉ samples) : falls samples = 0 ∧ returns samples = 0 := by
  induction samples with
  | nil => exact ⟨rfl, rfl⟩
  | cons up older ih =>
    rw [List.mem_cons, not_or] at h
    obtain ⟨hfalls, hreturns⟩ := ih h.2
    have hhead : older.head? ≠ some true := fun hhead => h.2 (List.mem_of_mem_head? hhead)
    simp [falls, returns, hfalls, hreturns, hhead, h.2]

/-- A signal comes back as often as it has fallen, but for the last time while it is lost. -/
theorem falls_eq (samples : List Bool) :
    falls samples = returns samples + if Lost samples then 1 else 0 := by
  induction samples with
  | nil => rfl
  | cons up older ih =>
    cases hhead : older.head? with
    | none =>
      rw [List.head?_eq_none_iff.mp hhead]
      cases up <;> decide
    | some last =>
      by_cases hsame : up = last
      · subst hsame
        obtain ⟨hfalls, hreturns, hlost, -⟩ := same hhead
        rw [hfalls, hreturns, ih]
        simp only [hlost]
      · cases last with
        | true =>
          have hdown : up = false := eq_false_of_ne_true hsame
          subst hdown
          obtain ⟨hfalls, hreturns⟩ := fall hhead
          have hmem : Lost (false :: older) :=
            ⟨rfl, List.mem_cons_of_mem _ (List.mem_of_mem_head? hhead)⟩
          rw [hfalls, hreturns, ih, if_neg (not_lost_of_up hhead), if_pos hmem]
        | false =>
          have hup : up = true := eq_true_of_ne_false hsame
          subst hup
          rw [if_neg (not_lost_of_up rfl)]
          by_cases hmem : true ∈ older
          · obtain ⟨hfalls, hreturns⟩ := return_ ⟨hhead, hmem⟩
            rw [hfalls, hreturns, ih, if_pos ⟨hhead, hmem⟩]
          · obtain ⟨hfalls, hreturns⟩ := never hmem
            simp [falls, returns, hfalls, hreturns, hmem]

end Rs422Gateway.Samples
