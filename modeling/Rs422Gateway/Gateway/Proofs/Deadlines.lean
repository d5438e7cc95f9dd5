import Rs422Gateway.Gateway.Deadlines

/-!
# The deadlines of EthernetTask and ideal time

As long as every iteration lasts fewer than 2^30 ticks, a deadline and the ticks it is compared with
are less than 2^31 ticks apart, so that the signed comparisons of the wrapping counters compare the
unwrapped ones (`ethernetTask_deadlines`). `Waiting`, `Due` and `Met` say how far a deadline is from
the iteration before it is tested, while it has to be moved, and afterwards.
-/

namespace Rs422Gateway

open Transition

/-! ## Comparisons of wrapping ticks -/

theorem tickReached_ofNat {t n : Nat} (late : t < n + 2 ^ 31) (early : n ≤ t + 2 ^ 31) :
    tickReached (UInt32.ofNat t) (UInt32.ofNat n) = decide (n ≤ t) := by
  unfold tickReached
  rw [decide_eq_decide, UInt32.toNat_sub, UInt32.toNat_ofNat', UInt32.toNat_ofNat']
  omega

theorem sub_ofNat_toNat {t n : Nat} (ahead : t ≤ n) (early : n < t + 2 ^ 32) :
    (UInt32.ofNat n - UInt32.ofNat t).toNat = n - t := by
  rw [UInt32.toNat_sub, UInt32.toNat_ofNat', UInt32.toNat_ofNat']
  omega

theorem tickAhead_ofNat {t n : Nat} (late : t < n + 2 ^ 31) (early : n < t + 2 ^ 31) :
    tickAhead (UInt32.ofNat n) (UInt32.ofNat t) = decide (t < n) := by
  unfold tickAhead
  rw [decide_eq_decide, UInt32.toNat_sub, ne_eq, ← UInt32.toNat_inj, UInt32.toNat_ofNat',
    UInt32.toNat_ofNat']
  omega

/-- The ticks to wait are those to the nearer deadline. -/
theorem waitTicks_ofNat {t n m : Nat} (lateN : t < n + 2 ^ 31) (earlyN : n < t + 2 ^ 31)
    (lateM : t < m + 2 ^ 31) (earlyM : m < t + 2 ^ 31) :
    (waitTicks (UInt32.ofNat n) (UInt32.ofNat m) (UInt32.ofNat t)).toNat = min n m - t := by
  unfold waitTicks
  rw [tickAhead_ofNat lateN earlyN, tickAhead_ofNat lateM earlyM]
  by_cases hahead : t < n ∧ t < m
  · have hn := sub_ofNat_toNat hahead.1.le (by omega : n < t + 2 ^ 32)
    have hm := sub_ofNat_toNat hahead.2.le (by omega : m < t + 2 ^ 32)
    simp only [hahead.1, hahead.2, decide_true, and_self, if_true]
    split
    case isTrue hlt =>
      rw [UInt32.lt_iff_toNat_lt, hn, hm] at hlt
      rw [hn]
      omega
    case isFalse hge =>
      rw [UInt32.lt_iff_toNat_lt, hn, hm] at hge
      rw [hm]
      omega
  · have hzero : min n m - t = 0 := by omega
    rw [if_neg (by simpa using hahead), hzero]
    rfl

/-! ## One deadline -/

namespace Deadline

/-- The deadline stands for an ideal one that moves by whole periods, and no slot has been served
    twice. -/
structure Kept (start : Nat) (period : Period) (d : Deadline) : Prop where
  tick : d.tick = UInt32.ofNat d.ideal
  drift : d.ideal ≡ start [MOD period.ticks.toNat]
  served : d.served.Pairwise (· > ·)

/-- Before the test of an iteration: the deadline has not been reached when the iteration before it
    began, or just then. -/
structure Waiting (period : Period) (iterationStart now : Nat) (d : Deadline) : Prop where
  late : iterationStart ≤ d.ideal
  early : d.ideal ≤ now + period.ticks.toNat
  served : ∀ n ∈ d.served, n < d.ideal

/-- The deadline has been found reached, and has to be moved. -/
structure Due (iterationStart now : Nat) (d : Deadline) : Prop where
  late : iterationStart < d.ideal + 2 ^ 30
  reached : d.ideal ≤ now
  served : ∀ n ∈ d.served, n ≤ d.ideal

/-- The deadline lies ahead of the iteration. -/
structure Met (period : Period) (iterationStart now : Nat) (d : Deadline) : Prop where
  late : iterationStart < d.ideal
  early : d.ideal ≤ now + period.ticks.toNat
  served : ∀ n ∈ d.served, n < d.ideal

variable {d : Deadline} {start iterationStart now : Nat} {period : Period}

theorem Kept.serve (h : d.Kept start period) (served : ∀ n ∈ d.served, n < d.ideal) :
    d.serve.Kept start period :=
  ⟨h.tick, h.drift, List.pairwise_cons.mpr ⟨served, h.served⟩⟩

theorem Kept.advance (h : d.Kept start period) : (d.advance period).Kept start period where
  tick := by
    show d.tick + period.ticks = UInt32.ofNat (d.ideal + period.ticks.toNat)
    rw [h.tick, UInt32.ofNat_add, UInt32.ofNat_toNat]
  drift := by
    show d.ideal + period.ticks.toNat ≡ start [MOD period.ticks.toNat]
    exact Nat.add_modEq_right.trans h.drift
  served := h.served

theorem Met.waiting (h : d.Met period iterationStart now) :
    d.Waiting period iterationStart now :=
  ⟨h.late.le, h.early, h.served⟩

/-- Time goes on. -/
theorem Waiting.later (h : d.Waiting period iterationStart now) :
    d.Waiting period iterationStart (now + 1) :=
  ⟨h.late, by have := h.early; omega, h.served⟩

theorem Met.later (h : d.Met period iterationStart now) : d.Met period iterationStart (now + 1) :=
  ⟨h.late, by have := h.early; omega, h.served⟩

theorem Due.later {now' : Nat} (h : d.Due iterationStart now) (le : now ≤ now') :
    d.Due iterationStart now' :=
  ⟨h.late, h.reached.trans le, h.served⟩

/-- The test at the top of an iteration finds out whether the ideal deadline is reached. -/
theorem Waiting.tickReached_iff (h : d.Waiting period iterationStart now)
    (hkept : d.Kept start period) (within : now < iterationStart + 2 ^ 30) :
    tickReached (UInt32.ofNat now) d.tick = true ↔ d.ideal ≤ now := by
  have hlate := h.late
  have hearly := h.early
  have hperiod := period.le
  rw [hkept.tick, tickReached_ofNat (by omega) (by omega), decide_eq_true_eq]

/-- The iteration begins, and the service is due. -/
theorem Waiting.serve (h : d.Waiting period iterationStart now)
    (within : now < iterationStart + 2 ^ 30) (reached : d.ideal ≤ now) : d.serve.Due now now := by
  have hlate := h.late
  refine ⟨?_, reached, ?_⟩
  · show now < d.ideal + 2 ^ 30
    omega
  · intro n hn
    rcases List.mem_cons.mp hn with rfl | hn
    · exact Nat.le_refl _
    · exact (h.served n hn).le

/-- The iteration begins, and the service is not due. -/
theorem Waiting.skip (h : d.Waiting period iterationStart now) (ahead : ¬ d.ideal ≤ now) :
    d.Met period now now :=
  ⟨Nat.lt_of_not_le ahead, h.early, h.served⟩

/-- One turn of a do/while loop with `deadline_now` read at `deadlineNow`: either the deadline is
    still behind, or it is ahead by at most a period. -/
theorem Due.advance {deadlineNow : Nat} (h : d.Due iterationStart deadlineNow)
    (hkept : d.Kept start period) (hstart : iterationStart ≤ deadlineNow)
    (within : deadlineNow < iterationStart + 2 ^ 30) :
    if tickReached (UInt32.ofNat deadlineNow) (d.advance period).tick then
      (d.advance period).Due iterationStart deadlineNow
    else
      deadlineNow < (d.advance period).ideal ∧
        (d.advance period).Met period iterationStart deadlineNow := by
  have hlate := h.late
  have hreached := h.reached
  have hpos := period.pos
  have hperiod := period.le
  have hideal : (d.advance period).ideal = d.ideal + period.ticks.toNat := rfl
  have hserved : ∀ n ∈ (d.advance period).served, n < (d.advance period).ideal := by
    intro n hn
    have hle := h.served n hn
    omega
  rw [hkept.advance.tick, tickReached_ofNat (by omega) (by omega)]
  by_cases hbehind : (d.advance period).ideal ≤ deadlineNow
  · rw [if_pos (decide_eq_true hbehind)]
    exact ⟨by omega, hbehind, fun n hn => (hserved n hn).le⟩
  · rw [if_neg (by simpa using hbehind)]
    exact ⟨by omega, by omega, by omega, hserved⟩

/-- The deadline after some turns of its loop. -/
def turns (period : Period) : Nat → Deadline → Deadline
  | 0, d => d
  | n + 1, d => turns period n (d.advance period)

theorem turns_succ (period : Period) (n : Nat) (d : Deadline) :
    turns period (n + 1) d = (turns period n d).advance period := by
  induction n generalizing d with
  | zero => rfl
  | succ n ih => exact ih (d.advance period)

/-- The loop ends after finitely many turns, with the deadline ahead by at most a period. -/
theorem Due.catchUp {deadlineNow : Nat} (h : d.Due iterationStart deadlineNow)
    (hkept : d.Kept start period) (hstart : iterationStart ≤ deadlineNow)
    (within : deadlineNow < iterationStart + 2 ^ 30) :
    ∃ n, (∀ m < n, tickReached (UInt32.ofNat deadlineNow) (turns period (m + 1) d).tick) ∧
      ¬ tickReached (UInt32.ofNat deadlineNow) (turns period (n + 1) d).tick ∧
      deadlineNow < (turns period (n + 1) d).ideal ∧
      (turns period (n + 1) d).ideal ≤ deadlineNow + period.ticks.toNat := by
  induction hleft : deadlineNow - d.ideal using Nat.strong_induction_on generalizing d with
  | _ left ih =>
    have hadvance := h.advance hkept hstart within
    by_cases hbehind : tickReached (UInt32.ofNat deadlineNow) (d.advance period).tick
    · rw [if_pos hbehind] at hadvance
      have hpos := period.pos
      have hreached := hadvance.reached
      have hideal : (d.advance period).ideal = d.ideal + period.ticks.toNat := rfl
      obtain ⟨n, hturns, hend⟩ := ih _ (by omega) hadvance hkept.advance rfl
      refine ⟨n + 1, ?_, hend⟩
      intro m hm
      cases m with
      | zero => exact hbehind
      | succ m => exact hturns m (by omega)
    · rw [if_neg hbehind] at hadvance
      exact ⟨0, nofun, hbehind, hadvance.1, hadvance.2.early⟩

/-- Turn by turn the loop ends at the deadline that `nextDeadline` computes at once. -/
theorem tick_catchUp (d : Deadline) (period : Period) (now : UInt32) (n : Nat)
    (hturns : ∀ m < n, tickReached now (turns period (m + 1) d).tick)
    (hend : ¬ tickReached now (turns period (n + 1) d).tick) :
    (turns period (n + 1) d).tick = nextDeadline d.tick period.ticks now := by
  have hle := period.le
  induction n generalizing d with
  | zero =>
    rw [nextDeadline_eq period.pos (by omega)]
    exact (if_neg hend).symm
  | succ n ih =>
    rw [nextDeadline_eq period.pos (by omega)]
    refine Eq.trans ?_ (if_pos (hturns 0 (Nat.succ_pos n))).symm
    exact ih (d.advance period) (fun m hm => hturns (m + 1) (Nat.succ_lt_succ hm)) hend

end Deadline

/-! ## The task -/

namespace DeadlineTask

/-- The data service is still to come, or it is not due. -/
def DataPending (periods : Periods) (s : DeadlineTask) : Prop :=
  if s.dataServiceDue then s.data.Due s.iterationStart s.now
  else s.data.Met periods.data s.iterationStart s.now

/-- `deadline_now` as it was read in this iteration. -/
structure DeadlineRead (s : DeadlineTask) (deadlineNow : UInt32) : Prop where
  read : deadlineNow = UInt32.ofNat s.deadlineNow
  after : s.iterationStart ≤ s.deadlineNow
  before : s.deadlineNow ≤ s.now

/-- How far the deadlines are, by the place of the task. -/
def Placed (periods : Periods) (s : DeadlineTask) : Prop :=
  match s.place with
  | .top =>
      s.phy.Waiting periods.phy s.iterationStart s.now ∧
        s.data.Waiting periods.data s.iterationStart s.now
  | .controlService => s.phy.Due s.iterationStart s.now ∧ s.DataPending periods
  | .phyCatchUp deadlineNow =>
      s.DeadlineRead deadlineNow ∧ s.phy.Due s.iterationStart s.deadlineNow ∧
        s.DataPending periods
  | .dataService =>
      s.data.Due s.iterationStart s.now ∧ s.phy.Met periods.phy s.iterationStart s.now
  | .dataCatchUp deadlineNow =>
      s.DeadlineRead deadlineNow ∧ s.data.Due s.iterationStart s.deadlineNow ∧
        s.phy.Met periods.phy s.iterationStart s.now
  | .computeWait =>
      s.phy.Met periods.phy s.iterationStart s.now ∧
        s.data.Met periods.data s.iterationStart s.now
  | .wait waitTicks =>
      waitTicks.toNat = min s.data.ideal s.phy.ideal - s.waitStart ∧
        s.phy.Met periods.phy s.iterationStart s.now ∧
        s.data.Met periods.data s.iterationStart s.now

/-- All that is known of a reachable state. -/
structure Invariant (periods : Periods) (start : Nat) (s : DeadlineTask) : Prop where
  began : s.iterationStart ≤ s.now
  within : s.now < s.iterationStart + 2 ^ 30
  phy : s.phy.Kept start periods.phy
  data : s.data.Kept start periods.data
  placed : s.Placed periods

theorem initial_invariant (periods : Periods) (start : Nat) :
    (initial start).Invariant periods start where
  began := Nat.le_refl _
  within := Nat.lt_add_of_pos_right (by decide)
  phy := ⟨rfl, Nat.ModEq.refl _, .nil⟩
  data := ⟨rfl, Nat.ModEq.refl _, .nil⟩
  placed := ⟨⟨Nat.le_refl _, Nat.le_add_right _ _, nofun⟩,
    ⟨Nat.le_refl _, Nat.le_add_right _ _, nofun⟩⟩

variable {periods : Periods} {start : Nat} {s : DeadlineTask}

theorem DataPending.later (h : s.DataPending periods) :
    DataPending periods { s with now := s.now + 1 } := by
  unfold DataPending at h ⊢
  split at h
  case isTrue hdue => exact (if_pos hdue).mpr (h.later (Nat.le_succ _))
  case isFalse hdue => exact (if_neg hdue).mpr h.later

theorem placed_tick (h : s.Placed periods) : Placed periods { s with now := s.now + 1 } := by
  unfold Placed at h ⊢
  cases hplace : s.place with
  | top =>
    rw [hplace] at h
    exact ⟨h.1.later, h.2.later⟩
  | controlService =>
    rw [hplace] at h
    exact ⟨h.1.later (Nat.le_succ _), DataPending.later h.2⟩
  | phyCatchUp deadlineNow =>
    rw [hplace] at h
    obtain ⟨hread, hdue, hpending⟩ := h
    exact ⟨⟨hread.read, hread.after, hread.before.trans (Nat.le_succ _)⟩, hdue,
      DataPending.later hpending⟩
  | dataService =>
    rw [hplace] at h
    exact ⟨h.1.later (Nat.le_succ _), h.2.later⟩
  | dataCatchUp deadlineNow =>
    rw [hplace] at h
    obtain ⟨hread, hdue, hphy⟩ := h
    exact ⟨⟨hread.read, hread.after, hread.before.trans (Nat.le_succ _)⟩, hdue, hphy.later⟩
  | computeWait =>
    rw [hplace] at h
    exact ⟨h.1.later, h.2.later⟩
  | wait waitTicks =>
    rw [hplace] at h
    exact ⟨h.1, h.2.1.later, h.2.2.later⟩

/-- Behind the control service the data service follows if it is due. -/
theorem placed_afterControl (hphy : s.phy.Met periods.phy s.iterationStart s.now)
    (hpending : s.DataPending periods) : s.afterControl.Placed periods := by
  unfold DataPending at hpending
  unfold afterControl
  split at hpending
  case isTrue hdue =>
    simp only [if_pos hdue]
    exact ⟨hpending, hphy⟩
  case isFalse hdue =>
    simp only [if_neg hdue]
    exact ⟨hphy, hpending⟩

theorem afterControl_invariant (began : s.iterationStart ≤ s.now)
    (within : s.now < s.iterationStart + 2 ^ 30) (phy : s.phy.Kept start periods.phy)
    (data : s.data.Kept start periods.data)
    (hphy : s.phy.Met periods.phy s.iterationStart s.now) (hpending : s.DataPending periods) :
    s.afterControl.Invariant periods start :=
  ⟨began, within, phy, data, placed_afterControl hphy hpending⟩

/-- A service at the top of an iteration: it is served when its deadline is reached. -/
theorem test_deadline {d : Deadline} {period : Period}
    (hwaiting : d.Waiting period s.iterationStart s.now) (hkept : d.Kept start period)
    (within : s.now < s.iterationStart + 2 ^ 30) :
    (if tickReached s.tick d.tick then d.serve else d).Kept start period ∧
      if tickReached s.tick d.tick then
        (if tickReached s.tick d.tick then d.serve else d).Due s.now s.now
      else (if tickReached s.tick d.tick then d.serve else d).Met period s.now s.now := by
  have hiff := hwaiting.tickReached_iff hkept within
  by_cases hreached : d.ideal ≤ s.now
  · have htest : tickReached s.tick d.tick = true := hiff.mpr hreached
    simp only [if_pos htest]
    exact ⟨hkept.serve hwaiting.served, hwaiting.serve within hreached⟩
  · have htest : ¬ tickReached s.tick d.tick = true := fun h => hreached (hiff.mp h)
    simp only [if_neg htest]
    exact ⟨hkept, hwaiting.skip hreached⟩

theorem invariant_top (h : s.Invariant periods start) (hplace : s.place = .top) :
    (s.code periods).Invariant periods start := by
  have hplaced := h.placed
  unfold Placed at hplaced
  rw [hplace] at hplaced
  obtain ⟨hkeptPhy, htestPhy⟩ := test_deadline hplaced.1 h.phy h.within
  obtain ⟨hkeptData, htestData⟩ := test_deadline hplaced.2 h.data h.within
  have hwithin : s.now < s.now + 2 ^ 30 := Nat.lt_add_of_pos_right (by decide)
  unfold code
  rw [hplace]
  dsimp only
  split
  case isTrue hdue =>
    simp only [if_pos hdue] at hkeptPhy htestPhy
    exact ⟨Nat.le_refl _, hwithin, hkeptPhy, hkeptData, htestPhy, htestData⟩
  case isFalse hdue =>
    simp only [if_neg hdue] at hkeptPhy htestPhy
    exact afterControl_invariant (Nat.le_refl _) hwithin hkeptPhy hkeptData htestPhy htestData

theorem invariant_phyCatchUp (h : s.Invariant periods start) {deadlineNow : UInt32}
    (hplace : s.place = .phyCatchUp deadlineNow) :
    (s.code periods).Invariant periods start := by
  have hplaced := h.placed
  unfold Placed at hplaced
  rw [hplace] at hplaced
  obtain ⟨hread, hdue, hpending⟩ := hplaced
  have hwithin := h.within
  have hbefore := hread.before
  have hadvance := hdue.advance h.phy hread.after (by omega)
  rw [← hread.read] at hadvance
  unfold code
  rw [hplace]
  dsimp only
  split
  case isTrue hbehind =>
    rw [if_pos hbehind] at hadvance
    exact ⟨h.began, h.within, h.phy.advance, h.data, ⟨hread.read, hread.after, hread.before⟩,
      hadvance, hpending⟩
  case isFalse hahead =>
    rw [if_neg hahead] at hadvance
    obtain ⟨-, hmet⟩ := hadvance
    refine afterControl_invariant h.began h.within h.phy.advance h.data ?_ hpending
    exact ⟨hmet.late, hmet.early.trans (Nat.add_le_add_right hbefore _), hmet.served⟩

theorem invariant_dataCatchUp (h : s.Invariant periods start) {deadlineNow : UInt32}
    (hplace : s.place = .dataCatchUp deadlineNow) :
    (s.code periods).Invariant periods start := by
  have hplaced := h.placed
  unfold Placed at hplaced
  rw [hplace] at hplaced
  obtain ⟨hread, hdue, hphy⟩ := hplaced
  have hwithin := h.within
  have hbefore := hread.before
  have hadvance := hdue.advance h.data hread.after (by omega)
  rw [← hread.read] at hadvance
  unfold code
  rw [hplace]
  dsimp only
  split
  case isTrue hbehind =>
    rw [if_pos hbehind] at hadvance
    exact ⟨h.began, h.within, h.phy, h.data.advance, ⟨hread.read, hread.after, hread.before⟩,
      hadvance, hphy⟩
  case isFalse hahead =>
    rw [if_neg hahead] at hadvance
    obtain ⟨-, hmet⟩ := hadvance
    exact ⟨h.began, h.within, h.phy, h.data.advance, hphy, hmet.late,
      hmet.early.trans (Nat.add_le_add_right hbefore _), hmet.served⟩

theorem invariant_code (h : s.Invariant periods start) :
    (s.code periods).Invariant periods start := by
  have hplaced := h.placed
  unfold Placed at hplaced
  cases hplace : s.place with
  | top => exact invariant_top h hplace
  | phyCatchUp deadlineNow => exact invariant_phyCatchUp h hplace
  | dataCatchUp deadlineNow => exact invariant_dataCatchUp h hplace
  | controlService =>
    rw [hplace] at hplaced
    unfold code
    rw [hplace]
    exact ⟨h.began, h.within, h.phy, h.data, ⟨rfl, h.began, Nat.le_refl _⟩, hplaced⟩
  | dataService =>
    rw [hplace] at hplaced
    unfold code
    rw [hplace]
    exact ⟨h.began, h.within, h.phy, h.data, ⟨rfl, h.began, Nat.le_refl _⟩, hplaced⟩
  | computeWait =>
    rw [hplace] at hplaced
    obtain ⟨hphy, hdata⟩ := hplaced
    unfold code
    rw [hplace]
    refine ⟨h.began, h.within, h.phy, h.data, ?_, hphy, hdata⟩
    have hwithin := h.within
    have hphyLe := periods.phy.le
    have hdataLe := periods.data.le
    have hphyLate := hphy.late
    have hphyEarly := hphy.early
    have hdataLate := hdata.late
    have hdataEarly := hdata.early
    show (waitTicks s.data.tick s.phy.tick s.tick).toNat = min s.data.ideal s.phy.ideal - s.now
    rw [h.data.tick, h.phy.tick]
    exact waitTicks_ofNat (by omega) (by omega) (by omega) (by omega)
  | wait waitTicks =>
    rw [hplace] at hplaced
    unfold code
    rw [hplace]
    exact ⟨h.began, h.within, h.phy, h.data, hplaced.2.1.waiting, hplaced.2.2.waiting⟩

theorem invariant_step (h : s.Invariant periods start)
    {a : DeadlineAction} (within : s.Within a) {s' : DeadlineTask}
    (taken : s.step periods a = some s') : s'.Invariant periods start := by
  cases a with
  | tick =>
    cases taken
    exact ⟨h.began.trans (Nat.le_succ _), within rfl, h.phy, h.data, placed_tick h.placed⟩
  | code =>
    cases taken
    exact invariant_code h

/-! ## The loops -/

/-- The turns of the loop for `next_phy_tick`. -/
theorem exec_phyCatchUp {deadlineNow : UInt32} (hplace : s.place = .phyCatchUp deadlineNow)
    (n : Nat)
    (hturns : ∀ m < n, tickReached deadlineNow (s.phy.turns periods.phy (m + 1)).tick)
    (hend : ¬ tickReached deadlineNow (s.phy.turns periods.phy (n + 1)).tick) :
    exec (step periods) Within s (List.replicate (n + 1) .code) =
      some (afterControl { s with phy := s.phy.turns periods.phy (n + 1) }) := by
  simp only [Deadline.turns_succ] at hturns hend ⊢
  have hwithin : ∀ s : DeadlineTask, s.Within .code := by
    rintro _ ⟨⟩
  refine exec_replicate_succ hwithin (fun m => { s with phy := s.phy.turns periods.phy m }) ?_ ?_
  · intro m hm
    simp only [step, code, hplace, if_pos (hturns m hm), Deadline.turns_succ]
  · simp only [step, code, hplace, if_neg hend]

/-- The turns of the loop for `next_data_service_tick`. -/
theorem exec_dataCatchUp {deadlineNow : UInt32} (hplace : s.place = .dataCatchUp deadlineNow)
    (n : Nat)
    (hturns : ∀ m < n,
      tickReached deadlineNow (s.data.turns periods.data (m + 1)).tick)
    (hend : ¬ tickReached deadlineNow (s.data.turns periods.data (n + 1)).tick) :
    exec (step periods) Within s (List.replicate (n + 1) .code) =
      some { s with
        data := s.data.turns periods.data (n + 1), place := .computeWait } := by
  simp only [Deadline.turns_succ] at hturns hend ⊢
  have hwithin : ∀ s : DeadlineTask, s.Within .code := by
    rintro _ ⟨⟩
  refine exec_replicate_succ hwithin (fun m => { s with data := s.data.turns periods.data m }) ?_ ?_
  · intro m hm
    simp only [step, code, hplace, if_pos (hturns m hm), Deadline.turns_succ]
  · simp only [step, code, hplace, if_neg hend]

/-! ## Every run -/

/-- The deadlines agree with ideal time. -/
structure Agrees (periods : Periods) (start : Nat) (s : DeadlineTask) : Prop where
  phyTick : s.phy.tick = UInt32.ofNat s.phy.ideal
  dataTick : s.data.tick = UInt32.ofNat s.data.ideal
  phyDrift : s.phy.ideal ≡ start [MOD periods.phy.ticks.toNat]
  dataDrift : s.data.ideal ≡ start [MOD periods.data.ticks.toNat]
  /-- A service is found due exactly when its ideal deadline is reached. -/
  phyDue : s.place = .top → (tickReached s.tick s.phy.tick ↔ s.phy.ideal ≤ s.now)
  dataDue : s.place = .top → (tickReached s.tick s.data.tick ↔ s.data.ideal ≤ s.now)
  /-- Each loop ends, with its deadline ahead of `deadline_now` by at most a period: the one that
      `nextDeadline` computes at once. -/
  phyLoop : ∀ deadlineNow, s.place = .phyCatchUp deadlineNow →
    deadlineNow = UInt32.ofNat s.deadlineNow ∧
      ∃ turns s', exec (step periods) Within s (List.replicate turns .code) = some s' ∧
        (∀ deadlineNow, s'.place ≠ .phyCatchUp deadlineNow) ∧
        s.deadlineNow < s'.phy.ideal ∧ s'.phy.ideal ≤ s.deadlineNow + periods.phy.ticks.toNat ∧
        s'.phy.tick = nextDeadline s.phy.tick periods.phy.ticks deadlineNow
  dataLoop : ∀ deadlineNow, s.place = .dataCatchUp deadlineNow →
    deadlineNow = UInt32.ofNat s.deadlineNow ∧
      ∃ turns s', exec (step periods) Within s (List.replicate turns .code) = some s' ∧
        (∀ deadlineNow, s'.place ≠ .dataCatchUp deadlineNow) ∧
        s.deadlineNow < s'.data.ideal ∧ s'.data.ideal ≤ s.deadlineNow + periods.data.ticks.toNat ∧
        s'.data.tick = nextDeadline s.data.tick periods.data.ticks deadlineNow
  /-- No slot is served twice, and they are served in order. -/
  phyServed : s.phy.served.Pairwise (· > ·)
  dataServed : s.data.served.Pairwise (· > ·)
  /-- The wait ends with the nearer deadline, and is no wait if one has been reached. -/
  waits : ∀ waitTicks, s.place = .wait waitTicks →
    waitTicks.toNat = min s.data.ideal s.phy.ideal - s.waitStart

theorem Invariant.agrees (h : s.Invariant periods start) : s.Agrees periods start := by
  have hplaced := h.placed
  have hwithin := h.within
  unfold Placed at hplaced
  refine ⟨h.phy.tick, h.data.tick, h.phy.drift, h.data.drift, ?_, ?_, ?_, ?_, h.phy.served,
    h.data.served, ?_⟩
  · intro hplace
    rw [hplace] at hplaced
    exact hplaced.1.tickReached_iff h.phy h.within
  · intro hplace
    rw [hplace] at hplaced
    exact hplaced.2.tickReached_iff h.data h.within
  · intro deadlineNow hplace
    rw [hplace] at hplaced
    obtain ⟨hread, hdue, -⟩ := hplaced
    have hbefore := hread.before
    obtain ⟨n, hturns, hend, hahead, hearly⟩ := hdue.catchUp h.phy hread.after (by omega)
    rw [← hread.read] at hturns hend
    have htick := s.phy.tick_catchUp periods.phy deadlineNow n hturns hend
    refine ⟨hread.read, n + 1, _, exec_phyCatchUp hplace n hturns hend, ?_, hahead, hearly, htick⟩
    intro deadlineNow
    unfold afterControl
    split <;> nofun
  · intro deadlineNow hplace
    rw [hplace] at hplaced
    obtain ⟨hread, hdue, -⟩ := hplaced
    have hbefore := hread.before
    obtain ⟨n, hturns, hend, hahead, hearly⟩ := hdue.catchUp h.data hread.after (by omega)
    rw [← hread.read] at hturns hend
    have htick := s.data.tick_catchUp periods.data deadlineNow n hturns hend
    have hleft : ∀ deadlineNow, DeadlinePlace.computeWait ≠ .dataCatchUp deadlineNow := nofun
    exact ⟨hread.read, n + 1, _, exec_dataCatchUp hplace n hturns hend, hleft, hahead, hearly,
      htick⟩
  · intro waitTicks hplace
    rw [hplace] at hplaced
    exact hplaced.1

end DeadlineTask

/-- In every run of EthernetTask whose iterations last fewer than 2^30 ticks, the deadlines agree
    with ideal time, from any start tick on and for all periods of 1 to 2^30 ticks. -/
theorem ethernetTask_deadlines {periods : Periods} {start : Nat} {s : DeadlineTask}
    (run : Reachable (DeadlineTask.step periods) DeadlineTask.Within (.initial start) s) :
    s.Agrees periods start := by
  have hinv : s.Invariant periods start :=
    Reachable.invariant (P := DeadlineTask.Invariant periods start)
      (DeadlineTask.initial_invariant periods start)
      (fun _ _ _ h within taken => DeadlineTask.invariant_step h within taken) run
  exact hinv.agrees

/-- Two iterations across the wrap of the tick. The wait of the first takes eight ticks, and the
    second serves one slot of the data service and skips seven. -/
def wrapRun : List DeadlineAction :=
  List.flatten [List.replicate 6 .code, List.replicate 8 .tick, List.replicate 12 .code]

theorem ethernetTask_deadlines_wrap :
    ∃ s, Reachable (DeadlineTask.step .firmware) DeadlineTask.Within (.initial 4294967290) s ∧
      s.data.served = [4294967291, 4294967290] ∧ s.data.tick = 3 ∧
        s.Agrees .firmware 4294967290 := by
  obtain ⟨s, run, htest⟩ := exists_reachable (DeadlineTask.step .firmware) DeadlineTask.Within
    (.initial 4294967290) wrapRun
    (fun s => decide (s.data.served = [4294967291, 4294967290] ∧ s.data.tick = 3))
    (by decide +kernel)
  obtain ⟨hserved, htick⟩ := of_decide_eq_true htest
  exact ⟨s, run, hserved, htick, ethernetTask_deadlines run⟩

end Rs422Gateway
