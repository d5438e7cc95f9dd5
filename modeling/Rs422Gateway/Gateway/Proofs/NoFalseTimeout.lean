import Rs422Gateway.Gateway.Health

/-!
# False communication timeouts

HealthTask samples the tick before it reads the time of the last valid frame. As long as no frame
with a later tick is recorded between the two, it decides on COMM_TIMEOUT only after 1500 ms
without a frame. A frame recorded there makes the unsigned difference wrap.
-/

namespace Rs422Gateway

open Transition

/-- The step keeps the difference `current_tick - last_valid_frame_tick` from wrapping: while
    HealthTask has sampled the tick and not yet read the time of the last frame, no frame is
    recorded at a later tick. Once it has read that there is no frame yet, that time is not used. -/
def HealthState.OnTime (s : HealthState) (a : HealthAction) : Prop :=
  a = .record → s.recorder.pc = .idle →
    (s.health.pc = .readHasValid ∨ s.health.pc = .readLastTick ∧ s.health.hasValidFrame = true) →
      s.tick ≤ s.health.currentTick

instance (s : HealthState) (a : HealthAction) : Decidable (s.OnTime a) :=
  inferInstanceAs (Decidable (_ → _ → (_ ∨ _ ∧ _) → _))

/-- An iteration that decides on COMM_TIMEOUT has seen no frame recorded in the 1500 ticks
    (1500 ms) before its deciding read, and no iteration subtracts a later tick. -/
def HealthState.NoFalseTimeout (s : HealthState) : Prop :=
  s.health.pc = .decide →
    (s.health.decidesTimeout → ∀ r ∈ s.decidingRecords, r + 1500 ≤ s.decidingAt) ∧
      (s.health.hasValidFrame = true → s.health.lastValidFrameTick ≤ s.health.currentTick)

/-- The times of the frames are in order, none lies in the future, and RS422Task stores the newest
    one before it announces it. -/
structure HealthState.Recorded (s : HealthState) : Prop where
  past : ∀ r ∈ s.records, r ≤ s.now
  ordered : s.records.Pairwise (· ≥ ·)
  idle : s.recorder.pc = .idle →
    (s.vars.hasValidFrame = true ↔ s.records ≠ []) ∧
      ∀ r ∈ s.records.head?, s.vars.lastValidFrameTick = UInt32.ofNat r
  writeTick : s.recorder.pc = .writeTick →
    ∃ r ∈ s.records.head?, s.recorder.validFrameTick = UInt32.ofNat r
  stored : s.recorder.pc = .writeRecovery ∨ s.recorder.pc = .writeHasValid →
    ∃ r ∈ s.records.head?, s.vars.lastValidFrameTick = UInt32.ofNat r

/-- What HealthTask has read so far in an iteration. `c` is the sampled tick without wrapping. -/
structure HealthState.Sampled (s : HealthState) : Prop where
  readHasValid : s.health.pc = .readHasValid →
    ∃ c ≤ s.now, s.health.currentTick = UInt32.ofNat c ∧ ∀ r ∈ s.records, r ≤ c
  readLastTick : s.health.pc = .readLastTick → s.health.hasValidFrame = true →
    s.records ≠ [] ∧
      ∃ c ≤ s.now, s.health.currentTick = UInt32.ofNat c ∧ ∀ r ∈ s.records, r ≤ c
  unannounced : s.health.pc = .readLastTick ∨ s.health.pc = .decide →
    s.health.hasValidFrame = false → s.decidingRecords = []
  decide : s.health.pc = .decide → s.health.hasValidFrame = true →
    ∃ c ≤ s.decidingAt, s.decidingAt ≤ s.now ∧ s.health.currentTick = UInt32.ofNat c ∧
      ∃ r ≤ c, s.health.lastValidFrameTick = UInt32.ofNat r ∧ ∀ r' ∈ s.decidingRecords, r' ≤ r

theorem Recorded.head_newest {records : List Nat} (ordered : records.Pairwise (· ≥ ·)) {r : Nat}
    (h : r ∈ records.head?) : ∀ r' ∈ records, r' ≤ r := by
  obtain ⟨rest, rfl⟩ : ∃ rest, records = r :: rest := List.head?_eq_some_iff.mp h
  intro r' hr'
  rcases List.mem_cons.mp hr' with rfl | hrest
  · exact Nat.le_refl _
  · exact List.rel_of_pairwise_cons ordered hrest

/-- HealthTask writes neither of the two variables RS422Task records a frame in. -/
theorem healthTaskStep_frame (tick : UInt32) (v : CommVars) (t : HealthTask) :
    (healthTaskStep tick v t).1.hasValidFrame = v.hasValidFrame ∧
      (healthTaskStep tick v t).1.lastValidFrameTick = v.lastValidFrameTick := by
  unfold healthTaskStep
  cases t.pc <;> exact ⟨rfl, rfl⟩

theorem commTimeoutTicks_toNat : commTimeoutTicks.toNat = 1500 := by decide

namespace HealthState

theorem initial_recorded : initial.Recorded where
  past := nofun
  ordered := .nil
  idle := fun _ => ⟨by decide, nofun⟩
  writeTick := nofun
  stored := by rintro (h | h) <;> cases h

theorem initial_sampled : initial.Sampled where
  readHasValid := nofun
  readLastTick := nofun
  unannounced := by rintro (h | h) <;> cases h
  decide := nofun

theorem recorded_step {s s' : HealthState} {a : HealthAction} (h : s.Recorded)
    (taken : s.step a = some s') : s'.Recorded := by
  cases a with
  | tick =>
    cases taken
    exact { h with past := fun r hr => Nat.le_succ_of_le (h.past r hr) }
  | health =>
    obtain ⟨hvalid, hlast⟩ := healthTaskStep_frame s.tick s.vars s.health
    simp only [step] at taken
    split at taken
    case isFalse => cases taken
    case isTrue =>
      cases taken
      refine ⟨h.past, h.ordered, ?_, h.writeTick, ?_⟩
      · simpa only [hvalid, hlast] using h.idle
      · simpa only [hlast] using h.stored
  | record =>
    simp only [step, recordStep] at taken
    cases hpc : s.recorder.pc with
    | idle =>
      rw [hpc] at taken
      cases taken
      refine ⟨?_, ?_, nofun, fun _ => ⟨s.now, rfl, rfl⟩, by rintro (h | h) <;> cases h⟩
      · intro r hr
        rcases List.mem_cons.mp hr with rfl | hr
        · exact Nat.le_refl _
        · exact h.past r hr
      · exact List.pairwise_cons.mpr ⟨h.past, h.ordered⟩
    | writeTick =>
      obtain ⟨r, hr, htick⟩ := h.writeTick hpc
      rw [hpc] at taken
      cases taken
      exact ⟨h.past, h.ordered, nofun, nofun, fun _ => ⟨r, hr, htick⟩⟩
    | writeRecovery =>
      have hstored := h.stored (.inl hpc)
      rw [hpc] at taken
      cases taken
      exact ⟨h.past, h.ordered, nofun, nofun, fun _ => hstored⟩
    | writeHasValid =>
      obtain ⟨r, hr, htick⟩ := h.stored (.inr hpc)
      rw [hpc] at taken
      cases taken
      have hne : s.records ≠ [] := by
        rintro hnil
        rw [hnil] at hr
        cases hr
      refine ⟨h.past, h.ordered, fun _ => ⟨⟨fun _ => hne, fun _ => rfl⟩, ?_⟩, nofun,
        by rintro (h | h) <;> cases h⟩
      intro r' hr'
      rw [Option.mem_unique hr' hr]
      exact htick

/-- Outside the reads of an iteration there is nothing to say. -/
theorem sampled_elsewhere {s : HealthState} (h1 : s.health.pc ≠ .readHasValid)
    (h2 : s.health.pc ≠ .readLastTick) (h3 : s.health.pc ≠ .decide) : s.Sampled where
  readHasValid := fun h => absurd h h1
  readLastTick := fun h => absurd h h2
  unannounced := by
    rintro (h | h)
    · exact absurd h h2
    · exact absurd h h3
  decide := fun h => absurd h h3

theorem branch_leaves (t : HealthTask) (c : CommState) :
    t.branch c ≠ .readHasValid ∧ t.branch c ≠ .readLastTick ∧ t.branch c ≠ .decide := by
  unfold HealthTask.branch
  split <;> split <;> try split <;> try split
  all_goals exact ⟨nofun, nofun, nofun⟩

theorem now_le {s s' : HealthState} {a : HealthAction} (taken : s.step a = some s') :
    s.now ≤ s'.now := by
  cases a with
  | tick =>
    cases taken
    exact Nat.le_succ _
  | health =>
    simp only [step] at taken
    split at taken
    · cases taken
      exact Nat.le_refl _
    · cases taken
  | record =>
    simp only [step] at taken
    cases taken
    exact Nat.le_refl _

/-- A step of HealthTask: it samples the tick, reads a variable, or leaves the reads behind. -/
theorem sampled_health {s s' : HealthState} (hrec : s.Recorded) (h : s.Sampled)
    (taken : s.step .health = some s') : s'.Sampled := by
  simp only [step] at taken
  split at taken
  case isFalse => cases taken
  case isTrue hidle =>
    obtain ⟨hannounced, hlast⟩ := hrec.idle hidle
    cases taken
    cases hpc : s.health.pc with
    | readTick =>
      refine ⟨?_, ?_, ?_, ?_⟩ <;>
        simp only [healthTaskStep, hpc, reduceCtorEq, false_implies, or_self]
      intro _
      exact ⟨s.now, Nat.le_refl _, rfl, hrec.past⟩
    | readHasValid =>
      refine ⟨?_, ?_, ?_, ?_⟩ <;>
        simp only [healthTaskStep, atDecidingRead, hpc, reduceCtorEq, false_implies, or_false,
          false_and, true_and, forall_const]
      · intro hvalid
        exact ⟨hannounced.mp hvalid, h.readHasValid hpc⟩
      · intro hvalid
        rw [if_pos hvalid]
        refine Decidable.byContradiction fun hne => ?_
        rw [hannounced.mpr hne] at hvalid
        cases hvalid
    | readLastTick =>
      refine ⟨?_, ?_, ?_, ?_⟩ <;>
        simp only [healthTaskStep, atDecidingRead, hpc, reduceCtorEq, false_implies, false_or,
          false_and, true_and, forall_const]
      · intro hvalid
        rw [if_neg (by rw [hvalid]; nofun)]
        exact h.unannounced (.inl hpc) hvalid
      · intro hvalid
        rw [if_pos hvalid, if_pos hvalid]
        obtain ⟨hne, c, hc, htick, hbefore⟩ := h.readLastTick hpc hvalid
        obtain ⟨r, rest, hr⟩ := List.exists_cons_of_ne_nil hne
        have hhead : r ∈ s.records.head? := by rw [hr]; rfl
        have hmem : r ∈ s.records := by rw [hr]; exact List.mem_cons_self
        exact ⟨c, hc, Nat.le_refl _, htick, r, hbefore r hmem, hlast r hhead,
          Recorded.head_newest hrec.ordered hhead⟩
    | decide =>
      obtain ⟨h1, h2, h3⟩ := branch_leaves s.health s.vars.commState
      refine sampled_elsewhere ?_ ?_ ?_ <;> simp only [healthTaskStep, hpc]
      · exact h1
      · exact h2
      · exact h3
    | _ => refine sampled_elsewhere ?_ ?_ ?_ <;> simp only [healthTaskStep, hpc] <;> nofun

/-- A frame that RS422Task starts to record is not later than a sampled tick. -/
theorem sampled_record {s s' : HealthState} (short : s.now < 2 ^ 32) (h : s.Sampled)
    (onTime : s.OnTime .record) (taken : s.step .record = some s') : s'.Sampled := by
  have hnow : ∀ c ≤ s.now, s.tick ≤ s.health.currentTick → s.health.currentTick = UInt32.ofNat c →
      s.now ≤ c := by
    intro c hc hle htick
    rw [htick, UInt32.le_iff_toNat_le] at hle
    simp only [tick, UInt32.toNat_ofNat'] at hle
    omega
  have hkept : ∀ c, (∀ r ∈ s.records, r ≤ c) → s.now ≤ c → ∀ r ∈ s.now :: s.records, r ≤ c := by
    intro c hbefore hle r hr
    rcases List.mem_cons.mp hr with rfl | hr
    · exact hle
    · exact hbefore r hr
  simp only [step] at taken
  cases taken
  by_cases hidle : s.recorder.pc = .idle
  · refine ⟨?_, ?_, h.unannounced, h.decide⟩
    · intro hpc
      obtain ⟨c, hc, htick, hbefore⟩ := h.readHasValid hpc
      have hle := hnow c hc (onTime rfl hidle (.inl hpc)) htick
      simp only [if_pos hidle]
      exact ⟨c, hc, htick, hkept c hbefore hle⟩
    · intro hpc hvalid
      obtain ⟨hne, c, hc, htick, hbefore⟩ := h.readLastTick hpc hvalid
      have hle := hnow c hc (onTime rfl hidle (.inr ⟨hpc, hvalid⟩)) htick
      simp only [if_pos hidle]
      exact ⟨List.cons_ne_nil _ _, c, hc, htick, hkept c hbefore hle⟩
  · simp only [if_neg hidle]
    exact ⟨h.readHasValid, h.readLastTick, h.unannounced, h.decide⟩

theorem sampled_step {s s' : HealthState} {a : HealthAction} (short : s'.now < 2 ^ 32)
    (hrec : s.Recorded) (h : s.Sampled) (onTime : s.OnTime a) (taken : s.step a = some s') :
    s'.Sampled := by
  cases a with
  | tick =>
    cases taken
    refine ⟨?_, ?_, h.unannounced, ?_⟩
    · intro hpc
      obtain ⟨c, hc, hrest⟩ := h.readHasValid hpc
      exact ⟨c, Nat.le_succ_of_le hc, hrest⟩
    · intro hpc hvalid
      obtain ⟨hne, c, hc, hrest⟩ := h.readLastTick hpc hvalid
      exact ⟨hne, c, Nat.le_succ_of_le hc, hrest⟩
    · intro hpc hvalid
      obtain ⟨c, hc, hat, hrest⟩ := h.decide hpc hvalid
      exact ⟨c, hc, Nat.le_succ_of_le hat, hrest⟩
  | health => exact sampled_health hrec h taken
  | record =>
    have hnow : s'.now = s.now := by
      simp only [step] at taken
      cases taken
      rfl
    exact sampled_record (hnow ▸ short) h onTime taken

/-- What has been read decides rightly. -/
theorem Sampled.noFalseTimeout {s : HealthState} (short : s.now < 2 ^ 32) (h : s.Sampled) :
    s.NoFalseTimeout := by
  intro hpc
  cases hvalid : s.health.hasValidFrame with
  | false =>
    rw [h.unannounced (.inr hpc) hvalid]
    exact ⟨fun _ => nofun, nofun⟩
  | true =>
    obtain ⟨c, hc, hat, htick, r, hr, hlast, hnewest⟩ := h.decide hpc hvalid
    have hle : s.health.lastValidFrameTick ≤ s.health.currentTick := by
      rw [hlast, htick, UInt32.le_iff_toNat_le, UInt32.toNat_ofNat', UInt32.toNat_ofNat']
      omega
    refine ⟨?_, fun _ => hle⟩
    intro hdecides r' hr'
    have hdue : commTimeoutTicks ≤ s.health.currentTick - s.health.lastValidFrameTick := by
      simpa only [HealthTask.decidesTimeout, hvalid, if_true] using hdecides
    rw [UInt32.le_iff_toNat_le, commTimeoutTicks_toNat, UInt32.toNat_sub_of_le _ _ hle, htick,
      hlast, UInt32.toNat_ofNat', UInt32.toNat_ofNat'] at hdue
    have hbefore := hnewest r' hr'
    omega

end HealthState

/-- In every run shorter than 2^32 ticks in which no frame is recorded at a later tick between
    HealthTask's sample of the tick and its read of the last frame's time, no iteration decides on
    COMM_TIMEOUT although a valid frame was recorded in the 1500 ms before its deciding read. -/
theorem healthTask_noFalseTimeout {s : HealthState}
    (run : Reachable HealthState.step HealthState.OnTime HealthState.initial s)
    (short : s.now < 2 ^ 32) : s.NoFalseTimeout := by
  have hinv : s.Recorded ∧ (s.now < 2 ^ 32 → s.Sampled) := by
    refine Reachable.invariant (P := fun s => s.Recorded ∧ (s.now < 2 ^ 32 → s.Sampled))
      ⟨HealthState.initial_recorded, fun _ => HealthState.initial_sampled⟩ ?_ run
    rintro s a s' ⟨hrec, hsampled⟩ onTime taken
    refine ⟨HealthState.recorded_step hrec taken, fun hshort => ?_⟩
    have hmono := HealthState.now_le taken
    exact HealthState.sampled_step hshort hrec (hsampled (by omega)) onTime taken
  exact (hinv.2 short).noFalseTimeout short

/-- One frame and then silence: HealthTask is late and decides after 1600 ticks. -/
def silentRun : List HealthAction :=
  List.flatten
    [[.health, .health, .record, .record, .record, .record], List.replicate 1600 .tick,
      [.health, .health, .health, .health]]

theorem healthTask_noFalseTimeout_silent :
    ∃ s, Reachable HealthState.step HealthState.OnTime HealthState.initial s ∧
      s.health.decidesTimeout ∧ s.NoFalseTimeout := by
  obtain ⟨s, run, htest⟩ := exists_reachable HealthState.step HealthState.OnTime
    HealthState.initial silentRun
    (fun s => decide (s.now < 2 ^ 32 ∧ s.health.decidesTimeout)) (by decide +kernel)
  obtain ⟨short, hdecides⟩ := of_decide_eq_true htest
  exact ⟨s, run, hdecides, healthTask_noFalseTimeout run short⟩

/-- A frame one tick after the sample: HealthTask computes a difference of 2^32 - 1. -/
def lateFrameRun : List HealthAction :=
  List.flatten
    [[.health, .health, .record, .record, .record, .record], List.replicate 100 .tick,
      [.health, .health, .tick, .record, .record, .record, .record, .health, .health]]

theorem healthTask_falseTimeout :
    ¬ ∀ s, Reachable HealthState.step unguarded HealthState.initial s → s.now < 2 ^ 32 →
      s.NoFalseTimeout := by
  intro hall
  obtain ⟨s, run, htest⟩ := exists_reachable HealthState.step unguarded HealthState.initial
    lateFrameRun
    (fun s => decide (s.now < 2 ^ 32 ∧ s.health.pc = .decide ∧ s.health.decidesTimeout ∧
      ¬ ∀ r ∈ s.decidingRecords, r + 1500 ≤ s.decidingAt)) (by decide +kernel)
  obtain ⟨short, hpc, hdecides, hlate⟩ := of_decide_eq_true htest
  exact hlate ((hall s run short hpc).1 hdecides)

end Rs422Gateway
