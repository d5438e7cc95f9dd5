import Rs422Gateway.Gateway.HealthTrace
import Rs422Gateway.Gateway.Proofs.NoFalseTimeout

/-!
# The communication state at the end of an iteration

At the end of every iteration of HealthTask the state is COMM_TIMEOUT or COMM_OK as the values the
iteration has read say, and the timeouts are ahead of the recoveries by one exactly in COMM_TIMEOUT
(`healthTask_states`). The invariants are attached to the place of HealthTask: `Clocked` says what
its local variables stand for, `Placed` which branch it is in, `Counted` what has been counted.
-/

namespace Rs422Gateway

open Transition

/-- HealthTask is between its reads and the end of the iteration. -/
def HealthPc.Decided : HealthPc → Prop
  | .start | .initialise | .readTick | .readHasValid | .readLastTick => False
  | _ => True

namespace HealthTrace

/-- What the sampled ticks stand for. -/
structure Clocked (s : HealthTrace) : Prop where
  started : s.health.pc ≠ .start → s.health.healthStartTick = UInt32.ofNat s.startedAt
  sampled : s.iterated = true → s.health.currentTick = UInt32.ofNat s.sampledAt
  recording : s.recorder.pc = .writeTick → s.recorder.validFrameTick = UInt32.ofNat s.recordingAt
  recorded : s.vars.hasValidFrame = true ∨ s.recorder.pc = .writeRecovery ∨
    s.recorder.pc = .writeHasValid → s.vars.lastValidFrameTick = UInt32.ofNat s.recordedAt
  fresh : s.health.pc = .start ∨ s.health.pc = .initialise →
    s.health.hasValidFrame = false ∧ s.iterated = false
  announced : s.health.hasValidFrame = true → s.vars.hasValidFrame = true
  read : s.health.pc.Decided → s.health.hasValidFrame = true →
    s.health.lastValidFrameTick = UInt32.ofNat s.readAt

/-- The branch HealthTask has taken, and the state at the end of the iteration. -/
def Placed (s : HealthTrace) : Prop :=
  match s.health.pc with
  | .recordTimeout | .countTimeout =>
      s.health.decidesTimeout ∧ s.vars.commState ≠ .timeout
  | .enterTimeout => s.health.decidesTimeout
  | .recordRecovery | .countRecovery =>
      ¬ s.health.decidesTimeout ∧ s.health.hasValidFrame = true ∧ s.vars.commState = .timeout
  | .enterOk => ¬ s.health.decidesTimeout ∧ s.health.hasValidFrame = true
  | .delay =>
      s.iterated = true →
        (s.health.decidesTimeout → s.vars.commState = .timeout) ∧
          (¬ s.health.decidesTimeout → s.health.hasValidFrame = true → s.vars.commState = .ok)
  | _ => True

/-- By how much the timeouts are ahead of the recoveries. -/
def Counted (s : HealthTrace) : Prop :=
  match s.health.pc with
  | .start | .initialise => True
  | .enterTimeout => s.vars.commTimeoutCount - s.vars.commRecoveryCount = 1
  | .enterOk => s.vars.commTimeoutCount - s.vars.commRecoveryCount = 0
  | _ => s.vars.commTimeoutCount - s.vars.commRecoveryCount =
      if s.vars.commState = .timeout then 1 else 0

/-! ## One step -/

/-- Where an iteration goes on once HealthTask has read the variables. -/
inductive Branches (t : HealthTask) (c : CommState) : HealthPc → Prop
  | timeout (decides : t.decidesTimeout) (changed : c ≠ .timeout) : Branches t c .recordTimeout
  | timeoutAgain (decides : t.decidesTimeout) (same : c = .timeout) : Branches t c .delay
  | recovery (decides : ¬ t.decidesTimeout) (valid : t.hasValidFrame = true)
      (changed : c = .timeout) : Branches t c .recordRecovery
  | firstOk (decides : ¬ t.decidesTimeout) (valid : t.hasValidFrame = true)
      (changed : c = .init) : Branches t c .enterOk
  | okAgain (decides : ¬ t.decidesTimeout) (valid : t.hasValidFrame = true)
      (same : c = .ok) : Branches t c .delay
  | waiting (decides : ¬ t.decidesTimeout) (valid : t.hasValidFrame = false) : Branches t c .delay

theorem branches (t : HealthTask) (c : CommState) : Branches t c (t.branch c) := by
  unfold HealthTask.branch
  by_cases hdecides : t.decidesTimeout
  · rw [if_pos hdecides]
    split
    case isTrue hchanged => exact .timeout hdecides hchanged
    case isFalse hsame => exact .timeoutAgain hdecides (Decidable.not_not.mp hsame)
  · rw [if_neg hdecides]
    cases hvalid : t.hasValidFrame with
    | false => exact .waiting hdecides hvalid
    | true =>
      cases c with
      | init => exact .firstOk hdecides hvalid rfl
      | ok => exact .okAgain hdecides hvalid rfl
      | timeout => exact .recovery hdecides hvalid rfl

/-- RS422Task leaves the state and its counters alone. -/
theorem recordStep_frame (tick : UInt32) (v : CommVars) (r : Recorder) :
    (recordStep tick v r).1.commState = v.commState ∧
      (recordStep tick v r).1.commTimeoutCount = v.commTimeoutCount ∧
      (recordStep tick v r).1.commRecoveryCount = v.commRecoveryCount := by
  unfold recordStep
  cases r.pc <;> exact ⟨rfl, rfl, rfl⟩

variable {s s' : HealthTrace}

theorem initial_clocked (now : Nat) : (initial now).Clocked where
  started h := absurd rfl h
  sampled := nofun
  recording := nofun
  recorded := by rintro (h | h | h) <;> cases h
  fresh _ := ⟨rfl, rfl⟩
  announced := nofun
  read := nofun

theorem clocked_record (h : s.Clocked) (taken : s.step .record = some s') : s'.Clocked := by
  simp only [step, recordStep] at taken
  cases hpc : s.recorder.pc with
  | idle =>
    rw [hpc] at taken
    cases taken
    refine ⟨h.started, h.sampled, fun _ => rfl, ?_, h.fresh, h.announced, h.read⟩
    rintro (hvalid | hwrite | hwrite)
    · exact h.recorded (.inl hvalid)
    · cases hwrite
    · cases hwrite
  | writeTick =>
    have htick := h.recording hpc
    rw [hpc] at taken
    cases taken
    exact ⟨h.started, h.sampled, by simp, fun _ => htick, h.fresh, h.announced, h.read⟩
  | writeRecovery =>
    have hstored := h.recorded (.inr (.inl hpc))
    rw [hpc] at taken
    cases taken
    exact ⟨h.started, h.sampled, by simp, fun _ => hstored, h.fresh, h.announced, h.read⟩
  | writeHasValid =>
    have hstored := h.recorded (.inr (.inr hpc))
    rw [hpc] at taken
    cases taken
    exact ⟨h.started, h.sampled, by simp, fun _ => hstored, h.fresh, fun _ => rfl, h.read⟩

theorem clocked_health (h : s.Clocked) (taken : s.step .health = some s') : s'.Clocked := by
  simp only [step, healthTaskStep] at taken
  cases hpc : s.health.pc with
  | start =>
    have hfresh := h.fresh (.inl hpc)
    rw [hpc] at taken
    cases taken
    exact ⟨fun _ => rfl, by simpa using h.sampled, h.recording, h.recorded,
      fun _ => ⟨hfresh.1, by simpa using hfresh.2⟩, h.announced, by rintro ⟨⟩⟩
  | initialise =>
    have hstarted := h.started (by simp [hpc])
    have hfresh := (h.fresh (.inr hpc)).1
    rw [hpc] at taken
    cases taken
    exact ⟨fun _ => hstarted, by simpa using h.sampled, h.recording, h.recorded,
      (by rintro (h | h) <;> cases h), h.announced,
      fun _ hvalid => absurd (hfresh.symm.trans hvalid) (by simp)⟩
  | readTick =>
    have hstarted := h.started (by simp [hpc])
    rw [hpc] at taken
    cases taken
    exact ⟨fun _ => hstarted, fun _ => rfl, h.recording, h.recorded,
      (by rintro (h | h) <;> cases h), h.announced, by rintro ⟨⟩⟩
  | readHasValid =>
    have hstarted := h.started (by simp [hpc])
    rw [hpc] at taken
    cases taken
    exact ⟨fun _ => hstarted, by simpa using h.sampled, h.recording, h.recorded,
      (by rintro (h | h) <;> cases h), id, by rintro ⟨⟩⟩
  | readLastTick =>
    have hstarted := h.started (by simp [hpc])
    have hannounced := h.announced
    rw [hpc] at taken
    cases taken
    exact ⟨fun _ => hstarted, by simpa using h.sampled, h.recording, h.recorded,
      (by rintro (h | h) <;> cases h), hannounced,
      fun _ hvalid => h.recorded (.inl (hannounced hvalid))⟩
  | delay =>
    have hstarted := h.started (by simp [hpc])
    rw [hpc] at taken
    cases taken
    exact ⟨fun _ => hstarted, by simpa using h.sampled, h.recording, h.recorded,
      (by rintro (h | h) <;> cases h), h.announced, by rintro ⟨⟩⟩
  | decide =>
    have hstarted := h.started (by simp [hpc])
    have hread := h.read (by rw [hpc]; trivial)
    rw [hpc] at taken
    cases taken
    refine ⟨fun _ => hstarted, by simpa using h.sampled, h.recording, h.recorded, ?_, h.announced,
      fun _ => hread⟩
    have hbranch := branches s.health s.vars.commState
    generalize s.health.branch s.vars.commState = pc at hbranch ⊢
    cases hbranch <;> rintro (h | h) <;> cases h
  | _ =>
    have hstarted := h.started (by simp [hpc])
    have hread := h.read (by rw [hpc]; trivial)
    rw [hpc] at taken
    cases taken
    exact ⟨fun _ => hstarted, by simpa using h.sampled, h.recording, h.recorded,
      (by rintro (h | h) <;> cases h), h.announced, fun _ => hread⟩

/-- What a step of RS422Task or the tick interrupt leaves alone. -/
theorem placed_of_eq (h : s.Placed) (health : s'.health = s.health)
    (state : s'.vars.commState = s.vars.commState) (iterated : s'.iterated = s.iterated) :
    s'.Placed := by
  unfold Placed at h ⊢
  rwa [health, state, iterated]

theorem counted_of_eq (h : s.Counted) (health : s'.health = s.health)
    (state : s'.vars.commState = s.vars.commState)
    (timeouts : s'.vars.commTimeoutCount = s.vars.commTimeoutCount)
    (recoveries : s'.vars.commRecoveryCount = s.vars.commRecoveryCount) : s'.Counted := by
  unfold Counted at h ⊢
  rwa [health, state, timeouts, recoveries]

theorem placed_health (hclocked : s.Clocked) (h : s.Placed) (taken : s.step .health = some s') :
    s'.Placed := by
  unfold Placed at h
  simp only [step, healthTaskStep] at taken
  cases hpc : s.health.pc with
  | initialise =>
    have hfresh := (hclocked.fresh (.inr hpc)).2
    rw [hpc] at taken
    cases taken
    intro hiterated
    simp only [hfresh] at hiterated
    cases hiterated
  | decide =>
    rw [hpc] at taken
    cases taken
    have hbranch := branches s.health s.vars.commState
    generalize hnext : s.health.branch s.vars.commState = pc at hbranch ⊢
    cases hbranch with
    | timeout decides changed => exact ⟨decides, changed⟩
    | timeoutAgain decides same => exact fun _ => ⟨fun _ => same, fun hnot => absurd decides hnot⟩
    | recovery decides valid changed => exact ⟨decides, valid, changed⟩
    | firstOk decides valid => exact ⟨decides, valid⟩
    | okAgain decides _ same =>
      exact fun _ => ⟨fun hdecides => absurd hdecides decides, fun _ _ => same⟩
    | waiting decides valid =>
      exact fun _ => ⟨fun hdecides => absurd hdecides decides,
        fun _ hvalid => absurd (valid.symm.trans hvalid) (by simp)⟩
  | recordTimeout =>
    rw [hpc] at taken h
    cases taken
    exact h
  | countTimeout =>
    rw [hpc] at taken h
    cases taken
    exact h.1
  | enterTimeout =>
    rw [hpc] at taken h
    cases taken
    exact fun _ => ⟨fun _ => rfl, fun hnot => absurd h hnot⟩
  | recordRecovery =>
    rw [hpc] at taken h
    cases taken
    exact h
  | countRecovery =>
    rw [hpc] at taken h
    cases taken
    exact ⟨h.1, h.2.1⟩
  | enterOk =>
    rw [hpc] at taken h
    cases taken
    exact fun _ => ⟨fun hdecides => absurd hdecides h.1, fun _ _ => rfl⟩
  | _ =>
    rw [hpc] at taken
    cases taken
    trivial

theorem counted_health (hplaced : s.Placed) (h : s.Counted) (taken : s.step .health = some s') :
    s'.Counted := by
  unfold Placed at hplaced
  unfold Counted at h
  simp only [step, healthTaskStep] at taken
  cases hpc : s.health.pc with
  | start =>
    rw [hpc] at taken
    cases taken
    trivial
  | initialise =>
    rw [hpc] at taken
    cases taken
    exact UInt32.sub_self 0
  | decide =>
    rw [hpc] at taken h
    cases taken
    have hbranch := branches s.health s.vars.commState
    generalize hnext : s.health.branch s.vars.commState = pc at hbranch ⊢
    cases hbranch with
    | firstOk _ _ changed =>
      have hinit : s.vars.commTimeoutCount - s.vars.commRecoveryCount = 0 := by
        simpa only [changed, reduceCtorEq, if_false] using h
      exact hinit
    | _ => exact h
  | countTimeout =>
    rw [hpc] at taken h hplaced
    cases taken
    rw [if_neg hplaced.2] at h
    have hnext : s.vars.commTimeoutCount + 1 - s.vars.commRecoveryCount = 1 := by grind
    exact hnext
  | enterTimeout =>
    rw [hpc] at taken h
    cases taken
    exact h
  | countRecovery =>
    rw [hpc] at taken h hplaced
    cases taken
    rw [if_pos hplaced.2.2] at h
    have hnext : s.vars.commTimeoutCount - (s.vars.commRecoveryCount + 1) = 0 := by grind
    exact hnext
  | enterOk =>
    rw [hpc] at taken h
    cases taken
    exact h
  | _ =>
    rw [hpc] at taken h
    cases taken
    exact h

/-! ## The end of an iteration -/

/-- The comparison of two ticks less than 2^32 apart. -/
theorem commTimeoutTicks_le_iff {t u : Nat} (hle : u ≤ t) (hlt : t < u + 2 ^ 32) :
    commTimeoutTicks ≤ UInt32.ofNat t - UInt32.ofNat u ↔ u + 1500 ≤ t := by
  rw [UInt32.le_iff_toNat_le, commTimeoutTicks_toNat, UInt32.toNat_sub, UInt32.toNat_ofNat',
    UInt32.toNat_ofNat']
  omega

/-- All that is known of a reachable state. -/
structure Invariant (s : HealthTrace) : Prop where
  clocked : s.Clocked
  placed : s.Placed
  counted : s.Counted

theorem initial_invariant (now : Nat) : (initial now).Invariant :=
  ⟨initial_clocked now, trivial, trivial⟩

theorem invariant_step {a : HealthAction} (h : s.Invariant) (taken : s.step a = some s') :
    s'.Invariant := by
  cases a with
  | tick =>
    cases taken
    obtain ⟨⟨h1, h2, h3, h4, h5, h6, h7⟩, hplaced, hcounted⟩ := h
    exact ⟨⟨h1, h2, h3, h4, h5, h6, h7⟩, hplaced, hcounted⟩
  | health =>
    exact ⟨clocked_health h.clocked taken, placed_health h.clocked h.placed taken,
      counted_health h.placed h.counted taken⟩
  | record =>
    obtain ⟨hstate, htimeouts, hrecoveries⟩ := recordStep_frame s.tick s.vars s.recorder
    refine ⟨clocked_record h.clocked taken, ?_, ?_⟩
    · cases taken
      exact placed_of_eq h.placed rfl hstate rfl
    · cases taken
      exact counted_of_eq h.counted rfl hstate htimeouts hrecoveries

/-- What holds at the end of an iteration. -/
structure Settled (s : HealthTrace) : Prop where
  timeout : s.health.hasValidFrame = true → s.readAt + 1500 ≤ s.sampledAt →
    s.sampledAt < s.readAt + 2 ^ 32 → s.vars.commState = .timeout
  silent : s.health.hasValidFrame = false → s.startedAt + 1500 ≤ s.sampledAt →
    s.sampledAt < s.startedAt + 2 ^ 32 → s.vars.commState = .timeout
  ok : s.health.hasValidFrame = true → s.readAt ≤ s.sampledAt →
    s.sampledAt < s.readAt + 1500 → s.vars.commState = .ok
  counts : s.vars.commTimeoutCount - s.vars.commRecoveryCount =
    if s.vars.commState = .timeout then 1 else 0

theorem Invariant.settled (h : s.Invariant) (ended : s.IterationEnded) : s.Settled := by
  obtain ⟨hpc, hiterated⟩ := ended
  have hsampled := h.clocked.sampled hiterated
  have hstarted := h.clocked.started (by rw [hpc]; nofun)
  have hread := h.clocked.read (by rw [hpc]; trivial)
  have hplaced := h.placed
  have hcounted := h.counted
  unfold Placed at hplaced
  unfold Counted at hcounted
  rw [hpc] at hplaced hcounted
  obtain ⟨htimeout, hok⟩ := hplaced hiterated
  unfold HealthTask.decidesTimeout at htimeout hok
  rw [hsampled, hstarted] at htimeout hok
  refine ⟨fun hvalid hlate hlt => htimeout ?_, fun hvalid hlate hlt => htimeout ?_,
    fun hvalid hle hlt => hok ?_ hvalid, hcounted⟩
  · rw [if_pos hvalid, hread hvalid]
    exact (commTimeoutTicks_le_iff (by omega) hlt).mpr hlate
  · rw [if_neg (by rw [hvalid]; nofun)]
    exact (commTimeoutTicks_le_iff (by omega) hlt).mpr hlate
  · rw [if_pos hvalid, hread hvalid, commTimeoutTicks_le_iff hle (by omega)]
    omega

end HealthTrace

/-- At the end of every iteration, whatever the two tasks have done and in what order: the state is
    COMM_TIMEOUT if the frame time read, or the start while there is none, was sampled 1500 ms or
    more before `current_tick`, it is COMM_OK if that frame is younger, and the timeouts are one
    ahead of the recoveries exactly in COMM_TIMEOUT. -/
theorem healthTask_states {now : Nat} {s : HealthTrace}
    (run : Reachable HealthTrace.step unguarded (.initial now) s) (ended : s.IterationEnded) :
    s.Settled := by
  have hinv : s.Invariant :=
    Reachable.invariant (P := HealthTrace.Invariant) (HealthTrace.initial_invariant now)
      (fun _ _ _ h _ taken => HealthTrace.invariant_step h taken) run
  exact hinv.settled ended

/-- A frame, then 1600 ticks of silence. -/
def settledRun : List HealthAction :=
  List.flatten
    [[.health, .health, .record, .record, .record, .record], List.replicate 1600 .tick,
      List.replicate 8 .health]

theorem healthTask_states_silent :
    ∃ s, Reachable HealthTrace.step unguarded (.initial 4294967000) s ∧
      s.vars.commState = .timeout ∧ s.Settled := by
  obtain ⟨s, run, htest⟩ := exists_reachable HealthTrace.step unguarded
    (.initial 4294967000) settledRun
    (fun s => decide (s.health.pc = .delay ∧ s.iterated = true ∧ s.vars.commState = .timeout))
    (by decide +kernel)
  obtain ⟨hpc, hiterated, hstate⟩ := of_decide_eq_true htest
  exact ⟨s, run, hstate, healthTask_states run ⟨hpc, hiterated⟩⟩

end Rs422Gateway
