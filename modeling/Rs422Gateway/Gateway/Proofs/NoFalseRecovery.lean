import Rs422Gateway.Gateway.Proofs.NoFalseTimeout

/-!
# Recoveries without a new frame

HealthTask compares the age of the newest frame modulo 2^32 and does not remember that it has
already found it too old. A silence of 2^32 ticks makes the old frame look new again, and a frame
recorded after the sample of the tick makes HealthTask leave COMM_OK too early and come back by
itself. As long as neither is seen by a deciding read, every recovery follows a new frame.
-/

namespace Rs422Gateway

open Transition

/-- The two tasks with the history of a COMM_TIMEOUT: the time of the current sample of the tick,
    how often `g_rs422_last_valid_frame_tick` has been written, and how often it had been at the
    deciding read of the iteration and at the one that led to the last COMM_TIMEOUT. -/
structure HealthHistory where
  sys : HealthState
  sampledAt : Nat
  written : Nat
  writtenAtRead : Nat
  writtenAtTimeout : Nat

namespace HealthHistory

def initial : HealthHistory := ⟨.initial, 0, 0, 0, 0⟩

def step (s : HealthHistory) (a : HealthAction) : Option HealthHistory :=
  (s.sys.step a).map fun sys =>
    { sys := sys
      sampledAt := if a = .health ∧ s.sys.health.pc = .readTick then s.sys.now else s.sampledAt
      written :=
        if a = .record ∧ s.sys.recorder.pc = .writeTick then s.written + 1 else s.written
      writtenAtRead :=
        if a = .health ∧ s.sys.atDecidingRead then s.written else s.writtenAtRead
      writtenAtTimeout :=
        if a = .health ∧ s.sys.health.pc = .enterTimeout then s.writtenAtRead
        else s.writtenAtTimeout }

/-- A step from COMM_TIMEOUT to COMM_OK follows a frame recorded since the read that led to the
    COMM_TIMEOUT. -/
def NoFalseRecovery (s : HealthHistory) : Prop :=
  ∀ a s', s.step a = some s' → s.sys.vars.commState = .timeout → s'.sys.vars.commState = .ok →
    s.writtenAtTimeout < s.written

/-- The read of the newest frame's time does not mislead HealthTask: outside COMM_TIMEOUT the frame
    is not newer than the sampled tick, and in COMM_TIMEOUT without a new frame its age is not less
    than 1500 ticks above a multiple of 2^32. -/
def ReadsAge (s : HealthHistory) (a : HealthAction) : Prop :=
  a = .health → s.sys.health.pc = .readLastTick → s.sys.health.hasValidFrame = true →
    ∀ r ∈ s.sys.records.head?,
      if s.sys.vars.commState = .timeout then
        s.written = s.writtenAtTimeout → 2 ^ 32 ≤ s.sampledAt - r →
          1500 ≤ (s.sampledAt - r) % 2 ^ 32
      else r ≤ s.sampledAt

instance (s : HealthHistory) (a : HealthAction) : Decidable (s.ReadsAge a) :=
  inferInstanceAs (Decidable (_ → _ → _ → ∀ r ∈ s.sys.records.head?, _))

/-- As long as no frame has been added to the first `n`, the newest one is too old for
    the sample. -/
structure Stale (s : HealthHistory) (n : Nat) : Prop where
  le_written : n ≤ s.written
  old : s.sys.records.length = n → ∀ r ∈ s.sys.records.head?, r + 1500 ≤ s.sampledAt

/-- What holds at every access. -/
structure Tracked (s : HealthHistory) : Prop where
  recorded : s.sys.Recorded
  counted : s.written + (if s.sys.recorder.pc = .writeTick then 1 else 0) = s.sys.records.length
  sampled : s.sys.health.currentTick = UInt32.ofNat s.sampledAt
  past : s.sampledAt ≤ s.sys.now
  timedOut : s.sys.vars.commState = .timeout → s.Stale s.writtenAtTimeout

/-- What the reads of the iteration imply for its decision. -/
structure Decided (s : HealthHistory) : Prop where
  announced : s.sys.health.pc = .readLastTick → s.sys.health.hasValidFrame = true →
    s.sys.records ≠ []
  unannounced : s.sys.health.pc = .readLastTick ∨ s.sys.health.pc = .decide →
    s.sys.health.hasValidFrame = false → s.writtenAtRead = 0
  timesOut : s.sys.health.pc = .decide → s.sys.vars.commState ≠ .timeout →
    s.sys.health.decidesTimeout → s.Stale s.writtenAtRead
  recovers : s.sys.health.pc = .decide → s.sys.vars.commState = .timeout →
    s.sys.health.hasValidFrame = true → ¬ s.sys.health.decidesTimeout →
      s.writtenAtTimeout < s.written
  timingOut : s.sys.health.pc = .recordTimeout ∨ s.sys.health.pc = .countTimeout ∨
    s.sys.health.pc = .enterTimeout → s.Stale s.writtenAtRead
  recovering : s.sys.health.pc = .recordRecovery ∨ s.sys.health.pc = .countRecovery ∨
    s.sys.health.pc = .enterOk → s.sys.vars.commState = .timeout → s.writtenAtTimeout < s.written

namespace Stale

variable {s s' : HealthHistory} {n : Nat}

/-- A later sample, and no new frame. -/
theorem later (h : s.Stale n) (hwritten : s'.written = s.written)
    (hrecords : s'.sys.records = s.sys.records) (hsampled : s.sampledAt ≤ s'.sampledAt) :
    s'.Stale n := by
  refine ⟨hwritten ▸ h.le_written, ?_⟩
  rw [hrecords]
  intro hlength r hr
  exact Nat.le_trans (h.old hlength r hr) hsampled

/-- RS422Task goes on with a frame, or starts with a new one. -/
theorem record (h : s.Stale n) (hwritten : s.written ≤ s'.written)
    (hrecords : s'.sys.records = s.sys.records ∨ n < s'.sys.records.length)
    (hsampled : s'.sampledAt = s.sampledAt) : s'.Stale n := by
  refine ⟨Nat.le_trans h.le_written hwritten, ?_⟩
  intro hlength
  rcases hrecords with hrecords | hlt
  · rw [hrecords] at hlength ⊢
    rw [hsampled]
    exact h.old hlength
  · exact absurd hlength (Nat.ne_of_gt hlt)

end Stale

theorem initial_tracked : initial.Tracked where
  recorded := HealthState.initial_recorded
  counted := rfl
  sampled := rfl
  past := Nat.le_refl _
  timedOut := nofun

/-- Between two iterations there is no decision. -/
theorem decided_between {s : HealthHistory}
    (h : s.sys.health.pc = .start ∨ s.sys.health.pc = .initialise ∨ s.sys.health.pc = .delay ∨
      s.sys.health.pc = .readTick ∨ s.sys.health.pc = .readHasValid) : s.Decided := by
  rcases h with h | h | h | h | h <;>
    constructor <;> simp only [h, reduceCtorEq, false_implies, or_self]

variable {s s' : HealthHistory}

/-- A step of HealthTask. -/
theorem step_health (taken : s.step .health = some s') :
    s.sys.recorder.pc = .idle ∧ s.sys.step .health = some s'.sys ∧
      s'.sys.vars = (healthTaskStep s.sys.tick s.sys.vars s.sys.health).1 ∧
      s'.sys.health = (healthTaskStep s.sys.tick s.sys.vars s.sys.health).2 ∧
      s'.sys.now = s.sys.now ∧ s'.sys.records = s.sys.records ∧
      s'.sys.recorder = s.sys.recorder ∧ s'.written = s.written ∧
      (s'.sampledAt = if s.sys.health.pc = .readTick then s.sys.now else s.sampledAt) ∧
      (s'.writtenAtRead = if s.sys.atDecidingRead then s.written else s.writtenAtRead) ∧
      (s'.writtenAtTimeout =
        if s.sys.health.pc = .enterTimeout then s.writtenAtRead else s.writtenAtTimeout) := by
  obtain ⟨sys, hsys, rfl⟩ := Option.map_eq_some_iff.mp taken
  have hstep := hsys
  simp only [HealthState.step] at hsys
  split at hsys
  case isFalse => cases hsys
  case isTrue hidle =>
    cases hsys
    refine ⟨hidle, hstep, rfl, rfl, rfl, rfl, rfl, ?_, ?_, ?_, ?_⟩ <;>
      simp only [true_and, reduceCtorEq, false_and, if_false]

/-- A step of RS422Task. -/
theorem step_record (taken : s.step .record = some s') :
    s.sys.step .record = some s'.sys ∧
      s'.sys.vars = (recordStep s.sys.tick s.sys.vars s.sys.recorder).1 ∧
      s'.sys.recorder = (recordStep s.sys.tick s.sys.vars s.sys.recorder).2 ∧
      s'.sys.now = s.sys.now ∧ s'.sys.health = s.sys.health ∧
      (s'.sys.records =
        if s.sys.recorder.pc = .idle then s.sys.now :: s.sys.records else s.sys.records) ∧
      (s'.written = if s.sys.recorder.pc = .writeTick then s.written + 1 else s.written) ∧
      s'.sampledAt = s.sampledAt ∧ s'.writtenAtRead = s.writtenAtRead ∧
      s'.writtenAtTimeout = s.writtenAtTimeout := by
  obtain ⟨sys, hsys, rfl⟩ := Option.map_eq_some_iff.mp taken
  have hstep := hsys
  simp only [HealthState.step] at hsys
  cases hsys
  refine ⟨hstep, rfl, rfl, rfl, rfl, rfl, ?_, ?_, ?_, ?_⟩ <;>
    simp only [true_and, reduceCtorEq, false_and, if_false]

/-- RS422Task does not write the communication state. -/
theorem recordStep_commState (tick : UInt32) (v : CommVars) (r : Recorder) :
    (recordStep tick v r).1.commState = v.commState := by
  unfold recordStep
  cases r.pc <;> rfl

theorem tracked_health (h : s.Tracked) (hd : s.Decided) (taken : s.step .health = some s') :
    s'.Tracked := by
  obtain ⟨-, hstep, hvars, hhealth, hnow, hrecords, hrecorder, hwritten, hsampled, -, htimeout⟩ :=
    step_health taken
  have hsampledLe : s.sampledAt ≤ s'.sampledAt := by
    rw [hsampled]
    split
    · exact h.past
    · exact Nat.le_refl _
  refine ⟨HealthState.recorded_step h.recorded hstep, ?_, ?_, ?_, ?_⟩
  · rw [hwritten, hrecorder, hrecords]
    exact h.counted
  · rw [hhealth, hsampled]
    cases hpc : s.sys.health.pc with
    | readTick => simp only [healthTaskStep, hpc, if_true, HealthState.tick]
    | _ => simp only [healthTaskStep, hpc, reduceCtorEq, if_false, h.sampled]
  · rw [hnow, hsampled]
    split
    · exact Nat.le_refl _
    · exact h.past
  · rw [hvars]
    intro hcomm
    cases hpc : s.sys.health.pc with
    | initialise | enterOk =>
      simp only [healthTaskStep, hpc, reduceCtorEq] at hcomm
    | enterTimeout =>
      rw [htimeout, if_pos hpc]
      exact (hd.timingOut (.inr (.inr hpc))).later hwritten hrecords hsampledLe
    | _ =>
      simp only [healthTaskStep, hpc] at hcomm
      rw [htimeout, hpc, if_neg (by simp)]
      exact (h.timedOut hcomm).later hwritten hrecords hsampledLe

theorem counted_record (h : s.Tracked) (taken : s.step .record = some s') :
    s'.written + (if s'.sys.recorder.pc = .writeTick then 1 else 0) = s'.sys.records.length ∧
      s.written ≤ s'.written ∧
      ∀ n ≤ s.written, s'.sys.records = s.sys.records ∨ n < s'.sys.records.length := by
  obtain ⟨-, -, hrecorder, -, -, hrecords, hwritten, -⟩ := step_record taken
  have hcounted := h.counted
  rw [hrecorder, hrecords, hwritten]
  cases hpc : s.sys.recorder.pc with
  | idle =>
    simp only [hpc, reduceCtorEq, if_false, Nat.add_zero] at hcounted
    simp only [recordStep, hpc, if_true, reduceCtorEq, if_false, List.length_cons, ← hcounted]
    exact ⟨trivial, Nat.le_refl _, fun n hn => .inr (Nat.lt_succ_of_le hn)⟩
  | writeTick =>
    simp only [hpc, if_true] at hcounted
    simp only [recordStep, hpc, if_true, reduceCtorEq, if_false]
    exact ⟨hcounted, Nat.le_succ _, fun n _ => .inl trivial⟩
  | _ =>
    simp only [hpc, reduceCtorEq, if_false, Nat.add_zero] at hcounted
    simp only [recordStep, hpc, reduceCtorEq, if_false]
    exact ⟨hcounted, Nat.le_refl _, fun n _ => .inl trivial⟩

theorem stale_record (h : s.Tracked) (taken : s.step .record = some s') {n : Nat}
    (hstale : s.Stale n) : s'.Stale n := by
  obtain ⟨-, hle, hrecords⟩ := counted_record h taken
  obtain ⟨-, -, -, -, -, -, -, hsampled, -⟩ := step_record taken
  exact hstale.record hle (hrecords n hstale.le_written) hsampled

theorem tracked_record (h : s.Tracked) (taken : s.step .record = some s') : s'.Tracked := by
  obtain ⟨hstep, hvars, -, hnow, hhealth, -, -, hsampled, -, htimeout⟩ := step_record taken
  refine ⟨HealthState.recorded_step h.recorded hstep, (counted_record h taken).1, ?_, ?_, ?_⟩
  · rw [hhealth, hsampled]
    exact h.sampled
  · rw [hnow, hsampled]
    exact h.past
  · rw [hvars, recordStep_commState, htimeout]
    intro hcomm
    exact stale_record h taken (h.timedOut hcomm)

theorem decided_record (h : s.Tracked) (hd : s.Decided) (taken : s.step .record = some s') :
    s'.Decided := by
  obtain ⟨-, hvars, -, -, hhealth, hrecords, -, -, hread, htimeout⟩ := step_record taken
  have hle := (counted_record h taken).2.1
  have hcomm : s'.sys.vars.commState = s.sys.vars.commState := by
    rw [hvars, recordStep_commState]
  constructor
  · rw [hhealth, hrecords]
    intro hpc hvalid
    split
    · exact List.cons_ne_nil _ _
    · exact hd.announced hpc hvalid
  · rw [hhealth, hread]
    exact hd.unannounced
  · rw [hhealth, hcomm, hread]
    intro hpc hne hdecides
    exact stale_record h taken (hd.timesOut hpc hne hdecides)
  · rw [hhealth, hcomm, htimeout]
    intro hpc heq hvalid hdecides
    exact Nat.lt_of_lt_of_le (hd.recovers hpc heq hvalid hdecides) hle
  · rw [hhealth, hread]
    intro hpc
    exact stale_record h taken (hd.timingOut hpc)
  · rw [hhealth, hcomm, htimeout]
    intro hpc heq
    exact Nat.lt_of_lt_of_le (hd.recovering hpc heq) hle

theorem not_atDecidingRead (h1 : s.sys.health.pc ≠ .readHasValid)
    (h2 : s.sys.health.pc = .readLastTick → s.sys.health.hasValidFrame = false) :
    ¬ s.sys.atDecidingRead := by
  rintro (⟨hpc, -⟩ | ⟨hpc, hvalid⟩)
  · exact h1 hpc
  · rw [h2 hpc] at hvalid
    cases hvalid

/-- What the read of the newest frame's time implies, if it does not mislead. -/
theorem decided_read (h : s.Tracked) (hd : s.Decided) (hpc : s.sys.health.pc = .readLastTick)
    (hidle : s.sys.recorder.pc = .idle) (hvalid : s.sys.health.hasValidFrame = true)
    (hreads : s.ReadsAge .health) :
    ∃ r ∈ s.sys.records.head?, s.sys.vars.lastValidFrameTick = UInt32.ofNat r ∧
      (s.sys.vars.commState ≠ .timeout →
        commTimeoutTicks ≤ s.sys.health.currentTick - UInt32.ofNat r → r + 1500 ≤ s.sampledAt) ∧
      (s.sys.vars.commState = .timeout →
        ¬ commTimeoutTicks ≤ s.sys.health.currentTick - UInt32.ofNat r →
          s.writtenAtTimeout < s.written) := by
  obtain ⟨r, rest, hr⟩ := List.exists_cons_of_ne_nil (hd.announced hpc hvalid)
  have hhead : r ∈ s.sys.records.head? := by rw [hr]; rfl
  have hage := hreads rfl hpc hvalid r hhead
  have hcounted := h.counted
  simp only [hidle, reduceCtorEq, if_false, Nat.add_zero] at hcounted
  refine ⟨r, hhead, (h.recorded.idle hidle).2 r hhead, ?_, ?_⟩
  · intro hne hdue
    rw [if_neg hne] at hage
    rw [h.sampled, UInt32.le_iff_toNat_le, commTimeoutTicks_toNat, UInt32.toNat_sub,
      UInt32.toNat_ofNat', UInt32.toNat_ofNat'] at hdue
    omega
  · intro heq hdue
    rw [if_pos heq] at hage
    have hstale := h.timedOut heq
    refine Nat.lt_of_le_of_ne hstale.le_written fun hsame => ?_
    have hold := hstale.old (hcounted.symm.trans hsame.symm) r hhead
    rw [h.sampled, UInt32.le_iff_toNat_le, commTimeoutTicks_toNat, UInt32.toNat_sub,
      UInt32.toNat_ofNat', UInt32.toNat_ofNat'] at hdue
    have haged := hage hsame.symm
    omega

theorem decided_health (h : s.Tracked) (hd : s.Decided) (hreads : s.ReadsAge .health)
    (taken : s.step .health = some s') : s'.Decided := by
  obtain ⟨hidle, -, hvars, hhealth, -, hrecords, hrecorder, hwritten, hsampled, hread, htimeout⟩ :=
    step_health taken
  have hannounced := (h.recorded.idle hidle).1
  have hcounted := h.counted
  simp only [hidle, reduceCtorEq, if_false, Nat.add_zero] at hcounted
  cases hpc : s.sys.health.pc with
  | start | initialise | delay | readTick | enterTimeout | enterOk =>
    refine decided_between ?_
    rw [hhealth, healthTaskStep, hpc]
    simp only [reduceCtorEq, true_or, or_true]
  | readHasValid =>
    have hpc' : s'.sys.health.pc = .readLastTick := by rw [hhealth, healthTaskStep, hpc]
    have hvalid' : s'.sys.health.hasValidFrame = s.sys.vars.hasValidFrame := by
      rw [hhealth, healthTaskStep, hpc]
    constructor <;> simp only [hpc', reduceCtorEq, false_implies, or_false, or_self, true_implies]
    · rw [hvalid', hrecords]
      exact hannounced.mp
    · rw [hvalid', hread]
      intro hvalid
      have hnil : s.sys.records = [] := by
        refine Decidable.byContradiction fun hne => ?_
        rw [hannounced.mpr hne] at hvalid
        cases hvalid
      rw [if_pos (.inl ⟨hpc, hvalid⟩), hcounted, hnil]
      rfl
  | readLastTick =>
    have hpc' : s'.sys.health.pc = .decide := by rw [hhealth, healthTaskStep, hpc]
    have hvalid' : s'.sys.health.hasValidFrame = s.sys.health.hasValidFrame := by
      rw [hhealth, healthTaskStep, hpc]
    have hcomm : s'.sys.vars.commState = s.sys.vars.commState := by
      rw [hvars, healthTaskStep, hpc]
    rw [hpc, if_neg (by simp)] at hsampled htimeout
    constructor <;> simp only [hpc', reduceCtorEq, false_implies, or_self, true_implies, or_true]
    · rw [hvalid', hread]
      intro hvalid
      rw [if_neg (not_atDecidingRead (by simp [hpc]) fun _ => hvalid),
        hd.unannounced (.inl hpc) hvalid]
    · rw [hcomm]
      intro hne hdecides
      cases hvalid : s.sys.health.hasValidFrame with
      | false =>
        have hnone := hd.unannounced (.inl hpc) hvalid
        rw [hread, if_neg (not_atDecidingRead (by simp [hpc]) fun _ => hvalid), hnone]
        refine ⟨Nat.zero_le _, ?_⟩
        intro hlength r hr
        rw [List.length_eq_zero_iff.mp hlength] at hr
        cases hr
      | true =>
        obtain ⟨r, hr, hlast, hold, -⟩ := decided_read h hd hpc hidle hvalid hreads
        rw [HealthTask.decidesTimeout, hvalid', hvalid, if_pos rfl, hhealth, healthTaskStep, hpc,
          hlast] at hdecides
        rw [hread, if_pos (.inr ⟨hpc, hvalid⟩)]
        refine ⟨Nat.le_of_eq hwritten.symm, ?_⟩
        rw [hrecords, hsampled]
        intro hlength r' hr'
        rw [Option.mem_unique hr' hr]
        exact hold hne hdecides
    · rw [hcomm, hvalid', hwritten, htimeout]
      intro heq hvalid hdecides
      obtain ⟨r, hr, hlast, -, hnew⟩ := decided_read h hd hpc hidle hvalid hreads
      rw [HealthTask.decidesTimeout, hvalid', hvalid, if_pos rfl, hhealth, healthTaskStep, hpc,
        hlast] at hdecides
      exact hnew heq hdecides
  | decide =>
    have hpc' : s'.sys.health.pc = s.sys.health.branch s.sys.vars.commState := by
      rw [hhealth, healthTaskStep, hpc]
    have hcomm : s'.sys.vars.commState = s.sys.vars.commState := by
      rw [hvars, healthTaskStep, hpc]
    rw [if_neg (not_atDecidingRead (by simp [hpc]) (by simp [hpc]))] at hread
    rw [hpc, if_neg (by simp)] at hsampled htimeout
    unfold HealthTask.branch at hpc'
    split at hpc'
    case isTrue hdecides =>
      split at hpc'
      case isTrue hne =>
        have hstale := (hd.timesOut hpc hne hdecides).later hwritten hrecords
          (Nat.le_of_eq hsampled.symm)
        constructor <;> simp only [hpc', reduceCtorEq, false_implies, or_self]
        rw [hread]
        exact fun _ => hstale
      case isFalse => exact decided_between (.inr (.inr (.inl hpc')))
    case isFalse hdecides =>
      split at hpc'
      case isTrue hvalid =>
        split at hpc'
        case isTrue hne =>
          have hrecovers := hd.recovers hpc
          constructor <;> split at hpc' <;>
            simp only [hpc', reduceCtorEq, false_implies, or_self, or_true, or_false, true_implies]
          case recovering.isTrue heq =>
            rw [hwritten, htimeout]
            exact fun _ => hrecovers heq hvalid hdecides
          case recovering.isFalse hne =>
            rw [hcomm]
            exact fun heq => absurd heq hne
        case isFalse => exact decided_between (.inr (.inr (.inl hpc')))
      case isFalse => exact decided_between (.inr (.inr (.inl hpc')))
  | recordTimeout | countTimeout =>
    have hpc' : s'.sys.health.pc = .countTimeout ∨ s'.sys.health.pc = .enterTimeout := by
      rw [hhealth, healthTaskStep, hpc]
      simp only [reduceCtorEq, or_true, true_or]
    rw [if_neg (not_atDecidingRead (by simp [hpc]) (by simp [hpc]))] at hread
    rw [hpc, if_neg (by simp)] at hsampled
    have hstale := (hd.timingOut (by rw [hpc]; simp)).later hwritten hrecords
      (Nat.le_of_eq hsampled.symm)
    rcases hpc' with hpc' | hpc' <;> constructor <;>
      simp only [hpc', reduceCtorEq, false_implies, or_self] <;> rw [hread] <;>
        exact fun _ => hstale
  | recordRecovery | countRecovery =>
    have hpc' : s'.sys.health.pc = .countRecovery ∨ s'.sys.health.pc = .enterOk := by
      rw [hhealth, healthTaskStep, hpc]
      simp only [reduceCtorEq, or_true, true_or]
    have hcomm : s'.sys.vars.commState = s.sys.vars.commState := by
      rw [hvars, healthTaskStep, hpc]
    rw [hpc, if_neg (by simp)] at htimeout
    have hrecovering := hd.recovering (by rw [hpc]; simp)
    rcases hpc' with hpc' | hpc' <;> constructor <;>
      simp only [hpc', reduceCtorEq, false_implies, or_self] <;>
      rw [hcomm, hwritten, htimeout] <;> exact fun _ => hrecovering

theorem tracked_tick (h : s.Tracked) (hd : s.Decided) (taken : s.step .tick = some s') :
    s'.Tracked ∧ s'.Decided := by
  have hstep := taken
  obtain ⟨sys, hsys, rfl⟩ := Option.map_eq_some_iff.mp taken
  have hrecorded := HealthState.recorded_step h.recorded hsys
  cases hsys
  simp only [step, HealthState.step, Option.map_some, reduceCtorEq, false_and, if_false] at hstep
  exact ⟨⟨hrecorded, h.counted, h.sampled, Nat.le_succ_of_le h.past, fun hcomm =>
    (h.timedOut hcomm).later rfl rfl (Nat.le_refl _)⟩, { hd with
      timesOut := fun hpc hne hdecides =>
        (hd.timesOut hpc hne hdecides).later rfl rfl (Nat.le_refl _)
      timingOut := fun hpc => (hd.timingOut hpc).later rfl rfl (Nat.le_refl _) }⟩

theorem invariant_step {a : HealthAction} (h : s.Tracked ∧ s.Decided) (hreads : s.ReadsAge a)
    (taken : s.step a = some s') : s'.Tracked ∧ s'.Decided := by
  obtain ⟨htracked, hdecided⟩ := h
  cases a with
  | tick => exact tracked_tick htracked hdecided taken
  | health => exact ⟨tracked_health htracked hdecided taken,
      decided_health htracked hdecided hreads taken⟩
  | record => exact ⟨tracked_record htracked taken, decided_record htracked hdecided taken⟩

/-- Only the last access of a recovery leaves COMM_TIMEOUT for COMM_OK. -/
theorem noFalseRecovery_of_decided (h : s.Decided) : s.NoFalseRecovery := by
  intro a s' taken htimeout hok
  cases a with
  | tick =>
    obtain ⟨sys, hsys, rfl⟩ := Option.map_eq_some_iff.mp taken
    cases hsys
    rw [show s.sys.vars.commState = _ from hok] at htimeout
    cases htimeout
  | record =>
    obtain ⟨-, hvars, -⟩ := step_record taken
    rw [hvars, recordStep_commState, htimeout] at hok
    cases hok
  | health =>
    obtain ⟨-, -, hvars, -⟩ := step_health taken
    rw [hvars] at hok
    cases hpc : s.sys.health.pc with
    | enterOk => exact h.recovering (.inr (.inr hpc)) htimeout
    | initialise | enterTimeout => simp only [healthTaskStep, hpc, reduceCtorEq] at hok
    | _ => simp only [healthTaskStep, hpc, htimeout, reduceCtorEq] at hok

end HealthHistory

/-- In every run, of any length, whose deciding reads are not misled, HealthTask goes from
    COMM_TIMEOUT to COMM_OK only if RS422Task has recorded a frame since the read that led to the
    COMM_TIMEOUT. -/
theorem healthTask_noFalseRecovery {s : HealthHistory}
    (run : Reachable HealthHistory.step HealthHistory.ReadsAge .initial s) : s.NoFalseRecovery := by
  have h : s.Tracked ∧ s.Decided :=
    run.invariant ⟨HealthHistory.initial_tracked, HealthHistory.decided_between (.inl rfl)⟩
      fun _ _ _ h hreads taken => HealthHistory.invariant_step h hreads taken
  exact HealthHistory.noFalseRecovery_of_decided h.2

namespace HealthHistory

/-- The next access of HealthTask leaves COMM_TIMEOUT for COMM_OK. -/
def recoversNext (s : HealthHistory) : Bool :=
  decide (s.sys.vars.commState = .timeout) &&
    (s.step .health).any fun s' => decide (s'.sys.vars.commState = .ok)

/-- `n` ticks pass. -/
def wait (s : HealthHistory) (n : Nat) : HealthHistory :=
  { s with sys := { s.sys with now := s.sys.now + n } }

theorem reachable_wait {s : HealthHistory} (run : Reachable step unguarded initial s) (n : Nat) :
    Reachable step unguarded initial (s.wait n) := by
  induction n with
  | zero => exact run
  | succ n ih => exact .step .tick ih trivial rfl

theorem recovers_of_recoversNext {s : HealthHistory} (h : s.recoversNext = true) :
    ∃ s', s.step .health = some s' ∧ s.sys.vars.commState = .timeout ∧
      s'.sys.vars.commState = .ok := by
  obtain ⟨htimeout, hnext⟩ := Bool.and_eq_true_iff.mp h
  obtain ⟨s', hs', hok⟩ := (Option.any_eq_true _ _).mp hnext
  exact ⟨s', hs', of_decide_eq_true htimeout, of_decide_eq_true hok⟩

end HealthHistory

/-- One frame at tick 0, and an iteration at tick 1600 that enters COMM_TIMEOUT. -/
def timeoutRun : List HealthAction :=
  silentRun ++ List.replicate 4 .health

/-- The next frame is recorded, and HealthTask is about to recover. -/
theorem healthTask_noFalseRecovery_frame :
    ∃ s, Reachable HealthHistory.step HealthHistory.ReadsAge .initial s ∧
      s.recoversNext = true ∧ s.writtenAtTimeout < s.written := by
  obtain ⟨s, run, htest⟩ := exists_reachable HealthHistory.step HealthHistory.ReadsAge .initial
    (timeoutRun ++ List.replicate 4 .record ++ List.replicate 7 .health)
    HealthHistory.recoversNext (by decide +kernel)
  obtain ⟨s', taken, htimeout, hok⟩ := HealthHistory.recovers_of_recoversNext htest
  exact ⟨s, run, htest, healthTask_noFalseRecovery run _ _ taken htimeout hok⟩

/-- After 2^32 ticks of silence the frame of tick 0 looks new. -/
theorem healthTask_falseRecovery :
    ¬ ∀ s, Reachable HealthHistory.step unguarded .initial s → s.NoFalseRecovery := by
  intro hall
  obtain ⟨s, run, htest⟩ := exists_reachable HealthHistory.step unguarded .initial timeoutRun
    (fun s => (exec HealthHistory.step unguarded (s.wait (2 ^ 32 - 1600))
      (List.replicate 7 .health)).any fun t : HealthHistory =>
        t.recoversNext && decide (t.writtenAtTimeout = t.written)) (by decide +kernel)
  obtain ⟨t, ht, hlast⟩ := (Option.any_eq_true _ _).mp htest
  obtain ⟨hnext, hwritten⟩ := Bool.and_eq_true_iff.mp hlast
  obtain ⟨t', taken, htimeout, hok⟩ := HealthHistory.recovers_of_recoversNext hnext
  have hreach := (HealthHistory.reachable_wait run (2 ^ 32 - 1600)).exec ht
  have hlt := hall t hreach _ _ taken htimeout hok
  rw [of_decide_eq_true hwritten] at hlt
  exact absurd hlt (Nat.lt_irrefl _)

/-- A frame one tick after the sample makes HealthTask enter COMM_TIMEOUT, and the next iteration
    leaves it again. -/
theorem healthTask_falseRecovery_lateFrame :
    ¬ ∀ s, Reachable HealthHistory.step unguarded .initial s → s.sys.now < 2 ^ 32 →
      s.NoFalseRecovery := by
  intro hall
  obtain ⟨s, run, htest⟩ := exists_reachable HealthHistory.step unguarded .initial
    (lateFrameRun ++ List.replicate 11 .health)
    (fun t : HealthHistory =>
      t.recoversNext && decide (t.sys.now < 2 ^ 32 ∧ t.writtenAtTimeout = t.written))
    (by decide +kernel)
  obtain ⟨hnext, hrest⟩ := Bool.and_eq_true_iff.mp htest
  obtain ⟨hshort, hwritten⟩ := of_decide_eq_true hrest
  obtain ⟨s', taken, htimeout, hok⟩ := HealthHistory.recovers_of_recoversNext hnext
  have hlt := hall s run hshort _ _ taken htimeout hok
  rw [hwritten] at hlt
  exact absurd hlt (Nat.lt_irrefl _)

end Rs422Gateway
