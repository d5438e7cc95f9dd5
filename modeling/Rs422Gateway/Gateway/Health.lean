import Rs422Gateway.Misc.Transition

/-!
# HealthTask

Rendering of `StartHealthTask` (`main.c:3959-4045`) and of what `rs422_process_rx_buffer` records
for a valid frame (`main.c:2390-2410`), as the two tasks share it. HealthTask takes its accesses to
shared variables one by one, so that RS422Task, which has the higher priority, can come between any
two of them; only writes of diagnostic times that RS422Task does not touch meanwhile are one step.
RS422Task does not block while it records a frame, so HealthTask takes no step then. The tick
interrupt comes at any time. `osDelayUntil` may return at any later time, so the wake-up deadline is
left out, and so are the heap figures, which nothing reads.
-/

namespace Rs422Gateway

/-- `configTICK_RATE_HZ` (`FreeRTOSConfig.h:68`), as `osKernelGetTickFreq` returns it. -/
def kernelTickFreq : Nat := 1000

/-- `RS422_COMM_TIMEOUT_MS` (`main.c:71`). -/
def rs422CommTimeoutMs : UInt32 := 1500
/-- `DIAG_TIMESTAMP_NOT_CAPTURED_MS` (`main.c:81`), which is `UINT32_MAX`. -/
def diagTimestampNotCapturedMs : UInt32 := 0xFFFFFFFF

/-- `rs422_ms_to_kernel_ticks` (`main.c:2155-2167`). -/
def rs422MsToKernelTicks (timeMs : UInt32) : UInt32 :=
  let ticks := UInt32.ofNat ((timeMs.toNat * kernelTickFreq + 999) / 1000)
  if ticks = 0 then 1 else ticks

/-- `rs422_kernel_ticks_to_ms` (`main.c:2169-2179`). -/
def rs422KernelTicksToMs (ticks : UInt32) : UInt32 :=
  if kernelTickFreq = 0 then diagTimestampNotCapturedMs
  else UInt32.ofNat (ticks.toNat * 1000 / kernelTickFreq)

/-- `comm_timeout_ticks` of HealthTask (`main.c:3964-3965`). -/
def commTimeoutTicks : UInt32 := rs422MsToKernelTicks rs422CommTimeoutMs

/-- `rs422_comm_state_t` (`main.c:43-48`). -/
inductive CommState where
  | init
  | ok
  | timeout
  deriving DecidableEq, Repr

/-- The `g_rs422_diag_*` variables of the communication state (`main.c:251-265`). -/
structure CommDiag where
  lastValidFrameMs : UInt32
  timeoutTransitionMs : UInt32
  recoveryFirstValidMs : UInt32
  recoveryCommOkMs : UInt32
  faultDetectionMs : UInt32
  recoveryMs : UInt32
  timeoutTransitionTick : UInt32
  recoveryFirstValidTick : UInt32
  recoveryCommOkTick : UInt32
  deriving DecidableEq

/-- The variables HealthTask shares with RS422Task (`main.c:246-250`). -/
structure CommVars where
  lastValidFrameTick : UInt32
  hasValidFrame : Bool
  commState : CommState
  commTimeoutCount : UInt32
  commRecoveryCount : UInt32
  diag : CommDiag
  deriving DecidableEq

/-- The variables as `StartRS422Task` leaves them (`main.c:3269-3279`). -/
def CommVars.initial : CommVars where
  lastValidFrameTick := 0
  hasValidFrame := false
  commState := .init
  commTimeoutCount := 0
  commRecoveryCount := 0
  diag :=
    ⟨diagTimestampNotCapturedMs, diagTimestampNotCapturedMs, diagTimestampNotCapturedMs,
      diagTimestampNotCapturedMs, diagTimestampNotCapturedMs, diagTimestampNotCapturedMs,
      0xFFFFFFFF, 0xFFFFFFFF, 0xFFFFFFFF⟩

/-- `rs422_diag_record_timeout_transition` (`main.c:2181-2207`). -/
def rs422DiagRecordTimeoutTransition (diag : CommDiag) (timeoutTick : UInt32)
    (hasValidFrame : Bool) (lastValidFrameTick : UInt32) : CommDiag :=
  { diag with
    timeoutTransitionTick := timeoutTick
    timeoutTransitionMs := rs422KernelTicksToMs timeoutTick
    faultDetectionMs :=
      if hasValidFrame then rs422KernelTicksToMs (timeoutTick - lastValidFrameTick)
      else diagTimestampNotCapturedMs
    recoveryFirstValidTick := 0xFFFFFFFF
    recoveryCommOkTick := 0xFFFFFFFF
    recoveryFirstValidMs := diagTimestampNotCapturedMs
    recoveryCommOkMs := diagTimestampNotCapturedMs
    recoveryMs := diagTimestampNotCapturedMs }

/-! ## HealthTask, access by access -/

/-- Where HealthTask stands: each value is the access it makes next. -/
inductive HealthPc where
  /-- `osKernelGetTickCount` for `health_start_tick`. -/
  | start
  /-- The first writes of the state and its counters (`main.c:3969-3971`). -/
  | initialise
  /-- `osDelayUntil`. -/
  | delay
  /-- `osKernelGetTickCount` for `current_tick` (`main.c:3979`). -/
  | readTick
  /-- The read of `g_rs422_has_valid_frame` (`main.c:3980`). -/
  | readHasValid
  /-- The read of `g_rs422_last_valid_frame_tick` (`main.c:3981-3982`). -/
  | readLastTick
  /-- The comparison and the reads of `g_rs422_comm_state` in the branch it takes. -/
  | decide
  /-- `rs422_diag_record_timeout_transition`. -/
  | recordTimeout
  /-- `g_rs422_comm_timeout_count++`. -/
  | countTimeout
  /-- `g_rs422_comm_state = COMM_TIMEOUT`. -/
  | enterTimeout
  /-- The writes of the recovery times (`main.c:4003-4016`). -/
  | recordRecovery
  /-- `g_rs422_comm_recovery_count++`. -/
  | countRecovery
  /-- `g_rs422_comm_state = COMM_OK`. -/
  | enterOk
  deriving DecidableEq, Repr

/-- HealthTask: its place and its local variables. -/
structure HealthTask where
  pc : HealthPc
  healthStartTick : UInt32
  currentTick : UInt32
  hasValidFrame : Bool
  lastValidFrameTick : UInt32
  deriving DecidableEq

def HealthTask.initial : HealthTask := ⟨.start, 0, 0, false, 0⟩

/-- The values read make the iteration decide on COMM_TIMEOUT (`main.c:3986-3987`,
    `4025-4026`). -/
def HealthTask.decidesTimeout (t : HealthTask) : Prop :=
  if t.hasValidFrame then commTimeoutTicks ≤ t.currentTick - t.lastValidFrameTick
  else commTimeoutTicks ≤ t.currentTick - t.healthStartTick

instance (t : HealthTask) : Decidable t.decidesTimeout :=
  inferInstanceAs (Decidable (if t.hasValidFrame then
    commTimeoutTicks ≤ t.currentTick - t.lastValidFrameTick
  else commTimeoutTicks ≤ t.currentTick - t.healthStartTick))

/-- What follows the reads of an iteration (`main.c:3984-4037`). -/
def HealthTask.branch (t : HealthTask) (commState : CommState) : HealthPc :=
  if t.decidesTimeout then if commState ≠ .timeout then .recordTimeout else .delay
  else if t.hasValidFrame then
    if commState ≠ .ok then
      if commState = .timeout then .recordRecovery else .enterOk
    else .delay
  else .delay

/-- The next access of HealthTask, at kernel tick `tick`. -/
def healthTaskStep (tick : UInt32) (v : CommVars) (t : HealthTask) : CommVars × HealthTask :=
  match t.pc with
  | .start => (v, { t with pc := .initialise, healthStartTick := tick })
  | .initialise =>
      ({ v with commState := .init, commTimeoutCount := 0, commRecoveryCount := 0 },
        { t with pc := .delay })
  | .delay => (v, { t with pc := .readTick })
  | .readTick => (v, { t with pc := .readHasValid, currentTick := tick })
  | .readHasValid => (v, { t with pc := .readLastTick, hasValidFrame := v.hasValidFrame })
  | .readLastTick => (v, { t with pc := .decide, lastValidFrameTick := v.lastValidFrameTick })
  | .decide => (v, { t with pc := t.branch v.commState })
  | .recordTimeout =>
      ({ v with
          diag := rs422DiagRecordTimeoutTransition v.diag t.currentTick t.hasValidFrame
            t.lastValidFrameTick },
        { t with pc := .countTimeout })
  | .countTimeout =>
      ({ v with commTimeoutCount := v.commTimeoutCount + 1 }, { t with pc := .enterTimeout })
  | .enterTimeout => ({ v with commState := .timeout }, { t with pc := .delay })
  | .recordRecovery =>
      ({ v with
          diag :=
            { v.diag with
              recoveryCommOkTick := t.currentTick
              recoveryCommOkMs := rs422KernelTicksToMs t.currentTick
              recoveryMs :=
                if v.diag.recoveryFirstValidTick ≠ 0xFFFFFFFF then
                  rs422KernelTicksToMs (t.currentTick - v.diag.recoveryFirstValidTick)
                else diagTimestampNotCapturedMs } },
        { t with pc := .countRecovery })
  | .countRecovery =>
      ({ v with commRecoveryCount := v.commRecoveryCount + 1 }, { t with pc := .enterOk })
  | .enterOk => ({ v with commState := .ok }, { t with pc := .delay })

/-! ## Recording a valid frame -/

/-- Where RS422Task stands while it records a frame. -/
inductive RecordPc where
  /-- Not recording. -/
  | idle
  /-- Before the write of `g_rs422_last_valid_frame_tick` (`main.c:2397-2399`). -/
  | writeTick
  /-- Before the writes of the first valid frame of a recovery (`main.c:2401-2407`). -/
  | writeRecovery
  /-- Before the write of `g_rs422_has_valid_frame` (`main.c:2410`). -/
  | writeHasValid
  deriving DecidableEq, Repr

/-- RS422Task while it records a frame, with `previous_comm_state` and `valid_frame_tick`. -/
structure Recorder where
  pc : RecordPc
  previousCommState : CommState
  validFrameTick : UInt32
  deriving DecidableEq

def Recorder.initial : Recorder := ⟨.idle, .init, 0⟩

/-- The next access of RS422Task for a valid frame, at kernel tick `tick`. -/
def recordStep (tick : UInt32) (v : CommVars) (r : Recorder) : CommVars × Recorder :=
  match r.pc with
  | .idle => (v, ⟨.writeTick, v.commState, tick⟩)
  | .writeTick =>
      ({ v with
          lastValidFrameTick := r.validFrameTick
          diag :=
            { v.diag with lastValidFrameMs := rs422KernelTicksToMs r.validFrameTick } },
        { r with pc := .writeRecovery })
  | .writeRecovery =>
      ({ v with
          diag :=
            if r.previousCommState = .timeout ∧ v.diag.recoveryFirstValidTick = 0xFFFFFFFF then
              { v.diag with
                recoveryFirstValidTick := r.validFrameTick
                recoveryFirstValidMs := rs422KernelTicksToMs r.validFrameTick }
            else v.diag },
        { r with pc := .writeHasValid })
  | .writeHasValid => ({ v with hasValidFrame := true }, { r with pc := .idle })

/-! ## The two tasks and the tick interrupt -/

/-- The state of the two tasks and the kernel tick. `now` counts the ticks since the scheduler was
    started without wrapping; the kernel's 32-bit count is `HealthState.tick`. The last three
    fields are history that the code does not have: the times of the frames recorded so far, newest
    first, and these and the time at the deciding read of the current iteration. -/
structure HealthState where
  now : Nat
  vars : CommVars
  health : HealthTask
  recorder : Recorder
  records : List Nat
  decidingAt : Nat
  decidingRecords : List Nat
  deriving DecidableEq

/-- `osKernelGetTickCount`. -/
def HealthState.tick (s : HealthState) : UInt32 := UInt32.ofNat s.now

/-- The scheduler has started and RS422Task has blocked for the first time. -/
def HealthState.initial : HealthState :=
  ⟨0, .initial, .initial, .initial, [], 0, []⟩

/-- What can happen next. -/
inductive HealthAction where
  | tick
  | health
  | record
  deriving DecidableEq, Repr

/-- HealthTask's next access is the one its decision rests on. -/
def HealthState.atDecidingRead (s : HealthState) : Prop :=
  s.health.pc = .readHasValid ∧ s.vars.hasValidFrame = false ∨
    s.health.pc = .readLastTick ∧ s.health.hasValidFrame = true

instance (s : HealthState) : Decidable s.atDecidingRead :=
  inferInstanceAs (Decidable (_ ∨ _))

/-- One step of the system. -/
def HealthState.step (s : HealthState) : HealthAction → Option HealthState
  | .tick => some { s with now := s.now + 1 }
  | .health =>
      if s.recorder.pc = .idle then
        let (vars, health) := healthTaskStep s.tick s.vars s.health
        some
          { s with
            vars := vars
            health := health
            decidingAt := if s.atDecidingRead then s.now else s.decidingAt
            decidingRecords := if s.atDecidingRead then s.records else s.decidingRecords }
      else none
  | .record =>
      let (vars, recorder) := recordStep s.tick s.vars s.recorder
      some
        { s with
          vars := vars
          recorder := recorder
          records := if s.recorder.pc = .idle then s.now :: s.records else s.records }

end Rs422Gateway
