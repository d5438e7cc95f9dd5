import Rs422Gateway.Gateway.Health

/-!
# The iterations of HealthTask

HealthTask and RS422Task as in `Health.lean`, with the times at which the values an iteration works
with were sampled or recorded. Here the two tasks take their accesses in any order, whatever their
priorities.
-/

namespace Rs422Gateway

/-- The state of the two tasks and the kernel tick, with `now` as in `HealthState`. The last six
    fields are history: when HealthTask started, when it sampled `current_tick`, when RS422Task
    sampled the `valid_frame_tick` it is recording, when the one it recorded last was sampled, which
    of these HealthTask has read, and whether an iteration has begun. -/
structure HealthTrace where
  now : Nat
  vars : CommVars
  health : HealthTask
  recorder : Recorder
  startedAt : Nat
  sampledAt : Nat
  recordingAt : Nat
  recordedAt : Nat
  readAt : Nat
  iterated : Bool
  deriving DecidableEq

namespace HealthTrace

/-- `osKernelGetTickCount`. -/
def tick (s : HealthTrace) : UInt32 := UInt32.ofNat s.now

/-- The scheduler has started and RS422Task has initialised its variables, at any time. -/
def initial (now : Nat) : HealthTrace where
  now := now
  vars := .initial
  health := .initial
  recorder := .initial
  startedAt := 0
  sampledAt := 0
  recordingAt := 0
  recordedAt := 0
  readAt := 0
  iterated := false

/-- One step of the system. -/
def step (s : HealthTrace) : HealthAction → Option HealthTrace
  | .tick => some { s with now := s.now + 1 }
  | .health =>
      let (vars, health) := healthTaskStep s.tick s.vars s.health
      some
        { s with
          vars := vars
          health := health
          startedAt := if s.health.pc = .start then s.now else s.startedAt
          sampledAt := if s.health.pc = .readTick then s.now else s.sampledAt
          readAt := if s.health.pc = .readLastTick then s.recordedAt else s.readAt
          iterated := s.iterated || s.health.pc == .readTick }
  | .record =>
      let (vars, recorder) := recordStep s.tick s.vars s.recorder
      some
        { s with
          vars := vars
          recorder := recorder
          recordingAt := if s.recorder.pc = .idle then s.now else s.recordingAt
          recordedAt := if s.recorder.pc = .writeTick then s.recordingAt else s.recordedAt }

/-- HealthTask is at the end of an iteration. -/
def IterationEnded (s : HealthTrace) : Prop := s.health.pc = .delay ∧ s.iterated = true

end HealthTrace

end Rs422Gateway
