import Rs422Gateway.Gateway.TcpServer

/-!
# The deadlines of EthernetTask

The loop of `StartEthernetTask` (`main.c:3489-3937`) as far as its two periodic services go: the
tests whether they are due, the do/while loops that move their deadlines, and the ticks to wait. The
periods are parameters. What the services do in between is left out; it takes any number of ticks,
as do the waits, within the bound on an iteration (`DeadlineTask.Within`).
-/

namespace Rs422Gateway

/-- A period of 1 to 2^30 kernel ticks. -/
structure Period where
  ticks : UInt32
  pos : 0 < ticks.toNat
  le : ticks.toNat ≤ 2 ^ 30

/-- The periods of the two services. -/
structure Periods where
  phy : Period
  data : Period

/-- The periods of the firmware (`main.c:3463-3466`). -/
def Periods.firmware : Periods where
  phy := ⟨phyPeriodTicks, by decide, by decide⟩
  data := ⟨dataServicePeriodTicks, by decide, by decide⟩

/-- The deadline of a service. The last two fields are history: the deadline without wrapping, and
    the slots that have been served, newest first. -/
structure Deadline where
  tick : UInt32
  ideal : Nat
  served : List Nat

namespace Deadline

/-- A service is found due: its slot is served. -/
def serve (d : Deadline) : Deadline := { d with served := d.ideal :: d.served }

/-- `next_..._tick += period`. -/
def advance (d : Deadline) (period : Period) : Deadline :=
  { d with tick := d.tick + period.ticks, ideal := d.ideal + period.ticks.toNat }

end Deadline

/-- Where EthernetTask stands. -/
inductive DeadlinePlace where
  /-- `osKernelGetTickCount` for `current_tick` (`main.c:3504`). -/
  | top
  /-- In the control service, before `deadline_now` (`main.c:3744`). -/
  | controlService
  /-- In the loop for `next_phy_tick`, with `deadline_now`. -/
  | phyCatchUp (deadlineNow : UInt32)
  /-- In the data service, before `deadline_now` (`main.c:3914`). -/
  | dataService
  /-- In the loop for `next_data_service_tick`, with `deadline_now`. -/
  | dataCatchUp (deadlineNow : UInt32)
  /-- `osKernelGetTickCount` for `wait_start_tick` (`main.c:3922`). -/
  | computeWait
  /-- In `osThreadFlagsWait`, with `wait_ticks`. -/
  | wait (waitTicks : UInt32)
  deriving DecidableEq, Repr

/-- `(int32_t)(deadline - now) > 0`. -/
def tickAhead (deadline now : UInt32) : Bool :=
  decide (deadline ≠ now ∧ (deadline - now).toNat < 2 ^ 31)

/-- `wait_ticks` (`main.c:3922-3932`). -/
def waitTicks (nextDataServiceTick nextPhyTick waitStartTick : UInt32) : UInt32 :=
  let dataWait := nextDataServiceTick - waitStartTick
  let phyWait := nextPhyTick - waitStartTick
  if tickAhead nextDataServiceTick waitStartTick ∧ tickAhead nextPhyTick waitStartTick then
    if dataWait < phyWait then dataWait else phyWait
  else 0

/-- EthernetTask and the kernel tick. `now` counts the ticks without wrapping; the kernel's 32-bit
    count is `DeadlineTask.tick`. The last three fields are history: when the iteration began, when
    `deadline_now` was read and when `wait_start_tick` was. -/
structure DeadlineTask where
  now : Nat
  place : DeadlinePlace
  phy : Deadline
  data : Deadline
  dataServiceDue : Bool
  iterationStart : Nat
  deadlineNow : Nat
  waitStart : Nat

/-- What can happen next. -/
inductive DeadlineAction where
  | tick
  | code
  deriving DecidableEq, Repr

namespace DeadlineTask

/-- `osKernelGetTickCount`. -/
def tick (s : DeadlineTask) : UInt32 := UInt32.ofNat s.now

/-- The deadlines have been set to the current tick (`main.c:3489-3490`). -/
def initial (start : Nat) : DeadlineTask where
  now := start
  place := .top
  phy := ⟨UInt32.ofNat start, start, []⟩
  data := ⟨UInt32.ofNat start, start, []⟩
  dataServiceDue := false
  iterationStart := start
  deadlineNow := 0
  waitStart := 0

/-- Behind the control service. -/
def afterControl (s : DeadlineTask) : DeadlineTask :=
  { s with place := if s.dataServiceDue then .dataService else .computeWait }

/-- The next piece of EthernetTask. -/
def code (periods : Periods) (s : DeadlineTask) : DeadlineTask :=
  match s.place with
  | .top =>
      let controlServiceDue := tickReached s.tick s.phy.tick
      let dataServiceDue := tickReached s.tick s.data.tick
      let s :=
        { s with
          phy := if controlServiceDue then s.phy.serve else s.phy
          data := if dataServiceDue then s.data.serve else s.data
          dataServiceDue := dataServiceDue
          iterationStart := s.now }
      if controlServiceDue then { s with place := .controlService } else s.afterControl
  | .controlService => { s with place := .phyCatchUp s.tick, deadlineNow := s.now }
  | .phyCatchUp deadlineNow =>
      let s := { s with phy := s.phy.advance periods.phy }
      if tickReached deadlineNow s.phy.tick then s else s.afterControl
  | .dataService => { s with place := .dataCatchUp s.tick, deadlineNow := s.now }
  | .dataCatchUp deadlineNow =>
      let s := { s with data := s.data.advance periods.data }
      if tickReached deadlineNow s.data.tick then s else { s with place := .computeWait }
  | .computeWait =>
      { s with place := .wait (waitTicks s.data.tick s.phy.tick s.tick), waitStart := s.now }
  | .wait _ => { s with place := .top }

/-- One step of the system. -/
def step (periods : Periods) (s : DeadlineTask) : DeadlineAction → Option DeadlineTask
  | .tick => some { s with now := s.now + 1 }
  | .code => some (s.code periods)

/-- An iteration lasts fewer than 2^30 ticks. -/
def Within (s : DeadlineTask) (a : DeadlineAction) : Prop :=
  a = .tick → s.now + 1 < s.iterationStart + 2 ^ 30

instance (s : DeadlineTask) (a : DeadlineAction) : Decidable (s.Within a) :=
  inferInstanceAs (Decidable (_ → _))

end DeadlineTask

end Rs422Gateway
