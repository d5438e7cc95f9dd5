import Rs422Gateway.Gateway.Health

/-!
# The Ethernet recovery measurement

Rendering of `ethernet_diag_initialize .. ethernet_diag_record_udp_tx_success` (`main.c:2209-2346`).
EthernetTask makes all the calls, so that none comes between the accesses of another. Beside the
code stands the report of a recovery cycle as it is read off the calls made so far.
-/

namespace Rs422Gateway

/-- What `ethernet_diag_record_tcp_service_ready`, `ethernet_diag_record_tcp_pong_tx_success` and
    `ethernet_diag_record_udp_tx_success` record. -/
inductive Milestone where
  | tcpServiceReady
  | tcpPongTxSuccess
  | udpTxSuccess
  deriving DecidableEq, Repr

/-- The three variables of a milestone: `g_eth_diag_*_tick`, `g_eth_diag_*_ms` and
    `g_eth_diag_linkup_to_*_ms` (`main.c:323-334`, `main.c:338-341`). -/
structure MilestoneDiag where
  tick : UInt32
  ms : UInt32
  linkupToMs : UInt32
  deriving DecidableEq

def MilestoneDiag.notCaptured : MilestoneDiag :=
  ⟨0xFFFFFFFF, diagTimestampNotCapturedMs, diagTimestampNotCapturedMs⟩

/-- The `g_eth_diag_*` variables of the recovery measurement (`main.c:319-341`). -/
@[ext] structure EthernetDiag where
  recoveryCycleActive : Bool
  linkDownTick : UInt32
  linkUpTick : UInt32
  linkDownObservedMs : UInt32
  linkUpObservedMs : UInt32
  milestones : Milestone → MilestoneDiag

/-- `ethernet_diag_initialize` (`main.c:2209-2228`). -/
def ethernetDiagInitialize : EthernetDiag where
  recoveryCycleActive := false
  linkDownTick := 0xFFFFFFFF
  linkUpTick := 0xFFFFFFFF
  linkDownObservedMs := diagTimestampNotCapturedMs
  linkUpObservedMs := diagTimestampNotCapturedMs
  milestones := fun _ => .notCaptured

/-- `ethernet_diag_arm_recovery` (`main.c:2230-2255`). -/
def ethernetDiagArmRecovery (linkDownTick : UInt32) : EthernetDiag where
  recoveryCycleActive := true
  linkDownTick := linkDownTick
  linkUpTick := 0xFFFFFFFF
  linkDownObservedMs := rs422KernelTicksToMs linkDownTick
  linkUpObservedMs := diagTimestampNotCapturedMs
  milestones := fun _ => .notCaptured

/-- `ethernet_diag_record_link_up` (`main.c:2257-2269`). -/
def ethernetDiagRecordLinkUp (d : EthernetDiag) (linkUpTick : UInt32) : EthernetDiag :=
  if d.recoveryCycleActive = false ∨ d.linkUpTick ≠ 0xFFFFFFFF then d
  else { d with linkUpObservedMs := rs422KernelTicksToMs linkUpTick, linkUpTick := linkUpTick }

/-- `ethernet_diag_finish_if_complete` (`main.c:2271-2280`). -/
def ethernetDiagFinishIfComplete (d : EthernetDiag) : EthernetDiag :=
  if (d.milestones .tcpServiceReady).tick ≠ 0xFFFFFFFF ∧
      (d.milestones .tcpPongTxSuccess).tick ≠ 0xFFFFFFFF ∧
      (d.milestones .udpTxSuccess).tick ≠ 0xFFFFFFFF then
    { d with recoveryCycleActive := false }
  else d

/-- The body that the three functions below share. `osKernelGetTickCount` returns `now`. -/
def ethernetDiagRecord (m : Milestone) (d : EthernetDiag) (now : UInt32) : EthernetDiag :=
  if d.recoveryCycleActive = false ∨ d.linkUpTick = 0xFFFFFFFF ∨
      (d.milestones m).tick ≠ 0xFFFFFFFF then d
  else
    ethernetDiagFinishIfComplete
      { d with
        milestones :=
          Function.update d.milestones m
            ⟨now, rs422KernelTicksToMs now, rs422KernelTicksToMs (now - d.linkUpTick)⟩ }

/-- `ethernet_diag_record_tcp_service_ready` (`main.c:2282-2302`). -/
def ethernetDiagRecordTcpServiceReady : EthernetDiag → UInt32 → EthernetDiag :=
  ethernetDiagRecord .tcpServiceReady

/-- `ethernet_diag_record_tcp_pong_tx_success` (`main.c:2304-2324`). -/
def ethernetDiagRecordTcpPongTxSuccess : EthernetDiag → UInt32 → EthernetDiag :=
  ethernetDiagRecord .tcpPongTxSuccess

/-- `ethernet_diag_record_udp_tx_success` (`main.c:2326-2346`). -/
def ethernetDiagRecordUdpTxSuccess : EthernetDiag → UInt32 → EthernetDiag :=
  ethernetDiagRecord .udpTxSuccess

/-- A call, with the tick that it is given or that it reads. -/
inductive EthernetDiagCall where
  | armRecovery (linkDownTick : UInt32)
  | recordLinkUp (linkUpTick : UInt32)
  | recordTcpServiceReady (now : UInt32)
  | recordTcpPongTxSuccess (now : UInt32)
  | recordUdpTxSuccess (now : UInt32)
  deriving DecidableEq, Repr

def EthernetDiag.call (d : EthernetDiag) : EthernetDiagCall → EthernetDiag
  | .armRecovery linkDownTick => ethernetDiagArmRecovery linkDownTick
  | .recordLinkUp linkUpTick => ethernetDiagRecordLinkUp d linkUpTick
  | .recordTcpServiceReady now => ethernetDiagRecordTcpServiceReady d now
  | .recordTcpPongTxSuccess now => ethernetDiagRecordTcpPongTxSuccess d now
  | .recordUdpTxSuccess now => ethernetDiagRecordUdpTxSuccess d now

/-! ## The report of a recovery cycle -/

namespace EthernetDiagCall

/-- The tick of a link-up. -/
def linkUp? : EthernetDiagCall → Option UInt32
  | recordLinkUp linkUpTick => some linkUpTick
  | _ => none

/-- The milestone of a call, and when it is. -/
def milestone? : EthernetDiagCall → Option (Milestone × UInt32)
  | recordTcpServiceReady now => some (.tcpServiceReady, now)
  | recordTcpPongTxSuccess now => some (.tcpPongTxSuccess, now)
  | recordUdpTxSuccess now => some (.udpTxSuccess, now)
  | _ => none

/-- When the call is an occurrence of the milestone. -/
def occurrence? (m : Milestone) (c : EthernetDiagCall) : Option UInt32 :=
  c.milestone?.bind fun (m', now) => if m' = m then some now else none

end EthernetDiagCall

/-- An armed cycle: the tick of the link-down that armed it, and the calls since then. -/
structure RecoveryCycle where
  linkDownTick : UInt32
  calls : List EthernetDiagCall

namespace RecoveryCycle

def push (cycle : RecoveryCycle) (c : EthernetDiagCall) : RecoveryCycle :=
  { cycle with calls := cycle.calls ++ [c] }

def extend (cycle : Option RecoveryCycle) (c : EthernetDiagCall) : Option RecoveryCycle :=
  match c with
  | .armRecovery linkDownTick => some ⟨linkDownTick, []⟩
  | c => cycle.map fun cycle => cycle.push c

/-- The cycle that the latest arming of the calls began. -/
def current (calls : List EthernetDiagCall) : Option RecoveryCycle := calls.foldl extend none

def firstLinkUp (cycle : RecoveryCycle) : Option UInt32 :=
  cycle.calls.findSome? EthernetDiagCall.linkUp?

/-- The calls from the first link-up on. -/
def sinceLinkUp (cycle : RecoveryCycle) : List EthernetDiagCall :=
  cycle.calls.dropWhile fun c => c.linkUp?.isNone

/-- The first occurrence of the milestone after the first link-up. -/
def firstOccurrence (cycle : RecoveryCycle) (m : Milestone) : Option UInt32 :=
  cycle.sinceLinkUp.findSome? (EthernetDiagCall.occurrence? m)

def Complete (cycle : RecoveryCycle) : Prop :=
  cycle.firstOccurrence .tcpServiceReady ≠ none ∧ cycle.firstOccurrence .tcpPongTxSuccess ≠ none ∧
    cycle.firstOccurrence .udpTxSuccess ≠ none

instance (cycle : RecoveryCycle) : Decidable cycle.Complete := inferInstanceAs (Decidable (_ ∧ _))

/-- A milestone in the report: its first occurrence after the first link-up, and how long after. -/
def milestone (cycle : RecoveryCycle) (m : Milestone) : MilestoneDiag :=
  match cycle.firstLinkUp, cycle.firstOccurrence m with
  | some up, some now => ⟨now, rs422KernelTicksToMs now, rs422KernelTicksToMs (now - up)⟩
  | _, _ => .notCaptured

/-- What the variables are to hold in a cycle. -/
def report (cycle : RecoveryCycle) : EthernetDiag where
  recoveryCycleActive := !decide cycle.Complete
  linkDownTick := cycle.linkDownTick
  linkUpTick := cycle.firstLinkUp.getD 0xFFFFFFFF
  linkDownObservedMs := rs422KernelTicksToMs cycle.linkDownTick
  linkUpObservedMs := cycle.firstLinkUp.elim diagTimestampNotCapturedMs rs422KernelTicksToMs
  milestones := cycle.milestone

/-- What the variables are to hold after the calls. -/
def expected (calls : List EthernetDiagCall) : EthernetDiag :=
  (current calls).elim ethernetDiagInitialize report

/-- The tick that the next call is to capture in a cycle: that of a first link-up, or of the first
    occurrence of a milestone after it. -/
def captures (cycle : RecoveryCycle) (c : EthernetDiagCall) : Option UInt32 :=
  match cycle.firstLinkUp with
  | none => c.linkUp?
  | some _ =>
      c.milestone?.bind fun (m, now) => if cycle.firstOccurrence m = none then some now else none

end RecoveryCycle

/-! ## Runs -/

/-- The variables, and the calls made so far. -/
structure EthernetDiagTrace where
  diag : EthernetDiag
  calls : List EthernetDiagCall

namespace EthernetDiagTrace

def initial : EthernetDiagTrace := ⟨ethernetDiagInitialize, []⟩

def step (s : EthernetDiagTrace) (c : EthernetDiagCall) : Option EthernetDiagTrace :=
  some ⟨s.diag.call c, s.calls ++ [c]⟩

/-- The call captures no tick that is `UINT32_MAX`, which the variables use for "not captured". -/
def CapturesTick (s : EthernetDiagTrace) (c : EthernetDiagCall) : Prop :=
  ((RecoveryCycle.current s.calls).bind fun cycle => cycle.captures c) ≠ some 0xFFFFFFFF

instance (s : EthernetDiagTrace) (c : EthernetDiagCall) : Decidable (s.CapturesTick c) :=
  inferInstanceAs (Decidable (_ ≠ _))

/-- The variables hold the report of the current cycle. -/
def Reports (s : EthernetDiagTrace) : Prop := s.diag = RecoveryCycle.expected s.calls

end EthernetDiagTrace

end Rs422Gateway
