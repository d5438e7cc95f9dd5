import Rs422Gateway.Gateway.Proofs.ServerMoves
import Rs422Gateway.Misc.Samples
import Rs422Gateway.Misc.Transition

/-!
# Link losses and recoveries

The counters of EthernetTask are those of the PHY samples and of the restarts behind a link loss,
and a recovery stays pending until one of these restarts has gone through CLOSE, OPEN and LISTEN.
-/

namespace Rs422Gateway

open Transition Samples

/-! ## Progress of a restart -/

/-- How much of `completeRestart` comes before the command of the function. -/
def ServerFunction.done : ServerFunction → Nat
  | .restart => 0
  | .start => 2
  | .listen => 4

/-- Whose call EthernetTask is in. -/
def TcpServerPc.caller? : TcpServerPc → Option ServerCaller
  | .writeMode caller | .writePort caller | .writeCommand (.server _ caller)
  | .pollCommand (.server _ caller) _ | .pollStatus _ caller _ | .returned caller _ => some caller
  | _ => none

theorem take_accepted (function : ServerFunction) :
    completeRestart.take (function.done + 1) =
      completeRestart.take function.done ++ [.accepted function.command] := by
  cases function <;> rfl

theorem take_reached (function : ServerFunction) :
    completeRestart.take (function.done + 2) =
      completeRestart.take (function.done + 1) ++ [.reached function.expectedStatus] := by
  cases function <;> rfl

namespace TcpServer

variable {s s' : TcpServer}

/-- A call of the three functions, with the events of a complete restart that are behind it. -/
def Calls (s : TcpServer) (caller : ServerCaller) (done : Nat) : Prop :=
  if caller = .recovery then
    s.tcpRecoveryPending = true ∧ s.linkUp = true ∧ completeRestart.take done <:+ s.log
  else s.tcpRecoveryPending = false

/-- What holds at each access about the flags that report the server. -/
def Reports (s : TcpServer) : TcpServerPc → Prop
  | .boot => s.tcpRecoveryPending = false
  | .writeMode caller | .writePort caller => s.Calls caller 2 ∧ s.tcpListenOk = false
  | .writeCommand (.server function caller) | .pollCommand (.server function caller) _ =>
      s.Calls caller function.done ∧ s.tcpListenOk = false
  | .pollStatus function caller _ => s.Calls caller (function.done + 1) ∧ s.tcpListenOk = false
  | .returned caller status =>
      s.Calls caller (if status = .ok then 6 else 0) ∧ (status ≠ .ok → s.tcpListenOk = false)
  | _ => s.tcpRecoveryPending = true → s.tcpListenOk = false

/-- How far the PHY samples and the restarts behind a link loss have brought the variables. -/
structure Tracks (s : TcpServer) : Prop where
  linkUp : s.linkUp = true ↔ s.samples.head? = some true
  initialized : s.phyLinkStateInitialized = false ↔ s.samples = []
  wasEstablished : s.phyLinkWasEstablished = true ↔ true ∈ s.samples
  previous : s.previousLinkUp = s.linkUp
  downs : s.linkDownCount = UInt32.ofNat (falls s.samples)
  ups : s.linkRecoveryCount = UInt32.ofNat (returns s.samples)
  once : s.tcpRecoveryPending = true → true ∈ s.samples
  lost : Lost s.samples → s.tcpRecoveryPending = true
  successes : s.tcpRecoverySuccessCount = UInt32.ofNat (s.recoveries.countP (· = .ok))
  fails : s.tcpRecoveryFailCount = UInt32.ofNat (s.recoveries.countP (¬ · = .ok))
  bounded : s.recoveries.countP (· = .ok) +
    (if s.tcpRecoveryPending = true ∧ s.linkUp = true then 1 else 0) ≤ returns s.samples
  restarted : 0 < falls s.samples → s.tcpRecoveryPending = false → completeRestart <:+: s.log

/-- The attempts are those that have ended and the one that is running. -/
def Attempts (s : TcpServer) : Prop :=
  s.tcpRecoveryAttemptCount =
    UInt32.ofNat (s.recoveries.length + if s.pc.caller? = some .recovery then 1 else 0)

/-- What holds at every access. -/
structure Recovering (s : TcpServer) : Prop where
  tracks : s.Tracks
  attempts : s.Attempts
  reports : s.Reports s.pc

theorem ofNat_succ (n : Nat) : UInt32.ofNat n + 1 = UInt32.ofNat (n + 1) := by
  rw [UInt32.ofNat_add]
  rfl

/-! ## PHY samples -/

theorem Tracks.samples_ne_nil (h : s.Tracks) (initialized : s.phyLinkStateInitialized = true) :
    s.samples ≠ [] := by
  intro hnil
  exact absurd (initialized.symm.trans (h.initialized.mpr hnil)) nofun

/-- The samples as far as `previous_link_up` remembers them. -/
theorem Tracks.head (h : s.Tracks) (initialized : s.phyLinkStateInitialized = true) :
    s.samples.head? = some s.previousLinkUp := by
  have hhead := h.linkUp
  rw [← h.previous] at hhead
  cases hsamples : s.samples with
  | nil => exact absurd hsamples (h.samples_ne_nil initialized)
  | cons up older =>
    rw [hsamples, List.head?_cons, Option.some_inj] at hhead
    cases up with
    | true => rw [hhead.mpr rfl]; rfl
    | false =>
      cases hprevious : s.previousLinkUp with
      | false => rfl
      | true => exact absurd (hhead.mp hprevious) nofun

/-- The first sample. -/
theorem Tracks.first (h : s.Tracks) (initialized : s.phyLinkStateInitialized = false) (up : Bool) :
    ({ s with
      linkUp := up
      samples := up :: s.samples
      phyLinkStateInitialized := true
      previousLinkUp := up
      phyLinkWasEstablished := s.phyLinkWasEstablished || up } : TcpServer).Tracks := by
  have hnil := h.initialized.mp initialized
  have hwas : s.phyLinkWasEstablished = false := by
    cases hwas : s.phyLinkWasEstablished with
    | false => rfl
    | true =>
      have hmem := h.wasEstablished.mp hwas
      rw [hnil] at hmem
      cases hmem
  have hpending : s.tcpRecoveryPending = false := by
    cases hpending : s.tcpRecoveryPending with
    | false => rfl
    | true =>
      have hmem := h.once hpending
      rw [hnil] at hmem
      cases hmem
  have hbounded := h.bounded
  have hdowns := h.downs
  have hups := h.ups
  rw [hnil] at hbounded hdowns hups
  refine
    { linkUp := ?_
      initialized := ?_
      wasEstablished := ?_
      previous := rfl
      downs := ?_
      ups := ?_
      once := fun hset => absurd (hset.symm.trans hpending) nofun
      lost := ?_
      successes := h.successes
      fails := h.fails
      bounded := ?_
      restarted := ?_ }
  · simp [hnil]
  · simp
  · simp [hnil, hwas]
  · simpa [hnil, falls] using hdowns
  · simpa [hnil, returns] using hups
  · intro hlost
    cases up <;> simp [Lost, hnil] at hlost
  · simpa [hnil, returns, hpending] using hbounded
  · intro hfalls
    simp [hnil, falls] at hfalls

/-- A sample like the one before. -/
theorem Tracks.same (h : s.Tracks) (initialized : s.phyLinkStateInitialized = true) :
    ({ s with linkUp := s.previousLinkUp, samples := s.previousLinkUp :: s.samples } :
      TcpServer).Tracks := by
  obtain ⟨hfalls, hreturns, hlost, hmem⟩ := Samples.same (h.head initialized)
  have hbounded := h.bounded
  rw [← h.previous] at hbounded
  refine
    { linkUp := by simp
      initialized := by simp [initialized]
      wasEstablished := h.wasEstablished.trans hmem.symm
      previous := rfl
      downs := ?_
      ups := ?_
      once := fun hset => hmem.mpr (h.once hset)
      lost := fun hset => h.lost (hlost.mp hset)
      successes := h.successes
      fails := h.fails
      bounded := ?_
      restarted := ?_ }
  · rw [hfalls]
    exact h.downs
  · rw [hreturns]
    exact h.ups
  · rw [hreturns]
    exact hbounded
  · rw [hfalls]
    exact h.restarted

/-- The link is lost. -/
theorem Tracks.fall (h : s.Tracks) (initialized : s.phyLinkStateInitialized = true)
    (previous : s.previousLinkUp = true) :
    ({ s with
      linkUp := false
      samples := false :: s.samples
      previousLinkUp := false
      log := []
      linkDownCount := s.linkDownCount + 1
      tcpRecoveryPending := true
      tcpLifecycleRestartPending := false
      gracefulDisconnectPending := false
      socketStateInitialized := false } : TcpServer).Tracks := by
  have hhead : s.samples.head? = some true := previous ▸ h.head initialized
  have hmem : true ∈ s.samples := List.mem_of_mem_head? hhead
  obtain ⟨hfalls, hreturns⟩ := Samples.fall hhead
  refine
    { linkUp := by simp
      initialized := by simp [initialized]
      wasEstablished := ?_
      previous := rfl
      downs := ?_
      ups := ?_
      once := fun _ => List.mem_cons_of_mem _ hmem
      lost := fun _ => rfl
      successes := h.successes
      fails := h.fails
      bounded := ?_
      restarted := nofun }
  · exact h.wasEstablished.trans (by simp)
  · rw [hfalls, ← ofNat_succ, ← h.downs]
  · rw [hreturns]
    exact h.ups
  · have hbounded := h.bounded
    rw [hreturns]
    simp only [Bool.false_eq_true, and_false, if_false]
    omega

/-- The link comes up for the first time. -/
theorem Tracks.firstUp (h : s.Tracks) (initialized : s.phyLinkStateInitialized = true)
    (was : s.phyLinkWasEstablished = false) :
    ({ s with
      linkUp := true
      samples := true :: s.samples
      previousLinkUp := true
      log := []
      phyLinkWasEstablished := true
      nextTcpRestartTick := s.now } : TcpServer).Tracks := by
  have hmem : true ∉ s.samples := fun hmem =>
    absurd ((h.wasEstablished.mpr hmem).symm.trans was) nofun
  have hpending : s.tcpRecoveryPending = false := by
    cases hpending : s.tcpRecoveryPending with
    | false => rfl
    | true => exact absurd (h.once hpending) hmem
  obtain ⟨hfalls, hreturns⟩ := never hmem
  have hdowns := h.downs
  have hups := h.ups
  have hbounded := h.bounded
  rw [hfalls] at hdowns
  rw [hreturns] at hups hbounded
  refine
    { linkUp := by simp
      initialized := by simp [initialized]
      wasEstablished := by simp
      previous := rfl
      downs := ?_
      ups := ?_
      once := fun _ => List.mem_cons_self ..
      lost := fun hlost => absurd hlost (not_lost_of_up rfl)
      successes := h.successes
      fails := h.fails
      bounded := ?_
      restarted := ?_ }
  · simpa [falls, hfalls] using hdowns
  · simpa [returns, hreturns, hmem] using hups
  · simpa [returns, hreturns, hmem, hpending] using hbounded
  · intro hpositive
    simp [falls, hfalls] at hpositive

/-- The link comes back. -/
theorem Tracks.return_ (h : s.Tracks) (initialized : s.phyLinkStateInitialized = true)
    (lost : Lost s.samples) :
    ({ s with
      linkUp := true
      samples := true :: s.samples
      previousLinkUp := true
      log := []
      linkRecoveryCount := s.linkRecoveryCount + 1
      nextTcpRestartTick := s.now } : TcpServer).Tracks := by
  have hpending := h.lost lost
  have hdown : s.linkUp = false := by
    cases hup : s.linkUp with
    | false => rfl
    | true => exact absurd lost (not_lost_of_up (h.linkUp.mp hup))
  obtain ⟨hfalls, hreturns⟩ := Samples.return_ lost
  refine
    { linkUp := by simp
      initialized := by simp [initialized]
      wasEstablished := ?_
      previous := rfl
      downs := ?_
      ups := ?_
      once := fun _ => List.mem_cons_self ..
      lost := fun hlost => absurd hlost (not_lost_of_up rfl)
      successes := h.successes
      fails := h.fails
      bounded := ?_
      restarted := fun _ hset => absurd (hpending.symm.trans hset) nofun }
  · exact h.wasEstablished.trans (by simp [lost.2])
  · rw [hfalls]
    exact h.downs
  · rw [hreturns, ← ofNat_succ, ← h.ups]
  · have hbounded := h.bounded
    rw [hreturns]
    simp only [hdown, Bool.false_eq_true, and_false, if_false] at hbounded
    dsimp only
    split <;> omega

theorem samplePhy_tracks (h : s.Tracks) (reports : s.tcpRecoveryPending = true →
    s.tcpListenOk = false) (up : Bool) :
    (s.samplePhy up).Tracks ∧ (s.samplePhy up).recoveries = s.recoveries ∧
      (s.samplePhy up).tcpRecoveryAttemptCount = s.tcpRecoveryAttemptCount ∧
      ((s.samplePhy up).tcpRecoveryPending = true → (s.samplePhy up).tcpListenOk = false) := by
  unfold samplePhy
  dsimp only
  split
  case isTrue hfirst => exact ⟨h.first hfirst up, rfl, rfl, reports⟩
  case isFalse hinitialized =>
    have hinitialized : s.phyLinkStateInitialized = true := by simpa using hinitialized
    split
    case isFalse hsame =>
      have hsame : up = s.previousLinkUp := Decidable.not_not.mp hsame
      subst hsame
      exact ⟨h.same hinitialized, rfl, rfl, reports⟩
    case isTrue hchanged =>
      split
      case isTrue hdown =>
        subst hdown
        have hprevious : s.previousLinkUp = true := by simpa using hchanged.symm
        have hmem : true ∈ s.samples :=
          List.mem_of_mem_head? (hprevious ▸ h.head hinitialized)
        rw [if_pos (h.wasEstablished.mpr hmem)]
        exact ⟨{ h.fall hinitialized hprevious with }, rfl, rfl, fun _ => rfl⟩
      case isFalse hup =>
        have hup : up = true := by simpa using hup
        subst hup
        have hprevious : s.previousLinkUp = false := by simpa using hchanged.symm
        split
        case isTrue hwas => exact ⟨h.firstUp hinitialized hwas, rfl, rfl, reports⟩
        case isFalse hwas =>
          have hwas : s.phyLinkWasEstablished = true := by simpa using hwas
          have hlost : Lost s.samples :=
            ⟨hprevious ▸ h.head hinitialized, h.wasEstablished.mp hwas⟩
          rw [if_pos (h.lost hlost)]
          exact ⟨h.return_ hinitialized hlost, rfl, rfl, reports⟩

/-! ## Calls of the three functions -/

theorem Calls.advance {caller : ServerCaller} {done : Nat} (h : s.Calls caller done)
    {event : ServerEvent}
    (hevent : completeRestart.take (done + 1) = completeRestart.take done ++ [event]) :
    ({ s with log := s.log ++ [event] } : TcpServer).Calls caller (done + 1) := by
  unfold Calls at h ⊢
  split
  case isTrue hcaller =>
    rw [if_pos hcaller] at h
    obtain ⟨hpending, hup, hlog⟩ := h
    refine ⟨hpending, hup, ?_⟩
    rw [hevent]
    exact List.suffix_append_self_iff.mpr hlog
  case isFalse hcaller =>
    rw [if_neg hcaller] at h
    exact h

/-- How far the restart has come does not matter once it fails. -/
theorem Calls.failed {caller : ServerCaller} {done : Nat} (h : s.Calls caller done) :
    s.Calls caller 0 := by
  unfold Calls at h ⊢
  split
  case isTrue hcaller =>
    rw [if_pos hcaller] at h
    exact ⟨h.1, h.2.1, List.nil_suffix⟩
  case isFalse hcaller =>
    rw [if_neg hcaller] at h
    exact h

/-- No attempt begins or ends. -/
theorem Attempts.keep (h : s.Attempts)
    (hcount : s'.tcpRecoveryAttemptCount = s.tcpRecoveryAttemptCount)
    (hrecoveries : s'.recoveries = s.recoveries) (hpc : s'.pc.caller? = s.pc.caller?) :
    s'.Attempts := by
  rw [Attempts, hcount, hrecoveries, hpc]
  exact h

/-- The log only grows until the link changes. -/
theorem Tracks.append (h : s.Tracks) (events : List ServerEvent) :
    ({ s with log := s.log ++ events } : TcpServer).Tracks := by
  refine { h with restarted := ?_ }
  intro hfalls hpending
  obtain ⟨before, after, hlog⟩ := h.restarted hfalls hpending
  exact ⟨before, after ++ events, by rw [← List.append_assoc, hlog]⟩

theorem serverReturns_recovering (h : s.Tracks) (hattempts : s.Attempts) {caller : ServerCaller}
    {done : Nat} (hcaller : s.pc.caller? = some caller) (hcalls : s.Calls caller done)
    (hlisten : s.tcpListenOk = false) {status : HalStatus} (hstatus : status ≠ .ok) :
    (s.serverReturns caller status).Recovering := by
  refine ⟨{ h with }, hattempts.keep rfl rfl hcaller.symm, ?_, fun _ => hlisten⟩
  rw [if_neg hstatus]
  exact hcalls.failed

theorem commandReturns_recovering (h : s.Recovering) {call : CommandCall}
    (hpc : s.pc = .writeCommand call ∨ ∃ startTick, s.pc = .pollCommand call startTick)
    (status : HalStatus) : (s.commandReturns call status).Recovering := by
  have hattempts := h.attempts
  have hreports := h.reports
  have hcaller : s.pc.caller? = (TcpServerPc.writeCommand call).caller? := by
    rcases hpc with hpc | ⟨startTick, hpc⟩
    · rw [hpc]
    · rw [hpc]
      cases call <;> rfl
  have hreports : s.Reports (.pollCommand call 0) := by
    rcases hpc with hpc | ⟨startTick, hpc⟩
    · rw [hpc] at hreports
      cases call <;> exact hreports
    · rw [hpc] at hreports
      cases call <;> exact hreports
  cases call with
  | server function caller =>
    obtain ⟨hcalls, hlisten⟩ := hreports
    unfold commandReturns
    by_cases hstatus : status = .ok
    · simp only [if_pos hstatus]
      exact ⟨{ h.tracks.append [.accepted function.command] with },
        hattempts.keep rfl rfl hcaller.symm, hcalls.advance (take_accepted function), hlisten⟩
    · simp only [if_neg hstatus]
      exact serverReturns_recovering h.tracks hattempts hcaller hcalls hlisten hstatus
  | disconnect => exact ⟨{ h.tracks with }, hattempts.keep rfl rfl hcaller.symm, hreports⟩
  | receive chunk =>
    unfold commandReturns
    by_cases hstatus : status = .ok
    · simp only [if_pos hstatus]
      exact ⟨{ h.tracks with }, hattempts.keep rfl rfl hcaller.symm, hreports⟩
    · simp only [if_neg hstatus]
      exact ⟨{ h.tracks with }, hattempts.keep rfl rfl hcaller.symm, hreports⟩

theorem writeCommand_recovering (h : s.Recovering) {call : CommandCall}
    (hpc : s.pc = .writeCommand call) (status : HalStatus) (taken : Bool) :
    (s.writeCommand call status taken).Recovering := by
  have hchip : ∀ chip, ({ s with chip := chip } : TcpServer).Recovering := fun _ =>
    ⟨{ h.tracks with }, h.attempts, h.reports⟩
  rcases writeCommand_cases s call status taken with ⟨-, heq⟩ | ⟨chip, -, -, heq⟩
  · have hreports := h.reports
    rw [hpc] at hreports
    rw [heq]
    refine ⟨{ h.tracks with }, h.attempts.keep rfl rfl ?_, ?_⟩
    · rw [hpc]
      cases call <;> rfl
    · cases call <;> exact hreports
  · rw [heq]
    exact commandReturns_recovering (hchip chip) (.inl hpc) status

theorem pollCommand_recovering (h : s.Recovering) {call : CommandCall} {startTick : UInt32}
    (hpc : s.pc = .pollCommand call startTick) (status : HalStatus) :
    (s.pollCommand call startTick status).Recovering := by
  rcases pollCommand_cases s call startTick status with heq | ⟨result, -, heq⟩
  · rw [heq]
    exact h
  · rw [heq]
    exact commandReturns_recovering h (.inr ⟨startTick, hpc⟩) result

theorem pollStatus_recovering (h : s.Recovering) {function : ServerFunction}
    {caller : ServerCaller} {startTick : UInt32}
    (hpc : s.pc = .pollStatus function caller startTick)
    (status : HalStatus) : (s.pollStatus function caller startTick status).Recovering := by
  have hreports := h.reports
  rw [hpc] at hreports
  obtain ⟨hcalls, hlisten⟩ := hreports
  have hcaller : s.pc.caller? = some caller := by rw [hpc]; rfl
  rcases pollStatus_cases s function caller startTick status with ⟨hstatus, heq⟩ |
    ⟨t, rfl, hcases⟩
  · rw [heq]
    exact serverReturns_recovering h.tracks h.attempts hcaller hcalls hlisten hstatus
  · rcases hcases with ⟨-, heq⟩ | heq | heq
    · have htracks := h.tracks.append [.reached function.expectedStatus]
      have hreached := hcalls.advance (take_reached function)
      rw [heq]
      cases function with
      | restart =>
        exact ⟨{ htracks with }, h.attempts.keep rfl rfl hcaller.symm, hreached, rfl⟩
      | start =>
        exact ⟨{ htracks with }, h.attempts.keep rfl rfl hcaller.symm, hreached, hlisten⟩
      | listen =>
        exact ⟨{ htracks with }, h.attempts.keep rfl rfl hcaller.symm, hreached,
          fun hstatus => absurd rfl hstatus⟩
    · rw [heq]
      exact serverReturns_recovering (s := { s with
        socket0SpiStatus := some .ok, socket0Status := s.chip.status }) { h.tracks with }
        h.attempts hcaller hcalls hlisten nofun
    · rw [heq]
      exact ⟨{ h.tracks with }, h.attempts, h.reports⟩

/-! ## The loop -/

theorem superviseSocket_recovering (h : s.Recovering) (hpc : s.pc = .control)
    (hpending : s.tcpRecoveryPending = false) : s.superviseSocket.Recovering := by
  have hquiet : s.tcpRecoveryPending = true → False := fun hset =>
    absurd (hset.symm.trans hpending) nofun
  have hcaller : s.pc.caller? = none := by rw [hpc]; rfl
  have hother : ∀ caller done, caller ≠ .recovery → s.Calls caller done := by
    intro caller done hne
    rw [Calls, if_neg hne]
    exact hpending
  rcases superviseSocket_cases s with ⟨initOk, listenOk, graceful, heq⟩ |
    ⟨initOk, listenOk, heq, -⟩ | ⟨-, heq⟩ | ⟨-, heq⟩ | ⟨-, heq⟩
  · rw [heq]
    exact ⟨{ h.tracks with }, h.attempts.keep rfl rfl hcaller.symm, fun hset => (hquiet hset).elim⟩
  · rw [heq]
    exact ⟨{ h.tracks with }, h.attempts.keep rfl rfl hcaller.symm, fun hset => (hquiet hset).elim⟩
  · rw [heq]
    exact ⟨{ h.tracks with }, h.attempts.keep rfl rfl hcaller.symm, fun _ => rfl⟩
  · rw [heq]
    refine ⟨{ h.tracks with }, ?_, hother .closed 2 nofun, rfl⟩
    have hattempts := h.attempts
    rw [Attempts, hcaller] at hattempts
    exact hattempts
  · rw [heq]
    refine ⟨{ h.tracks with }, ?_, hother .init 4 nofun, rfl⟩
    have hattempts := h.attempts
    rw [Attempts, hcaller] at hattempts
    exact hattempts

theorem control_recovering (h : s.Recovering) (hpc : s.pc = .control) : s.control.Recovering := by
  have hcaller : s.pc.caller? = none := by rw [hpc]; rfl
  have hattempts := h.attempts
  have hreports := h.reports
  rw [hpc] at hreports
  rcases control_cases s with heq | ⟨hpending, hup, heq⟩ | ⟨hpending, -, heq⟩ | ⟨hpending, -, heq⟩
  · rw [heq]
    exact ⟨{ h.tracks with }, hattempts.keep rfl rfl hcaller.symm, hreports⟩
  · rw [heq]
    refine ⟨{ h.tracks with }, ?_, ⟨hpending, hup, List.nil_suffix⟩, rfl⟩
    rw [Attempts, hcaller] at hattempts
    show s.tcpRecoveryAttemptCount + 1 = UInt32.ofNat (s.recoveries.length + 1)
    rw [← ofNat_succ, hattempts]
    rfl
  · rw [heq]
    refine ⟨{ h.tracks with }, ?_, hpending, rfl⟩
    rw [Attempts, hcaller] at hattempts
    exact hattempts
  · rw [heq]
    exact superviseSocket_recovering h hpc hpending

/-- A restart behind a link loss ends. -/
theorem Tracks.recovered (h : s.Tracks) (pending : s.tcpRecoveryPending = true)
    (up : s.linkUp = true) (complete : completeRestart <:+ s.log) :
    ({ s with
      recoveries := .ok :: s.recoveries
      tcpRecoveryPending := false
      tcpRecoverySuccessCount := s.tcpRecoverySuccessCount + 1 } : TcpServer).Tracks := by
  have hbounded := h.bounded
  rw [if_pos ⟨pending, up⟩] at hbounded
  refine { h with
    once := nofun
    lost := fun hlost => absurd hlost (not_lost_of_up (h.linkUp.mp up))
    successes := ?_
    fails := ?_
    bounded := ?_
    restarted := fun _ _ => complete.isInfix }
  · have hsuccesses := h.successes
    simp only [List.countP_cons, decide_true, if_true]
    rw [← ofNat_succ, hsuccesses]
  · have hfails := h.fails
    simpa using hfails
  · simpa [List.countP_cons] using hbounded

theorem Tracks.unrecovered (h : s.Tracks) {status : HalStatus} (hstatus : status ≠ .ok) :
    ({ s with
      recoveries := status :: s.recoveries
      tcpRecoveryFailCount := s.tcpRecoveryFailCount + 1 } : TcpServer).Tracks := by
  refine { h with successes := ?_, fails := ?_, bounded := ?_ }
  · have hsuccesses := h.successes
    simpa [hstatus] using hsuccesses
  · have hfails := h.fails
    simp only [List.countP_cons, hstatus, not_false_eq_true, decide_true, if_true]
    rw [← ofNat_succ, hfails]
  · have hbounded := h.bounded
    simpa [hstatus] using hbounded

theorem afterServer_recovering (h : s.Recovering) {caller : ServerCaller} {status : HalStatus}
    (hpc : s.pc = .returned caller status) : (s.afterServer caller status).Recovering := by
  have hattempts := h.attempts
  have hreports := h.reports
  rw [hpc] at hreports
  obtain ⟨hcalls, hlisten⟩ := hreports
  rw [Attempts, show s.pc.caller? = some caller by rw [hpc]; rfl] at hattempts
  by_cases hrecovery : caller = .recovery
  · subst hrecovery
    rw [Calls, if_pos rfl] at hcalls
    obtain ⟨hpending, hup, hlog⟩ := hcalls
    by_cases hstatus : status = .ok
    · subst hstatus
      refine ⟨{ h.tracks.recovered hpending hup hlog with }, ?_, nofun⟩
      exact hattempts
    · simp only [afterServer, if_neg hstatus]
      exact ⟨{ h.tracks.unrecovered hstatus with }, hattempts, fun _ => hlisten hstatus⟩
  · rw [Calls, if_neg hrecovery] at hcalls
    have hpending : s.tcpRecoveryPending = true → False := fun hset =>
      absurd (hset.symm.trans hcalls) nofun
    rw [if_neg (by simpa using hrecovery)] at hattempts
    cases caller with
    | boot => exact ⟨{ h.tracks with }, hattempts, fun hset => (hpending hset).elim⟩
    | recovery => exact absurd rfl hrecovery
    | lifecycle | closed | init =>
      simp only [afterServer, listening, retryLater]
      split
      · exact ⟨{ h.tracks with }, hattempts, fun hset => (hpending hset).elim⟩
      · exact ⟨{ h.tracks with }, hattempts, fun hset => (hpending hset).elim⟩

/-- Outside of the three functions, the code goes on without touching the link's variables. -/
theorem Recovering.outside (h : s.Tracks) (hattempts : s.Attempts)
    (hcaller : s.pc.caller? = none) (hreports : s.tcpRecoveryPending = true → s.tcpListenOk = false)
    {pc : TcpServerPc} (hpc : pc.caller? = none) (hboot : pc ≠ .boot) :
    (s.goto pc).Recovering := by
  refine ⟨{ h with }, hattempts.keep rfl rfl (hpc.trans hcaller.symm), ?_⟩
  show s.Reports pc
  cases pc with
  | boot => exact absurd rfl hboot
  | writeMode | writePort | pollStatus | returned => cases hpc
  | writeCommand call | pollCommand call =>
    cases call with
    | server => cases hpc
    | disconnect | receive => exact hreports
  | disconnected | enterLoop | loop | readPhy | control | controlDeadline | pollSocket | receive
  | acknowledge | feed | dataDeadline | wait => exact hreports

theorem serve_recovering (h : s.Tracks) (hattempts : s.Attempts) (hcaller : s.pc.caller? = none)
    (hreports : s.tcpRecoveryPending = true → s.tcpListenOk = false) : s.serve.Recovering := by
  unfold serve
  split
  · exact .outside h hattempts hcaller hreports rfl nofun
  · exact .outside h hattempts hcaller hreports rfl nofun

theorem dataPlane_recovering (h : s.Tracks) (hattempts : s.Attempts)
    (hcaller : s.pc.caller? = none)
    (hreports : s.tcpRecoveryPending = true → s.tcpListenOk = false) :
    s.dataPlane.Recovering := by
  unfold dataPlane
  split
  · exact .outside h hattempts hcaller hreports rfl nofun
  · exact serve_recovering h hattempts hcaller hreports

theorem spiStep_recovering (h : s.Recovering) {status : HalStatus} {taken : Bool}
    (next : s.spiStep status taken = some s') : s'.Recovering := by
  have htracks := h.tracks
  have hattempts := h.attempts
  have hreports := h.reports
  unfold spiStep at next
  split at next
  case h_1 caller hpc | h_2 caller hpc =>
    rw [hpc] at hreports
    by_cases hstatus : status = .ok
    · simp only [if_pos hstatus] at next
      cases next
      exact ⟨{ htracks with }, hattempts.keep rfl rfl (by rw [hpc]; rfl), hreports⟩
    · simp only [if_neg hstatus] at next
      cases next
      exact serverReturns_recovering htracks hattempts (by rw [hpc]; rfl) hreports.1 hreports.2
        hstatus
  case h_3 call hpc =>
    cases next
    exact writeCommand_recovering h hpc status taken
  case h_4 call startTick hpc =>
    cases next
    exact pollCommand_recovering h hpc status
  case h_5 function caller startTick hpc =>
    cases next
    exact pollStatus_recovering h hpc status
  case h_6 hpc =>
    have hcaller : s.pc.caller? = none := by rw [hpc]; rfl
    rw [hpc] at hreports
    cases next
    split
    case isTrue =>
      obtain ⟨_, _, _, _, t, rfl, hpolled⟩ :=
        socketPolled_cases { s with socket0SpiStatus := some status }
      rcases hpolled with ⟨-, -, hpolled⟩ | ⟨-, -, hpolled⟩ | ⟨-, hpolled⟩ | ⟨-, hpolled⟩
      · rw [hpolled]
        exact serve_recovering { htracks with } hattempts hcaller hreports
      · rw [hpolled]
        exact serve_recovering { htracks with } hattempts hcaller hreports
      · rw [hpolled]
        exact serve_recovering { htracks with } hattempts hcaller fun _ => rfl
      · rw [hpolled]
        exact serve_recovering { htracks with } hattempts hcaller hreports
    case isFalse => exact serve_recovering { htracks with } hattempts hcaller hreports
  case h_7 chunk hpc =>
    rw [hpc] at hreports
    cases next
    split
    · exact .outside htracks hattempts (by rw [hpc]; rfl) hreports rfl nofun
    · exact .outside htracks hattempts (by rw [hpc]; rfl) hreports rfl nofun
  case h_8 => cases next

theorem codeStep_recovering (h : s.Recovering) (next : s.codeStep = some s') :
    s'.Recovering := by
  have htracks := h.tracks
  have hattempts := h.attempts
  have hreports := h.reports
  unfold codeStep at next
  split at next
  case h_1 caller status hpc =>
    cases next
    exact afterServer_recovering h hpc
  case h_2 status hpc =>
    rw [hpc] at hreports
    cases next
    unfold afterDisconnect
    split
    · exact ⟨{ htracks with }, hattempts.keep rfl rfl (by rw [hpc]; rfl), hreports⟩
    · exact ⟨{ htracks with }, hattempts.keep rfl rfl (by rw [hpc]; rfl), hreports⟩
  case h_3 hpc | h_9 hpc =>
    rw [hpc] at hreports
    cases next
    exact ⟨{ htracks with }, hattempts.keep rfl rfl (by rw [hpc]; rfl), hreports⟩
  case h_4 hpc =>
    rw [hpc] at hreports
    cases next
    split
    · exact ⟨{ htracks with }, hattempts.keep rfl rfl (by rw [hpc]; rfl), hreports⟩
    · exact dataPlane_recovering { htracks with } hattempts (by rw [hpc]; rfl) hreports
  case h_5 hpc =>
    cases next
    exact control_recovering h hpc
  case h_6 hpc =>
    rw [hpc] at hreports
    cases next
    exact dataPlane_recovering { htracks with } hattempts (by rw [hpc]; rfl) hreports
  case h_7 hpc | h_10 hpc =>
    rw [hpc] at hreports
    cases next
    exact .outside htracks hattempts (by rw [hpc]; rfl) hreports rfl nofun
  case h_8 byte rest hpc =>
    rw [hpc] at hreports
    cases next
    exact ⟨{ htracks with }, hattempts.keep rfl rfl (by rw [hpc]; rfl), hreports⟩
  case h_11 => cases next

theorem step_recovering (h : s.Recovering) {a : TcpServerAction} (next : s.step a = some s') :
    s'.Recovering := by
  have htracks := h.tracks
  have hattempts := h.attempts
  have hreports := h.reports
  cases a with
  | tick ticks =>
    cases next
    exact ⟨{ htracks with }, hattempts, hreports⟩
  | execute =>
    cases next
    exact ⟨{ htracks with }, hattempts, hreports⟩
  | socket status =>
    obtain ⟨chip, -, rfl⟩ := Option.map_eq_some_iff.mp next
    exact ⟨{ htracks with }, hattempts, hreports⟩
  | network configOk readbackOk =>
    simp only [step] at next
    split at next
    case isFalse => cases next
    case isTrue hpc =>
      rw [hpc] at hreports
      have hnone : s.tcpRecoveryPending = false := hreports
      have hboot : s.Attempts := hattempts
      rw [Attempts, show s.pc.caller? = none by rw [hpc]; rfl] at hboot
      cases next
      split
      · exact ⟨{ htracks with }, hboot, hnone, rfl⟩
      · exact ⟨{ htracks with }, hboot, fun hset => absurd (hset.symm.trans hnone) nofun⟩
  | spi status taken => exact spiStep_recovering h next
  | phy status up =>
    simp only [step] at next
    split at next
    case isFalse => cases next
    case isTrue hpc =>
      rw [hpc] at hreports
      cases next
      split
      case isTrue =>
        obtain ⟨hsampled, hrecoveries, hcount, hlisten⟩ := samplePhy_tracks htracks hreports up
        exact ⟨{ hsampled with }, hattempts.keep hcount hrecoveries (by rw [hpc]; rfl), hlisten⟩
      case isFalse => exact .outside htracks hattempts (by rw [hpc]; rfl) hreports rfl nofun
  | receive bytes =>
    simp only [step] at next
    split at next
    case isFalse => cases next
    case isTrue hpc =>
      rw [hpc] at hreports
      cases next
      cases bytes with
      | none => exact .outside htracks hattempts (by rw [hpc]; rfl) hreports rfl nofun
      | some bytes => exact .outside htracks hattempts (by rw [hpc]; rfl) hreports rfl nofun
  | code => exact codeStep_recovering h next

theorem initial_recovering (packet : ProtocolPacket) (now : UInt32) :
    (initial packet now).Recovering where
  tracks :=
    { linkUp := by simp [initial]
      initialized := by simp [initial]
      wasEstablished := by simp [initial]
      previous := rfl
      downs := rfl
      ups := rfl
      once := nofun
      lost := nofun
      successes := rfl
      fails := rfl
      bounded := Nat.le_refl 0
      restarted := fun hfalls => absurd hfalls (Nat.lt_irrefl 0) }
  attempts := rfl
  reports := rfl

theorem reachable_recovering {packet : ProtocolPacket} {now : UInt32}
    (h : Reachable step unguarded (initial packet now) s) : s.Recovering := by
  refine h.invariant (P := Recovering) (initial_recovering packet now) ?_
  intro s a s' hs _ next
  exact step_recovering hs next

end TcpServer

open TcpServer

/-- The counters and flags of link loss and recovery at the beginning of the loop, as long as fewer
    than 2^32 link losses and recovery attempts have happened. -/
theorem ethernetTask_linkRecovery (packet : ProtocolPacket) (now : UInt32) {s : TcpServer}
    (h : Reachable step unguarded (initial packet now) s) (hloop : s.pc = .loop)
    (hfalls : falls s.samples < 2 ^ 32) (hattempts : s.recoveries.length < 2 ^ 32) :
    (s.linkDownCount.toNat =
      s.linkRecoveryCount.toNat + if Lost s.samples then 1 else 0) ∧
    s.tcpRecoveryAttemptCount.toNat =
      s.tcpRecoverySuccessCount.toNat + s.tcpRecoveryFailCount.toNat ∧
    s.tcpRecoverySuccessCount.toNat ≤ s.linkRecoveryCount.toNat ∧
    (s.tcpRecoveryPending = true → s.tcpListenOk = false) ∧
    (0 < falls s.samples → s.tcpListenOk = true →
      ¬ Lost s.samples ∧ completeRestart <:+: s.log) := by
  obtain ⟨htracks, hrunning, hreports⟩ := reachable_recovering h
  rw [hloop] at hreports
  rw [Attempts, hloop] at hrunning
  have hedges := falls_eq s.samples
  have hbounded := htracks.bounded
  have hcount := List.length_eq_countP_add_countP (fun status => decide (status = HalStatus.ok))
    (l := s.recoveries)
  simp only [decide_eq_true_eq] at hcount
  have hdowns : s.linkDownCount.toNat = falls s.samples := by
    rw [htracks.downs, UInt32.toNat_ofNat_of_lt' hfalls]
  have hups : s.linkRecoveryCount.toNat = returns s.samples := by
    rw [htracks.ups, UInt32.toNat_ofNat_of_lt' (show _ < 2 ^ 32 by omega)]
  have hattempt : s.tcpRecoveryAttemptCount.toNat = s.recoveries.length := by
    rw [hrunning]
    exact UInt32.toNat_ofNat_of_lt' hattempts
  have hsuccess : s.tcpRecoverySuccessCount.toNat = s.recoveries.countP (· = .ok) := by
    rw [htracks.successes, UInt32.toNat_ofNat_of_lt' (show _ < 2 ^ 32 by omega)]
  have hfail : s.tcpRecoveryFailCount.toNat = s.recoveries.countP (¬ · = .ok) := by
    rw [htracks.fails, UInt32.toNat_ofNat_of_lt' (show _ < 2 ^ 32 by omega)]
  refine ⟨?_, ?_, ?_, hreports, ?_⟩
  · rw [hdowns, hups, hedges]
  · rw [hattempt, hsuccess, hfail, hcount]
  · omega
  · intro hfallen hlisten
    have hpending : s.tcpRecoveryPending = false := by
      cases hpending : s.tcpRecoveryPending with
      | false => rfl
      | true => exact absurd (hlisten.symm.trans (hreports hpending)) nofun
    refine ⟨?_, htracks.restarted hfallen hpending⟩
    intro hlost
    exact absurd ((htracks.lost hlost).symm.trans hpending) nofun

/-- The link is lost and comes back; the first restart fails, and the second succeeds. -/
def recoveryRun : List TcpServerAction :=
  List.flatten
    [[.network true true], serverStarts,
      [.code, .code, .phy .ok true, .code, .code, .spi .ok true, .code, .code, .tick 100,
        .code, .phy .ok false, .code, .code, .code, .code, .tick 100,
        .code, .phy .ok true, .code, .spi .error false, .code, .code, .spi .ok true, .code, .code,
        .tick 500, .code, .phy .ok true, .code, .spi .ok true, .execute, .spi .ok true,
        .spi .ok true],
      serverStarts, [.code, .spi .ok true, .code, .code]]

theorem ethernetTask_linkRecovery_retry :
    ∃ s, Reachable step unguarded (initial .zero 0) s ∧
      (s.pc = .loop ∧ falls s.samples = 1 ∧ s.recoveries = [.ok, .error] ∧
        s.tcpListenOk = true) ∧
      s.linkDownCount.toNat = s.linkRecoveryCount.toNat + (if Lost s.samples then 1 else 0) ∧
      completeRestart <:+: s.log := by
  obtain ⟨s, run, htest⟩ := exists_reachable step unguarded (initial .zero 0) recoveryRun
    (fun s => decide (s.pc = .loop ∧ falls s.samples = 1 ∧ s.recoveries = [.ok, .error] ∧
      s.tcpListenOk = true)) (by decide +kernel)
  have hs := of_decide_eq_true htest
  obtain ⟨hloop, hfalls, hrecoveries, hlisten⟩ := hs
  have hfew : falls s.samples < 2 ^ 32 := by rw [hfalls]; decide
  have hattempts : s.recoveries.length < 2 ^ 32 := by rw [hrecoveries]; decide
  obtain ⟨hcounts, -, -, -, hcomplete⟩ :=
    ethernetTask_linkRecovery .zero 0 run hloop hfew hattempts
  exact ⟨s, run, ⟨hloop, hfalls, hrecoveries, hlisten⟩, hcounts,
    (hcomplete (by rw [hfalls]; decide) hlisten).2⟩

end Rs422Gateway
