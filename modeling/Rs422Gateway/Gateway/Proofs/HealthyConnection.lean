import Rs422Gateway.Gateway.Proofs.ServerMoves
import Rs422Gateway.Misc.Transition

/-!
# CLOSE on a healthy connection

`w5500_listen_tcp_server` waits for LISTEN and does not know the statuses behind it. When a client
is fast enough it times out, the server counts as failed, and `tcp_lifecycle_restart_pending` closes
the connection at the next pass of the control plane, whatever the status is by then. The same
happens to a connection that is established while a restart is pending for another reason, or while
a SYNRECV that was read three seconds ago is still the last status read. Every other connection is
left alone.
-/

namespace Rs422Gateway

open Transition

namespace ServerSocket

variable {c c' : ServerSocket}

/-- The socket is in LISTEN or behind it, or will be once the chip executes the command. -/
def Listening (c : ServerSocket) : Prop :=
  c.status = Socket0Status.listen ∨ c.status = Socket0Status.synRecv ∨
    c.status = Socket0Status.established ∨ c.cr = listenCommand

/-- The statuses a client moves the socket to come after LISTEN, one after another. -/
def ClientMove (c : ServerSocket) (status : UInt8) : Prop :=
  status ≠ Socket0Status.listen ∧
    (status = Socket0Status.synRecv → c.status = Socket0Status.listen) ∧
    (status = Socket0Status.established → c.status = Socket0Status.synRecv)

instance (c : ServerSocket) (status : UInt8) : Decidable (c.ClientMove status) :=
  inferInstanceAs (Decidable (_ ∧ (_ → _) ∧ (_ → _)))

theorem goto_eq {status : UInt8} (moved : c.goto status = some c') :
    c'.status = status ∧ c'.cr = c.cr := by
  unfold goto at moved
  split at moved
  case isTrue hnew =>
    split at moved
    case isTrue =>
      cases moved
      exact ⟨rfl, rfl⟩
    case isFalse => cases moved
  case isFalse =>
    cases moved
    exact ⟨rfl, rfl⟩

theorem Listening.of_goto {status : UInt8} (allowed : c.ClientMove status)
    (moved : c.goto status = some c') (h : c'.Listening) : c.Listening := by
  obtain ⟨hlisten, hsynRecv, hestablished⟩ := allowed
  obtain ⟨hstatus, hcr⟩ := goto_eq moved
  rw [Listening, hstatus, hcr] at h
  rcases h with h | h | h | h
  · exact absurd h hlisten
  · exact .inl (hsynRecv h)
  · exact .inr (.inl (hestablished h))
  · exact .inr (.inr (.inr h))

theorem Listening.of_execute (h : c.execute.Listening) : c.Listening := by
  by_cases hlisten : c.cr = listenCommand
  · exact .inr (.inr (.inr hlisten))
  · have hinit : Socket0Status.init ≠ Socket0Status.listen ∧
        Socket0Status.init ≠ Socket0Status.synRecv ∧
        Socket0Status.init ≠ Socket0Status.established := by decide
    have hclosed : Socket0Status.closed ≠ Socket0Status.listen ∧
        Socket0Status.closed ≠ Socket0Status.synRecv ∧
        Socket0Status.closed ≠ Socket0Status.established := by decide
    have hidle : (0 : UInt8) ≠ listenCommand := by decide
    unfold Listening execute at h
    simp only [if_neg hlisten, hidle, or_false] at h
    split at h
    · simp only [hinit, or_self] at h
    · split at h
      · simp only [hclosed, or_self] at h
      · rcases h with h | h | h
        · exact .inl h
        · exact .inr (.inl h)
        · exact .inr (.inr (.inl h))

/-- CLOSE takes the socket out of LISTEN. -/
theorem execute_close (h : c.cr = closeCommand) : ¬ c.execute.Listening := by
  have hopen : closeCommand ≠ openCommand := by decide
  have hlisten : closeCommand ≠ listenCommand := by decide
  have hstatus : c.execute.status = Socket0Status.closed := by
    simp only [execute, h, if_neg hopen, if_neg hlisten, if_true]
  intro hlistening
  rw [Listening, hstatus] at hlistening
  revert hlistening
  show ¬ (_ ∨ _ ∨ _ ∨ (0 : UInt8) = listenCommand)
  decide

/-- A command other than LISTEN. -/
theorem Listening.of_writeCr {command : UInt8} (hcommand : command ≠ listenCommand)
    (h : (c.writeCr command).Listening) : c.Listening := by
  rcases h with h | h | h | h
  · exact .inl h
  · exact .inr (.inl h)
  · exact .inr (.inr (.inl h))
  · exact absurd h hcommand

end ServerSocket

namespace TcpServer

variable {s s' : TcpServer}

/-- No SPI transaction fails, the link stays up once it is up, and clients take the socket from
    LISTEN over SYNRECV to ESTABLISHED. -/
def Undisturbed (s : TcpServer) : TcpServerAction → Prop
  | .spi status _ => status = .ok
  | .phy status up => status = .ok ∧ (s.phyLinkWasEstablished = true → up = true)
  | .socket status => s.chip.ClientMove status
  | _ => True

/-- The server counts as failed: a restart is pending, or will be once the call returns. -/
def willRestart (s : TcpServer) : Bool :=
  match s.pc with
  | .pollCommand (.server .listen _) _ | .pollStatus .listen _ _ => true
  | .returned _ status => status != .ok
  | _ => s.tcpLifecycleRestartPending

/-- The control plane is about to give up on a SYNRECV. -/
def GivesUpSynRecv (s : TcpServer) : Prop :=
  s.pc = .control ∧ s.socket0Status = Socket0Status.synRecv ∧ s.transientTimeout = true

/-- Besides, no connection is established while the server counts as failed, nor unnoticed before
    the control plane gives up on its SYNRECV. -/
def Noticed (s : TcpServer) (a : TcpServerAction) : Prop :=
  s.Undisturbed a ∧ (a = .socket Socket0Status.established → s.willRestart = false) ∧
    (a = .code → s.GivesUpSynRecv → s.chip.status ≠ Socket0Status.established)

instance (s : TcpServer) (a : TcpServerAction) : Decidable (s.Undisturbed a) :=
  match a with
  | .spi status _ => inferInstanceAs (Decidable (status = .ok))
  | .phy _ _ => inferInstanceAs (Decidable (_ ∧ (_ → _)))
  | .socket status => inferInstanceAs (Decidable (s.chip.ClientMove status))
  | .tick _ | .execute | .network _ _ | .receive _ | .code => .isTrue trivial

instance (s : TcpServer) : Decidable s.GivesUpSynRecv :=
  inferInstanceAs (Decidable (_ ∧ _ ∧ _))

instance (s : TcpServer) (a : TcpServerAction) : Decidable (s.Noticed a) :=
  inferInstanceAs (Decidable (_ ∧ (_ → _) ∧ (_ → _ → _)))

/-- `w5500_restart_tcp_server` is about to write CLOSE while the socket is ESTABLISHED. -/
def ClosesConnection (s : TcpServer) : Prop :=
  s.chip.status = Socket0Status.established ∧
    ∃ caller, s.pc = .writeCommand (.server .restart caller)

/-- A restart is pending for the caller that restarts the server, and for no other. -/
def Owed (s : TcpServer) : ServerCaller → Prop
  | .recovery => False
  | .lifecycle => s.tcpLifecycleRestartPending = true
  | _ => s.tcpLifecycleRestartPending = false

/-- What holds at every access. -/
structure Attending (s : TcpServer) : Prop where
  unlost : s.tcpRecoveryPending = false
  link : s.previousLinkUp = s.phyLinkWasEstablished
  healthy : s.chip.status = Socket0Status.established → s.willRestart = false
  heard : s.chip.Listening → s.willRestart = true ∨ s.socket0Status = Socket0Status.listen ∨
    s.socket0Status = Socket0Status.synRecv ∨ s.socket0Status = Socket0Status.established
  unexecuted : s.chip.cr = listenCommand → s.willRestart = true

/-- What holds besides at each access. -/
def Waits (s : TcpServer) : TcpServerPc → Prop
  | .boot => ¬ s.chip.Listening ∧ s.tcpLifecycleRestartPending = false
  | .writeMode caller | .writePort caller | .writeCommand (.server .start caller)
  | .writeCommand (.server .listen caller) | .pollCommand (.server .start caller) _
  | .pollStatus .restart caller _ | .pollStatus .start caller _ =>
      ¬ s.chip.Listening ∧ s.Owed caller
  | .writeCommand (.server .restart caller) =>
      s.tcpLifecycleRestartPending = true ∧ s.Owed caller
  | .pollCommand (.server .restart caller) _ =>
      s.tcpLifecycleRestartPending = true ∧ (s.chip.cr = closeCommand ∨ ¬ s.chip.Listening) ∧
        s.Owed caller
  | .pollCommand (.server .listen caller) _ => s.Owed caller
  | .pollStatus .listen caller _ => s.chip.cr ≠ listenCommand ∧ s.Owed caller
  | .returned caller _ => s.Owed caller
  | .writeCommand .disconnect | .pollCommand .disconnect _ | .disconnected _ => ¬ s.chip.Listening
  | _ => True

theorem not_established (h : ¬ s.chip.Listening) : s.chip.status ≠ Socket0Status.established :=
  fun hstatus => h (.inr (.inr (.inl hstatus)))

/-- A socket that is not in LISTEN asks for nothing. -/
theorem Attending.quiet (h : s.Attending) (hunlost : s'.tcpRecoveryPending = s.tcpRecoveryPending)
    (hprevious : s'.previousLinkUp = s.previousLinkUp)
    (hwas : s'.phyLinkWasEstablished = s.phyLinkWasEstablished)
    (hlistening : ¬ s'.chip.Listening) : s'.Attending where
  unlost := hunlost.trans h.unlost
  link := (hprevious.trans h.link).trans hwas.symm
  healthy hstatus := absurd hstatus (not_established hlistening)
  heard hset := absurd hset hlistening
  unexecuted hcr := absurd (.inr (.inr (.inr hcr))) hlistening

/-- The server still counts as failed. -/
theorem Attending.failed (h : s.Attending) (hunlost : s'.tcpRecoveryPending = s.tcpRecoveryPending)
    (hprevious : s'.previousLinkUp = s.previousLinkUp)
    (hwas : s'.phyLinkWasEstablished = s.phyLinkWasEstablished)
    (hstatus : s'.chip.status = s.chip.status) (hbefore : s.willRestart = true)
    (hafter : s'.willRestart = true) : s'.Attending where
  unlost := hunlost.trans h.unlost
  link := (hprevious.trans h.link).trans hwas.symm
  healthy hestablished :=
    absurd (hbefore.symm.trans (h.healthy (hstatus.symm.trans hestablished))) nofun
  heard _ := .inl hafter
  unexecuted _ := hafter

/-- Nothing changes about the server. -/
theorem Attending.keep (h : s.Attending) (hunlost : s'.tcpRecoveryPending = s.tcpRecoveryPending)
    (hprevious : s'.previousLinkUp = s.previousLinkUp)
    (hwas : s'.phyLinkWasEstablished = s.phyLinkWasEstablished) (hchip : s'.chip = s.chip)
    (hcached : s'.socket0Status = s.socket0Status) (hwill : s'.willRestart = s.willRestart) :
    s'.Attending where
  unlost := hunlost.trans h.unlost
  link := (hprevious.trans h.link).trans hwas.symm
  healthy hstatus := by
    rw [hwill]
    rw [hchip] at hstatus
    exact h.healthy hstatus
  heard hset := by
    rw [hwill, hcached]
    rw [hchip] at hset
    exact h.heard hset
  unexecuted hcr := by
    rw [hwill]
    rw [hchip] at hcr
    exact h.unexecuted hcr

/-- The chip takes a step of its own. -/
theorem Waits.chip {pc : TcpServerPc} {chip : ServerSocket} (h : s.Waits pc)
    (hlistening : chip.Listening → s.chip.Listening)
    (hcr : chip.cr = listenCommand → s.chip.cr = listenCommand)
    (hclose : s.chip.cr = closeCommand → chip.cr = closeCommand ∨ ¬ chip.Listening) :
    ({ s with chip := chip } : TcpServer).Waits pc := by
  have hquiet : ¬ s.chip.Listening → ¬ chip.Listening := fun hold hnew => hold (hlistening hnew)
  cases pc with
  | boot => exact ⟨hquiet h.1, h.2⟩
  | writeMode | writePort => exact ⟨hquiet h.1, h.2⟩
  | writeCommand call =>
    cases call with
    | server function caller =>
      cases function with
      | restart => exact h
      | start | listen => exact ⟨hquiet h.1, h.2⟩
    | disconnect => exact hquiet h
    | receive => trivial
  | pollCommand call =>
    cases call with
    | server function caller =>
      cases function with
      | restart =>
        refine ⟨h.1, ?_, h.2.2⟩
        rcases h.2.1 with hwritten | hold
        · exact hclose hwritten
        · exact .inr (hquiet hold)
      | start => exact ⟨hquiet h.1, h.2⟩
      | listen => exact h
    | disconnect => exact hquiet h
    | receive => trivial
  | pollStatus function =>
    cases function with
    | restart | start => exact ⟨hquiet h.1, h.2⟩
    | listen => exact ⟨fun hnew => h.1 (hcr hnew), h.2⟩
  | returned => exact h
  | disconnected => exact hquiet h
  | enterLoop | loop | readPhy | control | controlDeadline | pollSocket | receive | acknowledge
  | feed | dataDeadline | wait => trivial

/-! ## Calls of the three functions -/

theorem writeCommand_attending (h : s.Attending) {call : CommandCall}
    (hpc : s.pc = .writeCommand call) (waits : s.Waits (.writeCommand call)) (taken : Bool) :
    (s.writeCommand call .ok taken).Attending ∧
      (s.writeCommand call .ok taken).Waits (s.writeCommand call .ok taken).pc := by
  have hquiet : ∀ command, command ≠ listenCommand → ¬ s.chip.Listening →
      ¬ (s.chip.writeCr command).Listening := fun _ hcommand hold hnew =>
    hold (hnew.of_writeCr hcommand)
  cases call with
  | server function caller =>
    cases function with
    | restart =>
      have hbefore : s.willRestart = true := by
        rw [willRestart, hpc]
        exact waits.1
      exact ⟨h.failed rfl rfl rfl rfl hbefore waits.1, waits.1, .inl rfl, waits.2⟩
    | start =>
      have hnew := hquiet openCommand (by decide) waits.1
      exact ⟨h.quiet rfl rfl rfl hnew, hnew, waits.2⟩
    | listen =>
      have hstatus : s.chip.status ≠ Socket0Status.established := not_established waits.1
      refine ⟨?_, waits.2⟩
      exact
        { unlost := h.unlost
          link := h.link
          healthy := fun hnew => absurd hnew hstatus
          heard := fun _ => .inl rfl
          unexecuted := fun _ => rfl }
  | disconnect =>
    have hnew := hquiet disconCommand (by decide) waits
    exact ⟨h.quiet rfl rfl rfl hnew, hnew⟩
  | receive chunk =>
    have hwill : s.willRestart = s.tcpLifecycleRestartPending := by rw [willRestart, hpc]
    have hother : recvCommand ≠ listenCommand := by decide
    have hheard := h.heard
    rw [hwill] at hheard
    refine ⟨?_, trivial⟩
    exact
      { unlost := h.unlost
        link := h.link
        healthy := fun hstatus => hwill.symm.trans (h.healthy hstatus)
        heard := fun hset => hheard (hset.of_writeCr hother)
        unexecuted := fun hcr => absurd hcr hother }

theorem commandReturns_attending (h : s.Attending) {call : CommandCall} {startTick : UInt32}
    (hpc : s.pc = .pollCommand call startTick) (waits : s.Waits (.pollCommand call startTick))
    {status : HalStatus} (hexecuted : status = .ok → s.chip.cr = 0) :
    (s.commandReturns call status).Attending ∧
      (s.commandReturns call status).Waits (s.commandReturns call status).pc := by
  cases call with
  | server function caller =>
    unfold commandReturns
    by_cases hstatus : status = .ok
    · simp only [if_pos hstatus]
      have hidle := hexecuted hstatus
      cases function with
      | restart =>
        have hquiet : ¬ s.chip.Listening := by
          refine waits.2.1.resolve_left ?_
          rw [hidle]
          decide
        exact ⟨h.quiet rfl rfl rfl hquiet, hquiet, waits.2.2⟩
      | start => exact ⟨h.quiet rfl rfl rfl waits.1, waits⟩
      | listen =>
        refine ⟨h.keep rfl rfl rfl rfl rfl (by rw [willRestart, willRestart, hpc]), ?_, waits⟩
        show s.chip.cr ≠ listenCommand
        rw [hidle]
        decide
    · simp only [if_neg hstatus]
      have hafter : (s.serverReturns caller status).willRestart = true := by
        simpa [serverReturns, willRestart] using hstatus
      cases function with
      | restart =>
        have hbefore : s.willRestart = true := by
          rw [willRestart, hpc]
          exact waits.1
        exact ⟨h.failed rfl rfl rfl rfl hbefore hafter, waits.2.2⟩
      | start => exact ⟨h.quiet rfl rfl rfl waits.1, waits.2⟩
      | listen =>
        have hbefore : s.willRestart = true := by rw [willRestart, hpc]
        exact ⟨h.failed rfl rfl rfl rfl hbefore hafter, waits⟩
  | disconnect => exact ⟨h.quiet rfl rfl rfl waits, waits⟩
  | receive chunk =>
    unfold commandReturns
    by_cases hstatus : status = .ok
    · simp only [if_pos hstatus]
      exact ⟨h.keep rfl rfl rfl rfl rfl (by rw [willRestart, willRestart, hpc]; rfl), trivial⟩
    · simp only [if_neg hstatus]
      exact ⟨h.keep rfl rfl rfl rfl rfl (by rw [willRestart, willRestart, hpc]; rfl), trivial⟩

theorem pollCommand_attending (h : s.Attending) {call : CommandCall} {startTick : UInt32}
    (hpc : s.pc = .pollCommand call startTick) (waits : s.Waits (.pollCommand call startTick)) :
    (s.pollCommand call startTick .ok).Attending ∧
      (s.pollCommand call startTick .ok).Waits (s.pollCommand call startTick .ok).pc := by
  rcases pollCommand_cases s call startTick .ok with heq | ⟨result, hexecuted, heq⟩
  · rw [heq]
    exact ⟨h, hpc ▸ waits⟩
  · rw [heq]
    exact commandReturns_attending h hpc waits hexecuted

theorem pollStatus_attending (h : s.Attending) {function : ServerFunction}
    {caller : ServerCaller} {startTick : UInt32}
    (hpc : s.pc = .pollStatus function caller startTick)
    (waits : s.Waits (.pollStatus function caller startTick)) :
    (s.pollStatus function caller startTick .ok).Attending ∧
      (s.pollStatus function caller startTick .ok).Waits
        (s.pollStatus function caller startTick .ok).pc := by
  have hwaits : ({ s with socket0SpiStatus := some .ok, socket0Status := s.chip.status } :
      TcpServer).Waits s.pc := by
    rw [hpc]
    cases function <;> exact waits
  rcases pollStatus_cases s function caller startTick .ok with ⟨hstatus, -⟩ | ⟨t, rfl, hcases⟩
  · exact absurd rfl hstatus
  · cases function with
    | restart | start =>
      rcases hcases with ⟨-, heq⟩ | heq | heq
      · rw [heq]
        exact ⟨h.quiet rfl rfl rfl waits.1, waits⟩
      · rw [heq]
        exact ⟨h.quiet rfl rfl rfl waits.1, waits.2⟩
      · rw [heq]
        exact ⟨h.quiet rfl rfl rfl waits.1, hwaits⟩
    | listen =>
      have hbefore : s.willRestart = true := by rw [willRestart, hpc]
      rcases hcases with ⟨hreached, heq⟩ | heq | heq
      · rw [heq]
        refine ⟨?_, waits.2⟩
        exact
          { unlost := h.unlost
            link := h.link
            healthy := fun _ => rfl
            heard := fun _ => .inr (.inl hreached)
            unexecuted := fun hcr => absurd hcr waits.1 }
      · rw [heq]
        exact ⟨h.failed rfl rfl rfl rfl hbefore rfl, waits.2⟩
      · rw [heq]
        refine ⟨h.failed rfl rfl rfl rfl hbefore ?_, hwaits⟩
        rw [willRestart]
        dsimp only
        rw [hpc]

/-! ## The loop -/

/-- At these accesses only the pending restart counts. -/
theorem willRestart_of {pc : TcpServerPc} (hpc : s.pc = pc)
    (hloop : ∀ t : TcpServer, (t.goto pc).willRestart = t.tcpLifecycleRestartPending) :
    s.willRestart = s.tcpLifecycleRestartPending := by
  rw [← hloop s, ← hpc]
  rfl

theorem superviseSocket_attending (h : s.Attending) (hpc : s.pc = .control)
    (hpending : s.tcpLifecycleRestartPending = false)
    (hsynRecv : s.GivesUpSynRecv → s.chip.status ≠ Socket0Status.established) :
    s.superviseSocket.Attending ∧ s.superviseSocket.Waits s.superviseSocket.pc := by
  have hwill : s.willRestart = s.tcpLifecycleRestartPending := willRestart_of hpc fun _ => rfl
  have hcached : s.socket0Status ≠ Socket0Status.listen →
      s.socket0Status ≠ Socket0Status.synRecv →
        s.socket0Status ≠ Socket0Status.established → ¬ s.chip.Listening := by
    intro hlisten hsynRecv hestablished hset
    rcases h.heard hset with hheard | hheard | hheard | hheard
    · exact absurd (hheard.symm.trans (hwill.trans hpending)) nofun
    · exact hlisten hheard
    · exact hsynRecv hheard
    · exact hestablished hheard
  rcases superviseSocket_cases s with ⟨initOk, listenOk, graceful, heq⟩ |
    ⟨initOk, listenOk, heq, hestablished, hlisten, htimeout⟩ | ⟨hstatus, heq⟩ | ⟨hstatus, heq⟩ |
    ⟨hstatus, heq⟩
  · rw [heq]
    exact ⟨h.keep rfl rfl rfl rfl rfl hwill.symm, trivial⟩
  · have hchip : s.chip.status ≠ Socket0Status.established := by
      by_cases hrecv : s.socket0Status = Socket0Status.synRecv
      · exact hsynRecv ⟨hpc, hrecv, htimeout hrecv⟩
      · exact not_established (hcached hlisten hrecv hestablished)
    rw [heq]
    refine ⟨?_, trivial⟩
    exact
      { unlost := h.unlost
        link := h.link
        healthy := fun hnew => absurd hnew hchip
        heard := fun _ => .inl rfl
        unexecuted := fun _ => rfl }
  · have hquiet := hcached (by rw [hstatus]; decide) (by rw [hstatus]; decide)
      (by rw [hstatus]; decide)
    rw [heq]
    exact ⟨h.quiet rfl rfl rfl hquiet, hquiet⟩
  · have hquiet := hcached (by rw [hstatus]; decide) (by rw [hstatus]; decide)
      (by rw [hstatus]; decide)
    rw [heq]
    exact ⟨h.quiet rfl rfl rfl hquiet, hquiet, hpending⟩
  · have hquiet := hcached (by rw [hstatus]; decide) (by rw [hstatus]; decide)
      (by rw [hstatus]; decide)
    rw [heq]
    exact ⟨h.quiet rfl rfl rfl hquiet, hquiet, hpending⟩

theorem control_attending (h : s.Attending) (hpc : s.pc = .control)
    (hsynRecv : s.GivesUpSynRecv → s.chip.status ≠ Socket0Status.established) :
    s.control.Attending ∧ s.control.Waits s.control.pc := by
  have hwill : s.willRestart = s.tcpLifecycleRestartPending := willRestart_of hpc fun _ => rfl
  rcases control_cases s with heq | ⟨hrecovery, -, -⟩ | ⟨-, hpending, heq⟩ | ⟨-, hpending, heq⟩
  · rw [heq]
    exact ⟨h.keep rfl rfl rfl rfl rfl hwill.symm, trivial⟩
  · exact absurd (hrecovery.symm.trans h.unlost) nofun
  · rw [heq]
    exact ⟨h.failed rfl rfl rfl rfl (hwill.trans hpending) hpending, hpending, hpending⟩
  · rw [heq]
    exact superviseSocket_attending h hpc hpending hsynRecv

theorem afterServer_attending (h : s.Attending) {caller : ServerCaller} {status : HalStatus}
    (hpc : s.pc = .returned caller status) (owed : s.Owed caller) :
    (s.afterServer caller status).Attending ∧
      (s.afterServer caller status).Waits (s.afterServer caller status).pc := by
  have hwill : s.willRestart = (status != .ok) := by rw [willRestart, hpc]
  by_cases hstatus : status = .ok
  · subst hstatus
    have hbefore : s.willRestart = false := hwill
    have hkeep : ∀ t : TcpServer, t.tcpRecoveryPending = s.tcpRecoveryPending →
        t.previousLinkUp = s.previousLinkUp →
        t.phyLinkWasEstablished = s.phyLinkWasEstablished → t.chip = s.chip →
        t.socket0Status = s.socket0Status → t.willRestart = false → t.Attending :=
      fun t h₁ h₂ h₃ h₄ h₅ h₆ => h.keep h₁ h₂ h₃ h₄ h₅ (h₆.trans hbefore.symm)
    have hpending : s.tcpLifecycleRestartPending = false →
        (s.tcpLifecycleRestartPending || HalStatus.ok != .ok) = false := by
      intro hnone
      rw [hnone]
      rfl
    cases caller with
    | boot => exact ⟨hkeep _ rfl rfl rfl rfl rfl (hpending owed), trivial⟩
    | recovery => exact owed.elim
    | lifecycle => exact ⟨hkeep _ rfl rfl rfl rfl rfl rfl, trivial⟩
    | closed => exact ⟨hkeep _ rfl rfl rfl rfl rfl owed, trivial⟩
    | init => exact ⟨hkeep _ rfl rfl rfl rfl rfl owed, trivial⟩
  · have hbefore : s.willRestart = true := by
      rw [hwill]
      simpa using hstatus
    have hpending : (s.tcpLifecycleRestartPending || status != .ok) = true := by
      simp [hstatus]
    simp only [afterServer, if_neg hstatus, retryLater]
    cases caller with
    | boot => exact ⟨h.failed rfl rfl rfl rfl hbefore hpending, trivial⟩
    | recovery => exact owed.elim
    | lifecycle => exact ⟨h.failed rfl rfl rfl rfl hbefore owed, trivial⟩
    | closed => exact ⟨h.failed rfl rfl rfl rfl hbefore rfl, trivial⟩
    | init => exact ⟨h.failed rfl rfl rfl rfl hbefore rfl, trivial⟩

theorem serve_willRestart (t : TcpServer) :
    t.serve.willRestart = t.tcpLifecycleRestartPending := by
  unfold serve
  split <;> rfl

theorem serve_waits (t : TcpServer) : t.serve.Waits t.serve.pc := by
  unfold serve
  split <;> exact trivial

theorem dataPlane_waits (t : TcpServer) : t.dataPlane.Waits t.dataPlane.pc := by
  unfold dataPlane
  split
  · exact trivial
  · exact serve_waits t

theorem serve_attending (h : s.Attending)
    (hwill : s.willRestart = s.tcpLifecycleRestartPending) : s.serve.Attending :=
  h.keep rfl rfl rfl rfl rfl ((serve_willRestart s).trans hwill.symm)

theorem dataPlane_attending (h : s.Attending)
    (hwill : s.willRestart = s.tcpLifecycleRestartPending) : s.dataPlane.Attending := by
  unfold dataPlane
  split
  · exact h.keep rfl rfl rfl rfl rfl hwill.symm
  · exact serve_attending h hwill

/-- The data plane takes the status over. -/
theorem socketPolled_attending (h : s.Attending)
    (hwill : s.willRestart = s.tcpLifecycleRestartPending) : s.socketPolled.serve.Attending := by
  have hheard : s.chip.Listening → s.tcpLifecycleRestartPending = true ∨
      s.chip.status = Socket0Status.listen ∨ s.chip.status = Socket0Status.synRecv ∨
        s.chip.status = Socket0Status.established := by
    intro hset
    rcases hset with hset | hset | hset | hset
    · exact .inr (.inl hset)
    · exact .inr (.inr (.inl hset))
    · exact .inr (.inr (.inr hset))
    · exact .inl (hwill.symm.trans (h.unexecuted hset))
  have hpolled : ∀ t : TcpServer, t.tcpRecoveryPending = s.tcpRecoveryPending →
      t.previousLinkUp = s.previousLinkUp → t.phyLinkWasEstablished = s.phyLinkWasEstablished →
      t.chip = s.chip → t.socket0Status = s.chip.status →
      t.tcpLifecycleRestartPending = s.tcpLifecycleRestartPending → t.serve.Attending := by
    intro t hunlost hprevious hwas hchip hcached hpending
    have hsame := (serve_willRestart t).trans hpending
    refine
      { unlost := hunlost.trans h.unlost
        link := (hprevious.trans h.link).trans hwas.symm
        healthy := ?_
        heard := ?_
        unexecuted := ?_ }
    · intro hstatus
      have hstatus : t.chip.status = Socket0Status.established := hstatus
      rw [hchip] at hstatus
      exact (hsame.trans hwill.symm).trans (h.healthy hstatus)
    · intro hset
      have hset : t.chip.Listening := hset
      rw [hchip] at hset
      rw [hsame]
      show _ ∨ t.socket0Status = _ ∨ t.socket0Status = _ ∨ t.socket0Status = _
      rw [hcached]
      exact hheard hset
    · intro hcr
      have hcr : t.chip.cr = listenCommand := hcr
      rw [hchip] at hcr
      exact (hsame.trans hwill.symm).trans (h.unexecuted hcr)
  obtain ⟨_, _, _, _, t, rfl, hcases⟩ := socketPolled_cases s
  rcases hcases with ⟨-, -, heq⟩ | ⟨-, -, heq⟩ | ⟨-, heq⟩ | ⟨-, heq⟩
  · rw [heq]
    exact hpolled _ rfl rfl rfl rfl rfl rfl
  · rw [heq]
    exact hpolled _ rfl rfl rfl rfl rfl rfl
  · rw [heq]
    exact hpolled _ rfl rfl rfl rfl rfl rfl
  · rw [heq]
    exact hpolled _ rfl rfl rfl rfl rfl rfl

/-- The link is up for good. -/
theorem samplePhy_attending (h : s.Attending) (hpc : s.pc = .readPhy) {up : Bool}
    (hup : s.phyLinkWasEstablished = true → up = true) :
    ((s.samplePhy up).goto .control).Attending := by
  have hwill : s.willRestart = s.tcpLifecycleRestartPending := willRestart_of hpc fun _ => rfl
  have hkeep : ∀ t : TcpServer, t.tcpRecoveryPending = s.tcpRecoveryPending →
      t.previousLinkUp = t.phyLinkWasEstablished → t.chip = s.chip →
      t.socket0Status = s.socket0Status →
      t.tcpLifecycleRestartPending = s.tcpLifecycleRestartPending →
      (t.goto .control).Attending := by
    intro t hunlost hlink hchip hcached hpending
    have hsame : (t.goto .control).willRestart = s.willRestart := hpending.trans hwill.symm
    have hold : (t.goto .control).chip = s.chip := hchip
    have hread : (t.goto .control).socket0Status = s.socket0Status := hcached
    refine
      { unlost := hunlost.trans h.unlost
        link := hlink
        healthy := ?_
        heard := ?_
        unexecuted := ?_ }
    · rw [hold, hsame]
      exact h.healthy
    · rw [hold, hsame, hread]
      exact h.heard
    · rw [hold, hsame]
      exact h.unexecuted
  unfold samplePhy
  dsimp only
  split
  case isTrue =>
    refine hkeep _ rfl ?_ rfl rfl rfl
    show up = (s.phyLinkWasEstablished || up)
    cases hwas : s.phyLinkWasEstablished with
    | false => rfl
    | true => exact hup hwas
  case isFalse =>
    split
    case isFalse => exact hkeep _ rfl h.link rfl rfl rfl
    case isTrue hchanged =>
      split
      case isTrue hdown =>
        subst hdown
        have hprevious : s.previousLinkUp = true := by simpa using hchanged.symm
        exact absurd (hup (h.link.symm.trans hprevious)) nofun
      case isFalse hnow =>
        have hnow : up = true := by simpa using hnow
        subst hnow
        have hprevious : s.previousLinkUp = false := by simpa using hchanged.symm
        rw [if_pos (h.link.symm.trans hprevious)]
        exact hkeep _ rfl rfl rfl rfl rfl

/-! ## Steps and runs -/

theorem spiStep_attending (h : s.Attending) (waits : s.Waits s.pc) {taken : Bool}
    (next : s.spiStep .ok taken = some s') : s'.Attending ∧ s'.Waits s'.pc := by
  unfold spiStep at next
  split at next
  case h_1 caller hpc | h_2 caller hpc =>
    rw [hpc] at waits
    cases next
    exact ⟨h.quiet rfl rfl rfl waits.1, waits⟩
  case h_3 call hpc =>
    rw [hpc] at waits
    cases next
    exact writeCommand_attending h hpc waits taken
  case h_4 call startTick hpc =>
    rw [hpc] at waits
    cases next
    exact pollCommand_attending h hpc waits
  case h_5 function caller startTick hpc =>
    rw [hpc] at waits
    cases next
    exact pollStatus_attending h hpc waits
  case h_6 hpc =>
    have hwill : s.willRestart = s.tcpLifecycleRestartPending := willRestart_of hpc fun _ => rfl
    have hread : ({ s with socket0SpiStatus := some .ok } : TcpServer).Attending :=
      h.keep rfl rfl rfl rfl rfl rfl
    cases next
    exact ⟨socketPolled_attending hread hwill, serve_waits _⟩
  case h_7 chunk hpc =>
    have hwill : s.willRestart = s.tcpLifecycleRestartPending := willRestart_of hpc fun _ => rfl
    cases next
    exact ⟨h.keep rfl rfl rfl rfl rfl hwill.symm, trivial⟩
  case h_8 => cases next

theorem codeStep_attending (h : s.Attending) (waits : s.Waits s.pc)
    (hsynRecv : s.GivesUpSynRecv → s.chip.status ≠ Socket0Status.established)
    (next : s.codeStep = some s') : s'.Attending ∧ s'.Waits s'.pc := by
  unfold codeStep at next
  split at next
  case h_1 caller status hpc =>
    rw [hpc] at waits
    cases next
    exact afterServer_attending h hpc waits
  case h_2 status hpc =>
    rw [hpc] at waits
    cases next
    unfold afterDisconnect
    split
    · exact ⟨h.quiet rfl rfl rfl waits, trivial⟩
    · exact ⟨h.quiet rfl rfl rfl waits, trivial⟩
  case h_3 hpc | h_7 hpc | h_9 hpc | h_10 hpc =>
    have hwill : s.willRestart = s.tcpLifecycleRestartPending := willRestart_of hpc fun _ => rfl
    cases next
    exact ⟨h.keep rfl rfl rfl rfl rfl hwill.symm, trivial⟩
  case h_4 hpc =>
    have hwill : s.willRestart = s.tcpLifecycleRestartPending := willRestart_of hpc fun _ => rfl
    have hdue : ({ s with dataServiceDue := tickReached s.now s.nextDataServiceTick } :
        TcpServer).Attending := h.keep rfl rfl rfl rfl rfl rfl
    cases next
    split
    · exact ⟨h.keep rfl rfl rfl rfl rfl hwill.symm, trivial⟩
    · exact ⟨dataPlane_attending hdue hwill, dataPlane_waits _⟩
  case h_5 hpc =>
    cases next
    exact control_attending h hpc hsynRecv
  case h_6 hpc =>
    have hwill : s.willRestart = s.tcpLifecycleRestartPending := willRestart_of hpc fun _ => rfl
    have hnext : ({ s with nextPhyTick := nextDeadline s.nextPhyTick phyPeriodTicks s.now } :
        TcpServer).Attending := h.keep rfl rfl rfl rfl rfl rfl
    cases next
    exact ⟨dataPlane_attending hnext hwill, dataPlane_waits _⟩
  case h_8 byte rest hpc =>
    have hwill : s.willRestart = s.tcpLifecycleRestartPending := willRestart_of hpc fun _ => rfl
    cases next
    exact ⟨h.keep rfl rfl rfl rfl rfl hwill.symm, trivial⟩
  case h_11 => cases next

theorem step_attending (h : s.Attending) (waits : s.Waits s.pc) {a : TcpServerAction}
    (allowed : s.Noticed a) (next : s.step a = some s') : s'.Attending ∧ s'.Waits s'.pc := by
  obtain ⟨hundisturbed, hsocket, hcode⟩ := allowed
  cases a with
  | tick ticks =>
    cases next
    exact ⟨h.keep rfl rfl rfl rfl rfl rfl, waits⟩
  | execute =>
    have hidle : (0 : UInt8) ≠ listenCommand := by decide
    cases next
    refine ⟨?_, waits.chip (fun hset => hset.of_execute) (fun hcr => absurd hcr hidle)
      fun hclose => .inr (ServerSocket.execute_close hclose)⟩
    refine
      { unlost := h.unlost
        link := h.link
        healthy := ?_
        heard := fun hset => h.heard hset.of_execute
        unexecuted := fun hcr => absurd hcr hidle }
    intro hnew
    rcases s.chip.execute_status with hsame | hne
    · exact h.healthy (hsame.symm.trans hnew)
    · exact absurd hnew hne
  | socket status =>
    obtain ⟨chip, hchip, rfl⟩ := Option.map_eq_some_iff.mp next
    obtain ⟨hstatus, hcr⟩ := ServerSocket.goto_eq hchip
    have hlistening : chip.Listening → s.chip.Listening := fun hset =>
      hset.of_goto hundisturbed hchip
    refine ⟨?_, waits.chip hlistening (fun hset => hcr.symm.trans hset) fun hclose =>
      .inl (hcr.trans hclose)⟩
    exact
      { unlost := h.unlost
        link := h.link
        healthy := fun hnew => hsocket (by rw [← hstatus]; exact congrArg _ hnew)
        heard := fun hset => h.heard (hlistening hset)
        unexecuted := fun hset => h.unexecuted (hcr.symm.trans hset) }
  | network configOk readbackOk =>
    simp only [step] at next
    split at next
    case isFalse => cases next
    case isTrue hpc =>
      rw [hpc] at waits
      cases next
      split
      · exact ⟨h.quiet rfl rfl rfl waits.1, waits⟩
      · exact ⟨h.quiet rfl rfl rfl waits.1, trivial⟩
  | spi status taken =>
    have hstatus : status = .ok := hundisturbed
    subst hstatus
    exact spiStep_attending h waits next
  | phy status up =>
    obtain ⟨hstatus, hup⟩ := hundisturbed
    subst hstatus
    simp only [step] at next
    split at next
    case isFalse => cases next
    case isTrue hpc =>
      cases next
      exact ⟨samplePhy_attending h hpc hup, trivial⟩
  | receive bytes =>
    simp only [step] at next
    split at next
    case isFalse => cases next
    case isTrue hpc =>
      have hwill : s.willRestart = s.tcpLifecycleRestartPending :=
        willRestart_of hpc fun _ => rfl
      cases next
      cases bytes with
      | none => exact ⟨h.keep rfl rfl rfl rfl rfl hwill.symm, trivial⟩
      | some bytes => exact ⟨h.keep rfl rfl rfl rfl rfl hwill.symm, trivial⟩
  | code => exact codeStep_attending h waits (hcode rfl) next

theorem initial_attending (packet : ProtocolPacket) (now : UInt32) :
    (initial packet now).Attending ∧ (initial packet now).Waits (initial packet now).pc := by
  have hquiet : ¬ (initial packet now).chip.Listening := by
    show ¬ (Socket0Status.closed = _ ∨ Socket0Status.closed = _ ∨ Socket0Status.closed = _ ∨
      (0 : UInt8) = listenCommand)
    decide
  refine ⟨?_, hquiet, rfl⟩
  exact
    { unlost := rfl
      link := rfl
      healthy := fun hstatus => absurd hstatus (not_established hquiet)
      heard := fun hset => absurd hset hquiet
      unexecuted := fun hcr => absurd (.inr (.inr (.inr hcr))) hquiet }

end TcpServer

open TcpServer

/-- `w5500_restart_tcp_server` never closes a connection, as long as none is established while the
    server counts as failed and the control plane does not give up on a SYNRECV behind which one has
    been. -/
theorem ethernetTask_keepsConnection (packet : ProtocolPacket) (now : UInt32) {s : TcpServer}
    (h : Reachable step Noticed (initial packet now) s) : ¬ s.ClosesConnection := by
  obtain ⟨hattending, hwaits⟩ : s.Attending ∧ s.Waits s.pc := by
    refine h.invariant (P := fun s => s.Attending ∧ s.Waits s.pc) (initial_attending packet now) ?_
    intro s a s' hs allowed next
    exact step_attending hs.1 hs.2 allowed next
  rintro ⟨hstatus, caller, hpc⟩
  have hwill := hattending.healthy hstatus
  rw [willRestart, hpc] at hwill
  rw [hpc] at hwaits
  exact absurd (hwaits.1.symm.trans hwill) nofun

/-- A client connects, closes, and is closed by the server when DISCON has had no effect for three
    seconds. -/
def servedRun : List TcpServerAction :=
  List.flatten
    [[.network true true], serverStarts,
      [.code, .code, .phy .ok true, .code, .code, .socket Socket0Status.synRecv,
        .socket Socket0Status.established, .spi .ok true, .receive none, .code, .code,
        .socket Socket0Status.closeWait, .tick 1, .code, .spi .ok true, .code, .code, .tick 100,
        .code, .phy .ok true, .code, .spi .ok true, .execute, .spi .ok true, .code, .code,
        .spi .ok true, .code, .code, .tick 3000, .code, .phy .ok true, .code, .code,
        .spi .ok true, .code, .code, .tick 100, .code, .phy .ok true, .code]]

theorem ethernetTask_keepsConnection_served :
    ∃ s, Reachable step Noticed (initial .zero 0) s ∧
      (s.pc = .writeCommand (.server .restart .lifecycle) ∧ s.chip.connection = 1) ∧
      ¬ s.ClosesConnection := by
  obtain ⟨s, run, htest⟩ := exists_reachable step Noticed (initial .zero 0) servedRun
    (fun s => decide (s.pc = .writeCommand (.server .restart .lifecycle) ∧ s.chip.connection = 1))
    (by decide +kernel)
  exact ⟨s, run, of_decide_eq_true htest, ethernetTask_keepsConnection .zero 0 run⟩

/-- A client connects between LISTEN and the first read of Sn_SR behind it. -/
def fastClientRun : List TcpServerAction :=
  [.network true true, .spi .ok true, .spi .ok true, .spi .ok true, .execute, .spi .ok true,
    .spi .ok true, .spi .ok true, .execute, .socket Socket0Status.synRecv,
    .socket Socket0Status.established, .spi .ok true, .spi .ok true, .tick 1000, .spi .ok true,
    .code, .code, .code, .phy .ok true, .code, .code, .spi .ok true, .receive none, .code, .code,
    .tick 100, .code, .phy .ok true, .code]

/-- The server times out waiting for LISTEN, serves the client for 100 ms, and then closes the
    connection. -/
theorem ethernetTask_closesConnection :
    ∃ s, Reachable step Undisturbed (initial .zero 0) s ∧ s.ClosesConnection := by
  obtain ⟨s, run, htest⟩ := exists_reachable step Undisturbed (initial .zero 0) fastClientRun
    (fun s => decide (s.chip.status = Socket0Status.established ∧
      s.pc = .writeCommand (.server .restart .lifecycle))) (by decide +kernel)
  obtain ⟨hstatus, hpc⟩ := of_decide_eq_true htest
  exact ⟨s, run, hstatus, _, hpc⟩

end Rs422Gateway
