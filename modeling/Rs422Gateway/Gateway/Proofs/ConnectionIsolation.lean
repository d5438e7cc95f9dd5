import Rs422Gateway.Common.Proofs.Soundness
import Rs422Gateway.Gateway.Proofs.ServerMoves
import Rs422Gateway.Misc.Transition

/-!
# One parser, one connection

The server opens its socket only while no session is active, and a session begins with an
initialised parser on an ESTABLISHED socket. Since OPEN and LISTEN must both come before the next
connection, the connection cannot change during a session, and so every frame that `g_tcp_parser`
cuts out was received on one connection.
-/

namespace Rs422Gateway

open Transition

namespace ServerSocket

variable {c c' : ServerSocket} {status : UInt8}

/-- OPEN and LISTEN have both been written since a connection was established last. -/
def Armed (c : ServerSocket) : Prop := c.opened = true ∧ c.listened = true

/-- If a connection is there, then neither has been written since. -/
def Quiet (c : ServerSocket) : Prop :=
  c.status = Socket0Status.established → c.opened = false ∧ c.listened = false

/-- If a connection is there, then no other can be established in its place. -/
def Unarmed (c : ServerSocket) : Prop := c.status = Socket0Status.established → ¬ c.Armed

theorem Quiet.unarmed (h : c.Quiet) : c.Unarmed := by
  intro hstatus harmed
  exact Bool.false_ne_true ((h hstatus).1.symm.trans harmed.1)

/-- The socket keeps its connection or establishes the next one. -/
theorem goto_cases (h : c.goto status = some c') :
    c' = { c with status := status } ∧
      (status = Socket0Status.established → c.status = Socket0Status.established) ∨
    c.Armed ∧ c'.opened = false ∧ c'.listened = false := by
  unfold goto at h
  split at h
  case isTrue hnew =>
    split at h
    case isTrue harmed =>
      cases h
      exact .inr ⟨harmed, rfl, rfl⟩
    case isFalse => cases h
  case isFalse hold =>
    cases h
    exact .inl ⟨rfl, fun hstatus => Decidable.not_not.mp fun hne => hold ⟨hstatus, hne⟩⟩

theorem Quiet.goto (h : c.Quiet) (moved : c.goto status = some c') : c'.Quiet := by
  intro hstatus
  rcases goto_cases moved with ⟨rfl, hsame⟩ | ⟨-, hopened, hlistened⟩
  · exact h (hsame hstatus)
  · exact ⟨hopened, hlistened⟩

theorem Unarmed.goto (h : c.Unarmed) (moved : c.goto status = some c') : c'.Unarmed := by
  rcases goto_cases moved with ⟨rfl, hsame⟩ | ⟨-, hopened, hlistened⟩
  · exact fun hstatus => h (hsame hstatus)
  · exact Quiet.unarmed fun _ => ⟨hopened, hlistened⟩

theorem Quiet.execute (h : c.Quiet) : c.execute.Quiet := by
  intro hstatus
  rcases c.execute_status with hsame | hne
  · exact h (hsame.symm.trans hstatus)
  · exact absurd hstatus hne

theorem Unarmed.execute (h : c.Unarmed) : c.execute.Unarmed := by
  intro hstatus
  rcases c.execute_status with hsame | hne
  · exact h (hsame.symm.trans hstatus)
  · exact absurd hstatus hne

/-- OPEN or LISTEN alone does not arm the socket. -/
theorem Quiet.writeCr (h : c.Quiet) {command : UInt8}
    (hcommand : command = openCommand ∨ command = listenCommand) :
    (c.writeCr command).Unarmed := by
  intro hstatus
  obtain ⟨hopened, hlistened⟩ := h hstatus
  rcases hcommand with rfl | rfl <;> simp [Armed, ServerSocket.writeCr, hopened, hlistened] <;>
    decide

end ServerSocket

/-- The frame is the last bytes the parser was fed, and all of them came on one connection. -/
def HandedFrame.Isolated (f : HandedFrame) : Prop :=
  ∃ frame connection, encodeFrame f.packet = some frame ∧
    frame <:+ f.bytes.map ReceivedByte.value ∧ ∀ b ∈ f.bytes, b.connection = connection

namespace StreamParser.Receiver

end StreamParser.Receiver

namespace TcpServer

variable {s s' : TcpServer}

/-- What holds at every access. -/
structure Isolating (s : TcpServer) : Prop where
  established : s.tcpSessionActive = true → s.socket0Status = Socket0Status.established
  kept : s.tcpSessionActive = true → ¬ s.chip.Armed
  unarmed : s.chip.Unarmed
  idle : s.tcpSessionActive = false → s.fed = []
  fed : ∀ b ∈ s.fed, b.connection = s.chip.connection
  parsed : ∃ q, s.receiver = (⟨.init, q⟩ : StreamParser.Receiver).feedAll
    (s.fed.map ReceivedByte.value)
  frames : ∀ f ∈ s.frames, f.Isolated

/-- The flag that made the caller restart the server is still set. -/
def StillPending (s : TcpServer) : ServerCaller → Prop
  | .recovery => s.tcpRecoveryPending = true
  | .lifecycle => s.tcpLifecycleRestartPending = true
  | _ => True

/-- Without a restart ahead, the status read last tells whether the socket is quiet. -/
def Settled (s : TcpServer) : Prop :=
  s.tcpLifecycleRestartPending = false → s.tcpRecoveryPending = false →
    s.socket0Status ≠ Socket0Status.established → s.chip.Quiet

/-- What holds besides at each access. -/
def Places (s : TcpServer) : TcpServerPc → Prop
  | .boot => s.tcpSessionActive = false ∧ s.chip.Quiet
  | .writeMode caller => s.tcpSessionActive = false ∧ s.chip.Quiet ∧ s.StillPending caller
  | .writePort caller => s.tcpSessionActive = false ∧ s.chip.Quiet ∧ s.StillPending caller
  | .writeCommand (.server .restart caller) => s.tcpSessionActive = false ∧ s.StillPending caller
  | .writeCommand (.server _ caller) =>
      s.tcpSessionActive = false ∧ s.chip.Quiet ∧ s.StillPending caller
  | .pollCommand (.server _ caller) _ => s.tcpSessionActive = false ∧ s.StillPending caller
  | .pollStatus _ caller _ => s.tcpSessionActive = false ∧ s.StillPending caller
  | .returned caller status =>
      s.tcpSessionActive = false ∧ (status = .ok → s.chip.Quiet) ∧ s.StillPending caller
  | .acknowledge chunk | .writeCommand (.receive chunk) | .pollCommand (.receive chunk) _
  | .feed chunk => s.tcpSessionActive = true ∧ ∀ b ∈ chunk, b.connection = s.chip.connection
  | .receive => s.tcpSessionActive = true
  | _ => s.Settled

/-- The chip takes a step of its own. -/
theorem Places.chip {pc : TcpServerPc} {chip : ServerSocket} (h : s.Places pc)
    (hquiet : s.chip.Quiet → chip.Quiet)
    (hconnection : s.tcpSessionActive = true → chip.connection = s.chip.connection) :
    ({ s with chip := chip } : TcpServer).Places pc := by
  have hchunk : ∀ chunk : List ReceivedByte,
      (s.tcpSessionActive = true ∧ ∀ b ∈ chunk, b.connection = s.chip.connection) →
        s.tcpSessionActive = true ∧ ∀ b ∈ chunk, b.connection = chip.connection := by
    rintro chunk ⟨hactive, hbytes⟩
    exact ⟨hactive, fun b hb => (hbytes b hb).trans (hconnection hactive).symm⟩
  have hsettled : s.Settled → ({ s with chip := chip } : TcpServer).Settled := by
    intro hold hlifecycle hrecovery hstatus
    exact hquiet (hold hlifecycle hrecovery hstatus)
  cases pc with
  | boot => exact ⟨h.1, hquiet h.2⟩
  | writeMode => exact ⟨h.1, hquiet h.2.1, h.2.2⟩
  | writePort => exact ⟨h.1, hquiet h.2.1, h.2.2⟩
  | writeCommand call =>
    cases call with
    | server function caller =>
      cases function with
      | restart => exact h
      | start => exact ⟨h.1, hquiet h.2.1, h.2.2⟩
      | listen => exact ⟨h.1, hquiet h.2.1, h.2.2⟩
    | disconnect => exact hsettled h
    | receive chunk => exact hchunk chunk h
  | pollCommand call =>
    cases call with
    | server function caller => exact h
    | disconnect => exact hsettled h
    | receive chunk => exact hchunk chunk h
  | pollStatus => exact h
  | returned => exact ⟨h.1, fun hstatus => hquiet (h.2.1 hstatus), h.2.2⟩
  | acknowledge chunk => exact hchunk chunk h
  | feed chunk => exact hchunk chunk h
  | receive => exact h
  | disconnected | enterLoop | loop | readPhy | control | controlDeadline | pollSocket
  | dataDeadline | wait => exact hsettled h

/-! ## The functions of the server -/

/-- During a session the socket is ESTABLISHED as far as EthernetTask knows. -/
theorem Isolating.settled (h : s.Isolating) (active : s.tcpSessionActive = true) : s.Settled :=
  fun _ _ hstatus => absurd (h.established active) hstatus

/-- Outside of a session the parser may be initialised. -/
theorem Isolating.invalidate (h : s.Isolating) : s.invalidateConnectionContext.Isolating where
  established := nofun
  kept := nofun
  unarmed := h.unarmed
  idle _ := rfl
  fed := nofun
  parsed := ⟨s.receiver.outPacket, rfl⟩
  frames := h.frames

theorem Isolating.serverReturns (h : s.Isolating) (caller : ServerCaller) (status : HalStatus) :
    (s.serverReturns caller status).Isolating :=
  { h with }

end TcpServer

open TcpServer

end Rs422Gateway
