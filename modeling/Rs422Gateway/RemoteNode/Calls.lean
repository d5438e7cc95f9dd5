import Rs422Gateway.RemoteNode.Node

/-!
# Runs of the remote node

A run is a sequence of calls of the functions of `remote_node.h` on a node, each with what its
callbacks answer. `remote_node_process_bytes` is one call of `remote_node_process_byte` after the
other (`processBytes_eq_run`).
-/

namespace Rs422Gateway

/-- A call on a node after `remote_node_init`. -/
inductive NodeCall where
  | processByte (byte : UInt8) (now : UInt32) (accepted : Bool)
  | processPeriodic (now : UInt32) (telemetryAccepted heartbeatAccepted : Bool)
  | setStatusFlags (statusFlags : UInt16)
  | noteRxOverflow
  | noteUartError
  deriving DecidableEq, Repr

/-- A call of `tx_fn`: the frame, and whether the answer was 0. -/
structure Transmission where
  frame : List UInt8
  accepted : Bool
  deriving DecidableEq, Repr

/-- The bytes of the frame that are put on the wire. `tx_fn` answers -1 also when
    `HAL_UART_Transmit` has timed out behind `cut` bytes (`remote_node_port.c:30-36`). -/
def Transmission.onWire (t : Transmission) (cut : Nat) : List UInt8 :=
  if t.accepted then t.frame else t.frame.take cut

namespace RemoteNode

/-- The node after a call, and the calls of `tx_fn` meanwhile. -/
def call (node : RemoteNode) : NodeCall → RemoteNode × List Transmission
  | .processByte byte now accepted =>
      ((node.processByte byte now accepted).1,
        (node.processByte byte now accepted).2.map (⟨·, accepted⟩))
  | .processPeriodic now telemetryAccepted heartbeatAccepted =>
      ((node.processPeriodic now telemetryAccepted heartbeatAccepted).1,
        (node.periodicTelemetry now telemetryAccepted).2.map (⟨·, telemetryAccepted⟩) ++
          ((node.periodicTelemetry now telemetryAccepted).1.periodicHeartbeat now
            heartbeatAccepted).2.map (⟨·, heartbeatAccepted⟩))
  | .setStatusFlags statusFlags => (node.setStatusFlags statusFlags, [])
  | .noteRxOverflow => (node.noteRxOverflow, [])
  | .noteUartError => (node.noteUartError, [])

/-- The node after a sequence of calls, and the calls of `tx_fn` meanwhile. -/
def run (node : RemoteNode) : List NodeCall → RemoteNode × List Transmission
  | [] => (node, [])
  | c :: rest =>
      (((node.call c).1.run rest).1, (node.call c).2 ++ ((node.call c).1.run rest).2)

/-- What a call has handed to `tx_fn` is what the called function returns here. -/
theorem call_processPeriodic_frames (node : RemoteNode) (now : UInt32)
    (telemetryAccepted heartbeatAccepted : Bool) :
    (node.call (.processPeriodic now telemetryAccepted heartbeatAccepted)).2.map
        Transmission.frame =
      (node.processPeriodic now telemetryAccepted heartbeatAccepted).2 := by
  simp [call, processPeriodic, Function.comp_def]

theorem run_append (node : RemoteNode) (xs ys : List NodeCall) :
    node.run (xs ++ ys) =
      (((node.run xs).1.run ys).1, (node.run xs).2 ++ ((node.run xs).1.run ys).2) := by
  induction xs generalizing node with
  | nil => rfl
  | cons c xs ih => simp only [List.cons_append, run, ih, List.append_assoc]

theorem run_snoc (node : RemoteNode) (calls : List NodeCall) (c : NodeCall) :
    node.run (calls ++ [c]) =
      (((node.run calls).1.call c).1, (node.run calls).2 ++ ((node.run calls).1.call c).2) := by
  rw [run_append]
  simp only [run, List.append_nil]

/-- `remote_node_process_bytes` is a run. -/
theorem processBytes_eq_run (node : RemoteNode) (inputs : List (UInt8 × UInt32 × Bool)) :
    (node.processBytes inputs).1 =
        (node.run (inputs.map fun i => .processByte i.1 i.2.1 i.2.2)).1 ∧
      (node.processBytes inputs).2 =
        (node.run (inputs.map fun i => .processByte i.1 i.2.1 i.2.2)).2.map
          Transmission.frame := by
  induction inputs generalizing node with
  | nil => exact ⟨rfl, rfl⟩
  | cons input inputs ih =>
    obtain ⟨byte, now, accepted⟩ := input
    obtain ⟨hnode, hframes⟩ := ih (node.processByte byte now accepted).1
    refine ⟨hnode, ?_⟩
    simp only [processBytes, hframes, List.map_cons, run, call, List.map_append, List.map_map,
      Function.comp_def, List.map_id']

end RemoteNode

end Rs422Gateway
