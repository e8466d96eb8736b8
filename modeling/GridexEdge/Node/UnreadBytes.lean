import GridexEdge.Foundation.Runs
import GridexEdge.Node.Firmware
import GridexEdge.Node.Replies

/-!
What the endpoint holds of its client's frame while the main loop goes on.

Between two sends of the client all events are quiet. They leave the bytes received
so far as they are, or drop the client.
-/

namespace GridexEdge.Node

open Foundation

/-- Everything the node does without hearing from a client. -/
def FirmwareEvent.isQuiet : FirmwareEvent → Bool
  | .controlLoop input => input.candidate.isNone && input.available.isEmpty
  | _ => true

namespace EthernetControlServer

/-- The beginning of a frame, empty or longer, but not all of it. -/
def Beginning (bytes : List UInt8) : Prop := ∃ rest, rest ≠ [] ∧ Sendable (bytes ++ rest)

theorem beginning_nil : Beginning [] :=
  ⟨Mbap.adu 0 0 [0], by simp [Mbap.adu_eq], sendable_adu 0 0 (by simp) (by simp)⟩

/-- Of its client the endpoint has received these bytes, unless it has none. -/
def Holds (server : EthernetControlServer) (bytes : List UInt8) : Prop :=
  server.client = none ∨ server.rx = bytes

variable {server : EthernetControlServer} (node : MbusNode)

/-- A client that asks to connect is refused, or starts with an empty buffer. -/
theorem loop_of_candidate (server : EthernetControlServer) (remoteIP nowMs : UInt32) :
    let looped := server.loop node
      { connected := false, candidate := some remoteIP, available := [], nowMs := nowMs }
    looped.1 = [] ∧ looped.2.1.Holds [] := by
  intro looped
  by_cases allowed : server.sourceAllowed remoteIP = true
  · have accepted := loop_of_connect node allowed nowMs
    rw [show looped = _ from accepted]
    exact ⟨rfl, .inr rfl⟩
  · have refused : looped =
        ([], { server with client := none, rejectedClients := server.rejectedClients + 1 },
          node) := by
      simp [looped, EthernetControlServer.loop, acceptClient, allowed]
    rw [refused]
    exact ⟨rfl, .inl rfl⟩

theorem holds_of_quiet_loop {bytes : List UInt8} (beginning : Beginning bytes)
    (holds : server.Holds bytes) {input : ControlInput} (unasked : input.candidate = none)
    (silent : input.available = []) : (server.loop node input).2.1.Holds bytes := by
  obtain ⟨rest, unfinished, sendable⟩ := beginning
  by_cases dropped : server.client = none
  · rw [loop_of_dropped node dropped unasked]
    exact .inl rfl
  · have received := holds.resolve_left dropped
    unfold EthernetControlServer.loop acceptClient
    rw [unasked]
    by_cases connected : (server.client.isSome && input.connected) = true
    · have unchanged : server.readAvailable input = server := by
        unfold readAvailable
        rw [silent]
        simp
      have waiting := processFrames_of_beginning node (by rwa [received]) unfinished
      rw [if_pos connected]
      dsimp only
      rw [if_neg dropped, unchanged, waiting]
      dsimp only
      split
      · exact .inl rfl
      · exact .inr received
    · rw [if_neg connected]
      exact .inl rfl

end EthernetControlServer

namespace Firmware

variable {Device : Type} (driver : IDeviceDriver Device)

/-- The supervisor and provisioning leave the endpoint alone. -/
theorem applyPowerCommand_server (firmware : Firmware Device) (powerKwX10 : Int16) :
    (firmware.applyPowerCommand driver powerKwX10).2.server = firmware.server := by
  unfold applyPowerCommand
  split <;> rfl

theorem applyCommand_server (firmware : Firmware Device) (nowMs : UInt32) :
    (firmware.applyCommand driver nowMs).server = firmware.server := by
  have taken : (firmware.takeNewSequence driver nowMs).server = firmware.server := by
    unfold takeNewSequence takeSequence accepted
    split
    · split
      · exact firmware.applyPowerCommand_server driver _
      · rfl
    · rfl
  unfold applyCommand expireOverdue expire
  split
  · exact (applyPowerCommand_server driver _ 0).trans taken
  · exact taken

theorem provisionNode_server (firmware : Firmware Device) (address type driverId : Nat) :
    (firmware.provisionNode address type driverId).server = firmware.server := by
  unfold provisionNode
  split
  · rfl
  · split <;> rfl

theorem holds_step (firmware : Firmware Device) {event : FirmwareEvent}
    (quiet : event.isQuiet = true) {bytes : List UInt8}
    (beginning : EthernetControlServer.Beginning bytes) (holds : firmware.server.Holds bytes) :
    (firmware.step driver event).server.Holds bytes := by
  cases event with
  | controlLoop input =>
      simp only [FirmwareEvent.isQuiet, Bool.and_eq_true, Option.isNone_iff_eq_none,
        List.isEmpty_iff] at quiet
      exact EthernetControlServer.holds_of_quiet_loop _ beginning holds quiet.1 quiet.2
  | restartControl => exact .inl rfl
  | setRockPiAddress address => exact .inl rfl
  | provisionNode address type driverId =>
      rw [step, provisionNode_server]
      exact holds
  | applyCommand nowMs =>
      rw [step, applyCommand_server]
      exact holds
  | persistNodeConfig => exact holds
  | publishDriverSample sample =>
      rw [step]
      exact holds
  | publishHealthRegisters health =>
      rw [step]
      exact holds
  | publishCounters uptimeSeconds cloudConnected =>
      rw [step]
      exact holds

theorem holds_run (firmware : Firmware Device) {events : List FirmwareEvent}
    (quiet : ∀ event ∈ events, event.isQuiet = true) {bytes : List UInt8}
    (beginning : EthernetControlServer.Beginning bytes) (holds : firmware.server.Holds bytes) :
    (run (step driver) firmware events).server.Holds bytes := by
  apply run_invariant_of_forall (step driver) (fun firmware => firmware.server.Holds bytes) _
    holds quiet
  exact fun firmware event quietEvent => firmware.holds_step driver quietEvent beginning

end Firmware

end GridexEdge.Node
