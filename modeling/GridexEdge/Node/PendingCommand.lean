import GridexEdge.Node.CommandReplay
import GridexEdge.Node.ShownSample

/-!
The command that waits in the window of a node, and the commands its supervisor has
given to the driver.

A call of the supervisor executes what is waiting and leaves nothing waiting. Every
other event of the main loop leaves the window alone.
-/

namespace GridexEdge.Node

open Foundation

/-- A command for the driver as the registers of the window carry it. -/
structure PowerCommand where
  sequence : UInt16
  powerKwX10 : Int16
  ttlSeconds : UInt16
deriving DecidableEq

/-- The registers that a command is made of. -/
def windowAddresses : List UInt16 :=
  [Reg.commandSequence, Reg.requestedPowerKwX10, Reg.commandEnable, Reg.commandTtlSeconds]

/-- The window shows the same command. -/
def SameWindow (node after : MbusNode) : Prop :=
  ∀ address ∈ windowAddresses, after.registerValue address = node.registerValue address

namespace SameWindow

theorem refl (node : MbusNode) : SameWindow node node := fun _ _ => rfl

theorem setRegisters (node : MbusNode) {words : List (UInt16 × UInt16)}
    (apart : (windowAddresses.all fun address => !(words.map Prod.fst).contains address) = true) :
    SameWindow node (node.setRegisters words) := by
  intro address member
  apply node.registerValue_setRegisters_of_not_mem
  simpa using List.all_eq_true.mp apart address member

theorem provision (node : MbusNode) (address : UInt8) (type : NodeType) (driverId : UInt16) :
    SameWindow node (node.provision address type driverId).2 := by
  unfold MbusNode.provision
  split
  · exact .refl node
  · exact setRegisters _ rfl

end SameWindow

namespace Firmware

variable {Device : Type} (driver : IDeviceDriver Device)

/-- What the next call of the supervisor gives to the driver as a new command. -/
def pending (firmware : Firmware Device) : List PowerCommand :=
  if firmware.sequence ≠ firmware.lastCommandSequence ∧ firmware.enabled = true ∧
      firmware.ttlValid = true then
    [{ sequence := firmware.sequence
       powerKwX10 := firmware.requested
       ttlSeconds := firmware.ttlSeconds }]
  else []

def executes : Firmware Device → FirmwareEvent → List PowerCommand
  | firmware, .applyCommand _ => firmware.pending
  | _, _ => []

section Steps

variable {firmware after : Firmware Device}

theorem pending_of_same (window : SameWindow firmware.node after.node)
    (last : after.lastCommandSequence = firmware.lastCommandSequence) :
    after.pending = firmware.pending := by
  have sequence : after.sequence = firmware.sequence :=
    window Reg.commandSequence (by simp [windowAddresses])
  have requested : after.node.registerValue Reg.requestedPowerKwX10 =
      firmware.node.registerValue Reg.requestedPowerKwX10 := window _ (by simp [windowAddresses])
  have enable : after.node.registerValue Reg.commandEnable =
      firmware.node.registerValue Reg.commandEnable := window _ (by simp [windowAddresses])
  have ttl : after.ttlSeconds = firmware.ttlSeconds :=
    window Reg.commandTtlSeconds (by simp [windowAddresses])
  unfold pending enabled ttlValid Firmware.requested
  rw [sequence, requested, enable, ttl, last]

/-- The supervisor writes its two result registers, which lie outside the window. -/
theorem applyCommand_window (firmware : Firmware Device) (nowMs : UInt32) :
    SameWindow firmware.node (firmware.applyCommand driver nowMs).node := by
  apply applyCommand_node driver (SameWindow firmware.node)
  · intro node applied result before address member
    rw [SameWindow.setRegisters node rfl address member]
    exact before address member
  · exact .refl firmware.node

/-- A sequence that was looked at is the last one. -/
theorem applyCommand_pending (firmware : Firmware Device) (nowMs : UInt32) :
    (firmware.applyCommand driver nowMs).pending = [] := by
  have sequence : (firmware.applyCommand driver nowMs).sequence = firmware.sequence :=
    firmware.applyCommand_window driver nowMs Reg.commandSequence (by simp [windowAddresses])
  have seen : ¬((firmware.applyCommand driver nowMs).sequence ≠
      (firmware.applyCommand driver nowMs).lastCommandSequence) := by
    rw [sequence, applyCommand_lastCommandSequence]
    exact not_not_intro rfl
  rw [pending, if_neg fun waiting => seen waiting.1]

/-- What the main loop does by itself leaves the window alone. -/
theorem step_window (event : FirmwareEvent) (own : ∀ input, event ≠ .controlLoop input) :
    SameWindow firmware.node (firmware.step driver event).node := by
  cases event with
  | controlLoop input => exact absurd rfl (own input)
  | restartControl => exact .refl _
  | setRockPiAddress address => exact .refl _
  | provisionNode address type driverId =>
      rcases firmware.provisionNode_node address type driverId with same | provisioned
      · rw [step, same]
        exact .refl _
      · rw [step, provisioned]
        exact SameWindow.provision firmware.node _ _ _
  | applyCommand nowMs => exact firmware.applyCommand_window driver nowMs
  | persistNodeConfig => exact .refl _
  | publishDriverSample sample => exact SameWindow.setRegisters _ rfl
  | publishHealthRegisters health => exact SameWindow.setRegisters _ rfl
  | publishCounters uptimeSeconds cloudConnected => exact SameWindow.setRegisters _ rfl

/-- A command stays pending until the supervisor executes it. -/
theorem executes_append_pending (event : FirmwareEvent)
    (own : ∀ input, event ≠ .controlLoop input) :
    executes firmware event ++ (firmware.step driver event).pending = firmware.pending := by
  by_cases call : ∃ nowMs, event = .applyCommand nowMs
  · obtain ⟨nowMs, rfl⟩ := call
    rw [executes, step, applyCommand_pending, List.append_nil]
  · have other : ∀ nowMs, event ≠ .applyCommand nowMs := fun nowMs same => call ⟨nowMs, same⟩
    have nothing : executes firmware event = [] := by
      cases event with
      | applyCommand nowMs => exact absurd rfl (other nowMs)
      | _ => rfl
    rw [nothing, List.nil_append]
    exact pending_of_same (step_window driver event own)
      (firmware.step_sameSupervisor driver event other).lastCommandSequence

/-- A pass of the endpoint that stores nothing changes nothing of this. -/
theorem pending_controlLoop (input : ControlInput)
    (idle : (firmware.step driver (.controlLoop input)).node = firmware.node) :
    (firmware.step driver (.controlLoop input)).pending = firmware.pending := by
  apply pending_of_same
  · rw [idle]
    exact .refl _
  · rfl

end Steps

/-! ### What reaches the driver -/

end Firmware

end GridexEdge.Node
