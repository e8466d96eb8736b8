import GridexEdge.Node.EthernetControlServer

/-!
The field firmware: the node, its control endpoint, the installed driver and the
command supervisor, with everything the main loop publishes into registers.

The driver is a parameter. A ghost list records every power command it was given
and whether it took it, newest first.
-/

namespace GridexEdge.Node

open Foundation

/-- A vendor driver over a device of any kind. -/
structure IDeviceDriver (Device : Type) where
  applyPowerCommand : Int16 → Device → Bool × Device

/-- Provisioning replaces the driver with one that refuses everything. -/
inductive InstalledDriver where
  | compiled
  | unconfigured

structure DriverSample where
  actualPowerKwX10 : Int16 := 0
  energyWh : UInt32 := 0
  state : UInt16 := 0
  alarms : UInt16 := 0
  quality : UInt16 := 0

/-- The globals behind the health registers. -/
structure Health where
  ethernetUp : Bool
  listening : Bool
  driverReady : Bool
  deviceBusReady : Bool
  watchdogReady : Bool
  ethernetRecoveries : UInt16
  busRecoveries : UInt16
  lastError : UInt16

structure Firmware (Device : Type) where
  node : MbusNode
  server : EthernetControlServer := {}
  installed : InstalledDriver := .compiled
  device : Device
  lastCommandMs : UInt32 := 0
  lastCommandSequence : UInt16 := 0
  commandArmed : Bool := false
  outputs : List (Int16 × Bool) := []

inductive FirmwareEvent where
  | controlLoop (input : ControlInput)
  | restartControl
  | setRockPiAddress (address : UInt32)
  | provisionNode (address type driverId : Nat)
  | applyCommand (nowMs : UInt32)
  | persistNodeConfig
  | publishDriverSample (sample : DriverSample)
  | publishHealthRegisters (health : Health)
  | publishCounters (uptimeSeconds : UInt32) (cloudConnected : Bool)

def healthRegisters (health : Health) : List (UInt16 × UInt16) :=
  let flag (condition : Bool) : UInt16 := if condition then 1 else 0
  [ (Reg.ethernetStatus, if health.ethernetUp then 2 else 0),
    (Reg.modbusTcpStatus, flag health.listening),
    (Reg.driverReady, flag health.driverReady),
    (Reg.deviceBusStatus, flag health.deviceBusReady),
    (Reg.watchdogStatus, flag health.watchdogReady),
    (Reg.recoveryCount, health.ethernetRecoveries + health.busRecoveries),
    (Reg.ethernetRecoveryCount, health.ethernetRecoveries),
    (Reg.busRecoveryCount, health.busRecoveries),
    (Reg.lastError, health.lastError) ]

def sampleRegisters (sample : DriverSample) : List (UInt16 × UInt16) :=
  [ (Reg.actualPowerKwX10, sample.actualPowerKwX10.toUInt16),
    (Reg.energyWhHigh, (sample.energyWh >>> 16).toUInt16),
    (Reg.energyWhLow, sample.energyWh.toUInt16),
    (Reg.deviceState, sample.state),
    (Reg.alarmBits, sample.alarms),
    (Reg.quality, sample.quality) ]

def counterRegisters (node : MbusNode) (uptimeSeconds : UInt32) (cloudConnected : Bool) :
    List (UInt16 × UInt16) :=
  [ (Reg.uptimeLow, uptimeSeconds.toUInt16),
    (Reg.heartbeat, node.registerValue Reg.heartbeat + 1),
    (Reg.cloudConnected, if cloudConnected then 1 else 0) ]

/-- The millisecond counter may wrap between the two times. -/
def overdue (acceptedMs : UInt32) (ttlSeconds : UInt16) (nowMs : UInt32) : Bool :=
  decide (ttlSeconds.toUInt32 * 1000 < nowMs - acceptedMs)

namespace Firmware

variable {Device : Type} (driver : IDeviceDriver Device) (firmware : Firmware Device)

/-- Power on with a stored configuration. -/
def boot (config : NodeConfig) (device : Device) : Firmware Device :=
  { node := MbusNode.ofConfig config
    device := device }

def sequence : UInt16 := firmware.node.registerValue Reg.commandSequence

def ttlSeconds : UInt16 := firmware.node.registerValue Reg.commandTtlSeconds

def applyPowerCommand (powerKwX10 : Int16) : Bool × Firmware Device :=
  match firmware.installed with
  | .compiled =>
      let answer := driver.applyPowerCommand powerKwX10 firmware.device
      (answer.1, { firmware with
        device := answer.2
        outputs := (powerKwX10, answer.1) :: firmware.outputs })
  | .unconfigured =>
      (false, { firmware with outputs := (powerKwX10, false) :: firmware.outputs })

def enabled : Bool := firmware.node.registerValue Reg.commandEnable == 1

def ttlValid : Bool := decide (1 ≤ firmware.ttlSeconds) && decide (firmware.ttlSeconds ≤ 30)

def requested : Int16 := (firmware.node.registerValue Reg.requestedPowerKwX10).toInt16

/-- The driver is asked only for an enabled command with a valid TTL. -/
def accepted : Bool × Firmware Device :=
  if firmware.enabled && firmware.ttlValid then
    firmware.applyPowerCommand driver firmware.requested
  else (false, firmware)

/-- A new sequence: every refusal shows zero and disarms. -/
def takeSequence (nowMs : UInt32) : Firmware Device :=
  let answer := firmware.accepted driver
  { answer.2 with
    node := (firmware.node.setRegister Reg.appliedPowerKwX10
        (if answer.1 then firmware.requested.toUInt16 else 0)).setRegister
      Reg.lastCommandResult (if answer.1 then 1 else if firmware.ttlValid then 2 else 4)
    lastCommandSequence := firmware.sequence
    lastCommandMs := nowMs
    commandArmed := answer.1 }

def expire : Firmware Device :=
  let answer := firmware.applyPowerCommand driver 0
  { answer.2 with
    node := (firmware.node.setRegister Reg.appliedPowerKwX10 0).setRegister
      Reg.lastCommandResult 3
    commandArmed := false }

/-- A sequence that was seen before is left alone. -/
def takeNewSequence (nowMs : UInt32) : Firmware Device :=
  if firmware.sequence ≠ firmware.lastCommandSequence then firmware.takeSequence driver nowMs
  else firmware

def expireOverdue (ttlSeconds : UInt16) (nowMs : UInt32) : Firmware Device :=
  if firmware.commandArmed && overdue firmware.lastCommandMs ttlSeconds nowMs then
    firmware.expire driver
  else firmware

/-- Both halves go by the TTL register as it is when the call begins. -/
def applyCommand (nowMs : UInt32) : Firmware Device :=
  (firmware.takeNewSequence driver nowMs).expireOverdue driver firmware.ttlSeconds nowMs

def persistNodeConfig : Firmware Device :=
  { firmware with node := firmware.node.takeConfigurationChanged.2 }

/-- The serial command, after its three numbers were scanned. -/
def provisionNode (address type driverId : Nat) : Firmware Device :=
  if 247 < address ∨ NodeType.secondCabinet.toNat < type ∨ 65535 < driverId then firmware
  else
    match firmware.node.provision (UInt8.ofNat address) (UInt16.ofNat type)
        (UInt16.ofNat driverId) with
    | (false, _) => firmware
    | (true, node) =>
        { { firmware with node := node }.persistNodeConfig with installed := .unconfigured }

def step : FirmwareEvent → Firmware Device
  | .controlLoop input =>
      let looped := firmware.server.loop firmware.node input
      { firmware with server := looped.2.1, node := looped.2.2 }
  | .restartControl => { firmware with server := firmware.server.restart }
  | .setRockPiAddress address =>
      { firmware with server := firmware.server.setRockPiAddress address }
  | .provisionNode address type driverId => firmware.provisionNode address type driverId
  | .applyCommand nowMs => firmware.applyCommand driver nowMs
  | .persistNodeConfig => firmware.persistNodeConfig
  | .publishDriverSample sample =>
      { firmware with node := firmware.node.setRegisters (sampleRegisters sample) }
  | .publishHealthRegisters health =>
      { firmware with node := firmware.node.setRegisters (healthRegisters health) }
  | .publishCounters uptimeSeconds cloudConnected =>
      { firmware with
        node := firmware.node.setRegisters
          (counterRegisters firmware.node uptimeSeconds cloudConnected) }

/-- A property of the supervisor's calls, as one of states and events. -/
def AtCalls (Property : Firmware Device → UInt32 → Prop) : Firmware Device → FirmwareEvent → Prop
  | firmware, .applyCommand nowMs => Property firmware nowMs
  | _, _ => True

instance decidableAtCalls {Property : Firmware Device → UInt32 → Prop}
    [∀ firmware nowMs, Decidable (Property firmware nowMs)] :
    ∀ firmware event, Decidable (AtCalls Property firmware event)
  | firmware, .applyCommand nowMs => inferInstanceAs (Decidable (Property firmware nowMs))
  | _, .controlLoop _ => .isTrue trivial
  | _, .restartControl => .isTrue trivial
  | _, .setRockPiAddress _ => .isTrue trivial
  | _, .provisionNode _ _ _ => .isTrue trivial
  | _, .persistNodeConfig => .isTrue trivial
  | _, .publishDriverSample _ => .isTrue trivial
  | _, .publishHealthRegisters _ => .isTrue trivial
  | _, .publishCounters _ _ => .isTrue trivial

/-! ### The supervisor's own state -/

structure SameSupervisor (before after : Firmware Device) : Prop where
  lastCommandMs : after.lastCommandMs = before.lastCommandMs
  lastCommandSequence : after.lastCommandSequence = before.lastCommandSequence
  commandArmed : after.commandArmed = before.commandArmed
  outputs : after.outputs = before.outputs

theorem SameSupervisor.refl : SameSupervisor firmware firmware := ⟨rfl, rfl, rfl, rfl⟩

theorem provisionNode_sameSupervisor (address type driverId : Nat) :
    SameSupervisor firmware (firmware.provisionNode address type driverId) := by
  unfold provisionNode
  split
  · exact .refl firmware
  · split
    · exact .refl firmware
    · exact ⟨rfl, rfl, rfl, rfl⟩

/-- What provisioning leaves of the node's change flag is cleared at once. -/
theorem provisionNode_node (address type driverId : Nat) :
    (firmware.provisionNode address type driverId).node = firmware.node ∨
      (firmware.provisionNode address type driverId).node =
        (firmware.node.provision (UInt8.ofNat address) (UInt16.ofNat type)
          (UInt16.ofNat driverId)).2.takeConfigurationChanged.2 := by
  unfold provisionNode
  split
  · exact .inl rfl
  · split
    · exact .inl rfl
    · next node provisioned => exact .inr (by rw [provisioned]; rfl)

/-- Nothing but its own call changes the supervisor or gives the driver a command. -/
theorem step_sameSupervisor (event : FirmwareEvent)
    (other : ∀ nowMs, event ≠ .applyCommand nowMs) :
    SameSupervisor firmware (firmware.step driver event) := by
  cases event with
  | applyCommand nowMs => exact absurd rfl (other nowMs)
  | provisionNode address type driverId =>
      exact firmware.provisionNode_sameSupervisor address type driverId
  | _ => constructor <;> simp only [step, persistNodeConfig]

@[simp]
theorem takeSequence_commandArmed (nowMs : UInt32) :
    (firmware.takeSequence driver nowMs).commandArmed = (firmware.accepted driver).1 := rfl

/-- The outputs a new sequence leaves behind. -/
theorem accepted_outputs :
    (firmware.accepted driver).2.outputs = firmware.outputs ∧
        (firmware.accepted driver).1 = false ∨
      (firmware.accepted driver).2.outputs =
        (firmware.requested, (firmware.accepted driver).1) :: firmware.outputs := by
  unfold accepted
  split
  · refine .inr ?_
    unfold applyPowerCommand
    split <;> rfl
  · exact .inl ⟨rfl, rfl⟩

theorem expire_outputs :
    (firmware.expire driver).outputs =
      (0, (firmware.applyPowerCommand driver 0).1) :: firmware.outputs := by
  unfold expire applyPowerCommand
  split <;> rfl

theorem expire_lastCommand :
    (firmware.expire driver).lastCommandMs = firmware.lastCommandMs ∧
      (firmware.expire driver).lastCommandSequence = firmware.lastCommandSequence := by
  unfold expire applyPowerCommand
  split <;> exact ⟨rfl, rfl⟩

/-- A command cannot be overdue in the call that accepts it. -/
theorem not_overdue_self (ttlSeconds : UInt16) (nowMs : UInt32) :
    overdue nowMs ttlSeconds nowMs = false := by
  simp [overdue]

theorem applyCommand_of_new {firmware : Firmware Device} (nowMs : UInt32)
    (new : firmware.sequence ≠ firmware.lastCommandSequence) :
    firmware.applyCommand driver nowMs = firmware.takeSequence driver nowMs := by
  have current : (firmware.takeSequence driver nowMs).lastCommandMs = nowMs := rfl
  rw [applyCommand, takeNewSequence, if_pos new, expireOverdue, current, not_overdue_self]
  simp

theorem applyCommand_of_seen {firmware : Firmware Device} (nowMs : UInt32)
    (seen : firmware.sequence = firmware.lastCommandSequence) :
    firmware.applyCommand driver nowMs =
      firmware.expireOverdue driver firmware.ttlSeconds nowMs := by
  rw [applyCommand, takeNewSequence, if_neg (not_not_intro seen)]

end Firmware

end GridexEdge.Node
