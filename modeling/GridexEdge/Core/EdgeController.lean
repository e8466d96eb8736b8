import GridexEdge.Core.SafetyEnvelope

/-!
The Edge controller: one tick polls the vendor, refreshes the heartbeat,
decides the power and writes it.

`tick` is split where the code's own sequence splits: what the poll and the
heartbeat give, the decision, and the write.
-/

namespace GridexEdge.Core

open Foundation

structure ControllerConfig where
  emsTimeout : Int := seconds 15
  heartbeatRefresh : Int := seconds 35
  heartbeatTimeoutSeconds : UInt16 := 60
  configuredLimit : ConfiguredPowerLimit := {}

structure ControllerSnapshot where
  state : EdgeState := .boot
  battery : BatteryTelemetry := {}
  command : SafetyResult := {}
  emsConnected : Bool := false
  heartbeatOk : Bool := false

structure EdgeController where
  config : ControllerConfig := {}
  requestedPowerKw : ℚ := 0
  site : SiteLimit := {}
  lastCommandAt : Option SteadyTime := none
  lastHeartbeatAt : Option SteadyTime := none

namespace EdgeController

def receiveCommand (controller : EdgeController) (requestedPowerKw : ℚ) (site : SiteLimit)
    (now : SteadyTime) : EdgeController :=
  { controller with
    requestedPowerKw := requestedPowerKw
    site := site
    lastCommandAt := some now }

section Tick

variable {Device : Type} (client : IModbusClient Device) (controller : EdgeController)

def emsConnected (now : SteadyTime) : Bool :=
  match controller.lastCommandAt with
  | some commandAt => decide (now - commandAt ≤ controller.config.emsTimeout)
  | none => false

def heartbeatDue (now : SteadyTime) : Bool :=
  match controller.lastHeartbeatAt with
  | some heartbeatAt => decide (controller.config.heartbeatRefresh ≤ now - heartbeatAt)
  | none => true

/-- Refresh the vendor heartbeat when it is due. Only a fully acknowledged
refresh moves its time. -/
def heartbeat (driver : SunStoragePro261Driver) (now : SteadyTime) (bus : Bus Device) :
    Bool × EdgeController × Bus Device :=
  if controller.heartbeatDue now then
    let refreshed := driver.refreshHeartbeat client controller.config.heartbeatTimeoutSeconds bus
    (refreshed.1,
      if refreshed.1 then { controller with lastHeartbeatAt := some now } else controller,
      refreshed.2)
  else (true, controller, bus)

/-- What the envelope is asked in a tick. -/
def safetyInput (battery : BatteryTelemetry) (emsConnected heartbeatOk : Bool) : SafetyInput :=
  { requestedPowerKw := controller.requestedPowerKw
    battery := battery
    site := controller.site
    configuredLimit := controller.config.configuredLimit
    emsConnected := emsConnected && heartbeatOk }

def tickState (battery : BatteryTelemetry) (emsConnected heartbeatOk : Bool) : EdgeState :=
  if !heartbeatOk then .fault
  else if battery.quality ≠ .good then .waitingForComms
  else if !battery.limitsValid then .waitingForBmsLimits
  else if !battery.controlReady then
    if battery.pcsFault || battery.bmsFault || battery.pcsCommunicationFault ||
        battery.bmsCommunicationFault then .fault
    else .waitingForPcsReady
  else if !emsConnected then .safeMode
  else .ready

/-- The state and command of a tick, and the bus after the setpoint write. -/
def settle (driver : SunStoragePro261Driver) (battery : BatteryTelemetry)
    (emsConnected heartbeatOk : Bool) (bus : Bus Device) : ControllerSnapshot × Bus Device :=
  let command := SafetyEnvelope.apply (controller.safetyInput battery emsConnected heartbeatOk)
  if !driver.writesEnabled then
    ({ state := .commissioningLocked
       battery := battery
       command := { command with
        appliedPowerKw := 0
        clamped := command.clamped || controller.requestedPowerKw != 0
        reason := "write path locked until commissioning is approved" }
       emsConnected := emsConnected
       heartbeatOk := heartbeatOk }, bus)
  else
    let snapshot : ControllerSnapshot :=
      { state := tickState battery emsConnected heartbeatOk
        battery := battery
        command := command
        emsConnected := emsConnected
        heartbeatOk := heartbeatOk }
    if battery.controlReady then
      let written := driver.writePowerSetpointKw client command.appliedPowerKw bus
      if written.1 then (snapshot, written.2)
      else
        ({ snapshot with
          state := .fault
          command := { command with
            appliedPowerKw := 0
            clamped := true
            reason := "PCS command write failed" } }, written.2)
    else (snapshot, bus)

def tick (driver : SunStoragePro261Driver) (now : SteadyTime) (bus : Bus Device) :
    ControllerSnapshot × EdgeController × SunStoragePro261Driver × Bus Device :=
  let polled := driver.poll client bus
  let beat := controller.heartbeat client polled.2.1 now polled.2.2
  let settled := controller.settle client polled.2.1 polled.1
    (controller.emsConnected now) beat.1 beat.2.2
  (settled.1, beat.2.1, polled.2.1, settled.2)

end Tick

/-! ### What a tick does -/

section Effects

variable {Device : Type} (client : IModbusClient Device) (controller : EdgeController)
  (driver : SunStoragePro261Driver) (bus : Bus Device)

/-- A tick's setpoint write happens behind the control gate of its own poll,
through the driver, with the power the envelope decided. -/
theorem settle_cases (battery : BatteryTelemetry) (emsConnected heartbeatOk : Bool) :
    let power := (SafetyEnvelope.apply
      (controller.safetyInput battery emsConnected heartbeatOk)).appliedPowerKw
    let settled := controller.settle client driver battery emsConnected heartbeatOk bus
    settled.2 = bus ∨
      battery.controlReady = true ∧ driver.AdmitsPower power ∧
        settled.2 = (bus.write client Registers.pcsPowerCommand (encodeSigned power 10)).2 := by
  intro power settled
  unfold settled settle
  split
  · exact .inl rfl
  · dsimp only
    split
    · next ready =>
        by_cases admitted : driver.AdmitsPower power
        · rw [driver.writePowerSetpointKw_of_admits client bus admitted]
          refine .inr ⟨ready, admitted, ?_⟩
          split <;> rfl
        · rw [driver.writePowerSetpointKw_of_not_admits client bus admitted]
          exact .inl rfl
    · exact .inl rfl

theorem settle_written {battery : BatteryTelemetry} {emsConnected heartbeatOk : Bool} {power : ℚ}
    (decided : (SafetyEnvelope.apply
      (controller.safetyInput battery emsConnected heartbeatOk)).appliedPowerKw = power)
    (ready : battery.controlReady = true) (admitted : driver.AdmitsPower power)
    (acknowledged : (bus.write client Registers.pcsPowerCommand (encodeSigned power 10)).1 = true) :
    (controller.settle client driver battery emsConnected heartbeatOk bus).1.command.appliedPowerKw
        = power ∧
      (controller.settle client driver battery emsConnected heartbeatOk bus).2 =
        (bus.write client Registers.pcsPowerCommand (encodeSigned power 10)).2 := by
  have written := driver.writePowerSetpointKw_of_admits client bus admitted
  simp [settle, admitted.1, ready, decided, written, acknowledged]

/-- Behind open gates the decided power is sent, whatever the answer is. -/
theorem settle_of_admits {battery : BatteryTelemetry} {emsConnected heartbeatOk : Bool} {power : ℚ}
    (decided : (SafetyEnvelope.apply
      (controller.safetyInput battery emsConnected heartbeatOk)).appliedPowerKw = power)
    (ready : battery.controlReady = true) (admitted : driver.AdmitsPower power) :
    (controller.settle client driver battery emsConnected heartbeatOk bus).2 =
      (bus.write client Registers.pcsPowerCommand (encodeSigned power 10)).2 := by
  unfold settle
  dsimp only
  rw [decided, driver.writePowerSetpointKw_of_admits client bus admitted, admitted.1, ready]
  split
  · next locked => cases locked
  · rw [if_pos rfl]
    split
    · rfl
    · rfl

theorem settle_emsConnected (battery : BatteryTelemetry) (emsConnected heartbeatOk : Bool) :
    (controller.settle client driver battery emsConnected heartbeatOk bus).1.emsConnected =
      emsConnected := by
  unfold settle
  dsimp only
  split
  · rfl
  · split
    · split
      · rfl
      · rfl
    · rfl

/-- A zero decision is reported as zero on every path. -/
theorem settle_zero {battery : BatteryTelemetry} {emsConnected heartbeatOk : Bool}
    (decided : (SafetyEnvelope.apply
      (controller.safetyInput battery emsConnected heartbeatOk)).appliedPowerKw = 0) :
    (controller.settle client driver battery emsConnected heartbeatOk
      bus).1.command.appliedPowerKw = 0 := by
  unfold settle
  dsimp only
  split
  · rfl
  · split
    · split
      · exact decided
      · rfl
    · exact decided

end Effects

end EdgeController

end GridexEdge.Core
