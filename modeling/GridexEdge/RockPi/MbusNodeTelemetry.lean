import GridexEdge.Core.Types

/-!
What the gateway knows about one of its nodes.
-/

namespace GridexEdge.RockPi

open GridexEdge.Core

inductive NodePollStatus where
  | unknown
  | online
  | transportFailure
  | identityFailure
  | telemetryFailure
  deriving DecidableEq

/-- The last contact is a count of the system clock, the last sighting one of
the steady clock. -/
structure MbusNodeTelemetry where
  address : UInt8 := 0
  nodeType : UInt16 := 0
  nodeState : UInt16 := 0
  driverId : UInt16 := 0
  quality : UInt16 := 0
  heartbeat : UInt16 := 0
  actualPowerKw : ℚ := 0
  energyWh : UInt32 := 0
  deviceState : UInt16 := 0
  alarmBits : UInt16 := 0
  cloudConnected : Bool := false
  online : Bool := false
  pollStatus : NodePollStatus := .unknown
  consecutiveFailures : UInt32 := 0
  ethernetStatus : UInt16 := 0
  modbusTcpStatus : UInt16 := 0
  driverReady : UInt16 := 0
  deviceBusStatus : UInt16 := 0
  watchdogStatus : UInt16 := 0
  recoveryCount : UInt16 := 0
  ethernetRecoveryCount : UInt16 := 0
  busRecoveryCount : UInt16 := 0
  lastError : UInt16 := 0
  lastSeen : SteadyTime := 0
  lastSuccessfulContact : Int := 0

end GridexEdge.RockPi
