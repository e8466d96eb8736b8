import Mathlib.Data.Rat.Defs
import Mathlib.Algebra.Order.Ring.Unbundled.Rat

/-!
The data the Edge core passes between its driver, its safety envelope and its
controller.

Physical quantities are exact rationals where the code has doubles. Times are
steady-clock counts in nanoseconds.
-/

namespace GridexEdge.Core

inductive Quality where
  | invalid
  | good
  | stale
  | fault
  deriving DecidableEq

inductive EdgeState where
  | boot
  | waitingForComms
  | waitingForBmsLimits
  | ready
  | safeMode
  | fault
  | commissioningLocked
  | waitingForPcsReady
  deriving DecidableEq

/-- The register value of a state. -/
def EdgeState.code : EdgeState → UInt16
  | .boot => 0
  | .waitingForComms => 1
  | .waitingForBmsLimits => 2
  | .ready => 3
  | .safeMode => 4
  | .fault => 5
  | .commissioningLocked => 6
  | .waitingForPcsReady => 7

structure BatteryTelemetry where
  actualPowerKw : ℚ := 0
  commandedPowerKw : ℚ := 0
  dcPowerKw : ℚ := 0
  reactivePowerKvar : ℚ := 0
  frequencyHz : ℚ := 0
  socPct : ℚ := 0
  sohPct : ℚ := 0
  voltageV : ℚ := 0
  currentA : ℚ := 0
  maxChargeKw : ℚ := 0
  maxDischargeKw : ℚ := 0
  accumulatedChargeKwh : ℚ := 0
  accumulatedDischargeKwh : ℚ := 0
  dailyChargeKwh : ℚ := 0
  dailyDischargeKwh : ℚ := 0
  socUpperLimitPct : ℚ := 0
  socLowerLimitPct : ℚ := 0
  statusCode : UInt16 := 0
  pcsStatusCode : UInt16 := 0
  bmsSystemFlags : UInt16 := 0
  quality : Quality := .invalid
  limitsValid : Bool := false
  pcsPowerOn : Bool := false
  pcsGridTied : Bool := false
  pcsCurrentSourceMode : Bool := false
  pcsFault : Bool := true
  pcsCommunicationFault : Bool := true
  bmsFault : Bool := true
  bmsCommunicationFault : Bool := true
  bmsAlarm : Bool := true
  pcsWarning : Bool := true
  extendedTelemetryValid : Bool := false
  controlReady : Bool := false

structure SiteLimit where
  siteLoadKw : Option ℚ := none
  contractLimitKw : Option ℚ := none

structure ConfiguredPowerLimit where
  maxChargeKw : Option ℚ := none
  maxDischargeKw : Option ℚ := none

structure SafetyInput where
  requestedPowerKw : ℚ := 0
  battery : BatteryTelemetry := {}
  site : SiteLimit := {}
  configuredLimit : ConfiguredPowerLimit := {}
  emsConnected : Bool := false

structure SafetyResult where
  requestedPowerKw : ℚ := 0
  appliedPowerKw : ℚ := 0
  clamped : Bool := false
  reason : String := ""

abbrev SteadyTime := Int

/-- A whole number of seconds on the steady clock. -/
def seconds (count : Int) : Int := count * 1000000000

end GridexEdge.Core
