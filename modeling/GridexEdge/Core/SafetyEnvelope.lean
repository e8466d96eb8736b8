import GridexEdge.Core.SunStoragePro261Driver

/-!
The safety envelope: the request clamped into what the battery, the operator
caps and the site contract allow, or zero when any gate is closed.
-/

namespace GridexEdge.Core

open Foundation

/-- Why the PCS is not ready, in the order of the checks. -/
def notReadyReason (battery : BatteryTelemetry) : String :=
  if battery.pcsFault || battery.bmsFault then "active PCS/BMS fault"
  else if battery.pcsCommunicationFault || battery.bmsCommunicationFault then
    "PCS/BMS communication fault"
  else if !battery.pcsPowerOn then "PCS is not powered on (5003 != 1)"
  else if !battery.pcsGridTied then "PCS is not in grid-tied mode (5001 != 0)"
  else if !battery.pcsCurrentSourceMode then "PCS is not in PQ current-source mode (5002 != 1)"
  else "PCS control prerequisites are not satisfied"

namespace SafetyInput

variable (input : SafetyInput)

def maxChargeKw : ℚ :=
  let battery := max 0 input.battery.maxChargeKw
  let configured := match input.configuredLimit.maxChargeKw with
    | some cap => min battery (max 0 cap)
    | none => battery
  match input.site.siteLoadKw, input.site.contractLimitKw with
  | some load, some contract => min configured (max 0 (contract - load))
  | _, _ => configured

def maxDischargeKw : ℚ :=
  let battery := max 0 input.battery.maxDischargeKw
  match input.configuredLimit.maxDischargeKw with
  | some cap => min battery (max 0 cap)
  | none => battery

def lowerBoundKw : ℚ :=
  if chargeProhibited input.battery.bmsSystemFlags then 0 else -input.maxChargeKw

def upperBoundKw : ℚ :=
  if dischargeProhibited input.battery.bmsSystemFlags then 0 else input.maxDischargeKw

theorem maxChargeKw_nonneg : 0 ≤ input.maxChargeKw := by
  unfold maxChargeKw
  dsimp only
  split <;> split <;> simp

theorem maxDischargeKw_nonneg : 0 ≤ input.maxDischargeKw := by
  unfold maxDischargeKw
  dsimp only
  split <;> simp

theorem maxChargeKw_le : input.maxChargeKw ≤ max 0 input.battery.maxChargeKw := by
  unfold maxChargeKw
  dsimp only
  split
  · refine (min_le_left _ _).trans ?_
    split
    · exact min_le_left _ _
    · exact le_rfl
  · split
    · exact min_le_left _ _
    · exact le_rfl

theorem maxDischargeKw_le : input.maxDischargeKw ≤ max 0 input.battery.maxDischargeKw := by
  unfold maxDischargeKw
  dsimp only
  split
  · exact min_le_left _ _
  · exact le_rfl

theorem lowerBoundKw_nonpos : input.lowerBoundKw ≤ 0 := by
  unfold lowerBoundKw
  split
  · exact le_rfl
  · exact neg_nonpos.mpr input.maxChargeKw_nonneg

theorem upperBoundKw_nonneg : 0 ≤ input.upperBoundKw := by
  unfold upperBoundKw
  split
  · exact le_rfl
  · exact input.maxDischargeKw_nonneg

/-- The gates in front of the clamp. -/
def Open : Prop :=
  input.emsConnected = true ∧ input.battery.quality = .good ∧
    input.battery.limitsValid = true ∧ input.battery.controlReady = true

instance : Decidable input.Open := by
  unfold Open
  infer_instance

end SafetyInput

namespace SafetyEnvelope

def apply (input : SafetyInput) : SafetyResult :=
  let refused (reason : String) : SafetyResult :=
    { requestedPowerKw := input.requestedPowerKw
      appliedPowerKw := 0
      clamped := decide (1 / 1000 < |input.requestedPowerKw|)
      reason := reason }
  if !input.emsConnected then refused "EMS connection stale or missing"
  else if input.battery.quality ≠ .good then refused "vendor telemetry is not valid"
  else if !input.battery.limitsValid then
    refused "BMS charge/discharge limits are not valid"
  else if !input.battery.controlReady then refused (notReadyReason input.battery)
  else
    let appliedPowerKw := clamp input.requestedPowerKw input.lowerBoundKw input.upperBoundKw
    let clamped : Bool := decide (1 / 1000 < |appliedPowerKw - input.requestedPowerKw|)
    { requestedPowerKw := input.requestedPowerKw
      appliedPowerKw := appliedPowerKw
      clamped := clamped
      reason :=
        if chargeProhibited input.battery.bmsSystemFlags ∧ input.requestedPowerKw < 0 then
          "BMS charge prohibited"
        else if dischargeProhibited input.battery.bmsSystemFlags ∧ 0 < input.requestedPowerKw then
          "BMS discharge prohibited"
        else if clamped ∧ input.requestedPowerKw < input.lowerBoundKw then
          "charge command clamped by BMS/software fuse"
        else if clamped ∧ input.upperBoundKw < input.requestedPowerKw then
          "discharge command clamped by BMS limit"
        else "safe" }

/-- The whole power decision: the clamp behind the gates. -/
theorem apply_appliedPowerKw (input : SafetyInput) :
    (apply input).appliedPowerKw =
      if input.Open then
        clamp input.requestedPowerKw input.lowerBoundKw input.upperBoundKw
      else 0 := by
  by_cases opened : input.Open
  · obtain ⟨connected, good, limits, ready⟩ := opened
    simp [apply, SafetyInput.Open, connected, good, limits, ready]
  · rw [if_neg opened]
    unfold apply
    dsimp only
    split
    · rfl
    · split
      · rfl
      · split
        · rfl
        · split
          · rfl
          · exact absurd (by simp_all [SafetyInput.Open]) opened

theorem apply_mem_uIcc (input : SafetyInput) :
    (apply input).appliedPowerKw ∈ Set.uIcc 0 input.requestedPowerKw := by
  rw [apply_appliedPowerKw]
  split
  · exact clamp_mem_uIcc input.lowerBoundKw_nonpos input.upperBoundKw_nonneg
  · exact Set.left_mem_uIcc

theorem apply_of_not_open {input : SafetyInput} (closed : ¬input.Open) :
    (apply input).appliedPowerKw = 0 := by
  rw [apply_appliedPowerKw, if_neg closed]

theorem lowerBoundKw_le_apply (input : SafetyInput) :
    input.lowerBoundKw ≤ (apply input).appliedPowerKw := by
  rw [apply_appliedPowerKw]
  split
  · exact low_le_clamp _ (input.lowerBoundKw_nonpos.trans input.upperBoundKw_nonneg)
  · exact input.lowerBoundKw_nonpos

theorem apply_le_upperBoundKw (input : SafetyInput) :
    (apply input).appliedPowerKw ≤ input.upperBoundKw := by
  rw [apply_appliedPowerKw]
  split
  · exact clamp_le_high _ (input.lowerBoundKw_nonpos.trans input.upperBoundKw_nonneg)
  · exact input.upperBoundKw_nonneg

end SafetyEnvelope

end GridexEdge.Core
