import GridexEdge.Core.SafeProjection
import GridexEdge.Core.TickWrites

/-!
The caps of the envelope on the grid of the setpoint register.

The power is cut at the caps first and rounded to a tenth of a kilowatt afterwards. A
cap between two steps is passed when the power rounds up to the step above it. The
battery's own limits lie on the grid.
-/

namespace GridexEdge.Core

open Foundation

/-- Half a step above the last step under a cap is above zero. -/
theorem half_step_pos (cap : ℚ) : (0 : ℚ) < ⌊max 0 cap * 10⌋ + 1 / 2 := by
  have nonneg : 0 ≤ ⌊max 0 cap * 10⌋ :=
    Int.floor_nonneg.mpr (mul_nonneg (le_max_left 0 cap) (by norm_num))
  have cast : (0 : ℚ) ≤ ⌊max 0 cap * 10⌋ := by exact_mod_cast nonneg
  linarith

/-- A power between bounds around zero rounds to a step under the cap exactly when the
request or the upper bound is less than half a step above the last step under it. -/
theorem rounded_le_cap_iff {request low high cap : ℚ} (nonpos : low ≤ 0) (nonneg : 0 ≤ high) :
    (roundHalfAway (clamp request low high * 10) : ℚ) / 10 ≤ max 0 cap ↔
      request * 10 < ⌊max 0 cap * 10⌋ + 1 / 2 ∨ high * 10 < ⌊max 0 cap * 10⌋ + 1 / 2 := by
  have ten : (0 : ℚ) < 10 := by norm_num
  have stepNonneg : 0 ≤ ⌊max 0 cap * 10⌋ :=
    Int.floor_nonneg.mpr (mul_nonneg (le_max_left 0 cap) (le_of_lt ten))
  have below : low < (⌊max 0 cap * 10⌋ + 1 / 2) / 10 :=
    nonpos.trans_lt (div_pos (half_step_pos cap) ten)
  rw [div_le_iff₀ ten, ← Int.le_floor, roundHalfAway_le_iff stepNonneg, ← lt_div_iff₀ ten,
    clamp_lt_iff (nonpos.trans nonneg) below, lt_div_iff₀ ten, lt_div_iff₀ ten]

theorem LeastLimit.lt_iff {limits : List ℚ} {least bound : ℚ} (least_ : LeastLimit limits least)
    (positive : 0 < bound) : least < bound ↔ ∃ limit ∈ limits, limit < bound := by
  constructor
  · intro below
    obtain ⟨limit, member, same⟩ := least_.attained
    exact ⟨limit, member, (le_max_right 0 limit).trans_lt (same ▸ below)⟩
  · rintro ⟨limit, member, below⟩
    exact (least_.lower limit member).trans_lt (max_lt positive below)

namespace SafetyInput

variable (input : SafetyInput)

def dischargeCaps : List ℚ := input.configuredLimit.maxDischargeKw.toList

def chargeCaps : List ℚ := input.configuredLimit.maxChargeKw.toList ++ input.headroomKw.toList

/-- The register shows no more than any cap. -/
structure WithinCaps (setpoint : UInt16) : Prop where
  discharge : ∀ cap ∈ input.dischargeCaps, (signed setpoint : ℚ) / 10 ≤ max 0 cap
  charge : ∀ cap ∈ input.chargeCaps, -(signed setpoint : ℚ) / 10 ≤ max 0 cap

/-- One of the powers lies less than half a step above the last step under the cap. -/
def StepsUnder (powers : List ℚ) (cap : ℚ) : Prop :=
  ∃ power ∈ powers, power * 10 < ⌊max 0 cap * 10⌋ + 1 / 2

/-- In each direction that is allowed, the request or a limit steps under every cap. -/
structure CapsOnSteps : Prop where
  discharge : ∀ cap ∈ input.dischargeCaps,
    dischargeProhibited input.battery.bmsSystemFlags = true ∨
      StepsUnder (input.requestedPowerKw :: input.dischargeLimits) cap
  charge : ∀ cap ∈ input.chargeCaps,
    chargeProhibited input.battery.bmsSystemFlags = true ∨
      StepsUnder (-input.requestedPowerKw :: input.chargeLimits) cap

/-- The battery's limits fit the register they are read from. -/
structure OnRegister : Prop where
  charge : max 0 input.battery.maxChargeKw * 10 ≤ 32767
  discharge : max 0 input.battery.maxDischargeKw * 10 ≤ 32767

variable {input}

theorem stepsUnder_iff {limits : List ℚ} {least : ℚ} (least_ : LeastLimit limits least)
    (request cap : ℚ) :
    StepsUnder (request :: limits) cap ↔
      request * 10 < ⌊max 0 cap * 10⌋ + 1 / 2 ∨ least * 10 < ⌊max 0 cap * 10⌋ + 1 / 2 := by
  have ten : (0 : ℚ) < 10 := by norm_num
  have positive := half_step_pos cap
  have scaled : ∀ power : ℚ, power * 10 < ⌊max 0 cap * 10⌋ + 1 / 2 ↔
      power < (⌊max 0 cap * 10⌋ + 1 / 2) / 10 := fun power => (lt_div_iff₀ ten).symm
  simp only [StepsUnder, List.mem_cons, exists_eq_or_imp, scaled,
    least_.lt_iff (div_pos positive ten)]

/-- One direction of the register against one cap, with the direction's least limit
as the bound unless it is prohibited. -/
theorem rounded_within_iff {low high : ℚ} {limits : List ℚ} {prohibited : Bool} (request : ℚ)
    (nonpos : low ≤ 0) (nonneg : 0 ≤ high)
    (bound : if prohibited then high = 0 else LeastLimit limits high) (cap : ℚ) :
    (roundHalfAway (clamp request low high * 10) : ℚ) / 10 ≤ max 0 cap ↔
      prohibited = true ∨ StepsUnder (request :: limits) cap := by
  rw [rounded_le_cap_iff nonpos nonneg]
  cases prohibited with
  | true =>
      have zero : high = 0 := bound
      refine iff_of_true (.inr ?_) (.inl rfl)
      rw [zero, zero_mul]
      exact half_step_pos cap
  | false =>
      have least : LeastLimit limits high := bound
      rw [stepsUnder_iff least]
      simp

/-- Behind open gates the register holds the rounded power, unsaturated. -/
theorem signed_applied (opened : input.Open) (register : input.OnRegister) :
    signed (encodeSigned (SafetyEnvelope.apply input).appliedPowerKw 10) =
      roundHalfAway (clamp input.requestedPowerKw input.lowerBoundKw input.upperBoundKw * 10) := by
  have lower : -input.maxChargeKw ≤ input.lowerBoundKw := by
    unfold lowerBoundKw
    split
    · exact neg_nonpos.mpr input.maxChargeKw_nonneg
    · exact le_rfl
  have upper : input.upperBoundKw ≤ input.maxDischargeKw := by
    unfold upperBoundKw
    split
    · exact input.maxDischargeKw_nonneg
    · exact le_rfl
  have clampLower := low_le_clamp input.requestedPowerKw (SafetyEnvelope.bounds_ordered input)
  have clampUpper := clamp_le_high input.requestedPowerKw (SafetyEnvelope.bounds_ordered input)
  have chargeBound := input.maxChargeKw_le
  have dischargeBound := input.maxDischargeKw_le
  have chargeRegister := register.charge
  have dischargeRegister := register.discharge
  rw [SafetyEnvelope.apply_appliedPowerKw, if_pos opened, signed_encodeSigned]
  apply clamp_of_mem
  · have above : -32767 ≤ roundHalfAway
        (clamp input.requestedPowerKw input.lowerBoundKw input.upperBoundKw * 10) :=
      neg_le_roundHalfAway (by norm_num) (by push_cast; linarith)
    omega
  · exact roundHalfAway_le (by norm_num) (by push_cast; linarith)

theorem withinCaps_iff (opened : input.Open) (register : input.OnRegister) :
    input.WithinCaps (encodeSigned (SafetyEnvelope.apply input).appliedPowerKw 10) ↔
      input.CapsOnSteps := by
  have value := signed_applied opened register
  have allowed := input.allows_bounds
  have discharge := rounded_within_iff input.requestedPowerKw allowed.nonpos allowed.nonneg
    allowed.discharge
  have chargeBound : if chargeProhibited input.battery.bmsSystemFlags then
      -input.lowerBoundKw = 0 else LeastLimit input.chargeLimits (-input.lowerBoundKw) := by
    simpa only [neg_eq_zero] using allowed.charge
  have charge := rounded_within_iff (-input.requestedPowerKw) (neg_nonpos.mpr allowed.nonneg)
    (neg_nonneg.mpr allowed.nonpos) chargeBound
  rw [clamp_neg _ (SafetyEnvelope.bounds_ordered input), neg_mul, roundHalfAway_neg,
    Int.cast_neg] at charge
  constructor
  · rintro ⟨discharging, charging⟩
    rw [value] at discharging charging
    exact ⟨fun cap member => (discharge cap).mp (discharging cap member),
      fun cap member => (charge cap).mp (charging cap member)⟩
  · rintro ⟨discharging, charging⟩
    constructor
    · intro cap member
      rw [value]
      exact (discharge cap).mpr (discharging cap member)
    · intro cap member
      rw [value]
      exact (charge cap).mpr (charging cap member)

/-- A refused power is written as zero, which is within every cap. -/
theorem withinCaps_zero : input.WithinCaps 0 where
  discharge cap _ := by
    rw [signed_zero, Int.cast_zero, zero_div]
    exact le_max_left 0 cap
  charge cap _ := by
    rw [signed_zero, Int.cast_zero, neg_zero, zero_div]
    exact le_max_left 0 cap

end SafetyInput

namespace ControlLoop

variable {Device : Type} (client : IModbusClient Device) (loop : ControlLoop Device)
  (now : SteadyTime)

/-- A poll reads the limits out of signed registers. -/
theorem decision_onRegister : (loop.decision client now).OnRegister := by
  have limit : ∀ raw : UInt16, max 0 (max 0 (decodeSigned raw 10)) * 10 ≤ 32767 := by
    intro raw
    have bound : ((signed raw : ℤ) : ℚ) ≤ 32767 := by exact_mod_cast signed_upper raw
    have scaled : decodeSigned raw 10 ≤ 32767 / 10 := by
      unfold decodeSigned
      linarith
    have cut : max 0 (max 0 (decodeSigned raw 10)) ≤ 32767 / 10 :=
      max_le (by norm_num) (max_le (by norm_num) scaled)
    linarith
  unfold decision EdgeController.safetyInput upcoming SunStoragePro261Driver.report
  cases (loop.bus.poll client).1.mandatory with
  | none => constructor <;> norm_num
  | some mandatory => exact ⟨limit mandatory.maxCharge, limit mandatory.maxDischarge⟩

/-- In every state and whatever the vendor answers: the setpoint of a tick is within
the caps exactly when, behind open gates, every cap of an allowed direction has the
request or a limit step under it. -/
theorem caps_bind_iff :
    (∀ write ∈ setpointWrites (loop.added client now),
        (loop.decision client now).WithinCaps write.1) ↔
      (loop.driver.writesEnabled = true → (loop.decision client now).Open →
        (loop.decision client now).CapsOnSteps) := by
  constructor
  · intro within enabled opened
    have sent := setpointWrites_of_sends (sends_of_open enabled opened)
    rw [sent] at within
    have written := within _ List.mem_cons_self
    exact (SafetyInput.withinCaps_iff opened (loop.decision_onRegister client now)).mp written
  · intro steps write member
    by_cases sends : loop.SendsSetpoint client now
    · rw [setpointWrites_of_sends sends, List.mem_singleton] at member
      rw [member]
      by_cases opened : (loop.decision client now).Open
      · have enabled := (loop.polled_writesEnabled client).symm.trans sends.2.1
        exact (SafetyInput.withinCaps_iff opened (loop.decision_onRegister client now)).mpr
          (steps enabled opened)
      · rw [decidedPowerKw, SafetyEnvelope.apply_of_not_open opened, encodeSigned_zero]
        exact SafetyInput.withinCaps_zero
    · rw [setpointWrites_of_not_sends sends] at member
      exact absurd member List.not_mem_nil

/-- A cap of 10.25 kW on a cabinet that allows a hundred: twenty kilowatts are cut at
the cap and written as 10.3 kW. -/
theorem caps_bind_fails :
    ¬∀ (Device : Type) (client : IModbusClient Device) (config : ControllerConfig)
      (approval : CommissioningApproval) (device : Device) (events : List ControlEvent)
      (now : SteadyTime),
      (∀ cap ∈ config.configuredLimit.maxChargeKw, 0 ≤ cap) →
      (∀ cap ∈ config.configuredLimit.maxDischargeKw, 0 ≤ cap) →
      let loop := run (step client) (initial config approval device) events
      ∀ write ∈ setpointWrites (loop.added client now),
        (loop.decision client now).WithinCaps write.1 := by
  intro always
  let config : ControllerConfig := { configuredLimit := { maxDischargeKw := some (41 / 4) } }
  have within := always Unit (cabinetInOrder 1000) config fullApproval ()
    [.receiveCommand 20 {} 0] 0 (by simp [config]) (by simp [config]; norm_num) (103, true)
    (by decide +kernel)
  have discharge := within.discharge (41 / 4) (by decide +kernel)
  revert discharge
  decide +kernel

end ControlLoop

end GridexEdge.Core
