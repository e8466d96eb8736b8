import GridexEdge.Core.VendorBus
import GridexEdge.Foundation.Rounding
import GridexEdge.Foundation.Runs

/-!
The SunStorage Pro 261 driver: polling, the cached gates, and the five write
operations behind them.

Each operation has one lemma that says everything it can add to the history.
`Cached` ties the gates to the most recent poll; polling establishes it and
every write keeps it.
-/

namespace GridexEdge.Core

open Foundation

structure CommissioningApproval where
  addressingConfirmed : Bool := false
  signConfirmed : Bool := false
  scalingConfirmed : Bool := false
  int32WordOrderConfirmed : Bool := false
  int32HighWordFirst : Bool := true

def CommissioningApproval.writesEnabled (approval : CommissioningApproval) : Bool :=
  approval.addressingConfirmed && approval.signConfirmed && approval.scalingConfirmed

def decodeSigned (raw : UInt16) (scale : ℚ) : ℚ := signed raw / scale

def encodeSigned (value scale : ℚ) : UInt16 :=
  unsigned (saturate (roundHalfAway (value * scale)))

def decodeSigned32 (high low : UInt16) (scale : ℚ) : ℚ :=
  (((high.toUInt32 <<< 16) ||| low.toUInt32).toInt32.toInt : ℚ) / scale

theorem decodeSigned_mul (raw : UInt16) {scale : ℚ} (positive : 0 < scale) :
    decodeSigned raw scale * scale = ((signed raw : ℤ) : ℚ) := by
  rw [decodeSigned]
  exact div_mul_cancel₀ _ (ne_of_gt positive)

/-- A decoded word is encoded to itself. -/
theorem encodeSigned_decodeSigned (raw : UInt16) {scale : ℚ} (positive : 0 < scale) :
    encodeSigned (decodeSigned raw scale) scale = raw := by
  rw [encodeSigned, decodeSigned_mul raw positive, roundHalfAway_intCast, saturate_signed,
    unsigned_signed]

theorem signed_encodeSigned (value scale : ℚ) :
    signed (encodeSigned value scale) = saturate (roundHalfAway (value * scale)) :=
  signed_unsigned_saturate _

@[simp]
theorem encodeSigned_zero (scale : ℚ) : encodeSigned 0 scale = 0 := by
  rw [encodeSigned, zero_mul, roundHalfAway_zero]
  rfl

structure SunStoragePro261Driver where
  approval : CommissioningApproval := {}
  controlReady : Bool := false
  limitsValid : Bool := false
  maxChargeKw : ℚ := 0
  maxDischargeKw : ℚ := 0
  bmsSystemFlags : UInt16 := 0
  telemetryValid : Bool := false
  faultsClear : Bool := false
  gridModeReady : Bool := false
  workModeReady : Bool := false

def chargeProhibited (flags : UInt16) : Bool := flags &&& 0x0001 != 0

def dischargeProhibited (flags : UInt16) : Bool := flags &&& 0x0002 != 0

/-- One accumulated counter out of the four energy words. -/
def accumulatedKwh (approval : CommissioningApproval) (energy : Option (List UInt16))
    (first : Nat) : ℚ :=
  match energy with
  | some words =>
      if words.length = 4 then
        if approval.int32HighWordFirst then
          decodeSigned32 (words.getD first 0) (words.getD (first + 1) 0) 10
        else
          decodeSigned32 (words.getD (first + 1) 0) (words.getD first 0) 10
      else 0
  | none => 0

/-- The telemetry of a poll whose mandatory reads are all present. Positive
power is discharge, negative power is charge. -/
def telemetry (approval : CommissioningApproval) (reads : PollReads)
    (mandatory : MandatoryReads) : BatteryTelemetry :=
  let optional (read : Option UInt16) (scale : ℚ) : ℚ := (read.map (decodeSigned · scale)).getD 0
  let socPct := decodeSigned mandatory.soc 10
  let decodedMaxChargeKw := decodeSigned mandatory.maxCharge 10
  let decodedMaxDischargeKw := decodeSigned mandatory.maxDischarge 10
  let limitsValid : Bool :=
    decide (0 ≤ decodedMaxChargeKw) && decide (0 ≤ decodedMaxDischargeKw) &&
      decide (0 ≤ socPct) && decide (socPct ≤ 100)
  let pcsPowerOn := mandatory.pcsPowerOn == 1
  let pcsGridTied := mandatory.pcsGridMode == 0 && !mandatory.pcsOffGrid
  let pcsCurrentSourceMode := mandatory.pcsWorkMode == 1
  { actualPowerKw := decodeSigned mandatory.actualPower 10
    commandedPowerKw := optional reads.commandedPower 10
    dcPowerKw := optional reads.dcPower 10
    reactivePowerKvar := optional reads.reactivePower 10
    frequencyHz := optional reads.frequency 100
    socPct := socPct
    sohPct := decodeSigned mandatory.soh 1
    voltageV := decodeSigned mandatory.voltage 10
    currentA := decodeSigned mandatory.current 10
    maxChargeKw := max 0 decodedMaxChargeKw
    maxDischargeKw := max 0 decodedMaxDischargeKw
    accumulatedChargeKwh := accumulatedKwh approval reads.accumulatedEnergy 0
    accumulatedDischargeKwh := accumulatedKwh approval reads.accumulatedEnergy 2
    dailyChargeKwh := optional reads.dailyCharge 10
    dailyDischargeKwh := optional reads.dailyDischarge 10
    socUpperLimitPct := optional reads.socUpperLimit 1
    socLowerLimitPct := optional reads.socLowerLimit 1
    statusCode := mandatory.status
    pcsStatusCode := reads.pcsStatus.getD 0
    bmsSystemFlags := mandatory.systemFlags
    quality := if limitsValid then .good else .invalid
    limitsValid := limitsValid
    pcsPowerOn := pcsPowerOn
    pcsGridTied := pcsGridTied
    pcsCurrentSourceMode := pcsCurrentSourceMode
    pcsFault := mandatory.pcsFault
    pcsCommunicationFault := mandatory.pcsCommunicationFault
    bmsFault := mandatory.bmsFault
    bmsCommunicationFault := mandatory.bmsCommunicationFault
    bmsAlarm := reads.bmsAlarm.getD true
    pcsWarning := reads.pcsWarning.getD true
    extendedTelemetryValid :=
      reads.pcsWarning.isSome && reads.bmsAlarm.isSome && reads.socUpperLimit.isSome &&
        reads.socLowerLimit.isSome && reads.reactivePower.isSome && reads.dcPower.isSome &&
        reads.frequency.isSome && reads.commandedPower.isSome && reads.pcsStatus.isSome &&
        (reads.accumulatedEnergy.map (·.length == 4)).getD false &&
        reads.dailyCharge.isSome && reads.dailyDischarge.isSome &&
        approval.int32WordOrderConfirmed
    controlReady :=
      pcsPowerOn && pcsGridTied && pcsCurrentSourceMode && !mandatory.pcsFault &&
        !mandatory.pcsCommunicationFault && !mandatory.bmsFault &&
        !mandatory.bmsCommunicationFault }

namespace SunStoragePro261Driver

section Operations

variable {Device : Type} (client : IModbusClient Device) (driver : SunStoragePro261Driver)

def writesEnabled : Bool := driver.approval.writesEnabled

/-- What a poll reports. -/
def report (reads : PollReads) : BatteryTelemetry :=
  match reads.mandatory with
  | none => { quality := .invalid, limitsValid := false }
  | some mandatory => telemetry driver.approval reads mandatory

/-- The gates a poll leaves behind. A refused poll closes them and keeps the
numbers of the poll before it. -/
def cache (reads : PollReads) : SunStoragePro261Driver :=
  match reads.mandatory with
  | none =>
      { driver with
        controlReady := false
        limitsValid := false
        telemetryValid := false
        faultsClear := false
        gridModeReady := false
        workModeReady := false }
  | some mandatory =>
      let value := telemetry driver.approval reads mandatory
      { driver with
        controlReady := value.controlReady
        telemetryValid := true
        faultsClear := !value.pcsFault && !value.pcsCommunicationFault &&
          !value.bmsFault && !value.bmsCommunicationFault
        gridModeReady := value.pcsGridTied
        workModeReady := value.pcsCurrentSourceMode
        limitsValid := value.limitsValid
        maxChargeKw := value.maxChargeKw
        maxDischargeKw := value.maxDischargeKw
        bmsSystemFlags := value.bmsSystemFlags }

def poll (bus : Bus Device) : BatteryTelemetry × SunStoragePro261Driver × Bus Device :=
  let answer := bus.poll client
  (driver.report answer.1, driver.cache answer.1, answer.2)

def refreshHeartbeat (timeoutSeconds : UInt16) (bus : Bus Device) : Bool × Bus Device :=
  if !driver.approval.writesEnabled then (false, bus)
  else
    let enabled := bus.write client Registers.heartbeatEnable 1
    if enabled.1 then enabled.2.write client Registers.heartbeatSeconds timeoutSeconds
    else (false, enabled.2)

/-- The second clamp: a power beyond the cached limits is refused, with a
tolerance of a watt. -/
def exceedsLimits (canonicalPowerKw : ℚ) : Bool :=
  let toleranceKw : ℚ := 1 / 1000
  (decide (canonicalPowerKw < -toleranceKw) &&
      (chargeProhibited driver.bmsSystemFlags ||
        decide (driver.maxChargeKw + toleranceKw < -canonicalPowerKw))) ||
    (decide (toleranceKw < canonicalPowerKw) &&
      (dischargeProhibited driver.bmsSystemFlags ||
        decide (driver.maxDischargeKw + toleranceKw < canonicalPowerKw)))

/-- Exact rationals are always finite, so the finiteness test has no branch. -/
def writePowerSetpointKw (canonicalPowerKw : ℚ) (bus : Bus Device) : Bool × Bus Device :=
  if !driver.approval.writesEnabled || !driver.controlReady || !driver.limitsValid then
    (false, bus)
  else if driver.exceedsLimits canonicalPowerKw then (false, bus)
  else bus.write client Registers.pcsPowerCommand (encodeSigned canonicalPowerKw 10)

def writeReactivePowerSetpointKvar (reactivePowerKvar : ℚ) (bus : Bus Device) :
    Bool × Bus Device :=
  if !driver.approval.writesEnabled || !driver.controlReady then (false, bus)
  else bus.write client Registers.pcsReactivePowerCommand (encodeSigned reactivePowerKvar 10)

def writePowerState (powerOn : Bool) (bus : Bus Device) :
    Bool × SunStoragePro261Driver × Bus Device :=
  if !driver.approval.writesEnabled || !driver.telemetryValid then (false, driver, bus)
  else if powerOn then
    if !driver.faultsClear || !driver.gridModeReady || !driver.workModeReady then
      (false, driver, bus)
    else
      let started := bus.write client Registers.pcsPowerOn 1
      (started.1, driver, started.2)
  else
    let zeroWritten := bus.write client Registers.pcsPowerCommand (encodeSigned 0 10)
    let stopped := zeroWritten.2.write client Registers.pcsPowerOn 0
    (zeroWritten.1 && stopped.1,
      if stopped.1 then { driver with controlReady := false } else driver, stopped.2)

/-- One guarded write: skipped as a success when its condition fails. -/
def writeWhen (condition : Bool) (address value : UInt16) (bus : Bus Device) :
    Bool × Bus Device :=
  if condition then bus.write client address value else (true, bus)

/-- Widen first, then tighten, so that a partial write cannot invert the window. -/
def writeSocLimitsPct (lowerPct upperPct : ℚ) (bus : Bus Device) : Bool × Bus Device :=
  if !driver.approval.writesEnabled || !driver.telemetryValid || decide (lowerPct < 0) ||
      decide (100 < upperPct) || decide (upperPct ≤ lowerPct) then
    (false, bus)
  else
    let currentUpper := bus.readHolding client Registers.pcsSocUpperLimit
    let currentLower := currentUpper.2.readHolding client Registers.pcsSocLowerLimit
    match currentUpper.1, currentLower.1 with
    | some rawUpper, some rawLower =>
        let requestedUpper := encodeSigned upperPct 1
        let requestedLower := encodeSigned lowerPct 1
        let oldUpper := decodeSigned rawUpper 1
        let oldLower := decodeSigned rawLower 1
        let raised := writeWhen client (oldUpper < upperPct) Registers.pcsSocUpperLimit
          requestedUpper currentLower.2
        if !raised.1 then (false, raised.2)
        else
          let lowered := writeWhen client (lowerPct < oldLower) Registers.pcsSocLowerLimit
            requestedLower raised.2
          if !lowered.1 then (false, lowered.2)
          else
            let cut := writeWhen client (upperPct ≤ oldUpper) Registers.pcsSocUpperLimit
              requestedUpper lowered.2
            if !cut.1 then (false, cut.2)
            else
              writeWhen client (oldLower ≤ lowerPct) Registers.pcsSocLowerLimit
                requestedLower cut.2
    | _, _ => (false, currentLower.2)

end Operations

/-! ### What each operation adds to the history -/

section Effects

variable {Device : Type} (client : IModbusClient Device) (driver : SunStoragePro261Driver)
  (bus : Bus Device)

@[simp]
theorem cache_approval (reads : PollReads) : (driver.cache reads).approval = driver.approval := by
  unfold cache
  split <;> rfl

theorem refreshHeartbeat_cases (timeoutSeconds : UInt16) :
    driver.writesEnabled = false ∧
        driver.refreshHeartbeat client timeoutSeconds bus = (false, bus) ∨
      driver.writesEnabled = true ∧
        (driver.refreshHeartbeat client timeoutSeconds bus).1 = false ∧
        (driver.refreshHeartbeat client timeoutSeconds bus).2.history =
          .write Registers.heartbeatEnable 1 false :: bus.history ∨
      driver.writesEnabled = true ∧
        (driver.refreshHeartbeat client timeoutSeconds bus).2.history =
          .write Registers.heartbeatSeconds timeoutSeconds
            (driver.refreshHeartbeat client timeoutSeconds bus).1 ::
          .write Registers.heartbeatEnable 1 true :: bus.history := by
  cases enabled : driver.approval.writesEnabled with
  | false => exact .inl ⟨enabled, by simp [refreshHeartbeat, enabled]⟩
  | true =>
      refine .inr ?_
      cases acknowledged : (bus.write client Registers.heartbeatEnable 1).1 with
      | false =>
          refine .inl ⟨enabled, ?_⟩
          simp [refreshHeartbeat, enabled, acknowledged]
      | true =>
          refine .inr ⟨enabled, ?_⟩
          simp [refreshHeartbeat, enabled, acknowledged]

/-- The gates of a power command and the second clamp, together. -/
def AdmitsPower (canonicalPowerKw : ℚ) : Prop :=
  driver.writesEnabled = true ∧ driver.controlReady = true ∧ driver.limitsValid = true ∧
    driver.exceedsLimits canonicalPowerKw = false

theorem writePowerSetpointKw_of_admits {canonicalPowerKw : ℚ}
    (admitted : driver.AdmitsPower canonicalPowerKw) :
    driver.writePowerSetpointKw client canonicalPowerKw bus =
      bus.write client Registers.pcsPowerCommand (encodeSigned canonicalPowerKw 10) := by
  obtain ⟨enabled, ready, limits, inside⟩ := admitted
  rw [writesEnabled] at enabled
  simp [writePowerSetpointKw, enabled, ready, limits, inside]

theorem writePowerSetpointKw_of_not_admits {canonicalPowerKw : ℚ}
    (refused : ¬driver.AdmitsPower canonicalPowerKw) :
    driver.writePowerSetpointKw client canonicalPowerKw bus = (false, bus) := by
  unfold writePowerSetpointKw
  split
  · rfl
  · next open_ =>
      rw [if_pos]
      by_contra inside
      refine refused ⟨?_, ?_, ?_, ?_⟩ <;> simp_all [writesEnabled]

theorem writeReactivePowerSetpointKvar_cases (reactivePowerKvar : ℚ) :
    driver.writeReactivePowerSetpointKvar client reactivePowerKvar bus = (false, bus) ∨
      driver.writesEnabled = true ∧ driver.controlReady = true ∧
        driver.writeReactivePowerSetpointKvar client reactivePowerKvar bus =
          bus.write client Registers.pcsReactivePowerCommand
            (encodeSigned reactivePowerKvar 10) := by
  unfold writeReactivePowerSetpointKvar writesEnabled
  split
  · exact .inl rfl
  · next gates =>
      simp only [Bool.or_eq_true, Bool.not_eq_true', not_or, Bool.not_eq_false] at gates
      exact .inr ⟨gates.1, gates.2, rfl⟩

/-- The gates of starting the PCS. -/
def AdmitsStart : Prop :=
  driver.writesEnabled = true ∧ driver.telemetryValid = true ∧ driver.faultsClear = true ∧
    driver.gridModeReady = true ∧ driver.workModeReady = true

theorem writePowerState_cases (powerOn : Bool) :
    driver.writePowerState client powerOn bus = (false, driver, bus) ∨
      powerOn = true ∧ driver.AdmitsStart ∧
        driver.writePowerState client powerOn bus =
          ((bus.write client Registers.pcsPowerOn 1).1, driver,
            (bus.write client Registers.pcsPowerOn 1).2) ∨
      powerOn = false ∧ driver.writesEnabled = true ∧
        ∃ zeroed stopped,
          (driver.writePowerState client powerOn bus).1 = (zeroed && stopped) ∧
          (driver.writePowerState client powerOn bus).2.1 =
            (if stopped then { driver with controlReady := false } else driver) ∧
          (driver.writePowerState client powerOn bus).2.2.history =
            .write Registers.pcsPowerOn 0 stopped ::
            .write Registers.pcsPowerCommand 0 zeroed :: bus.history := by
  unfold writePowerState AdmitsStart writesEnabled
  rw [encodeSigned_zero]
  split
  · exact .inl rfl
  · next gates =>
      simp only [Bool.or_eq_true, Bool.not_eq_true', not_or, Bool.not_eq_false] at gates
      cases powerOn with
      | true =>
          rw [if_pos rfl]
          split
          · exact .inl rfl
          · next start =>
              simp only [Bool.or_eq_true, Bool.not_eq_true', not_or, Bool.not_eq_false] at start
              exact .inr (.inl ⟨rfl, ⟨gates.1, gates.2, start.1.1, start.1.2, start.2⟩, rfl⟩)
      | false => exact .inr (.inr ⟨rfl, gates.1, _, _, rfl, rfl, rfl⟩)

/-- Writes to the two SOC registers, in any number and with any outcome. -/
inductive SocWrites : List Occurrence → List Occurrence → Prop where
  | none {history} : SocWrites history history
  | more {history later address value acknowledged} :
      SocWrites history later →
      address = Registers.pcsSocUpperLimit ∨ address = Registers.pcsSocLowerLimit →
      SocWrites history (.write address value acknowledged :: later)

theorem writeWhen_socWrites {history : List Occurrence} {address : UInt16}
    (condition : Bool) (value : UInt16)
    (limit : address = Registers.pcsSocUpperLimit ∨ address = Registers.pcsSocLowerLimit)
    (sofar : SocWrites history bus.history) :
    SocWrites history (writeWhen client condition address value bus).2.history := by
  unfold writeWhen
  split
  · exact .more sofar limit
  · exact sofar

theorem writeSocLimitsPct_cases (lowerPct upperPct : ℚ) :
    driver.writeSocLimitsPct client lowerPct upperPct bus = (false, bus) ∨
      driver.writesEnabled = true ∧ driver.telemetryValid = true ∧
        SocWrites bus.history
          (driver.writeSocLimitsPct client lowerPct upperPct bus).2.history := by
  unfold writeSocLimitsPct writesEnabled
  split
  · exact .inl rfl
  · next gates =>
      simp only [Bool.or_eq_true, Bool.not_eq_true', not_or, Bool.not_eq_false] at gates
      refine .inr ⟨gates.1.1.1.1, gates.1.1.1.2, ?_⟩
      -- Every way out of the sequence is after some prefix of the four writes.
      dsimp only
      repeat' split
      all_goals
        repeat refine writeWhen_socWrites _ _ _ _ (by simp) ?_
        exact .none

end Effects

/-! ### The gates and the poll they come from -/

/-- Every gate that is open was opened by the most recent poll, and the cached
numbers behind it are that poll's. -/
structure Cached (driver : SunStoragePro261Driver) (history : List Occurrence) : Prop where
  ready : driver.controlReady = true → ∃ reads mandatory,
    lastPoll history = some reads ∧ reads.mandatory = some mandatory ∧
    (telemetry driver.approval reads mandatory).controlReady = true ∧
    stoppedSincePoll history = false
  limits : driver.limitsValid = true → ∃ reads mandatory,
    lastPoll history = some reads ∧ reads.mandatory = some mandatory ∧
    (telemetry driver.approval reads mandatory).limitsValid = true ∧
    driver.maxChargeKw = (telemetry driver.approval reads mandatory).maxChargeKw ∧
    driver.maxDischargeKw = (telemetry driver.approval reads mandatory).maxDischargeKw ∧
    driver.bmsSystemFlags = mandatory.systemFlags
  start : driver.telemetryValid = true → ∃ reads mandatory,
    lastPoll history = some reads ∧ reads.mandatory = some mandatory ∧
    driver.faultsClear = (!mandatory.pcsFault && !mandatory.pcsCommunicationFault &&
      !mandatory.bmsFault && !mandatory.bmsCommunicationFault) ∧
    driver.gridModeReady = (mandatory.pcsGridMode == 0 && !mandatory.pcsOffGrid) ∧
    driver.workModeReady = (mandatory.pcsWorkMode == 1)

namespace Cached

variable {driver : SunStoragePro261Driver} {history : List Occurrence}

theorem initial (approval : CommissioningApproval) :
    Cached { approval := approval } [] where
  ready open_ := by simp at open_
  limits open_ := by simp at open_
  start open_ := by simp at open_

theorem cache (driver : SunStoragePro261Driver) (history : List Occurrence)
    (reads : PollReads) : Cached (driver.cache reads) (.poll reads :: history) := by
  unfold SunStoragePro261Driver.cache
  cases complete : reads.mandatory with
  | none => constructor <;> simp
  | some mandatory =>
      exact {
        ready := fun open_ => ⟨reads, mandatory, rfl, complete, open_, rfl⟩
        limits := fun open_ => ⟨reads, mandatory, rfl, complete, open_, rfl, rfl, rfl⟩
        start := fun _ => ⟨reads, mandatory, rfl, complete, rfl, rfl, rfl⟩ }

/-- An occurrence that neither polls nor stops the PCS leaves the gates true. -/
theorem extend (cached : Cached driver history) {occurrence : Occurrence}
    (samePoll : lastPoll (occurrence :: history) = lastPoll history)
    (notStopped : stoppedSincePoll (occurrence :: history) = stoppedSincePoll history) :
    Cached driver (occurrence :: history) where
  ready := by
    rw [samePoll, notStopped]
    exact cached.ready
  limits := by
    rw [samePoll]
    exact cached.limits
  start := by
    rw [samePoll]
    exact cached.start

theorem write (cached : Cached driver history) {address value : UInt16} {acknowledged : Bool}
    (other : address ≠ Registers.pcsPowerOn) :
    Cached driver (.write address value acknowledged :: history) :=
  cached.extend rfl (stoppedSincePoll_write other)

/-- A start, or a stop that was not acknowledged. -/
theorem powerOnWrite (cached : Cached driver history) {value : UInt16} {acknowledged : Bool}
    (notStop : value ≠ 0 ∨ acknowledged = false) :
    Cached driver (.write Registers.pcsPowerOn value acknowledged :: history) := by
  refine cached.extend rfl ?_
  rcases notStop with nonzero | lost
  · simp [stoppedSincePoll, nonzero]
  · simp [stoppedSincePoll, lost]

/-- An acknowledged stop closes the control gate and keeps the others. -/
theorem stopped (cached : Cached driver history) :
    Cached { driver with controlReady := false }
      (.write Registers.pcsPowerOn 0 true :: history) where
  ready open_ := by simp at open_
  limits := cached.limits
  start := cached.start

end Cached

theorem limitsValid_telemetry {approval : CommissioningApproval} {reads : PollReads}
    {mandatory : MandatoryReads}
    (valid : (telemetry approval reads mandatory).limitsValid = true) :
    (telemetry approval reads mandatory).maxChargeKw * 10 = signed mandatory.maxCharge ∧
      (telemetry approval reads mandatory).maxDischargeKw * 10 = signed mandatory.maxDischarge ∧
      0 ≤ signed mandatory.maxCharge ∧ 0 ≤ signed mandatory.maxDischarge := by
  simp only [telemetry, Bool.and_eq_true, decide_eq_true_eq] at valid
  obtain ⟨⟨⟨charge, discharge⟩, -⟩, -⟩ := valid
  have ten : (0 : ℚ) < 10 := by norm_num
  have chargeScaled := decodeSigned_mul mandatory.maxCharge ten
  have dischargeScaled := decodeSigned_mul mandatory.maxDischarge ten
  simp only [telemetry, max_eq_right charge, max_eq_right discharge, chargeScaled,
    dischargeScaled, true_and]
  constructor
  · have : (0 : ℚ) ≤ signed mandatory.maxCharge := by linarith
    exact_mod_cast this
  · have : (0 : ℚ) ≤ signed mandatory.maxDischarge := by linarith
    exact_mod_cast this

/-- Inside the second clamp the written register stays inside the raw limits:
the watt of tolerance is a hundredth of a register step and rounds away. -/
theorem encodeSigned_bounds {driver : SunStoragePro261Driver} {powerKw : ℚ}
    {maxCharge maxDischarge : ℤ}
    (inside : driver.exceedsLimits powerKw = false)
    (chargeScaled : driver.maxChargeKw * 10 = maxCharge)
    (dischargeScaled : driver.maxDischargeKw * 10 = maxDischarge)
    (chargeNonneg : 0 ≤ maxCharge) (dischargeNonneg : 0 ≤ maxDischarge) :
    -maxCharge ≤ signed (encodeSigned powerKw 10) ∧
      signed (encodeSigned powerKw 10) ≤ maxDischarge ∧
      (0 < signed (encodeSigned powerKw 10) →
        dischargeProhibited driver.bmsSystemFlags = false) ∧
      (signed (encodeSigned powerKw 10) < 0 →
        chargeProhibited driver.bmsSystemFlags = false) := by
  simp only [exceedsLimits, Bool.or_eq_false_iff, Bool.and_eq_false_imp, decide_eq_true_eq,
    decide_eq_false_iff_not, not_lt] at inside
  obtain ⟨charging, discharging⟩ := inside
  have towardZero := saturate_mem_uIcc (roundHalfAway (powerKw * 10))
  rw [← signed_encodeSigned, Set.mem_uIcc] at towardZero
  have discharge : (1 / 1000 : ℚ) < powerKw ∨ roundHalfAway (powerKw * 10) ≤ 0 := by
    rcases lt_or_ge (1 / 1000 : ℚ) powerKw with above | below
    · exact .inl above
    · exact .inr (roundHalfAway_le le_rfl (by push_cast; linarith))
  have charge : powerKw < -(1 / 1000 : ℚ) ∨ 0 ≤ roundHalfAway (powerKw * 10) := by
    rcases lt_or_ge powerKw (-(1 / 1000 : ℚ)) with below | above
    · exact .inl below
    · have nonneg : -0 ≤ roundHalfAway (powerKw * 10) :=
        neg_le_roundHalfAway le_rfl (by push_cast; linarith)
      exact .inr (by omega)
  have upper : roundHalfAway (powerKw * 10) ≤ maxDischarge := by
    rcases discharge with above | nonpos
    · exact roundHalfAway_le dischargeNonneg (by linarith [(discharging above).2])
    · omega
  have lower : -maxCharge ≤ roundHalfAway (powerKw * 10) := by
    rcases charge with below | nonneg
    · exact neg_le_roundHalfAway chargeNonneg (by linarith [(charging below).2])
    · omega
  refine ⟨by omega, by omega, fun positive => ?_, fun negative => ?_⟩
  · rcases discharge with above | nonpos
    · exact (discharging above).1
    · omega
  · rcases charge with below | nonneg
    · exact (charging below).1
    · omega

end SunStoragePro261Driver

end GridexEdge.Core
