import GridexEdge.RockPi.MainLoop

/-!
Safety of the vendor write log.

`SafeWrite` states what must be true of the history below a write. The invariant
`Safe` joins it with the cached gates; every operation of the driver, and with
them every event of the main loop, keeps it.
-/

namespace GridexEdge.RockPi

open GridexEdge.Core Foundation SunStoragePro261Driver

/-- The registers the driver may write. Grid mode and work mode are not among
them. -/
def writableRegisters : List UInt16 :=
  [Registers.pcsPowerOn, Registers.pcsPowerCommand, Registers.pcsReactivePowerCommand,
    Registers.pcsSocUpperLimit, Registers.pcsSocLowerLimit, Registers.heartbeatSeconds,
    Registers.heartbeatEnable]

/-- The most recent poll covers a signed setpoint: complete, ready, not stopped
since, within its raw limits and on an allowed side. -/
def SetpointCovered (approval : CommissioningApproval) (before : List Occurrence)
    (setpoint : ℤ) : Prop :=
  ∃ reads mandatory, lastPoll before = some reads ∧ reads.mandatory = some mandatory ∧
    (telemetry approval reads mandatory).controlReady = true ∧
    (telemetry approval reads mandatory).limitsValid = true ∧
    stoppedSincePoll before = false ∧
    -signed mandatory.maxCharge ≤ setpoint ∧ setpoint ≤ signed mandatory.maxDischarge ∧
    (0 < setpoint → dischargeProhibited mandatory.systemFlags = false) ∧
    (setpoint < 0 → chargeProhibited mandatory.systemFlags = false)

/-- The most recent poll covers a start: complete, free of faults, grid-tied and
in current-source mode. -/
def StartCovered (before : List Occurrence) : Prop :=
  ∃ reads mandatory, lastPoll before = some reads ∧ reads.mandatory = some mandatory ∧
    mandatory.pcsFault = false ∧ mandatory.pcsCommunicationFault = false ∧
    mandatory.bmsFault = false ∧ mandatory.bmsCommunicationFault = false ∧
    mandatory.pcsGridMode = 0 ∧ mandatory.pcsOffGrid = false ∧ mandatory.pcsWorkMode = 1

structure SafeWrite (approval : CommissioningApproval) (before : List Occurrence)
    (address value : UInt16) : Prop where
  approved : approval.addressingConfirmed = true ∧ approval.signConfirmed = true ∧
    approval.scalingConfirmed = true
  writable : address ∈ writableRegisters
  setpoint : address = Registers.pcsPowerCommand → signed value ≠ 0 →
    SetpointCovered approval before (signed value)
  start : address = Registers.pcsPowerOn → value = 1 → StartCovered before

def SafeOccurrence (approval : CommissioningApproval) (before : List Occurrence) :
    Occurrence → Prop
  | .write address value _ => SafeWrite approval before address value
  | _ => True

/-- The driver's gates match the last poll, and the log so far is safe. -/
structure Safe (approval : CommissioningApproval) (driver : SunStoragePro261Driver)
    (history : List Occurrence) : Prop where
  sameApproval : driver.approval = approval
  cached : Cached driver history
  justified : Justified (SafeOccurrence approval) history

section Writes

variable {approval : CommissioningApproval} {driver : SunStoragePro261Driver}
  {history : List Occurrence}

theorem confirmed_of_writesEnabled (enabled : driver.writesEnabled = true)
    (same : driver.approval = approval) :
    approval.addressingConfirmed = true ∧ approval.signConfirmed = true ∧
      approval.scalingConfirmed = true := by
  subst same
  simpa [writesEnabled, CommissioningApproval.writesEnabled, and_assoc] using enabled

namespace Safe

theorem initial (approval : CommissioningApproval) : Safe approval { approval := approval } [] where
  sameApproval := rfl
  cached := Cached.initial approval
  justified := justified_nil

/-- Occurrences that are neither polls nor writes. -/
theorem note (safe : Safe approval driver history) {occurrence : Occurrence}
    (samePoll : lastPoll (occurrence :: history) = lastPoll history)
    (notStopped : stoppedSincePoll (occurrence :: history) = stoppedSincePoll history)
    (unconditional : SafeOccurrence approval history occurrence) :
    Safe approval driver (occurrence :: history) where
  sameApproval := safe.sameApproval
  cached := safe.cached.extend samePoll notStopped
  justified := justified_cons.mpr ⟨unconditional, safe.justified⟩

/-- A write to a register without conditions of its own. -/
theorem plainWrite (safe : Safe approval driver history) (enabled : driver.writesEnabled = true)
    {address : UInt16} (value : UInt16) (acknowledged : Bool)
    (writable : address ∈ writableRegisters) (notSetpoint : address ≠ Registers.pcsPowerCommand)
    (notStart : address ≠ Registers.pcsPowerOn) :
    Safe approval driver (.write address value acknowledged :: history) where
  sameApproval := safe.sameApproval
  cached := safe.cached.write notStart
  justified := justified_cons.mpr
    ⟨{ approved := confirmed_of_writesEnabled enabled safe.sameApproval
       writable := writable
       setpoint := fun same => absurd same notSetpoint
       start := fun same => absurd same notStart }, safe.justified⟩

theorem setpointWrite (safe : Safe approval driver history) (enabled : driver.writesEnabled = true)
    {value : UInt16} (acknowledged : Bool)
    (covered : signed value ≠ 0 → SetpointCovered approval history (signed value)) :
    Safe approval driver
      (.write Registers.pcsPowerCommand value acknowledged :: history) where
  sameApproval := safe.sameApproval
  cached := safe.cached.write (by decide)
  justified := justified_cons.mpr
    ⟨{ approved := confirmed_of_writesEnabled enabled safe.sameApproval
       writable := by decide
       setpoint := fun _ => covered
       start := fun same => absurd same (by decide) }, safe.justified⟩

theorem startWrite (safe : Safe approval driver history) (admitted : driver.AdmitsStart)
    (acknowledged : Bool) :
    Safe approval driver (.write Registers.pcsPowerOn 1 acknowledged :: history) where
  sameApproval := safe.sameApproval
  cached := safe.cached.powerOnWrite (.inl (by decide))
  justified := by
    obtain ⟨enabled, valid, faults, grid, work⟩ := admitted
    obtain ⟨reads, mandatory, polled, complete, faultsGate, gridGate, workGate⟩ :=
      safe.cached.start valid
    rw [faults] at faultsGate
    rw [grid] at gridGate
    rw [work] at workGate
    simp only [Bool.true_eq, Bool.and_eq_true, Bool.not_eq_true'] at faultsGate
    simp only [Bool.true_eq, Bool.and_eq_true, Bool.not_eq_true', beq_iff_eq] at gridGate
    simp only [Bool.true_eq, beq_iff_eq] at workGate
    obtain ⟨⟨⟨pcs, pcsCommunication⟩, bms⟩, bmsCommunication⟩ := faultsGate
    exact justified_cons.mpr
      ⟨{ approved := confirmed_of_writesEnabled enabled safe.sameApproval
         writable := by decide
         setpoint := fun same => absurd same (by decide)
         start := fun _ _ => ⟨reads, mandatory, polled, complete, pcs, pcsCommunication, bms,
           bmsCommunication, gridGate.1, gridGate.2, workGate⟩ }, safe.justified⟩

/-- Stopping is always allowed; once acknowledged it closes the control gate. -/
theorem stopWrite (safe : Safe approval driver history) (enabled : driver.writesEnabled = true)
    (acknowledged : Bool) :
    Safe approval (if acknowledged then { driver with controlReady := false } else driver)
      (.write Registers.pcsPowerOn 0 acknowledged :: history) where
  sameApproval := by
    split
    · exact safe.sameApproval
    · exact safe.sameApproval
  cached := by
    cases acknowledged with
    | true => exact safe.cached.stopped
    | false => exact safe.cached.powerOnWrite (.inr rfl)
  justified := justified_cons.mpr
    ⟨{ approved := confirmed_of_writesEnabled enabled safe.sameApproval
       writable := by decide
       setpoint := fun same => absurd same (by decide)
       start := fun _ one => absurd one (by decide) }, safe.justified⟩

theorem socWrites (safe : Safe approval driver history) (enabled : driver.writesEnabled = true)
    {later : List Occurrence} (writes : SocWrites history later) : Safe approval driver later := by
  induction writes with
  | none => exact safe
  | more _ limit inductionHypothesis =>
      rcases limit with rfl | rfl
      · exact inductionHypothesis.plainWrite enabled _ _ (by decide) (by decide) (by decide)
      · exact inductionHypothesis.plainWrite enabled _ _ (by decide) (by decide) (by decide)

/-- A power the second clamp admits is covered by the poll the gates came from. -/
theorem covered_of_admits (safe : Safe approval driver history) {powerKw : ℚ}
    (admitted : driver.AdmitsPower powerKw) :
    SetpointCovered approval history (signed (encodeSigned powerKw 10)) := by
  obtain ⟨-, ready, limits, inside⟩ := admitted
  obtain ⟨reads, mandatory, polled, complete, readyThen, running⟩ := safe.cached.ready ready
  obtain ⟨otherReads, other, samePoll, sameComplete, limitsThen, charge, discharge, flags⟩ :=
    safe.cached.limits limits
  -- Both gates speak of the one most recent poll.
  cases Option.some.inj (polled.symm.trans samePoll)
  cases Option.some.inj (complete.symm.trans sameComplete)
  rw [safe.sameApproval] at readyThen limitsThen charge discharge
  obtain ⟨chargeScaled, dischargeScaled, chargeNonneg, dischargeNonneg⟩ :=
    limitsValid_telemetry limitsThen
  rw [← charge] at chargeScaled
  rw [← discharge] at dischargeScaled
  obtain ⟨lower, upper, positive, negative⟩ :=
    encodeSigned_bounds inside chargeScaled dischargeScaled chargeNonneg dischargeNonneg
  rw [flags] at positive negative
  exact ⟨reads, mandatory, polled, complete, readyThen, limitsThen, running, lower, upper,
    positive, negative⟩

end Safe

end Writes

section Operations

variable {Device : Type} (client : IModbusClient Device) {approval : CommissioningApproval}
  {driver : SunStoragePro261Driver} {bus : Bus Device}

namespace Safe

theorem poll (safe : Safe approval driver bus.history) :
    Safe approval (driver.poll client bus).2.1 (driver.poll client bus).2.2.history where
  sameApproval := (driver.cache_approval _).trans safe.sameApproval
  cached := Cached.cache driver bus.history _
  justified := justified_cons.mpr ⟨trivial, safe.justified⟩

theorem heartbeat (safe : Safe approval driver bus.history) (controller : EdgeController)
    (now : SteadyTime) :
    Safe approval driver (controller.heartbeat client driver now bus).2.2.history := by
  unfold EdgeController.heartbeat
  split
  · rcases driver.refreshHeartbeat_cases client bus
      controller.config.heartbeatTimeoutSeconds with
      ⟨-, same⟩ | ⟨enabled, -, history⟩ | ⟨enabled, history⟩
    · rwa [same]
    · rw [history]
      exact safe.plainWrite enabled _ _ (by decide) (by decide) (by decide)
    · rw [history]
      exact (safe.plainWrite enabled _ _ (by decide) (by decide) (by decide)).plainWrite
        enabled _ _ (by decide) (by decide) (by decide)
  · exact safe

theorem settle (safe : Safe approval driver bus.history) (controller : EdgeController)
    (battery : BatteryTelemetry) (emsConnected heartbeatOk : Bool) :
    Safe approval driver
      (controller.settle client driver battery emsConnected heartbeatOk bus).2.history := by
  rcases controller.settle_cases client driver bus battery emsConnected heartbeatOk with
    same | ⟨-, admitted, written⟩
  · rwa [same]
  · rw [written]
    exact safe.setpointWrite admitted.1 _ fun _ => safe.covered_of_admits admitted

theorem tick (safe : Safe approval driver bus.history) (controller : EdgeController)
    (now : SteadyTime) :
    Safe approval (controller.tick client driver now bus).2.2.1
      (controller.tick client driver now bus).2.2.2.history :=
  ((safe.poll client).heartbeat client controller now).settle client controller _ _ _

theorem writePowerState (safe : Safe approval driver bus.history) (powerOn : Bool) :
    Safe approval (driver.writePowerState client powerOn bus).2.1
      (driver.writePowerState client powerOn bus).2.2.history := by
  rcases driver.writePowerState_cases client bus powerOn with
    same | ⟨-, admitted, started⟩ | ⟨-, enabled, zeroed, stopped, -, closed, history⟩
  · rwa [same]
  · rw [started]
    exact safe.startWrite admitted _
  · rw [closed, history]
    exact (safe.setpointWrite enabled zeroed fun nonzero => absurd rfl nonzero).stopWrite
      enabled stopped

theorem writeSocLimitsPct (safe : Safe approval driver bus.history) (lowerPct upperPct : ℚ) :
    Safe approval driver (driver.writeSocLimitsPct client lowerPct upperPct bus).2.history := by
  rcases driver.writeSocLimitsPct_cases client bus lowerPct upperPct with
    same | ⟨enabled, -, writes⟩
  · rwa [same]
  · exact safe.socWrites enabled writes

theorem writeReactivePowerSetpointKvar (safe : Safe approval driver bus.history)
    (reactivePowerKvar : ℚ) :
    Safe approval driver
      (driver.writeReactivePowerSetpointKvar client reactivePowerKvar bus).2.history := by
  rcases driver.writeReactivePowerSetpointKvar_cases client bus reactivePowerKvar with
    same | ⟨enabled, -, written⟩
  · rwa [same]
  · rw [written]
    exact safe.plainWrite enabled _ _ (by decide) (by decide) (by decide)

theorem handleOperation (safe : Safe approval driver bus.history)
    (operation : NorthboundOperatorCommand) :
    Safe approval (handleOperation client operation driver bus).2.1
      (handleOperation client operation driver bus).2.2.history :=
  handleOperation_invariant client (fun driver bus => Safe approval driver bus.history)
    (fun _ _ powerOn before => before.writePowerState client powerOn)
    (fun _ _ lowerPct upperPct before => before.writeSocLimitsPct client lowerPct upperPct)
    (fun _ _ kvar before => before.writeReactivePowerSetpointKvar client kvar)
    operation driver bus safe

end Safe

end Operations

namespace Gateway

variable {Device : Type} (client : IModbusClient Device) {approval : CommissioningApproval}

theorem safe_step (gateway : Gateway Device) (event : LoopEvent)
    (safe : Safe approval gateway.driver gateway.bus.history) :
    Safe approval (gateway.step client event).driver
      (gateway.step client event).bus.history := by
  cases event with
  | northboundWrite | takeNodeCommand | publish | publishNode => simpa only [step] using safe
  | takeCommand now =>
      simp only [step, takeCommand]
      split
      · exact safe.note rfl rfl trivial
      · exact safe
  | tick now =>
      have noted : Safe approval gateway.driver (gateway.bus.note (.tick now)).history :=
        safe.note rfl rfl trivial
      exact noted.tick client gateway.controller now
  | takeOperatorCommand =>
      simp only [step, takeOperatorCommand]
      split
      · exact safe.handleOperation client _
      · exact safe

/-- Whatever the run and however the vendor answers, every write in the log was
safe when it was sent. -/
theorem every_write_safe (config : ControllerConfig) (approval : CommissioningApproval)
    (device : Device) (events : List LoopEvent) :
    Justified (SafeOccurrence approval)
      (run (step client) (initial config approval device) events).bus.history :=
  (run_invariant (step client)
    (fun gateway => Safe approval gateway.driver gateway.bus.history)
    (fun gateway event safe => gateway.safe_step client event safe)
    (Safe.initial approval) events).justified

end Gateway

end GridexEdge.RockPi
