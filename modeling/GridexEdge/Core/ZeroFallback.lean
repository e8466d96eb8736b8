import GridexEdge.Core.EdgeController

/-!
Runs of the controller, and when its zero decision reaches the cabinet.

The envelope decides zero in every unsafe case, but the decision is written only
behind the control and limit gates of the tick's own poll, while the heartbeat
is refreshed regardless. A tick behind a closed gate leaves the setpoint
register as it was.
-/

namespace GridexEdge.Core

open Foundation

structure ControlLoop (Device : Type) where
  controller : EdgeController
  driver : SunStoragePro261Driver
  bus : Bus Device

inductive ControlEvent where
  | receiveCommand (requestedPowerKw : ℚ) (site : SiteLimit) (now : SteadyTime)
  | tick (now : SteadyTime)

namespace ControlLoop

variable {Device : Type} (client : IModbusClient Device)

def initial (config : ControllerConfig) (approval : CommissioningApproval) (device : Device) :
    ControlLoop Device :=
  { controller := { config := config }
    driver := { approval := approval }
    bus := { device := device } }

def tick (loop : ControlLoop Device) (now : SteadyTime) :
    ControllerSnapshot × ControlLoop Device :=
  let ticked := loop.controller.tick client loop.driver now loop.bus
  (ticked.1, { controller := ticked.2.1, driver := ticked.2.2.1, bus := ticked.2.2.2 })

def step (loop : ControlLoop Device) : ControlEvent → ControlLoop Device
  | .receiveCommand requestedPowerKw site now =>
      { loop with controller := loop.controller.receiveCommand requestedPowerKw site now }
  | .tick now => (loop.tick client now).2

/-- The setpoint register of a cabinet that acknowledges every write. -/
def setpoint (loop : ControlLoop Device) : UInt16 :=
  writtenValue Registers.pcsPowerCommand loop.bus.history

/-- A tick that reports zero applied power leaves zero in the register. -/
def ZeroReachesDevice (loop : ControlLoop Device) : ControlEvent → Prop
  | .receiveCommand _ _ _ => True
  | .tick now =>
      (loop.tick client now).1.command.appliedPowerKw = 0 → (loop.tick client now).2.setpoint = 0

/-- The telemetry the next tick will poll. -/
def upcoming (loop : ControlLoop Device) : BatteryTelemetry :=
  loop.driver.report (loop.bus.poll client).1

/-- The tick can write the setpoint, or has nothing to clear. -/
def SetpointWritable (loop : ControlLoop Device) : ControlEvent → Prop
  | .receiveCommand _ _ _ => True
  | .tick _ =>
      (loop.upcoming client).controlReady = true ∧ (loop.upcoming client).limitsValid = true ∨
        loop.setpoint = 0

section Settling

open SunStoragePro261Driver EdgeController

variable (controller : EdgeController) (driver : SunStoragePro261Driver)

theorem report_cache {reads : PollReads} (ready : (driver.report reads).controlReady = true) :
    (driver.cache reads).controlReady = true ∧
      (driver.cache reads).limitsValid = (driver.report reads).limitsValid ∧
      (driver.cache reads).maxChargeKw = (driver.report reads).maxChargeKw ∧
      (driver.cache reads).maxDischargeKw = (driver.report reads).maxDischargeKw ∧
      (driver.cache reads).bmsSystemFlags = (driver.report reads).bmsSystemFlags ∧
      0 ≤ (driver.report reads).maxChargeKw ∧ 0 ≤ (driver.report reads).maxDischargeKw := by
  unfold report SunStoragePro261Driver.cache at *
  cases complete : reads.mandatory with
  | none => simp [complete] at ready
  | some mandatory =>
      rw [complete] at ready
      exact ⟨ready, rfl, rfl, rfl, rfl, le_max_left _ _, le_max_left _ _⟩

/-- What the envelope allows always passes the second clamp of the same poll. -/
theorem apply_not_exceedsLimits {reads : PollReads} (input : SafetyInput)
    (same : input.battery = driver.report reads)
    (ready : (driver.report reads).controlReady = true) :
    (driver.cache reads).exceedsLimits (SafetyEnvelope.apply input).appliedPowerKw = false := by
  obtain ⟨-, -, charge, discharge, flags, chargeNonneg, dischargeNonneg⟩ :=
    report_cache driver ready
  have lower := SafetyEnvelope.lowerBoundKw_le_apply input
  have upper := SafetyEnvelope.apply_le_upperBoundKw input
  have chargeBound := input.maxChargeKw_le
  have dischargeBound := input.maxDischargeKw_le
  rw [same, max_eq_right chargeNonneg] at chargeBound
  rw [same, max_eq_right dischargeNonneg] at dischargeBound
  unfold SafetyInput.lowerBoundKw at lower
  unfold SafetyInput.upperBoundKw at upper
  simp only [exceedsLimits, charge, discharge, flags, Bool.or_eq_false_iff,
    Bool.and_eq_false_imp, decide_eq_true_eq, decide_eq_false_iff_not, not_lt]
  rw [same] at lower upper
  constructor
  · intro charging
    split at lower
    · linarith
    · next allowed => exact ⟨by simpa using allowed, by linarith⟩
  · intro discharging
    split at upper
    · linarith
    · next allowed => exact ⟨by simpa using allowed, by linarith⟩

/-- The heartbeat writes no setpoint. -/
theorem heartbeat_writtenValue (now : SteadyTime) (bus : Bus Device) :
    writtenValue Registers.pcsPowerCommand
        (controller.heartbeat client driver now bus).2.2.history =
      writtenValue Registers.pcsPowerCommand bus.history := by
  unfold EdgeController.heartbeat
  split
  · rcases driver.refreshHeartbeat_cases client bus
      controller.config.heartbeatTimeoutSeconds with
      ⟨-, same⟩ | ⟨-, -, history⟩ | ⟨-, history⟩
    · rw [same]
    · simp only [history, writtenValue]
    · rw [history, writtenValue_write_of_ne (by decide), writtenValue_write_of_ne (by decide)]
  · rfl

end Settling

section Ticks

open SunStoragePro261Driver EdgeController

variable (loop : ControlLoop Device) (now : SteadyTime)

/-! The stages of the next tick. -/

def polled : SunStoragePro261Driver := loop.driver.cache (loop.bus.poll client).1

def beat : Bool × EdgeController × Bus Device :=
  loop.controller.heartbeat client (loop.polled client) now (loop.bus.poll client).2

def settled : ControllerSnapshot × Bus Device :=
  loop.controller.settle client (loop.polled client) (loop.upcoming client)
    (loop.controller.emsConnected now) (loop.beat client now).1 (loop.beat client now).2.2

theorem tick_eq :
    loop.tick client now =
      ((loop.settled client now).1,
        { controller := (loop.beat client now).2.1
          driver := loop.polled client
          bus := (loop.settled client now).2 }) := by rfl

theorem beat_setpoint :
    writtenValue Registers.pcsPowerCommand (loop.beat client now).2.2.history = loop.setpoint :=
  heartbeat_writtenValue client loop.controller (loop.polled client) now (loop.bus.poll client).2

variable {client loop}

/-- Behind open gates the reported power is the register's. -/
theorem tick_of_writable (enabled : loop.driver.writesEnabled = true)
    (acknowledges : ∀ address value device, (client.writeHolding address value device).1 = true)
    (ready : (loop.upcoming client).controlReady = true)
    (limits : (loop.upcoming client).limitsValid = true) :
    (loop.tick client now).2.setpoint =
      encodeSigned (loop.tick client now).1.command.appliedPowerKw 10 := by
  obtain ⟨cacheReady, cacheLimits, -⟩ := report_cache loop.driver ready
  have cacheEnabled : (loop.polled client).writesEnabled = true := by
    simpa [polled, writesEnabled] using enabled
  have decided : (SafetyEnvelope.apply (loop.controller.safetyInput (loop.upcoming client)
    (loop.controller.emsConnected now) (loop.beat client now).1)).appliedPowerKw = _ := rfl
  obtain ⟨reported, written⟩ := settle_written client loop.controller (loop.polled client)
    (loop.beat client now).2.2 decided ready
    ⟨cacheEnabled, cacheReady, cacheLimits.trans limits,
      apply_not_exceedsLimits loop.driver _ rfl ready⟩ (acknowledges _ _ _)
  rw [tick_eq, settled, reported, setpoint, written, Bus.write_history,
    show (Bus.write ..).1 = true from acknowledges _ _ _]
  simp [writtenValue]

/-- Behind a closed gate the tick reports zero and leaves the register alone. -/
theorem tick_of_not_writable
    (closed : ¬((loop.upcoming client).controlReady = true ∧
      (loop.upcoming client).limitsValid = true)) :
    (loop.tick client now).1.command.appliedPowerKw = 0 ∧
      (loop.tick client now).2.setpoint = loop.setpoint := by
  rw [tick_eq]
  constructor
  · apply settle_zero
    apply SafetyEnvelope.apply_of_not_open
    exact fun opened => closed ⟨opened.2.2.2, opened.2.2.1⟩
  · rcases settle_cases client loop.controller (loop.polled client) (loop.beat client now).2.2
      (loop.upcoming client) (loop.controller.emsConnected now) (loop.beat client now).1 with
      kept | ⟨ready, admitted, -⟩
    · rw [setpoint, settled, kept, beat_setpoint]
    · obtain ⟨-, cacheLimits, -⟩ := report_cache loop.driver ready
      exact absurd ⟨ready, cacheLimits.symm.trans admitted.2.2.1⟩ closed

theorem zeroReachesDevice_event_iff (enabled : loop.driver.writesEnabled = true)
    (acknowledges : ∀ address value device, (client.writeHolding address value device).1 = true)
    (event : ControlEvent) :
    loop.ZeroReachesDevice client event ↔ loop.SetpointWritable client event := by
  cases event with
  | receiveCommand => exact Iff.rfl
  | tick now =>
      by_cases writable : (loop.upcoming client).controlReady = true ∧
          (loop.upcoming client).limitsValid = true
      · have register := tick_of_writable now enabled acknowledges writable.1 writable.2
        refine iff_of_true (fun zero => ?_) (.inl writable)
        rw [register, zero, encodeSigned_zero]
      · obtain ⟨zero, same⟩ := tick_of_not_writable now writable
        simp [ZeroReachesDevice, SetpointWritable, zero, same, writable]

@[simp]
theorem step_writesEnabled (event : ControlEvent) :
    (loop.step client event).driver.writesEnabled = loop.driver.writesEnabled := by
  cases event with
  | receiveCommand => rfl
  | tick now =>
      change (loop.driver.cache (loop.bus.poll client).1).approval.writesEnabled = _
      rw [cache_approval]
      rfl

end Ticks

/-- Over a whole run of a cabinet that acknowledges everything, every zero the
controller reports is in the setpoint register exactly when every tick finds the
write gates open or the register already clear. -/
theorem zeroReachesDevice_along_iff (config : ControllerConfig) {approval : CommissioningApproval}
    (enabled : approval.writesEnabled = true)
    (acknowledges : ∀ address value device, (client.writeHolding address value device).1 = true)
    (device : Device) (events : List ControlEvent) :
    Along (step client) (ZeroReachesDevice client) (initial config approval device) events ↔
      Along (step client) (SetpointWritable client) (initial config approval device) events := by
  apply along_congr (step client) (fun loop => loop.driver.writesEnabled = true)
  · intro loop event writable
    exact zeroReachesDevice_event_iff writable acknowledges event
  · intro loop event writable _
    rwa [step_writesEnabled]
  · exact enabled

/-! ### A cabinet that loses one read -/

/-- A cabinet in order, whose battery current stops answering in the second poll.
The device counts the polls. -/
def currentLostClient : IModbusClient Nat where
  readInput address polls :=
    (if address = Registers.bmsCurrent ∧ 2 ≤ polls then none
      else if address = Registers.bmsSoc then some 500
      else some 1000, polls)
  readInputRange _ _ polls := (some [0, 0, 0, 0], polls)
  readHolding address polls := (some (if address = Registers.pcsGridMode then 0 else 1), polls)
  readCoil address polls :=
    (some false, if address = Registers.pcsFault then polls + 1 else polls)
  writeHolding _ _ polls := (true, polls)

def fullApproval : CommissioningApproval :=
  { addressingConfirmed := true, signConfirmed := true, scalingConfirmed := true }

/-- The same cabinet as long as it loses nothing. -/
def answeringClient : IModbusClient Nat :=
  { currentLostClient with
    readInput address polls :=
      (if address = Registers.bmsSoc then some 500 else some 1000, polls) }

/-- Ten kilowatts are in the register, and the fallback after the command timeout clears
them while the cabinet answers. -/
theorem zeroReachesDevice_along_answering :
    let begun : List ControlEvent := [.receiveCommand 10 {} 0, .tick 0]
    (run (step answeringClient) (initial {} fullApproval 0) begun).setpoint = 100 ∧
      Along (step answeringClient) (ZeroReachesDevice answeringClient)
        (initial {} fullApproval 0) (begun ++ [.tick (seconds 16)]) ∧
      (run (step answeringClient) (initial {} fullApproval 0)
        (begun ++ [.tick (seconds 16)])).setpoint = 0 := by
  refine ⟨by decide +kernel, ?_, by decide +kernel⟩
  exact (zeroReachesDevice_along_iff answeringClient {} (by rfl) (fun _ _ _ => rfl) 0 _).mpr
    ⟨trivial, .inl (by decide +kernel), .inl (by decide +kernel), trivial⟩

/-- Ten kilowatts are written at time zero; sixteen seconds later the command is
stale and one read is missing, so the reported zero is never written. -/
theorem zeroReachesDevice_fails :
    ¬∀ (Device : Type) (client : IModbusClient Device) (config : ControllerConfig)
      (approval : CommissioningApproval) (device : Device) (events : List ControlEvent),
      approval.writesEnabled = true →
      (∀ address value device, (client.writeHolding address value device).1 = true) →
      Along (step client) (ZeroReachesDevice client) (initial config approval device) events := by
  intro always
  have along := always Nat currentLostClient {} fullApproval 0
    [.receiveCommand 10 {} 0, .tick 0, .tick (seconds 16)] rfl (fun _ _ _ => rfl)
  have reached := along.2.2.1
  revert reached
  unfold ZeroReachesDevice
  decide +kernel

end ControlLoop

end GridexEdge.Core
