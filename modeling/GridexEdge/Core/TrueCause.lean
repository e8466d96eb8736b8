import GridexEdge.Core.TickWrites

/-!
What a tick blames for not being ready.

A poll takes the validity of its limits over into the quality, and a tick looks at the
quality first. Bad limits are therefore reported as a lost connection or, behind the
control gate, as a failed write that was never sent.
-/

namespace GridexEdge.Core

open Foundation

/-! ### The causes -/

/-- The limits and the state of charge of a complete poll make sense. -/
def LimitsSound (mandatory : MandatoryReads) : Prop :=
  0 ≤ signed mandatory.maxCharge ∧ 0 ≤ signed mandatory.maxDischarge ∧
    0 ≤ signed mandatory.soc ∧ signed mandatory.soc ≤ 1000

instance decidableLimitsSound (mandatory : MandatoryReads) :
    Decidable (LimitsSound mandatory) :=
  inferInstanceAs (Decidable (_ ∧ _))

/-- Nothing is read that contradicts the limits: they are sound, or unread. -/
def LimitsKnown (reads : PollReads) : Prop :=
  ∀ mandatory ∈ reads.mandatory, LimitsSound mandatory

instance decidableLimitsKnown (reads : PollReads) : Decidable (LimitsKnown reads) :=
  inferInstanceAs (Decidable (∀ mandatory ∈ reads.mandatory, LimitsSound mandatory))

def MandatoryReads.faulty (mandatory : MandatoryReads) : Bool :=
  mandatory.pcsFault || mandatory.pcsCommunicationFault || mandatory.bmsFault ||
    mandatory.bmsCommunicationFault

def MandatoryReads.pcsPrepared (mandatory : MandatoryReads) : Bool :=
  mandatory.pcsPowerOn == 1 && mandatory.pcsGridMode == 0 && !mandatory.pcsOffGrid &&
    mandatory.pcsWorkMode == 1

/-- The state a poll and a connection call for while writes are acknowledged. -/
def trueCause (reads : PollReads) (emsConnected : Bool) : EdgeState :=
  match reads.mandatory with
  | none => .waitingForComms
  | some mandatory =>
      if ¬LimitsSound mandatory then .waitingForBmsLimits
      else if mandatory.faulty then .fault
      else if !mandatory.pcsPrepared then .waitingForPcsReady
      else if !emsConnected then .safeMode
      else .ready

section Telemetry

variable (approval : CommissioningApproval) (reads : PollReads) (mandatory : MandatoryReads)

theorem limitsValid_iff :
    (telemetry approval reads mandatory).limitsValid = true ↔ LimitsSound mandatory := by
  have nonneg : ∀ raw : UInt16, 0 ≤ decodeSigned raw 10 ↔ 0 ≤ signed raw := by
    intro raw
    rw [decodeSigned, le_div_iff₀ (by norm_num), zero_mul]
    exact Int.cast_nonneg_iff
  have full : decodeSigned mandatory.soc 10 ≤ 100 ↔ signed mandatory.soc ≤ 1000 := by
    rw [decodeSigned, div_le_iff₀ (by norm_num)]
    norm_num
    exact_mod_cast Iff.rfl
  simp only [telemetry, Bool.and_eq_true, decide_eq_true_eq, nonneg, full, LimitsSound,
    and_assoc]

/-- The quality of a complete poll is the validity of its limits. -/
theorem quality_eq :
    (telemetry approval reads mandatory).quality =
      if (telemetry approval reads mandatory).limitsValid then .good else .invalid := by rfl

theorem controlReady_eq :
    (telemetry approval reads mandatory).controlReady =
      (mandatory.pcsPrepared && !mandatory.faulty) := by
  simp only [telemetry, MandatoryReads.pcsPrepared, MandatoryReads.faulty, Bool.not_or,
    Bool.and_assoc]

theorem faulty_eq :
    ((telemetry approval reads mandatory).pcsFault ||
        (telemetry approval reads mandatory).bmsFault ||
        (telemetry approval reads mandatory).pcsCommunicationFault ||
        (telemetry approval reads mandatory).bmsCommunicationFault) = mandatory.faulty := by
  simp only [telemetry, MandatoryReads.faulty]
  cases mandatory.pcsFault <;> cases mandatory.bmsFault <;> simp

end Telemetry

/-! ### The reasons of the envelope -/

theorem notReadyReason_ne (battery : BatteryTelemetry) :
    notReadyReason battery ≠ "PCS command write failed" := by
  unfold notReadyReason
  repeat' split
  all_goals decide

/-- The envelope never speaks of a failed write. -/
theorem SafetyEnvelope.apply_reason_ne (input : SafetyInput) :
    (SafetyEnvelope.apply input).reason ≠ "PCS command write failed" := by
  unfold SafetyEnvelope.apply
  dsimp only
  repeat' split
  all_goals first | exact notReadyReason_ne input.battery | simp

namespace ControlLoop

variable {Device : Type} {client : IModbusClient Device} {loop : ControlLoop Device}
  {now : SteadyTime}

def reads (client : IModbusClient Device) (loop : ControlLoop Device) : PollReads :=
  (loop.bus.poll client).1

/-- The tick blames a failed write only for a setpoint that was sent and not
acknowledged. -/
def BlamesWrite (client : IModbusClient Device) (loop : ControlLoop Device) (now : SteadyTime) :
    Prop :=
  (loop.tick client now).1.command.reason = "PCS command write failed" →
    ∃ value, (value, false) ∈ setpointWrites (loop.added client now)

/-- The state of the tick is the true cause. -/
def NamesCause (client : IModbusClient Device) (loop : ControlLoop Device) (now : SteadyTime) :
    Prop :=
  (loop.tick client now).1.state =
    trueCause (loop.reads client) (loop.controller.emsConnected now)

theorem upcoming_of_missing (missing : (loop.reads client).mandatory = none) :
    loop.upcoming client = { quality := .invalid, limitsValid := false } := by
  unfold reads at missing
  rw [upcoming, SunStoragePro261Driver.report, missing]

theorem upcoming_of_complete {mandatory : MandatoryReads}
    (complete : (loop.reads client).mandatory = some mandatory) :
    loop.upcoming client = telemetry loop.driver.approval (loop.reads client) mandatory := by
  unfold reads at complete
  rw [upcoming, SunStoragePro261Driver.report, complete]
  rfl

theorem decided_of_fresh (fresh : (loop.beat client now).1 = true) :
    (loop.decided client now).state =
      EdgeController.tickState (loop.upcoming client) (loop.controller.emsConnected now) true := by
  rw [decided, fresh]

/-- A complete poll with sound limits gets the state it calls for. -/
theorem tickState_of_sound (approval : CommissioningApproval) {reads : PollReads}
    {mandatory : MandatoryReads} (complete : reads.mandatory = some mandatory)
    (sound : LimitsSound mandatory) (emsConnected : Bool) :
    EdgeController.tickState (telemetry approval reads mandatory) emsConnected true =
      trueCause reads emsConnected := by
  have valid := (limitsValid_iff approval reads mandatory).mpr sound
  have good : (telemetry approval reads mandatory).quality = .good := by
    rw [quality_eq, valid]
    rfl
  rw [trueCause, complete]
  dsimp only
  rw [EdgeController.tickState, good, valid, controlReady_eq, faulty_eq,
    if_neg (not_not_intro sound)]
  cases mandatory.faulty <;> cases mandatory.pcsPrepared <;> rfl

/-- Behind the control gate the limits are known when they are valid. -/
theorem limitsKnown_iff_of_ready (ready : (loop.upcoming client).controlReady = true) :
    LimitsKnown (loop.reads client) ↔ (loop.upcoming client).limitsValid = true := by
  cases complete : (loop.reads client).mandatory with
  | none =>
      rw [upcoming_of_missing complete] at ready
      exact absurd ready (by simp)
  | some mandatory =>
      rw [upcoming_of_complete complete, limitsValid_iff, LimitsKnown, complete]
      simp

/-- With the limits known and the setpoint acknowledged, the tick reports what it has
decided. -/
theorem tick_of_known (enabled : loop.driver.writesEnabled = true)
    (known : LimitsKnown (loop.reads client))
    (acknowledged : loop.SendsSetpoint client now → (loop.sent client now).1 = true) :
    (loop.tick client now).1 = loop.decided client now := by
  rw [tick_eq]
  by_cases sends : loop.SendsSetpoint client now
  · rw [settled_of_sends sends, if_pos (acknowledged sends)]
  · have closed : (loop.upcoming client).controlReady = false := by
      by_contra open_
      have ready := Bool.eq_true_of_not_eq_false open_
      exact sends ((sends_iff enabled).mpr ⟨ready, (limitsKnown_iff_of_ready ready).mp known⟩)
    rw [settled_of_not_sends enabled sends, closed]
    rfl

theorem namesCause_of_known (enabled : loop.driver.writesEnabled = true)
    (acknowledged : ∀ occurrence ∈ loop.added client now, occurrence.Acknowledged)
    (known : LimitsKnown (loop.reads client)) : loop.NamesCause client now := by
  have sentAcknowledged : loop.SendsSetpoint client now → (loop.sent client now).1 = true := by
    intro sends
    obtain ⟨beats, added, -⟩ := added_of_sends sends
    exact acknowledged _ (by rw [added]; exact List.mem_cons_self)
  rw [NamesCause, tick_of_known enabled known sentAcknowledged,
    decided_of_fresh (beat_of_acknowledged enabled acknowledged)]
  cases complete : (loop.reads client).mandatory with
  | none =>
      rw [upcoming_of_missing complete, trueCause, complete]
      rfl
  | some mandatory =>
      rw [upcoming_of_complete complete]
      exact tickState_of_sound _ complete (known mandatory complete) _

/-- A tick with bad limits never waits for them. -/
theorem not_namesCause_of_unsound (enabled : loop.driver.writesEnabled = true)
    {mandatory : MandatoryReads} (complete : (loop.reads client).mandatory = some mandatory)
    (unsound : ¬LimitsSound mandatory) : ¬loop.NamesCause client now := by
  have valid : (loop.upcoming client).limitsValid = false := by
    rw [upcoming_of_complete complete, ← Bool.not_eq_true, limitsValid_iff]
    exact unsound
  have bad : (loop.upcoming client).quality = .invalid := by
    rw [upcoming_of_complete complete] at valid ⊢
    rw [quality_eq, valid]
    rfl
  have silent : ¬loop.SendsSetpoint client now := by
    rw [sends_iff enabled, valid]
    simp
  rw [NamesCause, trueCause, complete, tick_eq, settled_of_not_sends enabled silent]
  dsimp only
  rw [if_pos unsound]
  split
  · simp [ControllerSnapshot.writeFailed]
  · rw [decided, EdgeController.tickState, bad]
    cases (loop.beat client now).1 <;> simp

theorem blamesWrite_iff (enabled : loop.driver.writesEnabled = true) :
    loop.BlamesWrite client now ↔
      ((loop.upcoming client).controlReady = true → LimitsKnown (loop.reads client)) := by
  have decidedReason := SafetyEnvelope.apply_reason_ne (loop.decision client now)
  by_cases sends : loop.SendsSetpoint client now
  · obtain ⟨ready, limits⟩ := (sends_iff enabled).mp sends
    refine iff_of_true ?_ fun _ => (limitsKnown_iff_of_ready ready).mpr limits
    rw [BlamesWrite, tick_eq, settled_of_sends sends, setpointWrites_of_sends sends]
    cases acknowledged : (loop.sent client now).1 with
    | true => exact fun blamed => absurd blamed decidedReason
    | false => exact fun _ => ⟨_, List.mem_cons_self⟩
  · rw [BlamesWrite, tick_eq, settled_of_not_sends enabled sends,
      setpointWrites_of_not_sends sends]
    cases ready : (loop.upcoming client).controlReady with
    | true =>
        have invalid : ¬(loop.upcoming client).limitsValid = true :=
          fun valid => sends ((sends_iff enabled).mpr ⟨ready, valid⟩)
        rw [limitsKnown_iff_of_ready ready]
        simp [invalid, ControllerSnapshot.writeFailed]
    | false => exact iff_of_true (fun blamed => absurd blamed decidedReason) (by simp)

/-- In every state with the write path approved: while the writes of a tick are
acknowledged it names the true cause exactly when the limits it has polled are
sound or unread. Behind a closed control gate it never blames a write. -/
theorem names_true_cause_iff (client : IModbusClient Device) (loop : ControlLoop Device)
    (now : SteadyTime) (enabled : loop.driver.writesEnabled = true) :
    ((∀ occurrence ∈ loop.added client now, occurrence.Acknowledged) →
        (loop.NamesCause client now ∧ loop.BlamesWrite client now ↔
          LimitsKnown (loop.reads client))) ∧
      (loop.BlamesWrite client now ↔
        ((loop.upcoming client).controlReady = true → LimitsKnown (loop.reads client))) := by
  refine ⟨fun acknowledged => ⟨?_, ?_⟩, blamesWrite_iff enabled⟩
  · rintro ⟨named, -⟩ mandatory complete
    by_contra unsound
    exact not_namesCause_of_unsound enabled complete unsound named
  · intro known
    exact ⟨namesCause_of_known enabled acknowledged known,
      (blamesWrite_iff enabled).mpr fun _ => known⟩

/-- A cabinet that is ready and allows a hundred kilowatts. -/
theorem names_true_cause_ready :
    let loop := initial {} fullApproval ()
    loop.NamesCause (cabinetInOrder 1000) 0 ∧ loop.BlamesWrite (cabinetInOrder 1000) 0 :=
  ((names_true_cause_iff (cabinetInOrder 1000) (initial {} fullApproval ()) 0 rfl).1
    (by decide +kernel)).mpr (by decide +kernel)

/-- A cabinet that is ready and acknowledges everything, but reads out limits below
zero: the tick reports a fault and blames a write that was never sent. -/
theorem names_true_cause_fails :
    ¬∀ (Device : Type) (client : IModbusClient Device) (config : ControllerConfig)
      (approval : CommissioningApproval) (device : Device) (events : List ControlEvent)
      (now : SteadyTime),
      approval.writesEnabled = true →
      let loop := run (step client) (initial config approval device) events
      (∀ occurrence ∈ loop.added client now, occurrence.Acknowledged) →
      loop.NamesCause client now ∧ loop.BlamesWrite client now := by
  intro always
  obtain ⟨named, -⟩ := always Unit (cabinetInOrder 65535) {} fullApproval () [] 0 rfl
    (by decide +kernel)
  revert named
  unfold NamesCause
  decide +kernel

end ControlLoop

end GridexEdge.Core
