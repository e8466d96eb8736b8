import GridexEdge.Node.Isolation
import GridexEdge.Foundation.Mbap

/-!
What the applied-power register says about the device.

The register is right as long as every call either leaves the driver's last
accepted power alone or replaces it. A refused command and a refused zero do
neither: the register is cleared and the device keeps what it had, unless that
was zero.
-/

namespace GridexEdge.Node

open Foundation EthernetControlServer

/-- The last power the driver took, zero before any. -/
def lastAccepted (outputs : List (Int16 × Bool)) : Int16 :=
  ((outputs.find? Prod.snd).map Prod.fst).getD 0

theorem lastAccepted_cons (power : Int16) (taken : Bool) (outputs : List (Int16 × Bool)) :
    lastAccepted ((power, taken) :: outputs) = if taken then power else lastAccepted outputs := by
  cases taken <;> simp [lastAccepted]

namespace Firmware

variable {Device : Type} (driver : IDeviceDriver Device)

def appliedPower (firmware : Firmware Device) : Int16 :=
  (firmware.node.registerValue Reg.appliedPowerKwX10).toInt16

/-- The register shows what the device was last told. -/
def ReportsOutput (firmware : Firmware Device) : Prop :=
  firmware.appliedPower = lastAccepted firmware.outputs

/-- The installed driver takes this power. -/
def Takes (firmware : Firmware Device) (powerKwX10 : Int16) : Prop :=
  (firmware.applyPowerCommand driver powerKwX10).1 = true

/-- The call finds nothing running, or it puts something else in its place. -/
def ReplacesOutput (firmware : Firmware Device) (nowMs : UInt32) : Prop :=
  lastAccepted firmware.outputs = 0 ∨
    if firmware.sequence ≠ firmware.lastCommandSequence then
      firmware.enabled = true ∧ firmware.ttlValid = true ∧
        firmware.Takes driver firmware.requested
    else
      firmware.commandArmed = true →
        overdue firmware.lastCommandMs firmware.ttlSeconds nowMs = true →
        firmware.Takes driver 0

section Calls

variable {firmware : Firmware Device}

theorem accepted_eq_true_iff :
    (firmware.accepted driver).1 = true ↔
      firmware.enabled = true ∧ firmware.ttlValid = true ∧
        firmware.Takes driver firmware.requested := by
  unfold accepted Takes
  split
  · next valid =>
      rw [Bool.and_eq_true] at valid
      simp [valid.1, valid.2]
  · next refused =>
      rw [Bool.and_eq_true] at refused
      simp only [Bool.false_eq_true, false_iff]
      exact fun valid => refused ⟨valid.1, valid.2.1⟩

theorem appliedPower_results (node : MbusNode) (applied result : UInt16) :
    ((node.setRegister Reg.appliedPowerKwX10 applied).setRegister
      Reg.lastCommandResult result).registerValue Reg.appliedPowerKwX10 = applied := by
  rw [MbusNode.registerValue_setRegister_of_ne _ _ (by decide),
    MbusNode.registerValue_setRegister_self _ _ (by decide)]

theorem takeSequence_appliedPower (nowMs : UInt32) :
    (firmware.takeSequence driver nowMs).appliedPower =
      if (firmware.accepted driver).1 then firmware.requested else 0 := by
  unfold appliedPower takeSequence
  rw [appliedPower_results]
  split
  · exact Int16.toInt16_toUInt16 _
  · rfl

theorem takeSequence_lastAccepted (nowMs : UInt32) :
    lastAccepted (firmware.takeSequence driver nowMs).outputs =
      if (firmware.accepted driver).1 then firmware.requested
      else lastAccepted firmware.outputs := by
  have outputs : (firmware.takeSequence driver nowMs).outputs =
      (firmware.accepted driver).2.outputs := rfl
  rw [outputs]
  rcases firmware.accepted_outputs driver with ⟨same, refused⟩ | added
  · rw [same, refused]
    simp
  · rw [added, lastAccepted_cons]

/-- A new sequence is reported right if it is accepted or nothing was running. -/
theorem reportsOutput_takeSequence_iff (nowMs : UInt32) :
    (firmware.takeSequence driver nowMs).ReportsOutput ↔
      lastAccepted firmware.outputs = 0 ∨ (firmware.accepted driver).1 = true := by
  rw [ReportsOutput, takeSequence_appliedPower, takeSequence_lastAccepted]
  cases (firmware.accepted driver).1 <;> simp [eq_comm]

/-- So is an expired command whose zero the driver takes. -/
theorem reportsOutput_expire_iff :
    (firmware.expire driver).ReportsOutput ↔
      lastAccepted firmware.outputs = 0 ∨ firmware.Takes driver 0 := by
  have applied : (firmware.expire driver).appliedPower = 0 := by
    unfold appliedPower expire
    rw [appliedPower_results]
    rfl
  rw [ReportsOutput, applied, expire_outputs, lastAccepted_cons, Takes]
  cases (firmware.applyPowerCommand driver 0).1 <;> simp [eq_comm]

theorem reportsOutput_applyCommand_iff (reports : firmware.ReportsOutput) (nowMs : UInt32) :
    (firmware.applyCommand driver nowMs).ReportsOutput ↔
      firmware.ReplacesOutput driver nowMs := by
  unfold ReplacesOutput
  split
  · next new =>
      rw [applyCommand_of_new driver nowMs new, reportsOutput_takeSequence_iff,
        accepted_eq_true_iff]
  · next seen =>
      rw [applyCommand_of_seen driver nowMs (not_not.mp seen), expireOverdue]
      split
      · next expired =>
          rw [Bool.and_eq_true] at expired
          rw [reportsOutput_expire_iff]
          simp [expired.1, expired.2]
      · next running =>
          rw [Bool.and_eq_true] at running
          refine iff_of_true reports (.inr fun armed late => ?_)
          exact absurd ⟨armed, late⟩ running

end Calls

/-- No other event writes the applied-power register. -/
theorem step_appliedPower {firmware : Firmware Device} (identified : Identified firmware.node)
    (event : FirmwareEvent) (other : ∀ nowMs, event ≠ .applyCommand nowMs) :
    (firmware.step driver event).appliedPower = firmware.appliedPower := by
  refine congrArg UInt16.toInt16 ?_
  cases event with
  | controlLoop input =>
      exact (loop_isolated firmware.server input identified.applyConfiguration).registers _
        (.inr (by decide))
  | restartControl => rfl
  | setRockPiAddress address => rfl
  | provisionNode address type driverId =>
      rcases firmware.provisionNode_node address type driverId with same | provisioned
      · rw [step, same]
      · rw [step, provisioned]
        exact MbusNode.registerValue_provision_of_not_mem _ _ _ _ (by simp +decide)
  | applyCommand nowMs => exact absurd rfl (other nowMs)
  | persistNodeConfig => rfl
  | publishDriverSample sample =>
      exact MbusNode.registerValue_setRegisters_of_not_mem _ (by simp +decide [sampleRegisters])
  | publishHealthRegisters health =>
      exact MbusNode.registerValue_setRegisters_of_not_mem _ (by simp +decide [healthRegisters])
  | publishCounters uptimeSeconds cloudConnected =>
      exact MbusNode.registerValue_setRegisters_of_not_mem _ (by simp +decide [counterRegisters])

/-- The register is right after every call of a run exactly when every call
replaces what was running. -/
theorem reportsOutput_along_iff (config : NodeConfig) (device : Device)
    (events : List FirmwareEvent) :
    Along (step driver)
        (AtCalls fun firmware nowMs => (firmware.applyCommand driver nowMs).ReportsOutput)
        (boot config device) events ↔
      Along (step driver) (AtCalls (ReplacesOutput driver)) (boot config device) events := by
  apply along_congr (step driver)
    (fun firmware => Identified firmware.node ∧ firmware.ReportsOutput)
  · rintro firmware event ⟨-, reports⟩
    cases event with
    | applyCommand nowMs => exact reportsOutput_applyCommand_iff driver reports nowMs
    | _ => exact Iff.rfl
  · rintro firmware event ⟨identified, reports⟩ reported
    refine ⟨identified_step driver firmware event identified, ?_⟩
    by_cases call : ∃ nowMs, event = .applyCommand nowMs
    · obtain ⟨nowMs, rfl⟩ := call
      exact reported
    · have other : ∀ nowMs, event ≠ .applyCommand nowMs := fun nowMs same => call ⟨nowMs, same⟩
      rw [ReportsOutput, step_appliedPower driver identified event other,
        (firmware.step_sameSupervisor driver event other).outputs]
      exact reports
  · refine ⟨.ofConfig config, ?_⟩
    unfold ReportsOutput appliedPower boot MbusNode.ofConfig MbusNode.initializeIdentity
    rw [MbusNode.registerValue_setRegisters_of_not_mem _ (by simp +decide)]
    rfl

/-! ### A command that is withdrawn -/

/-- One request from the configured gateway. -/
def request (pdu : List UInt8) : FirmwareEvent :=
  .controlLoop
    { connected := true
      candidate := some 7
      available := Mbap.adu 1 1 pdu
      nowMs := 0 }

/-- FC10 over the command window. -/
def windowWrite (sequence power enable ttlSeconds : UInt16) : FirmwareEvent :=
  request (appendU16 (appendU16 [0x10] Reg.commandSequence) 4 ++
    8 :: wordsBytes [sequence, power, enable, ttlSeconds])

def willingDriver : IDeviceDriver Unit where
  applyPowerCommand _ device := (true, device)

/-- Ten kilowatts are accepted; the next sequence withdraws the enable. The
register shows zero, nothing is armed to expire, and the device runs on. -/
theorem reportsOutput_fails :
    let events := [.setRockPiAddress 7, windowWrite 1 100 1 30, .applyCommand 0,
      windowWrite 2 100 0 30, .applyCommand 5]
    let reached := run (step willingDriver) (boot {} ()) events
    ¬Along (step willingDriver)
        (AtCalls fun firmware nowMs => (firmware.applyCommand willingDriver nowMs).ReportsOutput)
        (boot {} ()) events ∧
      reached.appliedPower = 0 ∧ reached.commandArmed = false ∧
      lastAccepted reached.outputs = 100 := by
  intro events reached
  have shown : reached.appliedPower = 0 := by decide +kernel
  have running : lastAccepted reached.outputs = 100 := by decide +kernel
  refine ⟨fun along => ?_, shown, by decide +kernel, running⟩
  have reports : reached.appliedPower = lastAccepted reached.outputs := along.2.2.2.2.1
  rw [shown, running] at reports
  exact absurd reports (by decide)

end Firmware

end GridexEdge.Node
