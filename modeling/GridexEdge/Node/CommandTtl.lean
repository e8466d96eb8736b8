import GridexEdge.Node.OutputReport

/-!
How long an accepted command stays armed.

The validity of a TTL is decided once, when a sequence is new, but every call
measures the time against the register as it then is. A command is dropped at its
own deadline exactly when that register has given the accepted TTL's answer at
every call up to then.
-/

namespace GridexEdge.Node

open Foundation

namespace Firmware

variable {Device : Type} (driver : IDeviceDriver Device)

/-- A call that takes a new sequence and arms it. -/
def Accepts (firmware : Firmware Device) : Prop :=
  firmware.sequence ≠ firmware.lastCommandSequence ∧ (firmware.accepted driver).1 = true

/-- The call gives the driver a zero and disarms the command. -/
def DropsCommand (firmware : Firmware Device) (nowMs : UInt32) : Prop :=
  (∃ taken, (firmware.applyCommand driver nowMs).outputs = (0, taken) :: firmware.outputs) ∧
    (firmware.applyCommand driver nowMs).commandArmed = false

/-- No call since the acceptance was past the accepted TTL, this one is, and the
sequence register has kept the command's value at all of them. -/
structure FirstCallPast (firmware : Firmware Device) (acceptedMs : UInt32)
    (since : List FirmwareEvent) (nowMs : UInt32) : Prop where
  kept : Along (step driver) (AtCalls fun later _ => later.sequence = firmware.sequence)
    (firmware.applyCommand driver acceptedMs) (since ++ [.applyCommand nowMs])
  early : Along (step driver)
    (AtCalls fun _ callMs => overdue acceptedMs firmware.ttlSeconds callMs = false)
    (firmware.applyCommand driver acceptedMs) since
  late : overdue acceptedMs firmware.ttlSeconds nowMs = true

/-- At every call the TTL register answers as the accepted TTL does. -/
def RegisterAgrees (firmware : Firmware Device) (acceptedMs : UInt32)
    (since : List FirmwareEvent) (nowMs : UInt32) : Prop :=
  Along (step driver)
    (AtCalls fun later callMs => overdue acceptedMs later.ttlSeconds callMs =
      overdue acceptedMs firmware.ttlSeconds callMs)
    (firmware.applyCommand driver acceptedMs) (since ++ [.applyCommand nowMs])

section Armed

variable {acceptedMs : UInt32} {sequence : UInt16}

/-- The supervisor goes by this command, armed or not. -/
structure Supervises (acceptedMs : UInt32) (sequence : UInt16) (firmware : Firmware Device) :
    Prop where
  lastCommandMs : firmware.lastCommandMs = acceptedMs
  lastCommandSequence : firmware.lastCommandSequence = sequence

variable {firmware : Firmware Device}

/-- The call that can drop the command leaves its time and its sequence. -/
theorem supervises_expireOverdue (supervises : Supervises acceptedMs sequence firmware)
    (ttlSeconds : UInt16) (nowMs : UInt32) :
    Supervises acceptedMs sequence (firmware.expireOverdue driver ttlSeconds nowMs) := by
  unfold expireOverdue
  split
  · refine ⟨?_, ?_⟩
    · exact (expire_lastCommand driver firmware).1.trans supervises.lastCommandMs
    · exact (expire_lastCommand driver firmware).2.trans supervises.lastCommandSequence
  · exact supervises

theorem commandArmed_expireOverdue_iff (supervises : Supervises acceptedMs sequence firmware)
    (ttlSeconds : UInt16) (nowMs : UInt32) :
    (firmware.expireOverdue driver ttlSeconds nowMs).commandArmed = true ↔
      firmware.commandArmed = true ∧ overdue acceptedMs ttlSeconds nowMs = false := by
  have disarmed : (firmware.expire driver).commandArmed = false := rfl
  rw [expireOverdue, supervises.lastCommandMs]
  split
  · next expired =>
      rw [Bool.and_eq_true] at expired
      simp [disarmed, expired.2]
  · next running =>
      rw [Bool.and_eq_true, not_and, Bool.not_eq_true] at running
      exact ⟨fun armed => ⟨armed, running armed⟩, fun survived => survived.1⟩

/-- While the sequence is kept, no call takes a new one. -/
theorem applyCommand_of_kept (supervises : Supervises acceptedMs sequence firmware)
    (kept : firmware.sequence = sequence) (nowMs : UInt32) :
    firmware.applyCommand driver nowMs =
      firmware.expireOverdue driver firmware.ttlSeconds nowMs :=
  applyCommand_of_seen driver nowMs (kept.trans supervises.lastCommandSequence.symm)

/-- One event: the supervisor stays with the command, and only a call that finds
it overdue by the register disarms it. -/
theorem armed_step_iff (supervises : Supervises acceptedMs sequence firmware)
    {event : FirmwareEvent}
    (kept : AtCalls (fun later _ => later.sequence = sequence) firmware event) :
    Supervises acceptedMs sequence (firmware.step driver event) ∧
      ((firmware.step driver event).commandArmed = true ↔
        firmware.commandArmed = true ∧
          AtCalls (fun later callMs => overdue acceptedMs later.ttlSeconds callMs = false)
            firmware event) := by
  by_cases call : ∃ nowMs, event = .applyCommand nowMs
  · obtain ⟨nowMs, rfl⟩ := call
    rw [step, applyCommand_of_kept driver supervises kept]
    exact ⟨supervises_expireOverdue driver supervises _ _,
      commandArmed_expireOverdue_iff driver supervises _ _⟩
  · have other : ∀ nowMs, event ≠ .applyCommand nowMs := fun nowMs same => call ⟨nowMs, same⟩
    have same := firmware.step_sameSupervisor driver event other
    have noCall : AtCalls
        (fun later callMs => overdue acceptedMs later.ttlSeconds callMs = false)
        firmware event := by
      cases event with
      | applyCommand nowMs => exact absurd rfl (other nowMs)
      | _ => trivial
    rw [same.commandArmed, and_iff_left noCall]
    exact ⟨⟨same.lastCommandMs.trans supervises.lastCommandMs,
      same.lastCommandSequence.trans supervises.lastCommandSequence⟩, Iff.rfl⟩

/-- A run: an armed command survives exactly when no call finds it overdue by the
register. -/
theorem armed_run_iff (supervises : Supervises acceptedMs sequence firmware)
    {events : List FirmwareEvent}
    (kept : Along (step driver) (AtCalls fun later _ => later.sequence = sequence)
      firmware events) :
    Supervises acceptedMs sequence (run (step driver) firmware events) ∧
      ((run (step driver) firmware events).commandArmed = true ↔
        firmware.commandArmed = true ∧
          Along (step driver)
            (AtCalls fun later callMs => overdue acceptedMs later.ttlSeconds callMs = false)
            firmware events) := by
  induction events generalizing firmware with
  | nil => exact ⟨supervises, by simp [Along]⟩
  | cons event rest inductionHypothesis =>
      obtain ⟨next, survives⟩ := armed_step_iff driver supervises kept.1
      obtain ⟨last, survivesRest⟩ := inductionHypothesis next kept.2
      refine ⟨last, ?_⟩
      rw [run_cons, survivesRest, survives, Along, and_assoc]

theorem dropsCommand_iff (supervises : Supervises acceptedMs sequence firmware)
    (kept : firmware.sequence = sequence) (nowMs : UInt32) :
    firmware.DropsCommand driver nowMs ↔
      firmware.commandArmed = true ∧ overdue acceptedMs firmware.ttlSeconds nowMs = true := by
  rw [DropsCommand, applyCommand_of_kept driver supervises kept, expireOverdue,
    supervises.lastCommandMs]
  split
  · next expired =>
      rw [Bool.and_eq_true] at expired
      exact iff_of_true ⟨⟨_, expire_outputs driver firmware⟩, rfl⟩ expired
  · next running =>
      rw [Bool.and_eq_true] at running
      refine iff_of_false ?_ running
      -- A call that drops nothing sends nothing.
      rintro ⟨⟨taken, sent⟩, -⟩
      exact List.cons_ne_self _ _ sent.symm

end Armed

/-- From any state: the first call past an accepted command's own deadline drops
it exactly when the TTL register has stood in for the accepted TTL until then. -/
theorem dropped_at_deadline_iff (firmware : Firmware Device) (acceptedMs : UInt32)
    (since : List FirmwareEvent) (nowMs : UInt32) (accepts : firmware.Accepts driver)
    (past : firmware.FirstCallPast driver acceptedMs since nowMs) :
    (run (step driver) (firmware.applyCommand driver acceptedMs) since).DropsCommand driver nowMs ↔
      firmware.RegisterAgrees driver acceptedMs since nowMs := by
  have taken := applyCommand_of_new driver acceptedMs accepts.1
  have supervises : Supervises acceptedMs firmware.sequence
      (firmware.applyCommand driver acceptedMs) := by
    rw [taken]
    exact ⟨rfl, rfl⟩
  have armed : (firmware.applyCommand driver acceptedMs).commandArmed = true := by
    rw [taken, takeSequence_commandArmed]
    exact accepts.2
  obtain ⟨kept, keptNow, -⟩ := (along_append _ _ _).mp past.kept
  obtain ⟨still, survives⟩ := armed_run_iff driver supervises kept
  -- Before the deadline the accepted TTL says no at every call, and now it says yes.
  have before : Along (step driver)
        (AtCalls fun later callMs => overdue acceptedMs later.ttlSeconds callMs =
          overdue acceptedMs firmware.ttlSeconds callMs)
        (firmware.applyCommand driver acceptedMs) since ↔
      Along (step driver)
        (AtCalls fun later callMs => overdue acceptedMs later.ttlSeconds callMs = false)
        (firmware.applyCommand driver acceptedMs) since := by
    refine along_congr_of_along (step driver) (fun later event early => ?_) past.early
    cases event with
    | applyCommand callMs =>
        change _ = overdue acceptedMs firmware.ttlSeconds callMs ↔ _
        rw [show overdue acceptedMs firmware.ttlSeconds callMs = false from early]
        exact Iff.rfl
    | _ => exact Iff.rfl
  rw [dropsCommand_iff driver still keptNow, survives, and_iff_right armed, RegisterAgrees,
    along_append, before]
  refine and_congr_right fun _ => ?_
  change _ ↔ _ = _ ∧ True
  rw [past.late, and_true]

/-! ### A command of one second -/

def oneSecondCommand : Firmware Unit :=
  run (step willingDriver) (boot {} ()) [.setRockPiAddress 7, windowWrite 1 100 1 1]

/-- The counter wraps between the acceptance and the deadline. -/
theorem dropped_at_deadline_wrapping :
    (run (step willingDriver) (oneSecondCommand.applyCommand willingDriver 4294967290)
      [.applyCommand 500]).DropsCommand willingDriver 1000 :=
  (dropped_at_deadline_iff willingDriver oneSecondCommand 4294967290 [.applyCommand 500] 1000
    ⟨by decide +kernel, by decide +kernel⟩
    ⟨by decide +kernel, by decide +kernel, by decide +kernel⟩).mpr
    (by unfold RegisterAgrees; decide +kernel)

/-- FC06 on the TTL register alone, after the acceptance: the call past the
accepted second drops nothing, and almost a minute later the command is armed. -/
theorem dropped_at_deadline_fails :
    let since := [request (appendU16 (appendU16 [0x06] Reg.commandTtlSeconds) 60)]
    let due := run (step willingDriver) (oneSecondCommand.applyCommand willingDriver 0) since
    oneSecondCommand.Accepts willingDriver ∧
      oneSecondCommand.FirstCallPast willingDriver 0 since 1001 ∧
      ¬due.DropsCommand willingDriver 1001 ∧
      (run (step willingDriver) due [.applyCommand 1001, .applyCommand 59999]).commandArmed =
        true := by
  exact ⟨⟨by decide +kernel, by decide +kernel⟩,
    ⟨by decide +kernel, by decide +kernel, by decide +kernel⟩,
    fun dropped => absurd dropped.2 (by decide +kernel), by decide +kernel⟩

end Firmware

end GridexEdge.Node
