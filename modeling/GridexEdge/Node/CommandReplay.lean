import GridexEdge.Node.OutputReport

/-!
Which command sequences a node takes, and whether it takes one twice.

The supervisor remembers one sequence, the last. What it takes of the sequences its
calls find is therefore the list of them without repetitions of neighbours: an older
sequence is taken again as soon as it is found again.
-/

namespace GridexEdge.Node

open Foundation

namespace Firmware

variable {Device : Type} (driver : IDeviceDriver Device)

/-- What every call of the supervisor finds in the sequence register. -/
def found : Firmware Device → FirmwareEvent → List UInt16
  | firmware, .applyCommand _ => [firmware.sequence]
  | _, _ => []

/-- A sequence is taken by the call after which it is the last one. -/
def taken : Firmware Device → FirmwareEvent → List UInt16
  | firmware, .applyCommand nowMs =>
      if (firmware.takeNewSequence driver nowMs).lastCommandSequence =
        firmware.lastCommandSequence then []
      else [firmware.sequence]
  | _, _ => []

/-- A sequence is executed by the call that gives it to the driver as a new one. -/
def executed : Firmware Device → FirmwareEvent → List UInt16
  | firmware, .applyCommand nowMs =>
      if (firmware.takeNewSequence driver nowMs).outputs = firmware.outputs then []
      else [firmware.sequence]
  | _, _ => []

/-- No sequence is executed twice, and a call that finds one already taken does not
take it as new. -/
structure NoReplay (start : Firmware Device) (events : List FirmwareEvent) : Prop where
  once : (Foundation.outputs (step driver) (executed driver) start events).Nodup
  ignored : ∀ before nowMs after, events = before ++ .applyCommand nowMs :: after →
    (run (step driver) start before).sequence ∈
        Foundation.outputs (step driver) (taken driver) start before →
      (run (step driver) start before).takeNewSequence driver nowMs =
        run (step driver) start before

/-- The register never goes back to a sequence after it has shown another one. The
zero of power on counts only as the first neighbour. -/
def NeverReturns (start : Firmware Device) (events : List FirmwareEvent) : Prop :=
  ((Foundation.outputs (step driver) found start events).destutter' (· ≠ ·)
    start.lastCommandSequence).tail.Nodup

section Calls

variable (firmware : Firmware Device)

theorem takeNewSequence_lastCommandSequence (nowMs : UInt32) :
    (firmware.takeNewSequence driver nowMs).lastCommandSequence = firmware.sequence := by
  unfold takeNewSequence
  split
  · rfl
  · next seen => exact (not_not.mp seen).symm

theorem expireOverdue_lastCommandSequence (ttlSeconds : UInt16) (nowMs : UInt32) :
    (firmware.expireOverdue driver ttlSeconds nowMs).lastCommandSequence =
      firmware.lastCommandSequence := by
  unfold expireOverdue
  split
  · exact (expire_lastCommand driver firmware).2
  · rfl

/-- After any call the last sequence is the one the call has found. -/
theorem applyCommand_lastCommandSequence (nowMs : UInt32) :
    (firmware.applyCommand driver nowMs).lastCommandSequence = firmware.sequence := by
  rw [applyCommand, expireOverdue_lastCommandSequence, takeNewSequence_lastCommandSequence]

theorem taken_applyCommand (nowMs : UInt32) :
    taken driver firmware (.applyCommand nowMs) =
      if firmware.lastCommandSequence ≠ firmware.sequence then [firmware.sequence] else [] := by
  rw [taken, takeNewSequence_lastCommandSequence]
  by_cases same : firmware.sequence = firmware.lastCommandSequence
  · rw [if_pos same, if_neg (not_not_intro same.symm)]
  · rw [if_neg same, if_pos (Ne.symm same)]

theorem taken_nodup (event : FirmwareEvent) : (taken driver firmware event).Nodup := by
  unfold taken
  split
  · split <;> simp
  · exact List.nodup_nil

/-- A call that leaves the last sequence leaves everything the new half could change. -/
theorem takeNewSequence_eq_iff (nowMs : UInt32) :
    firmware.takeNewSequence driver nowMs = firmware ↔
      firmware.sequence = firmware.lastCommandSequence := by
  constructor
  · intro same
    rw [← takeNewSequence_lastCommandSequence driver firmware nowMs, same]
  · intro seen
    rw [takeNewSequence, if_neg (not_not_intro seen)]

/-- Only a sequence that is taken reaches the driver. -/
theorem executed_sublist_taken (event : FirmwareEvent) :
    (executed driver firmware event).Sublist (taken driver firmware event) := by
  cases event with
  | applyCommand nowMs =>
      rw [taken_applyCommand, executed]
      by_cases seen : firmware.sequence = firmware.lastCommandSequence
      · rw [(takeNewSequence_eq_iff driver firmware nowMs).mpr seen, if_pos rfl]
        exact List.nil_sublist _
      · rw [if_pos (Ne.symm seen)]
        split
        · exact List.nil_sublist _
        · exact List.Sublist.refl _
  | _ => exact List.Sublist.refl _

end Calls

/-- Taking is forgetting repetitions of neighbours. -/
theorem taken_eq_destutter (firmware : Firmware Device) (events : List FirmwareEvent) :
    Foundation.outputs (step driver) (taken driver) firmware events =
      ((Foundation.outputs (step driver) found firmware events).destutter' (· ≠ ·)
        firmware.lastCommandSequence).tail := by
  induction events generalizing firmware with
  | nil => rfl
  | cons event rest inductionHypothesis =>
      rw [Foundation.outputs, Foundation.outputs, inductionHypothesis]
      by_cases call : ∃ nowMs, event = .applyCommand nowMs
      · obtain ⟨nowMs, rfl⟩ := call
        have last : (firmware.step driver (.applyCommand nowMs)).lastCommandSequence =
            firmware.sequence := applyCommand_lastCommandSequence driver firmware nowMs
        rw [taken_applyCommand, last, found, List.singleton_append, List.destutter'_cons]
        by_cases seen : firmware.lastCommandSequence = firmware.sequence
        · rw [if_neg (not_not_intro seen), if_neg (not_not_intro seen), seen, List.nil_append]
        · rw [if_pos seen, if_pos seen, List.tail_cons]
          exact cons_tail_destutter (· ≠ ·) _ _
      · have other : ∀ nowMs, event ≠ .applyCommand nowMs := fun nowMs same => call ⟨nowMs, same⟩
        have nothing : taken driver firmware event = [] ∧ found firmware event = [] := by
          cases event with
          | applyCommand nowMs => exact absurd rfl (other nowMs)
          | _ => exact ⟨rfl, rfl⟩
        have same := (firmware.step_sameSupervisor driver event other).lastCommandSequence
        rw [nothing.1, nothing.2, same, List.nil_append, List.nil_append]

theorem executed_sublist (firmware : Firmware Device) (events : List FirmwareEvent) :
    (Foundation.outputs (step driver) (executed driver) firmware events).Sublist
      (Foundation.outputs (step driver) (taken driver) firmware events) := by
  induction events generalizing firmware with
  | nil => exact List.Sublist.refl _
  | cons event rest inductionHypothesis =>
      exact (executed_sublist_taken driver firmware event).append (inductionHypothesis _)

/-- In every run: nothing is replayed exactly when the sequence register never returns
to a value it has left. -/
theorem no_replay_iff (start : Firmware Device) (events : List FirmwareEvent) :
    NoReplay driver start events ↔ NeverReturns driver start events := by
  rw [NeverReturns, ← taken_eq_destutter, outputs_nodup_iff (step driver) (taken_nodup driver)]
  constructor
  · rintro ⟨-, ignored⟩ before event after split
    cases event with
    | applyCommand nowMs =>
        rw [taken_applyCommand]
        by_cases old : (run (step driver) start before).sequence ∈
            Foundation.outputs (step driver) (taken driver) start before
        · have seen := (takeNewSequence_eq_iff driver _ nowMs).mp
            (ignored before nowMs after split old)
          rw [if_neg (not_not_intro seen.symm)]
          exact List.disjoint_nil_right _
        · split
          · exact List.disjoint_singleton.mpr old
          · exact List.disjoint_nil_right _
    | _ => exact List.disjoint_nil_right _
  · intro fresh
    constructor
    · have nodup := (outputs_nodup_iff (step driver) (taken_nodup driver) events).mpr fresh
      exact (executed_sublist driver start events).nodup nodup
    · intro before nowMs after split old
      rw [takeNewSequence_eq_iff]
      by_contra new
      have put := fresh before (.applyCommand nowMs) after split
      rw [taken_applyCommand, if_pos (Ne.symm new)] at put
      exact put old (List.mem_singleton_self _)

/-! ### A sequence that comes back -/

/-- FC10 over the command window, each time followed by a call. -/
def script (commands : List (UInt16 × UInt16 × UInt16 × UInt16)) : List FirmwareEvent :=
  .setRockPiAddress 7 :: commands.flatMap fun command =>
    [windowWrite command.1 command.2.1 command.2.2.1 command.2.2.2, .applyCommand 0]

/-- Three writes are enough: the first sequence is executed again after the second. -/
theorem no_replay_fails :
    ¬∀ commands : List (UInt16 × UInt16 × UInt16 × UInt16), commands.length < 65536 →
      NoReplay willingDriver (boot {} ()) (script commands) := by
  intro never
  have once := (never [(1, 100, 1, 30), (2, 50, 1, 30), (1, 100, 1, 30)] (by simp)).once
  revert once
  have replayed : Foundation.outputs (step willingDriver) (executed willingDriver) (boot {} ())
      (script [(1, 100, 1, 30), (2, 50, 1, 30), (1, 100, 1, 30)]) = [1, 2, 1] := by
    decide +kernel
  rw [replayed]
  decide

end Firmware

end GridexEdge.Node
