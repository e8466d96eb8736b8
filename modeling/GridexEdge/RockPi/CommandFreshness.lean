import GridexEdge.RockPi.MainLoop

/-!
Freshness of every nonzero setpoint.

`FreshSetpoint` reads the history below a setpoint write: a recent enabled
command, a recent acknowledged heartbeat, and a value no further from zero than
the command's. The invariant `Fresh` ties the controller's optional times and its
requested power to that history.
-/

namespace GridexEdge.RockPi

open GridexEdge.Core Foundation NorthboundRegisterBank

/-- Which nonzero setpoints a history permits. -/
def FreshSetpoint (before : List Occurrence) (setpoint : ℤ) : Prop :=
  ∃ now receivedAt power enable heartbeatAt,
    currentTime before = some now ∧
    latestCommand before = some (receivedAt, power, enable) ∧
    now - receivedAt ≤ seconds 15 ∧ enable = 1 ∧
    HeartbeatAcknowledgedAt before heartbeatAt ∧ now - heartbeatAt < seconds 35 ∧
    setpoint.sign = (signed power).sign ∧ |setpoint| ≤ |signed power|

def FreshOccurrence (before : List Occurrence) : Occurrence → Prop
  | .write address value _ =>
      address = Registers.pcsPowerCommand → signed value ≠ 0 →
        FreshSetpoint before (signed value)
  | _ => True

/-- The power the latest command asks for; zero before the first one. -/
def latestPowerKw (history : List Occurrence) : ℚ :=
  match latestCommand history with
  | some (_, power, enable) => effectivePowerKw power enable
  | none => 0

/-- The controller knows the latest command and only acknowledged heartbeats,
and the log so far is fresh. -/
structure Fresh (limit : ConfiguredPowerLimit) (controller : EdgeController)
    (history : List Occurrence) : Prop where
  config : controller.config = { configuredLimit := limit }
  command : controller.lastCommandAt = (latestCommand history).map Prod.fst
  power : controller.requestedPowerKw = latestPowerKw history
  heartbeat : ∀ time, controller.lastHeartbeatAt = some time → HeartbeatAcknowledgedAt history time
  justified : Justified FreshOccurrence history

namespace Fresh

variable {limit : ConfiguredPowerLimit} {controller : EdgeController}
  {history : List Occurrence}

theorem initial (limit : ConfiguredPowerLimit) :
    Fresh limit { config := { configuredLimit := limit } } [] where
  config := rfl
  command := rfl
  power := rfl
  heartbeat time known := by simp at known
  justified := justified_nil

/-- An occurrence that is no command and writes no nonzero setpoint. -/
theorem extend (fresh : Fresh limit controller history) {occurrence : Occurrence}
    (sameCommand : latestCommand (occurrence :: history) = latestCommand history)
    (permitted : FreshOccurrence history occurrence) :
    Fresh limit controller (occurrence :: history) where
  config := fresh.config
  command := by rw [fresh.command, sameCommand]
  power := by rw [fresh.power, latestPowerKw, latestPowerKw, sameCommand]
  heartbeat time known := (fresh.heartbeat time known).cons _
  justified := justified_cons.mpr ⟨permitted, fresh.justified⟩

theorem otherWrite (fresh : Fresh limit controller history) {address : UInt16} (value : UInt16)
    (acknowledged : Bool) (other : address ≠ Registers.pcsPowerCommand) :
    Fresh limit controller (.write address value acknowledged :: history) :=
  fresh.extend rfl fun same => absurd same other

theorem zeroWrite (fresh : Fresh limit controller history) (acknowledged : Bool) :
    Fresh limit controller (.write Registers.pcsPowerCommand 0 acknowledged :: history) :=
  fresh.extend rfl fun _ nonzero => absurd rfl nonzero

/-- A command taken from the mailbox reaches controller and history together. -/
theorem receive (fresh : Fresh limit controller history) (now : SteadyTime)
    (power enable : UInt16) (site : SiteLimit) :
    Fresh limit (controller.receiveCommand (effectivePowerKw power enable) site now)
      (.command now power enable :: history) where
  config := fresh.config
  command := rfl
  power := rfl
  heartbeat time known := (fresh.heartbeat time known).cons _
  justified := justified_cons.mpr ⟨trivial, fresh.justified⟩

end Fresh

section Setpoints

/-- Scaling, rounding and saturation stay toward zero of the raw power. -/
theorem signed_encodeSigned_mem_uIcc {powerKw : ℚ} {raw : UInt16}
    (member : powerKw ∈ Set.uIcc 0 ((signed raw : ℚ) / 10)) :
    signed (encodeSigned powerKw 10) ∈ Set.uIcc 0 (signed raw) := by
  have scaled : powerKw * 10 ∈ Set.uIcc 0 (signed raw : ℚ) := by
    rw [Set.mem_uIcc] at member ⊢
    rcases member with ⟨lower, upper⟩ | ⟨lower, upper⟩
    · exact .inl ⟨by linarith, by linarith⟩
    · exact .inr ⟨by linarith, by linarith⟩
  have rounded := roundHalfAway_mem_uIcc scaled
  have saturated := saturate_mem_uIcc (roundHalfAway (powerKw * 10))
  rw [signed_encodeSigned]
  rw [Set.mem_uIcc] at rounded saturated ⊢
  omega

variable {Device : Type} (client : IModbusClient Device) {limit : ConfiguredPowerLimit}
  {controller : EdgeController} {bus : Bus Device}

/-- What a heartbeat stage leaves for the setpoint stage of the same tick. -/
theorem Fresh.heartbeatStage (fresh : Fresh limit controller bus.history)
    (driver : SunStoragePro261Driver) {now : SteadyTime}
    (running : currentTime bus.history = some now) :
    let beat := controller.heartbeat client driver now bus
    Fresh limit beat.2.1 beat.2.2.history ∧
      currentTime beat.2.2.history = some now ∧
      latestCommand beat.2.2.history = latestCommand bus.history ∧
      (beat.1 = true → ∃ heartbeatAt,
        HeartbeatAcknowledgedAt beat.2.2.history heartbeatAt ∧
          now - heartbeatAt < seconds 35) := by
  intro beat
  by_cases due : controller.heartbeatDue now = true
  · have taken : beat =
        ((driver.refreshHeartbeat client 60 bus).1,
          if (driver.refreshHeartbeat client 60 bus).1 then
            { controller with lastHeartbeatAt := some now } else controller,
          (driver.refreshHeartbeat client 60 bus).2) := by
      simp [beat, EdgeController.heartbeat, due, fresh.config]
    rw [taken]
    clear_value beat
    generalize refreshedEq : driver.refreshHeartbeat client 60 bus = refreshed
    rcases driver.refreshHeartbeat_cases client bus 60 with
      ⟨-, refused⟩ | ⟨-, lost, history⟩ | ⟨-, history⟩
    · rw [refreshedEq] at refused
      subst refused
      exact ⟨fresh, running, rfl, by simp⟩
    · rw [refreshedEq] at lost history
      rw [lost, history]
      exact ⟨fresh.otherWrite _ _ (by decide), running, rfl, by simp⟩
    · rw [refreshedEq] at history
      rw [history]
      have written := (fresh.otherWrite 1 true
        (by decide : Registers.heartbeatEnable ≠ Registers.pcsPowerCommand)).otherWrite 60
          refreshed.1 (by decide : Registers.heartbeatSeconds ≠ Registers.pcsPowerCommand)
      refine ⟨?_, running, rfl, fun acknowledged => ?_⟩
      · split
        · next acknowledged =>
            rw [acknowledged] at written ⊢
            exact { written with
              heartbeat := fun time known => by
                cases known
                exact ⟨bus.history, List.suffix_rfl, running⟩ }
        · exact written
      · rw [acknowledged]
        exact ⟨now, ⟨bus.history, List.suffix_rfl, running⟩, by simp [seconds]⟩
  · have skipped : beat = (true, controller, bus) := by
      simp [beat, EdgeController.heartbeat, due]
    rw [skipped]
    refine ⟨fresh, running, rfl, fun _ => ?_⟩
    unfold EdgeController.heartbeatDue at due
    rw [fresh.config] at due
    cases last : controller.lastHeartbeatAt with
    | none => simp [last] at due
    | some heartbeatAt =>
        refine ⟨heartbeatAt, fresh.heartbeat heartbeatAt last, ?_⟩
        simpa [last] using due

/-- A nonzero decision comes from a fresh enabled command. -/
theorem Fresh.decided_of_ne_zero (fresh : Fresh limit controller bus.history) {now : SteadyTime}
    {battery : BatteryTelemetry} {heartbeatOk : Bool} {powerKw : ℚ}
    (decided : (SafetyEnvelope.apply (controller.safetyInput battery
      (controller.emsConnected now) heartbeatOk)).appliedPowerKw = powerKw)
    (nonzero : powerKw ≠ 0) :
    heartbeatOk = true ∧ ∃ receivedAt power,
      latestCommand bus.history = some (receivedAt, power, 1) ∧ now - receivedAt ≤ seconds 15 ∧
        powerKw ∈ Set.uIcc 0 ((signed power : ℚ) / 10) := by
  have opened :
      (controller.safetyInput battery (controller.emsConnected now) heartbeatOk).Open := by
    by_contra closed
    exact nonzero (decided.symm.trans (SafetyEnvelope.apply_of_not_open closed))
  have connected : controller.emsConnected now = true ∧ heartbeatOk = true := by
    simpa [EdgeController.safetyInput] using opened.1
  have toward := SafetyEnvelope.apply_mem_uIcc
    (controller.safetyInput battery (controller.emsConnected now) heartbeatOk)
  rw [decided] at toward
  have requested : powerKw ∈ Set.uIcc 0 (latestPowerKw bus.history) := by
    rw [← fresh.power]
    exact toward
  have age := connected.1
  rw [EdgeController.emsConnected, fresh.command, fresh.config] at age
  refine ⟨connected.2, ?_⟩
  cases latest : latestCommand bus.history with
  | none => simp [latest] at age
  | some command =>
      obtain ⟨receivedAt, power, enable⟩ := command
      by_cases enabled : enable = 1
      · subst enabled
        refine ⟨receivedAt, power, rfl, by simpa [latest] using age, ?_⟩
        simpa [latestPowerKw, latest, effectivePowerKw] using requested
      · refine absurd ?_ nonzero
        simpa [latestPowerKw, latest, effectivePowerKw, enabled] using requested

theorem Fresh.tick (fresh : Fresh limit controller bus.history) (driver : SunStoragePro261Driver)
    {now : SteadyTime} (running : currentTime bus.history = some now) :
    Fresh limit (controller.tick client driver now bus).2.1
      (controller.tick client driver now bus).2.2.2.history := by
  have polled : Fresh limit controller (driver.poll client bus).2.2.history :=
    fresh.extend rfl trivial
  obtain ⟨beaten, stillRunning, sameCommand, acknowledged⟩ :=
    polled.heartbeatStage client (driver.poll client bus).2.1 running
  unfold EdgeController.tick
  dsimp only
  generalize controller.heartbeat client (driver.poll client bus).2.1 now
    (driver.poll client bus).2.2 = beat at *
  rcases controller.settle_cases client (driver.poll client bus).2.1 beat.2.2
    (driver.poll client bus).1 (controller.emsConnected now) beat.1 with same | ⟨-, -, written⟩
  · rwa [same]
  · rw [written]
    refine beaten.extend rfl fun _ nonzero => ?_
    generalize decided : (SafetyEnvelope.apply (controller.safetyInput (driver.poll client bus).1
      (controller.emsConnected now) beat.1)).appliedPowerKw = powerKw at *
    have powerNonzero : powerKw ≠ 0 := by
      rintro rfl
      exact nonzero (by rw [encodeSigned_zero, signed_zero])
    obtain ⟨heartbeatOk, receivedAt, power, latest, age, toward⟩ :=
      polled.decided_of_ne_zero decided powerNonzero
    obtain ⟨heartbeatAt, handled, heartbeatAge⟩ := acknowledged heartbeatOk
    obtain ⟨sign, magnitude⟩ :=
      sign_and_abs_of_mem_uIcc (signed_encodeSigned_mem_uIcc toward) nonzero
    exact ⟨now, receivedAt, power, 1, heartbeatAt, stillRunning, sameCommand.trans latest, age,
      rfl, handled, heartbeatAge, sign, magnitude⟩

theorem Fresh.socWrites (fresh : Fresh limit controller bus.history) {later : List Occurrence}
    (writes : SunStoragePro261Driver.SocWrites bus.history later) :
    Fresh limit controller later := by
  induction writes with
  | none => exact fresh
  | more _ limit inductionHypothesis =>
      rcases limit with rfl | rfl
      · exact inductionHypothesis.otherWrite _ _ (by decide)
      · exact inductionHypothesis.otherWrite _ _ (by decide)

/-- Operators cannot write a nonzero setpoint at all. -/
theorem Fresh.handleOperation (fresh : Fresh limit controller bus.history)
    (operation : NorthboundOperatorCommand) (driver : SunStoragePro261Driver) :
    Fresh limit controller (handleOperation client operation driver bus).2.2.history := by
  refine handleOperation_invariant client (fun _ bus => Fresh limit controller bus.history)
    ?power ?soc ?reactive operation driver bus fresh
  case power =>
    intro driver bus powerOn before
    rcases driver.writePowerState_cases client bus powerOn with
      same | ⟨-, -, started⟩ | ⟨-, -, zeroed, stopped, -, -, history⟩
    · rwa [same]
    · rw [started]
      exact before.otherWrite _ _ (by decide)
    · rw [history]
      exact (before.zeroWrite zeroed).otherWrite _ _ (by decide)
  case soc =>
    intro driver bus lowerPct upperPct before
    rcases driver.writeSocLimitsPct_cases client bus lowerPct upperPct with
      same | ⟨-, -, writes⟩
    · rwa [same]
    · exact before.socWrites writes
  case reactive =>
    intro driver bus kvar before
    rcases driver.writeReactivePowerSetpointKvar_cases client bus kvar with
      same | ⟨-, -, written⟩
    · rwa [same]
    · rw [written]
      exact before.otherWrite _ _ (by decide)

end Setpoints

namespace Gateway

variable {Device : Type} (client : IModbusClient Device) {limit : ConfiguredPowerLimit}

theorem fresh_step (gateway : Gateway Device) (event : LoopEvent)
    (fresh : Fresh limit gateway.controller gateway.bus.history) :
    Fresh limit (gateway.step client event).controller
      (gateway.step client event).bus.history := by
  cases event with
  | northboundWrite | takeNodeCommand | publish | publishNode => simpa only [step] using fresh
  | takeCommand now =>
      simp only [step, takeCommand]
      split
      · next command bank taken =>
          rw [gateway.bank.takeCommand_power (congrArg Prod.fst taken)]
          exact fresh.receive now _ _ {}
      · exact fresh
  | tick now =>
      have noted : Fresh limit gateway.controller (gateway.bus.note (.tick now)).history :=
        fresh.extend rfl trivial
      exact noted.tick client gateway.driver rfl
  | takeOperatorCommand =>
      simp only [step, takeOperatorCommand]
      split
      · exact fresh.handleOperation client _ gateway.driver
      · exact fresh

/-- Every nonzero setpoint follows a fresh enabled command and a handled
heartbeat, with the command's sign and at most its magnitude. Without a command,
or while the last handled heartbeat is too old, only zero is written. -/
theorem every_setpoint_fresh (limit : ConfiguredPowerLimit) (approval : CommissioningApproval)
    (device : Device) (events : List LoopEvent) :
    let history :=
      (run (step client) (initial { configuredLimit := limit } approval device) events).bus.history
    Justified FreshOccurrence history ∧
      ∀ value acknowledged before,
        (.write Registers.pcsPowerCommand value acknowledged :: before) <:+ history →
        (latestCommand before = none ∨ ∀ now heartbeatAt, currentTime before = some now →
          HeartbeatAcknowledgedAt before heartbeatAt → seconds 35 ≤ now - heartbeatAt) →
        value = 0 := by
  intro history
  let start := initial { configuredLimit := limit } approval device
  have startFresh : Fresh limit start.controller start.bus.history := Fresh.initial limit
  have fresh := (run_invariant (step client)
    (fun gateway => Fresh limit gateway.controller gateway.bus.history)
    (fun gateway event => gateway.fresh_step client event) startFresh events).justified
  refine ⟨fresh, fun value acknowledged before logged missing => ?_⟩
  by_contra nonzero
  obtain ⟨now, receivedAt, power, enable, heartbeatAt, reached, latest, -, -, handled, recent, -⟩ :=
    fresh _ before logged rfl (mt (signed_eq_zero_iff value).mp nonzero)
  rcases missing with never | stale
  · rw [never] at latest
    exact absurd latest (by simp)
  · exact absurd (stale now heartbeatAt reached handled) (not_le_of_gt recent)

end Gateway

end GridexEdge.RockPi
