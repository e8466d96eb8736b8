import GridexEdge.Core.TickWrites
import GridexEdge.Core.ZeroFallback
import GridexEdge.RockPi.BusInvariant
import GridexEdge.RockPi.CommandFreshness
import GridexEdge.RockPi.OperatorCommands

/-!
The gateway when the EMS falls silent.

Other clients may go on writing, and operators may go on acting: as long as nobody writes
over the sequence or the heartbeat of the command mailbox, the loop takes no further command,
and fifteen seconds after its last look with a chance of one it stands down.
-/

namespace GridexEdge.RockPi

open GridexEdge.Core Foundation NorthboundRegisterBank

/-- The registers whose change is a command. -/
def commandTriggers : List (Fin 17) := [Holding.commandSequence, Holding.emsHeartbeat]

def LoopEvent.isSilent : LoopEvent → Bool
  | .northboundWrite start values =>
      !(BankOperation.writeHolding start values).writesOver commandTriggers
  | _ => true

/-! ### The bank -/

namespace NorthboundRegisterBank

variable {bank : NorthboundRegisterBank}

/-- Without a write over its triggers the mailbox stays as it is. -/
theorem Idle.perform (idle : bank.Idle) (observed : bank.Observed) {operation : BankOperation}
    (elsewhere : operation.writesOver commandTriggers = false) : (bank.perform operation).Idle := by
  have performed := observed.performed operation
  have same := performed.untouched elsewhere
  have seen : ((bank.perform operation).lastSequence, (bank.perform operation).lastHeartbeat) =
      (bank.lastSequence, bank.lastHeartbeat) := by
    rw [performed.command]
    split
    · exact Prod.ext idle.2.1 idle.2.2
    · rfl
  refine ⟨performed.observed.command, ?_, ?_⟩
  · have sequence := same Holding.commandSequence (by simp [commandTriggers])
    exact sequence.trans (idle.2.1.trans (congrArg Prod.fst seen).symm)
  · have heartbeat := same Holding.emsHeartbeat (by simp [commandTriggers])
    exact heartbeat.trans (idle.2.2.trans (congrArg Prod.snd seen).symm)

theorem idle_takeCommand (observed : bank.Observed) : bank.takeCommand.2.Idle := by
  have performed := observed.performed .takeCommand
  have seen := performed.command
  have held : bank.takeCommand.2.holding = bank.holding := bank.takeCommand_holding
  refine ⟨performed.observed.command, ?_, ?_⟩
  · rw [held]
    exact (congrArg Prod.fst seen).symm
  · rw [held]
    exact (congrArg Prod.snd seen).symm

end NorthboundRegisterBank

namespace Gateway

variable {Device : Type} (client : IModbusClient Device)

/-- The bank goes through operations of the mailboxes only, and what is written to its holding
registers comes from the network. -/
theorem step_bank (gateway : Gateway Device) (event : LoopEvent) :
    ∃ operations, (gateway.step client event).bank =
        run NorthboundRegisterBank.perform gateway.bank operations ∧
      ∀ start values, BankOperation.writeHolding start values ∈ operations →
        event = .northboundWrite start values := by
  cases event with
  | northboundWrite start values =>
      refine ⟨[.writeHolding start values], rfl, fun other otherValues listed => ?_⟩
      cases List.mem_singleton.mp listed
      rfl
  | takeCommand now =>
      exact ⟨[.takeCommand], gateway.step_takeCommand_bank now,
        fun _ _ listed => by cases List.mem_singleton.mp listed⟩
  | tick now => exact ⟨[], rfl, fun _ _ listed => absurd listed List.not_mem_nil⟩
  | takeOperatorCommand =>
      rw [step, takeOperatorCommand]
      split
      · next operation bank taken =>
          refine ⟨[.takeOperatorCommand, .publishOperatorResult operation.sequence
            (handleOperation client operation gateway.driver gateway.bus).1], ?_, ?_⟩
          · rw [run_cons, run_cons, run_nil, perform, perform, taken]
          · intro start values listed
            rcases List.mem_pair.mp listed with same | same
            · cases same
            · cases same
      · next taken =>
          refine ⟨[.takeOperatorCommand], ?_,
            fun _ _ listed => by cases List.mem_singleton.mp listed⟩
          rw [run_cons, run_nil, perform, taken]
  | takeNodeCommand =>
      exact ⟨[.takeNodeCommand], rfl, fun _ _ listed => by cases List.mem_singleton.mp listed⟩
  | publish =>
      refine ⟨[.publish gateway.snapshot gateway.controller.config.configuredLimit], ?_,
        fun _ _ listed => by cases List.mem_singleton.mp listed⟩
      rw [step, run_cons, run_nil, perform]
  | publishNode now slot sample =>
      refine ⟨[.publishNode now slot sample], ?_,
        fun _ _ listed => by cases List.mem_singleton.mp listed⟩
      rw [step, run_cons, run_nil, perform]

/-! ### Silence -/

/-- Every command so far was taken by then. -/
def HeardBy (heardAt : SteadyTime) (history : List Occurrence) : Prop :=
  ∀ receivedAt power enable, .command receivedAt power enable ∈ history → receivedAt ≤ heardAt

theorem mem_of_latestCommand {history : List Occurrence} {receivedAt : SteadyTime}
    {power enable : UInt16} (latest : latestCommand history = some (receivedAt, power, enable)) :
    .command receivedAt power enable ∈ history := by
  induction history with
  | nil => cases latest
  | cons occurrence earlier inductionHypothesis =>
      cases occurrence with
      | command =>
          cases latest
          exact List.mem_cons_self
      | tick | poll | write => exact List.mem_cons_of_mem _ (inductionHypothesis latest)

/-- What lasts as long as the EMS is silent. -/
structure Quiet (limit : ConfiguredPowerLimit) (heardAt : SteadyTime) (gateway : Gateway Device) :
    Prop where
  observed : gateway.bank.Observed
  idle : gateway.bank.Idle
  fresh : Fresh limit gateway.controller gateway.bus.history
  heard : HeardBy heardAt gateway.bus.history

variable {client} {limit : ConfiguredPowerLimit} {heardAt : SteadyTime}

theorem step_observed (gateway : Gateway Device) (event : LoopEvent)
    (observed : gateway.bank.Observed) : (gateway.step client event).bank.Observed := by
  obtain ⟨operations, same, -⟩ := gateway.step_bank client event
  rw [same]
  exact run_invariant perform Observed
    (fun bank operation observed => (observed.performed operation).observed) observed operations

/-- A command that is taken now is noted now. -/
theorem step_heardBy (gateway : Gateway Device) {event : LoopEvent}
    (spoken : ∀ now, event = .takeCommand now → now ≤ heardAt)
    (heard : HeardBy heardAt gateway.bus.history) :
    HeardBy heardAt (gateway.step client event).bus.history :=
  gateway.step_commands client (fun receivedAt _ _ => receivedAt ≤ heardAt) event spoken heard

theorem Quiet.step {gateway : Gateway Device} (quiet : Quiet limit heardAt gateway)
    {event : LoopEvent} (silent : event.isSilent = true) :
    Quiet limit heardAt (gateway.step client event) where
  observed := gateway.step_observed event quiet.observed
  idle := by
    obtain ⟨operations, same, fromNetwork⟩ := gateway.step_bank client event
    have elsewhere : ∀ operation ∈ operations, operation.writesOver commandTriggers = false := by
      intro operation listed
      cases operation with
      | writeHolding start values =>
          rw [fromNetwork start values listed] at silent
          exact Bool.not_eq_true' _ ▸ silent
      | publish | publishOperatorResult | publishNode | takeCommand | takeOperatorCommand
        | takeNodeCommand => rfl
    rw [same]
    apply And.right
    exact run_invariant_of_forall perform (fun bank => bank.Observed ∧ bank.Idle)
      (fun bank operation elsewhere kept =>
        ⟨(kept.1.performed operation).observed, kept.2.perform kept.1 elsewhere⟩)
      ⟨quiet.observed, quiet.idle⟩ elsewhere
  fresh := gateway.fresh_step client event quiet.fresh
  heard := by
    by_cases taken : ∃ now, event = .takeCommand now
    · obtain ⟨now, rfl⟩ := taken
      rw [Gateway.step, Gateway.takeCommand, gateway.bank.takeCommand_of_idle quiet.idle]
      exact quiet.heard
    · exact gateway.step_heardBy (fun now same => absurd ⟨now, same⟩ taken) quiet.heard

/-! ### Standing down -/

/-- A tick without the EMS decides zero, and sends it whenever the cabinet is in order. -/
structure StoodDown (client : IModbusClient Device) (gateway : Gateway Device) (now : SteadyTime) :
    Prop where
  disconnected : (gateway.tick client now).snapshot.emsConnected = false
  applied : (gateway.tick client now).snapshot.command.appliedPowerKw = 0
  cleared : gateway.driver.writesEnabled = true →
    (gateway.driver.report (gateway.bus.poll client).1).controlReady = true →
    (gateway.driver.report (gateway.bus.poll client).1).limitsValid = true →
      ∃ acknowledged earlier, (gateway.tick client now).bus.history =
        .write Registers.pcsPowerCommand 0 acknowledged :: earlier

theorem not_exceedsLimits_zero (driver : SunStoragePro261Driver) :
    driver.exceedsLimits 0 = false := by
  norm_num [SunStoragePro261Driver.exceedsLimits]

theorem stoodDown {gateway : Gateway Device} {now : SteadyTime}
    (stale : gateway.controller.emsConnected now = false) : gateway.StoodDown client now := by
  have decided : ∀ battery heartbeatOk, (SafetyEnvelope.apply
      (gateway.controller.safetyInput battery (gateway.controller.emsConnected now)
        heartbeatOk)).appliedPowerKw = 0 := by
    intro battery heartbeatOk
    apply SafetyEnvelope.apply_of_not_open
    rintro ⟨connected, -⟩
    rw [EdgeController.safetyInput, stale, Bool.false_and] at connected
    cases connected
  refine ⟨?_, ?_, fun enabled ready limits => ?_⟩
  · exact (EdgeController.settle_emsConnected ..).trans stale
  · exact EdgeController.settle_zero _ _ _ _ (decided _ _)
  · obtain ⟨cacheReady, cacheLimits, -⟩ := ControlLoop.report_cache gateway.driver ready
    have admitted : (gateway.driver.cache (gateway.bus.poll client).1).AdmitsPower 0 := by
      refine ⟨?_, cacheReady, cacheLimits.trans limits, not_exceedsLimits_zero _⟩
      rw [SunStoragePro261Driver.writesEnabled, SunStoragePro261Driver.cache_approval]
      exact enabled
    let beat := gateway.controller.heartbeat client
      (gateway.driver.cache (gateway.bus.poll client).1) now
      ((gateway.bus.note (.tick now)).poll client).2
    have written := gateway.controller.settle_of_admits client _ beat.2.2
      (decided _ beat.1) ready admitted
    rw [encodeSigned_zero] at written
    exact ⟨_, _, congrArg Bus.history written⟩

theorem Quiet.stale {gateway : Gateway Device} (quiet : Quiet limit heardAt gateway)
    {now : SteadyTime} (late : heardAt + seconds 15 < now) :
    gateway.controller.emsConnected now = false := by
  rw [EdgeController.emsConnected, quiet.fresh.command, quiet.fresh.config]
  cases latest : latestCommand gateway.bus.history with
  | none => rfl
  | some command =>
      have heard := quiet.heard _ _ _ (mem_of_latestCommand latest)
      apply decide_eq_false
      change ¬now - command.1 ≤ seconds 15
      linarith

theorem quiet_of_takeCommand (limit : ConfiguredPowerLimit) (approval : CommissioningApproval)
    (device : Device) {before : List LoopEvent}
    (spoken : ∀ now, .takeCommand now ∈ before → now ≤ heardAt) :
    Quiet limit heardAt (run (step client) (initial { configuredLimit := limit } approval device)
      (before ++ [.takeCommand heardAt])) := by
  let start := initial { configuredLimit := limit } approval device
  have started : start.bank.Observed ∧ Fresh limit start.controller start.bus.history ∧
      HeardBy heardAt start.bus.history :=
    ⟨observed_fresh, Fresh.initial limit, fun _ _ _ listed => absurd listed List.not_mem_nil⟩
  have allowed : ∀ event ∈ before, ∀ now, event = .takeCommand now → now ≤ heardAt :=
    fun event member now same => spoken now (same ▸ member)
  have kept := run_invariant_of_forall (step client)
    (fun gateway => gateway.bank.Observed ∧ Fresh limit gateway.controller gateway.bus.history ∧
      HeardBy heardAt gateway.bus.history)
    (fun gateway event spoken kept => ⟨gateway.step_observed event kept.1,
      gateway.fresh_step client event kept.2.1, gateway.step_heardBy spoken kept.2.2⟩)
    started allowed
  rw [run_append, run_cons, run_nil]
  generalize run (step client) _ before = gateway at kept ⊢
  obtain ⟨observed, fresh, heard⟩ := kept
  exact
    { observed := gateway.step_observed _ observed
      idle := by
        rw [step_takeCommand_bank]
        exact idle_takeCommand observed
      fresh := gateway.fresh_step client _ fresh
      heard := by
        apply gateway.step_heardBy _ heard
        intro now same
        cases same
        exact le_rfl }

/-- The EMS may have said anything before, and everybody else may go on. Once no write over the
sequence or the heartbeat follows a look at the mailbox, every pass that begins more than
fifteen seconds after that look decides zero, sends it whenever the cabinet is in order, and no
other setpoint is ever sent again. -/
theorem silent_ems_stops_power (client : IModbusClient Device) (limit : ConfiguredPowerLimit)
    (approval : CommissioningApproval) (device : Device) {before after : List LoopEvent}
    {heardAt : SteadyTime} (spoken : ∀ now, .takeCommand now ∈ before → now ≤ heardAt)
    (silent : ∀ event ∈ after, event.isSilent = true) :
    let heard := run (step client) (initial { configuredLimit := limit } approval device)
      (before ++ [.takeCommand heardAt])
    Along (step client)
        (fun gateway event => ∀ now, event = .tick now → heardAt + seconds 15 < now →
          gateway.StoodDown client now) heard after ∧
      ∀ value acknowledged earlier now,
        (.write Registers.pcsPowerCommand value acknowledged :: earlier) <:+
          (run (step client) heard after).bus.history →
        currentTime earlier = some now → heardAt + seconds 15 < now → value = 0 := by
  intro heard
  have quiet : Quiet limit heardAt heard := quiet_of_takeCommand limit approval device spoken
  constructor
  · apply along_of_forall (step client) (Quiet limit heardAt)
      (fun _ _ silent quiet => quiet.step silent) _ quiet silent
    intro gateway event quiet now _ late
    exact stoodDown (quiet.stale late)
  · have settled := run_invariant_of_forall (step client) (Quiet limit heardAt)
      (fun _ _ silent quiet => quiet.step silent) quiet silent
    intro value acknowledged earlier now logged running late
    by_contra nonzero
    obtain ⟨reached, receivedAt, power, enable, -, current, latest, age, -⟩ :=
      settled.fresh.justified _ earlier logged rfl (mt (signed_eq_zero_iff value).mp nonzero)
    cases current.symm.trans running
    have member := (List.suffix_cons _ _).trans logged |>.subset (mem_of_latestCommand latest)
    have taken := settled.heard receivedAt power enable member
    linarith

/-- One order, and later a power that no sequence commits. -/
def silentPasses : List LoopEvent :=
  [.tick 0, .northboundWrite 1 [300], .takeCommand (seconds 1), .tick (seconds 16)]

theorem silent_ems_stops_power_orderly :
    let heard := run (step (cabinetInOrder 1000)) (initial {} ControlLoop.fullApproval ())
      ([.northboundWrite 0 [1, 100, 1]] ++ [.takeCommand 0])
    setpointWrites (run (step (cabinetInOrder 1000)) heard silentPasses).bus.history =
        [(0, true), (100, true)] ∧
      Along (step (cabinetInOrder 1000))
        (fun gateway event => ∀ now, event = .tick now → 0 + seconds 15 < now →
          gateway.StoodDown (cabinetInOrder 1000) now) heard silentPasses := by
  refine ⟨by decide +kernel, ?_⟩
  apply And.left
  apply silent_ems_stops_power
  · intro now listed
    cases List.mem_singleton.mp listed
  · decide

end Gateway

end GridexEdge.RockPi
