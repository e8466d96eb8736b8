import GridexEdge.RockPi.NorthboundRegisterBank

/-!
The main loop of the gateway service over one vendor bus.

Northbound writes come from the server's thread and may fall between any two
accesses of the loop to the bank, so a run is a list of events rather than of
iterations.
-/

namespace GridexEdge.RockPi

open GridexEdge.Core Foundation

structure Gateway (Device : Type) where
  bank : NorthboundRegisterBank := {}
  controller : EdgeController
  driver : SunStoragePro261Driver
  bus : Bus Device
  snapshot : ControllerSnapshot := {}

inductive LoopEvent where
  | northboundWrite (start : UInt16) (values : List UInt16)
  | takeCommand (now : SteadyTime)
  | tick (now : SteadyTime)
  | takeOperatorCommand
  | takeNodeCommand
  | publish
  | publishNode (now : SteadyTime) (slot : Nat) (sample : MbusNodeTelemetry)

/-- The actions of an authorized operator command, in the order of the loop:
run state, SOC limits, reactive power. A failure does not skip the later ones. -/
def applyOperation {Device : Type} (client : IModbusClient Device)
    (operation : NorthboundOperatorCommand) (driver : SunStoragePro261Driver)
    (bus : Bus Device) : Bool × SunStoragePro261Driver × Bus Device :=
  let powered :=
    if operation.actionMask &&& Action.runState ≠ 0 then
      driver.writePowerState client (operation.requestedRunState == 1) bus
    else (true, driver, bus)
  let limited :=
    if operation.actionMask &&& Action.socLimits ≠ 0 then
      powered.2.1.writeSocLimitsPct client operation.requestedSocLowerPct
        operation.requestedSocUpperPct powered.2.2
    else (true, powered.2.2)
  let reactive :=
    if operation.actionMask &&& Action.reactivePower ≠ 0 then
      powered.2.1.writeReactivePowerSetpointKvar client operation.requestedReactivePowerKvar
        limited.2
    else (true, limited.2)
  (powered.1 && limited.1 && reactive.1, powered.2.1, reactive.2)

def maskValid (operation : NorthboundOperatorCommand) : Bool :=
  operation.actionMask != 0 && operation.actionMask &&& ~~~Action.all == 0

/-- The published result codes: 1 success, 2 invalid apply key, 3 invalid
request, 4 safety or driver rejection. -/
def handleOperation {Device : Type} (client : IModbusClient Device)
    (operation : NorthboundOperatorCommand) (driver : SunStoragePro261Driver)
    (bus : Bus Device) : UInt16 × SunStoragePro261Driver × Bus Device :=
  if !operation.authorized then (2, driver, bus)
  else if !maskValid operation ||
      operation.actionMask &&& Action.runState != 0 &&
        decide (1 < operation.requestedRunState) then
    (3, driver, bus)
  else
    let applied := applyOperation client operation driver bus
    (if applied.1 then 1 else 4, applied.2)

/-- What the three operator writes keep, a whole operation keeps. -/
theorem handleOperation_invariant {Device : Type} (client : IModbusClient Device)
    (Invariant : SunStoragePro261Driver → Bus Device → Prop)
    (powerState : ∀ driver bus powerOn, Invariant driver bus →
      Invariant (driver.writePowerState client powerOn bus).2.1
        (driver.writePowerState client powerOn bus).2.2)
    (socLimits : ∀ driver bus lowerPct upperPct, Invariant driver bus →
      Invariant driver (driver.writeSocLimitsPct client lowerPct upperPct bus).2)
    (reactivePower : ∀ driver bus kvar, Invariant driver bus →
      Invariant driver (driver.writeReactivePowerSetpointKvar client kvar bus).2)
    (operation : NorthboundOperatorCommand) (driver : SunStoragePro261Driver)
    (bus : Bus Device) (before : Invariant driver bus) :
    Invariant (handleOperation client operation driver bus).2.1
      (handleOperation client operation driver bus).2.2 := by
  unfold handleOperation
  split
  · exact before
  · split
    · exact before
    · unfold applyOperation
      dsimp only
      generalize poweredEq : (if operation.actionMask &&& Action.runState ≠ 0 then
        driver.writePowerState client (operation.requestedRunState == 1) bus
          else (true, driver, bus)) = powered
      have afterPower : Invariant powered.2.1 powered.2.2 := by
        rw [← poweredEq]
        split
        · exact powerState driver bus _ before
        · exact before
      generalize limitedEq : (if operation.actionMask &&& Action.socLimits ≠ 0 then
        powered.2.1.writeSocLimitsPct client operation.requestedSocLowerPct
          operation.requestedSocUpperPct powered.2.2 else (true, powered.2.2)) = limited
      have afterLimits : Invariant powered.2.1 limited.2 := by
        rw [← limitedEq]
        split
        · exact socLimits _ _ _ _ afterPower
        · exact afterPower
      split
      · exact reactivePower _ _ _ afterLimits
      · exact afterLimits

namespace Gateway

variable {Device : Type} (client : IModbusClient Device) (gateway : Gateway Device)

def initial (config : ControllerConfig) (approval : CommissioningApproval) (device : Device) :
    Gateway Device :=
  { controller := { config := config }
    driver := { approval := approval }
    bus := { device := device } }

/-- The bus also notes the command as it was taken. -/
def takeCommand (now : SteadyTime) : Gateway Device :=
  match gateway.bank.takeCommand with
  | (some command, bank) =>
      { gateway with
        bank := bank
        controller := gateway.controller.receiveCommand command.requestedPowerKw {} now
        bus := gateway.bus.note (.command now
          (gateway.bank.holdingRegister Holding.requestedPowerKwX10)
          (gateway.bank.holdingRegister Holding.commandEnable)) }
  | (none, bank) => { gateway with bank := bank }

def tick (now : SteadyTime) : Gateway Device :=
  let ticked := gateway.controller.tick client gateway.driver now (gateway.bus.note (.tick now))
  { gateway with
    controller := ticked.2.1
    driver := ticked.2.2.1
    bus := ticked.2.2.2
    snapshot := ticked.1 }

def takeOperatorCommand : Gateway Device :=
  match gateway.bank.takeOperatorCommand with
  | (some operation, bank) =>
      let handled := handleOperation client operation gateway.driver gateway.bus
      { gateway with
        bank := bank.publishOperatorResult operation.sequence handled.1
        driver := handled.2.1
        bus := handled.2.2 }
  | (none, bank) => { gateway with bank := bank }

def step : LoopEvent → Gateway Device
  | .northboundWrite start values =>
      { gateway with bank := (gateway.bank.writeHolding start values).2 }
  | .takeCommand now => gateway.takeCommand now
  | .tick now => gateway.tick client now
  | .takeOperatorCommand => gateway.takeOperatorCommand client
  | .takeNodeCommand => { gateway with bank := gateway.bank.takeNodeCommand.2 }
  | .publish =>
      { gateway with
        bank := gateway.bank.publish gateway.snapshot
          gateway.controller.config.configuredLimit }
  | .publishNode now slot sample =>
      { gateway with bank := gateway.bank.publishNode now slot sample }

end Gateway

end GridexEdge.RockPi
