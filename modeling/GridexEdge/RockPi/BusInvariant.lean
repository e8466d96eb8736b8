import GridexEdge.RockPi.MainLoop

/-!
What every access to the vendor bus keeps, the whole loop keeps.

The driver and the controller reach the bus through polls, single reads and writes only. A
property of the bus that survives each of these survives an operation of any length, whatever
the gates and the answers are.
-/

namespace GridexEdge.RockPi

open GridexEdge.Core Foundation

/-- Whatever the action finds in a device with the property, it leaves a device with it. -/
def KeptBy {Device Result : Type} (Kept : Device → Prop) (action : StateM Device Result) : Prop :=
  ∀ device, Kept device → Kept (action device).2

namespace KeptBy

variable {Device First Second : Type} {Kept : Device → Prop}

theorem pure (result : First) : KeptBy Kept (Pure.pure result : StateM Device First) :=
  fun _ before => before

theorem bind {action : StateM Device First} {later : First → StateM Device Second}
    (kept : KeptBy Kept action) (keptLater : ∀ result, KeptBy Kept (later result)) :
    KeptBy Kept (action >>= later) :=
  fun device before => keptLater _ _ (kept device before)

/-- A poll is made of the four kinds of read. -/
theorem readPoll {client : IModbusClient Device}
    (coil : ∀ address, KeptBy Kept (client.readCoil address))
    (holding : ∀ address, KeptBy Kept (client.readHolding address))
    (input : ∀ address, KeptBy Kept (client.readInput address))
    (range : ∀ start count, KeptBy Kept (client.readInputRange start count)) :
    KeptBy Kept (readPoll client) := by
  unfold Core.readPoll
  iterate 7 refine bind (coil _) fun _ => ?_
  iterate 5 refine bind (holding _) fun _ => ?_
  iterate 11 refine bind (input _) fun _ => ?_
  refine bind (range _ _) fun _ => ?_
  iterate 5 refine bind (input _) fun _ => ?_
  exact pure _

end KeptBy

/-- A single read, a poll and a write keep the property. -/
structure KeptOnBus {Device : Type} (client : IModbusClient Device) (Kept : Bus Device → Prop) :
    Prop where
  readHolding : ∀ bus address, Kept bus → Kept (bus.readHolding client address).2
  poll : ∀ bus, Kept bus → Kept (bus.poll client).2
  write : ∀ bus address value, Kept bus → Kept (bus.write client address value).2

/-- What the loop itself notes in the history during an event. -/
def LoopEvent.Notes : LoopEvent → Occurrence → Prop
  | .takeCommand now, occurrence => ∃ power enable, occurrence = .command now power enable
  | .tick now, occurrence => occurrence = .tick now
  | _, _ => False

namespace KeptOnBus

variable {Device : Type} {client : IModbusClient Device} {Kept : Bus Device → Prop}
  (kept : KeptOnBus client Kept) {bus : Bus Device}

include kept

theorem refreshHeartbeat (driver : SunStoragePro261Driver) (timeoutSeconds : UInt16)
    (before : Kept bus) : Kept (driver.refreshHeartbeat client timeoutSeconds bus).2 := by
  unfold SunStoragePro261Driver.refreshHeartbeat
  split
  · exact before
  · have enabled := kept.write bus Registers.heartbeatEnable 1 before
    dsimp only
    split
    · exact kept.write _ _ _ enabled
    · exact enabled

theorem heartbeat (controller : EdgeController) (driver : SunStoragePro261Driver)
    (now : SteadyTime) (before : Kept bus) :
    Kept (controller.heartbeat client driver now bus).2.2 := by
  unfold EdgeController.heartbeat
  split
  · exact kept.refreshHeartbeat driver _ before
  · exact before

theorem settle (controller : EdgeController) (driver : SunStoragePro261Driver)
    (battery : BatteryTelemetry) (emsConnected heartbeatOk : Bool) (before : Kept bus) :
    Kept (controller.settle client driver battery emsConnected heartbeatOk bus).2 := by
  rcases controller.settle_cases client driver bus battery emsConnected heartbeatOk with
    same | ⟨-, -, written⟩
  · rwa [same]
  · rw [written]
    exact kept.write _ _ _ before

theorem tick (controller : EdgeController) (driver : SunStoragePro261Driver) (now : SteadyTime)
    (before : Kept bus) : Kept (controller.tick client driver now bus).2.2.2 := by
  have polled := kept.poll bus before
  have beaten := kept.heartbeat controller (driver.cache (bus.poll client).1) now polled
  exact kept.settle _ _ _ _ _ beaten

theorem writePowerState (driver : SunStoragePro261Driver) (powerOn : Bool) (before : Kept bus) :
    Kept (driver.writePowerState client powerOn bus).2.2 := by
  unfold SunStoragePro261Driver.writePowerState
  split
  · exact before
  · split
    · split
      · exact before
      · exact kept.write _ _ _ before
    · exact kept.write _ _ _ (kept.write _ _ _ before)

theorem writeReactivePowerSetpointKvar (driver : SunStoragePro261Driver) (kvar : ℚ)
    (before : Kept bus) : Kept (driver.writeReactivePowerSetpointKvar client kvar bus).2 := by
  rcases driver.writeReactivePowerSetpointKvar_cases client bus kvar with same | ⟨-, -, written⟩
  · rwa [same]
  · rw [written]
    exact kept.write _ _ _ before

theorem writeWhen (condition : Bool) (address value : UInt16) (before : Kept bus) :
    Kept (SunStoragePro261Driver.writeWhen client condition address value bus).2 := by
  unfold SunStoragePro261Driver.writeWhen
  split
  · exact kept.write _ _ _ before
  · exact before

theorem writeSocLimitsPct (driver : SunStoragePro261Driver) (lowerPct upperPct : ℚ)
    (before : Kept bus) : Kept (driver.writeSocLimitsPct client lowerPct upperPct bus).2 := by
  unfold SunStoragePro261Driver.writeSocLimitsPct
  split
  · exact before
  · have read := kept.readHolding _ Registers.pcsSocLowerLimit
      (kept.readHolding bus Registers.pcsSocUpperLimit before)
    -- Every way out of the sequence is after the two reads and some prefix of the four writes.
    dsimp only
    repeat' split
    all_goals
      repeat refine kept.writeWhen _ _ _ ?_
      exact read

theorem handleOperation (operation : NorthboundOperatorCommand) (driver : SunStoragePro261Driver)
    (before : Kept bus) : Kept (handleOperation client operation driver bus).2.2 :=
  handleOperation_invariant client (fun _ bus => Kept bus)
    (fun driver _ powerOn before => kept.writePowerState driver powerOn before)
    (fun driver _ lowerPct upperPct before =>
      kept.writeSocLimitsPct driver lowerPct upperPct before)
    (fun driver _ kvar before => kept.writeReactivePowerSetpointKvar driver kvar before)
    operation driver bus before

/-- One event of the loop. -/
theorem step (gateway : Gateway Device) (event : LoopEvent)
    (noted : ∀ bus occurrence, event.Notes occurrence → Kept bus → Kept (bus.note occurrence))
    (before : Kept gateway.bus) : Kept (gateway.step client event).bus := by
  cases event with
  | northboundWrite | takeNodeCommand | publish | publishNode =>
      simpa only [Gateway.step] using before
  | takeCommand now =>
      rw [Gateway.step, Gateway.takeCommand]
      split
      · exact noted _ _ ⟨_, _, rfl⟩ before
      · exact before
  | tick now => exact kept.tick _ _ _ (noted _ _ rfl before)
  | takeOperatorCommand =>
      rw [Gateway.step, Gateway.takeOperatorCommand]
      split
      · exact kept.handleOperation _ _ before
      · exact before

end KeptOnBus

/-- No access to the bus makes a command. -/
theorem keptOnBus_commands {Device : Type} (client : IModbusClient Device)
    (Property : SteadyTime → UInt16 → UInt16 → Prop) :
    KeptOnBus client fun bus => ∀ receivedAt power enable,
      .command receivedAt power enable ∈ bus.history → Property receivedAt power enable where
  readHolding _ _ commands := commands
  poll bus commands receivedAt power enable listed := by
    rcases List.mem_cons.mp listed with same | earlier
    · cases same
    · exact commands receivedAt power enable earlier
  write bus address value commands receivedAt power enable listed := by
    rcases List.mem_cons.mp listed with same | earlier
    · cases same
    · exact commands receivedAt power enable earlier

/-- The commands of the log are those that the loop has taken. -/
theorem Gateway.step_commands {Device : Type} (client : IModbusClient Device)
    (Said : SteadyTime → UInt16 → UInt16 → Prop) (gateway : Gateway Device) (event : LoopEvent)
    (spoken : ∀ now, event = .takeCommand now →
      Said now (gateway.bank.holdingRegister Holding.requestedPowerKwX10)
        (gateway.bank.holdingRegister Holding.commandEnable))
    (commands : ∀ receivedAt power enable,
      .command receivedAt power enable ∈ gateway.bus.history → Said receivedAt power enable) :
    ∀ receivedAt power enable, .command receivedAt power enable ∈
      (gateway.step client event).bus.history → Said receivedAt power enable := by
  by_cases taken : ∃ now, event = .takeCommand now
  · obtain ⟨now, rfl⟩ := taken
    rw [Gateway.step, Gateway.takeCommand]
    split
    · intro receivedAt power enable listed
      rcases List.mem_cons.mp listed with same | earlier
      · cases same
        exact spoken now rfl
      · exact commands receivedAt power enable earlier
    · exact commands
  · apply (keptOnBus_commands client Said).step gateway event _ commands
    intro bus occurrence noted commands receivedAt power enable listed
    rcases List.mem_cons.mp listed with same | earlier
    · cases event with
      | takeCommand now => exact absurd ⟨now, rfl⟩ taken
      | tick now =>
          cases noted
          cases same
      | northboundWrite | takeOperatorCommand | takeNodeCommand | publish | publishNode =>
          exact noted.elim
    · exact commands receivedAt power enable earlier

end GridexEdge.RockPi
