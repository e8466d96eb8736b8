import GridexEdge.Node.Isolation

/-!
What a reader of the registers can rely on in every state the firmware reaches: the
node has an address of its own, and its telemetry is one sample as a whole.
-/

namespace GridexEdge.Node

open Foundation

/-- The sample the registers show after one more event. -/
def showSample (shown : DriverSample) : FirmwareEvent → DriverSample
  | .publishDriverSample sample => sample
  | _ => shown

/-- The last published sample, all zero before there is one. -/
def lastSample (events : List FirmwareEvent) : DriverSample := run showSample {} events

/-- It was published as it is. -/
theorem lastSample_published (events : List FirmwareEvent) :
    lastSample events = {} ∨ .publishDriverSample (lastSample events) ∈ events := by
  suffices general : ∀ shown : DriverSample, run showSample shown events = shown ∨
      .publishDriverSample (run showSample shown events) ∈ events from general {}
  induction events with
  | nil => exact fun shown => .inl rfl
  | cons event rest inductionHypothesis =>
      intro shown
      rcases inductionHypothesis (showSample shown event) with kept | later
      · rw [run_cons, kept]
        cases event with
        | publishDriverSample sample => exact .inr List.mem_cons_self
        | _ => exact .inl rfl
      · exact .inr (List.mem_cons_of_mem _ later)

/-- The registers of a sample hold its words. -/
def Shows (node : MbusNode) (sample : DriverSample) : Prop :=
  ∀ word ∈ sampleRegisters sample, node.registerValue word.1 = word.2

def sampleAddresses : List UInt16 :=
  [Reg.actualPowerKwX10, Reg.energyWhHigh, Reg.energyWhLow, Reg.deviceState, Reg.alarmBits,
    Reg.quality]

theorem mem_sampleAddresses {sample : DriverSample} {word : UInt16 × UInt16}
    (member : word ∈ sampleRegisters sample) : word.1 ∈ sampleAddresses := by
  change word.1 ∈ (sampleRegisters sample).map Prod.fst
  exact List.mem_map.mpr ⟨word, member, rfl⟩

namespace Shows

variable {node after : MbusNode} {sample : DriverSample}

theorem of_same (shows_ : Shows node sample)
    (same : ∀ address ∈ sampleAddresses,
      after.registerValue address = node.registerValue address) : Shows after sample := by
  intro word member
  rw [same word.1 (mem_sampleAddresses member), shows_ word member]

theorem of_isolated (shows_ : Shows node sample) (isolated : Isolated node after) :
    Shows after sample := by
  have outside : (sampleAddresses.all fun address =>
      decide (address < 0x14) || decide (0x17 < address)) = true := rfl
  refine shows_.of_same fun address member => isolated.registers address ?_
  simpa using List.all_eq_true.mp outside address member

theorem setRegisters (shows_ : Shows node sample) {words : List (UInt16 × UInt16)}
    (apart : (sampleAddresses.all fun address =>
      !(words.map Prod.fst).contains address) = true) :
    Shows (node.setRegisters words) sample := by
  refine shows_.of_same fun address member => ?_
  apply node.registerValue_setRegisters_of_not_mem
  simpa using List.all_eq_true.mp apart address member

theorem provision (shows_ : Shows node sample) (address : UInt8) (type : NodeType)
    (driverId : UInt16) : Shows (node.provision address type driverId).2 sample := by
  have apart : (sampleAddresses.all fun address =>
      !([Reg.requestedAddress, Reg.requestedNodeType, Reg.requestedDriverId, Reg.nodeAddress,
        Reg.nodeType, Reg.driverId, Reg.nodeState] : List UInt16).contains address) = true := rfl
  refine shows_.of_same fun shown member => ?_
  apply node.registerValue_provision_of_not_mem
  simpa using List.all_eq_true.mp apart shown member

/-- A publication leaves nothing of the sample before it. -/
theorem publish (node : MbusNode) (sample : DriverSample) :
    Shows (node.setRegisters (sampleRegisters sample)) sample := by
  intro word member
  have inside : (sampleAddresses.all fun address => decide (address.toNat < 128)) = true := rfl
  apply node.registerValue_setRegisters_of_mem
  · change sampleAddresses.Nodup
    decide
  · exact member
  · exact of_decide_eq_true (List.all_eq_true.mp inside word.1 (mem_sampleAddresses member))

/-- The identity leaves the registers of the sample at zero. -/
theorem initializeIdentity (config : NodeConfig) :
    Shows (MbusNode.initializeIdentity { config := config }) {} := by
  have blank : Shows { config := config } {} := by
    intro word member
    have zero : ((sampleRegisters {}).all fun word => word.2 == 0) = true := rfl
    rw [beq_iff_eq.mp (List.all_eq_true.mp zero word member)]
    unfold MbusNode.registerValue
    split
    · exact Vector.getElem_replicate _
    · rfl
  exact blank.setRegisters rfl

theorem ofConfig (config : NodeConfig) : Shows (MbusNode.ofConfig config) {} :=
  initializeIdentity _

end Shows

/-! ### Every state of the firmware -/

namespace MbusNode

theorem temporaryAddress_ne_zero (uid : UInt64) : temporaryAddress uid ≠ 0 := by
  intro zero
  have bounds := temporaryAddress_bounds uid
  rw [zero] at bounds
  exact absurd bounds.1 (by decide)

/-- Provisioning refuses the broadcast address. -/
theorem provision_unicast {node : MbusNode} (unicast : node.config.address ≠ 0)
    (address : UInt8) (type : NodeType) (driverId : UInt16) :
    (node.provision address type driverId).2.config.address ≠ 0 := by
  unfold provision
  split
  · exact unicast
  · next accepted =>
      rw [setRegisters_config]
      rintro rfl
      exact accepted (.inl (by decide))

end MbusNode

namespace Firmware

variable {Device : Type} (driver : IDeviceDriver Device)

/-- What is true of the node whenever a frame reaches it. -/
structure Serves (firmware : Firmware Device) (sample : DriverSample) : Prop where
  identified : Identified firmware.node
  unicast : firmware.node.config.address ≠ 0
  shows_ : Shows firmware.node sample

theorem Serves.keyless {firmware : Firmware Device} {sample : DriverSample}
    (serves : firmware.Serves sample) :
    firmware.node.registerValue Reg.applyConfiguration ≠ Reg.applyKey := by
  rw [serves.identified.applyConfiguration]
  decide

theorem serves_boot (config : NodeConfig) (device : Device) :
    (boot config device).Serves {} where
  identified := .ofConfig config
  unicast := by
    change (MbusNode.ofConfig config).config.address ≠ 0
    unfold MbusNode.ofConfig MbusNode.initializeIdentity
    rw [MbusNode.setRegisters_config]
    dsimp only
    split
    · exact MbusNode.temporaryAddress_ne_zero config.uid
    · next configured => exact configured
  shows_ := .ofConfig config

theorem unicast_step (firmware : Firmware Device) (event : FirmwareEvent)
    (identified : Identified firmware.node) (unicast : firmware.node.config.address ≠ 0) :
    (firmware.step driver event).node.config.address ≠ 0 := by
  cases event with
  | controlLoop input =>
      have isolated := loop_isolated firmware.server input identified.applyConfiguration
      rw [step, isolated.config]
      exact unicast
  | restartControl => exact unicast
  | setRockPiAddress address => exact unicast
  | provisionNode address type driverId =>
      rcases firmware.provisionNode_node address type driverId with same | provisioned
      · rwa [step, same]
      · rw [step, provisioned]
        exact MbusNode.provision_unicast unicast _ _ _
  | applyCommand nowMs =>
      apply applyCommand_node driver fun node => node.config.address ≠ 0
      · intro node applied result before
        rwa [MbusNode.setRegisters_config]
      · exact unicast
  | persistNodeConfig => exact unicast
  | publishDriverSample sample =>
      rw [step, MbusNode.setRegisters_config]
      exact unicast
  | publishHealthRegisters health =>
      rw [step, MbusNode.setRegisters_config]
      exact unicast
  | publishCounters uptimeSeconds cloudConnected =>
      rw [step, MbusNode.setRegisters_config]
      exact unicast

theorem shows_step (firmware : Firmware Device) (event : FirmwareEvent) {sample : DriverSample}
    (identified : Identified firmware.node) (shows_ : Shows firmware.node sample) :
    Shows (firmware.step driver event).node (showSample sample event) := by
  cases event with
  | controlLoop input =>
      exact shows_.of_isolated
        (loop_isolated firmware.server input identified.applyConfiguration)
  | restartControl => exact shows_
  | setRockPiAddress address => exact shows_
  | provisionNode address type driverId =>
      rcases firmware.provisionNode_node address type driverId with same | provisioned
      · rwa [step, same]
      · rw [step, provisioned]
        exact shows_.provision _ _ _
  | applyCommand nowMs =>
      apply applyCommand_node driver fun node => Shows node sample
      · exact fun node applied result before => before.setRegisters rfl
      · exact shows_
  | persistNodeConfig => exact shows_
  | publishDriverSample published => exact .publish _ published
  | publishHealthRegisters health => exact shows_.setRegisters rfl
  | publishCounters uptimeSeconds cloudConnected => exact shows_.setRegisters rfl

/-- Whatever the main loop has done, the telemetry is that of the last sample. -/
theorem serves_run (config : NodeConfig) (device : Device) (events : List FirmwareEvent) :
    (run (step driver) (boot config device) events).Serves (lastSample events) := by
  suffices general : ∀ (firmware : Firmware Device) (sample : DriverSample),
      firmware.Serves sample →
        (run (step driver) firmware events).Serves (run showSample sample events) from
    general _ _ (serves_boot config device)
  induction events with
  | nil => exact fun firmware sample serves => serves
  | cons event rest inductionHypothesis =>
      intro firmware sample serves
      apply inductionHypothesis
      constructor
      · exact identified_step driver firmware event serves.identified
      · exact unicast_step driver firmware event serves.identified serves.unicast
      · exact shows_step driver firmware event serves.identified serves.shows_

end Firmware

end GridexEdge.Node
