import GridexEdge.Node.ProgramFirmware

/-!
The node as it is built: no driver is compiled in, and none can come in at run time.

No command is carried out whatever a peer, the console, the link or a restart does, and
the registers say so.
-/

namespace GridexEdge.Node

open Foundation

/-- What a node without a driver shows as zero, all through. -/
def lockedRegisters : List UInt16 :=
  [ Reg.appliedPowerKwX10, Reg.actualPowerKwX10, Reg.energyWhHigh, Reg.energyWhLow,
    Reg.alarmBits, Reg.quality, Reg.driverReady, Reg.busRecoveryCount, Reg.cloudConnected ]

/-- A command was refused, or there was none yet. -/
def refusals : List UInt16 := [0, 2, 4]

structure LockedNode (node : MbusNode) : Prop where
  identified : Identified node
  zero : ∀ address ∈ lockedRegisters, node.registerValue address = 0
  result : node.registerValue Reg.lastCommandResult ∈ refusals

namespace LockedNode

variable {node after : MbusNode}

/-- These registers are in range, and no peer can write them. -/
theorem outside_window {address : UInt16} (member : address ∈ Reg.lastCommandResult ::
    lockedRegisters) : address.toNat < 128 ∧ (address < 0x14 ∨ 0x17 < address) := by
  have outside : ((Reg.lastCommandResult :: lockedRegisters).all fun address =>
      decide (address.toNat < 128) && (decide (address < 0x14) || decide (0x17 < address))) =
        true := rfl
  simpa using List.all_eq_true.mp outside address member

theorem of_isolated (locked : LockedNode node) (isolated : Isolated node after) :
    LockedNode after where
  identified := locked.identified.of_isolated isolated
  zero address member := by
    rw [isolated.registers address (outside_window (List.mem_cons_of_mem _ member)).2]
    exact locked.zero address member
  result := by
    rw [isolated.registers _ (outside_window List.mem_cons_self).2]
    exact locked.result

/-- Registers may be written with what a locked node shows. -/
theorem setRegisters (locked : LockedNode node) {words : List (UInt16 × UInt16)}
    (unprotected : (protectedRegisters.all fun address =>
      !(words.map Prod.fst).contains address) = true)
    (distinct : (words.map Prod.fst).Nodup)
    (zero : ∀ word ∈ words, word.1 ∈ lockedRegisters → word.2 = 0)
    (result : ∀ word ∈ words, word.1 = Reg.lastCommandResult → word.2 ∈ refusals) :
    LockedNode (node.setRegisters words) where
  identified := locked.identified.setRegisters unprotected
  zero address member := by
    by_cases written : address ∈ words.map Prod.fst
    · obtain ⟨⟨same, value⟩, inside, rfl⟩ := List.mem_map.mp written
      rw [MbusNode.registerValue_setRegisters_of_mem _ distinct inside
        (outside_window (List.mem_cons_of_mem _ member)).1]
      exact zero _ inside member
    · rw [MbusNode.registerValue_setRegisters_of_not_mem _ written]
      exact locked.zero address member
  result := by
    by_cases written : Reg.lastCommandResult ∈ words.map Prod.fst
    · obtain ⟨⟨same, value⟩, inside, shown⟩ := List.mem_map.mp written
      have kept := MbusNode.registerValue_setRegisters_of_mem node distinct inside
        (by rw [show same = Reg.lastCommandResult from shown]; decide)
      rw [← show same = Reg.lastCommandResult from shown, kept]
      exact result _ inside shown
    · rw [MbusNode.registerValue_setRegisters_of_not_mem _ written]
      exact locked.result

theorem provision (locked : LockedNode node) (address : UInt8) (type : NodeType)
    (driverId : UInt16) : LockedNode (node.provision address type driverId).2 := by
  have others : ((Reg.lastCommandResult :: lockedRegisters).all fun address =>
      !([Reg.requestedAddress, Reg.requestedNodeType, Reg.requestedDriverId, Reg.nodeAddress,
        Reg.nodeType, Reg.driverId, Reg.nodeState] : List UInt16).contains address) = true := rfl
  have kept : ∀ register ∈ Reg.lastCommandResult :: lockedRegisters,
      (node.provision address type driverId).2.registerValue register =
        node.registerValue register := by
    intro register member
    apply node.registerValue_provision_of_not_mem
    simpa using List.all_eq_true.mp others register member
  constructor
  · exact locked.identified.provision address type driverId
  · intro register member
    rw [kept register (List.mem_cons_of_mem _ member), locked.zero register member]
  · rw [kept _ List.mem_cons_self]
    exact locked.result

theorem takeConfigurationChanged (locked : LockedNode node) :
    LockedNode node.takeConfigurationChanged.2 :=
  ⟨locked.identified, locked.zero, locked.result⟩

theorem ofConfig (config : NodeConfig) : LockedNode (MbusNode.ofConfig config) := by
  have untouched : ∀ register ∈ Reg.lastCommandResult :: lockedRegisters,
      (MbusNode.ofConfig config).registerValue register = 0 := by
    intro register member
    have others : ((Reg.lastCommandResult :: lockedRegisters).all fun register =>
        !([Reg.magic, Reg.mapVersion, Reg.nodeType, Reg.nodeState, Reg.nodeAddress, Reg.driverId,
          Reg.uid0, Reg.uid1, Reg.uid2, Reg.uid3, Reg.requestedAddress, Reg.requestedNodeType,
          Reg.requestedDriverId] : List UInt16).contains register) = true := rfl
    have missing := List.all_eq_true.mp others register member
    rw [Bool.not_eq_true', ← Bool.not_eq_true, List.contains_iff_mem] at missing
    rw [MbusNode.ofConfig, MbusNode.initializeIdentity,
      MbusNode.registerValue_setRegisters_of_not_mem _ missing, MbusNode.registerValue,
      dif_pos (outside_window member).1]
    simp
  constructor
  · exact .ofConfig config
  · exact fun register member => untouched register (List.mem_cons_of_mem _ member)
  · rw [untouched _ List.mem_cons_self]
    decide

end LockedNode

namespace Firmware

variable {Device : Type} (driver : IDeviceDriver Device)

structure Locked (firmware : Firmware Device) : Prop where
  node : LockedNode firmware.node
  installed : firmware.installed = .unconfigured
  disarmed : firmware.commandArmed = false
  refused : ∀ output ∈ firmware.outputs, output.2 = false

/-- What a program without a driver has to publish. -/
def LockedEvent : FirmwareEvent → Prop
  | .publishDriverSample sample =>
      sample.actualPowerKwX10 = 0 ∧ sample.energyWh = 0 ∧ sample.alarms = 0 ∧ sample.quality = 0
  | .publishHealthRegisters health => health.driverReady = false ∧ health.busRecoveries = 0
  | .publishCounters _ cloudConnected => cloudConnected = false
  | _ => True

variable {firmware : Firmware Device}

/-- The driver of a provisioned identity refuses whatever it is asked. -/
theorem Locked.accepted (locked : firmware.Locked) :
    (firmware.accepted driver).1 = false ∧
      (firmware.accepted driver).2.installed = .unconfigured := by
  unfold Firmware.accepted applyPowerCommand
  rw [locked.installed]
  split
  · exact ⟨rfl, rfl⟩
  · exact ⟨rfl, locked.installed⟩

theorem Locked.applyCommand (locked : firmware.Locked) (nowMs : UInt32) :
    (firmware.applyCommand driver nowMs).Locked := by
  by_cases new : firmware.sequence ≠ firmware.lastCommandSequence
  · obtain ⟨refused, installed⟩ := locked.accepted driver
    rw [applyCommand_of_new driver nowMs new]
    refine ⟨?_, installed, refused, ?_⟩
    · have distinct : [Reg.appliedPowerKwX10, Reg.lastCommandResult].Nodup := by decide
      have other : Reg.lastCommandResult ∉ lockedRegisters := by decide
      unfold takeSequence
      dsimp only
      rw [refused, if_neg Bool.false_ne_true, if_neg Bool.false_ne_true]
      refine @LockedNode.setRegisters _ locked.node [(Reg.appliedPowerKwX10, 0),
        (Reg.lastCommandResult, if firmware.ttlValid then 2 else 4)] rfl distinct ?_ ?_
      · intro word member inside
        rcases List.mem_cons.mp member with rfl | member
        · rfl
        · rw [List.mem_singleton.mp member] at inside
          exact absurd inside other
      · intro word member shown
        rcases List.mem_cons.mp member with rfl | member
        · exact absurd shown (by decide)
        · rw [List.mem_singleton.mp member]
          dsimp only
          split <;> decide
    · intro output member
      change output ∈ (firmware.accepted driver).2.outputs at member
      rcases firmware.accepted_outputs driver with ⟨same, -⟩ | added
      · rw [same] at member
        exact locked.refused output member
      · rw [added, refused] at member
        rcases List.mem_cons.mp member with rfl | earlier
        · rfl
        · exact locked.refused output earlier
  · rw [applyCommand_of_seen driver nowMs (not_not.mp new), expireOverdue, locked.disarmed]
    exact locked

theorem Locked.step (locked : firmware.Locked) {event : FirmwareEvent}
    (published : LockedEvent event) : (firmware.step driver event).Locked := by
  have written : ∀ words : List (UInt16 × UInt16),
      (protectedRegisters.all fun address => !(words.map Prod.fst).contains address) = true →
      (words.map Prod.fst).Nodup → Reg.lastCommandResult ∉ words.map Prod.fst →
      (∀ word ∈ words, word.1 ∈ lockedRegisters → word.2 = 0) →
      Locked { firmware with node := firmware.node.setRegisters words } := by
    intro words unprotected distinct noResult zero
    refine ⟨locked.node.setRegisters unprotected distinct zero ?_, locked.installed,
      locked.disarmed, locked.refused⟩
    exact fun word member shown => absurd (List.mem_map.mpr ⟨word, member, shown⟩) noResult
  cases event with
  | controlLoop input =>
      have isolated := loop_isolated firmware.server input locked.node.identified.applyConfiguration
      exact ⟨locked.node.of_isolated isolated, locked.installed, locked.disarmed, locked.refused⟩
  | restartControl => exact ⟨locked.node, locked.installed, locked.disarmed, locked.refused⟩
  | setRockPiAddress address =>
      exact ⟨locked.node, locked.installed, locked.disarmed, locked.refused⟩
  | provisionNode address type driverId =>
      have same := firmware.provisionNode_sameSupervisor address type driverId
      refine ⟨?_, ?_, ?_, ?_⟩
      · rcases firmware.provisionNode_node address type driverId with kept | provisioned
        · rw [Firmware.step, kept]
          exact locked.node
        · rw [Firmware.step, provisioned]
          exact (locked.node.provision _ _ _).takeConfigurationChanged
      · unfold Firmware.step provisionNode
        dsimp only
        split
        · exact locked.installed
        · split
          · exact locked.installed
          · rfl
      · exact same.commandArmed.trans locked.disarmed
      · rw [Firmware.step, same.outputs]
        exact locked.refused
  | applyCommand nowMs => exact locked.applyCommand driver nowMs
  | persistNodeConfig =>
      exact ⟨locked.node.takeConfigurationChanged, locked.installed, locked.disarmed,
        locked.refused⟩
  | publishDriverSample sample =>
      obtain ⟨power, energy, alarms, quality⟩ := published
      refine written (sampleRegisters sample) rfl (by simp +decide [sampleRegisters])
        (by simp +decide [sampleRegisters]) ?_
      intro word member inside
      rw [sampleRegisters, power, energy, alarms, quality] at member
      simp only [List.mem_cons, List.not_mem_nil, or_false] at member
      rcases member with rfl | rfl | rfl | rfl | rfl | rfl
      case inr.inr.inr.inl => exact absurd inside (by simp +decide)
      all_goals rfl
  | publishHealthRegisters health =>
      obtain ⟨notReady, noRecoveries⟩ := published
      refine written (healthRegisters health) rfl (by simp +decide [healthRegisters])
        (by simp +decide [healthRegisters]) ?_
      intro word member inside
      rw [healthRegisters, notReady, noRecoveries] at member
      simp only [List.mem_cons, List.not_mem_nil, or_false] at member
      rcases member with rfl | rfl | rfl | rfl | rfl | rfl | rfl | rfl | rfl
      case inr.inr.inl | inr.inr.inr.inr.inr.inr.inr.inl => rfl
      all_goals exact absurd inside (by simp +decide)
  | publishCounters uptimeSeconds cloudConnected =>
      have offline : cloudConnected = false := published
      refine written (counterRegisters firmware.node uptimeSeconds cloudConnected) rfl
        (by simp +decide [counterRegisters]) (by simp +decide [counterRegisters]) ?_
      intro word member inside
      rw [counterRegisters, offline] at member
      simp only [List.mem_cons, List.not_mem_nil, or_false] at member
      rcases member with rfl | rfl | rfl
      case inr.inr => rfl
      all_goals exact absurd inside (by simp +decide)

end Firmware

namespace NodeProgram

variable {Device : Type} (driver : DeviceDriver Device)
  (fromString : List UInt8 → Option UInt32)

/-- The firmware is locked, and the globals that could unlock it stay as they are. -/
structure Locked (program : NodeProgram Device) : Prop where
  firmware : program.firmware.Locked
  driverReady : program.driverReady = false
  busRecoveries : program.busRecoveries = 0
  cloudActive : program.cloudActive = false

/-- What may change without unlocking anything. -/
structure SameLock (before after : NodeProgram Device) : Prop where
  driverReady : before.driverReady = false → after.driverReady = false
  busRecoveries : after.busRecoveries = before.busRecoveries
  cloudActive : after.cloudActive = before.cloudActive

theorem SameLock.refl (program : NodeProgram Device) : SameLock program program := ⟨id, rfl, rfl⟩

variable {program : NodeProgram Device}

theorem Locked.requiresDeviceBus (locked : program.Locked) :
    program.requiresDeviceBus driver = false := by
  unfold NodeProgram.requiresDeviceBus
  rw [locked.firmware.installed]

/-- A driver that needs no bus has nothing to recover. -/
theorem Locked.recoversBus (locked : program.Locked) (nowMs : UInt32) :
    program.recoversBus driver nowMs = false := by
  unfold NodeProgram.recoversBus
  rw [locked.requiresDeviceBus driver]
  rfl

theorem Locked.publishes (locked : program.Locked) {event : FirmwareEvent}
    (publishes : program.Publishes driver event) : Firmware.LockedEvent event := by
  cases event with
  | publishDriverSample sample =>
      have known : sample = (program.pollSample driver).1 := publishes
      unfold pollSample at known
      rw [locked.firmware.installed] at known
      rw [known]
      exact ⟨rfl, rfl, rfl, rfl⟩
  | publishHealthRegisters health =>
      have known : health = program.health := publishes
      rw [known]
      exact ⟨locked.driverReady, locked.busRecoveries⟩
  | publishCounters uptimeSeconds cloudConnected =>
      cases connected : cloudConnected with
      | false => rfl
      | true =>
          have active := publishes connected
          rw [locked.cloudActive] at active
          exact absurd active Bool.false_ne_true
  | _ => trivial

theorem onEthernet_sameLock (program : NodeProgram Device) (event : EthernetEvent) :
    SameLock program (program.onEthernet event) := by
  cases event <;> exact ⟨id, rfl, rfl⟩

/-- Every start is locked: the driver of the build is begun in vain. -/
theorem locked_setup (flash : Flash) (device : Device) (boot : BootInput) :
    (setup driver fromString .unconfigured flash device boot).Locked := by
  let started := powerOn fromString .unconfigured flash device
  have globals : (setup driver fromString .unconfigured flash device boot).driverReady = false ∧
      (setup driver fromString .unconfigured flash device boot).busRecoveries = 0 ∧
      (setup driver fromString .unconfigured flash device boot).cloudActive = false := by
    obtain ⟨device', link, begun⟩ := setup_eq driver fromString .unconfigured flash device boot
    have vain : (started.beginDriver driver).1 = false := rfl
    rw [begun]
    refine ⟨?_, rfl, rfl⟩
    exact (congrArg (boot.busInitialized && ·) vain).trans (Bool.and_false _)
  have node : LockedNode started.firmware.node := .ofConfig (loadConfig flash)
  obtain ⟨device', booted⟩ := setup_firmware driver fromString .unconfigured flash device boot
  generalize setup driver fromString .unconfigured flash device boot = reached at globals booted ⊢
  refine ⟨?_, globals.1, globals.2.1, globals.2.2⟩
  rw [booted]
  have powered : Firmware.Locked { started.firmware with device := device' } :=
    ⟨node, rfl, rfl, fun _ member => absurd member List.not_mem_nil⟩
  exact powered.step driver.toIDeviceDriver ⟨globals.1, globals.2.1⟩

theorem provisionNode_sameLock (program : NodeProgram Device) (arguments : List UInt8)
    (stored : StoredFields) : SameLock program (program.provisionNode arguments stored) := by
  unfold provisionNode
  split
  · exact .refl program
  · split
    · exact .refl program
    · split
      · exact .refl program
      · exact ⟨fun _ => rfl, rfl, rfl⟩

theorem processProvisioningLine_sameLock (program : NodeProgram Device) (calls : ProvisioningCalls)
    (stored : StoredFields) (boot : BootInput) (command : ProvisioningCommand) :
    (program.processProvisioningLine driver fromString .unconfigured calls stored boot
        command).Locked ∨
      SameLock program (program.processProvisioningLine driver fromString .unconfigured calls stored
        boot command) := by
  cases command with
  | node arguments => exact .inr (program.provisionNode_sameLock arguments stored)
  | rockPi value =>
      refine .inr ?_
      cases read : fromString value with
      | none => simp only [processProvisioningLine, read, SameLock.refl]
      | some address =>
          simp only [processProvisioningLine, read]
          split
          · exact .refl program
          · exact ⟨id, rfl, rfl⟩
  | help => exact .inr ⟨id, rfl, rfl⟩
  | status => exact .inr ⟨id, rfl, rfl⟩
  | unsupported => exact .inr ⟨id, rfl, rfl⟩
  | otaClear =>
      unfold processProvisioningLine
      dsimp only
      split
      · exact .inl (locked_setup driver fromString _ _ boot)
      · exact .inr ⟨id, rfl, rfl⟩
  | otaKey token =>
      unfold processProvisioningLine
      dsimp only
      split
      · exact .inl (locked_setup driver fromString _ _ boot)
      · exact .inr ⟨id, rfl, rfl⟩

/-- An event starts anew or leaves the globals locked. -/
theorem Locked.sameLock (locked : program.Locked) (event : NodeEvent) :
    (program.step driver fromString .unconfigured event).Locked ∨
      SameLock program (program.step driver fromString .unconfigured event) := by
  cases event with
  | serial value calls stored boot =>
      unfold NodeProgram.step serial
      dsimp only
      split
      · exact .inr ⟨id, rfl, rfl⟩
      · next raw _ =>
          rcases processProvisioningLine_sameLock driver fromString
            { program with serialLine := (program.serialLine.push value).2 } calls stored boot
            (.ofLine raw) with started | same
          · exact .inl started
          · exact .inr ⟨same.driverReady, same.busRecoveries, same.cloudActive⟩
  | controlLoop input => exact .inr ⟨id, rfl, rfl⟩
  | restartControl =>
      refine .inr ?_
      unfold NodeProgram.step
      dsimp only
      split <;> exact ⟨id, rfl, rfl⟩
  | applyCommand nowMs => exact .inr ⟨id, rfl, rfl⟩
  | persistNodeConfig stored => exact .inr ⟨id, rfl, rfl⟩
  | superviseDeviceBus nowMs busInitialized =>
      refine .inr ?_
      unfold NodeProgram.step superviseDeviceBus
      dsimp only
      rw [locked.recoversBus driver nowMs, Bool.not_false, if_pos rfl]
      exact .refl program
  | pollDriver nowMs laterMs mqttConnected =>
      refine .inr ?_
      unfold NodeProgram.step NodeProgram.pollDriver
      dsimp only
      split
      · exact .refl program
      · obtain ⟨device, polled⟩ := program.pollSample_eq driver
        dsimp only [publishHealthRegisters]
        rw [polled]
        exact ⟨id, rfl, rfl⟩
  | publishCloud nowMs laterMs =>
      refine .inr ?_
      unfold NodeProgram.step
      dsimp only
      split <;> exact ⟨id, rfl, rfl⟩
  | ethernet event => exact .inr (program.onEthernet_sameLock event)
  | restart boot => exact .inl (locked_setup driver fromString _ _ boot)

theorem Locked.step (locked : program.Locked) (event : NodeEvent) :
    (program.step driver fromString .unconfigured event).Locked := by
  rcases locked.sameLock driver fromString event with started | same
  · exact started
  · rcases program.step_moved driver fromString .unconfigured event with
      ⟨device, events, published, moved⟩ | ⟨flash, boot, started⟩
    · refine ⟨?_, same.driverReady locked.driverReady, same.busRecoveries.trans
        locked.busRecoveries, same.cloudActive.trans locked.cloudActive⟩
      have onDevice : Firmware.Locked { program.firmware with device := device } :=
        ⟨locked.firmware.node, locked.firmware.installed, locked.firmware.disarmed,
          locked.firmware.refused⟩
      rw [moved]
      exact run_invariant_of_forall (Firmware.step driver.toIDeviceDriver) Firmware.Locked
        (fun _ _ allowed kept => kept.step driver.toIDeviceDriver allowed) onDevice
        fun event member => locked.publishes driver (published event member)
    · rw [started]
      exact locked_setup driver fromString flash _ boot

/-- In every run from a start, whatever the peers, the console, the link and restarts do:
the driver has taken no command, the supervisor is not armed, the bus is never recovered,
the registers of `lockedRegisters` are zero, and those of commands show only refusals. -/
theorem unconfigured_node_stays_locked (flash : Flash) (device : Device) (boot : BootInput)
    (events : List NodeEvent) :
    let reached := run (NodeProgram.step driver fromString .unconfigured)
      (setup driver fromString .unconfigured flash device boot) events
    (∀ output ∈ reached.firmware.outputs, output.2 = false) ∧
      reached.firmware.commandArmed = false ∧
      (∀ nowMs, reached.recoversBus driver nowMs = false) ∧
      (∀ address ∈ lockedRegisters, reached.firmware.node.registerValue address = 0) ∧
      reached.firmware.node.registerValue Reg.lastCommandResult ∈ refusals := by
  intro reached
  have locked : reached.Locked :=
    run_invariant (NodeProgram.step driver fromString .unconfigured) Locked
      (fun _ event kept => kept.step driver fromString event)
      (locked_setup driver fromString flash device boot) events
  exact ⟨locked.firmware.refused, locked.firmware.disarmed, locked.recoversBus driver,
    locked.firmware.node.zero, locked.firmware.node.result⟩

end NodeProgram

end GridexEdge.Node
