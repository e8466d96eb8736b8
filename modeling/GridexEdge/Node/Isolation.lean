import GridexEdge.Node.Firmware
import GridexEdge.Foundation.Runs

/-!
A TCP peer cannot touch the node's identity or telemetry.

`Isolated` is the frame condition of one request and composes over a stream.
`Identified` says that the identity registers show the current configuration and
that the apply key is not pending; every event of the firmware keeps it.
-/

namespace GridexEdge.Node

open Foundation EthernetControlServer

/-- Only the command window may differ. -/
structure Isolated (before after : MbusNode) : Prop where
  config : after.config = before.config
  configurationChanged : after.configurationChanged = before.configurationChanged
  registers : ∀ address : UInt16, address < 0x14 ∨ 0x17 < address →
    after.registerValue address = before.registerValue address

theorem Isolated.refl (node : MbusNode) : Isolated node node := ⟨rfl, rfl, fun _ _ => rfl⟩

theorem Isolated.trans {first second third : MbusNode} (earlier : Isolated first second)
    (later : Isolated second third) : Isolated first third where
  config := later.config.trans earlier.config
  configurationChanged := later.configurationChanged.trans earlier.configurationChanged
  registers address outside :=
    (later.registers address outside).trans (earlier.registers address outside)

/-- What the identity registers must hold; the apply register holds no key. -/
def identityRegisters (config : NodeConfig) : List (UInt16 × UInt16) :=
  [ (Reg.magic, Reg.magicValue),
    (Reg.mapVersion, Reg.mapVersionValue),
    (Reg.nodeAddress, config.address.toUInt16),
    (Reg.nodeType, config.type),
    (Reg.driverId, config.driverId),
    (Reg.uid0, (config.uid >>> 48).toUInt16),
    (Reg.uid1, (config.uid >>> 32).toUInt16),
    (Reg.uid2, (config.uid >>> 16).toUInt16),
    (Reg.uid3, config.uid.toUInt16),
    (Reg.applyConfiguration, 0) ]

def Identified (node : MbusNode) : Prop :=
  ∀ word ∈ identityRegisters node.config, node.registerValue word.1 = word.2

def protectedRegisters : List UInt16 :=
  [Reg.magic, Reg.mapVersion, Reg.nodeAddress, Reg.nodeType, Reg.driverId, Reg.uid0, Reg.uid1,
    Reg.uid2, Reg.uid3, Reg.applyConfiguration]

theorem mem_protectedRegisters {config : NodeConfig} {word : UInt16 × UInt16}
    (member : word ∈ identityRegisters config) : word.1 ∈ protectedRegisters := by
  change word.1 ∈ (identityRegisters config).map Prod.fst
  exact List.mem_map.mpr ⟨word, member, rfl⟩

namespace Identified

variable {node after : MbusNode}

theorem applyConfiguration (identified : Identified node) :
    node.registerValue Reg.applyConfiguration = 0 :=
  identified (Reg.applyConfiguration, 0) (by simp [identityRegisters])

theorem of_same (identified : Identified node) (config : after.config = node.config)
    (same : ∀ address ∈ protectedRegisters,
      after.registerValue address = node.registerValue address) : Identified after := by
  intro word member
  rw [config] at member
  rw [same word.1 (mem_protectedRegisters member), identified word member]

theorem of_isolated (identified : Identified node) (isolated : Isolated node after) :
    Identified after := by
  have below : (protectedRegisters.all fun address => decide (address < 0x14)) = true := rfl
  refine identified.of_same isolated.config fun address member =>
    isolated.registers address (.inl ?_)
  exact of_decide_eq_true (List.all_eq_true.mp below address member)

theorem setRegisters (identified : Identified node) {words : List (UInt16 × UInt16)}
    (unprotected : (protectedRegisters.all fun address =>
      !(words.map Prod.fst).contains address) = true) :
    Identified (node.setRegisters words) := by
  refine identified.of_same (node.setRegisters_config words) fun address member => ?_
  apply node.registerValue_setRegisters_of_not_mem
  simpa using List.all_eq_true.mp unprotected address member

theorem initializeIdentity (config : NodeConfig) :
    Identified (MbusNode.initializeIdentity { config := config }) := by
  intro word member
  unfold MbusNode.initializeIdentity at member ⊢
  rw [MbusNode.setRegisters_config] at member
  simp only [identityRegisters, List.mem_cons, List.not_mem_nil, or_false] at member
  rcases member with rfl | rfl | rfl | rfl | rfl | rfl | rfl | rfl | rfl | rfl
  case inr.inr.inr.inr.inr.inr.inr.inr.inr =>
    rw [MbusNode.registerValue_setRegisters_of_not_mem _ (by simp +decide)]
    rfl
  all_goals
    exact MbusNode.registerValue_setRegisters_of_mem _ (by simp +decide) (by simp)
      (by simp +decide)

theorem ofConfig (config : NodeConfig) : Identified (MbusNode.ofConfig config) :=
  initializeIdentity _

/-- Provisioning rewrites the three identity registers it can change and leaves
the others to the invariant. -/
theorem provision (identified : Identified node) (address : UInt8) (type : NodeType)
    (driverId : UInt16) : Identified (node.provision address type driverId).2 := by
  unfold MbusNode.provision
  split
  · exact identified
  · intro word member
    rw [MbusNode.setRegisters_config] at member
    simp only [identityRegisters, List.mem_cons, List.not_mem_nil, or_false] at member
    rcases member with rfl | rfl | rfl | rfl | rfl | rfl | rfl | rfl | rfl | rfl
    -- The address, the type and the driver are rewritten, the rest is kept.
    case' inr.inr.inl | inr.inr.inr.inl | inr.inr.inr.inr.inl =>
      apply MbusNode.registerValue_setRegisters_of_mem _ (by simp +decide) (by simp)
        (by simp +decide)
    all_goals
      rw [MbusNode.registerValue_setRegisters_of_not_mem _ (by simp +decide)]
      exact identified (_, _) (by simp [identityRegisters])

end Identified

/-- A request that the window check admits is carried out on exactly the checked
registers, and the key check that follows finds no key. -/
def WritesAsChecked (node : MbusNode) (adu : List UInt8) (after : MbusNode) : Prop :=
  after = node ∨
    ∃ values : List UInt16,
      writeAllowed (adu.getD 7 0) (readU16 adu 8) (checkedCount (adu.getD 7 0) adu) = true ∧
      (adu.getD 7 0 = 0x06 ∨ adu.getD 7 0 = 0x10) ∧
      values.length = (checkedCount (adu.getD 7 0) adu).toNat ∧
      (node.storeRange (readU16 adu 8) values).registerValue Reg.applyConfiguration ≠ Reg.applyKey ∧
      after = node.storeRange (readU16 adu 8) values

section Requests

variable {node : MbusNode}

/-- Window registers do not overlap the apply register. -/
theorem storeRange_isolated {start : UInt16} {values : List UInt16} (low : 0x14 ≤ start.toNat)
    (high : start.toNat + values.length ≤ 0x18) : Isolated node (node.storeRange start values) where
  config := rfl
  configurationChanged := rfl
  registers address outside := by
    apply node.registerValue_storeRange_of_outside
    simp only [UInt16.lt_iff_toNat_lt, UInt16.reduceToNat] at outside
    omega

theorem handle_writesAsChecked (unitId : UInt8)
    (unapplied : node.registerValue Reg.applyConfiguration = 0) (adu : List UInt8) :
    WritesAsChecked node adu (handle unitId node adu).2 := by
  rcases handle_cases unitId node adu with same | ⟨values, allowed, isWrite, counted, written⟩
  · exact .inl same
  · obtain ⟨-, low, high⟩ := writeAllowed_eq_true isWrite allowed
    rw [← counted] at high
    have storedIsolated : Isolated node (node.storeRange (readU16 adu 8) values) :=
      storeRange_isolated low high
    have stillUnapplied := storedIsolated.registers Reg.applyConfiguration (by decide)
    have keyless : (node.storeRange (readU16 adu 8) values).registerValue
        Reg.applyConfiguration ≠ Reg.applyKey := by
      rw [stillUnapplied, unapplied]
      decide
    exact .inr ⟨values, allowed, isWrite, counted, keyless,
      written.trans (MbusNode.applyPendingConfiguration_of_ne _ keyless)⟩

theorem WritesAsChecked.isolated {adu : List UInt8} {after : MbusNode}
    (checked : WritesAsChecked node adu after) : Isolated node after := by
  rcases checked with rfl | ⟨values, allowed, isWrite, counted, -, rfl⟩
  · exact .refl after
  · obtain ⟨-, low, high⟩ := writeAllowed_eq_true isWrite allowed
    rw [← counted] at high
    exact storeRange_isolated low high

theorem handle_isolated (unitId : UInt8)
    (unapplied : node.registerValue Reg.applyConfiguration = 0) (adu : List UInt8) :
    Isolated node (handle unitId node adu).2 :=
  (handle_writesAsChecked unitId unapplied adu).isolated

/-- However many frames the buffer holds, in whatever fragments they came. -/
theorem processFrames_isolated (server : EthernetControlServer)
    (unapplied : node.registerValue Reg.applyConfiguration = 0) :
    Isolated node (server.processFrames node).2.2 := by
  induction server, node using EthernetControlServer.processFrames.induct with
  | case1 server node short =>
      rw [processFrames, if_pos short]
      exact .refl node
  | case2 server node long protocolLength total outOfBounds =>
      rw [processFrames, if_neg long, if_pos outOfBounds]
      exact .refl node
  | case3 server node long protocolLength total inBounds incomplete =>
      rw [processFrames, if_neg long, if_neg inBounds, if_pos incomplete]
      exact .refl node
  | case4 server node long protocolLength total inBounds complete handled inductionHypothesis =>
      rw [processFrames, if_neg long, if_neg inBounds, if_neg complete]
      have first : Isolated node handled.2 := handle_isolated server.unitId unapplied _
      have stillUnapplied := first.registers Reg.applyConfiguration (by decide)
      exact first.trans (inductionHypothesis (stillUnapplied.trans unapplied))

theorem loop_isolated (server : EthernetControlServer) (input : ControlInput)
    (unapplied : node.registerValue Reg.applyConfiguration = 0) :
    Isolated node (server.loop node input).2.2 := by
  unfold EthernetControlServer.loop
  dsimp only
  split
  · exact .refl node
  · split
    · exact processFrames_isolated _ unapplied
    · exact processFrames_isolated _ unapplied

end Requests

namespace Firmware

variable {Device : Type} (driver : IDeviceDriver Device)

/-- The supervisor writes its two result registers and no other. -/
theorem applyCommand_node (Invariant : MbusNode → Prop)
    (results : ∀ (node : MbusNode) (applied result : UInt16), Invariant node →
      Invariant (node.setRegisters
        [(Reg.appliedPowerKwX10, applied), (Reg.lastCommandResult, result)]))
    (firmware : Firmware Device) (nowMs : UInt32) (before : Invariant firmware.node) :
    Invariant (firmware.applyCommand driver nowMs).node := by
  have taken : Invariant (firmware.takeNewSequence driver nowMs).node := by
    unfold takeNewSequence
    split
    · exact results _ _ _ before
    · exact before
  unfold applyCommand expireOverdue
  split
  · exact results _ 0 3 taken
  · exact taken

theorem identified_applyCommand (firmware : Firmware Device) (nowMs : UInt32)
    (identified : Identified firmware.node) :
    Identified (firmware.applyCommand driver nowMs).node := by
  apply applyCommand_node driver Identified
  · exact fun node applied result before => before.setRegisters rfl
  · exact identified

theorem identified_step (firmware : Firmware Device) (event : FirmwareEvent)
    (identified : Identified firmware.node) : Identified (firmware.step driver event).node := by
  cases event with
  | controlLoop input =>
      exact identified.of_isolated
        (loop_isolated firmware.server input identified.applyConfiguration)
  | restartControl => exact identified
  | setRockPiAddress address => exact identified
  | provisionNode address type driverId =>
      rcases firmware.provisionNode_node address type driverId with same | provisioned
      · rwa [step, same]
      · rw [step, provisioned]
        exact identified.provision _ _ _
  | applyCommand nowMs => exact identified_applyCommand driver firmware nowMs identified
  | persistNodeConfig => exact identified
  | publishDriverSample sample =>
      exact identified.setRegisters rfl
  | publishHealthRegisters health =>
      exact identified.setRegisters rfl
  | publishCounters uptimeSeconds cloudConnected =>
      exact identified.setRegisters rfl

/-- In every state the firmware can reach, and after any frames served there, the
identity registers show the configuration; one more frame changes the command
window at most, where the window check has let it, and so does a whole pass over
any bytes the peer delivers. -/
theorem tcp_peer_isolated (config : NodeConfig) (device : Device) (events : List FirmwareEvent)
    (unitId : UInt8) (earlier : List (List UInt8)) (adu : List UInt8)
    (server : EthernetControlServer) (input : ControlInput) :
    let reached := (run (step driver) (boot config device) events).node
    let serving := run (fun node adu => (handle unitId node adu).2) reached earlier
    Identified reached ∧ Isolated reached (server.loop reached input).2.2 ∧
      Identified serving ∧ WritesAsChecked serving adu (handle unitId serving adu).2 ∧
      Isolated serving (handle unitId serving adu).2 := by
  intro reached serving
  have atReached : Identified reached :=
    run_invariant (step driver) (fun firmware => Identified firmware.node)
      (fun firmware event => identified_step driver firmware event) (.ofConfig config) events
  have atServing : Identified serving :=
    run_invariant _ Identified
      (fun _ adu identified =>
        identified.of_isolated (handle_isolated unitId identified.applyConfiguration adu))
      atReached earlier
  exact ⟨atReached, loop_isolated server input atReached.applyConfiguration, atServing,
    handle_writesAsChecked unitId atServing.applyConfiguration adu,
    handle_isolated unitId atServing.applyConfiguration adu⟩

end Firmware

end GridexEdge.Node
