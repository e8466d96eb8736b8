import GridexEdge.Node.ProgramFirmware
import GridexEdge.Node.Provisioning

/-!
The identity of a node through any run of its program.

The serial console alone can change it. A command is checked as a whole, takes effect at
once, and is stored field by field, so a write that fails tears the identity only at the
next start.
-/

namespace GridexEdge.Node

open Foundation

/-- What a node can be told to be. -/
structure NodeIdentity where
  address : UInt8
  type : NodeType
  driverId : UInt16

def NodeConfig.withIdentity (config : NodeConfig) (identity : NodeIdentity) : NodeConfig :=
  { config with
    address := identity.address
    type := identity.type
    driverId := identity.driverId }

/-- Three numbers are an identity if each of them is within its bounds. -/
def ProvisioningArguments.identity? (scanned : ProvisioningArguments) : Option NodeIdentity :=
  if (1 ≤ scanned.address ∧ scanned.address ≤ 247) ∧ (1 ≤ scanned.type ∧ scanned.type ≤ 6) ∧
      1 ≤ scanned.driverId ∧ scanned.driverId ≤ 65535 then
    some
      { address := UInt8.ofNat scanned.address
        type := UInt16.ofNat scanned.type
        driverId := UInt16.ofNat scanned.driverId }
  else none

def ProvisioningCommand.identity? : ProvisioningCommand → Option NodeIdentity
  | .node arguments => (scanArguments arguments).bind ProvisioningArguments.identity?
  | _ => none

/-- An accepted identity with the writes that succeeded. -/
abbrev AcceptedIdentity := NodeIdentity × StoredFields

/-- A field as the last successful write has left it. -/
def latest {Value : Type} (written : StoredFields → Bool) (field : NodeIdentity → Value)
    (initial : Value) (accepted : List AcceptedIdentity) : Value :=
  (((accepted.filter fun entry => written entry.2).getLast?).map fun entry => field entry.1).getD
    initial

theorem latest_append {Value : Type} (written : StoredFields → Bool) (field : NodeIdentity → Value)
    (initial : Value) (accepted : List AcceptedIdentity) (entry : AcceptedIdentity) :
    latest written field initial (accepted ++ [entry]) =
      if written entry.2 then field entry.1 else latest written field initial accepted := by
  unfold latest
  rw [List.filter_append]
  cases success : written entry.2 with
  | true => simp [success]
  | false => simp [success]

/-- The flash that a history of accepted identities leaves behind. -/
structure Flash.Keeps (flash kept : Flash) (accepted : List AcceptedIdentity) : Prop where
  address : kept.node.nodeAddress =
    latest StoredFields.address NodeIdentity.address flash.node.nodeAddress accepted
  type : kept.node.nodeType =
    latest StoredFields.type NodeIdentity.type flash.node.nodeType accepted
  driverId : kept.node.driverId =
    latest StoredFields.driverId NodeIdentity.driverId flash.node.driverId accepted
  efuseMac : kept.efuseMac = flash.efuseMac

theorem Flash.Keeps.of_same {flash kept other : Flash} {accepted : List AcceptedIdentity}
    (keeps : flash.Keeps kept accepted) (node : other.node = kept.node)
    (efuseMac : other.efuseMac = kept.efuseMac) : flash.Keeps other accepted := by
  constructor
  · rw [node, keeps.address]
  · rw [node, keeps.type]
  · rw [node, keeps.driverId]
  · rw [efuseMac, keeps.efuseMac]

def StoredFields.Complete (stored : StoredFields) : Prop :=
  stored.address = true ∧ stored.type = true ∧ stored.driverId = true

/-- The configuration of a node that has been told all these. -/
def currentConfig (flash : Flash) (accepted : List AcceptedIdentity) : NodeConfig :=
  match accepted.getLast? with
  | none => (MbusNode.ofConfig (loadConfig flash)).config
  | some entry => (loadConfig flash).withIdentity entry.1

/-- Of a configuration that is overwritten only the unique identifier is left. -/
theorem currentConfig_withIdentity (flash : Flash) (accepted : List AcceptedIdentity)
    (identity : NodeIdentity) :
    (currentConfig flash accepted).withIdentity identity =
      (loadConfig flash).withIdentity identity := by
  have uid : (currentConfig flash accepted).uid = (loadConfig flash).uid := by
    unfold currentConfig
    split
    · rw [MbusNode.ofConfig, MbusNode.initializeIdentity, MbusNode.setRegisters_config]
    · rfl
  rw [NodeConfig.withIdentity, uid]
  rfl

namespace NodeProgram

section Identity

variable {Device : Type} (program : NodeProgram Device)

/-- The identity that an event makes the node take. -/
def acceptedIdentity : NodeEvent → List AcceptedIdentity
  | .serial value _ stored _ =>
      (((program.serialLine.push value).1.bind fun raw =>
        (ProvisioningCommand.ofLine raw).identity?).map fun identity => (identity, stored)).toList
  | _ => []

/-- What the flash and the node have in common with those of another state. -/
structure SameIdentity (before after : NodeProgram Device) : Prop where
  flashNode : after.flash.node = before.flash.node
  efuseMac : after.flash.efuseMac = before.flash.efuseMac
  config : after.firmware.node.config = before.firmware.node.config

/-- The node takes an identity and the flash those of its fields that are written. -/
structure TakesIdentity (before after : NodeProgram Device) (accepted : AcceptedIdentity) :
    Prop where
  flashNode : after.flash.node =
    (Flash.store before.flash (before.firmware.node.config.withIdentity accepted.1)
      accepted.2).node
  efuseMac : after.flash.efuseMac = before.flash.efuseMac
  config : after.firmware.node.config = before.firmware.node.config.withIdentity accepted.1

theorem SameIdentity.refl : SameIdentity program program := ⟨rfl, rfl, rfl⟩

/-- What the code checks of three numbers in two places, as their bounds. -/
theorem identity?_eq (scanned : ProvisioningArguments) (node : MbusNode) :
    (scanned.identity? = none ∧
        ((247 < scanned.address ∨ NodeType.secondCabinet.toNat < scanned.type ∨
            65535 < scanned.driverId) ∨
          node.provision (UInt8.ofNat scanned.address) (UInt16.ofNat scanned.type)
            (UInt16.ofNat scanned.driverId) = (false, node))) ∨
      ∃ identity, scanned.identity? = some identity ∧
        identity = ⟨UInt8.ofNat scanned.address, UInt16.ofNat scanned.type,
          UInt16.ofNat scanned.driverId⟩ ∧
        ¬(247 < scanned.address ∨ NodeType.secondCabinet.toNat < scanned.type ∨
            65535 < scanned.driverId) ∧
        MbusNode.Acceptable identity.address.toUInt16 identity.type identity.driverId := by
  have six : NodeType.secondCabinet.toNat = 6 := rfl
  rw [six]
  by_cases large : 247 < scanned.address ∨ 6 < scanned.type ∨ 65535 < scanned.driverId
  · refine .inl ⟨if_neg ?_, .inl large⟩
    omega
  · have address : (UInt8.ofNat scanned.address).toUInt16.toNat = scanned.address := by
      rw [UInt8.toNat_toUInt16, UInt8.toNat_ofNat']
      omega
    have type : (UInt16.ofNat scanned.type).toNat = scanned.type := by
      rw [UInt16.toNat_ofNat']
      omega
    have driverId : (UInt16.ofNat scanned.driverId).toNat = scanned.driverId := by
      rw [UInt16.toNat_ofNat']
      omega
    have nonzero : UInt16.ofNat scanned.driverId ≠ 0 ↔ 1 ≤ scanned.driverId := by
      rw [ne_eq, ← UInt16.toNat_inj, driverId, UInt16.toNat_zero]
      omega
    have acceptable : MbusNode.Acceptable (UInt8.ofNat scanned.address).toUInt16
        (UInt16.ofNat scanned.type) (UInt16.ofNat scanned.driverId) ↔
          (1 ≤ scanned.address ∧ scanned.address ≤ 247) ∧ (1 ≤ scanned.type ∧ scanned.type ≤ 6) ∧
            1 ≤ scanned.driverId ∧ scanned.driverId ≤ 65535 := by
      rw [MbusNode.Acceptable, address, type, nonzero]
      omega
    by_cases inside : MbusNode.Acceptable (UInt8.ofNat scanned.address).toUInt16
        (UInt16.ofNat scanned.type) (UInt16.ofNat scanned.driverId)
    · exact .inr ⟨_, if_pos (acceptable.mp inside), rfl, large, inside⟩
    · exact .inl ⟨if_neg (mt acceptable.mpr inside),
        .inr (node.provision_of_not_acceptable inside)⟩

/-- A `node` command is carried out as a whole or not at all. -/
theorem provisionNode_cases (arguments : List UInt8) (stored : StoredFields) :
    ((scanArguments arguments).bind ProvisioningArguments.identity? = none ∧
        program.provisionNode arguments stored = program) ∨
      ∃ identity,
        (scanArguments arguments).bind ProvisioningArguments.identity? = some identity ∧
        TakesIdentity program (program.provisionNode arguments stored) (identity, stored) ∧
        (program.provisionNode arguments stored).firmware.node.configurationChanged = false := by
  cases read : scanArguments arguments with
  | none => exact .inl ⟨rfl, by simp only [provisionNode, read]⟩
  | some scanned =>
      rw [Option.bind_some]
      rcases identity?_eq scanned program.firmware.node with
        ⟨refused, large | unprovisioned⟩ | ⟨identity, accepted, rfl, small, acceptable⟩
      · refine .inl ⟨refused, ?_⟩
        simp only [provisionNode, read]
        rw [if_pos large]
      · refine .inl ⟨refused, ?_⟩
        simp only [provisionNode, read, unprovisioned]
        split <;> rfl
      · refine .inr ⟨_, accepted, ?_⟩
        obtain ⟨provisioned, config, changed⟩ :=
          program.firmware.node.provision_of_acceptable acceptable
        simp only [provisionNode, read]
        rw [if_neg small]
        revert provisioned config changed
        cases program.firmware.node.provision (UInt8.ofNat scanned.address)
            (UInt16.ofNat scanned.type) (UInt16.ofNat scanned.driverId) with
        | mk success node =>
            rintro rfl config changed
            dsimp only at config changed
            unfold persistNodeConfig Firmware.persistNodeConfig MbusNode.takeConfigurationChanged
            dsimp only
            rw [if_pos changed, config]
            exact ⟨⟨rfl, rfl, rfl⟩, rfl⟩

/-! ### Starts -/

variable (driver : DeviceDriver Device) (fromString : List UInt8 → Option UInt32)
  (build : InstalledDriver)

theorem setup_flash (flash : Flash) (device : Device) (boot : BootInput) :
    (setup driver fromString build flash device boot).flash = flash := by
  obtain ⟨device', link, started⟩ := setup_eq driver fromString build flash device boot
  rw [started]
  rfl

/-- A start reads the identity from the flash. -/
theorem setup_node (flash : Flash) (device : Device) (boot : BootInput) :
    (setup driver fromString build flash device boot).firmware.node.config =
        (MbusNode.ofConfig (loadConfig flash)).config ∧
      (setup driver fromString build flash device boot).firmware.node.configurationChanged =
        false := by
  obtain ⟨device', booted⟩ := setup_firmware driver fromString build flash device boot
  rw [booted, Firmware.step, MbusNode.setRegisters_config,
    MbusNode.setRegisters_configurationChanged]
  refine ⟨rfl, ?_⟩
  change (MbusNode.ofConfig (loadConfig flash)).configurationChanged = false
  rw [MbusNode.ofConfig, MbusNode.initializeIdentity, MbusNode.setRegisters_configurationChanged]

/-! ### One event -/

/-- No event of the firmware but provisioning changes the configuration, or marks it. -/
theorem firmware_step_config (driver : IDeviceDriver Device) (firmware : Firmware Device)
    (identified : Identified firmware.node)
    (unchanged : firmware.node.configurationChanged = false) (event : FirmwareEvent)
    (other : ∀ address type driverId, event ≠ .provisionNode address type driverId) :
    (firmware.step driver event).node.config = firmware.node.config ∧
      (firmware.step driver event).node.configurationChanged = false := by
  have written : ∀ words,
      (firmware.node.setRegisters words).config = firmware.node.config ∧
        (firmware.node.setRegisters words).configurationChanged = false := by
    intro words
    rw [MbusNode.setRegisters_config, MbusNode.setRegisters_configurationChanged]
    exact ⟨rfl, unchanged⟩
  cases event with
  | controlLoop input =>
      have isolated := loop_isolated firmware.server input identified.applyConfiguration
      exact ⟨isolated.config, isolated.configurationChanged.trans unchanged⟩
  | restartControl => exact ⟨rfl, unchanged⟩
  | setRockPiAddress address => exact ⟨rfl, unchanged⟩
  | provisionNode address type driverId => exact absurd rfl (other address type driverId)
  | applyCommand nowMs =>
      apply Firmware.applyCommand_node driver fun node =>
        node.config = firmware.node.config ∧ node.configurationChanged = false
      · intro node applied result before
        rwa [MbusNode.setRegisters_config, MbusNode.setRegisters_configurationChanged]
      · exact ⟨rfl, unchanged⟩
  | persistNodeConfig => exact ⟨rfl, rfl⟩
  | publishDriverSample sample => exact written _
  | publishHealthRegisters health => exact written _
  | publishCounters uptimeSeconds cloudConnected => exact written _

/-- What an event does to the identity of the node and to the one in flash. -/
inductive IdentityStep (before : NodeProgram Device) :
    List AcceptedIdentity → NodeProgram Device → Prop
  | same {after} : SameIdentity before after →
      after.firmware.node.configurationChanged = false → IdentityStep before [] after
  | taken {accepted after} : TakesIdentity before after accepted →
      after.firmware.node.configurationChanged = false → IdentityStep before [accepted] after
  | started {flash boot} : flash.node = before.flash.node →
      flash.efuseMac = before.flash.efuseMac →
      IdentityStep before []
        (setup driver fromString build flash before.firmware.device boot)

variable {program}

/-- The line being read is no part of it. -/
theorem IdentityStep.of_serialLine {line : ProvisioningLine} {accepted : List AcceptedIdentity}
    {after : NodeProgram Device}
    (moves : IdentityStep driver fromString build { program with serialLine := line } accepted
      after) : IdentityStep driver fromString build program accepted after := by
  cases moves with
  | same same cleared => exact .same ⟨same.flashNode, same.efuseMac, same.config⟩ cleared
  | taken takes cleared => exact .taken ⟨takes.flashNode, takes.efuseMac, takes.config⟩ cleared
  | started node efuseMac => exact .started node efuseMac

theorem processProvisioningLine_identity
    (unchanged : program.firmware.node.configurationChanged = false) (calls : ProvisioningCalls)
    (stored : StoredFields) (boot : BootInput) (command : ProvisioningCommand) :
    IdentityStep driver fromString build program
      (command.identity?.map fun identity => (identity, stored)).toList
      (program.processProvisioningLine driver fromString build calls stored boot command) := by
  have restarted : ∀ (command : ProvisioningCommand) (executed : NodeProgram Device),
      executed = { program with
        flash.control := program.flash.control.execute fromString calls command } →
      IdentityStep driver fromString build program []
        (if restarts calls command then executed.restart driver fromString build boot
          else executed) := by
    rintro command _ rfl
    split
    · exact .started rfl rfl
    · exact .same ⟨rfl, rfl, rfl⟩ unchanged
  cases command with
  | node arguments =>
      rcases program.provisionNode_cases arguments stored with
        ⟨refused, same⟩ | ⟨identity, accepted, takes, cleared⟩
      · rw [ProvisioningCommand.identity?, refused, processProvisioningLine, same]
        exact .same (.refl program) unchanged
      · rw [ProvisioningCommand.identity?, accepted, processProvisioningLine]
        exact .taken takes cleared
  | rockPi value =>
      cases read : fromString value with
      | none =>
          simp only [processProvisioningLine, read]
          exact .same (.refl program) unchanged
      | some address =>
          simp only [processProvisioningLine, read]
          split
          · exact .same (.refl program) unchanged
          · exact .same ⟨rfl, rfl, rfl⟩ unchanged
  | help => exact .same ⟨rfl, rfl, rfl⟩ unchanged
  | status => exact .same ⟨rfl, rfl, rfl⟩ unchanged
  | unsupported => exact .same ⟨rfl, rfl, rfl⟩ unchanged
  | otaClear => exact restarted .otaClear _ rfl
  | otaKey token => exact restarted (.otaKey token) _ rfl

theorem pollDriver_identity
    (unchanged : program.firmware.node.configurationChanged = false) (nowMs laterMs : UInt32)
    (mqttConnected : Bool) :
    SameIdentity program (program.pollDriver driver nowMs laterMs mqttConnected) ∧
      (program.pollDriver driver nowMs laterMs mqttConnected).firmware.node.configurationChanged =
        false := by
  unfold pollDriver
  split
  · exact ⟨.refl program, unchanged⟩
  · obtain ⟨device, polled⟩ := program.pollSample_eq driver
    unfold publishHealthRegisters Firmware.step
    dsimp only
    rw [polled]
    refine ⟨⟨rfl, rfl, ?_⟩, ?_⟩
    · rw [MbusNode.setRegisters_config, MbusNode.setRegisters_config,
        MbusNode.setRegisters_config]
      rfl
    · rw [MbusNode.setRegisters_configurationChanged, MbusNode.setRegisters_configurationChanged,
        MbusNode.setRegisters_configurationChanged]
      exact unchanged

theorem step_identity (identified : Identified program.firmware.node)
    (unchanged : program.firmware.node.configurationChanged = false) (event : NodeEvent) :
    IdentityStep driver fromString build program (program.acceptedIdentity event)
      (program.step driver fromString build event) := by
  have moved : ∀ moved : FirmwareEvent,
      (∀ address type driverId, moved ≠ .provisionNode address type driverId) →
      ∀ after : NodeProgram Device, after.flash = program.flash →
        after.firmware = program.firmware.step driver.toIDeviceDriver moved →
        IdentityStep driver fromString build program [] after := by
    intro moved other after flash firmware
    obtain ⟨config, cleared⟩ := firmware_step_config driver.toIDeviceDriver program.firmware
      identified unchanged moved other
    refine .same ⟨?_, ?_, ?_⟩ ?_
    · rw [flash]
    · rw [flash]
    · rw [firmware, config]
    · rw [firmware, cleared]
  cases event with
  | serial value calls stored boot =>
      unfold step serial acceptedIdentity
      dsimp only
      cases pushed : (program.serialLine.push value).1 with
      | none => exact .same ⟨rfl, rfl, rfl⟩ unchanged
      | some raw =>
          exact (@processProvisioningLine_identity Device
            { program with serialLine := (program.serialLine.push value).2 } driver fromString build
            unchanged calls stored boot (.ofLine raw)).of_serialLine
  | controlLoop input => exact moved (.controlLoop input) (by simp) _ rfl rfl
  | restartControl =>
      unfold step acceptedIdentity
      dsimp only
      split
      · exact moved .restartControl (by simp) _ rfl rfl
      · exact .same (.refl program) unchanged
  | applyCommand nowMs => exact moved (.applyCommand nowMs) (by simp) _ rfl rfl
  | persistNodeConfig stored =>
      refine moved .persistNodeConfig (by simp) _ ?_ rfl
      unfold step persistNodeConfig MbusNode.takeConfigurationChanged
      dsimp only
      rw [unchanged]
      rfl
  | superviseDeviceBus nowMs busInitialized =>
      unfold step superviseDeviceBus acceptedIdentity
      dsimp only
      split
      · exact .same (.refl program) unchanged
      · obtain ⟨device, readied⟩ := readyDriver_eq driver
          { program with lastBusRecoveryMs := nowMs } busInitialized
        rw [readied]
        exact .same ⟨rfl, rfl, rfl⟩ unchanged
  | pollDriver nowMs laterMs mqttConnected =>
      obtain ⟨same, cleared⟩ :=
        pollDriver_identity driver unchanged nowMs laterMs mqttConnected
      exact .same same cleared
  | publishCloud nowMs laterMs =>
      unfold step acceptedIdentity
      dsimp only
      split
      · exact .same ⟨rfl, rfl, rfl⟩ unchanged
      · exact .same (.refl program) unchanged
  | ethernet event =>
      cases event with
      | gotIp => exact .same ⟨rfl, rfl, rfl⟩ unchanged
      | disconnected => exact .same ⟨rfl, rfl, rfl⟩ unchanged
  | restart boot => exact .started rfl rfl

/-! ### Runs -/

theorem acceptable_of_mem_acceptedIdentity {event : NodeEvent} {entry : AcceptedIdentity}
    (member : entry ∈ program.acceptedIdentity event) :
    MbusNode.Acceptable entry.1.address.toUInt16 entry.1.type entry.1.driverId := by
  cases event with
  | serial value calls stored boot =>
      rw [acceptedIdentity, Option.mem_toList, Option.map_eq_some_iff] at member
      obtain ⟨identity, told, rfl⟩ := member
      obtain ⟨raw, -, told⟩ := Option.bind_eq_some_iff.mp told
      revert told
      cases ProvisioningCommand.ofLine raw with
      | node arguments =>
          intro told
          obtain ⟨scanned, -, told⟩ := Option.bind_eq_some_iff.mp told
          rcases identity?_eq scanned program.firmware.node with
            ⟨refused, -⟩ | ⟨_, accepted, -, -, acceptable⟩
          · rw [refused] at told
            cases told
          · rw [accepted] at told
            cases told
            exact acceptable
      | _ =>
          intro told
          cases told
  | _ => exact absurd member List.not_mem_nil

/-- What a run has left of the identity, in the node and in flash. -/
structure Remembers (flash : Flash) (program : NodeProgram Device)
    (accepted : List AcceptedIdentity) : Prop where
  identified : Identified program.firmware.node
  unchanged : program.firmware.node.configurationChanged = false
  keeps : flash.Keeps program.flash accepted
  acceptable : ∀ entry ∈ accepted,
    MbusNode.Acceptable entry.1.address.toUInt16 entry.1.type entry.1.driverId
  config : (∀ entry ∈ accepted, entry.2.Complete) →
    program.firmware.node.config = currentConfig flash accepted

/-- When every write has succeeded a start reads back what the node was last told. -/
theorem loadConfig_of_keeps {flash kept : Flash} {accepted : List AcceptedIdentity}
    (keeps : flash.Keeps kept accepted)
    (acceptable : ∀ entry ∈ accepted,
      MbusNode.Acceptable entry.1.address.toUInt16 entry.1.type entry.1.driverId)
    (complete : ∀ entry ∈ accepted, entry.2.Complete) :
    (MbusNode.ofConfig (loadConfig kept)).config = currentConfig flash accepted := by
  obtain ⟨address, type, driverId, efuseMac⟩ := keeps
  cases accepted using List.reverseRecOn with
  | nil =>
      have same : loadConfig kept = loadConfig flash := by
        unfold loadConfig
        rw [address, type, driverId, efuseMac]
        rfl
      rw [same]
      rfl
  | append_singleton earlier last =>
      have member : last ∈ earlier ++ [last] := List.mem_append_right _ List.mem_cons_self
      obtain ⟨addressStored, typeStored, driverIdStored⟩ := complete last member
      rw [latest_append, if_pos addressStored] at address
      rw [latest_append, if_pos typeStored] at type
      rw [latest_append, if_pos driverIdStored] at driverId
      have read : loadConfig kept = (loadConfig flash).withIdentity last.1 := by
        unfold loadConfig NodeConfig.withIdentity
        rw [address, type, driverId, efuseMac]
      have nonzero : last.1.address ≠ 0 := by
        intro zero
        have low := (acceptable last member).1
        rw [zero] at low
        exact absurd low (by decide)
      have named : ((loadConfig flash).withIdentity last.1).address ≠ 0 := nonzero
      rw [currentConfig, List.getLast?_append_of_ne_nil _ (List.cons_ne_nil _ _), read,
        MbusNode.ofConfig, MbusNode.initializeIdentity, MbusNode.setRegisters_config, if_neg named]
      rfl

theorem remembers_setup (flash : Flash) (device : Device) (boot : BootInput) :
    Remembers flash (setup driver fromString build flash device boot) [] where
  identified := identified_setup driver fromString build flash device boot
  unchanged := (setup_node driver fromString build flash device boot).2
  keeps := by
    rw [setup_flash]
    exact ⟨rfl, rfl, rfl, rfl⟩
  acceptable _ member := absurd member List.not_mem_nil
  config _ := (setup_node driver fromString build flash device boot).1

theorem Remembers.step {flash : Flash} {accepted : List AcceptedIdentity}
    (remembers : Remembers flash program accepted) (event : NodeEvent) :
    Remembers flash (program.step driver fromString build event)
      (accepted ++ program.acceptedIdentity event) := by
  have moves := step_identity driver fromString build remembers.identified remembers.unchanged event
  have fresh := fun entry => @acceptable_of_mem_acceptedIdentity Device program event entry
  have identified := identified_step driver fromString build remembers.identified event
  revert moves fresh identified
  generalize program.step driver fromString build event = after
  generalize program.acceptedIdentity event = added
  intro moves fresh identified
  have keeps := remembers.keeps
  cases moves with
  | same same cleared =>
      rw [List.append_nil]
      refine ⟨identified, cleared, ?_, remembers.acceptable, fun complete => ?_⟩
      · exact keeps.of_same same.flashNode same.efuseMac
      · rw [same.config, remembers.config complete]
  | @taken entry after takes cleared =>
      refine ⟨identified, cleared, ?_, ?_, fun complete => ?_⟩
      · constructor
        · rw [takes.flashNode, latest_append, ← keeps.address]
          rfl
        · rw [takes.flashNode, latest_append, ← keeps.type]
          rfl
        · rw [takes.flashNode, latest_append, ← keeps.driverId]
          rfl
        · rw [takes.efuseMac, keeps.efuseMac]
      · intro other member
        rcases List.mem_append.mp member with earlier | last
        · exact remembers.acceptable other earlier
        · exact fresh other last
      · have config := remembers.config fun other earlier =>
          complete other (List.mem_append_left _ earlier)
        rw [takes.config, config, currentConfig_withIdentity, currentConfig,
          List.getLast?_append_of_ne_nil _ (List.cons_ne_nil _ _), List.getLast?_singleton]
  | @started flash' boot node efuseMac =>
      have read : loadConfig flash' = loadConfig program.flash := by
        unfold loadConfig
        rw [node, efuseMac]
      rw [List.append_nil]
      obtain ⟨config, cleared⟩ := setup_node driver fromString build flash' program.firmware.device
        boot
      refine ⟨identified, cleared, ?_, remembers.acceptable, fun complete => ?_⟩
      · rw [setup_flash]
        exact keeps.of_same node efuseMac
      · rw [config, read]
        exact loadConfig_of_keeps keeps remembers.acceptable complete

theorem remembers_run (flash : Flash) (device : Device) (boot : BootInput)
    (events : List NodeEvent) :
    Remembers flash
      (run (step driver fromString build) (setup driver fromString build flash device boot) events)
      (outputs (step driver fromString build) acceptedIdentity
        (setup driver fromString build flash device boot) events) := by
  induction events using List.reverseRecOn with
  | nil => exact remembers_setup driver fromString build flash device boot
  | append_singleton events event inductionHypothesis =>
      rw [run_append, outputs_append]
      dsimp only [run_cons, run_nil, outputs]
      rw [List.append_nil]
      exact inductionHypothesis.step driver fromString build event

/-- In every run, with restarts anywhere: each field of the identity in flash is the one
that was last written, every identity taken is in bounds, and the identity registers show
the configuration. Unless a write has failed, the node is what it was last told to be, and
a restart at any moment leaves it so. -/
theorem identity_survives_restarts (flash : Flash) (device : Device) (boot : BootInput)
    (events : List NodeEvent) :
    let start := setup driver fromString build flash device boot
    let reached := run (step driver fromString build) start events
    let accepted := outputs (step driver fromString build) acceptedIdentity start events
    flash.Keeps reached.flash accepted ∧
      (∀ entry ∈ accepted,
        MbusNode.Acceptable entry.1.address.toUInt16 entry.1.type entry.1.driverId) ∧
      Identified reached.firmware.node ∧
      ((∀ entry ∈ accepted, entry.2.Complete) →
        reached.firmware.node.config = currentConfig flash accepted ∧
          ∀ boot, (reached.restart driver fromString build boot).firmware.node.config =
            currentConfig flash accepted) := by
  intro start reached accepted
  have remembers : Remembers flash reached accepted :=
    remembers_run driver fromString build flash device boot events
  refine ⟨remembers.keeps, remembers.acceptable, remembers.identified, fun complete => ?_⟩
  refine ⟨remembers.config complete, fun again => ?_⟩
  rw [restart, (setup_node driver fromString build reached.flash reached.firmware.device again).1]
  exact loadConfig_of_keeps remembers.keeps remembers.acceptable complete

end Identity

end NodeProgram

end GridexEdge.Node
