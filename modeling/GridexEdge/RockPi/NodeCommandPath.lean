import GridexEdge.Node.PendingCommand
import GridexEdge.RockPi.NodePassthrough
import GridexEdge.RockPi.NodeRequests

/-!
A node command on its way from the northbound registers to the driver of a node.

The main loop takes it out of its mailbox, the client of the slot writes it into the
window of the node, and the supervisor of the node executes it. Anything else may
happen in between, and the connection may fail at any byte.
-/

namespace GridexEdge.Node

open Foundation EthernetControlServer

/-! ### The endpoint keeps its unit -/

theorem EthernetControlServer.unitId_processFrames (server : EthernetControlServer)
    (node : MbusNode) : (server.processFrames node).2.1.unitId = server.unitId := by
  induction server, node using EthernetControlServer.processFrames.induct with
  | case1 server node short => rw [processFrames, if_pos short]
  | case2 server node long protocolLength total outside =>
      rw [processFrames, if_neg long, if_pos outside]
  | case3 server node long protocolLength total inside incomplete =>
      rw [processFrames, if_neg long, if_neg inside, if_pos incomplete]
  | case4 server node long protocolLength total inside complete handled inductionHypothesis =>
      rw [processFrames, if_neg long, if_neg inside, if_neg complete]
      exact inductionHypothesis

theorem EthernetControlServer.unitId_loop (server : EthernetControlServer) (node : MbusNode)
    (input : ControlInput) : (server.loop node input).2.1.unitId = server.unitId := by
  have accepted : (server.acceptClient input).unitId = server.unitId := by
    unfold acceptClient
    split
    · rfl
    · split
      · rfl
      · split <;> rfl
  have processed := unitId_processFrames ((server.acceptClient input).readAvailable input) node
  unfold EthernetControlServer.loop
  dsimp only
  split
  · exact accepted
  · split
    · exact processed.trans accepted
    · exact processed.trans accepted

theorem Firmware.unitId_step {Device : Type} (driver : IDeviceDriver Device)
    (firmware : Firmware Device) (event : FirmwareEvent) :
    (firmware.step driver event).server.unitId = firmware.server.unitId := by
  cases event with
  | controlLoop input => exact unitId_loop _ _ _
  | provisionNode address type driverId => rw [step, provisionNode_server]
  | applyCommand nowMs => rw [step, applyCommand_server]
  | _ => rfl

/-- The four words of the command window. -/
def MbusNode.window (node : MbusNode) : List UInt16 := windowAddresses.map node.registerValue

/-- A write of the whole window. -/
theorem MbusNode.window_storeRange (node : MbusNode) (sequence power enable ttl : UInt16) :
    (node.storeRange 0x14 [sequence, power, enable, ttl]).window =
      [sequence, power, enable, ttl] := by
  have word : ∀ (index : Nat) (address : UInt16) (value : UInt16),
      address.toNat = 0x14 + index → [sequence, power, enable, ttl][index]? = some value →
        (node.storeRange 0x14 [sequence, power, enable, ttl]).registerValue address = value := by
    intro index address value place listed
    have short := (List.getElem?_eq_some_iff.mp listed).1
    have four : [sequence, power, enable, ttl].length = 4 := rfl
    have start : (0x14 : UInt16).toNat = 0x14 := rfl
    rw [four] at short
    rw [registerValue_storeRange, dif_pos (by omega)]
    have offset : address.toNat - (0x14 : UInt16).toNat = index := by omega
    simp only [offset]
    exact (List.getElem?_eq_some_iff.mp listed).2
  simp only [window, windowAddresses, List.map_cons, List.map_nil]
  rw [word 0 Reg.commandSequence sequence rfl rfl, word 1 Reg.requestedPowerKwX10 power rfl rfl,
    word 2 Reg.commandEnable enable rfl rfl, word 3 Reg.commandTtlSeconds ttl rfl rfl]

/-- The command that these words make when the supervisor finds them. -/
def commandOfWords (sequence power enable ttl : UInt16) : List PowerCommand :=
  if enable = 1 ∧ 1 ≤ ttl ∧ ttl ≤ 30 then
    [{ sequence := sequence
       powerKwX10 := power.toInt16
       ttlSeconds := ttl }]
  else []

/-- It waits there unless its sequence is the last one. -/
theorem Firmware.pending_sublist_of_window {Device : Type} {firmware : Firmware Device}
    {sequence power enable ttl : UInt16}
    (shown : firmware.node.window = [sequence, power, enable, ttl]) :
    firmware.pending.Sublist (commandOfWords sequence power enable ttl) := by
  simp only [MbusNode.window, windowAddresses, List.map_cons, List.map_nil, List.cons.injEq,
    and_true] at shown
  obtain ⟨first, second, third, fourth⟩ := shown
  unfold pending commandOfWords
  split
  · next waiting =>
      obtain ⟨-, enabled, ttlValid⟩ := waiting
      rw [Firmware.enabled, third, beq_iff_eq] at enabled
      rw [Firmware.ttlValid, Bool.and_eq_true, decide_eq_true_eq, decide_eq_true_eq,
        Firmware.ttlSeconds, fourth] at ttlValid
      rw [if_pos ⟨enabled, ttlValid⟩, Firmware.sequence, Firmware.requested, Firmware.ttlSeconds,
        first, second, fourth]
  · exact List.nil_sublist _

end GridexEdge.Node

namespace GridexEdge.RockPi

open GridexEdge.Core Foundation Node

variable {Device : Type}

/-! ### The node behind a slot -/

namespace NodeSite

variable (site : NodeSite Device)

/-- What the supervisor has given to the driver as new commands. -/
def executed (log : List FirmwareEvent) : List PowerCommand :=
  outputs (Firmware.step site.driver) Firmware.executes (Firmware.boot site.config site.device) log

/-- What was executed, and what waits to be, was sent before and in this order. -/
def Fed (sent : List PowerCommand) (log : List FirmwareEvent) : Prop :=
  (site.executed log ++ (site.firmware log).pending).Sublist sent

theorem executed_append (log : List FirmwareEvent) (event : FirmwareEvent) :
    site.executed (log ++ [event]) =
      site.executed log ++ Firmware.executes (site.firmware log) event := by
  rw [executed, outputs_append]
  congr 1
  exact List.append_nil _

theorem unitId_firmware (log : List FirmwareEvent) : (site.firmware log).server.unitId = 1 :=
  run_invariant (Firmware.step site.driver) (fun firmware => firmware.server.unitId = 1)
    (fun firmware event same => (firmware.unitId_step site.driver event).trans same) rfl log

theorem steady_fed (sent : List PowerCommand) : Steady site (site.Fed sent) where
  own log event other fed := by
    unfold Fed
    rw [executed_append, firmware_append, List.append_assoc,
      Firmware.executes_append_pending site.driver event other]
    exact fed
  idle log input same fed := by
    rw [firmware_append] at same
    unfold Fed
    rw [executed_append, firmware_append, Firmware.pending_controlLoop site.driver input same]
    have nothing : Firmware.executes (site.firmware log) (.controlLoop input) = [] := rfl
    rw [nothing, List.append_nil]
    exact fed

theorem fed_start : site.Fed [] [] := by
  have blank : (site.firmware []).sequence = 0 := by
    change (MbusNode.ofConfig site.config).registerValue Reg.commandSequence = 0
    unfold MbusNode.ofConfig MbusNode.initializeIdentity
    rw [MbusNode.registerValue_setRegisters_of_not_mem _ (by simp +decide)]
    rfl
  have seen : (site.firmware []).lastCommandSequence = 0 := rfl
  have nothing : (site.firmware []).pending = [] := by
    rw [Firmware.pending, blank, seen, if_neg fun waiting => waiting.1 rfl]
  unfold Fed
  rw [nothing]
  exact List.Sublist.refl _

/-- A handled write of the window shows its words. -/
theorem window_of_handled {transaction : UInt16} {log : List FirmwareEvent} {input : ControlInput}
    {sequence power enable ttl : UInt16}
    (handled : site.HandledIn (Mbap.adu transaction 1
      (MbusNode.writeRequest 0x14 [sequence, power, enable, ttl])) log input) :
    (site.firmware (log ++ [.controlLoop input])).node.window = [sequence, power, enable, ttl] := by
  have serves := site.serves log
  have inside : EthernetControlServer.InWindow 0x14 [sequence, power, enable, ttl] := by
    refine ⟨Nat.le_refl _, by simp, ?_⟩
    have start : (0x14 : UInt16).toNat = 0x14 := rfl
    rw [start]
    simp
  rw [handled, site.unitId_firmware, EthernetControlServer.handle_writeRequest 1 serves.unicast
    serves.keyless transaction (by simp) (by simp), EthernetControlServer.writeOutcome,
    if_pos inside]
  exact MbusNode.window_storeRange _ _ _ _ _

theorem fed_of_handled {transaction : UInt16} {log : List FirmwareEvent} {input : ControlInput}
    {sequence power enable ttl : UInt16} {sent : List PowerCommand}
    (handled : site.HandledIn (Mbap.adu transaction 1
      (MbusNode.writeRequest 0x14 [sequence, power, enable, ttl])) log input)
    (fed : site.Fed sent log) :
    site.Fed (sent ++ commandOfWords sequence power enable ttl)
      (log ++ [.controlLoop input]) := by
  have nothing : Firmware.executes (site.firmware log) (.controlLoop input) = [] := rfl
  unfold Fed
  rw [executed_append, nothing, List.append_nil]
  apply List.Sublist.append
  · exact (List.sublist_append_left _ _).trans fed
  · exact Firmware.pending_sublist_of_window (site.window_of_handled handled)

end NodeSite

/-! ### The mailbox and the loop -/

/-- What else the gateway does: polls, copies, publications, writes from the north and
the other mailboxes. -/
def NodeGatewayEvent.isBackground : NodeGatewayEvent → Bool
  | .applyPowerCommand _ _ _ _ _ => false
  | .perform .takeNodeCommand => false
  | _ => true

inductive NodeCommandEvent where
  | takeNodeCommand
  | background (event : NodeGatewayEvent) (kind : event.isBackground = true)

/-- The authorised command for this slot in the registers of the mailbox. -/
def NorthboundRegisterBank.nodeOrder (bank : NorthboundRegisterBank) (slot : Nat) :
    List PowerCommand :=
  if (bank.holdingRegister Holding.nodeCommandTargetSlot).toNat = slot ∧
      bank.holdingRegister Holding.nodeCommandApplyKey = Northbound.operatorApplyKeyValue then
    commandOfWords (bank.holdingRegister Holding.nodeCommandSequence)
      (bank.holdingRegister Holding.nodeRequestedPowerKwX10)
      (bank.holdingRegister Holding.nodeCommandEnable)
      (bank.holdingRegister Holding.nodeCommandTtlSeconds)
  else []

/-- The words a command is sent as. -/
def NorthboundRegisterBank.nodeCommandWords (bank : NorthboundRegisterBank) : List UInt16 :=
  [bank.holdingRegister Holding.nodeCommandSequence,
    bank.holdingRegister Holding.nodeRequestedPowerKwX10,
    if bank.holdingRegister Holding.nodeCommandEnable == 1 then 1 else 0,
    bank.holdingRegister Holding.nodeCommandTtlSeconds]

namespace NodeGateway

variable (gateway : NodeGateway Device)

/-- Every endpoint of the service is unit one. -/
def ofSites (sites : List (NodeSite Device)) : NodeGateway Device :=
  start (sites.map fun site => (1, site))

/-- The branch of the main loop for a node command, with what it prints as accepted. -/
def handleNodeCommand : Bool × NodeGateway Device :=
  match gateway.bank.takeNodeCommand with
  | (none, bank) => (false, { gateway with bank := bank })
  | (some command, bank) =>
      if command.authorized then
        let applied := gateway.polling.applyPowerCommand liveNetwork command.targetSlot
          command.requestedPowerKw command.enabled command.sequence command.ttlSeconds
        (applied.1, { gateway with
          bank := bank
          polling.toNodeTcpPollingService := applied.2 })
      else (false, { gateway with bank := bank })

def commandStep : NodeCommandEvent → NodeGateway Device
  | .takeNodeCommand => gateway.handleNodeCommand.2
  | .background event _ => gateway.step event

/-- The command for this slot that a take of the mailbox delivers. -/
def orders (slot : Nat) : NodeGateway Device → NodeCommandEvent → List PowerCommand
  | gateway, .takeNodeCommand =>
      if gateway.bank.takeNodeCommand.1.isSome then gateway.bank.nodeOrder slot else []
  | _, .background _ _ => []

/-- A take sends nothing, or it sends its words to the slot they are for. -/
theorem handleNodeCommand_cases :
    (gateway.handleNodeCommand.1 = false ∧
        gateway.handleNodeCommand.2.polling = gateway.polling) ∨
      ∃ client, gateway.bank.takeNodeCommand.1.isSome = true ∧
        gateway.bank.holdingRegister Holding.nodeCommandApplyKey =
          Northbound.operatorApplyKeyValue ∧
        1 ≤ gateway.bank.holdingRegister Holding.nodeCommandTtlSeconds ∧
        gateway.bank.holdingRegister Holding.nodeCommandTtlSeconds ≤ 30 ∧
        gateway.polling.clients[
          (gateway.bank.holdingRegister Holding.nodeCommandTargetSlot).toNat]? = some client ∧
        gateway.handleNodeCommand.1 =
          (client.writeHoldingRange liveNetwork 0x14 gateway.bank.nodeCommandWords).1 ∧
        gateway.handleNodeCommand.2.polling.clients = gateway.polling.clients.set
          (gateway.bank.holdingRegister Holding.nodeCommandTargetSlot).toNat
          (client.writeHoldingRange liveNetwork 0x14 gateway.bank.nodeCommandWords).2 := by
  unfold handleNodeCommand NorthboundRegisterBank.takeNodeCommand
  dsimp only
  by_cases idle : (gateway.bank.nodeCommandObserved &&
      gateway.bank.holding[Holding.nodeCommandSequence] ==
        gateway.bank.lastNodeCommandSequence) = true
  · rw [if_pos idle]
    exact .inl ⟨rfl, rfl⟩
  · rw [if_neg idle]
    dsimp only
    by_cases authorized : (gateway.bank.holding[Holding.nodeCommandApplyKey] ==
        Northbound.operatorApplyKeyValue) = true
    · rw [if_pos authorized]
      cases configured : gateway.polling.clients[
          gateway.bank.holding[Holding.nodeCommandTargetSlot].toNat]? with
      | none =>
          rw [NodeTcpPollingService.applyPowerCommand, configured]
          exact .inl ⟨rfl, rfl⟩
      | some client =>
          by_cases ttlValid : 1 ≤ gateway.bank.holding[Holding.nodeCommandTtlSeconds] ∧
              gateway.bank.holding[Holding.nodeCommandTtlSeconds] ≤ 30
          · have applied := @NodeTcpPollingService.applyPowerCommand_of_grid _ liveNetwork _ _ _
              configured gateway.bank.holding[Holding.nodeRequestedPowerKwX10].toInt16
              (gateway.bank.holding[Holding.nodeCommandEnable] == 1)
              gateway.bank.holding[Holding.nodeCommandSequence] _ ttlValid
            rw [UInt16.toUInt16_toInt16] at applied
            unfold signed
            rw [applied]
            exact .inr ⟨client, rfl, beq_iff_eq.mp authorized, ttlValid.1, ttlValid.2, rfl, rfl,
              rfl⟩
          · rw [NodeTcpPollingService.applyPowerCommand, configured]
            dsimp only
            rw [if_pos]
            · exact .inl ⟨rfl, rfl⟩
            · rw [← UInt16.not_le, ← UInt16.not_le]
              tauto
    · rw [if_neg authorized]
      exact .inl ⟨rfl, rfl⟩

/-! ### One slot -/

/-- The client of the slot is between calls, and its node has the property. -/
def SlotHolds (slot : Nat) (site : NodeSite Device) (Property : List FirmwareEvent → Prop) : Prop :=
  ∃ client, gateway.polling.clients[slot]? = some client ∧ client.Resting ∧ client.unitId = 1 ∧
    client.world.site = site ∧ Property client.world.log

section Slots

open PosixModbusTcpClient

variable {gateway} {slot : Nat} {site : NodeSite Device} {Property : List FirmwareEvent → Prop}

theorem pollSample_steady {client : PosixModbusTcpClient (LiveNode Device)}
    (sample : MbusNodeTelemetry) (steadyNow : SteadyTime) (systemNow : Int)
    (resting : client.Resting) (steady : Steady client.world.site Property)
    (held : Property client.world.log) :
    let polled := (NodePollingService.pollSample liveNetwork client sample steadyNow systemNow).2
    Property polled.world.log ∧ polled.Resting := by
  intro polled
  have identified := (pollSample_ended sample steadyNow systemNow resting.quiet).quiet
  obtain ⟨first, firstResting⟩ := readHoldingRange_steady resting
    NodePollingService.identityStart NodePollingService.identityCount steady held
  have firstSite := (readHoldingRange_outcome resting.quiet NodePollingService.identityStart
    NodePollingService.identityCount).1.follows.site
  rw [← firstSite] at steady
  obtain ⟨second, secondResting⟩ := readHoldingRange_steady firstResting
    NodePollingService.telemetryStart NodePollingService.telemetryCount steady first
  have secondSite := (readHoldingRange_outcome firstResting.quiet
    NodePollingService.telemetryStart NodePollingService.telemetryCount).1.follows.site
  rw [← secondSite] at steady
  obtain ⟨third, thirdResting⟩ := readHoldingRange_steady secondResting
    NodePollingService.healthStart NodePollingService.healthCount steady second
  rcases NodePollingService.pollSample_cases liveNetwork client sample steadyNow systemNow with
    ⟨status, failed⟩ | ⟨status, failed⟩ | ⟨identity, telemetry, -, -, succeeded⟩
  · have same : polled = (NodePollingService.readIdentity liveNetwork client).2 :=
      congrArg Prod.snd failed
    rw [same]
    exact ⟨first, firstResting⟩
  · have same : polled = (NodePollingService.readTelemetry liveNetwork
        (NodePollingService.readIdentity liveNetwork client).2).2 := congrArg Prod.snd failed
    rw [same]
    exact ⟨second, secondResting⟩
  · have same : polled = (NodePollingService.readHealth liveNetwork
        (NodePollingService.readTelemetry liveNetwork
          (NodePollingService.readIdentity liveNetwork client).2).2).2 :=
      congrArg Prod.snd succeeded
    rw [same]
    exact ⟨third, thirdResting⟩

theorem slotHolds_background (steady : Steady site Property)
    (holds : gateway.SlotHolds slot site Property) {event : NodeGatewayEvent}
    (kind : event.isBackground = true) : (gateway.step event).SlotHolds slot site Property := by
  obtain ⟨client, found, resting, unit, rfl, held⟩ := holds
  have same : gateway.SlotHolds slot client.world.site Property :=
    ⟨client, found, resting, unit, rfl, held⟩
  cases event with
  | pollNode polled steadyNow systemNow =>
      unfold step NodePollingService.pollNode
      dsimp only
      split
      · next before sample heldClient _ =>
          by_cases own : polled = slot
          · subst own
            rw [found] at heldClient
            obtain rfl := Option.some.inj heldClient
            have inside := (List.getElem?_eq_some_iff.mp found).1
            have ended := pollSample_ended sample steadyNow systemNow resting.quiet
            obtain ⟨later, laterResting⟩ :=
              pollSample_steady sample steadyNow systemNow resting steady held
            exact ⟨_, List.getElem?_set_self inside, laterResting, ended.unit.trans unit,
              ended.follows.site, later⟩
          · exact ⟨client, (List.getElem?_set_ne own).trans found, resting, unit, rfl, held⟩
      · exact same
  | applyPowerCommand commanded requestedPowerKw enabled sequence ttlSeconds =>
      exact absurd kind Bool.false_ne_true
  | samples => exact same
  | publishNode now published =>
      unfold step
      dsimp only
      split
      · exact same
      · exact same
  | perform operation => exact same

/-- A command for another slot leaves this one alone; its own is handled at most once. -/
theorem slotHolds_handleNodeCommand {Before After : List FirmwareEvent → Prop}
    (before : Steady site Before) (after : Steady site After)
    (handled : gateway.bank.takeNodeCommand.1.isSome = true →
      gateway.bank.holdingRegister Holding.nodeCommandApplyKey =
        Northbound.operatorApplyKeyValue →
      (gateway.bank.holdingRegister Holding.nodeCommandTargetSlot).toNat = slot →
      ∀ transaction log input, site.HandledIn (Mbap.adu transaction 1
        (MbusNode.writeRequest 0x14 gateway.bank.nodeCommandWords)) log input →
        Before log → After (log ++ [.controlLoop input]))
    (holds : gateway.SlotHolds slot site Before) :
    (gateway.handleNodeCommand.2.SlotHolds slot site Before ∨
        gateway.handleNodeCommand.2.SlotHolds slot site After) ∧
      (gateway.handleNodeCommand.1 = true →
        (gateway.bank.holdingRegister Holding.nodeCommandTargetSlot).toNat = slot →
          gateway.handleNodeCommand.2.SlotHolds slot site After) := by
  obtain ⟨client, found, resting, unit, rfl, held⟩ := holds
  rcases gateway.handleNodeCommand_cases with
    ⟨refused, same⟩ | ⟨sender, taken, authorized, -, -, configured, accepted, clients⟩
  · refine ⟨.inl ?_, fun wrong => absurd wrong (by simp [refused])⟩
    unfold SlotHolds
    rw [same]
    exact ⟨client, found, resting, unit, rfl, held⟩
  · unfold SlotHolds
    rw [clients, accepted]
    by_cases own : (gateway.bank.holdingRegister Holding.nodeCommandTargetSlot).toNat = slot
    · rw [own, found] at configured
      obtain rfl := Option.some.inj configured
      have inside := (List.getElem?_eq_some_iff.mp found).1
      have nonempty : gateway.bank.nodeCommandWords ≠ [] := List.cons_ne_nil _ _
      have short : gateway.bank.nodeCommandWords.length ≤ 123 := by
        simp [NorthboundRegisterBank.nodeCommandWords]
      have ended := writeHoldingRange_ended resting.quiet 0x14 gateway.bank.nodeCommandWords
      have handled := handled taken authorized own
      rw [← unit] at handled
      obtain ⟨laterResting, once, replied⟩ :=
        writeHoldingRange_once resting nonempty short before after handled held
      rw [own]
      have carried : ∀ {Later : List FirmwareEvent → Prop},
          Later (client.writeHoldingRange liveNetwork 0x14
            gateway.bank.nodeCommandWords).2.world.log →
          ∃ later, (gateway.polling.clients.set slot
              (client.writeHoldingRange liveNetwork 0x14 gateway.bank.nodeCommandWords).2)[slot]? =
                some later ∧ later.Resting ∧ later.unitId = 1 ∧
              later.world.site = client.world.site ∧ Later later.world.log :=
        fun later => ⟨_, List.getElem?_set_self inside, laterResting, ended.unit.trans unit,
          ended.follows.site, later⟩
      exact ⟨once.imp carried carried, fun success _ => carried (replied success)⟩
    · refine ⟨.inl ⟨client, (List.getElem?_set_ne own).trans found, resting, unit, rfl, held⟩,
        fun _ wrong => absurd wrong own⟩

theorem slotHolds_start {sites : List (NodeSite Device)} (configured : sites[slot]? = some site)
    (held : Property []) : (ofSites sites).SlotHolds slot site Property := by
  refine ⟨{ unitId := 1, world := { site := site } }, ?_, ⟨?_, ?_⟩, rfl, rfl, held⟩
  · simp [ofSites, start, NodePollingService.ofEndpoints, configured]
  · exact fun open_ => absurd open_ (by simp)
  · exact LiveNode.settled_of_empty (.inr rfl)

theorem SlotHolds.log (holds : gateway.SlotHolds slot site Property) :
    Property (gateway.log slot) := by
  obtain ⟨client, found, -, -, -, held⟩ := holds
  rw [NodeGateway.log, found]
  exact held

theorem length_clients_step (gateway : NodeGateway Device) (event : NodeCommandEvent) :
    (gateway.commandStep event).polling.clients.length = gateway.polling.clients.length := by
  cases event with
  | takeNodeCommand =>
      rcases gateway.handleNodeCommand_cases with ⟨-, same⟩ | ⟨_, -, -, -, -, -, -, clients⟩
      · rw [commandStep, same]
      · rw [commandStep, clients, List.length_set]
  | background event kind =>
      cases event with
      | pollNode polled steadyNow systemNow =>
          simp only [commandStep, step, NodePollingService.pollNode]
          split
          · exact List.length_set
          · rfl
      | applyPowerCommand commanded requestedPowerKw enabled sequence ttlSeconds =>
          exact absurd kind Bool.false_ne_true
      | publishNode now published =>
          simp only [commandStep, step]
          split <;> rfl
      | _ => rfl

/-! ### Runs -/

/-- The words of a disabled command are none for the driver. -/
theorem commandOfWords_enable (sequence power enable ttl : UInt16) :
    commandOfWords sequence power (if enable == 1 then 1 else 0) ttl =
      commandOfWords sequence power enable ttl := by
  by_cases enabled : enable = 1
  · simp [enabled]
  · simp [commandOfWords, enabled]

/-- Taking a command sends no more than the order it delivers. -/
theorem fed_commandStep {sent : List PowerCommand} (event : NodeCommandEvent)
    (holds : gateway.SlotHolds slot site (site.Fed sent)) :
    (gateway.commandStep event).SlotHolds slot site
      (site.Fed (sent ++ orders slot gateway event)) := by
  have longer : ∀ {later : NodeGateway Device} (more : List PowerCommand),
      later.SlotHolds slot site (site.Fed sent) →
        later.SlotHolds slot site (site.Fed (sent ++ more)) := by
    rintro later more ⟨client, found, resting, unit, same, fed⟩
    exact ⟨client, found, resting, unit, same, fed.trans (List.sublist_append_left _ _)⟩
  cases event with
  | background event kind =>
      exact longer _ (slotHolds_background (site.steady_fed sent) holds kind)
  | takeNodeCommand =>
      have handled : gateway.bank.takeNodeCommand.1.isSome = true →
          gateway.bank.holdingRegister Holding.nodeCommandApplyKey =
            Northbound.operatorApplyKeyValue →
          (gateway.bank.holdingRegister Holding.nodeCommandTargetSlot).toNat = slot →
          ∀ transaction log input, site.HandledIn (Mbap.adu transaction 1
            (MbusNode.writeRequest 0x14 gateway.bank.nodeCommandWords)) log input →
            site.Fed sent log →
              site.Fed (sent ++ orders slot gateway .takeNodeCommand)
                (log ++ [.controlLoop input]) := by
        intro taken authorized own transaction log input stored fed
        have order : orders slot gateway .takeNodeCommand =
            commandOfWords (gateway.bank.holdingRegister Holding.nodeCommandSequence)
              (gateway.bank.holdingRegister Holding.nodeRequestedPowerKwX10)
              (if gateway.bank.holdingRegister Holding.nodeCommandEnable == 1 then 1 else 0)
              (gateway.bank.holdingRegister Holding.nodeCommandTtlSeconds) := by
          rw [commandOfWords_enable, orders, if_pos taken, NorthboundRegisterBank.nodeOrder,
            if_pos ⟨own, authorized⟩]
        rw [order]
        exact site.fed_of_handled stored fed
      obtain ⟨once, -⟩ := slotHolds_handleNodeCommand (site.steady_fed sent)
        (site.steady_fed (sent ++ orders slot gateway .takeNodeCommand)) handled holds
      rcases once with unsent | done
      · exact longer _ unsent
      · exact done

theorem fed_run {sent : List PowerCommand} (events : List NodeCommandEvent)
    (holds : gateway.SlotHolds slot site (site.Fed sent)) :
    (run commandStep gateway events).SlotHolds slot site
      (site.Fed (sent ++ outputs commandStep (orders slot) gateway events)) := by
  induction events generalizing gateway sent with
  | nil =>
      rw [outputs, List.append_nil]
      exact holds
  | cons event rest inductionHypothesis =>
      rw [outputs, ← List.append_assoc]
      exact inductionHypothesis (fed_commandStep event holds)

/-- The call that handles a command leaves the log of the node longer by what it shows. -/
theorem steady_reached (site : NodeSite Device) (start : List FirmwareEvent)
    (words : List UInt16) :
    Steady site fun log => ∃ moment, start <+: moment ∧ start.length < moment.length ∧
      moment <+: log ∧ (site.firmware moment).node.window = words where
  own _ _ _ := fun ⟨moment, after, longer, within, shown⟩ =>
    ⟨moment, after, longer, within.trans (List.prefix_append _ _), shown⟩
  idle _ _ _ := fun ⟨moment, after, longer, within, shown⟩ =>
    ⟨moment, after, longer, within.trans (List.prefix_append _ _), shown⟩

theorem steady_begins (site : NodeSite Device) (start : List FirmwareEvent) :
    Steady site fun log => start <+: log where
  own _ _ _ within := within.trans (List.prefix_append _ _)
  idle _ _ _ within := within.trans (List.prefix_append _ _)

/-- Between two calls every client is at rest. -/
theorem slotHolds_run {sites : List (NodeSite Device)} (configured : sites[slot]? = some site)
    (events : List NodeCommandEvent) :
    (run commandStep (ofSites sites) events).SlotHolds slot site fun log =>
      (run commandStep (ofSites sites) events).log slot <+: log := by
  have fed := fed_run events (slotHolds_start configured site.fed_start)
  obtain ⟨client, found, resting, unit, same, -⟩ := fed
  refine ⟨client, found, resting, unit, same, ?_⟩
  rw [NodeGateway.log, found]
  exact List.prefix_rfl

end Slots

/-- A command the main loop prints as accepted was authorised, and while it was being
sent the window of the node it is for has held all its words. No other node hears of it,
and of a command that is not authorised none does. -/
theorem accepted_order_reached_node (sites : List (NodeSite Device))
    (events : List NodeCommandEvent) :
    let reached := run commandStep (ofSites sites) events
    let handled := reached.handleNodeCommand
    let slot := (reached.bank.holdingRegister Holding.nodeCommandTargetSlot).toNat
    (handled.1 = true → ∃ site moment, sites[slot]? = some site ∧
        reached.bank.holdingRegister Holding.nodeCommandApplyKey =
          Northbound.operatorApplyKeyValue ∧
        1 ≤ reached.bank.holdingRegister Holding.nodeCommandTtlSeconds ∧
        reached.bank.holdingRegister Holding.nodeCommandTtlSeconds ≤ 30 ∧
        reached.log slot <+: moment ∧ (reached.log slot).length < moment.length ∧
        moment <+: handled.2.log slot ∧
        (site.firmware moment).node.window = reached.bank.nodeCommandWords) ∧
      ∀ other, other ≠ slot ∨ reached.bank.holdingRegister Holding.nodeCommandApplyKey ≠
          Northbound.operatorApplyKeyValue →
        handled.2.log other = reached.log other := by
  intro reached handled slot
  have cases_ := reached.handleNodeCommand_cases
  constructor
  · intro accepted
    rcases cases_ with ⟨refused, -⟩ | ⟨client, taken, authorized, short, long, found, -, -⟩
    · exact absurd accepted (by simp [handled, refused])
    · have sized : reached.polling.clients.length = sites.length := by
        have fresh : (ofSites sites).polling.clients.length = sites.length := by
          simp [ofSites, start, NodePollingService.ofEndpoints]
        exact run_invariant commandStep
          (fun gateway => gateway.polling.clients.length = sites.length)
          (fun gateway event same => (length_clients_step gateway event).trans same)
          fresh events
      have inside : slot < sites.length := by
        rw [← sized]
        exact (List.getElem?_eq_some_iff.mp found).1
      have configured : sites[slot]? = some sites[slot] := List.getElem?_eq_getElem inside
      obtain ⟨-, done⟩ := slotHolds_handleNodeCommand
        (steady_begins sites[slot] (reached.log slot))
        (steady_reached sites[slot] (reached.log slot) reached.bank.nodeCommandWords)
        (fun _ _ _ transaction log input stored within =>
          ⟨log ++ [.controlLoop input], within.trans (List.prefix_append _ _), by
            have short := within.length_le
            rw [List.length_append, List.length_singleton]
            omega, List.prefix_rfl, sites[slot].window_of_handled stored⟩)
        (slotHolds_run configured events)
      obtain ⟨moment, after, longer, within, shown⟩ := (done accepted rfl).log
      exact ⟨sites[slot], moment, configured, authorized, short, long, after, longer, within,
        shown⟩
  · intro other apart
    rcases cases_ with ⟨-, same⟩ | ⟨client, -, authorized, -, -, -, -, clients⟩
    · rw [NodeGateway.log, NodeGateway.log, same]
    · have different : other ≠ slot := apart.resolve_right (not_not_intro authorized)
      rw [NodeGateway.log, NodeGateway.log, clients, List.getElem?_set_ne different.symm]

/-! ### A command that arrives -/

/-- A node that calls its supervisor before every socket call, over a connection that
cuts everything into pieces of at most five bytes. -/
def willingSite : NodeSite Unit where
  driver := { applyPowerCommand := fun _ _ => (true, ()) }
  config := { address := 5, type := NodeType.inverter, driverId := 77 }
  device := ()
  gateway := 7
  clock := fun _ => 0
  activity := fun call => if call = 0 then [.setRockPiAddress 7] else [.applyCommand 0]
  fragment := fun _ => 5

/-- The window of the node mailbox is written from the north. -/
def orderedEvents : List NodeCommandEvent :=
  [.background (.perform (.writeHolding 11 [1, 0, 125, 1, 30, 0xA55A])) rfl]

/-- It is executed once. -/
example : willingSite.executed
    ((run commandStep (ofSites [willingSite]) (orderedEvents ++ [.takeNodeCommand])).log 0) =
      [{ sequence := 1, powerKwX10 := 125, ttlSeconds := 30 }] := by decide +kernel

theorem accepted_order_reached_node_willing :
    let reached := run commandStep (ofSites [willingSite]) orderedEvents
    ∃ site moment, [willingSite][0]? = some site ∧
      reached.bank.holdingRegister Holding.nodeCommandApplyKey =
        Northbound.operatorApplyKeyValue ∧
      1 ≤ reached.bank.holdingRegister Holding.nodeCommandTtlSeconds ∧
      reached.bank.holdingRegister Holding.nodeCommandTtlSeconds ≤ 30 ∧
      reached.log 0 <+: moment ∧ (reached.log 0).length < moment.length ∧
      moment <+: reached.handleNodeCommand.2.log 0 ∧
      (site.firmware moment).node.window = reached.bank.nodeCommandWords :=
  (accepted_order_reached_node [willingSite] orderedEvents).1 (by decide +kernel)

end NodeGateway

end GridexEdge.RockPi
