import GridexEdge.RockPi.LiveNode
import GridexEdge.RockPi.Mailboxes
import GridexEdge.RockPi.NodePolling
import GridexEdge.RockPi.TelemetryPassthrough

/-!
The words of a node from its registers through poll and publication to the window of
its slot.

The poller's thread, the main loop and the northbound server take turns in any order,
and so do all the nodes. The main loop publishes from a copy of the samples.

A poll is one event, while the client's lock is held for one request at a time: in the
source a power command may reach the node between two requests of a poll. What the node
itself does then comes between them here, too.
-/

namespace GridexEdge.RockPi

open GridexEdge.Core Foundation Node

/-! ### What is passed on -/

/-- The words of a node's window from its type to its alarms. -/
def nodeWords (sample : MbusNodeTelemetry) : List UInt16 :=
  [sample.nodeType, sample.nodeState, sample.driverId, sample.quality, sample.heartbeat,
    encodeSignedX10 sample.actualPowerKw, highWord sample.energyWh, lowWord sample.energyWh,
    sample.deviceState, sample.alarmBits]

def identityWords (node : MbusNode) : List UInt16 :=
  [Reg.nodeType, Reg.nodeState, Reg.driverId, Reg.quality, Reg.heartbeat].map node.registerValue

def sampleWords (sample : DriverSample) : List UInt16 :=
  [sample.actualPowerKwX10.toUInt16, highWord sample.energyWh, lowWord sample.energyWh,
    sample.state, sample.alarms]

theorem nodeWords_succeeded (sample : MbusNodeTelemetry) (steadyNow : SteadyTime)
    (systemNow : Int) :
    nodeWords (NodePollingService.succeeded sample steadyNow systemNow) = nodeWords sample := rfl

/-- A range read out of the registers has the value of each at its place. -/
theorem getD_readRange (node : MbusNode) {start count index : Nat} {address : UInt16}
    (place : address.toNat = start + index) (within : index < count)
    (inside : address.toNat < 128) :
    (readRange node.registers start count).getD index 0 = node.registerValue address := by
  have short : index < (readRange node.registers start count).length := by
    rw [length_readRange]
    omega
  rw [List.getD_eq_getElem _ _ short, getElem_readRange _ _ _ _ short (by omega),
    MbusNode.registerValue, dif_pos inside]
  simp only [place]

/-- A node that shows a sample reads out its words from the telemetry. -/
theorem getD_readRange_of_shows {node : MbusNode} {shown : DriverSample} (shows_ : Shows node shown)
    (index : Nat) {address value : UInt16}
    (listed : (sampleRegisters shown)[index]? = some (address, value))
    (place : address.toNat = 64 + index) (within : index < 6) :
    (readRange node.registers 64 6).getD index 0 = value := by
  rw [getD_readRange node place within (by omega)]
  exact shows_ (address, value) (List.mem_of_getElem? listed)

/-- The two reads decide the words of the sample. -/
theorem nodeWords_withTelemetry (sample : MbusNodeTelemetry) (identified measured : MbusNode)
    {shown : DriverSample} (shows_ : Shows measured shown) :
    nodeWords (NodePollingService.withTelemetry sample (readRange identified.registers 0 13)
        (readRange measured.registers 64 6)) =
      identityWords identified ++ sampleWords shown := by
  have identity : ∀ {index : Nat} {address : UInt16}, address.toNat = 0 + index → index < 13 →
      (readRange identified.registers 0 13).getD index 0 = identified.registerValue address :=
    fun place within => getD_readRange identified place within (by omega)
  have word : ∀ (index : Nat) {address value : UInt16},
      (sampleRegisters shown)[index]? = some (address, value) →
      address.toNat = 64 + index → index < 6 →
      (readRange measured.registers 64 6).getD index 0 = value :=
    getD_readRange_of_shows shows_
  have power : ∀ raw : UInt16, encodeSignedX10 ((signed raw : ℚ) / 10) = raw :=
    encodeSignedX10_decodeSigned
  unfold nodeWords NodePollingService.withTelemetry
  dsimp only
  rw [power, highWord_doubleWord, lowWord_doubleWord]
  rw [@identity 2 Reg.nodeType rfl (by omega), @identity 3 Reg.nodeState rfl (by omega),
    @identity 5 Reg.driverId rfl (by omega), @identity 6 Reg.quality rfl (by omega),
    @identity 12 Reg.heartbeat rfl (by omega)]
  rw [word 0 rfl rfl (by omega), word 1 rfl rfl (by omega), word 2 rfl rfl (by omega),
    word 3 rfl rfl (by omega), word 4 rfl rfl (by omega)]
  rfl

/-! ### The window of a slot -/

namespace NorthboundRegisterBank

variable (bank : NorthboundRegisterBank) (now : SteadyTime) (sample : MbusNodeTelemetry)

/-- Each published word is held at its address. -/
theorem input_publishNode {slot : Nat} (inside : slot < 32) (position : Nat) {address : Nat}
    {word : UInt16}
    (published : (nodePublication (windowBase slot) now sample)[position]? =
      some (address, word)) :
    (bank.publishNode now slot sample).input[address]? = some word := by
  have member := List.mem_of_getElem? published
  have window := inSlot_of_published now sample (List.mem_map_of_mem member)
  have within : address < 768 := by
    have bound := window.2
    rw [windowBase_eq] at bound
    omega
  rw [publishNode_of_slot bank now sample inside]
  apply getElem?_storeWords_of_mem bank.input within
  · rw [nodePublication_addresses]
    apply List.Nodup.map (fun _ _ => Nat.add_left_cancel)
    decide
  · exact member

/-- The registers of a slot from its type to its alarms. -/
def Displays (slot : Nat) (words : List UInt16) : Prop :=
  ∀ index < words.length, bank.input[windowBase slot + 2 + index]? = words[index]?

theorem displays_publishNode {slot : Nat} (inside : slot < 32) :
    (bank.publishNode now slot sample).Displays slot (nodeWords sample) := by
  have stored : ∀ (position : Nat) {address : Nat} {word : UInt16},
      (nodePublication (windowBase slot) now sample)[position]? = some (address, word) →
        (bank.publishNode now slot sample).input[address]? = some word :=
    fun position _ _ published => bank.input_publishNode now sample inside position published
  intro index bounded
  match index, bounded with
  | 0, _ => exact stored 2 rfl
  | 1, _ => exact stored 3 rfl
  | 2, _ => exact stored 4 rfl
  | 3, _ => exact stored 5 rfl
  | 4, _ => exact stored 6 rfl
  | 5, _ => exact stored 7 rfl
  | 6, _ => exact stored 8 rfl
  | 7, _ => exact stored 9 rfl
  | 8, _ => exact stored 10 rfl
  | 9, _ => exact stored 11 rfl

/-- The words are those of one read by a northbound client. -/
theorem readInput_of_displays {slot : Nat} (inside : slot < 32) {words : List UInt16}
    (length : words.length = 10) (displays : bank.Displays slot words) :
    bank.readInput (UInt16.ofNat (windowBase slot + 2)) 10 = some words := by
  have start : (UInt16.ofNat (windowBase slot + 2)).toNat = windowBase slot + 2 := by
    rw [UInt16.toNat_ofNat', windowBase_eq]
    omega
  apply bank.readInput_of_held length
  · exact List.ne_nil_of_length_pos (by omega)
  · rw [start, length, windowBase_eq]
    omega
  · rw [start]
    exact displays

/-- What the other operations store lies below the slots. -/
theorem input_perform {slot address : Nat} (window : InSlot slot address)
    {operation : BankOperation}
    (other : ∀ now sample, operation ≠ .publishNode now slot sample) :
    (bank.perform operation).input[address]? = bank.input[address]? := by
  have low := window.1
  rw [windowBase_eq] at low
  cases operation with
  | writeHolding start values => rw [perform, writeHolding_input]
  | publish snapshot configuredLimit => exact input_publish_of_above _ _ _ (by omega)
  | publishOperatorResult sequence result =>
      have last : Input.lastOperatorResult ≠ address := by
        unfold Input.lastOperatorResult
        omega
      have first : Input.lastOperatorSequence ≠ address := by
        unfold Input.lastOperatorSequence
        omega
      exact (Vector.getElem?_set_ne (by decide) last).trans
        (Vector.getElem?_set_ne (by decide) first)
  | publishNode now published sample =>
      apply input_publishNode_of_outside
      apply inSlot_disjoint window
      rintro rfl
      exact other now sample rfl
  | takeCommand => rw [perform, takeCommand_input]
  | takeOperatorCommand => rw [perform, takeOperatorCommand_input]
  | takeNodeCommand => rw [perform, takeNodeCommand_input]

end NorthboundRegisterBank

/-! ### One poll -/

section Poll

open PosixModbusTcpClient NodePollingService

variable {Device : Type} {client : PosixModbusTcpClient (LiveNode Device)}
  (sample : MbusNodeTelemetry) (steadyNow : SteadyTime) (systemNow : Int)

theorem pollSample_ended (quiet : Quiet client) :
    Ended client (pollSample liveNetwork client sample steadyNow systemNow).2 := by
  have identified := (readHoldingRange_outcome quiet identityStart identityCount).1
  have measured := (readHoldingRange_outcome identified.quiet telemetryStart telemetryCount).1
  have checked := (readHoldingRange_outcome measured.quiet healthStart healthCount).1
  rcases pollSample_cases liveNetwork client sample steadyNow systemNow with
    ⟨status, failed⟩ | ⟨status, failed⟩ | ⟨identity, telemetry, -, -, succeeded⟩
  · rw [failed]
    exact identified
  · rw [failed]
    exact identified.trans measured
  · rw [succeeded]
    exact (identified.trans measured).trans checked

/-- The sample of a poll that has read the registers of a node at two moments of its log. -/
def polledAt (site : NodeSite Device) (identityRead telemetryRead : List FirmwareEvent)
    (health : Option (List UInt16)) : MbusNodeTelemetry :=
  succeeded
    (withHealth
      (withTelemetry sample (readRange (site.firmware identityRead).node.registers 0 13)
        (readRange (site.firmware telemetryRead).node.registers 64 6)) health)
    steadyNow systemNow

/-- The log when the node answers the first request of a poll. -/
def identityReadAt (client : PosixModbusTcpClient (LiveNode Device)) : List FirmwareEvent :=
  client.readAt identityStart identityCount

/-- The log when the node answers the second one. -/
def telemetryReadAt (client : PosixModbusTcpClient (LiveNode Device)) : List FirmwareEvent :=
  (readIdentity liveNetwork client).2.readAt telemetryStart telemetryCount

/-- A poll that succeeds has read the identity at one moment and the telemetry at a later
one. -/
theorem pollSample_online (quiet : Quiet client)
    (online : (pollSample liveNetwork client sample steadyNow systemNow).1.online = true) :
    client.world.log <+: identityReadAt client ∧
      identityReadAt client <+: telemetryReadAt client ∧
      telemetryReadAt client <+:
        (pollSample liveNetwork client sample steadyNow systemNow).2.world.log ∧
      ∃ health, (pollSample liveNetwork client sample steadyNow systemNow).1 =
        polledAt sample steadyNow systemNow client.world.site (identityReadAt client)
          (telemetryReadAt client) health := by
  obtain ⟨identified, fromIdentity⟩ :=
    readHoldingRange_outcome quiet identityStart identityCount
  obtain ⟨measured, fromTelemetry⟩ :=
    readHoldingRange_outcome identified.quiet telemetryStart telemetryCount
  obtain ⟨checked, -⟩ := readHoldingRange_outcome measured.quiet healthStart healthCount
  rcases pollSample_cases liveNetwork client sample steadyNow systemNow with
    ⟨status, failed⟩ | ⟨status, failed⟩ | ⟨identity, telemetry, identityAnswer, answer, succeeded⟩
  · rw [failed] at online
    exact absurd online (by simp [NodePollingService.failed])
  · rw [failed] at online
    exact absurd online (by simp [NodePollingService.failed])
  · obtain ⟨identityLater, identityBefore, rfl⟩ := fromIdentity _ identityAnswer
    obtain ⟨later, before, rfl⟩ := fromTelemetry _ answer
    rw [identified.follows.site] at succeeded
    rw [succeeded]
    exact ⟨identityLater, identityBefore.trans later, before.trans checked.follows.log, _, rfl⟩

theorem nodeWords_polledAt (site : NodeSite Device)
    (identityRead telemetryRead : List FirmwareEvent) (health : Option (List UInt16)) :
    nodeWords (polledAt sample steadyNow systemNow site identityRead telemetryRead health) =
      identityWords (site.firmware identityRead).node ++
        sampleWords (lastSample telemetryRead) := by
  rw [polledAt, nodeWords_succeeded, withHealth_withTelemetry]
  exact nodeWords_withTelemetry _ _ _ (site.serves telemetryRead).shows_

end Poll

/-! ### The gateway and its nodes -/

/-- The poller, the copy of its samples the main loop works on, and the bank. -/
structure NodeGateway (Device : Type) where
  polling : NodePollingService (LiveNode Device)
  nodeSamples : List MbusNodeTelemetry := []
  bank : NorthboundRegisterBank := {}

inductive NodeGatewayEvent where
  | pollNode (slot : Nat) (steadyNow : SteadyTime) (systemNow : Int)
  | applyPowerCommand (slot : Nat) (requestedPowerKw : ℚ) (enabled : Bool)
      (sequence ttlSeconds : UInt16)
  | samples
  | publishNode (now : SteadyTime) (slot : Nat)
  | perform (operation : BankOperation)

namespace NodeGatewayEvent

def polls (slot : Nat) : NodeGatewayEvent → Bool
  | .pollNode other _ _ => other == slot
  | _ => false

def copies : NodeGatewayEvent → Bool
  | .samples => true
  | _ => false

def publishes (slot : Nat) : NodeGatewayEvent → Bool
  | .publishNode _ other => other == slot
  | .perform (.publishNode _ other _) => other == slot
  | _ => false

end NodeGatewayEvent

namespace NodeGateway

variable {Device : Type} (gateway : NodeGateway Device)

/-- Nothing has been connected, polled or published. -/
def start (endpoints : List (UInt8 × NodeSite Device)) : NodeGateway Device where
  polling := .ofEndpoints (endpoints.map fun endpoint => (endpoint.1, { site := endpoint.2 }))

def step : NodeGatewayEvent → NodeGateway Device
  | .pollNode slot steadyNow systemNow =>
      { gateway with
        polling := gateway.polling.pollNode liveNetwork steadyNow systemNow slot }
  | .applyPowerCommand slot requestedPowerKw enabled sequence ttlSeconds =>
      { gateway with
        polling.toNodeTcpPollingService :=
          (gateway.polling.applyPowerCommand liveNetwork slot requestedPowerKw enabled sequence
            ttlSeconds).2 }
  | .samples => { gateway with nodeSamples := gateway.polling.samples }
  | .publishNode now slot =>
      match gateway.nodeSamples[slot]? with
      | none => gateway
      | some sample => { gateway with bank := gateway.bank.publishNode now slot sample }
  | .perform operation => { gateway with bank := gateway.bank.perform operation }

/-- Everything that has happened to the node behind a slot. -/
def log (slot : Nat) : List FirmwareEvent :=
  (gateway.polling.clients[slot]?).elim [] fun client => client.world.log

/-- The last poll of the slot has succeeded. -/
def online (slot : Nat) : Bool := (gateway.polling.samples[slot]?).any fun sample => sample.online

theorem lt_of_online {gateway : NodeGateway Device} {slot : Nat}
    (online : gateway.online slot = true) : slot < gateway.polling.samples.length := by
  by_contra missing
  rw [NodeGateway.online, List.getElem?_eq_none (Nat.le_of_not_lt missing)] at online
  exact absurd online (by simp)

section Clients

open PosixModbusTcpClient

variable {gateway} {slot : Nat} {client : PosixModbusTcpClient (LiveNode Device)}

/-- One client has made a call, and the others stay as they are. -/
theorem ended_of_set {clients : List (PosixModbusTcpClient (LiveNode Device))}
    (found : clients[slot]? = some client) (quiet : Quiet client) {called : Nat}
    {before after : PosixModbusTcpClient (LiveNode Device)}
    (held : clients[called]? = some before) (ended : Quiet before → Ended before after) :
    ∃ later, (clients.set called after)[slot]? = some later ∧ Ended client later := by
  by_cases same : called = slot
  · subst same
    rw [found] at held
    obtain rfl := Option.some.inj held
    have inside := (List.getElem?_eq_some_iff.mp found).1
    exact ⟨after, List.getElem?_set_self inside, ended quiet⟩
  · exact ⟨client, (List.getElem?_set_ne same).trans found, quiet, rfl, .refl _⟩

theorem client_step (found : gateway.polling.clients[slot]? = some client) (quiet : Quiet client)
    (event : NodeGatewayEvent) :
    ∃ later, (gateway.step event).polling.clients[slot]? = some later ∧ Ended client later := by
  have same : ∃ later, gateway.polling.clients[slot]? = some later ∧ Ended client later :=
    ⟨client, found, quiet, rfl, .refl _⟩
  cases event with
  | pollNode polled steadyNow systemNow =>
      unfold step NodePollingService.pollNode
      dsimp only
      split
      · next before sample held _ =>
          exact ended_of_set found quiet held fun ready =>
            pollSample_ended sample steadyNow systemNow ready
      · exact same
  | applyPowerCommand commanded requestedPowerKw enabled sequence ttlSeconds =>
      unfold step NodeTcpPollingService.applyPowerCommand
      dsimp only
      split
      · exact same
      · next before held =>
          split
          · exact same
          · exact ended_of_set found quiet held fun ready =>
              writeHoldingRange_ended ready _ _
  | samples => exact same
  | publishNode now published =>
      unfold step
      dsimp only
      split
      · exact same
      · exact same
  | perform operation => exact same

theorem client_run (found : gateway.polling.clients[slot]? = some client) (quiet : Quiet client)
    (events : List NodeGatewayEvent) :
    ∃ later, (run step gateway events).polling.clients[slot]? = some later ∧
      Ended client later := by
  induction events generalizing gateway client with
  | nil => exact ⟨client, found, quiet, rfl, .refl _⟩
  | cons event rest inductionHypothesis =>
      obtain ⟨next, foundNext, ended⟩ := client_step found quiet event
      obtain ⟨later, foundLater, endedLater⟩ := inductionHypothesis foundNext ended.quiet
      exact ⟨later, foundLater, ended.trans endedLater⟩

end Clients

theorem step_pollNode {gateway : NodeGateway Device} {slot : Nat}
    {client : PosixModbusTcpClient (LiveNode Device)} {sample : MbusNodeTelemetry}
    (found : gateway.polling.clients[slot]? = some client)
    (sampled : gateway.polling.samples[slot]? = some sample) (steadyNow : SteadyTime)
    (systemNow : Int) :
    let polled := NodePollingService.pollSample liveNetwork client sample steadyNow systemNow
    (gateway.step (.pollNode slot steadyNow systemNow)).polling.clients[slot]? = some polled.2 ∧
      (gateway.step (.pollNode slot steadyNow systemNow)).polling.samples[slot]? =
        some polled.1 := by
  intro polled
  rw [step, NodePollingService.pollNode, found, sampled]
  constructor
  · exact List.getElem?_set_self (List.getElem?_eq_some_iff.mp found).1
  · exact List.getElem?_set_self (List.getElem?_eq_some_iff.mp sampled).1

theorem step_publishNode {gateway : NodeGateway Device} {slot : Nat} {sample : MbusNodeTelemetry}
    (now : SteadyTime) (copied : gateway.nodeSamples[slot]? = some sample) :
    gateway.step (.publishNode now slot) =
      { gateway with bank := gateway.bank.publishNode now slot sample } := by
  rw [step, copied]

/-! What an event leaves alone of a slot. -/

section Frames

variable {gateway} {slot : Nat} {event : NodeGatewayEvent}

theorem sample_step (unpolled : event.polls slot = false) :
    (gateway.step event).polling.samples[slot]? = gateway.polling.samples[slot]? := by
  cases event with
  | pollNode polled steadyNow systemNow =>
      have different : polled ≠ slot := by simpa [NodeGatewayEvent.polls] using unpolled
      exact (NodePollingService.pollNode_other _ _ _ _ different.symm).1
  | applyPowerCommand commanded requestedPowerKw enabled sequence ttlSeconds => rfl
  | samples => rfl
  | publishNode now published =>
      unfold step
      dsimp only
      split <;> rfl
  | perform operation => rfl

theorem length_samples_step (gateway : NodeGateway Device) (event : NodeGatewayEvent) :
    (gateway.step event).polling.samples.length = gateway.polling.samples.length := by
  cases event with
  | pollNode polled steadyNow systemNow =>
      exact NodePollingService.length_samples_pollNode _ _ _ _ polled
  | publishNode now published =>
      unfold step
      dsimp only
      split <;> rfl
  | _ => rfl

theorem nodeSamples_step (uncopied : event.copies = false) :
    (gateway.step event).nodeSamples = gateway.nodeSamples := by
  cases event with
  | samples => exact absurd uncopied (by simp [NodeGatewayEvent.copies])
  | publishNode now published =>
      unfold step
      dsimp only
      split <;> rfl
  | _ => rfl

theorem input_step (unpublished : event.publishes slot = false) {address : Nat}
    (window : InSlot slot address) :
    (gateway.step event).bank.input[address]? = gateway.bank.input[address]? := by
  cases event with
  | publishNode now published =>
      have different : published ≠ slot := by simpa [NodeGatewayEvent.publishes] using unpublished
      unfold step
      dsimp only
      split
      · rfl
      · exact NorthboundRegisterBank.input_publishNode_of_outside _ _ _
          (inSlot_disjoint window different)
  | perform operation =>
      apply NorthboundRegisterBank.input_perform _ window
      rintro now sample rfl
      exact absurd unpublished (by simp [NodeGatewayEvent.publishes])
  | _ => rfl

theorem input_run {events : List NodeGatewayEvent}
    (unpublished : ∀ event ∈ events, event.publishes slot = false) {address : Nat}
    (window : InSlot slot address) :
    (run step gateway events).bank.input[address]? = gateway.bank.input[address]? :=
  run_invariant_of_forall step
    (fun later => later.bank.input[address]? = gateway.bank.input[address]?)
    (fun _ _ unpublished same => (input_step unpublished window).trans same) rfl unpublished

theorem displays_run {words : List UInt16} (short : words.length = 10)
    {events : List NodeGatewayEvent}
    (unpublished : ∀ event ∈ events, event.publishes slot = false)
    (displays : gateway.bank.Displays slot words) :
    (run step gateway events).bank.Displays slot words := by
  intro index bounded
  rw [input_run unpublished ⟨by omega, by omega⟩]
  exact displays index bounded

end Frames

theorem samples_run {slot : Nat} {gateway : NodeGateway Device} {events : List NodeGatewayEvent}
    (unpolled : ∀ event ∈ events, event.polls slot = false) :
    (run step gateway events).polling.samples[slot]? = gateway.polling.samples[slot]? :=
  run_invariant_of_forall step
    (fun later => later.polling.samples[slot]? = gateway.polling.samples[slot]?)
    (fun _ _ unpolled same => (sample_step unpolled).trans same) rfl unpolled

theorem nodeSamples_run {gateway : NodeGateway Device} {events : List NodeGatewayEvent}
    (uncopied : ∀ event ∈ events, event.copies = false) :
    (run step gateway events).nodeSamples = gateway.nodeSamples :=
  run_invariant_of_forall step (fun later => later.nodeSamples = gateway.nodeSamples)
    (fun _ _ uncopied same => (nodeSamples_step uncopied).trans same) rfl uncopied

theorem length_samples_run (gateway : NodeGateway Device) (events : List NodeGatewayEvent) :
    (run step gateway events).polling.samples.length = gateway.polling.samples.length :=
  run_invariant step (fun later => later.polling.samples.length = gateway.polling.samples.length)
    (fun later event same => (length_samples_step later event).trans same) rfl events

/-- A slot that a poll finds online is a configured one, and its client has gone on
reaching the node it is configured for. -/
theorem client_of_online {endpoints : List (UInt8 × NodeSite Device)}
    {history : List NodeGatewayEvent} {slot : Nat} {steadyNow : SteadyTime} {systemNow : Int}
    (online : ((run step (start endpoints) history).step
      (.pollNode slot steadyNow systemNow)).online slot = true) :
    ∃ unit site client, endpoints[slot]? = some (unit, site) ∧
      (run step (start endpoints) history).polling.clients[slot]? = some client ∧
      client.Quiet ∧ client.world.site = site := by
  have bounded : slot < endpoints.length := by
    have sized := lt_of_online online
    rw [length_samples_step, length_samples_run] at sized
    simpa [start, NodePollingService.ofEndpoints] using sized
  have configured := List.getElem?_eq_getElem bounded
  have started : (start endpoints).polling.clients[slot]? =
      some { unitId := endpoints[slot].1, world := { site := endpoints[slot].2 } } := by
    simp [start, NodePollingService.ofEndpoints, configured]
  obtain ⟨client, found, ended⟩ := client_run started (fun open_ => absurd open_ (by simp)) history
  exact ⟨_, _, client, configured, found, ended.quiet, ended.follows.site⟩

/-- A successful poll of the slot has read the node at two moments of the poll. -/
theorem step_pollNode_online {gateway : NodeGateway Device} {slot : Nat}
    {client : PosixModbusTcpClient (LiveNode Device)}
    (found : gateway.polling.clients[slot]? = some client) (quiet : client.Quiet)
    (steadyNow : SteadyTime) (systemNow : Int)
    (online : (gateway.step (.pollNode slot steadyNow systemNow)).online slot = true) :
    ∃ sample health,
      (gateway.step (.pollNode slot steadyNow systemNow)).polling.samples[slot]? =
        some (polledAt sample steadyNow systemNow client.world.site (identityReadAt client)
          (telemetryReadAt client) health) ∧
      gateway.log slot <+: identityReadAt client ∧
      identityReadAt client <+: telemetryReadAt client ∧
      telemetryReadAt client <+:
        (gateway.step (.pollNode slot steadyNow systemNow)).log slot := by
  have before : gateway.log slot = client.world.log := by
    rw [NodeGateway.log, found]
    rfl
  cases sampled : gateway.polling.samples[slot]? with
  | none =>
      have bounded := NodeGateway.lt_of_online online
      rw [NodeGateway.length_samples_step] at bounded
      exact absurd bounded (Nat.not_lt_of_le (List.getElem?_eq_none_iff.mp sampled))
  | some sample =>
      obtain ⟨later, seen⟩ := NodeGateway.step_pollNode found sampled steadyNow systemNow
      have after : (gateway.step (.pollNode slot steadyNow systemNow)).log slot =
          (NodePollingService.pollSample liveNetwork client sample steadyNow
            systemNow).2.world.log := by
        rw [NodeGateway.log, later]
        rfl
      rw [NodeGateway.online, seen] at online
      obtain ⟨first, second, third, health, same⟩ :=
        pollSample_online sample steadyNow systemNow quiet online
      rw [before, after, seen, same]
      exact ⟨sample, health, rfl, first, second, third⟩

end NodeGateway

/-! ### From a poll to the window -/

/-- A run in which a slot is polled, the samples are copied and the slot is published.
Anything may come in between that leaves this poll, this copy and this publication
the last ones. -/
structure Passage (slot : Nat) where
  history : List NodeGatewayEvent
  steadyNow : SteadyTime
  systemNow : Int
  afterPoll : List NodeGatewayEvent
  unpolled : ∀ event ∈ afterPoll, event.polls slot = false
  afterCopy : List NodeGatewayEvent
  uncopied : ∀ event ∈ afterCopy, event.copies = false
  now : SteadyTime
  afterPublication : List NodeGatewayEvent
  unpublished : ∀ event ∈ afterPublication, event.publishes slot = false

namespace Passage

variable {Device : Type} {slot : Nat} (passage : Passage slot) (gateway : NodeGateway Device)

def reached : NodeGateway Device := run NodeGateway.step gateway passage.history

def polled : NodeGateway Device :=
  (passage.reached gateway).step (.pollNode slot passage.steadyNow passage.systemNow)

def copied : NodeGateway Device :=
  (run NodeGateway.step (passage.polled gateway) passage.afterPoll).step .samples

def published : NodeGateway Device :=
  (run NodeGateway.step (passage.copied gateway) passage.afterCopy).step
    (.publishNode passage.now slot)

def final : NodeGateway Device :=
  run NodeGateway.step (passage.published gateway) passage.afterPublication

/-- The sample of the poll is what the window shows in the end. -/
theorem displays_final (inside : slot < 32) {sample : MbusNodeTelemetry}
    (seen : (passage.polled gateway).polling.samples[slot]? = some sample) :
    (passage.final gateway).bank.Displays slot (nodeWords sample) := by
  have copied : (passage.copied gateway).nodeSamples[slot]? = some sample :=
    (NodeGateway.samples_run passage.unpolled).trans seen
  have kept : (run NodeGateway.step (passage.copied gateway)
      passage.afterCopy).nodeSamples[slot]? = some sample := by
    rw [NodeGateway.nodeSamples_run passage.uncopied]
    exact copied
  apply NodeGateway.displays_run rfl passage.unpublished
  rw [published, NodeGateway.step_publishNode passage.now kept]
  exact NorthboundRegisterBank.displays_publishNode _ passage.now sample inside

end Passage

/-- For all nodes and any order of their own events, of polls, commands, copies and
publications: after a successful poll and a publication of a slot, its window shows
the identity registers and the telemetry of one sample as the poll has found them. No
publication stores anything outside the window of its slot. -/
theorem node_telemetry_passes_through {Device : Type} :
    (∀ (endpoints : List (UInt8 × NodeSite Device)) (slot : Nat) (passage : Passage slot),
      let gateway := NodeGateway.start endpoints
      slot < 32 → (passage.polled gateway).online slot = true →
      ∃ unit site identityRead telemetryRead,
        endpoints[slot]? = some (unit, site) ∧
        (passage.reached gateway).log slot <+: identityRead ∧ identityRead <+: telemetryRead ∧
        telemetryRead <+: (passage.polled gateway).log slot ∧
        (lastSample telemetryRead = {} ∨
          .publishDriverSample (lastSample telemetryRead) ∈ telemetryRead) ∧
        (passage.final gateway).bank.readInput (UInt16.ofNat (windowBase slot + 2)) 10 =
          some (identityWords (site.firmware identityRead).node ++
            sampleWords (lastSample telemetryRead))) ∧
    ∀ (bank : NorthboundRegisterBank) (now : SteadyTime) (slot : Nat) (sample : MbusNodeTelemetry),
      (∃ input, bank.publishNode now slot sample = { bank with input := input }) ∧
      (∀ address, address < 256 + slot * 16 ∨ 256 + slot * 16 + 16 ≤ address →
        (bank.publishNode now slot sample).input[address]? = bank.input[address]?) ∧
      (32 ≤ slot → bank.publishNode now slot sample = bank) := by
  constructor
  · intro endpoints slot passage gateway inside online
    obtain ⟨unit, site, client, configured, found, quiet, rfl⟩ :=
      NodeGateway.client_of_online online
    obtain ⟨sample, health, seen, first, second, third⟩ :=
      NodeGateway.step_pollNode_online found quiet passage.steadyNow passage.systemNow online
    have words := nodeWords_polledAt sample passage.steadyNow passage.systemNow client.world.site
      (identityReadAt client) (telemetryReadAt client) health
    refine ⟨unit, client.world.site, identityReadAt client, telemetryReadAt client, configured,
      first, second, third, lastSample_published _, ?_⟩
    rw [← words]
    exact NorthboundRegisterBank.readInput_of_displays _ inside rfl
      (passage.displays_final gateway inside seen)
  · intro bank now slot sample
    refine ⟨bank.publishNode_cases now slot sample, ?_, ?_⟩
    · intro address outside
      apply NorthboundRegisterBank.input_publishNode_of_outside
      rintro ⟨low, high⟩
      rw [windowBase_eq] at low high
      omega
    · exact fun missing => NorthboundRegisterBank.publishNode_of_no_slot bank now sample missing

/-- A node that publishes another sample before every socket call, over a connection
that cuts everything into pieces of at most nine bytes. -/
def busySite : NodeSite Unit where
  driver := { applyPowerCommand := fun _ _ => (false, ()) }
  config := { address := 5, type := NodeType.inverter, driverId := 77 }
  device := ()
  gateway := 7
  clock := fun _ => 0
  activity := fun call =>
    if call = 0 then [.setRockPiAddress 7]
    else
      [.publishDriverSample
          { actualPowerKwX10 := -125, energyWh := 65536 * UInt32.ofNat call, state := 3 },
        .publishCounters 1 true]
  fragment := fun _ => 9

def busyPassage : Passage 0 where
  history := []
  steadyNow := 0
  systemNow := 0
  afterPoll := [.perform .takeCommand]
  unpolled := by decide
  afterCopy := [.pollNode 0 1 1]
  uncopied := by decide
  now := 0
  afterPublication := [.perform (.publishOperatorResult 1 1)]
  unpublished := by decide

def busyEndpoints : List (UInt8 × NodeSite Unit) := [(1, busySite)]

theorem node_telemetry_passes_through_busy :
    let gateway := NodeGateway.start busyEndpoints
    ∃ unit site identityRead telemetryRead,
      busyEndpoints[0]? = some (unit, site) ∧
      (busyPassage.reached gateway).log 0 <+: identityRead ∧ identityRead <+: telemetryRead ∧
      telemetryRead <+: (busyPassage.polled gateway).log 0 ∧
      (lastSample telemetryRead = {} ∨
        .publishDriverSample (lastSample telemetryRead) ∈ telemetryRead) ∧
      (busyPassage.final gateway).bank.readInput (UInt16.ofNat (windowBase 0 + 2)) 10 =
        some (identityWords (site.firmware identityRead).node ++
          sampleWords (lastSample telemetryRead)) :=
  node_telemetry_passes_through.1 busyEndpoints 0 busyPassage (by decide) (by decide +kernel)

end GridexEdge.RockPi
