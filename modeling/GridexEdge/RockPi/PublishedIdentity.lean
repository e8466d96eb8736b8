import GridexEdge.Node.Isolation
import GridexEdge.RockPi.MqttHealthPublisher
import GridexEdge.RockPi.NodePassthrough
import GridexEdge.RockPi.PolledSlot

/-!
Which node the window of a slot and the messages about the slot say is behind it.

A poll reads the address of the node with its type and its driver, and takes over the type
and the driver. The address stays the number of the slot.
-/

namespace GridexEdge.RockPi

open GridexEdge.Core Foundation Node

/-- Who a node is. -/
structure NodeIdentity where
  address : UInt8
  nodeType : UInt16
  driverId : UInt16

def NodeIdentity.ofConfig (config : NodeConfig) : NodeIdentity where
  address := config.address
  nodeType := config.type
  driverId := config.driverId

def MbusNodeTelemetry.identity (sample : MbusNodeTelemetry) : NodeIdentity where
  address := sample.address
  nodeType := sample.nodeType
  driverId := sample.driverId

/-! ### What is published -/

/-- A client of the bank and a reader of the message find this identity. -/
structure PublishesIdentity (slot : Nat) (bank : NorthboundRegisterBank) (message : List UInt8)
    (identity : NodeIdentity) : Prop where
  address : slot < 32 →
    bank.readInput (UInt16.ofNat (windowBase slot + NodeInput.address)) 1 =
      some [identity.address.toUInt16]
  nodeType : slot < 32 →
    bank.readInput (UInt16.ofNat (windowBase slot + NodeInput.nodeType)) 1 =
      some [identity.nodeType]
  driverId : slot < 32 →
    bank.readInput (UInt16.ofNat (windowBase slot + NodeInput.driverId)) 1 =
      some [identity.driverId]
  nodeAddress :
    ((Json.read message).bind (Json.field? (asciiBytes "nodeAddress".toList))).bind
      Json.natural? = some identity.address.toNat

/-- A message has one address. -/
theorem PublishesIdentity.address_inj {slot : Nat} {bank : NorthboundRegisterBank}
    {message : List UInt8} {first second : NodeIdentity}
    (left : PublishesIdentity slot bank message first)
    (right : PublishesIdentity slot bank message second) : first.address = second.address :=
  UInt8.toNat_inj.mp (Option.some.inj (left.nodeAddress.symm.trans right.nodeAddress))

theorem nodeAddress_nodeTelemetryPayload (gmtime : Int → Utc) (observedAt : Utc) (slot : Nat)
    (sample : MbusNodeTelemetry) :
    ((Json.read (nodeTelemetryPayload gmtime observedAt slot sample)).bind
        (Json.field? (asciiBytes "nodeAddress".toList))).bind Json.natural? =
      some sample.address.toNat := by
  have version : (asciiBytes "nodeAddress".toList == asciiBytes "schemaVersion".toList) =
      false := by decide
  have time : (asciiBytes "nodeAddress".toList == asciiBytes "observedAt".toList) =
      false := by decide
  have place : (asciiBytes "nodeAddress".toList == asciiBytes "slot".toList) = false := by decide
  have found : (payloadObject observedAt (nodeTelemetryMembers gmtime slot sample)).field?
      (asciiBytes "nodeAddress".toList) = some (integer sample.address.toNat) := by
    simp only [Json.field?, payloadObject, nodeTelemetryMembers, namedMember, List.map_cons,
      List.lookup_cons, version, time, place, beq_self_eq_true]
  rw [nodeTelemetryPayload_reads, Option.bind_some, found]
  exact Json.natural?_decimal _

/-! ### What a poll takes over -/

section Poll

variable {Device : Type} (site : NodeSite Device)

/-- At every moment of its log a node shows the identity it has. -/
theorem NodeSite.identified (log : List FirmwareEvent) : Identified (site.firmware log).node :=
  run_invariant (Firmware.step site.driver) (fun firmware => Identified firmware.node)
    (fun firmware event => firmware.identified_step site.driver event)
    (.ofConfig site.config) log

/-- A poll that asks at this moment reads it there. -/
theorem NodeSite.getD_identity (log : List FirmwareEvent) (index : Nat) (address : UInt16)
    {value : UInt16} (listed : (address, value) ∈ identityRegisters (site.firmware log).node.config)
    (place : address.toNat = 0 + index) (within : index < 13) :
    (readRange (site.firmware log).node.registers 0 13).getD index 0 = value := by
  rw [getD_readRange _ place within (by omega)]
  exact site.identified log (address, value) listed

/-- The type and the driver are those of the node, the address is the old one. -/
theorem identity_polledAt (old : MbusNodeTelemetry) (steadyNow : SteadyTime) (systemNow : Int)
    (identityRead telemetryRead : List FirmwareEvent) (health : Option (List UInt16)) :
    (polledAt old steadyNow systemNow site identityRead telemetryRead health).identity =
      { NodeIdentity.ofConfig (site.firmware identityRead).node.config with
        address := old.address } := by
  have nodeType : (readRange (site.firmware identityRead).node.registers 0 13).getD 2 0 =
      (site.firmware identityRead).node.config.type :=
    site.getD_identity identityRead 2 Reg.nodeType (by simp [identityRegisters]) rfl (by omega)
  have driverId : (readRange (site.firmware identityRead).node.registers 0 13).getD 5 0 =
      (site.firmware identityRead).node.config.driverId :=
    site.getD_identity identityRead 5 Reg.driverId (by simp [identityRegisters]) rfl (by omega)
  rw [polledAt, NodePollingService.withHealth_withTelemetry, NodeIdentity.ofConfig, ← nodeType,
    ← driverId]
  cases health <;> rfl

end Poll

namespace NodeGateway

variable {Device : Type} {gateway : NodeGateway Device} {slot : Nat} {event : NodeGatewayEvent}

/-! The address of a slot -/

theorem addresses_pollNode {World : Type} (network : Network World)
    (service : NodePollingService World) (steadyNow : SteadyTime) (systemNow : Int)
    (polled : Nat) :
    (service.pollNode network steadyNow systemNow polled).samples.map MbusNodeTelemetry.address =
      service.samples.map MbusNodeTelemetry.address := by
  unfold NodePollingService.pollNode
  split
  · next client sample _ sampled =>
      obtain ⟨_, rfl⟩ := List.getElem?_eq_some_iff.mp sampled
      have kept : (NodePollingService.pollSample network client service.samples[polled] steadyNow
          systemNow).1.address = service.samples[polled].address := by
        rw [NodePollingService.pollSample_eq_record, NodePollingService.address_record]
      have mapped : (service.samples.map MbusNodeTelemetry.address)[polled]? =
          some service.samples[polled].address := by
        rw [List.getElem?_map, sampled]
        rfl
      obtain ⟨inside, same⟩ := List.getElem?_eq_some_iff.mp mapped
      dsimp only
      rw [List.map_set, kept, ← same, List.set_getElem_self]
  · rfl

theorem addresses_step (gateway : NodeGateway Device) (event : NodeGatewayEvent) :
    (gateway.step event).polling.samples.map MbusNodeTelemetry.address =
      gateway.polling.samples.map MbusNodeTelemetry.address := by
  cases event with
  | pollNode polled steadyNow systemNow => exact addresses_pollNode _ _ _ _ polled
  | publishNode now published =>
      unfold step
      dsimp only
      split <;> rfl
  | _ => rfl

/-- No run changes the address a slot was given before its first poll. -/
theorem address_run {endpoints : List (UInt8 × NodeSite Device)} {events : List NodeGatewayEvent}
    {sample : MbusNodeTelemetry}
    (sampled : (run step (start endpoints) events).polling.samples[slot]? = some sample) :
    sample.address = UInt8.ofNat (slot + 1) := by
  have numbered : (run step (start endpoints) events).polling.samples.map
      MbusNodeTelemetry.address =
        (List.range endpoints.length).map fun index => UInt8.ofNat (index + 1) := by
    apply run_invariant step (fun later => later.polling.samples.map MbusNodeTelemetry.address = _)
    · exact fun later event same => (addresses_step later event).trans same
    · simp [start, NodePollingService.ofEndpoints]
  have listed : ((List.range endpoints.length).map fun index => UInt8.ofNat (index + 1))[slot]? =
      some sample.address := by
    rw [← numbered, List.getElem?_map, sampled]
    rfl
  rw [List.getElem?_map] at listed
  obtain ⟨index, found, same⟩ := Option.map_eq_some_iff.mp listed
  obtain ⟨bounded, place⟩ := List.getElem?_eq_some_iff.mp found
  rw [List.getElem_range] at place
  rw [← same, place]

/-! Polls that fail -/

/-- The event is no successful poll of the slot. -/
def Unsuccessful (slot : Nat) (gateway : NodeGateway Device) (event : NodeGatewayEvent) : Prop :=
  event.polls slot = true → (gateway.step event).online slot = false

instance decidableUnsuccessful (slot : Nat) (gateway : NodeGateway Device)
    (event : NodeGatewayEvent) : Decidable (Unsuccessful slot gateway event) :=
  inferInstanceAs (Decidable (_ → _))

/-- The sample of the slot has this identity. -/
def Knows (slot : Nat) (identity : NodeIdentity) (gateway : NodeGateway Device) : Prop :=
  ∃ sample, gateway.polling.samples[slot]? = some sample ∧ sample.identity = identity

theorem knows_step {identity : NodeIdentity} (knows : Knows slot identity gateway)
    (unsuccessful : Unsuccessful slot gateway event) :
    Knows slot identity (gateway.step event) := by
  obtain ⟨sample, sampled, rfl⟩ := knows
  cases polls : event.polls slot with
  | false => exact ⟨sample, (sample_step polls).trans sampled, rfl⟩
  | true =>
      have failed := unsuccessful polls
      cases event with
      | pollNode polled steadyNow systemNow =>
          obtain rfl : polled = slot := by simpa [NodeGatewayEvent.polls] using polls
          cases found : gateway.polling.clients[polled]? with
          | none =>
              refine ⟨sample, ?_, rfl⟩
              rw [step, NodePollingService.pollNode, found]
              exact sampled
          | some client =>
              have seen := (step_pollNode found sampled steadyNow systemNow).2
              rw [NodePollingService.pollSample_eq_record] at seen
              refine ⟨_, seen, ?_⟩
              rw [online, seen] at failed
              cases outcome : NodePollingService.pollOutcome liveNetwork client steadyNow
                  systemNow with
              | failed failure => rfl
              | succeeded success =>
                  rw [outcome] at failed
                  exact absurd failed (by simp [NodePollingService.online_record,
                    PollOutcome.isFailure])
      | _ => exact Bool.noConfusion polls

/-- A message about a slot, composed from the copy. -/
def message (gmtime : Int → Utc) (observedAt : Utc) (slot : Nat) (gateway : NodeGateway Device) :
    Option (List UInt8) :=
  (gateway.nodeSamples[slot]?).map (nodeTelemetryPayload gmtime observedAt (slot + 1))

end NodeGateway

/-! ### From a poll to what is published -/

/-- A run in which a slot is polled, the samples are copied, the slot is published and a
message about it is composed from the same copy. -/
structure Announcement (slot : Nat) where
  history : List NodeGatewayEvent
  steadyNow : SteadyTime
  systemNow : Int
  afterPoll : List NodeGatewayEvent
  afterCopy : List NodeGatewayEvent
  now : SteadyTime
  beforeMessage : List NodeGatewayEvent
  uncopied : ∀ event ∈ afterCopy ++ beforeMessage, event.copies = false
  afterMessage : List NodeGatewayEvent
  unpublished : ∀ event ∈ beforeMessage ++ afterMessage, event.publishes slot = false

namespace Announcement

variable {Device : Type} {slot : Nat} (announcement : Announcement slot)
  (gateway : NodeGateway Device)

def reached : NodeGateway Device := run NodeGateway.step gateway announcement.history

def polled : NodeGateway Device :=
  (announcement.reached gateway).step
    (.pollNode slot announcement.steadyNow announcement.systemNow)

/-- The poll is the last one of the slot that succeeds before the samples are copied. -/
def Latest : Prop :=
  (announcement.polled gateway).online slot = true ∧
    Along NodeGateway.step (NodeGateway.Unsuccessful slot) (announcement.polled gateway)
      announcement.afterPoll

instance decidableLatest : Decidable (announcement.Latest gateway) :=
  inferInstanceAs (Decidable (_ ∧ _))

def copied : NodeGateway Device :=
  (run NodeGateway.step (announcement.polled gateway) announcement.afterPoll).step .samples

def published : NodeGateway Device :=
  (run NodeGateway.step (announcement.copied gateway) announcement.afterCopy).step
    (.publishNode announcement.now slot)

def composing : NodeGateway Device :=
  run NodeGateway.step (announcement.published gateway) announcement.beforeMessage

def final : NodeGateway Device :=
  run NodeGateway.step (announcement.composing gateway) announcement.afterMessage

theorem address_polled {endpoints : List (UInt8 × NodeSite Device)} {sample : MbusNodeTelemetry}
    (sampled : (announcement.polled (.start endpoints)).polling.samples[slot]? = some sample) :
    sample.address = UInt8.ofNat (slot + 1) := by
  have last : announcement.polled (.start endpoints) = run NodeGateway.step (.start endpoints)
      (announcement.history ++ [.pollNode slot announcement.steadyNow announcement.systemNow]) := by
    rw [run_append]
    rfl
  rw [last] at sampled
  exact NodeGateway.address_run sampled

/-- The copy knows of a node what its last successful poll has found out. -/
theorem knows_copied {identity : NodeIdentity}
    (unsuccessful : Along NodeGateway.step (NodeGateway.Unsuccessful slot)
      (announcement.polled gateway) announcement.afterPoll)
    (knows : NodeGateway.Knows slot identity (announcement.polled gateway)) :
    ∃ sample, (announcement.copied gateway).nodeSamples[slot]? = some sample ∧
      sample.identity = identity :=
  run_invariant_of_along NodeGateway.step (NodeGateway.Knows slot identity)
    (fun _ _ _ knows unsuccessful => NodeGateway.knows_step knows unsuccessful) knows unsuccessful

section Publication

variable {announcement gateway} {sample : MbusNodeTelemetry}
  (copied : (announcement.copied gateway).nodeSamples[slot]? = some sample)

include copied

theorem published_eq :
    (announcement.published gateway).nodeSamples[slot]? = some sample ∧
      (announcement.published gateway).bank =
        (run NodeGateway.step (announcement.copied gateway) announcement.afterCopy).bank.publishNode
          announcement.now slot sample := by
  have kept : (run NodeGateway.step (announcement.copied gateway)
      announcement.afterCopy).nodeSamples[slot]? = some sample := by
    rw [NodeGateway.nodeSamples_run fun event member =>
      announcement.uncopied event (List.mem_append_left _ member)]
    exact copied
  rw [published, NodeGateway.step_publishNode announcement.now kept]
  exact ⟨kept, rfl⟩

theorem message_composing (gmtime : Int → Utc) (observedAt : Utc) :
    (announcement.composing gateway).message gmtime observedAt slot =
      some (nodeTelemetryPayload gmtime observedAt (slot + 1) sample) := by
  rw [composing, NodeGateway.message, NodeGateway.nodeSamples_run fun event member =>
    announcement.uncopied event (List.mem_append_right _ member), (published_eq copied).1]
  rfl

/-- A published word is what a client of the bank reads in the end. -/
theorem readInput_final (inside : slot < 32) (position : Nat) {offset : Nat} {word : UInt16}
    (offered : (NorthboundRegisterBank.nodePublication (windowBase slot) announcement.now
      sample)[position]? = some (windowBase slot + offset, word)) (short : offset < 16) :
    (announcement.final gateway).bank.readInput (UInt16.ofNat (windowBase slot + offset)) 1 =
      some [word] := by
  have window : InSlot slot (windowBase slot + offset) :=
    ⟨Nat.le_add_right _ _, Nat.add_lt_add_left short _⟩
  have held : (announcement.final gateway).bank.input[windowBase slot + offset]? = some word := by
    rw [final, composing, ← run_append, NodeGateway.input_run announcement.unpublished window,
      (published_eq copied).2]
    exact NorthboundRegisterBank.input_publishNode _ _ _ inside position offered
  have start : (UInt16.ofNat (windowBase slot + offset)).toNat = windowBase slot + offset := by
    rw [UInt16.toNat_ofNat', windowBase_eq]
    omega
  apply NorthboundRegisterBank.readInput_of_held _ rfl (List.cons_ne_nil _ _)
  · rw [start, windowBase_eq, List.length_singleton]
    omega
  · rw [start]
    intro index bounded
    match index, bounded with
    | 0, _ => exact held

/-- Whatever the copy knows of the identity is published. -/
theorem publishesIdentity (gmtime : Int → Utc) (observedAt : Utc) :
    PublishesIdentity slot (announcement.final gateway).bank
      (nodeTelemetryPayload gmtime observedAt (slot + 1) sample) sample.identity where
  address inside := readInput_final copied inside 1 rfl (by decide)
  nodeType inside := readInput_final copied inside 2 rfl (by decide)
  driverId inside := readInput_final copied inside 4 rfl (by decide)
  nodeAddress := nodeAddress_nodeTelemetryPayload gmtime observedAt (slot + 1) sample

end Publication

end Announcement

/-- For all nodes, any order of their own events, of polls, copies and publications: after a
successful poll the gateway publishes the type and the driver the node had when it was asked
who it is, and the number of the slot for its address. This is the identity of the node
exactly when the node had that address. -/
theorem published_identity_iff {Device : Type} (endpoints : List (UInt8 × NodeSite Device))
    {slot : Nat} (announcement : Announcement slot) (gmtime : Int → Utc) (observedAt : Utc)
    (latest : announcement.Latest (.start endpoints)) :
    let gateway := NodeGateway.start endpoints
    ∃ unit site client message,
      endpoints[slot]? = some (unit, site) ∧
      (announcement.reached gateway).polling.clients[slot]? = some client ∧
      (announcement.reached gateway).log slot <+: identityReadAt client ∧
      identityReadAt client <+: (announcement.polled gateway).log slot ∧
      (announcement.composing gateway).message gmtime observedAt slot = some message ∧
      let identity := NodeIdentity.ofConfig (site.firmware (identityReadAt client)).node.config
      PublishesIdentity slot (announcement.final gateway).bank message
          { identity with address := UInt8.ofNat (slot + 1) } ∧
        (PublishesIdentity slot (announcement.final gateway).bank message identity ↔
          identity.address = UInt8.ofNat (slot + 1)) := by
  intro gateway
  obtain ⟨online, unsuccessful⟩ := latest
  obtain ⟨unit, site, client, configured, found, quiet, rfl⟩ := NodeGateway.client_of_online online
  obtain ⟨old, health, seen, first, second, third⟩ := NodeGateway.step_pollNode_online found quiet
    announcement.steadyNow announcement.systemNow online
  have taken := identity_polledAt client.world.site old announcement.steadyNow
    announcement.systemNow (identityReadAt client) (telemetryReadAt client) health
  have numbered : old.address = UInt8.ofNat (slot + 1) :=
    (congrArg NodeIdentity.address taken).symm.trans (announcement.address_polled seen)
  rw [numbered] at taken
  obtain ⟨sample, sampled, known⟩ := announcement.knows_copied gateway unsuccessful ⟨_, seen, taken⟩
  have publishes := Announcement.publishesIdentity sampled gmtime observedAt
  rw [known] at publishes
  refine ⟨unit, client.world.site, client, _, configured, found, first, second.trans third,
    Announcement.message_composing sampled gmtime observedAt, publishes, ?_⟩
  constructor
  · exact fun own => own.address_inj publishes
  · intro same
    rwa [← same] at publishes

/-- A node that powers on unconfigured, with a temporary address, and is provisioned over its
serial port before the gateway asks for anything. -/
def provisionedSite (address : Nat) : NodeSite Unit where
  driver := { applyPowerCommand := fun _ _ => (false, ()) }
  config := { uid := 0x0123456789ABCDEF }
  device := ()
  gateway := 7
  clock := fun _ => 0
  activity := fun call =>
    if call = 0 then [.setRockPiAddress 7, .provisionNode address 1 77] else []
  fragment := fun _ => 300

def provisionedEndpoints (address : Nat) : List (UInt8 × NodeSite Unit) :=
  [(1, provisionedSite address)]

def firstAnnouncement : Announcement 0 where
  history := []
  steadyNow := 0
  systemNow := 1
  afterPoll := []
  afterCopy := []
  now := 0
  beforeMessage := [.pollNode 0 1 2]
  uncopied := by decide
  afterMessage := [.samples]
  unpublished := by decide

theorem published_identity_iff_provisioned :
    let gateway := NodeGateway.start (provisionedEndpoints 1)
    ∃ unit site client message,
      (provisionedEndpoints 1)[0]? = some (unit, site) ∧
      (firstAnnouncement.reached gateway).polling.clients[0]? = some client ∧
      (firstAnnouncement.reached gateway).log 0 <+: identityReadAt client ∧
      identityReadAt client <+: (firstAnnouncement.polled gateway).log 0 ∧
      (firstAnnouncement.composing gateway).message (fun _ => {}) {} 0 = some message ∧
      let identity := NodeIdentity.ofConfig (site.firmware (identityReadAt client)).node.config
      PublishesIdentity 0 (firstAnnouncement.final gateway).bank message
          { identity with address := UInt8.ofNat (0 + 1) } ∧
        (PublishesIdentity 0 (firstAnnouncement.final gateway).bank message identity ↔
          identity.address = UInt8.ofNat (0 + 1)) :=
  published_identity_iff (provisionedEndpoints 1) firstAnnouncement (fun _ => {}) {}
    (by decide +kernel)

/-- Slot 0 is published with address 1 while the node behind it has been provisioned with
address 5. -/
theorem published_identity_fails :
    ¬∀ (endpoints : List (UInt8 × NodeSite Unit)) (slot : Nat) (announcement : Announcement slot)
        (gmtime : Int → Utc) (observedAt : Utc),
      let gateway := NodeGateway.start endpoints
      announcement.Latest gateway →
        ∀ unit site client message, endpoints[slot]? = some (unit, site) →
          (announcement.reached gateway).polling.clients[slot]? = some client →
          (announcement.composing gateway).message gmtime observedAt slot = some message →
          PublishesIdentity slot (announcement.final gateway).bank message
            (.ofConfig (site.firmware (identityReadAt client)).node.config) := by
  intro published
  have latest : firstAnnouncement.Latest (.start (provisionedEndpoints 5)) := by decide +kernel
  have composed : ((firstAnnouncement.composing (.start (provisionedEndpoints 5))).message
      (fun _ => {}) {} 0).isSome = true := by decide +kernel
  obtain ⟨message, found⟩ := Option.isSome_iff_exists.mp composed
  have shown := (published (provisionedEndpoints 5) 0 firstAnnouncement (fun _ => {}) {} latest 1
    (provisionedSite 5) { unitId := 1, world := { site := provisionedSite 5 } } message rfl rfl
    found).address (by decide)
  have read : (firstAnnouncement.final (.start (provisionedEndpoints 5))).bank.readInput
      (UInt16.ofNat (windowBase 0 + NodeInput.address)) 1 = some [1] := by decide +kernel
  rw [read] at shown
  exact absurd shown (by decide +kernel)

end GridexEdge.RockPi
