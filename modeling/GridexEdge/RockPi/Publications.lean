import GridexEdge.Core.EdgeController
import GridexEdge.Foundation.Runs
import GridexEdge.RockPi.MqttHealthPublisher

/-!
What the gateway publishes to its broker.

The callbacks of the MQTT library come from a thread of its own and may fall between any
two calls of the loop, so a run is a list of calls and callbacks. A subscriber tells the
messages apart by their topics alone.
-/

namespace GridexEdge.RockPi

open GridexEdge.Core Foundation

/-! ### Topics -/

/-- An identifier that may be a level of a topic, or nothing. -/
def topicPart (value : List UInt8) : List UInt8 :=
  if value = [] ∨ value.any fun character =>
      character == 0x2F || character == 0x2B || character == 0x23 then []
  else value

inductive TopicKind where
  | health
  | nodeTelemetry (slot : Nat)
  | systemTelemetry
  deriving DecidableEq

/-- What a topic names. -/
structure Subject where
  siteId : List UInt8
  gatewayId : List UInt8
  kind : TopicKind
  deriving DecidableEq

def TopicKind.ending : TopicKind → List UInt8
  | .health => asciiBytes "/health".toList
  | .nodeTelemetry slot =>
      asciiBytes "/nodes/".toList ++ asciiBytes (decimal slot) ++ asciiBytes "/telemetry".toList
  | .systemTelemetry => asciiBytes "/system/telemetry".toList

def Subject.topic (topicPrefix : List UInt8) (subject : Subject) : List UInt8 :=
  topicPrefix ++ asciiBytes "/sites/".toList ++ subject.siteId ++ asciiBytes "/edge/".toList ++
    subject.gatewayId ++ subject.kind.ending

/-- An identifier that is a level of its own. -/
structure Level (value : List UInt8) : Prop where
  nonempty : value ≠ []
  plain : ∀ character ∈ value, character ≠ 0x2F ∧ character ≠ 0x2B ∧ character ≠ 0x23

theorem topicPart_of_ne_nil {value : List UInt8} (part : topicPart value ≠ []) :
    topicPart value = value ∧ Level value := by
  rw [topicPart] at part ⊢
  split at part
  · exact absurd rfl part
  · next admitted =>
      rw [if_neg admitted]
      rw [not_or, Bool.not_eq_true, List.any_eq_false] at admitted
      refine ⟨rfl, admitted.1, fun character member => ?_⟩
      simpa [and_assoc] using admitted.2 character member

/-- Two identifiers that are levels of their own. -/
structure Subject.Plain (subject : Subject) : Prop where
  site : Level subject.siteId
  gateway : Level subject.gatewayId

/-- The publisher after its construction: whether there is a client of the library, and
what the last callback has said about the connection. -/
structure MqttHealthPublisher where
  topicPrefix : List UInt8
  client : Bool
  connected_ : Bool := false

/-- What is handed to the library. -/
structure Publication where
  topic : List UInt8
  payload : List UInt8
  retained : Bool

namespace MqttHealthPublisher

variable (publisher : MqttHealthPublisher)

def connected : Bool := publisher.client && publisher.connected_

/-- Zero is the success of the library. -/
def onConnect (result : Int) : MqttHealthPublisher :=
  { publisher with connected_ := result == 0 }

def onDisconnect : MqttHealthPublisher := { publisher with connected_ := false }

/-- A message under a subject, if the connection stands and the identifiers are levels. -/
def publish (siteId gatewayId : List UInt8) (kind : TopicKind) (payload : List UInt8)
    (retained : Bool) : Option Publication :=
  let site := topicPart siteId
  let gateway := topicPart gatewayId
  if !publisher.connected || site.isEmpty || gateway.isEmpty then none
  else
    some
      { topic := Subject.topic publisher.topicPrefix ⟨site, gateway, kind⟩
        payload := payload
        retained := retained }

def publishHealth (siteId : List UInt8) (observedAt : Utc) (message : EdgeHealthMessage) :
    Option Publication :=
  publisher.publish siteId message.gatewayId .health (healthPayload observedAt message) true

def publishNodeTelemetry (gmtime : Int → Utc) (siteId gatewayId : List UInt8) (observedAt : Utc)
    (slot : Nat) (sample : MbusNodeTelemetry) : Option Publication :=
  if slot = 0 then none
  else
    publisher.publish siteId gatewayId (.nodeTelemetry slot)
      (nodeTelemetryPayload gmtime observedAt slot sample) false

def printedValue (value : ℚ) : List UInt8 := asciiBytes (streamDouble value)

def publishSystemTelemetry (siteId gatewayId bootId : List UInt8) (observedAt : Utc)
    (sequence : UInt64) (samples : List (SystemTelemetrySample ℚ)) : Option Publication :=
  if samples.isEmpty then none
  else
    publisher.publish siteId gatewayId .systemTelemetry
      (systemTelemetryPayload printedValue observedAt gatewayId bootId sequence samples) false

/-- A message that is published has the subject of its identifiers. -/
theorem publish_eq_some {siteId gatewayId payload : List UInt8} {kind : TopicKind}
    {retained : Bool} {publication : Publication}
    (published : publisher.publish siteId gatewayId kind payload retained = some publication) :
    publisher.connected = true ∧ Subject.Plain ⟨siteId, gatewayId, kind⟩ ∧
      publication =
        { topic := Subject.topic publisher.topicPrefix ⟨siteId, gatewayId, kind⟩
          payload := payload
          retained := retained } := by
  rw [publish] at published
  split at published
  · cases published
  · next open_ =>
      simp only [Bool.or_eq_true, Bool.not_eq_true', List.isEmpty_iff, not_or,
        Bool.not_eq_false] at open_
      obtain ⟨sameSite, site⟩ := topicPart_of_ne_nil open_.1.2
      obtain ⟨sameGateway, gateway⟩ := topicPart_of_ne_nil open_.2
      rw [sameSite, sameGateway] at published
      exact ⟨open_.1.1, ⟨site, gateway⟩, (Option.some.inj published).symm⟩

end MqttHealthPublisher

/-! ### The publishing of the loop -/

/-- The settings of the environment, and the calendar of the system. -/
structure PublishSettings where
  siteId : List UInt8
  gatewayId : List UInt8
  bootId : List UInt8
  healthPublishSeconds : Int
  nodeTelemetryPublishSeconds : Int
  systemTelemetryPublishSeconds : Int
  systemTelemetryEnabled : Bool
  gmtime : Int → Utc

namespace PublishSettings

variable (settings : PublishSettings)

def healthInterval : Int := seconds (max 2 (min settings.healthPublishSeconds 300))

def telemetryInterval : Int := seconds (max 1 (min settings.nodeTelemetryPublishSeconds 300))

def systemTelemetryInterval : Int :=
  seconds (max 5 (min settings.systemTelemetryPublishSeconds 3600))

end PublishSettings

structure PublishLoop where
  publisher : MqttHealthPublisher
  nextHealthPublish : SteadyTime
  nextTelemetryPublish : SteadyTime
  nextSystemTelemetryPublish : SteadyTime
  systemTelemetrySequence : UInt64 := 0
  /-- A system telemetry that has been numbered and not yet published. -/
  numbered : Option UInt64 := none

/-- The callbacks of the library and the calls of the loop. The slots of the node
telemetry come one by one, and the connection is asked for twice for the system telemetry. -/
inductive PublishEvent where
  | onConnect (result : Int)
  | onDisconnect
  | health (now : SteadyTime) (observedAt : Utc) (snapshot : ControllerSnapshot)
      (nodeSamples : List MbusNodeTelemetry) (cpuTemperatureC : Option ℚ)
  | nodeTelemetry (now : SteadyTime) (observedAt : Utc) (slot : Nat) (sample : MbusNodeTelemetry)
  | endNodeTelemetry (now : SteadyTime)
  | beginSystemTelemetry (now : SteadyTime)
  | systemTelemetry (now : SteadyTime) (observedAt : Utc)
      (samples : List (SystemTelemetrySample ℚ))

def PublishEvent.isCallback : PublishEvent → Bool
  | .onConnect _ => true
  | .onDisconnect => true
  | _ => false

/-- What one pass of the loop finds. -/
structure PublishPass where
  now : SteadyTime
  observedAt : Utc
  snapshot : ControllerSnapshot
  nodeSamples : List MbusNodeTelemetry
  cpuTemperatureC : Option ℚ
  samples : List (SystemTelemetrySample ℚ)

/-- The calls of a pass, without the callbacks between them. -/
def PublishPass.events (pass : PublishPass) : List PublishEvent :=
  .health pass.now pass.observedAt pass.snapshot pass.nodeSamples pass.cpuTemperatureC ::
    (pass.nodeSamples.zipIdx.map fun (sample, slot) =>
      .nodeTelemetry pass.now pass.observedAt slot sample) ++
    [.endNodeTelemetry pass.now, .beginSystemTelemetry pass.now,
      .systemTelemetry pass.now pass.observedAt pass.samples]

namespace PublishLoop

variable (settings : PublishSettings) (loop : PublishLoop)

def healthMessage (snapshot : ControllerSnapshot) (nodeSamples : List MbusNodeTelemetry)
    (cpuTemperatureC : Option ℚ) : EdgeHealthMessage :=
  let safeMode := snapshot.state == .safeMode
  let controlReady := snapshot.state == .ready
  { gatewayId := settings.gatewayId
    state :=
      asciiBytes (if safeMode then "safe_mode" else if controlReady then "ready"
        else "degraded").toList
    pcsHeartbeatOk := snapshot.heartbeatOk
    controlReady := controlReady
    safeMode := safeMode
    northboundReady := true
    nodeOnlineCount := nodeSamples.countP (·.online)
    nodeTotal := nodeSamples.length
    cpuTemperatureC := cpuTemperatureC }

/-- What an event hands to the library. -/
def handed : PublishEvent → Option Publication
  | .health now observedAt snapshot nodeSamples cpuTemperatureC =>
      if loop.nextHealthPublish ≤ now then
        loop.publisher.publishHealth settings.siteId observedAt
          (healthMessage settings snapshot nodeSamples cpuTemperatureC)
      else none
  | .nodeTelemetry now observedAt slot sample =>
      if loop.nextTelemetryPublish ≤ now then
        loop.publisher.publishNodeTelemetry settings.gmtime settings.siteId settings.gatewayId
          observedAt (slot + 1) sample
      else none
  | .systemTelemetry _ observedAt samples =>
      loop.numbered.bind fun sequence =>
        loop.publisher.publishSystemTelemetry settings.siteId settings.gatewayId settings.bootId
          observedAt sequence samples
  | _ => none

def step : PublishEvent → PublishLoop
  | .onConnect result => { loop with publisher := loop.publisher.onConnect result }
  | .onDisconnect => { loop with publisher := loop.publisher.onDisconnect }
  | .health now _ _ _ _ =>
      if loop.nextHealthPublish ≤ now then
        { loop with nextHealthPublish := now + settings.healthInterval }
      else loop
  | .nodeTelemetry _ _ _ _ => loop
  | .endNodeTelemetry now =>
      if loop.nextTelemetryPublish ≤ now then
        { loop with nextTelemetryPublish := now + settings.telemetryInterval }
      else loop
  | .beginSystemTelemetry now =>
      if settings.systemTelemetryEnabled && loop.publisher.connected &&
          decide (loop.nextSystemTelemetryPublish ≤ now) then
        { loop with
          systemTelemetrySequence := loop.systemTelemetrySequence + 1
          numbered := some (loop.systemTelemetrySequence + 1)
          nextSystemTelemetryPublish := now + settings.systemTelemetryInterval }
      else { loop with numbered := none }
  | .systemTelemetry _ _ _ => { loop with numbered := none }

/-- The loop at its start. -/
def start (topicPrefix : List UInt8) (client : Bool) (now : SteadyTime) : PublishLoop where
  publisher := { topicPrefix, client }
  nextHealthPublish := now
  nextTelemetryPublish := now
  nextSystemTelemetryPublish := now

/-- All that is handed to the library in a run. -/
def publications (events : List PublishEvent) : List Publication :=
  outputs (step settings) (fun loop event => (loop.handed settings event).toList) loop events

/-- What an event is to say, and about what. -/
def message : PublishEvent → Option (TopicKind × Json)
  | .health _ observedAt snapshot nodeSamples cpuTemperatureC =>
      some (.health, payloadObject observedAt
        (healthMembers (healthMessage settings snapshot nodeSamples cpuTemperatureC)))
  | .nodeTelemetry _ observedAt slot sample =>
      some (.nodeTelemetry (slot + 1), payloadObject observedAt
        (nodeTelemetryMembers settings.gmtime (slot + 1) sample))
  | .systemTelemetry _ observedAt samples =>
      loop.numbered.map fun sequence =>
        (.systemTelemetry, payloadObject observedAt
          (systemTelemetryMembers MqttHealthPublisher.printedValue settings.gatewayId
            settings.bootId sequence samples))
  | _ => none

/-- What an event says under a subject, if it is published. -/
def said (subject : Subject) (event : PublishEvent) : List Json :=
  match loop.handed settings event, loop.message settings event with
  | some _, some (kind, content) =>
      if subject = ⟨settings.siteId, settings.gatewayId, kind⟩ then [content] else []
  | _, _ => []

/-- What a subscriber of a subject reads. -/
def heard (topicPrefix : List UInt8) (subject : Subject) (publications : List Publication) :
    List (Option Json) :=
  (publications.filter fun publication => publication.topic == subject.topic topicPrefix).map
    fun publication => Json.read publication.payload

variable {settings} {loop : PublishLoop}

/-- A printed value is a number, so the payload is read back whatever the samples are. -/
theorem read_systemTelemetry (observedAt : Utc) (gatewayId bootId : List UInt8)
    (sequence : UInt64) (samples : List (SystemTelemetrySample ℚ)) :
    Json.read (systemTelemetryPayload MqttHealthPublisher.printedValue observedAt gatewayId bootId
        sequence samples) =
      some (payloadObject observedAt (systemTelemetryMembers MqttHealthPublisher.printedValue
        gatewayId bootId sequence samples)) := by
  have plain : ["gatewayId", "bootId", "sequence", "samples"].all unescaped = true := by decide
  have items : Json.Numeric
      (.array (samples.map (sampleObject MqttHealthPublisher.printedValue))) :=
    numeric_samples _ fun sample _ => Json.isNumber_streamDouble sample.value
  rw [systemTelemetryPayload_eq]
  refine read_payload observedAt plain ?_
  simp only [systemTelemetryMembers, List.forall_mem_cons, Json.Numeric, numeric_integer]
  exact ⟨trivial, trivial, trivial, items, by simp⟩

/-- A publication says what it is to say, under its subject, over a standing connection. -/
theorem handed_eq_some {event : PublishEvent} {publication : Publication}
    (handed : loop.handed settings event = some publication) :
    loop.publisher.connected = true ∧ ∃ kind content,
      loop.message settings event = some (kind, content) ∧
      Subject.Plain ⟨settings.siteId, settings.gatewayId, kind⟩ ∧
      publication.topic = Subject.topic loop.publisher.topicPrefix
        ⟨settings.siteId, settings.gatewayId, kind⟩ ∧
      Json.read publication.payload = some content := by
  cases event with
  | onConnect | onDisconnect | endNodeTelemetry | beginSystemTelemetry => cases handed
  | health now observedAt snapshot nodeSamples cpuTemperatureC =>
      rw [PublishLoop.handed] at handed
      split at handed
      · obtain ⟨connected, plain, rfl⟩ := loop.publisher.publish_eq_some handed
        exact ⟨connected, _, _, rfl, plain, rfl, healthPayload_reads _ _⟩
      · cases handed
  | nodeTelemetry now observedAt slot sample =>
      rw [PublishLoop.handed] at handed
      split at handed
      · rw [MqttHealthPublisher.publishNodeTelemetry, if_neg (Nat.succ_ne_zero slot)] at handed
        obtain ⟨connected, plain, rfl⟩ := loop.publisher.publish_eq_some handed
        exact ⟨connected, _, _, rfl, plain, rfl, nodeTelemetryPayload_reads _ _ _ _⟩
      · cases handed
  | systemTelemetry now observedAt samples =>
      rw [PublishLoop.handed, Option.bind_eq_some_iff] at handed
      obtain ⟨sequence, numbered, published⟩ := handed
      rw [MqttHealthPublisher.publishSystemTelemetry] at published
      split at published
      · cases published
      · obtain ⟨connected, plain, rfl⟩ := loop.publisher.publish_eq_some published
        refine ⟨connected, .systemTelemetry, _, ?_, plain, rfl, read_systemTelemetry _ _ _ _ _⟩
        rw [message, numbered]
        rfl

/-- A gateway with identifiers that are levels, and its first pass with two nodes. -/
def pilotSettings : PublishSettings where
  siteId := asciiBytes "site-7".toList
  gatewayId := asciiBytes "edge-1".toList
  bootId := asciiBytes "unknown".toList
  healthPublishSeconds := 10
  nodeTelemetryPublishSeconds := 2
  systemTelemetryPublishSeconds := 30
  systemTelemetryEnabled := false
  gmtime := fun _ => { year := 2026, month := 1, day := 2, hour := 3, minute := 4, second := 5 }

def pilotPass : PublishPass where
  now := 0
  observedAt := { year := 2026, month := 1, day := 2, hour := 3, minute := 4, second := 5 }
  snapshot := {}
  nodeSamples := [{ heartbeat := 9 }, { heartbeat := 4 }]
  cpuTemperatureC := none
  samples := []

/-- The identifiers can be levels, and a message finds the connection standing. -/
structure Standing (settings : PublishSettings) (loop : PublishLoop) : Prop where
  connected : loop.publisher.connected = true
  site : Level settings.siteId
  gateway : Level settings.gatewayId

theorem topicPart_of_level {value : List UInt8} (level : Level value) :
    topicPart value = value := by
  rw [topicPart, if_neg]
  rw [not_or, Bool.not_eq_true, List.any_eq_false]
  refine ⟨level.nonempty, fun character member => ?_⟩
  simpa [and_assoc] using level.plain character member

theorem Standing.publish (standing : Standing settings loop) (kind : TopicKind)
    (payload : List UInt8) (retained : Bool) :
    (loop.publisher.publish settings.siteId settings.gatewayId kind payload retained).isSome =
      true := by
  rw [MqttHealthPublisher.publish, standing.connected, topicPart_of_level standing.site,
    topicPart_of_level standing.gateway]
  simp [standing.site.nonempty, standing.gateway.nonempty]

end PublishLoop

end GridexEdge.RockPi
