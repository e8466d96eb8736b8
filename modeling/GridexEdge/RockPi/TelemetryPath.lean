import GridexEdge.RockPi.PolledSlot
import GridexEdge.RockPi.Publications
import GridexEdge.RockPi.QualityRead

/-!
What a subscriber is told about a node, from its driver to the message.

The work of the node, the polls, the copies and the publications of the main loop and the
callbacks of the library come in any order. Every message tells of one read of the node,
and no message tells of an earlier read than the one before it.
-/

namespace GridexEdge.RockPi

open GridexEdge.Core Foundation Node

/-! ### Reads of a node -/

/-- A poll that got through: the log of the node at its two requests, and its time. -/
structure NodeRead where
  identity : List FirmwareEvent
  telemetry : List FirmwareEvent
  ordered : identity <+: telemetry
  systemNow : Int

namespace NodeRead

/-- The second is the first, or it was made after it. -/
def NotBefore (first second : Option NodeRead) : Prop :=
  second = first ∨ ∃ later ∈ second, ∀ earlier ∈ first, earlier.telemetry <+: later.identity

/-- A read, if there is one, that a log goes back to. -/
def Within (log : List FirmwareEvent) (read : Option NodeRead) : Prop :=
  ∀ made ∈ read, made.telemetry <+: log

theorem NotBefore.refl (read : Option NodeRead) : NotBefore read read := .inl rfl

theorem NotBefore.trans {first second third : Option NodeRead} (earlier : NotBefore first second)
    (later : NotBefore second third) : NotBefore first third := by
  rcases earlier with rfl | ⟨middle, isMiddle, afterFirst⟩
  · exact later
  · rcases later with rfl | ⟨last, isLast, afterMiddle⟩
    · exact .inr ⟨middle, isMiddle, afterFirst⟩
    · refine .inr ⟨last, isLast, fun made isFirst => ?_⟩
      have toMiddle := (afterFirst made isFirst).trans middle.ordered
      exact toMiddle.trans (afterMiddle middle isMiddle)

theorem Within.mono {log longer : List FirmwareEvent} {read : Option NodeRead}
    (within : Within log read) (grown : log <+: longer) : Within longer read :=
  fun made isRead => (within made isRead).trans grown

/-- What a later read has seen, the log has seen for an earlier one. -/
theorem NotBefore.within {log : List FirmwareEvent} {first second : Option NodeRead}
    (ordered : NotBefore first second) (within : Within log second) : Within log first := by
  rcases ordered with rfl | ⟨later, isLater, after⟩
  · exact within
  · intro made isFirst
    exact ((after made isFirst).trans later.ordered).trans (within later isLater)

end NodeRead

section Told

variable {Device : Type}

/-- The identity of the node at the first request, and the sample of its driver that it held
at the second. -/
structure ShowsRead (site : NodeSite Device) (sample : MbusNodeTelemetry) (read : NodeRead) :
    Prop extends ShowsReadings sample (lastSample read.telemetry) where
  identity : [sample.nodeType, sample.nodeState, sample.driverId, sample.quality,
    sample.heartbeat] = identityWords (site.firmware read.identity).node
  lastSuccessfulContact : sample.lastSuccessfulContact = read.systemNow

/-- The sample of a slot tells of a read of its node, or of none at all. -/
structure Told (site : NodeSite Device) (slot : Nat) (sample : MbusNodeTelemetry)
    (read : Option NodeRead) : Prop where
  address : sample.address = UInt8.ofNat (slot + 1)
  unread : read = none →
    sample.online = false ∧ sample.readings = ({} : MbusNodeTelemetry).readings
  shown : ∀ made ∈ read, ShowsRead site sample made

variable {site : NodeSite Device} {slot : Nat} {sample : MbusNodeTelemetry}
  {read : Option NodeRead}

/-- A poll that fails leaves what was read before. -/
theorem Told.failed (told : Told site slot sample read) (status : NodePollStatus) :
    Told site slot (NodePollingService.failed sample status) read where
  address := told.address
  unread never := ⟨rfl, (told.unread never).2⟩
  shown made isRead := by
    obtain ⟨⟨power, energy, state, alarms⟩, identity, contact⟩ := told.shown made isRead
    exact ⟨⟨power, energy, state, alarms⟩, identity, contact⟩

theorem Told.polledAt (told : Told site slot sample read) (steadyNow : SteadyTime)
    (systemNow : Int) {identityRead telemetryRead : List FirmwareEvent}
    (ordered : identityRead <+: telemetryRead) (health : Option (List UInt16)) :
    Told site slot
      (polledAt sample steadyNow systemNow site identityRead telemetryRead health)
      (some ⟨identityRead, telemetryRead, ordered, systemNow⟩) where
  address := by
    cases health with
    | none => exact told.address
    | some words => exact told.address
  unread never := absurd never (Option.some_ne_none _)
  shown made isRead := by
    cases Option.mem_some.mp isRead
    have words :=
      nodeWords_polledAt sample steadyNow systemNow site identityRead telemetryRead health
    exact
      { toShowsReadings :=
          readings_polledAt sample steadyNow systemNow site identityRead telemetryRead health
        identity := congrArg (List.take 5) words
        lastSuccessfulContact := rfl }

open PosixModbusTcpClient NodePollingService NodeRead in
/-- A poll that succeeds reads the node once more, and any other one leaves the read there
was. -/
theorem Told.pollSample {client : PosixModbusTcpClient (LiveNode Device)} (quiet : Quiet client)
    (told : Told client.world.site slot sample read) (within : Within client.world.log read)
    (steadyNow : SteadyTime) (systemNow : Int) :
    let polled := NodePollingService.pollSample liveNetwork client sample steadyNow systemNow
    ∃ next, Told client.world.site slot polled.1 next ∧ NotBefore read next ∧
      Within polled.2.world.log next ∧
      (next = read ∨ polled.1.online = true ∧ ∃ ordered,
        next = some ⟨identityReadAt client, telemetryReadAt client, ordered, systemNow⟩) := by
  intro polled
  cases answered : polled.1.online with
  | true =>
      obtain ⟨since, ordered, now, health, same⟩ :=
        pollSample_online sample steadyNow systemNow quiet answered
      refine ⟨some ⟨_, _, ordered, systemNow⟩, ?_, .inr ⟨_, rfl, ?_⟩, ?_,
        .inr ⟨rfl, ordered, rfl⟩⟩
      · rw [same]
        exact told.polledAt steadyNow systemNow ordered health
      · exact fun earlier isRead => (within earlier isRead).trans since
      · intro made isRead
        cases Option.mem_some.mp isRead
        exact now
  | false =>
      have failure : ∃ status, polled.1 = NodePollingService.failed sample status := by
        rcases pollSample_cases liveNetwork client sample steadyNow systemNow with
          ⟨status, failed⟩ | ⟨status, failed⟩ | ⟨identity, telemetry, -, -, succeeded⟩
        · exact ⟨status, congrArg Prod.fst failed⟩
        · exact ⟨status, congrArg Prod.fst failed⟩
        · have online : polled.1.online = true := by
            rw [show polled = _ from succeeded]
            rfl
          exact absurd (answered.symm.trans online) Bool.false_ne_true
      obtain ⟨status, failed⟩ := failure
      have ended := pollSample_ended sample steadyNow systemNow quiet
      refine ⟨read, ?_, .refl read, within.mono ended.follows.log, .inl rfl⟩
      rw [failed]
      exact told.failed status

end Told

/-! ### The path -/

/-- What happens around the nodes and the samples, the callbacks of the library, and the
calls of the loop, which publish from its copy of the samples. -/
inductive TelemetryEvent where
  | gateway (event : NodeGatewayEvent)
  | onConnect (result : Int)
  | onDisconnect
  | health (now : SteadyTime) (observedAt : Utc) (snapshot : ControllerSnapshot)
      (cpuTemperatureC : Option ℚ)
  | nodeTelemetry (now : SteadyTime) (observedAt : Utc) (slot : Nat)
  | endNodeTelemetry (now : SteadyTime)
  | beginSystemTelemetry (now : SteadyTime)
  | systemTelemetry (now : SteadyTime) (observedAt : Utc)
      (samples : List (SystemTelemetrySample ℚ))

namespace NodeGateway

variable {Device : Type} (gateway : NodeGateway Device)

def telemetryStep : TelemetryEvent → NodeGateway Device
  | .gateway event => gateway.step event
  | _ => gateway

/-- The read was made by this event, a poll of the slot that has succeeded. -/
def PolledBy (slot : Nat) (event : TelemetryEvent) (made : NodeRead) : Prop :=
  ∃ steadyNow client, event = .gateway (.pollNode slot steadyNow made.systemNow) ∧
    gateway.polling.clients[slot]? = some client ∧
    (gateway.telemetryStep event).online slot = true ∧
    made.identity = identityReadAt client ∧ made.telemetry = telemetryReadAt client

/-- What is read after an event was read before it or is read by it. -/
def NextRead (slot : Nat) (event : TelemetryEvent) (polled nextPolled : Option NodeRead) : Prop :=
  nextPolled = polled ∨ ∃ made, nextPolled = some made ∧ gateway.PolledBy slot event made

/-- The read, if there is one, was made by an event of the run. -/
def MadeIn (slot : Nat) (events : List TelemetryEvent) (read : Option NodeRead) : Prop :=
  ∀ made ∈ read, ∃ before event later, events = before ++ event :: later ∧
    (run telemetryStep gateway before).PolledBy slot event made

/-- The slot belongs to the site, and its sample and the copy of the loop tell of reads of it. -/
structure Tells (site : NodeSite Device) (slot : Nat) (polled copied : Option NodeRead) :
    Prop where
  client : ∃ client, gateway.polling.clients[slot]? = some client ∧ client.Quiet ∧
    client.world.site = site ∧ NodeRead.Within client.world.log polled
  sample : ∃ sample, gateway.polling.samples[slot]? = some sample ∧
    Told site slot sample polled
  copy : ∀ sample ∈ gateway.nodeSamples[slot]?, Told site slot sample copied
  ordered : NodeRead.NotBefore copied polled

variable {gateway} {site : NodeSite Device} {slot : Nat} {polled copied : Option NodeRead}

open NodeRead

theorem MadeIn.cons {event : TelemetryEvent} {rest : List TelemetryEvent} {read : Option NodeRead}
    (later : (gateway.telemetryStep event).MadeIn slot rest read) :
    gateway.MadeIn slot (event :: rest) read := by
  intro made isRead
  obtain ⟨before, poll, after, rfl, polled⟩ := later made isRead
  exact ⟨event :: before, poll, after, rfl, polled⟩

/-- An event may read the node once more and may copy what was read. -/
theorem Tells.step (tells : gateway.Tells site slot polled copied) (event : NodeGatewayEvent) :
    ∃ nextPolled nextCopied, (gateway.step event).Tells site slot nextPolled nextCopied ∧
      NotBefore copied nextCopied ∧ gateway.NextRead slot (.gateway event) polled nextPolled ∧
      (nextCopied = copied ∨ nextCopied = polled) := by
  obtain ⟨⟨client, found, quiet, reaches, within⟩, ⟨sample, sampled, told⟩, copy, ordered⟩ :=
    tells
  subst reaches
  -- the client goes on as after any event, and only a poll of the slot changes its sample
  have kept (unpolled : event.polls slot = false) :
      (∃ client', (gateway.step event).polling.clients[slot]? = some client' ∧ client'.Quiet ∧
          client'.world.site = client.world.site ∧ Within client'.world.log polled) ∧
        ∃ sample, (gateway.step event).polling.samples[slot]? = some sample ∧
          Told client.world.site slot sample polled := by
    obtain ⟨later, foundLater, ended⟩ := client_step found quiet event
    refine ⟨⟨later, foundLater, ended.quiet, ended.follows.site, ?_⟩, sample, ?_, told⟩
    · exact within.mono ended.follows.log
    · exact (sample_step unpolled).trans sampled
  cases event with
  | pollNode called steadyNow systemNow =>
      by_cases same : called = slot
      · subst same
        obtain ⟨next, nextTold, notBefore, nextWithin, origin⟩ :=
          told.pollSample quiet within steadyNow systemNow
        obtain ⟨foundLater, sampledLater⟩ := step_pollNode found sampled steadyNow systemNow
        have ended := pollSample_ended sample steadyNow systemNow quiet
        refine ⟨next, copied,
          { client := ⟨_, foundLater, ended.quiet, ended.follows.site, nextWithin⟩
            sample := ⟨_, sampledLater, nextTold⟩
            copy := by
              rw [nodeSamples_step rfl]
              exact copy
            ordered := ordered.trans notBefore }, .refl copied, ?_, .inl rfl⟩
        refine origin.imp_right fun ⟨answered, inOrder, isNext⟩ => ⟨_, isNext, ?_⟩
        refine ⟨steadyNow, client, rfl, found, ?_, rfl, rfl⟩
        rw [telemetryStep, online, sampledLater]
        exact answered
      · obtain ⟨clientKept, sampleKept⟩ := kept (beq_eq_false_iff_ne.mpr same)
        refine ⟨polled, copied, ⟨clientKept, sampleKept, ?_, ordered⟩, .refl copied, .inl rfl,
          .inl rfl⟩
        rw [nodeSamples_step rfl]
        exact copy
  | samples =>
      obtain ⟨clientKept, sampleKept⟩ := kept rfl
      refine ⟨polled, polled, ⟨clientKept, sampleKept, ?_, .refl polled⟩, ordered, .inl rfl,
        .inr rfl⟩
      intro other isCopy
      cases sampled.symm.trans isCopy
      exact told
  | applyPowerCommand | publishNode | perform =>
      obtain ⟨clientKept, sampleKept⟩ := kept rfl
      refine ⟨polled, copied, ⟨clientKept, sampleKept, ?_, ordered⟩, .refl copied, .inl rfl,
        .inl rfl⟩
      rw [nodeSamples_step rfl]
      exact copy

theorem Tells.telemetryStep (tells : gateway.Tells site slot polled copied)
    (event : TelemetryEvent) :
    ∃ nextPolled nextCopied, (gateway.telemetryStep event).Tells site slot nextPolled nextCopied ∧
      NotBefore copied nextCopied ∧ gateway.NextRead slot event polled nextPolled ∧
      (nextCopied = copied ∨ nextCopied = polled) := by
  cases event with
  | gateway event => exact tells.step event
  | onConnect | onDisconnect | health | nodeTelemetry | endNodeTelemetry
  | beginSystemTelemetry | systemTelemetry =>
      exact ⟨polled, copied, tells, .refl copied, .inl rfl, .inl rfl⟩

end NodeGateway

/-! ### The subscriber -/

namespace PublishLoop

variable {Device : Type} (settings : PublishSettings)

end PublishLoop

namespace NodeGateway

open NodeRead PublishLoop

variable {Device : Type} {gateway : NodeGateway Device} {site : NodeSite Device} {slot : Nat}
  {polled copied : Option NodeRead} {settings : PublishSettings}

end NodeGateway

end GridexEdge.RockPi
