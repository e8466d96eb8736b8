import GridexEdge.RockPi.NodePassthrough

/-!
Which sample of a node the quality of its polled sample belongs to.

The quality register stands with the identity, the readings it is about stand apart from
it. A poll reads them in two requests, and the node may publish in between.
-/

namespace GridexEdge.RockPi

open GridexEdge.Core Foundation Node NodePollingService

/-- The gateway shows the readings of this sample. -/
structure ShowsReadings (shown : MbusNodeTelemetry) (sample : DriverSample) : Prop where
  actualPowerKw : shown.actualPowerKw = (sample.actualPowerKwX10.toInt : ℚ) / 10
  energyWh : shown.energyWh = sample.energyWh
  deviceState : shown.deviceState = sample.state
  alarmBits : shown.alarmBits = sample.alarms

/-- The gateway shows this sample, the quality and the readings. -/
structure Describes (shown : MbusNodeTelemetry) (sample : DriverSample) : Prop extends
    ShowsReadings shown sample where
  quality : shown.quality = sample.quality

/-- What the node publishes between its answers to the two requests leaves it with a sample
of the same quality. -/
def KeepsQuality {Device : Type} (client : PosixModbusTcpClient (LiveNode Device)) : Prop :=
  (lastSample (telemetryReadAt client)).quality = (lastSample (identityReadAt client)).quality

theorem doubleWord_highWord_lowWord (value : UInt32) :
    doubleWord (highWord value) (lowWord value) = value := by
  apply UInt32.toNat_inj.mp
  rw [doubleWord_toNat, highWord_toNat, lowWord_toNat]
  omega

theorem signed_toUInt16 (value : Int16) : signed value.toUInt16 = value.toInt := by
  rw [signed, Int16.toInt16_toUInt16]

section Polled

variable {Device : Type} (old : MbusNodeTelemetry) (steadyNow : SteadyTime) (systemNow : Int)
  (site : NodeSite Device) (identityRead telemetryRead : List FirmwareEvent)
  (health : Option (List UInt16))

/-- The quality is that of the sample there was when the identity was read. -/
theorem quality_polledAt :
    (polledAt old steadyNow systemNow site identityRead telemetryRead health).quality =
      (lastSample identityRead).quality := by
  rw [polledAt, withHealth_withTelemetry]
  change (readRange (site.firmware identityRead).node.registers 0 13).getD 6 0 = _
  rw [@getD_readRange _ 0 13 6 Reg.quality rfl (by omega) (by decide)]
  exact (site.serves identityRead).shows_ (Reg.quality, _) (by simp [sampleRegisters])

/-- The readings are those of the sample there was when the telemetry was read. -/
theorem readings_polledAt :
    ShowsReadings (polledAt old steadyNow systemNow site identityRead telemetryRead health)
      (lastSample telemetryRead) := by
  have word : ∀ (index : Nat) {address value : UInt16},
      (sampleRegisters (lastSample telemetryRead))[index]? = some (address, value) →
      address.toNat = 64 + index → index < 6 →
      (readRange (site.firmware telemetryRead).node.registers 64 6).getD index 0 = value :=
    getD_readRange_of_shows (site.serves telemetryRead).shows_
  rw [polledAt, withHealth_withTelemetry]
  constructor
  · change (signed ((readRange (site.firmware telemetryRead).node.registers 64 6).getD 0 0) : ℚ) /
      10 = _
    rw [word 0 rfl rfl (by omega), signed_toUInt16]
  · change doubleWord ((readRange (site.firmware telemetryRead).node.registers 64 6).getD 1 0)
      ((readRange (site.firmware telemetryRead).node.registers 64 6).getD 2 0) = _
    rw [word 1 rfl rfl (by omega), word 2 rfl rfl (by omega)]
    exact doubleWord_highWord_lowWord _
  · exact word 3 rfl rfl (by omega)
  · exact word 4 rfl rfl (by omega)

/-- The sample that is read is described when the quality was already its own. -/
theorem describes_polledAt_iff :
    Describes (polledAt old steadyNow systemNow site identityRead telemetryRead health)
        (lastSample telemetryRead) ↔
      (lastSample telemetryRead).quality = (lastSample identityRead).quality := by
  have readings :=
    readings_polledAt old steadyNow systemNow site identityRead telemetryRead health
  have quality :=
    quality_polledAt old steadyNow systemNow site identityRead telemetryRead health
  constructor
  · intro described
    rw [← described.quality, quality]
  · intro same
    exact ⟨readings, quality.trans same.symm⟩

end Polled

/-- Whatever the nodes and the gateway have done before: a successful poll shows the
readings of the sample there was at its second request with the quality of the one there
was at its first, and these are one sample exactly when the node has kept the quality. -/
theorem quality_describes_value_iff {Device : Type} (endpoints : List (UInt8 × NodeSite Device))
    (history : List NodeGatewayEvent) (slot : Nat) (steadyNow : SteadyTime) (systemNow : Int)
    (online : ((run NodeGateway.step (.start endpoints) history).step
      (.pollNode slot steadyNow systemNow)).online slot = true) :
    let before := run NodeGateway.step (.start endpoints) history
    let after := before.step (.pollNode slot steadyNow systemNow)
    ∃ client shown, before.polling.clients[slot]? = some client ∧
      after.polling.samples[slot]? = some shown ∧
      before.log slot <+: identityReadAt client ∧
      identityReadAt client <+: telemetryReadAt client ∧
      telemetryReadAt client <+: after.log slot ∧
      ShowsReadings shown (lastSample (telemetryReadAt client)) ∧
      shown.quality = (lastSample (identityReadAt client)).quality ∧
      (Describes shown (lastSample (telemetryReadAt client)) ↔ KeepsQuality client) := by
  intro before after
  obtain ⟨unit, site, client, -, found, quiet, -⟩ := NodeGateway.client_of_online online
  obtain ⟨old, health, seen, first, second, third⟩ :=
    NodeGateway.step_pollNode_online found quiet steadyNow systemNow online
  refine ⟨client, _, found, seen, first, second, third, ?_, ?_, ?_⟩
  · exact readings_polledAt old steadyNow systemNow client.world.site _ _ health
  · exact quality_polledAt old steadyNow systemNow client.world.site _ _ health
  · exact describes_polledAt_iff old steadyNow systemNow client.world.site _ _ health

/-- A node whose device goes bad between the requests of a poll. -/
def worseningSite : NodeSite Unit where
  driver := { applyPowerCommand := fun _ _ => (false, ()) }
  config := { address := 5, type := NodeType.inverter, driverId := 77 }
  device := ()
  gateway := 7
  clock := fun _ => 0
  activity := fun call =>
    if call = 0 then
      [.setRockPiAddress 7,
        .publishDriverSample
          { actualPowerKwX10 := 1000, energyWh := 5000, state := 3, quality := 1 }]
    else if call = 4 then
      [.publishDriverSample
        { actualPowerKwX10 := 20, energyWh := 5001, state := 4, alarms := 1, quality := 0 }]
    else []
  fragment := fun _ => 300

def worseningEndpoints : List (UInt8 × NodeSite Unit) := [(1, worseningSite)]

theorem quality_describes_value_iff_worsening :
    let before := run NodeGateway.step (.start worseningEndpoints) []
    let after := before.step (.pollNode 0 0 0)
    ∃ client shown, before.polling.clients[0]? = some client ∧
      after.polling.samples[0]? = some shown ∧
      before.log 0 <+: identityReadAt client ∧ identityReadAt client <+: telemetryReadAt client ∧
      telemetryReadAt client <+: after.log 0 ∧
      ShowsReadings shown (lastSample (telemetryReadAt client)) ∧
      shown.quality = (lastSample (identityReadAt client)).quality ∧
      (Describes shown (lastSample (telemetryReadAt client)) ↔ KeepsQuality client) :=
  quality_describes_value_iff worseningEndpoints [] 0 0 0 (by decide +kernel)

/-- The readings of the bad device are shown with the quality the good one had, and at no
moment has the node had such a sample. -/
theorem quality_describes_value_fails :
    ¬∀ (endpoints : List (UInt8 × NodeSite Unit)) (history : List NodeGatewayEvent) (slot : Nat)
        (steadyNow : SteadyTime) (systemNow : Int) (shown : MbusNodeTelemetry),
      let after := (run NodeGateway.step (.start endpoints) history).step
        (.pollNode slot steadyNow systemNow)
      after.online slot = true → after.polling.samples[slot]? = some shown →
        ∃ read, read <+: after.log slot ∧ Describes shown (lastSample read) := by
  intro described
  let after := (NodeGateway.start worseningEndpoints).step (.pollNode 0 0 0)
  have words : (after.polling.samples[0]?).map (fun shown => (shown.quality, shown.deviceState)) =
      some (1, 4) := by decide +kernel
  obtain ⟨shown, seen, same⟩ := Option.map_eq_some_iff.mp words
  obtain ⟨quality, state⟩ := Prod.mk.inj same
  obtain ⟨read, moment, one⟩ :=
    described worseningEndpoints [] 0 0 0 shown (by decide +kernel) seen
  have length : (after.log 0).length = 7 := by decide +kernel
  have taken : read = (after.log 0).take read.length := List.prefix_iff_eq_take.mp moment
  have short : read.length < 8 := by
    have within : read.length ≤ (after.log 0).length := moment.length_le
    omega
  have never : ∀ count < 8, (lastSample ((after.log 0).take count)).quality = 1 →
      (lastSample ((after.log 0).take count)).state ≠ 4 := by decide +kernel
  apply never read.length short
  · rw [← taken, ← one.quality, quality]
  · rw [← taken, ← one.deviceState, state]

end GridexEdge.RockPi
