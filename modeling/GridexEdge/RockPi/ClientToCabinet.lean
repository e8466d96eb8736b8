import GridexEdge.RockPi.NorthboundSessions
import GridexEdge.RockPi.VendorWire

/-!
From the bytes of the northbound clients to the bytes on the way to the cabinet.

Both ends of the gateway are streams: the clients' connections on one side, and on the other
what any network has taken for the cabinet. A setpoint that can be read on the second was asked
for on the first.
-/

namespace GridexEdge.RockPi

open GridexEdge.Core Foundation NorthboundModbusTcpServer

theorem exists_related {Left Right : Type} {Related : Left → Right → Prop} {lefts : List Left}
    {rights : List Right} (related : List.Forall₂ Related lefts rights) {right : Right}
    (member : right ∈ rights) : ∃ left ∈ lefts, Related left right := by
  induction related with
  | nil => cases member
  | cons pair _ inductionHypothesis =>
      rcases List.mem_cons.mp member with rfl | later
      · exact ⟨_, List.mem_cons_self, pair⟩
      · obtain ⟨left, listed, pair⟩ := inductionHypothesis later
        exact ⟨left, List.mem_cons_of_mem _ listed, pair⟩

namespace Station

variable {Device : Type} {unitId : UInt8} {station : Station Device}

/-- A request lies on the connection of the client that sent it, whole and under its unit. -/
def Asked (station : Station Device) (unitId : UInt8) (pdu : List UInt8) : Prop :=
  ∃ stream ∈ station.streams, ∃ transaction, Mbap.adu transaction unitId pdu <:+: stream

theorem Handled.asked {frames : List (List ClientFrame)} (handled : Handled unitId station frames)
    {pdu : List UInt8} (listed : pdu ∈ station.requests) : station.Asked unitId pdu := by
  have logged := List.mem_reverse.mpr listed
  rw [handled.requests] at logged
  obtain ⟨frame, member, own⟩ := List.mem_filterMap.mp logged
  obtain ⟨sent, connection, within⟩ := List.mem_flatten.mp member
  obtain ⟨stream, there, begins⟩ := exists_related handled.carried (List.mem_reverse.mp connection)
  rw [ClientFrame.own?, Option.ite_none_right_eq_some] at own
  obtain ⟨rfl, same⟩ := own
  cases same
  obtain ⟨before, after, rfl⟩ := List.append_of_mem within
  refine ⟨stream, there, frame.transaction, List.IsInfix.trans ?_ begins.isInfix⟩
  rw [List.flatMap_append, List.flatMap_cons]
  exact ⟨before.flatMap ClientFrame.bytes, after.flatMap ClientFrame.bytes, by
    rw [← List.append_assoc]
    rfl⟩

section Wires

variable {World : Type} (network : Network World) (vendorUnit : UInt8)
  {station : Station (PosixModbusTcpClient (Tap World))}

/-- Only the steps of the loop reach the bus. -/
theorem wired_step (wired : Wired vendorUnit station.gateway.bus) (event : StationEvent) :
    Wired vendorUnit
      (station.step (vendorClient (tapped network)) unitId event).gateway.bus := by
  cases event with
  | accept =>
      rw [step, accept]
      split
      · exact wired
      · exact wired
  | arrive bytes =>
      rw [step, arrive]
      split
      · exact wired
      · exact wired
  | serve delivered =>
      rcases station.serve_cases unitId delivered with
        same | same | ⟨received, unread, frame, -, -, -, served⟩
      · rwa [step, same]
      · rwa [step, same]
      · rwa [step, served]
  | hangUp => exact wired
  | loop event own =>
      exact (keptOnBus_wired network vendorUnit).step station.gateway event
        (fun _ _ noted wired => wired.note vendorUnit noted) wired

/-- Whatever the clients send and however the network to the cabinet behaves: a frame on the way
to the cabinet that carries a setpoint other than zero has two requests behind it, whole on the
clients' connections. One brought a power of the same sign that is at least as far from zero,
and one the word that enables it. -/
theorem cabinet_obeys_clients (unitId : UInt8) (world : World) (limit : ConfiguredPowerLimit)
    (approval : CommissioningApproval) (events : List StationEvent) :
    let client : PosixModbusTcpClient (Tap World) :=
      { unitId := vendorUnit, world := { world := world } }
    let station := run (step (vendorClient (tapped network)) unitId)
      { gateway := Gateway.initial { configuredLimit := limit } approval client } events
    ∀ frame ∈ wireFrames station.gateway.bus.device.world.streams, ∀ value,
      registerWrite? frame = some (Registers.pcsPowerCommand, value) → signed value ≠ 0 →
        (∃ pdu power, station.Asked unitId pdu ∧
          writtenWord? Holding.requestedPowerKwX10 pdu = some power ∧
          (signed value).sign = (signed power).sign ∧ |signed value| ≤ |signed power|) ∧
        ∃ pdu, station.Asked unitId pdu ∧ writtenWord? Holding.commandEnable pdu = some 1 := by
  intro client station frame member value carries nonzero
  have wired : Wired vendorUnit station.gateway.bus :=
    run_invariant (step (vendorClient (tapped network)) unitId)
      (fun station => Wired vendorUnit station.gateway.bus)
      (fun _ event wired => wired_step network vendorUnit wired event)
      (wired_initial vendorUnit { configuredLimit := limit } approval world) events
  have sourced : Sourced limit unitId station :=
    run_invariant (step (vendorClient (tapped network)) unitId) (Sourced limit unitId)
      (fun _ event sourced => sourced.step event) (Sourced.initial limit approval client) events
  obtain ⟨frames, handled⟩ := sourced.handled
  obtain ⟨writes, wire, -, logged⟩ := wired.exists_writes
  rw [← wire.writes] at logged
  have sent := logged.subset (List.mem_filterMap.mpr ⟨frame, member, carries⟩)
  obtain ⟨acknowledged, before, happened⟩ := exists_write_of_mem sent
  obtain ⟨earlier, power, within, enabled, -, sign, bound, pdu, listed, brought⟩ :=
    sourced.setpoint happened nonzero
  refine ⟨⟨pdu, power, handled.asked (within.subset listed), brought, sign, bound⟩, ?_⟩
  have switched : lastWord Holding.commandEnable earlier ≠ 0 := by
    rw [enabled]
    decide
  obtain ⟨switching, older, enables⟩ := exists_writtenWord switched
  rw [enabled] at enables
  exact ⟨switching, handled.asked (within.subset older), enables⟩

end Wires

/-! ### A cabinet in order -/

/-- Its answer to a request. -/
def cabinetReply (limits : UInt16) (request : List UInt8) : List UInt8 :=
  let function := request.getD 7 0
  let address := readU16 request 8
  let quantity := (readU16 request 10).toNat
  let word :=
    if function = 0x03 then ((cabinetInOrder limits).readHolding address ()).1.getD 0
    else ((cabinetInOrder limits).readInput address ()).1.getD 0
  let pdu :=
    if function = 0x01 then [0x01, 1, 0]
    else if function = 0x06 then request.drop 7
    else function :: UInt8.ofNat (2 * quantity) :: wordsBytes (List.replicate quantity word)
  Mbap.adu (readU16 request 0) (request.getD 6 0) pdu

/-- A network that takes every request whole, and has the answer ready. -/
def cabinetNetwork (limits : UInt16) : Network (List UInt8) where
  connect _ := (true, [])
  send bytes _ := (bytes.length, cabinetReply limits bytes)
  recv size pending := (⟨pending.take size, List.length_take_le size pending⟩, pending.drop size)
  close _ := []

/-- The order of 10 kW is the last request of the second tick. -/
theorem cabinet_obeys_clients_ordering :
    let client : PosixModbusTcpClient (Tap (List UInt8)) :=
      { unitId := 1, world := { world := [] } }
    let station := run (step (vendorClient (tapped (cabinetNetwork 1000))) 1)
      { gateway := Gateway.initial {} ControlLoop.fullApproval client } orderingEvents
    (wireFrames station.gateway.bus.device.world.streams).filterMap registerWrite? =
        [(Registers.heartbeatEnable, 1), (Registers.heartbeatSeconds, 60),
          (Registers.pcsPowerCommand, 0), (Registers.pcsPowerCommand, 100)] ∧
      ∃ pdu power, station.Asked 1 pdu ∧
        writtenWord? Holding.requestedPowerKwX10 pdu = some power ∧
        (signed 100).sign = (signed power).sign ∧ |signed 100| ≤ |signed power| := by
  intro client station
  have written : (wireFrames station.gateway.bus.device.world.streams).filterMap registerWrite? =
      [(Registers.heartbeatEnable, 1), (Registers.heartbeatSeconds, 60),
        (Registers.pcsPowerCommand, 0), (Registers.pcsPowerCommand, 100)] := by
    decide +kernel
  refine ⟨written, ?_⟩
  have order : (Registers.pcsPowerCommand, 100) ∈
      (wireFrames station.gateway.bus.device.world.streams).filterMap registerWrite? := by
    rw [written]
    decide
  obtain ⟨frame, member, carries⟩ := List.mem_filterMap.mp order
  exact (cabinet_obeys_clients (cabinetNetwork 1000) 1 1 [] {} ControlLoop.fullApproval
    orderingEvents frame member 100 carries (by decide)).1

end Station

end GridexEdge.RockPi
