import GridexEdge.Foundation.MbapStream
import GridexEdge.RockPi.BusInvariant
import GridexEdge.RockPi.PosixModbusTcpClient
import GridexEdge.RockPi.WriteSafety

/-!
What the cabinet sees of the gateway: the bytes on its connections.

The loop's bus is the Modbus TCP client, over any network, with a tap where the network takes
bytes from the client. The write requests that the cabinet can cut out of these streams lie
between the writes of the log and the acknowledged ones among them.
-/

namespace GridexEdge.RockPi

open GridexEdge.Core Foundation

/-! ### The tap -/

/-- A network and what it has taken, the newest connection first. -/
structure Tap (World : Type) where
  world : World
  streams : List (List UInt8) := []

def Tap.record {World : Type} (tap : Tap World) (bytes : List UInt8) : List (List UInt8) :=
  match tap.streams with
  | [] => [bytes]
  | stream :: earlier => (stream ++ bytes) :: earlier

theorem Tap.record_eq {World : Type} {tap : Tap World} {stream : List UInt8}
    {earlier : List (List UInt8)} (opened : tap.streams = stream :: earlier) (bytes : List UInt8) :
    tap.record bytes = (stream ++ bytes) :: earlier := by
  unfold Tap.record
  rw [opened]

/-- Every answer is the network's own. -/
def tapped {World : Type} (network : Network World) : Network (Tap World) where
  connect tap :=
    let answer := network.connect tap.world
    (answer.1,
      { world := answer.2, streams := if answer.1 then [] :: tap.streams else tap.streams })
  send bytes tap :=
    let answer := network.send bytes tap.world
    (answer.1, { world := answer.2, streams := tap.record (bytes.take answer.1) })
  recv size tap :=
    let answer := network.recv size tap.world
    (answer.1, { tap with world := answer.2 })
  close tap := { tap with world := network.close tap.world }

/-- The loop's bus. -/
def vendorClient {World : Type} (network : Network World) :
    IModbusClient (PosixModbusTcpClient World) where
  readInput address client := client.readInput network address
  readInputRange start count client := client.readInputRange network start count
  readHolding address client := client.readHolding network address
  readCoil address client := client.readCoil network address
  writeHolding address value client := client.writeHolding network address value

/-- What the cabinet cuts out of its connections, in the order of their bytes. -/
def wireFrames (streams : List (List UInt8)) : List (List UInt8) :=
  streams.reverse.flatMap Mbap.frames

theorem wireFrames_cons (stream : List UInt8) (earlier : List (List UInt8)) :
    wireFrames (stream :: earlier) = wireFrames earlier ++ Mbap.frames stream := by
  rw [wireFrames, List.reverse_cons, List.flatMap_append, List.flatMap_singleton]
  rfl

section Sockets

variable {World : Type} (network : Network World)

/-- The network takes a beginning of the bytes, and all of them when that is reported. -/
theorem sendAll_tapped (bytes : List UInt8) {tap : Tap World} {stream : List UInt8}
    {earlier : List (List UInt8)} (opened : tap.streams = stream :: earlier) :
    ∃ taken,
      (sendAll (tapped network) bytes tap).2.streams = (stream ++ bytes.take taken) :: earlier ∧
        ((sendAll (tapped network) bytes tap).1 = true → bytes.take taken = bytes) ∧
        ((sendAll (tapped network) bytes tap).1 = false → taken < bytes.length) := by
  induction size : bytes.length using Nat.strong_induction_on generalizing bytes tap stream with
  | _ length inductionHypothesis =>
      subst size
      by_cases empty : bytes = []
      · subst empty
        rw [sendAll_nil]
        refine ⟨0, ?_, fun _ => rfl, fun failed => absurd failed Bool.true_eq_false.mp⟩
        rw [List.take_nil, List.append_nil]
        exact opened
      · have positive := List.length_pos_iff.mpr empty
        rw [sendAll, if_neg empty]
        have taken : (tapped network).send bytes tap =
            ((network.send bytes tap.world).1,
              { world := (network.send bytes tap.world).2
                streams :=
                  (stream ++ bytes.take (network.send bytes tap.world).1) :: earlier }) := by
          rw [← Tap.record_eq opened]
          rfl
        rw [taken]
        obtain ⟨sent, world⟩ := network.send bytes tap.world
        dsimp only
        split
        · next progress =>
            have shorter : (bytes.drop sent).length < bytes.length := by
              rw [List.length_drop]
              omega
            obtain ⟨more, streams, all, part⟩ := @inductionHypothesis _ shorter (bytes.drop sent)
              { world := world, streams := (stream ++ bytes.take sent) :: earlier } _ rfl rfl
            refine ⟨sent + more, ?_, fun succeeded => ?_, fun failed => ?_⟩
            · rw [streams, List.take_add, List.append_assoc]
            · rw [List.take_add, all succeeded, List.take_append_drop]
            · have rest := part failed
              rw [List.length_drop] at rest
              omega
        · refine ⟨sent, rfl, fun succeeded => absurd succeeded Bool.false_ne_true, fun _ => ?_⟩
          omega

theorem receiveAll_tapped (size : Nat) (tap : Tap World) :
    (receiveAll (tapped network) size tap).2.2.streams = tap.streams := by
  induction size using Nat.strong_induction_on generalizing tap with
  | _ size inductionHypothesis =>
      rw [receiveAll]
      split
      · rfl
      · dsimp only
        split
        · exact inductionHypothesis _ (by omega) _
        · rfl

end Sockets

/-! ### Transactions -/

namespace PosixModbusTcpClient

variable {World : Type} {network : Network World}

/-- Between calls an open connection carries whole frames only. -/
def WholeConnection (client : PosixModbusTcpClient (Tap World)) : Prop :=
  client.connected = true → ∃ stream earlier,
    client.world.streams = stream :: earlier ∧ Mbap.Whole stream

/-- What listening for a reply does not do: send, or connect. -/
structure OnlyListened (before after : PosixModbusTcpClient (Tap World)) : Prop where
  streams : after.world.streams = before.world.streams
  connected : after.connected = true → before.connected = true
  unit : after.unitId = before.unitId

variable {client : PosixModbusTcpClient (Tap World)}

theorem onlyListened_refl (client : PosixModbusTcpClient (Tap World)) :
    OnlyListened client client := ⟨rfl, id, rfl⟩

theorem OnlyListened.trans {before middle after : PosixModbusTcpClient (Tap World)}
    (first : OnlyListened before middle) (second : OnlyListened middle after) :
    OnlyListened before after :=
  ⟨second.streams.trans first.streams, fun open_ => first.connected (second.connected open_),
    second.unit.trans first.unit⟩

theorem onlyListened_receive (network : Network World) (client : PosixModbusTcpClient (Tap World))
    (size : Nat) : OnlyListened client (client.receive (tapped network) size).2.2 :=
  ⟨receiveAll_tapped network size client.world, id, rfl⟩

theorem onlyListened_disconnectLocked :
    OnlyListened client (client.disconnectLocked (tapped network)) := by
  unfold disconnectLocked
  split
  · exact ⟨rfl, fun open_ => absurd open_ Bool.false_ne_true, rfl⟩
  · exact onlyListened_refl client

theorem connected_disconnectLocked :
    (client.disconnectLocked (tapped network)).connected = false := by
  unfold disconnectLocked
  split
  · rfl
  · next closed => exact Bool.not_eq_true _ ▸ closed

theorem onlyListened_receiveReply (transaction : UInt16) (function : UInt8) :
    OnlyListened client (client.receiveReply (tapped network) transaction function).2 := by
  have header := client.onlyListened_receive network 7
  unfold receiveReply
  dsimp only
  split
  · exact header.trans onlyListened_disconnectLocked
  · split
    · exact header.trans onlyListened_disconnectLocked
    · refine header.trans ?_
      split
      · exact (onlyListened_receive network _ _).trans onlyListened_disconnectLocked
      · split
        · exact onlyListened_receive network _ _
        · exact onlyListened_receive network _ _

/-- A new connection has taken nothing yet. -/
theorem connectLocked_wire (network : Network World) (whole : client.WholeConnection) :
    let connection := client.connectLocked (tapped network)
    connection.2.WholeConnection ∧ connection.2.connected = connection.1 ∧
      connection.2.unitId = client.unitId ∧
      wireFrames connection.2.world.streams = wireFrames client.world.streams := by
  intro connection
  by_cases connected : client.connected = true
  · have same : connection = (true, client) := if_pos connected
    rw [same]
    exact ⟨whole, connected, rfl, rfl⟩
  · cases answered : (network.connect client.world.world).1 with
    | true =>
        have opened : connection.1 = true ∧ connection.2.connected = true ∧
            connection.2.unitId = client.unitId ∧
            connection.2.world.streams = [] :: client.world.streams := by
          simp [connection, connectLocked, connected, tapped, answered]
        obtain ⟨accepted, open_, unit, streams⟩ := opened
        refine ⟨fun _ => ⟨[], _, streams, Mbap.whole_nil.1⟩, open_.trans accepted.symm, unit, ?_⟩
        rw [streams, wireFrames_cons, Mbap.whole_nil.2, List.append_nil]
    | false =>
        have refused : connection.1 = false ∧ connection.2.connected = false ∧
            connection.2.unitId = client.unitId ∧
            connection.2.world.streams = client.world.streams := by
          simp [connection, connectLocked, connected, tapped, answered]
        obtain ⟨failed, closed, unit, streams⟩ := refused
        refine ⟨fun open_ => ?_, closed.trans failed.symm, unit, by rw [streams]⟩
        rw [closed] at open_
        cases open_

theorem WholeConnection.of_onlyListened {after : PosixModbusTcpClient (Tap World)}
    (whole : client.WholeConnection) (listened : OnlyListened client after) :
    after.WholeConnection := by
  intro open_
  rw [listened.streams]
  exact whole (listened.connected open_)

/-- A transaction puts its request on the wire, or leaves no frame there and no answer. -/
theorem transactLocked_wire (network : Network World) (whole : client.WholeConnection)
    (function : UInt8) {payload : List UInt8} (short : payload.length < 65534) :
    let outcome := client.transactLocked (tapped network) function payload
    outcome.2.WholeConnection ∧ outcome.2.unitId = client.unitId ∧
      (outcome.1 = none ∧
          wireFrames outcome.2.world.streams = wireFrames client.world.streams ∨
        ∃ transaction, wireFrames outcome.2.world.streams =
          wireFrames client.world.streams ++
            [Mbap.adu transaction client.unitId (function :: payload)]) := by
  intro outcome
  obtain ⟨connectedWhole, connected, unit, streams⟩ := connectLocked_wire network whole
  unfold outcome transactLocked
  dsimp only
  generalize client.connectLocked (tapped network) = connection at *
  split
  · exact ⟨connectedWhole, unit, .inl ⟨rfl, streams⟩⟩
  · next accepted =>
      rw [Bool.not_eq_true', Bool.not_eq_false] at accepted
      obtain ⟨stream, earlier, opened, ended⟩ := connectedWhole (connected.trans accepted)
      rw [request_eq_adu, unit]
      have complete : Mbap.Complete (Mbap.adu (connection.2.transactionId + 1) client.unitId
          (function :: payload)) := by
        apply Mbap.complete_adu
        rw [List.length_cons]
        omega
      obtain ⟨taken, tap, all, part⟩ := sendAll_tapped network
        (Mbap.adu (connection.2.transactionId + 1) client.unitId (function :: payload)) opened
      rw [opened, wireFrames_cons] at streams
      split
      · next failed =>
          rw [Bool.not_eq_true'] at failed
          refine ⟨fun open_ => ?_, onlyListened_disconnectLocked.unit, .inl ⟨rfl, ?_⟩⟩
          · rw [connected_disconnectLocked] at open_
            cases open_
          · rw [onlyListened_disconnectLocked.streams, tap, wireFrames_cons,
              ended.frames_append_take complete (part failed), streams]
      · next succeeded =>
          rw [Bool.not_eq_true', Bool.not_eq_false] at succeeded
          rw [all succeeded] at tap
          obtain ⟨endedAgain, oneMore⟩ := ended.append_frame complete
          refine ⟨WholeConnection.of_onlyListened (fun _ => ⟨_, _, tap, endedAgain⟩)
            (onlyListened_receiveReply _ _), (onlyListened_receiveReply _ _).unit,
            .inr ⟨connection.2.transactionId + 1, ?_⟩⟩
          rw [(onlyListened_receiveReply _ _).streams, tap, wireFrames_cons, oneMore,
            ← List.append_assoc, streams]

end PosixModbusTcpClient

/-! ### The requests of the loop -/

/-- The write a frame asks for. -/
def registerWrite? (frame : List UInt8) : Option (UInt16 × UInt16) :=
  if frame.getD 7 0 = 0x06 then some (readU16 frame 8, readU16 frame 10) else none

/-- A frame that asks for one of the reads, or for the write of one register. -/
def IsRequest (unit : UInt8) (frame : List UInt8) : Prop :=
  ∃ transaction, ∃ function ∈ [0x01, 0x03, 0x04, 0x06], ∃ first second,
    frame = Mbap.adu transaction unit (function :: appendU16 (appendU16 [] first) second)

theorem registerWrite?_adu (transaction : UInt16) (unit function : UInt8) (first second : UInt16) :
    registerWrite? (Mbap.adu transaction unit (function :: appendU16 (appendU16 [] first) second)) =
      if function = 0x06 then some (first, second) else none := by
  have address : readU16 (Mbap.adu transaction unit
      (function :: appendU16 (appendU16 [] first) second)) 8 = first := word_highByte_lowByte first
  have value : readU16 (Mbap.adu transaction unit
      (function :: appendU16 (appendU16 [] first) second)) 10 = second :=
    word_highByte_lowByte second
  rw [registerWrite?, address, value]
  rfl

/-- The writes on the wire so far, among nothing but requests. -/
structure OnWire {World : Type} (unit : UInt8) (writes : List (UInt16 × UInt16))
    (client : PosixModbusTcpClient (Tap World)) : Prop where
  whole : client.WholeConnection
  sameUnit : client.unitId = unit
  requests : ∀ frame ∈ wireFrames client.world.streams, IsRequest unit frame
  writes : (wireFrames client.world.streams).filterMap registerWrite? = writes

section Requests

variable {World : Type} {network : Network World} {unit : UInt8} {writes : List (UInt16 × UInt16)}
  {client : PosixModbusTcpClient (Tap World)}

/-- One more request, or none and no answer. -/
theorem OnWire.transact (wire : OnWire unit writes client) (network : Network World)
    (function : UInt8) (known : function ∈ [0x01, 0x03, 0x04, 0x06]) (first second : UInt16) :
    let outcome := client.transactLocked (tapped network) function
      (appendU16 (appendU16 [] first) second)
    outcome.1 = none ∧ OnWire unit writes outcome.2 ∨
      OnWire unit (writes ++ (if function = 0x06 then some (first, second) else none).toList)
        outcome.2 := by
  intro outcome
  have length : (appendU16 (appendU16 [] first) second).length = 4 := rfl
  obtain ⟨whole, sameUnit, sent⟩ := PosixModbusTcpClient.transactLocked_wire network wire.whole
    function (length.trans_lt (by decide))
  rcases sent with ⟨unanswered, same⟩ | ⟨transaction, more⟩
  · refine .inl ⟨unanswered, whole, sameUnit.trans wire.sameUnit, ?_, ?_⟩
    · rw [same]
      exact wire.requests
    · rw [same]
      exact wire.writes
  · refine .inr ⟨whole, sameUnit.trans wire.sameUnit, ?_, ?_⟩
    · intro frame member
      rw [more] at member
      rcases List.mem_append.mp member with earlier | last
      · exact wire.requests frame earlier
      · rw [List.mem_singleton.mp last, wire.sameUnit]
        exact ⟨transaction, function, known, first, second, rfl⟩
    · rw [more, List.filterMap_append, wire.writes]
      congr 1
      by_cases write : function = 0x06
      · rw [if_pos write, List.filterMap_cons_some (by rw [registerWrite?_adu, if_pos write])]
        rfl
      · rw [if_neg write, List.filterMap_cons_none (by rw [registerWrite?_adu, if_neg write])]
        rfl

/-- A read leaves the writes as they are. -/
theorem OnWire.read (wire : OnWire unit writes client) {function : UInt8}
    (known : function ∈ [0x01, 0x03, 0x04]) (first second : UInt16) :
    OnWire unit writes (client.transactLocked (tapped network) function
      (appendU16 (appendU16 [] first) second)).2 := by
  have other : function ≠ 0x06 := by
    rintro rfl
    exact absurd known (by decide)
  have request : function ∈ [0x01, 0x03, 0x04, 0x06] := List.mem_append_left [0x06] known
  rcases wire.transact network function request first second with ⟨-, same⟩ | more
  · exact same
  · rw [if_neg other, Option.toList_none, List.append_nil] at more
    exact more

theorem OnWire.readHolding (wire : OnWire unit writes client) (network : Network World)
    (address : UInt16) : OnWire unit writes (client.readHolding (tapped network) address).2 :=
  wire.read (by decide) address 1

theorem keptBy_readPoll (network : Network World) (unit : UInt8) (writes : List (UInt16 × UInt16)) :
    KeptBy (OnWire unit writes) (readPoll (vendorClient (tapped network))) := by
  apply KeptBy.readPoll
  · exact fun address client wire => wire.read (by decide) address 1
  · exact fun address client wire => wire.readHolding network address
  · exact fun address client wire => wire.read (by decide) address 1
  · intro start count client wire
    change OnWire unit writes (client.readInputRange (tapped network) start count).2
    rw [PosixModbusTcpClient.readInputRange]
    split
    · exact wire
    · exact wire.read (by decide) start count

theorem OnWire.write (wire : OnWire unit writes client) (network : Network World)
    (address value : UInt16) :
    let outcome := client.writeHolding (tapped network) address value
    outcome.1 = false ∧ OnWire unit writes outcome.2 ∨
      OnWire unit (writes ++ [(address, value)]) outcome.2 := by
  intro outcome
  rcases wire.transact network 0x06 (by decide) address value with
    ⟨unanswered, same⟩ | more
  · refine .inl ⟨?_, same⟩
    unfold outcome PosixModbusTcpClient.writeHolding
    dsimp only
    rw [unanswered]
    rfl
  · exact .inr more

end Requests

/-! ### The log and the wire -/

def writeOf? : Occurrence → Option (UInt16 × UInt16)
  | .write address value _ => some (address, value)
  | _ => none

def acknowledgedWriteOf? : Occurrence → Option (UInt16 × UInt16)
  | .write address value true => some (address, value)
  | _ => none

/-- The writes of a history, the oldest first. -/
def loggedWrites (history : List Occurrence) : List (UInt16 × UInt16) :=
  (history.filterMap writeOf?).reverse

def acknowledgedWrites (history : List Occurrence) : List (UInt16 × UInt16) :=
  (history.filterMap acknowledgedWriteOf?).reverse

theorem loggedWrites_write (address value : UInt16) (acknowledged : Bool)
    (history : List Occurrence) :
    loggedWrites (.write address value acknowledged :: history) =
      loggedWrites history ++ [(address, value)] := List.reverse_cons

theorem acknowledgedWrites_write (address value : UInt16) (acknowledged : Bool)
    (history : List Occurrence) :
    acknowledgedWrites (.write address value acknowledged :: history) =
      acknowledgedWrites history ++ (if acknowledged then [(address, value)] else []) := by
  cases acknowledged with
  | true => exact List.reverse_cons
  | false => exact (List.append_nil _).symm

theorem exists_write_of_mem {history : List Occurrence} {address value : UInt16}
    (logged : (address, value) ∈ loggedWrites history) :
    ∃ acknowledged before, (.write address value acknowledged :: before) <:+ history := by
  obtain ⟨occurrence, member, same⟩ := List.mem_filterMap.mp (List.mem_reverse.mp logged)
  cases occurrence with
  | write writtenAddress writtenValue acknowledged =>
      cases same
      obtain ⟨newer, before, split⟩ := List.append_of_mem member
      exact ⟨acknowledged, before, newer, split.symm⟩
  | command | tick | poll => cases same

section Runs

variable {World : Type} (network : Network World) (unit : UInt8)

/-- The wire lies between the acknowledged writes and all of them. -/
structure Wired (bus : Bus (PosixModbusTcpClient (Tap World))) : Prop where
  exists_writes : ∃ writes, OnWire unit writes bus.device ∧
    (acknowledgedWrites bus.history).Sublist writes ∧ writes.Sublist (loggedWrites bus.history)

/-- The loop's own notes are no writes. -/
theorem Wired.note {bus : Bus (PosixModbusTcpClient (Tap World))} (wired : Wired unit bus)
    {event : LoopEvent} {occurrence : Occurrence} (noted : event.Notes occurrence) :
    Wired unit (bus.note occurrence) := by
  cases event with
  | takeCommand now =>
      obtain ⟨power, enable, rfl⟩ := noted
      exact ⟨wired.exists_writes⟩
  | tick now =>
      cases noted
      exact ⟨wired.exists_writes⟩
  | northboundWrite | takeOperatorCommand | takeNodeCommand | publish | publishNode =>
      exact noted.elim

/-- Before the first connection nothing is on the wire. -/
theorem wired_initial (config : ControllerConfig) (approval : CommissioningApproval)
    (world : World) :
    let client : PosixModbusTcpClient (Tap World) :=
      { unitId := unit, world := { world := world } }
    Wired unit (Gateway.initial config approval client).bus := by
  intro client
  refine ⟨[], ⟨fun open_ => ?_, rfl, ?_, rfl⟩, List.Sublist.refl _, List.Sublist.refl _⟩
  · exact absurd open_ Bool.false_ne_true
  · exact fun frame member => absurd member List.not_mem_nil

theorem keptOnBus_wired : KeptOnBus (vendorClient (tapped network)) (Wired unit) where
  readHolding bus address wired := by
    obtain ⟨writes, wire, acknowledged, logged⟩ := wired.exists_writes
    exact ⟨writes, wire.readHolding network address, acknowledged, logged⟩
  poll bus wired := by
    obtain ⟨writes, wire, acknowledged, logged⟩ := wired.exists_writes
    have polled := keptBy_readPoll network unit writes bus.device wire
    rw [Bus.poll]
    generalize readPoll (vendorClient (tapped network)) bus.device = answer at polled ⊢
    exact ⟨writes, polled, acknowledged, logged⟩
  write bus address value wired := by
    obtain ⟨writes, wire, acknowledged, logged⟩ := wired.exists_writes
    rcases wire.write network address value with ⟨refused, same⟩ | more
    · refine ⟨writes, same, ?_, ?_⟩
      · have unanswered : (bus.write (vendorClient (tapped network)) address value).1 = false :=
          refused
        rw [Bus.write_history, acknowledgedWrites_write, unanswered]
        exact (List.append_nil _).symm ▸ acknowledged
      · rw [Bus.write_history, loggedWrites_write]
        exact logged.trans (List.sublist_append_left _ _)
    · refine ⟨writes ++ [(address, value)], more, ?_, ?_⟩
      · rw [Bus.write_history, acknowledgedWrites_write]
        apply acknowledged.append
        split
        · exact List.Sublist.refl _
        · exact List.nil_sublist _
      · rw [Bus.write_history, loggedWrites_write]
        exact logged.append (List.Sublist.refl _)

namespace Gateway

/-- However the network delays, cuts, loses and answers: what the cabinet can cut out of its
connections are requests for its unit and nothing else. Those that write are among the writes
of the log and come in its order, each of them safe when it was decided. And every write that
the loop takes for acknowledged has been on the wire, all of it. -/
theorem vendor_wire_safe (world : World) (config : ControllerConfig)
    (approval : CommissioningApproval) (events : List LoopEvent) :
    let client : PosixModbusTcpClient (Tap World) := { unitId := unit, world := { world := world } }
    let bus := (run (step (vendorClient (tapped network)))
      (initial config approval client) events).bus
    let frames := wireFrames bus.device.world.streams
    (∀ frame ∈ frames, IsRequest unit frame ∧
      ∀ address value, registerWrite? frame = some (address, value) →
        ∃ acknowledged before, (.write address value acknowledged :: before) <:+ bus.history ∧
          SafeWrite approval before address value) ∧
      (acknowledgedWrites bus.history).Sublist (frames.filterMap registerWrite?) ∧
      (frames.filterMap registerWrite?).Sublist (loggedWrites bus.history) := by
  intro client bus frames
  have wired := run_invariant (step (vendorClient (tapped network)))
    (fun gateway => Wired unit gateway.bus)
    (fun gateway event => (keptOnBus_wired network unit).step gateway event
      fun _ _ noted wired => wired.note unit noted)
    (wired_initial unit config approval world) events
  have safe := every_write_safe (vendorClient (tapped network)) config approval client events
  obtain ⟨writes, wire, acknowledged, logged⟩ := wired.exists_writes
  rw [← wire.writes] at acknowledged logged
  refine ⟨fun frame member => ⟨wire.requests frame member, ?_⟩, acknowledged, logged⟩
  intro address value asked
  have sent := logged.subset (List.mem_filterMap.mpr ⟨frame, member, asked⟩)
  obtain ⟨answered, before, happened⟩ := exists_write_of_mem sent
  exact ⟨answered, before, happened, safe _ _ happened⟩

end Gateway

end Runs

end GridexEdge.RockPi
