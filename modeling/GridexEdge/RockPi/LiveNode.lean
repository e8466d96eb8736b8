import GridexEdge.Node.ShownSample
import GridexEdge.Node.UnreadBytes
import GridexEdge.RockPi.NodeExchange

/-!
The gateway's client connected to a node that goes on living.

Before every socket call the node's main loop does what it likes, and every call may
move few bytes or fail. A read that succeeds has all its words from one moment of the
node's log.
-/

namespace GridexEdge.RockPi

open Foundation Node

/-- The node behind an endpoint, and for every socket call the time, what the main
loop does before it, and how many bytes it moves; with none it fails. -/
structure NodeSite (Device : Type) where
  driver : IDeviceDriver Device
  config : NodeConfig
  device : Device
  gateway : UInt32
  clock : Nat → UInt32
  activity : Nat → List FirmwareEvent
  fragment : Nat → Nat

/-- The firmware after a log of what has happened to it. -/
def NodeSite.firmware {Device : Type} (site : NodeSite Device) (log : List FirmwareEvent) :
    Firmware Device :=
  run (Firmware.step site.driver) (Firmware.boot site.config site.device) log

theorem NodeSite.serves {Device : Type} (site : NodeSite Device) (log : List FirmwareEvent) :
    (site.firmware log).Serves (lastSample log) :=
  Firmware.serves_run site.driver site.config site.device log

structure LiveNode (Device : Type) where
  site : NodeSite Device
  log : List FirmwareEvent := []
  inbound : List UInt8 := []
  calls : Nat := 0

namespace LiveNode

variable {Device : Type} (live : LiveNode Device)

def firmware : Firmware Device := live.site.firmware live.log

/-- The main loop up to the next socket call. -/
def advance : LiveNode Device :=
  { live with
    log := live.log ++ (live.site.activity live.calls).filter FirmwareEvent.isQuiet
    calls := live.calls + 1 }

/-- A pass of the endpoint that meets the client, and its replies on their way. -/
def pass (input : ControlInput) : LiveNode Device :=
  { live with
    log := live.log ++ [.controlLoop input]
    inbound := live.inbound ++
      (live.firmware.server.loop live.firmware.node input).1.flatten }

def fragmentNow : Nat := live.site.fragment live.calls

def clockNow : UInt32 := live.site.clock live.calls

end LiveNode

/-- The socket calls. A send takes no more than the endpoint has room for. -/
def liveNetwork {Device : Type} : Network (LiveNode Device) where
  connect live :=
    if live.fragmentNow = 0 then (false, live.advance)
    else
      (true, { live.advance with inbound := [] }.pass
        { connected := false, candidate := some live.site.gateway, available := [],
          nowMs := live.clockNow })
  send bytes live :=
    let taken := min (min bytes.length live.fragmentNow)
      (300 - live.advance.firmware.server.rx.length)
    if taken = 0 then (0, live.advance)
    else
      (taken, live.advance.pass
        { connected := true, candidate := none, available := bytes.take taken,
          nowMs := live.clockNow })
  recv size live :=
    let taken := min size live.fragmentNow
    (⟨live.inbound.take taken, le_trans (List.length_take_le _ _) (Nat.min_le_left _ _)⟩,
      { live.advance with inbound := live.inbound.drop taken })
  close live := { live with inbound := [] }

namespace LiveNode

variable {Device : Type} {live : LiveNode Device}

/-- The node has only been added to. -/
structure Follows (before after : LiveNode Device) : Prop where
  site : after.site = before.site
  log : before.log <+: after.log

theorem Follows.refl (live : LiveNode Device) : Follows live live := ⟨rfl, List.prefix_rfl⟩

theorem Follows.trans {first second third : LiveNode Device} (earlier : Follows first second)
    (later : Follows second third) : Follows first third where
  site := later.site.trans earlier.site
  log := earlier.log.trans later.log

theorem follows_advance (live : LiveNode Device) : Follows live live.advance :=
  ⟨rfl, List.prefix_append _ _⟩

theorem follows_pass (live : LiveNode Device) (input : ControlInput) :
    Follows live (live.pass input) :=
  ⟨rfl, List.prefix_append _ _⟩

theorem firmware_pass (live : LiveNode Device) (input : ControlInput) :
    (live.pass input).firmware =
      live.firmware.step live.site.driver (.controlLoop input) := by
  unfold firmware NodeSite.firmware
  exact run_append _ _ _ _

theorem holds_advance {bytes : List UInt8} (beginning : EthernetControlServer.Beginning bytes)
    (holds : live.firmware.server.Holds bytes) :
    live.advance.firmware.server.Holds bytes := by
  have appended : live.advance.firmware =
      run (Firmware.step live.site.driver) live.firmware
        ((live.site.activity live.calls).filter FirmwareEvent.isQuiet) :=
    run_append _ _ _ _
  rw [appended]
  apply Firmware.holds_run
  · exact fun event member => (List.mem_filter.mp member).2
  · exact beginning
  · exact holds

/-- A connection starts with nothing on its way in either direction. -/
theorem connect_outcome (live : LiveNode Device) :
    liveNetwork.connect live = (false, live.advance) ∨
      ∃ after, liveNetwork.connect live = (true, after) ∧ Follows live after ∧
        after.inbound = [] ∧ after.firmware.server.Holds [] := by
  by_cases failed : live.fragmentNow = 0
  · exact .inl (if_pos failed)
  · obtain ⟨silent, holds⟩ := EthernetControlServer.loop_of_candidate live.advance.firmware.node
      live.advance.firmware.server live.site.gateway live.clockNow
    refine .inr ⟨_, if_neg failed, ⟨rfl, ?_⟩, congrArg List.flatten silent, ?_⟩
    · exact (follows_advance live).log.trans (List.prefix_append _ _)
    · rw [firmware_pass]
      exact holds

/-! ### A request on its way -/

/-- The request has reached the node in its last pass, and what it answered then is on
its way; or there is no answer. -/
def Arrived (request : List UInt8) (before after : LiveNode Device) : Prop :=
  after.firmware.server.Holds [] ∧
    (after.inbound = [] ∨ before.log <+: after.log.dropLast ∧
      after.inbound =
        (EthernetControlServer.handle (before.site.firmware after.log.dropLast).server.unitId
          (before.site.firmware after.log.dropLast).node request).1)

theorem Arrived.after {request : List UInt8} {first second third : LiveNode Device}
    (earlier : Follows first second) (delivered : Arrived request second third) :
    Arrived request first third := by
  refine ⟨delivered.1, ?_⟩
  rcases delivered.2 with silent | ⟨later, answer⟩
  · exact .inl silent
  · rw [earlier.site] at answer
    exact .inr ⟨earlier.log.trans later, answer⟩

/-- The endpoint takes a fragment in. All but the last one only wait. -/
theorem pass_of_fragment {front fragment rest : List UInt8}
    (holds : live.firmware.server.Holds front) (nonempty : fragment ≠ [])
    (room : fragment.length ≤ 300 - live.firmware.server.rx.length)
    (sendable : EthernetControlServer.Sendable (front ++ fragment ++ rest))
    (silent : live.inbound = []) (nowMs : UInt32) :
    let passed := live.pass
      { connected := true, candidate := none, available := fragment, nowMs := nowMs }
    (rest ≠ [] → passed.firmware.server.Holds (front ++ fragment) ∧ passed.inbound = []) ∧
      (rest = [] → Arrived (front ++ fragment) live passed) := by
  intro passed
  have server : passed.firmware.server = (live.firmware.server.loop live.firmware.node
      { connected := true, candidate := none, available := fragment, nowMs := nowMs }).2.1 := by
    rw [firmware_pass]
    rfl
  have inbound : passed.inbound = (live.firmware.server.loop live.firmware.node
      { connected := true, candidate := none, available := fragment,
        nowMs := nowMs }).1.flatten := by
    change live.inbound ++ _ = _
    rw [silent, List.nil_append]
  by_cases dropped : live.firmware.server.client = none
  · rw [EthernetControlServer.loop_of_dropped _ dropped rfl] at server inbound
    have lost : ∀ bytes, passed.firmware.server.Holds bytes := by
      intro bytes
      rw [server]
      exact .inl rfl
    exact ⟨fun _ => ⟨lost _, inbound⟩, fun _ => ⟨lost _, .inl inbound⟩⟩
  · have received := holds.resolve_left dropped
    have accepted := Option.isSome_iff_ne_none.mpr dropped
    have fits : live.firmware.server.rx.length + fragment.length ≤ 300 := by
      have positive := List.length_pos_iff.mpr nonempty
      omega
    rw [← received] at sendable ⊢
    constructor
    · intro unfinished
      have looped := EthernetControlServer.loop_of_beginning live.firmware.node accepted nonempty
        fits nowMs sendable unfinished
      rw [looped] at server inbound
      refine ⟨?_, inbound⟩
      rw [server]
      exact .inr rfl
    · rintro rfl
      rw [List.append_nil] at sendable
      have looped := EthernetControlServer.loop_of_last live.firmware.node accepted nonempty
        fits nowMs sendable
      rw [looped] at server inbound
      have moment : passed.log.dropLast = live.log := List.dropLast_concat
      refine ⟨?_, .inr ⟨?_, ?_⟩⟩
      · rw [server]
        exact .inr rfl
      · rw [moment]
      · rw [moment, inbound]
        exact EthernetControlServer.flatten_answer _

theorem sendAll_outcome {request front remaining : List UInt8} (live : LiveNode Device)
    (holds : live.firmware.server.Holds front) (whole : front ++ remaining = request)
    (sendable : EthernetControlServer.Sendable request) (unfinished : remaining ≠ [])
    (silent : live.inbound = []) :
    Follows live (sendAll liveNetwork remaining live).2 ∧
      ((sendAll liveNetwork remaining live).1 = true →
        Arrived request live (sendAll liveNetwork remaining live).2) := by
  induction size : remaining.length using Nat.strong_induction_on
    generalizing front remaining live with
  | _ size inductionHypothesis =>
      subst size
      let taken := min (min remaining.length live.fragmentNow)
        (300 - live.advance.firmware.server.rx.length)
      have sent : liveNetwork.send remaining live =
          if taken = 0 then (0, live.advance)
          else
            (taken, live.advance.pass
              { connected := true, candidate := none, available := remaining.take taken,
                nowMs := live.clockNow }) := rfl
      by_cases stuck : taken = 0
      · rw [if_pos stuck] at sent
        rw [sendAll, if_neg unfinished, sent]
        exact ⟨follows_advance live, fun wrong => absurd wrong (by simp)⟩
      · have length : (remaining.take taken).length = taken := by
          rw [List.length_take]
          omega
        have nonempty : remaining.take taken ≠ [] := by
          intro empty
          rw [empty] at length
          exact stuck length.symm
        have split : front ++ remaining.take taken ++ remaining.drop taken = request := by
          rw [List.append_assoc, List.take_append_drop, whole]
        obtain ⟨waits, delivers⟩ := pass_of_fragment
          (holds_advance ⟨remaining, unfinished, by rwa [whole]⟩ holds) nonempty
          (by rw [length]; exact Nat.min_le_right _ _) (by rwa [split]) silent live.clockNow
        rw [if_neg stuck] at sent
        rw [sendAll_of_sent liveNetwork unfinished (Nat.pos_of_ne_zero stuck) sent]
        have follows := (follows_advance live).trans (follows_pass live.advance
          { connected := true, candidate := none, available := remaining.take taken,
            nowMs := live.clockNow })
        by_cases last : remaining.drop taken = []
        · rw [last, sendAll_nil]
          rw [last, List.append_nil] at split
          have delivered := delivers last
          rw [split] at delivered
          exact ⟨follows, fun _ => delivered.after (follows_advance live)⟩
        · obtain ⟨waiting, still⟩ := waits last
          obtain ⟨later, delivered⟩ := inductionHypothesis _
            (by rw [List.length_drop]; have := List.length_pos_iff.mpr unfinished; omega)
            (live.advance.pass _) waiting split last still rfl
          exact ⟨follows.trans later, fun success => (delivered success).after follows⟩

/-! ### The reply -/

/-- Whatever arrives was on its way, and the rest of it still is. -/
theorem receiveAll_outcome (size : Nat) (live : LiveNode Device)
    (holds : live.firmware.server.Holds []) :
    Follows live (receiveAll liveNetwork size live).2.2 ∧
      (receiveAll liveNetwork size live).2.2.firmware.server.Holds [] ∧
      (receiveAll liveNetwork size live).2.1 ++ (receiveAll liveNetwork size live).2.2.inbound =
        live.inbound := by
  induction size using Nat.strong_induction_on generalizing live with
  | _ size inductionHypothesis =>
      have advanced := holds_advance EthernetControlServer.beginning_nil holds
      rcases Nat.eq_zero_or_pos size with rfl | positive
      · rw [receiveAll_zero]
        exact ⟨.refl live, holds, rfl⟩
      · let taken := min size live.fragmentNow
        let after := { live.advance with inbound := live.inbound.drop taken }
        have follows : Follows live after := ⟨rfl, (follows_advance live).log⟩
        have arrived : liveNetwork.recv size live =
            (⟨live.inbound.take taken,
              le_trans (List.length_take_le _ _) (Nat.min_le_left _ _)⟩, after) := rfl
        have whole : live.inbound.take taken ++ after.inbound = live.inbound :=
          List.take_append_drop _ _
        by_cases progress : 0 < (live.inbound.take taken).length
        · obtain ⟨later, still, rest⟩ := inductionHypothesis
            (size - (live.inbound.take taken).length) (by omega) after advanced
          rw [receiveAll_of_received liveNetwork progress arrived]
          refine ⟨follows.trans later, still, ?_⟩
          rw [List.append_assoc, rest, whole]
        · rw [receiveAll, if_neg (by omega), arrived]
          dsimp only
          rw [if_neg progress]
          have nothing : live.inbound.take taken = [] :=
            List.length_eq_zero_iff.mp (Nat.eq_zero_of_not_pos progress)
          rw [nothing] at whole
          exact ⟨follows, advanced, whole⟩

end LiveNode

namespace PosixModbusTcpClient

variable {Device : Type} {client : PosixModbusTcpClient (LiveNode Device)}

/-- No connection is open, or nothing is left over from the calls before. -/
def Quiet (client : PosixModbusTcpClient (LiveNode Device)) : Prop :=
  client.connected = true →
    client.world.inbound = [] ∧ client.world.firmware.server.Holds []

/-- A call has ended, the node may have moved on, and the next call can begin. -/
structure Ended (before after : PosixModbusTcpClient (LiveNode Device)) : Prop where
  quiet : Quiet after
  unit : after.unitId = before.unitId
  follows : LiveNode.Follows before.world after.world

theorem Ended.trans {first second third : PosixModbusTcpClient (LiveNode Device)}
    (earlier : Ended first second) (later : Ended second third) : Ended first third where
  quiet := later.quiet
  unit := later.unit.trans earlier.unit
  follows := earlier.follows.trans later.follows

theorem disconnectLocked_ended {before : PosixModbusTcpClient (LiveNode Device)}
    (unit : client.unitId = before.unitId)
    (follows : LiveNode.Follows before.world client.world) :
    Ended before (client.disconnectLocked liveNetwork) := by
  unfold disconnectLocked
  split
  · exact ⟨fun open_ => absurd open_ (by simp), unit, follows.site, follows.log⟩
  · next closed => exact ⟨fun open_ => absurd open_ closed, unit, follows⟩

theorem connectLocked_ended (quiet : Quiet client) :
    Ended client (client.connectLocked liveNetwork).2 ∧
      ((client.connectLocked liveNetwork).1 = true →
        (client.connectLocked liveNetwork).2.connected = true) := by
  unfold connectLocked
  split
  · next open_ => exact ⟨⟨quiet, rfl, .refl _⟩, fun _ => open_⟩
  · next closed =>
      rcases LiveNode.connect_outcome client.world with
        failed | ⟨after, connected, follows, silent, holds⟩
      · rw [failed]
        exact ⟨⟨fun open_ => absurd open_ closed, rfl, LiveNode.follows_advance _⟩,
          fun wrong => absurd wrong (by simp)⟩
      · rw [connected]
        exact ⟨⟨fun _ => ⟨silent, holds⟩, rfl, follows⟩, fun _ => rfl⟩

/-- The client takes an answer over unless it is an exception. -/
def taken (function : UInt8) (answer : List UInt8) : Option (List UInt8) :=
  if answer.getD 0 0 ≠ function ∨ answer.getD 0 0 &&& 0x80 ≠ 0 then none else some answer

/-- A reply is read to its end, or the connection is given up. -/
theorem receiveReply_outcome {transaction : UInt16} (function : UInt8) {answer : List UInt8}
    (holds : client.world.firmware.server.Holds [])
    (inbound : client.world.inbound = [] ∨
      client.world.inbound = Mbap.adu transaction client.unitId answer)
    (short : answer.length ≤ 259) :
    Ended client (client.receiveReply liveNetwork transaction function).2 ∧
      ((client.receiveReply liveNetwork transaction function).1 = none ∨
        client.world.inbound = Mbap.adu transaction client.unitId answer ∧
          (client.receiveReply liveNetwork transaction function).1 = taken function answer) := by
  obtain ⟨follows, headerHolds, headerRest⟩ := LiveNode.receiveAll_outcome 7 client.world holds
  have headerLength := receiveAll_length liveNetwork 7 client.world
  unfold receiveReply receive
  dsimp only
  generalize receiveAll liveNetwork 7 client.world = header at *
  split
  · exact ⟨disconnectLocked_ended rfl follows, .inl rfl⟩
  · next received =>
      have sized := headerLength (by simpa using received)
      have replied : client.world.inbound = Mbap.adu transaction client.unitId answer := by
        apply inbound.resolve_left
        intro silent
        rw [silent] at headerRest
        rw [(List.append_eq_nil_iff.mp headerRest).1] at sized
        exact absurd sized (by simp)
      rw [replied, Mbap.adu_eq] at headerRest
      obtain ⟨headerBytes, body⟩ := List.append_inj headerRest sized
      have length : readU16 header.2.1 4 = UInt16.ofNat (answer.length + 1) := by
        rw [headerBytes]
        exact word_highByte_lowByte _
      have bodyLength : (readU16 header.2.1 4).toNat - 1 = answer.length := by
        rw [length, UInt16.toNat_ofNat']
        omega
      split
      · exact ⟨disconnectLocked_ended rfl follows, .inl rfl⟩
      · rw [bodyLength]
        obtain ⟨later, bodyHolds, bodyRest⟩ :=
          LiveNode.receiveAll_outcome answer.length header.2.2 headerHolds
        have bodySized := receiveAll_length liveNetwork answer.length header.2.2
        generalize receiveAll liveNetwork answer.length header.2.2 = pdu at *
        split
        · exact ⟨disconnectLocked_ended rfl (follows.trans later), .inl rfl⟩
        · next complete =>
            rw [body, ← List.append_nil answer] at bodyRest
            obtain ⟨same, nothing⟩ := List.append_inj bodyRest
              (by rw [bodySized (by simpa using complete)])
            have ended : ∀ received : List UInt8, Ended client
                { client with world := pdu.2.2, received := received } :=
              fun received => ⟨fun _ => ⟨nothing, bodyHolds⟩, rfl, follows.trans later⟩
            split
            · exact ⟨ended _, .inl rfl⟩
            · next regular =>
                rw [same] at regular ⊢
                rw [not_or] at regular
                exact ⟨ended _, .inr ⟨replied, (if_neg regular.2).symm⟩⟩

/-- Whenever a frame of this client reaches the node, these are the answers. -/
def Answers (Device : Type) (unit : UInt8) (request : List UInt8)
    (answers : MbusNode → List UInt8) : Prop :=
  ∀ (transaction : UInt16) (firmware : Firmware Device) (sample : DriverSample),
    firmware.Serves sample →
      (EthernetControlServer.handle unit firmware.node (Mbap.adu transaction unit request)).1 =
        Mbap.adu transaction unit (answers firmware.node)

/-- An endpoint of another unit does not answer. -/
theorem handle_of_other_unit {endpoint unit : UInt8} (other : unit ≠ endpoint) (node : MbusNode)
    (transaction : UInt16) (request : List UInt8) :
    EthernetControlServer.handle endpoint node (Mbap.adu transaction unit request) =
      ([], node) := by
  rw [EthernetControlServer.handle, if_pos]
  exact .inr (.inr other)

theorem delivered_answer {unit : UInt8} {transaction : UInt16} {request : List UInt8}
    {answers : MbusNode → List UInt8} (answered : Answers Device unit request answers)
    {before after : LiveNode Device}
    (delivered : LiveNode.Arrived (Mbap.adu transaction unit request) before after) :
    after.inbound = [] ∨
      before.log <+: after.log.dropLast ∧
        after.inbound = Mbap.adu transaction unit
          (answers (before.site.firmware after.log.dropLast).node) := by
  rcases delivered.2 with silent | ⟨later, reply⟩
  · exact .inl silent
  · by_cases same : unit = (before.site.firmware after.log.dropLast).server.unitId
    · have answer := answered transaction _ _ (before.site.serves after.log.dropLast)
      rw [← same, answer] at reply
      exact .inr ⟨later, reply⟩
    · rw [handle_of_other_unit same] at reply
      exact .inl reply

/-- The log up to the pass in which the node has the whole request. -/
def answeredAt (client : PosixModbusTcpClient (LiveNode Device)) (function : UInt8)
    (payload : List UInt8) : List FirmwareEvent :=
  let connection := client.connectLocked liveNetwork
  let request :=
    Mbap.adu (connection.2.transactionId + 1) connection.2.unitId (function :: payload)
  (sendAll liveNetwork request connection.2.world).2.log.dropLast

def readAt (client : PosixModbusTcpClient (LiveNode Device)) (start count : UInt16) :
    List FirmwareEvent :=
  client.answeredAt 0x03 [highByte start, lowByte start, highByte count, lowByte count]

/-- What a transaction brings back is the answer of the node at one moment of it. -/
theorem transactLocked_outcome (quiet : Quiet client) {function : UInt8} {payload : List UInt8}
    {answers : MbusNode → List UInt8} (payloadShort : payload.length ≤ 252)
    (answered : Answers Device client.unitId (function :: payload) answers)
    (short : ∀ node, (answers node).length ≤ 259) :
    Ended client (client.transactLocked liveNetwork function payload).2 ∧
      ((client.transactLocked liveNetwork function payload).1 = none ∨
        client.world.log <+: client.answeredAt function payload ∧
          client.answeredAt function payload <+:
            (client.transactLocked liveNetwork function payload).2.world.log ∧
          (client.transactLocked liveNetwork function payload).1 = taken function
            (answers (client.world.site.firmware (client.answeredAt function payload)).node)) := by
  obtain ⟨connected, opens⟩ := connectLocked_ended quiet
  unfold transactLocked answeredAt
  generalize client.connectLocked liveNetwork = connection at *
  dsimp only
  split
  · exact ⟨connected, .inl rfl⟩
  · next established =>
      obtain ⟨silent, holds⟩ := connected.quiet (opens (by simpa using established))
      let transaction := connection.2.transactionId + 1
      have request := request_eq_adu transaction connection.2.unitId function payload
      rw [request]
      obtain ⟨sending, delivers⟩ := LiveNode.sendAll_outcome connection.2.world holds
        (List.nil_append (Mbap.adu transaction connection.2.unitId (function :: payload)))
        (EthernetControlServer.sendable_adu _ _ (by simp) (by rw [List.length_cons]; omega))
        (by simp [Mbap.adu_eq]) silent
      generalize sendAll liveNetwork _ connection.2.world = sent at *
      have follows := connected.follows.trans sending
      split
      · exact ⟨disconnectLocked_ended connected.unit follows, .inl rfl⟩
      · next whole =>
          have delivered := delivers (by simpa using whole)
          rw [← connected.unit] at answered
          let waiting :=
            { connection.2 with
              world := sent.2
              transactionId := transaction
              requests := connection.2.requests ++ [transaction] }
          rcases delivered_answer answered delivered with
            silent | ⟨later, replied⟩
          · obtain ⟨ended, result⟩ := @receiveReply_outcome _ waiting transaction function []
              delivered.1 (.inl silent) (by simp)
            refine ⟨⟨ended.quiet, ended.unit.trans connected.unit,
              follows.trans ended.follows⟩, .inl ?_⟩
            rcases result with nothing | ⟨wrong, -⟩
            · exact nothing
            · rw [silent] at wrong
              exact absurd (congrArg List.length wrong) (by simp)
          · rw [connected.follows.site] at replied
            obtain ⟨ended, result⟩ := @receiveReply_outcome _ waiting transaction function
              (answers (client.world.site.firmware sent.2.log.dropLast).node) delivered.1
              (.inr replied) (short _)
            refine ⟨⟨ended.quiet, ended.unit.trans connected.unit,
              follows.trans ended.follows⟩, ?_⟩
            rcases result with nothing | ⟨-, taken⟩
            · exact .inl nothing
            · exact .inr ⟨connected.follows.log.trans later,
                (List.dropLast_prefix _).trans ended.follows.log, taken⟩

theorem answers_readRequest (unit : UInt8) (start count : UInt16) :
    Answers Device unit (MbusNode.readRequest start count)
      (fun node => node.readReply start count) := by
  intro transaction firmware sample serves
  rw [EthernetControlServer.handle_readRequest unit serves.unicast]

theorem answers_writeRequest (unit : UInt8) (start : UInt16) {values : List UInt16}
    (nonempty : values ≠ []) (short : values.length ≤ 123) :
    Answers Device unit (MbusNode.writeRequest start values)
      (fun node => (EthernetControlServer.writeOutcome node start values).1) := by
  intro transaction firmware sample serves
  rw [EthernetControlServer.handle_writeRequest unit serves.unicast serves.keyless transaction
    nonempty short]

/-- All words of a range read are those of one moment. -/
theorem readHoldingRange_outcome (quiet : Quiet client) (start count : UInt16) :
    Ended client (client.readHoldingRange liveNetwork start count).2 ∧
      ∀ words, (client.readHoldingRange liveNetwork start count).1 = some words →
        client.world.log <+: client.readAt start count ∧
          client.readAt start count <+:
            (client.readHoldingRange liveNetwork start count).2.world.log ∧
          words = Foundation.readRange
            (client.world.site.firmware (client.readAt start count)).node.registers start.toNat
            count.toNat := by
  unfold readHoldingRange
  split
  · exact ⟨⟨quiet, rfl, .refl _⟩, fun words wrong => absurd wrong (by simp)⟩
  · have payloadShort :
        [highByte start, lowByte start, highByte count, lowByte count].length ≤ 252 := by simp
    obtain ⟨ended, result⟩ := transactLocked_outcome quiet payloadShort
      (answers_readRequest client.unitId start count)
      (fun node => le_trans (node.length_readReply_le start count) (by omega))
    refine ⟨ended, fun words read => ?_⟩
    simp only [PosixModbusTcpClient.readRange] at read
    rcases result with nothing | ⟨later, before, answer⟩
    · rw [nothing] at read
      exact absurd read (by simp)
    · have decoded := decodeRange_readReply
        (client.world.site.firmware (client.readAt start count)).node start count
      rw [answer, taken] at read
      rw [← readAt, decoded] at read
      split at read
      · exact ⟨later, before, (Option.some.inj read).symm⟩
      · exact absurd read (by simp)

theorem writeHoldingRange_ended (quiet : Quiet client) (start : UInt16)
    (values : List UInt16) :
    Ended client (client.writeHoldingRange liveNetwork start values).2 := by
  unfold writeHoldingRange
  split
  · exact ⟨quiet, rfl, .refl _⟩
  · next sized =>
      simp only [not_or, not_lt] at sized
      have payloadShort : ([highByte start, lowByte start, highByte (UInt16.ofNat values.length),
          lowByte (UInt16.ofNat values.length), UInt8.ofNat (values.length * 2)] ++
            wordsBytes values).length ≤ 252 := by
        simp only [List.length_append, length_wordsBytes, List.length_cons, List.length_nil]
        omega
      refine (transactLocked_outcome quiet payloadShort
        (answers_writeRequest client.unitId start sized.1 sized.2) fun node => ?_).1
      unfold EthernetControlServer.writeOutcome
      split <;> simp [MbusNode.writeReply]

end PosixModbusTcpClient

end GridexEdge.RockPi
