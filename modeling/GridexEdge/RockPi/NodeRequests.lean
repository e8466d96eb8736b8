import GridexEdge.RockPi.LiveNode

/-!
What one request of the client does to a node that goes on living.

However it is cut, and wherever the connection fails, the endpoint handles the request
in one pass or not at all; a reply means that it has handled it.
-/

namespace GridexEdge.Node.EthernetControlServer

variable {server : EthernetControlServer} (node : MbusNode)

/-- Without new bytes the beginning of a frame goes on waiting. -/
theorem node_of_quiet_loop {bytes : List UInt8} (beginning : Beginning bytes)
    (holds : server.Holds bytes) {input : ControlInput} (unasked : input.candidate = none)
    (silent : input.available = []) : (server.loop node input).2.2 = node := by
  obtain ⟨rest, unfinished, sendable⟩ := beginning
  by_cases dropped : server.client = none
  · rw [loop_of_dropped node dropped unasked]
  · have received := holds.resolve_left dropped
    unfold EthernetControlServer.loop acceptClient
    rw [unasked]
    by_cases connected : (server.client.isSome && input.connected) = true
    · have unchanged : server.readAvailable input = server := by
        unfold readAvailable
        rw [silent]
        simp
      have waiting := processFrames_of_beginning node (by rwa [received]) unfinished
      rw [if_pos connected]
      dsimp only
      rw [if_neg dropped, unchanged, waiting]
      dsimp only
      split
      · rfl
      · rfl
    · rw [if_neg connected]
      rfl

theorem node_of_candidate (server : EthernetControlServer) (remoteIP nowMs : UInt32) :
    (server.loop node
      { connected := false, candidate := some remoteIP, available := [],
        nowMs := nowMs }).2.2 = node := by
  by_cases allowed : server.sourceAllowed remoteIP = true
  · rw [loop_of_connect node allowed nowMs]
  · simp [EthernetControlServer.loop, acceptClient, allowed]

end GridexEdge.Node.EthernetControlServer

namespace GridexEdge.RockPi

open Foundation Node

variable {Device : Type}

/-! ### Properties of a log -/

/-- Neither the main loop's own events nor a pass that stores nothing ends the property. -/
structure Steady (site : NodeSite Device) (Property : List FirmwareEvent → Prop) : Prop where
  own : ∀ log event, (∀ input, event ≠ .controlLoop input) → Property log →
    Property (log ++ [event])
  idle : ∀ log input, (site.firmware (log ++ [.controlLoop input])).node =
    (site.firmware log).node → Property log → Property (log ++ [.controlLoop input])

namespace NodeSite

variable (site : NodeSite Device)

theorem firmware_append (log : List FirmwareEvent) (event : FirmwareEvent) :
    site.firmware (log ++ [event]) = (site.firmware log).step site.driver event :=
  run_append _ _ _ _

/-- The pass after this log handles the request. -/
def HandledIn (request : List UInt8) (log : List FirmwareEvent) (input : ControlInput) : Prop :=
  (site.firmware (log ++ [.controlLoop input])).node =
    (EthernetControlServer.handle (site.firmware log).server.unitId (site.firmware log).node
      request).2

end NodeSite

namespace Steady

variable {site : NodeSite Device} {First Second Property : List FirmwareEvent → Prop}

theorem or (first : Steady site First) (second : Steady site Second) :
    Steady site fun log => First log ∨ Second log where
  own log event other held :=
    held.imp (first.own log event other) (second.own log event other)
  idle log input same held := held.imp (first.idle log input same) (second.idle log input same)

theorem append (steady : Steady site Property) {bytes : List UInt8}
    (beginning : EthernetControlServer.Beginning bytes) {events : List FirmwareEvent}
    (quiet : ∀ event ∈ events, event.isQuiet = true) {log : List FirmwareEvent}
    (holds : (site.firmware log).server.Holds bytes) (held : Property log) :
    Property (log ++ events) := by
  induction events generalizing log with
  | nil => rwa [List.append_nil]
  | cons event rest inductionHypothesis =>
      have silent := quiet event List.mem_cons_self
      have next : (site.firmware (log ++ [event])).server.Holds bytes := by
        rw [site.firmware_append]
        exact Firmware.holds_step site.driver _ silent beginning holds
      rw [← List.singleton_append, ← List.append_assoc]
      apply inductionHypothesis
      · exact fun later member => quiet later (List.mem_cons_of_mem _ member)
      · exact next
      · by_cases pass : ∃ input, event = .controlLoop input
        · obtain ⟨input, rfl⟩ := pass
          simp only [FirmwareEvent.isQuiet, Bool.and_eq_true, Option.isNone_iff_eq_none,
            List.isEmpty_iff] at silent
          apply steady.idle log input _ held
          rw [site.firmware_append]
          exact EthernetControlServer.node_of_quiet_loop _ beginning holds silent.1 silent.2
        · exact steady.own log event (fun input same => pass ⟨input, same⟩) held

end Steady

namespace LiveNode

variable {live : LiveNode Device} {Property : List FirmwareEvent → Prop}

/-- What the endpoint has of a request is not all of it. -/
def Settled (live : LiveNode Device) : Prop :=
  ∃ bytes, EthernetControlServer.Beginning bytes ∧ live.firmware.server.Holds bytes

theorem settled_of_empty (holds : live.firmware.server.Holds []) : live.Settled :=
  ⟨[], EthernetControlServer.beginning_nil, holds⟩

theorem Settled.advance (settled : live.Settled) : live.advance.Settled := by
  obtain ⟨bytes, beginning, holds⟩ := settled
  exact ⟨bytes, beginning, holds_advance beginning holds⟩

theorem steady_advance (steady : Steady live.site Property) (settled : live.Settled)
    (held : Property live.log) : Property live.advance.log := by
  obtain ⟨bytes, beginning, holds⟩ := settled
  apply steady.append beginning _ holds held
  exact fun event member => (List.mem_filter.mp member).2

theorem steady_connect (steady : Steady live.site Property) (settled : live.Settled)
    (held : Property live.log) :
    Property (liveNetwork.connect live).2.log ∧ (liveNetwork.connect live).2.Settled := by
  have advanced := steady_advance steady settled held
  by_cases failed : live.fragmentNow = 0
  · have outcome : liveNetwork.connect live = (false, live.advance) := if_pos failed
    rw [outcome]
    exact ⟨advanced, settled.advance⟩
  · let input : ControlInput :=
      { connected := false, candidate := some live.site.gateway, available := [],
        nowMs := live.clockNow }
    have outcome : liveNetwork.connect live =
        (true, { live.advance with inbound := [] }.pass input) := if_neg failed
    rw [outcome]
    constructor
    · apply steady.idle live.advance.log input _ advanced
      rw [live.site.firmware_append]
      exact EthernetControlServer.node_of_candidate _ _ _ _
    · apply settled_of_empty
      rw [firmware_pass]
      exact (EthernetControlServer.loop_of_candidate live.advance.firmware.node
        live.advance.firmware.server live.site.gateway live.clockNow).2

/-- A pass handles the request when it brings the last of its bytes. -/
theorem pass_handles {front fragment rest : List UInt8}
    (holds : live.firmware.server.Holds front) (nonempty : fragment ≠ [])
    (room : fragment.length ≤ 300 - live.firmware.server.rx.length)
    (sendable : EthernetControlServer.Sendable (front ++ fragment ++ rest))
    (silent : live.inbound = []) (nowMs : UInt32) :
    let input : ControlInput :=
      { connected := true, candidate := none, available := fragment, nowMs := nowMs }
    (rest ≠ [] → (live.pass input).firmware.node = live.firmware.node) ∧
      (rest = [] → live.site.HandledIn (front ++ fragment) live.log input ∨
        (live.pass input).firmware.node = live.firmware.node ∧ (live.pass input).inbound = []) := by
  intro input
  have node : (live.pass input).firmware.node =
      (live.firmware.server.loop live.firmware.node input).2.2 := by
    rw [firmware_pass]
    rfl
  by_cases dropped : live.firmware.server.client = none
  · have looped : live.firmware.server.loop live.firmware.node input =
        ([], { live.firmware.server with client := none }, live.firmware.node) :=
      EthernetControlServer.loop_of_dropped live.firmware.node dropped rfl
    have same : (live.pass input).firmware.node = live.firmware.node := by rw [node, looped]
    refine ⟨fun _ => same, fun _ => .inr ⟨same, ?_⟩⟩
    change live.inbound ++ _ = _
    rw [silent, looped]
    rfl
  · have received := holds.resolve_left dropped
    have accepted := Option.isSome_iff_ne_none.mpr dropped
    have fits : live.firmware.server.rx.length + fragment.length ≤ 300 := by
      have positive := List.length_pos_iff.mpr nonempty
      omega
    rw [← received] at sendable ⊢
    constructor
    · intro unfinished
      rw [node, EthernetControlServer.loop_of_beginning live.firmware.node accepted nonempty fits
        nowMs sendable unfinished]
    · rintro rfl
      rw [List.append_nil] at sendable
      refine .inl (node.trans ?_)
      rw [EthernetControlServer.loop_of_last live.firmware.node accepted nonempty fits nowMs
        sendable]
      rfl

/-- A request is on its way until it is handled, and is handled once. -/
structure Once (Before After : List FirmwareEvent → Prop) (live : LiveNode Device) : Prop where
  settled : live.Settled
  held : Before live.log ∨ After live.log

variable {Before After : List FirmwareEvent → Prop}

theorem sendAll_once {request front remaining : List UInt8} (live : LiveNode Device)
    (before : Steady live.site Before) (after : Steady live.site After)
    (handled : ∀ log input, live.site.HandledIn request log input → Before log →
      After (log ++ [.controlLoop input]))
    (holds : live.firmware.server.Holds front) (whole : front ++ remaining = request)
    (sendable : EthernetControlServer.Sendable request) (unfinished : remaining ≠ [])
    (silent : live.inbound = []) (held : Before live.log) :
    Once Before After (sendAll liveNetwork remaining live).2 ∧
      ((sendAll liveNetwork remaining live).1 = true →
        After (sendAll liveNetwork remaining live).2.log ∨
          (sendAll liveNetwork remaining live).2.inbound = []) := by
  induction size : remaining.length using Nat.strong_induction_on
    generalizing front remaining live with
  | _ size inductionHypothesis =>
      subst size
      have beginning : EthernetControlServer.Beginning front :=
        ⟨remaining, unfinished, by rwa [whole]⟩
      have advanced := steady_advance before ⟨front, beginning, holds⟩ held
      have waits := holds_advance beginning holds
      let taken := min (min remaining.length live.fragmentNow)
        (300 - live.advance.firmware.server.rx.length)
      let input : ControlInput :=
        { connected := true, candidate := none, available := remaining.take taken,
          nowMs := live.clockNow }
      have sent : liveNetwork.send remaining live =
          if taken = 0 then (0, live.advance) else (taken, live.advance.pass input) := rfl
      by_cases stuck : taken = 0
      · rw [if_pos stuck] at sent
        rw [sendAll, if_neg unfinished, sent]
        exact ⟨⟨⟨front, beginning, waits⟩, .inl advanced⟩, fun wrong => absurd wrong (by simp)⟩
      · have length : (remaining.take taken).length = taken := by
          rw [List.length_take]
          omega
        have nonempty : remaining.take taken ≠ [] := by
          intro empty
          rw [empty] at length
          exact stuck length.symm
        have split : front ++ remaining.take taken ++ remaining.drop taken = request := by
          rw [List.append_assoc, List.take_append_drop, whole]
        have room : (remaining.take taken).length ≤
            300 - live.advance.firmware.server.rx.length := by
          rw [length]
          exact Nat.min_le_right _ _
        obtain ⟨idle, last⟩ :=
          pass_handles waits nonempty room (by rwa [split]) silent live.clockNow
        obtain ⟨waiting, arrived⟩ :=
          pass_of_fragment waits nonempty room (by rwa [split]) silent live.clockNow
        rw [if_neg stuck] at sent
        rw [sendAll_of_sent liveNetwork unfinished (Nat.pos_of_ne_zero stuck) sent]
        by_cases finished : remaining.drop taken = []
        · rw [finished, sendAll_nil]
          rw [finished, List.append_nil] at split
          have settled := settled_of_empty (arrived finished).1
          rw [split] at last
          rcases last finished with handles | ⟨same, nothing⟩
          · have done := handled live.advance.log input handles advanced
            exact ⟨⟨settled, .inr done⟩, fun _ => .inl done⟩
          · exact ⟨⟨settled, .inl (before.idle live.advance.log input same advanced)⟩,
              fun _ => .inr nothing⟩
        · obtain ⟨still, unanswered⟩ := waiting finished
          exact inductionHypothesis _
            (by rw [List.length_drop]; have := List.length_pos_iff.mpr unfinished; omega)
            (live.advance.pass input) before after handled still split finished unanswered
            (before.idle live.advance.log input (idle finished) advanced) rfl

theorem receiveAll_steady (size : Nat) (live : LiveNode Device)
    (steady : Steady live.site Property) (holds : live.firmware.server.Holds [])
    (held : Property live.log) : Property (receiveAll liveNetwork size live).2.2.log := by
  induction size using Nat.strong_induction_on generalizing live with
  | _ size inductionHypothesis =>
      have advanced := steady_advance steady (settled_of_empty holds) held
      rcases Nat.eq_zero_or_pos size with rfl | positive
      · rw [receiveAll_zero]
        exact held
      · let taken := min size live.fragmentNow
        let after := { live.advance with inbound := live.inbound.drop taken }
        have arrived : liveNetwork.recv size live =
            (⟨live.inbound.take taken,
              le_trans (List.length_take_le _ _) (Nat.min_le_left _ _)⟩, after) := rfl
        by_cases progress : 0 < (live.inbound.take taken).length
        · rw [receiveAll_of_received liveNetwork progress arrived]
          exact inductionHypothesis _ (by omega) after steady
            (holds_advance EthernetControlServer.beginning_nil holds) advanced
        · rw [receiveAll, if_neg (by omega), arrived]
          dsimp only
          rw [if_neg progress]
          exact advanced

end LiveNode

namespace PosixModbusTcpClient

variable {client : PosixModbusTcpClient (LiveNode Device)}
  {Property Before After : List FirmwareEvent → Prop}

/-- Between two calls. -/
structure Resting (client : PosixModbusTcpClient (LiveNode Device)) : Prop where
  quiet : Quiet client
  settled : client.world.Settled

theorem disconnectLocked_world (client : PosixModbusTcpClient (LiveNode Device)) :
    (client.disconnectLocked liveNetwork).world.log = client.world.log ∧
      ((client.disconnectLocked liveNetwork).world.Settled ↔ client.world.Settled) := by
  unfold disconnectLocked
  split
  · exact ⟨rfl, Iff.rfl⟩
  · exact ⟨rfl, Iff.rfl⟩

theorem receiveReply_steady (transaction : UInt16) (function : UInt8)
    (steady : Steady client.world.site Property)
    (holds : client.world.firmware.server.Holds []) (held : Property client.world.log) :
    Property (client.receiveReply liveNetwork transaction function).2.world.log ∧
      (client.receiveReply liveNetwork transaction function).2.world.Settled := by
  obtain ⟨follows, headerHolds, -⟩ := LiveNode.receiveAll_outcome 7 client.world holds
  have header := LiveNode.receiveAll_steady 7 client.world steady holds held
  unfold receiveReply receive
  dsimp only
  generalize receiveAll liveNetwork 7 client.world = read at *
  have settled := LiveNode.settled_of_empty headerHolds
  rw [← follows.site] at steady
  split
  · obtain ⟨log, same⟩ := disconnectLocked_world
      { client with world := read.2.2, received := client.received ++ read.2.1 }
    exact ⟨by rw [log]; exact header, same.mpr settled⟩
  · split
    · obtain ⟨log, same⟩ := disconnectLocked_world
        { client with world := read.2.2, received := client.received ++ read.2.1 }
      exact ⟨by rw [log]; exact header, same.mpr settled⟩
    · obtain ⟨-, bodyHolds, -⟩ := LiveNode.receiveAll_outcome
        ((readU16 read.2.1 4).toNat - 1) read.2.2 headerHolds
      have body := LiveNode.receiveAll_steady ((readU16 read.2.1 4).toNat - 1) read.2.2 steady
        headerHolds header
      have bodySettled := LiveNode.settled_of_empty bodyHolds
      generalize receiveAll liveNetwork ((readU16 read.2.1 4).toNat - 1) read.2.2 = pdu at *
      split
      · obtain ⟨log, same⟩ := disconnectLocked_world
          { client with
            world := pdu.2.2
            received := client.received ++ read.2.1 ++ pdu.2.1 }
        exact ⟨by rw [log]; exact body, same.mpr bodySettled⟩
      · split
        · exact ⟨body, bodySettled⟩
        · exact ⟨body, bodySettled⟩

theorem connectLocked_steady (resting : Resting client)
    (steady : Steady client.world.site Property) (held : Property client.world.log) :
    Property (client.connectLocked liveNetwork).2.world.log ∧
      (client.connectLocked liveNetwork).2.world.Settled := by
  have connected := LiveNode.steady_connect steady resting.settled held
  unfold connectLocked
  split
  · exact ⟨held, resting.settled⟩
  · dsimp only
    split
    · exact connected
    · exact connected

/-- A call makes the endpoint handle its request at most once, and a reply means once. -/
theorem transactLocked_once (resting : Resting client) {function : UInt8} {payload : List UInt8}
    (payloadShort : payload.length ≤ 252) (before : Steady client.world.site Before)
    (after : Steady client.world.site After)
    (handled : ∀ transaction log input, client.world.site.HandledIn
      (Mbap.adu transaction client.unitId (function :: payload)) log input → Before log →
        After (log ++ [.controlLoop input]))
    (held : Before client.world.log) :
    LiveNode.Once Before After (client.transactLocked liveNetwork function payload).2.world ∧
      ((client.transactLocked liveNetwork function payload).1 ≠ none →
        After (client.transactLocked liveNetwork function payload).2.world.log) := by
  obtain ⟨connected, opens⟩ := connectLocked_ended resting.quiet
  obtain ⟨heldNext, settled⟩ := connectLocked_steady resting before held
  unfold transactLocked
  generalize client.connectLocked liveNetwork = connection at *
  dsimp only
  split
  · exact ⟨⟨settled, .inl heldNext⟩, fun wrong => absurd rfl wrong⟩
  · next established =>
      obtain ⟨silent, holds⟩ := connected.quiet (opens (by simpa using established))
      let transaction := connection.2.transactionId + 1
      have request := request_eq_adu transaction connection.2.unitId function payload
      rw [request]
      have sendable : EthernetControlServer.Sendable
          (Mbap.adu transaction connection.2.unitId (function :: payload)) :=
        EthernetControlServer.sendable_adu _ _ (by simp) (by rw [List.length_cons]; omega)
      have unfinished : Mbap.adu transaction connection.2.unitId (function :: payload) ≠ [] := by
        simp [Mbap.adu_eq]
      rw [← connected.follows.site] at before after handled
      rw [← connected.unit] at handled
      obtain ⟨once, delivered⟩ := LiveNode.sendAll_once connection.2.world before after
        (handled transaction) holds (List.nil_append _) sendable unfinished silent heldNext
      obtain ⟨follows, arrives⟩ := LiveNode.sendAll_outcome connection.2.world holds
        (List.nil_append _) sendable unfinished silent
      generalize sendAll liveNetwork
        (Mbap.adu transaction connection.2.unitId (function :: payload))
        connection.2.world = sent at *
      rw [← follows.site] at before after
      let waiting : PosixModbusTcpClient (LiveNode Device) :=
        { connection.2 with
          world := sent.2
          transactionId := transaction
          requests := connection.2.requests ++ [transaction] }
      split
      · obtain ⟨log, same⟩ := disconnectLocked_world waiting
        refine ⟨⟨same.mpr once.settled, ?_⟩, fun wrong => absurd rfl wrong⟩
        rw [log]
        exact once.held
      · next whole =>
          have complete : sent.1 = true := by simpa using whole
          have empty := (arrives complete).1
          obtain ⟨kept, restingNext⟩ :=
            @receiveReply_steady _ waiting _ transaction function (before.or after) empty once.held
          refine ⟨⟨restingNext, kept⟩, fun replied => ?_⟩
          rcases delivered complete with done | nothing
          · exact (@receiveReply_steady _ waiting _ transaction function after empty done).1
          · obtain ⟨-, result⟩ := @receiveReply_outcome _ waiting transaction function [] empty
              (.inl nothing) (by simp)
            rcases result with none | ⟨wrong, -⟩
            · exact absurd none replied
            · rw [nothing] at wrong
              exact absurd (congrArg List.length wrong) (by simp)

/-! ### Reads and writes -/

/-- A read leaves the registers as they are. -/
theorem handledIn_readRequest {site : NodeSite Device} {transaction : UInt16} {unit : UInt8}
    {start count : UInt16} {log : List FirmwareEvent} {input : ControlInput}
    (handled : site.HandledIn
      (Mbap.adu transaction unit (MbusNode.readRequest start count)) log input) :
    (site.firmware (log ++ [.controlLoop input])).node = (site.firmware log).node := by
  rw [handled]
  by_cases same : unit = (site.firmware log).server.unitId
  · rw [← same, EthernetControlServer.handle_readRequest unit (site.serves log).unicast]
  · rw [handle_of_other_unit same]

theorem readHoldingRange_steady (resting : Resting client) (start count : UInt16)
    (steady : Steady client.world.site Property) (held : Property client.world.log) :
    Property (client.readHoldingRange liveNetwork start count).2.world.log ∧
      Resting (client.readHoldingRange liveNetwork start count).2 := by
  have quiet := (readHoldingRange_outcome resting.quiet start count).1.quiet
  by_cases refused : count = 0 ∨ 125 < count
  · rw [readHoldingRange, if_pos refused]
    exact ⟨held, resting⟩
  · rw [readHoldingRange, if_neg refused] at quiet ⊢
    have payloadShort :
        [highByte start, lowByte start, highByte count, lowByte count].length ≤ 252 := by simp
    obtain ⟨once, -⟩ := transactLocked_once resting payloadShort steady steady
      (fun transaction log input handled before =>
        steady.idle log input (handledIn_readRequest handled) before) held
    exact ⟨once.held.elim id id, quiet, once.settled⟩

theorem writeHoldingRange_once (resting : Resting client) {start : UInt16} {values : List UInt16}
    (nonempty : values ≠ []) (short : values.length ≤ 123)
    (before : Steady client.world.site Before) (after : Steady client.world.site After)
    (handled : ∀ transaction log input, client.world.site.HandledIn
      (Mbap.adu transaction client.unitId (MbusNode.writeRequest start values)) log input →
        Before log → After (log ++ [.controlLoop input]))
    (held : Before client.world.log) :
    Resting (client.writeHoldingRange liveNetwork start values).2 ∧
      (Before (client.writeHoldingRange liveNetwork start values).2.world.log ∨
        After (client.writeHoldingRange liveNetwork start values).2.world.log) ∧
      ((client.writeHoldingRange liveNetwork start values).1 = true →
        After (client.writeHoldingRange liveNetwork start values).2.world.log) := by
  have quiet := (writeHoldingRange_ended resting.quiet start values).quiet
  have sized : ¬(values = [] ∨ 123 < values.length) := by
    rintro (empty | long)
    · exact nonempty empty
    · omega
  rw [writeHoldingRange, if_neg sized] at quiet ⊢
  have payloadShort : ([highByte start, lowByte start, highByte (UInt16.ofNat values.length),
      lowByte (UInt16.ofNat values.length), UInt8.ofNat (values.length * 2)] ++
        wordsBytes values).length ≤ 252 := by
    simp only [List.length_append, length_wordsBytes, List.length_cons, List.length_nil]
    omega
  obtain ⟨once, replied⟩ := transactLocked_once resting payloadShort before after handled held
  refine ⟨⟨quiet, once.settled⟩, once.held, fun success => replied fun silent => ?_⟩
  simp only [silent] at success
  exact absurd success (by simp)

end PosixModbusTcpClient

end GridexEdge.RockPi
