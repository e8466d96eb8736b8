import GridexEdge.Node.Replies
import GridexEdge.RockPi.NodeTcpPollingService

/-!
The gateway's client connected to one node's endpoint.

The connection loses nothing and may cut every send and every receive as it
likes. A call that finds both ends at a frame boundary leaves them at one, and
its result is what the node's registers say.
-/

namespace GridexEdge.RockPi

open Foundation Node

/-- Both ends of a connection and the replies on their way. The fragment sizes
are taken one for each socket call. -/
structure NodeLink where
  node : MbusNode
  server : EthernetControlServer
  gateway : UInt32
  inbound : List UInt8 := []
  fragment : Nat → Nat
  calls : Nat := 0

namespace NodeLink

def cut (link : NodeLink) (size : Nat) : Nat := min size (max 1 (link.fragment link.calls))

theorem cut_le (link : NodeLink) (size : Nat) : link.cut size ≤ size := Nat.min_le_left _ _

theorem cut_pos (link : NodeLink) {size : Nat} (positive : 0 < size) : 0 < link.cut size := by
  unfold cut
  omega

/-- One pass of the endpoint, whose replies join the bytes on their way. -/
def pass (link : NodeLink) (input : ControlInput) : NodeLink :=
  let looped := link.server.loop link.node input
  { link with
    server := looped.2.1
    node := looped.2.2
    inbound := link.inbound ++ looped.1.flatten
    calls := link.calls + 1 }

end NodeLink

/-- The endpoint runs whenever something reaches it, and a send takes no more than
it has room for. A closed connection drops what was on its way. -/
def nodeNetwork : Network NodeLink where
  connect link :=
    (true, { link with inbound := [] }.pass
      { connected := false, candidate := some link.gateway, available := [], nowMs := 0 })
  send bytes link :=
    let taken := min (link.cut bytes.length) (300 - link.server.rx.length)
    (taken, link.pass
      { connected := true, candidate := none, available := bytes.take taken, nowMs := 0 })
  recv size link :=
    (⟨link.inbound.take (link.cut size),
        le_trans (List.length_take_le _ _) (link.cut_le size)⟩,
      { link with inbound := link.inbound.drop (link.cut size), calls := link.calls + 1 })
  close link := { link with inbound := [] }

open EthernetControlServer in
/-- However a frame is cut, the endpoint handles it once, when its last byte is
there. -/
theorem sendAll_delivers (bytes : List UInt8) (link : NodeLink) (nonempty : bytes ≠ [])
    (accepted : link.server.client.isSome = true)
    (sendable : Sendable (link.server.rx ++ bytes)) :
    ∃ calls, sendAll nodeNetwork bytes link =
      (true, { link with
        server := { link.server with rx := [], lastByteMs := 0 }
        node := (handle link.server.unitId link.node (link.server.rx ++ bytes)).2
        inbound := link.inbound ++
          (handle link.server.unitId link.node (link.server.rx ++ bytes)).1
        calls := calls }) := by
  induction size : bytes.length using Nat.strong_induction_on generalizing bytes link with
  | _ size inductionHypothesis =>
      subst size
      have positive := List.length_pos_iff.mpr nonempty
      have short := sendable.short
      rw [List.length_append] at short
      have room : min (link.cut bytes.length) (300 - link.server.rx.length) =
          link.cut bytes.length := by
        have := link.cut_le bytes.length
        omega
      have progress := link.cut_pos positive
      have taken := link.cut_le bytes.length
      have chunk : bytes.take (link.cut bytes.length) ≠ [] := by
        intro empty
        rcases List.take_eq_nil_iff.mp empty with none | missing
        · exact progress.ne' none
        · exact nonempty missing
      have sent : nodeNetwork.send bytes link = (link.cut bytes.length, link.pass
          { connected := true, candidate := none,
            available := bytes.take (link.cut bytes.length), nowMs := 0 }) := by
        simp only [nodeNetwork]
        rw [room]
      have fragmentRoom : link.server.rx.length + (bytes.take (link.cut bytes.length)).length ≤
          300 := by
        rw [List.length_take]
        omega
      rw [sendAll_of_sent nodeNetwork nonempty progress sent]
      by_cases last : link.cut bytes.length = bytes.length
      · rw [last, List.take_length] at chunk fragmentRoom ⊢
        have looped := loop_of_last link.node accepted chunk fragmentRoom 0 sendable
        refine ⟨link.calls + 1, ?_⟩
        rw [List.drop_length, sendAll_nil, NodeLink.pass]
        simp only [looped, flatten_answer]
      · have unfinished : bytes.drop (link.cut bytes.length) ≠ [] := by
          intro empty
          have covered := List.drop_eq_nil_iff.mp empty
          omega
        have whole : link.server.rx ++ bytes.take (link.cut bytes.length) ++
            bytes.drop (link.cut bytes.length) = link.server.rx ++ bytes := by
          rw [List.append_assoc, List.take_append_drop]
        have looped := loop_of_beginning link.node accepted chunk fragmentRoom 0
          (by rwa [whole]) unfinished
        rw [NodeLink.pass]
        simp only [looped, List.flatten_nil, List.append_nil]
        obtain ⟨calls, delivered⟩ := inductionHypothesis _
          (by rw [List.length_drop]; omega) (bytes.drop (link.cut bytes.length))
          { link with
            server :=
              { link.server with
                rx := link.server.rx ++ bytes.take (link.cut bytes.length), lastByteMs := 0 }
            calls := link.calls + 1 } unfinished accepted (by rwa [whole]) rfl
        exact ⟨calls, by simpa only [whole] using delivered⟩

/-- However the replies are cut, exactly the bytes asked for are received. -/
theorem receiveAll_delivers (expected rest : List UInt8) (link : NodeLink)
    (inbound : link.inbound = expected ++ rest) :
    ∃ calls, receiveAll nodeNetwork expected.length link =
      (true, expected, { link with inbound := rest, calls := calls }) := by
  induction size : expected.length using Nat.strong_induction_on generalizing expected link with
  | _ size inductionHypothesis =>
      subst size
      rcases Nat.eq_zero_or_pos expected.length with empty | positive
      · obtain rfl := List.length_eq_zero_iff.mp empty
        exact ⟨link.calls, by rw [← List.nil_append rest, ← inbound]; exact receiveAll_zero _ _⟩
      · have taken := link.cut_le expected.length
        have progress := link.cut_pos positive
        have length : (expected.take (link.cut expected.length)).length =
            link.cut expected.length := by
          rw [List.length_take]
          omega
        have arrived : nodeNetwork.recv expected.length link =
            (⟨expected.take (link.cut expected.length), by rw [length]; exact taken⟩,
              { link with
                inbound := expected.drop (link.cut expected.length) ++ rest
                calls := link.calls + 1 }) := by
          simp only [nodeNetwork, inbound, List.take_append_of_le_length taken,
            List.drop_append_of_le_length taken]
        obtain ⟨calls, received⟩ := inductionHypothesis _
          (by rw [List.length_drop]; omega) (expected.drop (link.cut expected.length))
          { link with
            inbound := expected.drop (link.cut expected.length) ++ rest
            calls := link.calls + 1 } rfl rfl
        refine ⟨calls, ?_⟩
        rw [List.length_drop] at received
        rw [receiveAll_of_received nodeNetwork (by rw [length]; exact progress) arrived, length,
          received, List.take_append_drop]

/-- The node holds these words, and nothing else of it has changed. -/
structure Delivered (before : MbusNode) (start : UInt16) (values : List UInt16)
    (after : MbusNode) : Prop where
  held : readRange after.registers start.toNat values.length = values
  others : ∀ address : UInt16,
    address.toNat < start.toNat ∨ start.toNat + values.length ≤ address.toNat →
      after.registerValue address = before.registerValue address
  config : after.config = before.config
  configurationChanged : after.configurationChanged = before.configurationChanged

theorem delivered_storeRange (node : MbusNode) {start : UInt16} {values : List UInt16}
    (fits : start.toNat + values.length ≤ 128) :
    Delivered node start values (node.storeRange start values) where
  held := readRange_writeRange node.registers fits
  others _ outside := node.registerValue_storeRange_of_outside outside
  config := rfl
  configurationChanged := rfl

namespace PosixModbusTcpClient

/-- A connection can be opened, or both ends of the open one are at a frame
boundary. -/
structure Linked (client : PosixModbusTcpClient NodeLink) : Prop where
  unit : client.unitId = client.world.server.unitId
  allowed : client.world.server.sourceAllowed client.world.gateway = true
  idle : client.connected = true →
    client.world.inbound = [] ∧ client.world.server.rx = [] ∧
      client.world.server.client.isSome = true

/-- A transaction returns the endpoint's answer unless that is an exception, and
leaves both ends at a frame boundary in any case. -/
structure Answered (function : UInt8) (answer : List UInt8) (after : MbusNode)
    (outcome : Option (List UInt8) × PosixModbusTcpClient NodeLink) : Prop where
  result : outcome.1 =
    if answer.getD 0 0 ≠ function ∨ answer.getD 0 0 &&& 0x80 ≠ 0 then none else some answer
  linked : Linked outcome.2
  node : outcome.2.world.node = after

variable {client : PosixModbusTcpClient NodeLink}

theorem connectLocked_linked (linked : Linked client) :
    (client.connectLocked nodeNetwork).1 = true ∧
      Linked (client.connectLocked nodeNetwork).2 ∧
      (client.connectLocked nodeNetwork).2.connected = true ∧
      (client.connectLocked nodeNetwork).2.unitId = client.unitId ∧
      (client.connectLocked nodeNetwork).2.world.node = client.world.node := by
  unfold connectLocked
  split
  · next open_ => exact ⟨rfl, linked, open_, rfl, rfl⟩
  · have accepted :=
      EthernetControlServer.loop_of_connect client.world.node linked.allowed 0
    simp only [nodeNetwork, NodeLink.pass, accepted, if_true, List.flatten_nil, List.append_nil,
      true_and, and_true]
    exact ⟨linked.unit, linked.allowed, fun _ => ⟨rfl, rfl, rfl⟩⟩

/-- The second half of a transaction whose reply is complete and on its way. -/
theorem receiveReply_answered {transaction : UInt16} (function : UInt8) {answer : List UInt8}
    {after : MbusNode} (stored : client.world.node = after)
    (unit : client.unitId = client.world.server.unitId)
    (allowed : client.world.server.sourceAllowed client.world.gateway = true)
    (accepted : client.world.server.client.isSome = true) (rx : client.world.server.rx = [])
    (inbound : client.world.inbound = Mbap.adu transaction client.unitId answer)
    (nonempty : answer ≠ []) (short : answer.length ≤ 259) :
    Answered function answer after
      (client.receiveReply nodeNetwork transaction function) := by
  have positive := List.length_pos_iff.mpr nonempty
  let header := [highByte transaction, lowByte transaction, 0, 0,
    highByte (UInt16.ofNat (answer.length + 1)), lowByte (UInt16.ofNat (answer.length + 1)),
    client.unitId]
  have length : readU16 header 4 = UInt16.ofNat (answer.length + 1) := word_highByte_lowByte _
  have sized : (UInt16.ofNat (answer.length + 1)).toNat = answer.length + 1 := by
    rw [UInt16.toNat_ofNat']
    omega
  obtain ⟨calls, headerReceived⟩ := receiveAll_delivers header answer client.world inbound
  obtain ⟨calls, bodyReceived⟩ := receiveAll_delivers answer []
    { client.world with inbound := answer, calls := calls } (by simp)
  have matching : ¬(readU16 header 0 ≠ transaction ∨ readU16 header 2 ≠ 0 ∨
      readU16 header 4 < 2 ∨ header.getD 6 0 ≠ client.unitId ∨ 260 < readU16 header 4) := by
    rw [length, UInt16.lt_iff_toNat_lt, UInt16.lt_iff_toNat_lt, sized]
    simp only [UInt16.reduceToNat]
    rintro (other | protocol | tiny | other | huge)
    · exact other (word_highByte_lowByte transaction)
    · exact protocol (word_highByte_lowByte 0)
    · omega
    · exact other rfl
    · omega
  have body : (readU16 header 4).toNat - 1 = answer.length := by
    rw [length, sized, Nat.add_sub_cancel]
  have headerLength : header.length = 7 := rfl
  rw [headerLength] at headerReceived
  unfold receiveReply receive
  simp only [headerReceived, Bool.not_true, Bool.false_eq_true, if_false]
  rw [if_neg matching, body]
  simp only [bodyReceived, Bool.not_true, Bool.false_eq_true, if_false, nonempty, false_or]
  split
  · next exceptional =>
      exact ⟨(if_pos exceptional).symm, ⟨unit, allowed, fun _ => ⟨rfl, rx, accepted⟩⟩, stored⟩
  · next regular =>
      exact ⟨(if_neg regular).symm, ⟨unit, allowed, fun _ => ⟨rfl, rx, accepted⟩⟩, stored⟩

theorem transactLocked_answered (linked : Linked client) {function : UInt8}
    {payload answer : List UInt8} {after : MbusNode} (payloadShort : payload.length ≤ 252)
    (handled : ∀ transaction, EthernetControlServer.handle client.unitId client.world.node
      (Mbap.adu transaction client.unitId (function :: payload)) =
        (Mbap.adu transaction client.unitId answer, after))
    (nonempty : answer ≠ []) (short : answer.length ≤ 259) :
    Answered function answer after (client.transactLocked nodeNetwork function payload) := by
  obtain ⟨connected, connectedLinked, open_, sameUnit, sameNode⟩ := connectLocked_linked linked
  unfold transactLocked
  generalize client.connectLocked nodeNetwork = connection at *
  obtain ⟨inbound, rx, accepted⟩ := connectedLinked.idle open_
  let transaction := connection.2.transactionId + 1
  obtain ⟨calls, sent⟩ := sendAll_delivers
    (Mbap.adu transaction connection.2.unitId (function :: payload)) connection.2.world
    (by simp [Mbap.adu_eq]) accepted (by
      rw [rx, List.nil_append]
      refine EthernetControlServer.sendable_adu _ _ (by simp) ?_
      rw [List.length_cons]
      omega)
  rw [rx, List.nil_append, ← connectedLinked.unit, sameUnit, sameNode, handled, inbound,
    List.nil_append] at sent
  rw [← sameUnit, ← request_eq_adu] at sent
  dsimp only
  rw [connected, if_neg (by simp), sent, if_neg (by simp)]
  refine receiveReply_answered function ?_ ?_ ?_ ?_ ?_ ?_ nonempty short
  · rfl
  · exact connectedLinked.unit
  · exact connectedLinked.allowed
  · exact accepted
  · rfl
  · rfl

/-- Both ends are in step, and the node has an address and no pending key. -/
structure Ready (client : PosixModbusTcpClient NodeLink) : Prop extends Linked client where
  unicast : client.world.node.config.address ≠ 0
  keyless : client.world.node.registerValue Reg.applyConfiguration ≠ Reg.applyKey

/-- What the client makes of the reply to a range read. -/
theorem decodeRange_readReply (node : MbusNode) (start count : UInt16) :
    (if (node.readReply start count).getD 0 0 ≠ 0x03 ∨
        (node.readReply start count).getD 0 0 &&& 0x80 ≠ 0 then none
      else some (node.readReply start count)).bind (decodeRange 0x03 count) =
      if MbusNode.Readable start count then
        some (Foundation.readRange node.registers start.toNat count.toNat)
      else none := by
  by_cases readable : MbusNode.Readable start count
  · have fits : (Foundation.readRange node.registers start.toNat count.toNat).length =
        count.toNat := by
      rw [length_readRange]
      have := readable.2.2
      omega
    have byteCount : (UInt8.ofNat (count.toNat * 2)).toNat = count.toNat * 2 := by
      rw [UInt8.toNat_ofNat']
      have := readable.2.1
      omega
    have words : readWords ([0x03, UInt8.ofNat (count.toNat * 2)] ++
        wordsBytes (Foundation.readRange node.registers start.toNat count.toNat)) 2 count.toNat =
          Foundation.readRange node.registers start.toNat count.toNat := by
      have decoded := readWords_append [0x03, UInt8.ofNat (count.toNat * 2)]
        (Foundation.readRange node.registers start.toNat count.toNat) []
      rwa [List.append_nil, fits] at decoded
    rw [MbusNode.readReply, if_pos readable, if_pos readable, if_neg (by simp +decide),
      Option.bind_some,
      decodeRange, words, if_neg]
    simp only [List.length_append, length_wordsBytes, fits, List.length_cons, List.length_nil]
    rintro (length | function | bytes)
    · omega
    · exact function rfl
    · exact bytes byteCount
  · rw [MbusNode.readReply, if_neg readable, if_neg readable, if_pos (by simp)]
    rfl

/-- A range read returns the registers of every range the node reads out, and
nothing of any other. -/
theorem readHoldingRange_ready (ready : Ready client) (start count : UInt16) :
    (client.readHoldingRange nodeNetwork start count).1 =
        (if MbusNode.Readable start count then
          some (Foundation.readRange client.world.node.registers start.toNat count.toNat)
        else none) ∧
      Linked (client.readHoldingRange nodeNetwork start count).2 ∧
      (client.readHoldingRange nodeNetwork start count).2.world.node = client.world.node := by
  unfold readHoldingRange
  split
  · next refused =>
      have unreadable : ¬MbusNode.Readable start count := by
        rintro ⟨positive, short, -⟩
        rcases refused with rfl | long
        · exact absurd positive (by decide)
        · rw [UInt16.lt_iff_toNat_lt] at long
          simp only [UInt16.reduceToNat] at long
          omega
      rw [if_neg unreadable]
      exact ⟨rfl, ready.toLinked, rfl⟩
  · have length := client.world.node.length_readReply_le start count
    have answered : Answered 0x03 (client.world.node.readReply start count) client.world.node
        (client.transactLocked nodeNetwork 0x03
          [highByte start, lowByte start, highByte count, lowByte count]) :=
      transactLocked_answered ready.toLinked (by simp)
        (fun transaction => EthernetControlServer.handle_readRequest client.unitId ready.unicast
          transaction start count)
        (client.world.node.readReply_ne_nil start count) (by omega)
    refine ⟨?_, answered.linked, answered.node⟩
    simp only [PosixModbusTcpClient.readRange]
    rw [answered.result, decodeRange_readReply]

/-- A range write is acknowledged exactly inside the command window, and exactly
then it is carried out. -/
theorem writeHoldingRange_ready (ready : Ready client) (start : UInt16)
    (values : List UInt16) :
    (client.writeHoldingRange nodeNetwork start values).1 =
        decide (EthernetControlServer.InWindow start values) ∧
      Linked (client.writeHoldingRange nodeNetwork start values).2 ∧
      (client.writeHoldingRange nodeNetwork start values).2.world.node =
        (EthernetControlServer.writeOutcome client.world.node start values).2 := by
  unfold writeHoldingRange
  split
  · next refused =>
      have outside : ¬EthernetControlServer.InWindow start values := by
        rintro ⟨low, nonempty, high⟩
        rcases refused with empty | long
        · exact nonempty empty
        · omega
      rw [EthernetControlServer.writeOutcome, if_neg outside, decide_eq_false outside]
      exact ⟨rfl, ready.toLinked, rfl⟩
  · next sized =>
      simp only [not_or, not_lt] at sized
      have answered : Answered 0x10
          (EthernetControlServer.writeOutcome client.world.node start values).1
          (EthernetControlServer.writeOutcome client.world.node start values).2
          (client.transactLocked nodeNetwork 0x10
            ([highByte start, lowByte start, highByte (UInt16.ofNat values.length),
              lowByte (UInt16.ofNat values.length), UInt8.ofNat (values.length * 2)] ++
                wordsBytes values)) :=
        transactLocked_answered ready.toLinked
          (by
            simp only [List.length_append, length_wordsBytes, List.length_cons, List.length_nil]
            omega)
          (fun transaction => EthernetControlServer.handle_writeRequest client.unitId
            ready.unicast ready.keyless transaction sized.1 sized.2)
          (by unfold EthernetControlServer.writeOutcome; split <;> simp [MbusNode.writeReply])
          (by unfold EthernetControlServer.writeOutcome; split <;> simp [MbusNode.writeReply])
      refine ⟨?_, answered.linked, answered.node⟩
      dsimp only
      rw [answered.result]
      by_cases inside : EthernetControlServer.InWindow start values
      · rw [EthernetControlServer.writeOutcome, if_pos inside, decide_eq_true inside]
        simp +decide [MbusNode.writeReply, echoesRange]
      · rw [EthernetControlServer.writeOutcome, if_neg inside, decide_eq_false inside]
        simp

theorem Linked.ready_of_same {later : PosixModbusTcpClient NodeLink} (linked : Linked later)
    (ready : Ready client) (same : later.world.node = client.world.node) : Ready later where
  toLinked := linked
  unicast := by rw [same]; exact ready.unicast
  keyless := by rw [same]; exact ready.keyless

/-- The command window ends before the apply register begins. -/
theorem Linked.ready_of_delivered {later : PosixModbusTcpClient NodeLink} (linked : Linked later)
    (ready : Ready client) {start : UInt16} {values : List UInt16} (low : 0x14 ≤ start.toNat)
    (delivered : Delivered client.world.node start values later.world.node) : Ready later where
  toLinked := linked
  unicast := by
    rw [delivered.config]
    exact ready.unicast
  keyless := by
    have key : Reg.applyConfiguration.toNat = 0x13 := rfl
    rw [delivered.others Reg.applyConfiguration (.inl (by omega))]
    exact ready.keyless

theorem writeHoldingRange_delivers (ready : Ready client) {start : UInt16}
    {values : List UInt16} (inside : EthernetControlServer.InWindow start values) :
    (client.writeHoldingRange nodeNetwork start values).1 = true ∧
      Delivered client.world.node start values
        (client.writeHoldingRange nodeNetwork start values).2.world.node ∧
      Ready (client.writeHoldingRange nodeNetwork start values).2 := by
  obtain ⟨result, linked, stored⟩ := writeHoldingRange_ready ready start values
  have positive := List.length_pos_iff.mpr inside.2.1
  have delivered : Delivered client.world.node start values
      (client.writeHoldingRange nodeNetwork start values).2.world.node := by
    rw [stored, EthernetControlServer.writeOutcome, if_pos inside]
    have high := inside.2.2
    exact delivered_storeRange _ (by omega)
  exact ⟨result.trans (decide_eq_true inside), delivered,
    linked.ready_of_delivered ready inside.1 delivered⟩

theorem writeHoldingRange_refused (ready : Ready client) {start : UInt16}
    {values : List UInt16} (outside : ¬EthernetControlServer.InWindow start values) :
    (client.writeHoldingRange nodeNetwork start values).1 = false ∧
      (client.writeHoldingRange nodeNetwork start values).2.world.node = client.world.node ∧
      Ready (client.writeHoldingRange nodeNetwork start values).2 := by
  obtain ⟨result, linked, stored⟩ := writeHoldingRange_ready ready start values
  rw [EthernetControlServer.writeOutcome, if_neg outside] at stored
  exact ⟨result.trans (decide_eq_false outside), stored, linked.ready_of_same ready stored⟩

/-- Client, endpoint and node agree on every range read, every range write and
every power command, and are in step again after each. -/
theorem client_endpoint_node_agree (ready : Ready client) :
    (∀ start count : UInt16,
      let read := client.readHoldingRange nodeNetwork start count
      read.1 =
          (if 1 ≤ count.toNat ∧ count.toNat ≤ 64 ∧ start.toNat + count.toNat ≤ 128 then
            some (Foundation.readRange client.world.node.registers start.toNat count.toNat)
          else none) ∧
        read.2.world.node = client.world.node ∧ Ready read.2) ∧
    (∀ (start : UInt16) (values : List UInt16),
      let write := client.writeHoldingRange nodeNetwork start values
      (write.1 = true ↔
          0x14 ≤ start.toNat ∧ values ≠ [] ∧ start.toNat + values.length - 1 ≤ 0x17) ∧
        (write.1 = true → Delivered client.world.node start values write.2.world.node) ∧
        (write.1 = false → write.2.world.node = client.world.node) ∧ Ready write.2) ∧
    (∀ (service : NodeTcpPollingService NodeLink) (slot : Nat) (powerKwX10 : Int16)
        (enabled : Bool) (sequence ttlSeconds : UInt16),
      service.clients[slot]? = some client → 1 ≤ ttlSeconds ∧ ttlSeconds ≤ 30 →
      let sent := service.applyPowerCommand nodeNetwork slot (powerKwX10.toInt / 10) enabled
        sequence ttlSeconds
      sent.1 = true ∧ ∃ later : PosixModbusTcpClient NodeLink,
        sent.2.clients = service.clients.set slot later ∧ Ready later ∧
        Delivered client.world.node 0x14
          [sequence, powerKwX10.toUInt16, if enabled then 1 else 0, ttlSeconds]
          later.world.node) := by
  refine ⟨fun start count => ?_, fun start values => ?_, ?_⟩
  · obtain ⟨result, linked, same⟩ := readHoldingRange_ready ready start count
    exact ⟨result, same, linked.ready_of_same ready same⟩
  · by_cases inside : EthernetControlServer.InWindow start values
    · obtain ⟨result, delivered, later⟩ := writeHoldingRange_delivers ready inside
      exact ⟨iff_of_true result inside, fun _ => delivered,
        fun refused => absurd (result.symm.trans refused) (by decide), later⟩
    · obtain ⟨result, same, later⟩ := writeHoldingRange_refused ready inside
      refine ⟨iff_of_false (fun accepted => ?_) inside, fun accepted => ?_, fun _ => same, later⟩
      · exact absurd (result.symm.trans accepted) (by decide)
      · exact absurd (result.symm.trans accepted) (by decide)
  · intro service slot powerKwX10 enabled sequence ttlSeconds configured ttlValid
    obtain ⟨result, delivered, later⟩ := writeHoldingRange_delivers ready
      (show EthernetControlServer.InWindow NodeTcpPollingService.commandStart
        [sequence, powerKwX10.toUInt16, if enabled then 1 else 0, ttlSeconds] from
        ⟨by decide, by simp, Nat.le_refl 0x17⟩)
    rw [NodeTcpPollingService.applyPowerCommand_of_grid configured powerKwX10 enabled sequence
      ttlValid]
    exact ⟨result, _, rfl, later, delivered⟩

/-- A client not yet connected to a booted node, over a connection that cuts
everything into pieces of one to five bytes. -/
def freshClient : PosixModbusTcpClient NodeLink where
  world :=
    { node := MbusNode.ofConfig { address := 5 }
      server := { rockPiAddress := 7 }
      gateway := 7
      fragment := fun call => call % 6 }

theorem client_endpoint_node_agree_fresh :
    (freshClient.writeHoldingRange nodeNetwork 0x14 [1, 100, 1, 30]).1 = true :=
  ((client_endpoint_node_agree
    ⟨⟨rfl, by decide, fun open_ => absurd open_ (by decide)⟩, by decide +kernel,
      by decide +kernel⟩).2.1 0x14 [1, 100, 1, 30]).1.mpr
    ⟨by decide, by decide, by decide⟩

end PosixModbusTcpClient

end GridexEdge.RockPi
