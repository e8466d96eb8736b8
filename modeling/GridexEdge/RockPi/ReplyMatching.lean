import GridexEdge.RockPi.PosixModbusTcpClient
import GridexEdge.Foundation.Runs

/-!
No stale reply is taken for an answer.

Between calls an open connection is either fresh or at the end of a complete
frame, and the transactions sent on it are consecutive. A call that succeeds has
read one frame, and that frame answers the call's own request.
-/

namespace GridexEdge.RockPi

open Foundation

inductive ClientCall where
  | readInput (address : UInt16)
  | readInputRange (start count : UInt16)
  | readHolding (address : UInt16)
  | readHoldingRange (start count : UInt16)
  | readCoil (address : UInt16)
  | writeHolding (address value : UInt16)
  | writeHoldingRange (start : UInt16) (values : List UInt16)
  | disconnect

inductive CallResult where
  | word (value : UInt16)
  | words (values : List UInt16)
  | coil (value : Bool)
  | acknowledged

namespace ClientCall

def function : ClientCall → UInt8
  | .readInput _ | .readInputRange _ _ => 0x04
  | .readHolding _ | .readHoldingRange _ _ => 0x03
  | .readCoil _ => 0x01
  | .writeHolding _ _ => 0x06
  | .writeHoldingRange _ _ => 0x10
  | .disconnect => 0

/-- The body of a reply fits the request and gives the result: its byte count
for reads, the echoed address and value or quantity for writes. -/
def BodyMatches (call : ClientCall) (result : CallResult) (pdu : List UInt8) : Prop :=
  match call, result with
  | .readInput _, .word value | .readHolding _, .word value =>
      pdu.length = 4 ∧ pdu.getD 1 0 = 2 ∧ value = readU16 pdu 2
  | .readInputRange _ count, .words values | .readHoldingRange _ count, .words values =>
      pdu.length = 2 + 2 * count.toNat ∧ (pdu.getD 1 0).toNat = 2 * count.toNat ∧
        values = readWords pdu 2 count.toNat
  | .readCoil _, .coil value =>
      pdu.length = 3 ∧ pdu.getD 1 0 = 1 ∧ value = (pdu.getD 2 0 &&& 0x01 != 0)
  | .writeHolding address value, .acknowledged =>
      pdu.length = 5 ∧ readU16 pdu 1 = address ∧ readU16 pdu 3 = value
  | .writeHoldingRange start values, .acknowledged =>
      pdu.length = 5 ∧ readU16 pdu 1 = start ∧ (readU16 pdu 3).toNat = values.length
  | _, _ => False

end ClientCall

/-- One complete frame under a given transaction, unit and function. -/
structure Reply (unitId : UInt8) (transaction : UInt16) (function : UInt8)
    (adu pdu : List UInt8) : Prop where
  complete : Mbap.Complete adu
  transaction : readU16 adu 0 = transaction
  protocol : readU16 adu 2 = 0
  unit : adu.getD 6 0 = unitId
  function : pdu.getD 0 0 = function
  body : adu.drop 7 = pdu

theorem Reply.of_parts {unitId function : UInt8} {transaction : UInt16}
    {header pdu : List UInt8} (sized : header.length = 7)
    (announced : pdu.length + 1 = (readU16 header 4).toNat)
    (sameTransaction : readU16 header 0 = transaction) (protocol : readU16 header 2 = 0)
    (unit : header.getD 6 0 = unitId) (sameFunction : pdu.getD 0 0 = function) :
    Reply unitId transaction function (header ++ pdu) pdu where
  complete := Mbap.complete_of_header sized announced
  transaction := by rw [readU16_append_left _ _ _ (by omega), sameTransaction]
  protocol := by rw [readU16_append_left _ _ _ (by omega), protocol]
  unit := by rw [List.getD_append _ _ _ _ (by omega), unit]
  function := sameFunction
  body := by rw [← sized, List.drop_left]

/-- The transactions of a connection count up to the last one. -/
def Consecutive (requests : List UInt16) (last : UInt16) : Prop :=
  ∀ (index : Nat) (inside : index < requests.length),
    requests[index] + UInt16.ofNat (requests.length - 1 - index) = last

theorem consecutive_nil (last : UInt16) : Consecutive [] last := by
  intro index inside
  exact absurd inside (by simp)

theorem Consecutive.next {requests : List UInt16} {last : UInt16}
    (consecutive : Consecutive requests last) :
    Consecutive (requests ++ [last + 1]) (last + 1) := by
  intro index inside
  rw [List.length_append, List.length_singleton] at inside ⊢
  rcases Nat.lt_or_ge index requests.length with earlier | newest
  · have distance : requests.length + 1 - 1 - index = (requests.length - 1 - index) + 1 := by omega
    rw [List.getElem_append_left earlier, distance, ← consecutive index earlier,
      UInt16.ofNat_add, ← UInt16.add_assoc]
    rfl
  · obtain rfl : index = requests.length := by omega
    simp

/-- Within one turn of the counter a transaction belongs to one request. -/
theorem Consecutive.newest {requests : List UInt16} {last : UInt16}
    (consecutive : Consecutive requests last) {index : Nat}
    (same : requests[index]? = some last) (recent : requests.length ≤ index + 65536) :
    index + 1 = requests.length := by
  obtain ⟨inside, value⟩ := List.getElem?_eq_some_iff.mp same
  have shifted := consecutive index inside
  rw [value] at shifted
  have zero : UInt16.ofNat (requests.length - 1 - index) = 0 := by
    simpa using shifted
  have distance := congrArg UInt16.toNat zero
  rw [UInt16.toNat_ofNat', UInt16.toNat_zero] at distance
  omega

def acknowledgement (done : Bool) : Option CallResult := if done then some .acknowledged else none

/-- A boolean check seen as a decoder. -/
theorem acknowledgement_any (response : Option (List UInt8)) (check : List UInt8 → Bool) :
    acknowledgement (response.any check) =
      response.bind fun pdu => acknowledgement (check pdu) := by
  cases response <;> rfl

theorem acknowledgement_eq_some {done : Bool} {result : CallResult}
    (some_ : acknowledgement done = some result) : done = true ∧ result = .acknowledged := by
  cases done
  · exact absurd some_ (by simp [acknowledgement])
  · exact ⟨rfl, (Option.some.inj some_).symm⟩

namespace PosixModbusTcpClient

variable {World : Type} (network : Network World) (client : PosixModbusTcpClient World)

/-- What the current connection had delivered before a call; a closed one
delivers nothing to the next. -/
def receivedBefore : List UInt8 := if client.connected then client.received else []

/-- An open connection stops at the end of a frame, and its transactions count
up to the client's. -/
structure Synchronised : Prop where
  aligned : client.connected = true → Mbap.Aligned client.received
  consecutive : Consecutive client.requests client.transactionId

def perform : ClientCall → Option CallResult × PosixModbusTcpClient World
  | .readInput address =>
      let result := client.readInput network address
      (result.1.map .word, result.2)
  | .readInputRange start count =>
      let result := client.readInputRange network start count
      (result.1.map .words, result.2)
  | .readHolding address =>
      let result := client.readHolding network address
      (result.1.map .word, result.2)
  | .readHoldingRange start count =>
      let result := client.readHoldingRange network start count
      (result.1.map .words, result.2)
  | .readCoil address =>
      let result := client.readCoil network address
      (result.1.map .coil, result.2)
  | .writeHolding address value =>
      let result := client.writeHolding network address value
      (acknowledgement result.1, result.2)
  | .writeHoldingRange start values =>
      let result := client.writeHoldingRange network start values
      (acknowledgement result.1, result.2)
  | .disconnect => (none, client.disconnect network)

/-- What is owed after a transaction. -/
structure Transacted (function : UInt8)
    (outcome : Option (List UInt8) × PosixModbusTcpClient World) : Prop where
  synchronised : outcome.2.Synchronised
  reply : ∀ pdu, outcome.1 = some pdu → ∃ adu,
    outcome.2.received = client.receivedBefore ++ adu ∧
      Reply client.unitId (client.transactionId + 1) function adu pdu ∧
      outcome.2.transactionId = client.transactionId + 1

section Transactions

variable {client}

theorem Synchronised.disconnectLocked (consecutive :
    Consecutive client.requests client.transactionId) :
    (client.disconnectLocked network).Synchronised := by
  unfold PosixModbusTcpClient.disconnectLocked
  split
  · exact ⟨fun open_ => absurd open_ (by simp), consecutive⟩
  · next closed => exact ⟨fun open_ => absurd open_ closed, consecutive⟩

/-- Reading one reply from an aligned connection. -/
theorem receiveReply_transacted {before : PosixModbusTcpClient World} {function : UInt8}
    (sameUnit : client.unitId = before.unitId)
    (transaction : client.transactionId = before.transactionId + 1)
    (aligned : Mbap.Aligned client.received)
    (sameReceived : client.received = before.receivedBefore)
    (consecutive : Consecutive client.requests client.transactionId) :
    before.Transacted function (client.receiveReply network client.transactionId function) := by
  unfold receiveReply receive
  dsimp only
  have headerSized := receiveAll_length network 7 client.world
  generalize receiveAll network 7 client.world = header at headerSized
  obtain ⟨headerOk, header, world⟩ := header
  cases headerOk with
  | false => exact ⟨.disconnectLocked network consecutive, by simp⟩
  | true =>
      have sized : header.length = 7 := headerSized rfl
      simp only [Bool.not_true, Bool.false_eq_true, if_false]
      split
      · exact ⟨.disconnectLocked network consecutive, by simp⟩
      · next accepted =>
          simp only [not_or, not_not] at accepted
          obtain ⟨sameTransaction, protocol, long, unit, -⟩ := accepted
          have bodySized := receiveAll_length network ((readU16 header 4).toNat - 1) world
          generalize receiveAll network ((readU16 header 4).toNat - 1) world = body at bodySized
          obtain ⟨bodyOk, pdu, world⟩ := body
          cases bodyOk with
          | false => exact ⟨.disconnectLocked network consecutive, by simp⟩
          | true =>
              have announced : pdu.length + 1 = (readU16 header 4).toNat := by
                have bodyLength : pdu.length = (readU16 header 4).toNat - 1 := bodySized rfl
                rw [UInt16.lt_iff_toNat_lt] at long
                simp only [UInt16.reduceToNat] at long
                omega
              have complete := Mbap.complete_of_header sized announced
              have read : Mbap.Aligned (client.received ++ header ++ pdu) := by
                rw [List.append_assoc]
                exact aligned.append complete
              simp only [Bool.not_true, Bool.false_eq_true, if_false]
              split
              · exact ⟨⟨fun _ => read, consecutive⟩, by simp⟩
              · next answer =>
                  simp only [not_or, not_not] at answer
                  refine ⟨⟨fun _ => read, consecutive⟩, fun result same => ?_⟩
                  cases same
                  refine ⟨header ++ pdu, ?_, ?_, transaction⟩
                  · rw [← sameReceived, List.append_assoc]
                  · exact Reply.of_parts sized announced (sameTransaction.trans transaction)
                      protocol (unit.trans sameUnit) answer.2.1

theorem connectLocked_cases :
    ((client.connectLocked network).1 = false ∧
        (client.connectLocked network).2.connected = false ∧
        (client.connectLocked network).2.requests = client.requests ∧
        (client.connectLocked network).2.transactionId = client.transactionId) ∨
      ((client.connectLocked network).1 = true ∧
        (client.connectLocked network).2.unitId = client.unitId ∧
        (client.connectLocked network).2.received = client.receivedBefore ∧
        (client.connectLocked network).2.transactionId = client.transactionId ∧
        ((client.connectLocked network).2.requests = client.requests ∨
          (client.connectLocked network).2.requests = [])) := by
  unfold connectLocked receivedBefore
  cases open_ : client.connected with
  | true => simp [open_]
  | false =>
      cases connecting : (network.connect client.world).1 with
      | true => simp [connecting]
      | false => simp [connecting]

theorem Synchronised.receivedBefore_aligned (synchronised : client.Synchronised) :
    Mbap.Aligned client.receivedBefore := by
  unfold receivedBefore
  split
  · next open_ => exact synchronised.aligned open_
  · exact Mbap.aligned_nil

theorem transactLocked_transacted (synchronised : client.Synchronised) (function : UInt8)
    (payload : List UInt8) :
    client.Transacted function (client.transactLocked network function payload) := by
  unfold transactLocked
  dsimp only
  rcases client.connectLocked_cases network with
    ⟨refused, closed, requests, transaction⟩ |
      ⟨connected, sameUnit, received, transaction, requests⟩
  · rw [refused]
    refine ⟨⟨fun open_ => ?_, ?_⟩, by simp⟩
    · exact absurd (closed.symm.trans open_) (by decide)
    · simpa [requests, transaction] using synchronised.consecutive
  · generalize client.connectLocked network = connection at *
    have consecutive : Consecutive (connection.2.requests ++ [connection.2.transactionId + 1])
        (connection.2.transactionId + 1) := by
      apply Consecutive.next
      rcases requests with same | fresh
      · rw [same, transaction]
        exact synchronised.consecutive
      · rw [fresh]
        exact consecutive_nil _
    rw [connected]
    simp only [Bool.not_true, Bool.false_eq_true, if_false]
    split
    · exact ⟨.disconnectLocked network consecutive, by simp⟩
    · refine receiveReply_transacted network sameUnit ?_ ?_ received consecutive
      · rw [transaction]
      · rw [received]
        exact synchronised.receivedBefore_aligned

end Transactions

/-- What is owed after a call. -/
structure Sound (call : ClientCall)
    (outcome : Option CallResult × PosixModbusTcpClient World) : Prop where
  synchronised : outcome.2.Synchronised
  answer : ∀ result, outcome.1 = some result → ∃ adu pdu,
    outcome.2.received = client.receivedBefore ++ adu ∧
      Reply client.unitId (client.transactionId + 1) call.function adu pdu ∧
      call.BodyMatches result pdu ∧ outcome.2.transactionId = client.transactionId + 1

section Calls

variable {client}

/-- A call that decodes the reply of one transaction. -/
theorem Synchronised.transact_sound (synchronised : client.Synchronised) (call : ClientCall)
    (payload : List UInt8) (decode : List UInt8 → Option CallResult)
    (matching : ∀ result pdu, decode pdu = some result → call.BodyMatches result pdu) :
    client.Sound call
      ((client.transactLocked network call.function payload).1.bind decode,
        (client.transactLocked network call.function payload).2) where
  synchronised := (transactLocked_transacted network synchronised _ _).synchronised
  answer result returned := by
    obtain ⟨pdu, replied, decoded⟩ := Option.bind_eq_some_iff.mp returned
    obtain ⟨adu, received, reply, transaction⟩ :=
      (transactLocked_transacted network synchronised _ _).reply pdu replied
    exact ⟨adu, pdu, received, reply, matching result pdu decoded, transaction⟩

theorem Synchronised.sound_none (synchronised : client.Synchronised) (call : ClientCall) :
    client.Sound call (none, client) :=
  ⟨synchronised, by simp⟩

theorem decodeRegister_eq_some {pdu : List UInt8} {value : UInt16}
    (decoded : decodeRegister pdu = some value) :
    pdu.length = 4 ∧ pdu.getD 1 0 = 2 ∧ value = readU16 pdu 2 := by
  unfold decodeRegister at decoded
  split at decoded
  · exact absurd decoded (by simp)
  · next accepted =>
      simp only [not_or, not_not] at accepted
      exact ⟨accepted.1, accepted.2, (Option.some.inj decoded).symm⟩

theorem decodeRange_eq_some {function : UInt8} {count : UInt16} {pdu : List UInt8}
    {values : List UInt16} (decoded : decodeRange function count pdu = some values) :
    pdu.length = 2 + 2 * count.toNat ∧ (pdu.getD 1 0).toNat = 2 * count.toNat ∧
      values = readWords pdu 2 count.toNat := by
  unfold decodeRange at decoded
  split at decoded
  · exact absurd decoded (by simp)
  · next accepted =>
      simp only [not_or, not_not] at accepted
      exact ⟨by omega, by omega, (Option.some.inj decoded).symm⟩

theorem decodeCoil_eq_some {pdu : List UInt8} {value : Bool}
    (decoded : decodeCoil pdu = some value) :
    pdu.length = 3 ∧ pdu.getD 1 0 = 1 ∧ value = (pdu.getD 2 0 &&& 0x01 != 0) := by
  unfold decodeCoil at decoded
  split at decoded
  · exact absurd decoded (by simp)
  · next accepted =>
      simp only [not_or, not_not] at accepted
      exact ⟨accepted.1, accepted.2, (Option.some.inj decoded).symm⟩

theorem echoesWrite_eq_true {address value : UInt16} {pdu : List UInt8}
    (echoes : echoesWrite address value pdu = true) :
    pdu.length = 5 ∧ readU16 pdu 1 = address ∧ readU16 pdu 3 = value := by
  simpa [echoesWrite, and_assoc] using echoes

theorem echoesRange_eq_true {start size : UInt16} {pdu : List UInt8}
    (echoes : echoesRange start size pdu = true) :
    pdu.length = 5 ∧ readU16 pdu 1 = start ∧ readU16 pdu 3 = size := by
  simp only [echoesRange, Bool.and_eq_true, beq_iff_eq] at echoes
  obtain ⟨⟨⟨⟨⟨sized, -⟩, startHigh⟩, startLow⟩, sizeHigh⟩, sizeLow⟩ := echoes
  refine ⟨sized, ?_, ?_⟩
  · rw [readU16, startHigh, startLow, word_highByte_lowByte]
  · rw [readU16, sizeHigh, sizeLow, word_highByte_lowByte]

theorem perform_sound (synchronised : client.Synchronised) (call : ClientCall) :
    client.Sound call (client.perform network call) := by
  cases call with
  | readInput address | readHolding address =>
      simp only [perform, readInput, readHolding, readRegister, Option.map_bind]
      apply synchronised.transact_sound network
      intro result pdu decoded
      obtain ⟨value, accepted, rfl⟩ := Option.map_eq_some_iff.mp decoded
      exact decodeRegister_eq_some accepted
  | readInputRange start count | readHoldingRange start count =>
      simp only [perform, readInputRange, readHoldingRange]
      split
      · exact synchronised.sound_none _
      · simp only [PosixModbusTcpClient.readRange, Option.map_bind]
        apply synchronised.transact_sound network
        intro result pdu decoded
        obtain ⟨values, accepted, rfl⟩ := Option.map_eq_some_iff.mp decoded
        exact decodeRange_eq_some accepted
  | readCoil address =>
      simp only [perform, readCoil, Option.map_bind]
      apply synchronised.transact_sound network
      intro result pdu decoded
      obtain ⟨value, accepted, rfl⟩ := Option.map_eq_some_iff.mp decoded
      exact decodeCoil_eq_some accepted
  | writeHolding address value =>
      simp only [perform, writeHolding, acknowledgement_any]
      apply synchronised.transact_sound network
      intro result pdu decoded
      obtain ⟨accepted, rfl⟩ := acknowledgement_eq_some decoded
      exact echoesWrite_eq_true accepted
  | writeHoldingRange start values =>
      simp only [perform, writeHoldingRange]
      split
      · exact synchronised.sound_none _
      · next sized =>
          simp only [not_or, not_lt] at sized
          simp only [acknowledgement_any]
          apply synchronised.transact_sound network
          intro result pdu decoded
          obtain ⟨accepted, rfl⟩ := acknowledgement_eq_some decoded
          obtain ⟨length, first, size⟩ := echoesRange_eq_true accepted
          refine ⟨length, first, ?_⟩
          rw [size, UInt16.toNat_ofNat']
          omega
  | disconnect =>
      exact ⟨.disconnectLocked network synchronised.consecutive, by simp [perform]⟩

end Calls

/-- A peer that echoes transaction ids: a frame answers only requests of the
connection that carry its id. -/
def Echoes (requests : List UInt16) (answers : List UInt8 → Nat → Prop) : Prop :=
  ∀ adu request, answers adu request → requests[request]? = some (readU16 adu 0)

/-- A call leaves the connection closed or at the end of a frame; if it returns
a result, it has read one frame, which answers its own request, and an echoing
peer cannot have meant any of the 65535 requests before it. -/
structure ReadsOwnReply (call : ClientCall) : Prop where
  position : (client.perform network call).2.connected = true →
    Mbap.Aligned (client.perform network call).2.received
  answer : ∀ result, (client.perform network call).1 = some result → ∃ adu pdu,
    (client.perform network call).2.received = client.receivedBefore ++ adu ∧
      Reply client.unitId (client.transactionId + 1) call.function adu pdu ∧
      call.BodyMatches result pdu ∧
      ∀ answers, Echoes (client.perform network call).2.requests answers →
        ∀ earlier, answers adu earlier →
          (client.perform network call).2.requests.length ≤ earlier + 65536 →
            earlier + 1 = (client.perform network call).2.requests.length

theorem Sound.readsOwnReply {client : PosixModbusTcpClient World} {call : ClientCall}
    (sound : client.Sound call (client.perform network call)) :
    client.ReadsOwnReply network call where
  position := sound.synchronised.aligned
  answer result returned := by
    obtain ⟨adu, pdu, received, reply, matching, transaction⟩ := sound.answer result returned
    refine ⟨adu, pdu, received, reply, matching, fun answers echoes earlier meant recent => ?_⟩
    have same := echoes adu earlier meant
    rw [reply.transaction, ← transaction] at same
    exact sound.synchronised.consecutive.newest same recent

/-- Over any sequence of calls and any behaviour of the peer, every call reads
its own reply. -/
theorem every_call_readsOwnReply (unitId : UInt8) (world : World) (calls : List ClientCall) :
    Along (fun client call => (client.perform network call).2) (ReadsOwnReply network)
      { unitId := unitId, world := world } calls := by
  apply along_of_invariant _ Synchronised
  · exact fun _ call synchronised => (perform_sound network synchronised call).synchronised
  · exact fun _ call synchronised => (perform_sound network synchronised call).readsOwnReply
  · exact ⟨fun open_ => absurd open_ (by simp), consecutive_nil _⟩

end PosixModbusTcpClient

end GridexEdge.RockPi
