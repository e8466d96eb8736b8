import GridexEdge.Foundation.Mbap

/-!
The gateway's Modbus TCP client over an arbitrary network.

The network decides every connect, how many bytes each send takes, and which
chunk each receive returns: fragments, delays past the timeout, closed peers and
wrong bytes are all answers it may give. Two ghost fields record the bytes
received and the transactions sent on the current connection.
-/

namespace GridexEdge.RockPi

open Foundation

/-- The socket calls of the client. A send reports how many bytes were taken and
a receive returns at most as many bytes as asked; none is an error, a timeout or
a closed peer. -/
structure Network (World : Type) where
  connect : World → Bool × World
  send : List UInt8 → World → Nat × World
  recv : (size : Nat) → World → { chunk : List UInt8 // chunk.length ≤ size } × World
  close : World → World

section Streams

variable {World : Type} (network : Network World)

def sendAll (bytes : List UInt8) (world : World) : Bool × World :=
  if bytes = [] then (true, world)
  else
    match network.send bytes world with
    | (sent, world) => if 0 < sent then sendAll (bytes.drop sent) world else (false, world)
termination_by bytes.length
decreasing_by
  have nonempty := List.length_pos_iff.mpr ‹bytes ≠ []›
  rw [List.length_drop]
  omega

@[simp]
theorem sendAll_nil (world : World) : sendAll network [] world = (true, world) := by
  rw [sendAll, if_pos rfl]

theorem sendAll_of_sent {bytes : List UInt8} {sent : Nat} {world after : World}
    (nonempty : bytes ≠ []) (progress : 0 < sent)
    (accepted : network.send bytes world = (sent, after)) :
    sendAll network bytes world = sendAll network (bytes.drop sent) after := by
  rw [sendAll, if_neg nonempty, accepted]
  simp only
  rw [if_pos progress]

/-- The bytes that arrived, even when they are fewer than asked. -/
def receiveAll (size : Nat) (world : World) : Bool × List UInt8 × World :=
  if size = 0 then (true, [], world)
  else
    match network.recv size world with
    | (chunk, world) =>
        if 0 < chunk.val.length then
          let later := receiveAll (size - chunk.val.length) world
          (later.1, chunk.val ++ later.2.1, later.2.2)
        else (false, [], world)
termination_by size
decreasing_by omega

@[simp]
theorem receiveAll_zero (world : World) : receiveAll network 0 world = (true, [], world) := by
  rw [receiveAll, if_pos rfl]

theorem receiveAll_of_received {size : Nat} {chunk : List UInt8} {bound : chunk.length ≤ size}
    {world after : World} (progress : 0 < chunk.length)
    (arrived : network.recv size world = (⟨chunk, bound⟩, after)) :
    receiveAll network size world =
      ((receiveAll network (size - chunk.length) after).1,
        chunk ++ (receiveAll network (size - chunk.length) after).2.1,
        (receiveAll network (size - chunk.length) after).2.2) := by
  rw [receiveAll, if_neg (by omega), arrived]
  simp only
  rw [if_pos progress]

/-- Success means that everything asked for arrived, and nothing more. -/
theorem receiveAll_length (size : Nat) (world : World)
    (received : (receiveAll network size world).1 = true) :
    (receiveAll network size world).2.1.length = size := by
  induction size using Nat.strong_induction_on generalizing world with
  | _ size inductionHypothesis =>
      unfold receiveAll at received ⊢
      split
      · next empty => simp [empty]
      · next nonempty =>
          rw [if_neg nonempty] at received
          revert received
          obtain ⟨⟨chunk, bound⟩, world⟩ := network.recv size world
          dsimp only
          split
          · next arrived =>
              intro received
              have later := inductionHypothesis _ (by omega) _ received
              rw [List.length_append, later]
              omega
          · exact fun silent => absurd silent (by simp)

end Streams

structure PosixModbusTcpClient (World : Type) where
  unitId : UInt8 := 1
  world : World
  connected : Bool := false
  transactionId : UInt16 := 0
  received : List UInt8 := []
  requests : List UInt16 := []

namespace PosixModbusTcpClient

/-! The checks on a reply, one for each kind of call. -/

def decodeRegister (response : List UInt8) : Option UInt16 :=
  if response.length ≠ 4 ∨ response.getD 1 0 ≠ 2 then none else some (readU16 response 2)

def decodeRange (function : UInt8) (count : UInt16) (response : List UInt8) :
    Option (List UInt16) :=
  if response.length ≠ 2 + count.toNat * 2 ∨ response.getD 0 0 ≠ function ∨
      (response.getD 1 0).toNat ≠ count.toNat * 2 then none
  else some (readWords response 2 count.toNat)

def decodeCoil (response : List UInt8) : Option Bool :=
  if response.length ≠ 3 ∨ response.getD 1 0 ≠ 1 then none
  else some (response.getD 2 0 &&& 0x01 != 0)

def echoesWrite (address value : UInt16) (response : List UInt8) : Bool :=
  response.length == 5 && readU16 response 1 == address && readU16 response 3 == value

def echoesRange (start size : UInt16) (response : List UInt8) : Bool :=
  response.length == 5 && response.getD 0 0 == 0x10 &&
    response.getD 1 0 == highByte start && response.getD 2 0 == lowByte start &&
    response.getD 3 0 == highByte size && response.getD 4 0 == lowByte size

/-- The request as the client builds it. -/
theorem request_eq_adu (transaction : UInt16) (unit function : UInt8) (payload : List UInt8) :
    appendU16 (appendU16 (appendU16 [] transaction) 0) (UInt16.ofNat (2 + payload.length)) ++
        [unit, function] ++ payload =
      Mbap.adu transaction unit (function :: payload) := by
  rw [Mbap.adu, List.length_cons, Nat.add_right_comm, Nat.add_comm, List.append_assoc]
  rfl

section Operations

variable {World : Type} (network : Network World) (client : PosixModbusTcpClient World)

def connectLocked : Bool × PosixModbusTcpClient World :=
  if client.connected then (true, client)
  else
    let result := network.connect client.world
    if result.1 then
      (true, { client with
        world := result.2
        connected := true
        received := []
        requests := [] })
    else (false, { client with world := result.2 })

def disconnectLocked : PosixModbusTcpClient World :=
  if client.connected then
    { client with
      world := network.close client.world
      connected := false }
  else client

def receive (size : Nat) : Bool × List UInt8 × PosixModbusTcpClient World :=
  let result := receiveAll network size client.world
  (result.1, result.2.1, { client with
    world := result.2.2
    received := client.received ++ result.2.1 })

/-- The second half of a transaction: one reply, header first. Only a reply read
to its end leaves the connection open. -/
def receiveReply (transaction : UInt16) (function : UInt8) :
    Option (List UInt8) × PosixModbusTcpClient World :=
  let header := client.receive network 7
  if !header.1 then (none, header.2.2.disconnectLocked network)
  else
    let responseTransaction := readU16 header.2.1 0
    let protocol := readU16 header.2.1 2
    let length := readU16 header.2.1 4
    if responseTransaction ≠ transaction ∨ protocol ≠ 0 ∨ length < 2 ∨
        header.2.1.getD 6 0 ≠ client.unitId ∨ 260 < length then
      (none, header.2.2.disconnectLocked network)
    else
      let pdu := header.2.2.receive network (length.toNat - 1)
      if !pdu.1 then (none, pdu.2.2.disconnectLocked network)
      else if pdu.2.1 = [] ∨ pdu.2.1.getD 0 0 ≠ function ∨
          pdu.2.1.getD 0 0 &&& (0x80 : UInt8) ≠ 0 then
        (none, pdu.2.2)
      else (some pdu.2.1, pdu.2.2)

def transactLocked (function : UInt8) (payload : List UInt8) :
    Option (List UInt8) × PosixModbusTcpClient World :=
  let connection := client.connectLocked network
  if !connection.1 then (none, connection.2)
  else
    let transaction := connection.2.transactionId + 1
    let request :=
      appendU16 (appendU16 (appendU16 [] transaction) 0) (UInt16.ofNat (2 + payload.length)) ++
        [connection.2.unitId, function] ++ payload
    let sent := sendAll network request connection.2.world
    let waiting :=
      { connection.2 with
        world := sent.2
        transactionId := transaction
        requests := connection.2.requests ++ [transaction] }
    if !sent.1 then (none, waiting.disconnectLocked network)
    else waiting.receiveReply network transaction function

def readRegister (function : UInt8) (address : UInt16) :
    Option UInt16 × PosixModbusTcpClient World :=
  let payload := appendU16 (appendU16 [] address) 1
  let response := client.transactLocked network function payload
  (response.1.bind decodeRegister, response.2)

def readInput (address : UInt16) : Option UInt16 × PosixModbusTcpClient World :=
  client.readRegister network 0x04 address

def readHolding (address : UInt16) : Option UInt16 × PosixModbusTcpClient World :=
  client.readRegister network 0x03 address

/-- The body the two range reads share: they differ in the function code and in
what they refuse before sending. -/
def readRange (function : UInt8) (start count : UInt16) :
    Option (List UInt16) × PosixModbusTcpClient World :=
  let payload := [highByte start, lowByte start, highByte count, lowByte count]
  let response := client.transactLocked network function payload
  (response.1.bind (decodeRange function count), response.2)

def readInputRange (start count : UInt16) :
    Option (List UInt16) × PosixModbusTcpClient World :=
  if count = 0 ∨ 125 < count ∨ 65536 < start.toNat + count.toNat then (none, client)
  else client.readRange network 0x04 start count

def readHoldingRange (start count : UInt16) :
    Option (List UInt16) × PosixModbusTcpClient World :=
  if count = 0 ∨ 125 < count then (none, client)
  else client.readRange network 0x03 start count

def readCoil (address : UInt16) : Option Bool × PosixModbusTcpClient World :=
  let payload := appendU16 (appendU16 [] address) 1
  let response := client.transactLocked network 0x01 payload
  (response.1.bind decodeCoil, response.2)

def writeHolding (address value : UInt16) : Bool × PosixModbusTcpClient World :=
  let payload := appendU16 (appendU16 [] address) value
  let response := client.transactLocked network 0x06 payload
  (response.1.any (echoesWrite address value), response.2)

def writeHoldingRange (start : UInt16) (values : List UInt16) :
    Bool × PosixModbusTcpClient World :=
  if values = [] ∨ 123 < values.length then (false, client)
  else
    let size := UInt16.ofNat values.length
    let payload :=
      [highByte start, lowByte start, highByte size, lowByte size,
        UInt8.ofNat (values.length * 2)] ++ wordsBytes values
    let response := client.transactLocked network 0x10 payload
    (response.1.any (echoesRange start size), response.2)

def disconnect : PosixModbusTcpClient World := client.disconnectLocked network

end Operations

end PosixModbusTcpClient

end GridexEdge.RockPi
