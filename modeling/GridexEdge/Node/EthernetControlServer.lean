import GridexEdge.Node.MbusNode

/-!
The node's Modbus TCP endpoint: one client from the configured gateway address,
writes only to the command window, and every request handed to the register node
as an RTU frame.

`handle_cases` joins the window check with the node's own parse of the frame.
-/

namespace GridexEdge.Node

open Foundation

/-- The configured source and the one client with its unread bytes. Address zero
is no address. -/
structure EthernetControlServer where
  unitId : UInt8 := 1
  rockPiAddress : UInt32 := 0
  client : Option UInt32 := none
  rx : List UInt8 := []
  rejectedClients : UInt32 := 0
  lastByteMs : UInt32 := 0

/-- What the network and the clock offer one pass: whether the client is still
connected, who is waiting to connect, the bytes that can be read, and the time. -/
structure ControlInput where
  connected : Bool
  candidate : Option UInt32
  available : List UInt8
  nowMs : UInt32

namespace EthernetControlServer

def appendCrc (frame : List UInt8) : List UInt8 :=
  frame ++ [lowByte (MbusNode.crc16 frame), highByte (MbusNode.crc16 frame)]

def exception (adu : List UInt8) (function code : UInt8) : List UInt8 :=
  [adu.getD 0 0, adu.getD 1 0, 0, 0, 0, 3, adu.getD 6 0, function ||| 0x80, code]

def restart (server : EthernetControlServer) : EthernetControlServer :=
  { server with client := none, rx := [] }

/-- A changed source invalidates any existing client connection. -/
def setRockPiAddress (server : EthernetControlServer) (address : UInt32) :
    EthernetControlServer :=
  { server with client := none, rockPiAddress := address }

def sourceAllowed (server : EthernetControlServer) (remoteIP : UInt32) : Bool :=
  server.rockPiAddress != 0 && remoteIP == server.rockPiAddress

def acceptClient (server : EthernetControlServer) (input : ControlInput) :
    EthernetControlServer :=
  if server.client.isSome && input.connected then server
  else
    match input.candidate with
    | none => { server with client := none }
    | some remoteIP =>
        if !server.sourceAllowed remoteIP then
          { server with client := none, rejectedClients := server.rejectedClients + 1 }
        else { server with client := some remoteIP, rx := [] }

def writeAllowed (function : UInt8) (start count : UInt16) : Bool :=
  if function ≠ 0x06 ∧ function ≠ 0x10 then true
  else if count = 0 then false
  else
    decide (Reg.commandSequence ≤ start) &&
      decide (start.toNat + count.toNat - 1 ≤ Reg.commandTtlSeconds.toNat)

/-- The quantity the window check goes by. -/
def checkedCount (function : UInt8) (adu : List UInt8) : UInt16 :=
  if function = 0x03 ∨ function = 0x04 ∨ function = 0x10 then readU16 adu 10 else 1

/-- The RTU frame of a request: the node's address, the data unit, the CRC. -/
def rtuFrame (node : MbusNode) (adu : List UInt8) : List UInt8 :=
  appendCrc (node.config.address :: adu.drop 7)

/-- The response frame around an RTU response without its address and CRC. -/
def wrapResponse (unitId : UInt8) (adu rtuResponse : List UInt8) : List UInt8 :=
  let pduSize := rtuResponse.length - 3
  [adu.getD 0 0, adu.getD 1 0, 0, 0, highByte (UInt16.ofNat (pduSize + 1)),
    lowByte (UInt16.ofNat (pduSize + 1)), unitId] ++ (rtuResponse.drop 1).take pduSize

def handle (unitId : UInt8) (node : MbusNode) (adu : List UInt8) : List UInt8 × MbusNode :=
  if adu.length < 12 ∨ readU16 adu 2 ≠ 0 ∨ adu.getD 6 0 ≠ unitId then ([], node)
  else
    let function := adu.getD 7 0
    let start := readU16 adu 8
    let count := checkedCount function adu
    if !writeAllowed function start count then (exception adu function 0x02, node)
    else
      let rtuResponse := node.processFrame (rtuFrame node adu)
      if rtuResponse.1.length < 4 then ([], rtuResponse.2)
      else (wrapResponse unitId adu rtuResponse.1, rtuResponse.2)

/-- Answer every complete frame in the buffer. A length out of bounds drops the
client and the buffer. -/
def processFrames (server : EthernetControlServer) (node : MbusNode) :
    List (List UInt8) × EthernetControlServer × MbusNode :=
  if server.rx.length < 7 then ([], server, node)
  else
    let protocolLength := readU16 server.rx 4
    let total := 6 + protocolLength.toNat
    if protocolLength < 2 ∨ 260 < total then ([], { server with client := none, rx := [] }, node)
    else if server.rx.length < total then ([], server, node)
    else
      let handled := handle server.unitId node (server.rx.take total)
      let later := processFrames { server with rx := server.rx.drop total } handled.2
      (if handled.1 = [] then later.1 else handled.1 :: later.1, later.2)
termination_by server.rx.length
decreasing_by
  simp only [List.length_drop]
  omega

/-- Read while the buffer is short of three hundred bytes. -/
def readAvailable (server : EthernetControlServer) (input : ControlInput) :
    EthernetControlServer :=
  let taken := input.available.take (300 - server.rx.length)
  { server with
    rx := server.rx ++ taken
    lastByteMs := if taken = [] then server.lastByteMs else input.nowMs }

def loop (server : EthernetControlServer) (node : MbusNode) (input : ControlInput) :
    List (List UInt8) × EthernetControlServer × MbusNode :=
  let accepted := server.acceptClient input
  if accepted.client = none then ([], accepted, node)
  else
    let processed := (accepted.readAvailable input).processFrames node
    let server := processed.2.1
    if server.rx ≠ [] ∧ 1000 < input.nowMs - server.lastByteMs then
      (processed.1, { server with client := none, rx := [] }, processed.2.2)
    else processed

/-- Without a client and without anyone who asks, a pass does nothing. -/
theorem loop_of_dropped {server : EthernetControlServer} (node : MbusNode)
    (dropped : server.client = none) {input : ControlInput} (unasked : input.candidate = none) :
    server.loop node input = ([], { server with client := none }, node) := by
  have accepted : server.acceptClient input = { server with client := none } := by
    rw [acceptClient, dropped, unasked]
    rfl
  rw [EthernetControlServer.loop, accepted]
  rfl

/-! ### What a frame can change -/

section Effects

variable (unitId : UInt8) (node : MbusNode)

/-- The window check of a write, as arithmetic. -/
theorem writeAllowed_eq_true {function : UInt8} {start count : UInt16}
    (isWrite : function = 0x06 ∨ function = 0x10)
    (allowed : writeAllowed function start count = true) :
    1 ≤ count.toNat ∧ 0x14 ≤ start.toNat ∧ start.toNat + count.toNat ≤ 0x18 := by
  unfold writeAllowed at allowed
  rw [if_neg (by rcases isWrite with rfl | rfl <;> decide)] at allowed
  split at allowed
  · exact absurd allowed (by simp)
  · next nonzero =>
      have positive : count.toNat ≠ 0 := fun zero => nonzero (UInt16.toNat_inj.mp zero)
      have first : Reg.commandSequence.toNat = 0x14 := rfl
      have last : Reg.commandTtlSeconds.toNat = 0x17 := rfl
      simp only [Bool.and_eq_true, decide_eq_true_eq, UInt16.le_iff_toNat_le] at allowed
      omega

theorem getD_rtuFrame (adu : List UInt8) {index : Nat} (inside : index + 7 < adu.length) :
    (rtuFrame node adu).getD (index + 1) 0 = adu.getD (index + 7) 0 := by
  have bound : index + 1 < (node.config.address :: adu.drop 7).length := by
    rw [List.length_cons, List.length_drop]
    omega
  unfold rtuFrame appendCrc
  rw [List.getD_append _ _ _ _ bound, List.getD_cons_succ]
  simp [List.getD_eq_getElem?_getD, List.getElem?_drop, Nat.add_comm]

/-- The frame the node parses carries the words the check has read. -/
theorem rtuFrame_fields {adu : List UInt8} (sized : 12 ≤ adu.length) :
    (rtuFrame node adu).getD 1 0 = adu.getD 7 0 ∧
      readU16 (rtuFrame node adu) 2 = readU16 adu 8 ∧
      readU16 (rtuFrame node adu) 4 = readU16 adu 10 := by
  have byte : ∀ index, index + 7 < adu.length →
      (rtuFrame node adu).getD (index + 1) 0 = adu.getD (index + 7) 0 :=
    fun index inside => getD_rtuFrame node adu inside
  refine ⟨byte 0 (by omega), ?_, ?_⟩
  · rw [readU16, readU16, byte 1 (by omega), byte 2 (by omega)]
  · rw [readU16, readU16, byte 3 (by omega), byte 4 (by omega)]

/-- What one frame can store: the registers the window check has admitted, and
nothing else before the key is checked. -/
theorem handle_cases (adu : List UInt8) :
    (handle unitId node adu).2 = node ∨
      ∃ values : List UInt16,
        writeAllowed (adu.getD 7 0) (readU16 adu 8) (checkedCount (adu.getD 7 0) adu) = true ∧
        (adu.getD 7 0 = 0x06 ∨ adu.getD 7 0 = 0x10) ∧
        values.length = (checkedCount (adu.getD 7 0) adu).toNat ∧
        (handle unitId node adu).2 =
          (node.storeRange (readU16 adu 8) values).applyPendingConfiguration := by
  unfold handle
  split
  · exact .inl rfl
  · next accepted =>
      simp only [not_or, not_lt] at accepted
      obtain ⟨function, start, count⟩ := rtuFrame_fields node accepted.1
      dsimp only
      split
      · exact .inl rfl
      · next allowed =>
          have stored : (if (node.processFrame (rtuFrame node adu)).1.length < 4 then
              ([], (node.processFrame (rtuFrame node adu)).2)
              else (wrapResponse unitId adu (node.processFrame (rtuFrame node adu)).1,
                (node.processFrame (rtuFrame node adu)).2)).2 =
              (node.processFrame (rtuFrame node adu)).2 := by
            split <;> rfl
          rw [stored]
          rcases node.processFrame_cases (rtuFrame node adu) with
            same | ⟨values, kind, -, written⟩
          · exact .inl same
          · rw [function, count] at kind
            rw [start] at written
            refine .inr ⟨values, by simpa using allowed, ?_, ?_, written⟩
            · rcases kind with ⟨single, -⟩ | ⟨multiple, -⟩
              · exact .inl single
              · exact .inr multiple
            · unfold checkedCount
              rcases kind with ⟨single, length⟩ | ⟨multiple, length⟩
              · rw [single, length, if_neg (by decide)]
                rfl
              · rw [multiple, length, if_pos (by decide)]

end Effects

end EthernetControlServer

end GridexEdge.Node
