import GridexEdge.Node.MbusNode

/-!
The node's request handling with every access checked.

The functions are those of the node, loop by loop, but an index outside the frame or the
registers has no value. That every request has a value, and the node's own, is
`Checked.processFrame_eq`.
-/

namespace GridexEdge.Node

open Foundation

universe u

section Loops

variable {Item State : Type u}

/-- Fold over consecutive items, each one fetched by its index. -/
def foldIndexed (fetch : Nat → Option Item) (fold : State → Item → State) (index : Nat)
    (state : State) : Nat → Option State
  | 0 => some state
  | count + 1 => do
      let item ← fetch index
      foldIndexed fetch fold (index + 1) (fold state item) count

theorem some_bind (item : Item) (next : Item → Option State) :
    (some item >>= next) = next item := rfl

theorem foldIndexed_getElem (items : List Item) (fold : State → Item → State) {index count : Nat}
    (inside : index + count ≤ items.length) (state : State) :
    foldIndexed (fun index => items[index]?) fold index state count =
      some (((items.drop index).take count).foldl fold state) := by
  induction count generalizing index state with
  | zero => rfl
  | succ count inductionHypothesis =>
      have present : index < items.length := by omega
      rw [foldIndexed, List.getElem?_eq_getElem present, some_bind,
        inductionHypothesis (by omega), List.drop_eq_getElem_cons present, List.take_succ_cons,
        List.foldl_cons]

end Loops

namespace MbusNode

namespace Checked

def readU16 (frame : List UInt8) (offset : Nat) : Option UInt16 := do
  let high ← frame[offset]?
  let low ← frame[offset + 1]?
  some (word high low)

def load (node : MbusNode) (index : Nat) : Option UInt16 := node.registers[index]?

def store (node : MbusNode) (index : Nat) (value : UInt16) : Option MbusNode :=
  if index < 128 then some { node with registers := node.registers.setIfInBounds index value }
  else none

def storeAll (node : MbusNode) : List (UInt16 × UInt16) → Option MbusNode
  | [] => some node
  | (address, value) :: rest => do
      let stored ← store node address.toNat value
      storeAll stored rest

def crc16 (bytes : List UInt8) (size : Nat) : Option UInt16 :=
  foldIndexed (fun index => bytes[index]?)
    (fun crc byte => Nat.iterate crcBit 8 (crc ^^^ byte.toUInt16)) 0 0xFFFF size

def provision (node : MbusNode) (address : UInt8) (type : NodeType) (driverId : UInt16) :
    Option MbusNode :=
  if address < 1 ∨ 247 < address ∨ validType type = false ∨ driverId = 0 then some node
  else
    storeAll
      { node with
        config := { node.config with address := address, type := type, driverId := driverId }
        configurationChanged := true }
      [ (Reg.requestedAddress, address.toUInt16),
        (Reg.requestedNodeType, type),
        (Reg.requestedDriverId, driverId),
        (Reg.nodeAddress, address.toUInt16),
        (Reg.nodeType, type),
        (Reg.driverId, driverId),
        (Reg.nodeState, NodeState.driverMissing.code) ]

def applyPendingConfiguration (node : MbusNode) : Option MbusNode := do
  let key ← load node Reg.applyConfiguration.toNat
  if key ≠ Reg.applyKey then some node
  else
    let cleared ← store node Reg.applyConfiguration.toNat 0
    let requestedAddress ← load cleared Reg.requestedAddress.toNat
    let requestedType ← load cleared Reg.requestedNodeType.toNat
    let requestedDriverId ← load cleared Reg.requestedDriverId.toNat
    if 247 < requestedAddress then some cleared
    else provision cleared requestedAddress.toUInt8 requestedType requestedDriverId

def readRegisters (node : MbusNode) (requestAddress : UInt8) (frame : List UInt8)
    (function : UInt8) : Option (List UInt8) := do
  let start ← readU16 frame 2
  let count ← readU16 frame 4
  if count = 0 ∨ 64 < count ∨ 128 < start.toNat + count.toNat then
    some (exception requestAddress function 0x02)
  else
    let response ← foldIndexed (load node) appendU16 start.toNat
      [requestAddress, function, UInt8.ofNat (count.toNat * 2)] count.toNat
    some (withCrc response)

def writeSingleRegister (node : MbusNode) (requestAddress : UInt8) (frame : List UInt8) :
    Option (List UInt8 × MbusNode) := do
  let address ← readU16 frame 2
  let value ← readU16 frame 4
  if 128 ≤ address.toNat then
    some (unlessBroadcast requestAddress (exception requestAddress 0x06 0x02), node)
  else
    let stored ← store node address.toNat value
    let applied ← applyPendingConfiguration stored
    some (unlessBroadcast requestAddress frame, applied)

/-- Each register takes the next two bytes of the frame. -/
def storeFrame (frame : List UInt8) (node : MbusNode) (index offset : Nat) :
    Nat → Option MbusNode
  | 0 => some node
  | count + 1 => do
      let value ← readU16 frame offset
      let stored ← store node index value
      storeFrame frame stored (index + 1) (offset + 2) count

def writeMultipleRegisters (node : MbusNode) (requestAddress : UInt8) (frame : List UInt8) :
    Option (List UInt8 × MbusNode) := do
  let start ← readU16 frame 2
  let count ← readU16 frame 4
  let byteCount ← frame[6]?
  if count = 0 ∨ byteCount.toNat ≠ count.toNat * 2 ∨ frame.length ≠ 9 + byteCount.toNat ∨
      128 < start.toNat + count.toNat then
    some (unlessBroadcast requestAddress (exception requestAddress 0x10 0x03), node)
  else
    let stored ← storeFrame frame node start.toNat 7 count.toNat
    let applied ← applyPendingConfiguration stored
    some (unlessBroadcast requestAddress
      (withCrc (appendU16 (appendU16 [requestAddress, 0x10] start) count)), applied)

def answerFrame (node : MbusNode) (requestAddress : UInt8) (frame : List UInt8) :
    Option (List UInt8 × MbusNode) := do
  let function ← frame[1]?
  if (function = 0x03 ∨ function = 0x04) ∧ frame.length = 8 then
    if requestAddress = 0 then some ([], node)
    else
      let response ← readRegisters node requestAddress frame function
      some (response, node)
  else if function = 0x06 ∧ frame.length = 8 then
    writeSingleRegister node requestAddress frame
  else if function = 0x10 ∧ 9 ≤ frame.length then
    writeMultipleRegisters node requestAddress frame
  else
    some (unlessBroadcast requestAddress (exception requestAddress function 0x01), node)

def processFrame (node : MbusNode) (frame : List UInt8) : Option (List UInt8 × MbusNode) :=
  if frame.length < 4 then some ([], node)
  else do
    let expectedCrc ← crc16 frame (frame.length - 2)
    let low ← frame[frame.length - 2]?
    let high ← frame[frame.length - 1]?
    if expectedCrc ≠ word high low then some ([], node)
    else
      let requestAddress ← frame[0]?
      if requestAddress ≠ 0 ∧ requestAddress ≠ node.config.address then some ([], node)
      else answerFrame node requestAddress frame

section Accesses

variable (node : MbusNode)

theorem byte_eq {frame : List UInt8} {index : Nat} (inside : index < frame.length) :
    frame[index]? = some (frame.getD index 0) := by
  rw [List.getD_eq_getElem?_getD, List.getElem?_eq_getElem inside, Option.getD_some]

theorem readU16_eq {frame : List UInt8} {offset : Nat} (inside : offset + 1 < frame.length) :
    readU16 frame offset = some (Foundation.readU16 frame offset) := by
  unfold readU16
  rw [byte_eq inside, byte_eq (Nat.lt_of_succ_lt inside)]
  rfl

theorem load_eq {address : UInt16} (inside : address.toNat < 128) :
    load node address.toNat = some (node.registerValue address) := by
  rw [load, Vector.getElem?_eq_getElem inside, registerValue, dif_pos inside]

theorem store_eq {index : Nat} (inside : index < 128) (value : UInt16) :
    store node index value =
      some { node with registers := node.registers.setIfInBounds index value } :=
  if_pos inside

theorem storeAll_eq {words : List (UInt16 × UInt16)}
    (inside : words.all (fun word => decide (word.1.toNat < 128)) = true) :
    storeAll node words = some (node.setRegisters words) := by
  induction words generalizing node with
  | nil => rfl
  | cons word rest inductionHypothesis =>
      rw [List.all_cons, Bool.and_eq_true, decide_eq_true_eq] at inside
      have stored := store_eq node inside.1 word.2
      obtain ⟨address, value⟩ := word
      rw [storeAll, stored]
      exact inductionHypothesis _ inside.2

theorem crc16_eq {bytes : List UInt8} {size : Nat} (inside : size ≤ bytes.length) :
    crc16 bytes size = some (MbusNode.crc16 (bytes.take size)) :=
  foldIndexed_getElem bytes _ (by omega) _

theorem provision_eq (address : UInt8) (type : NodeType) (driverId : UInt16) :
    provision node address type driverId = some (node.provision address type driverId).2 := by
  unfold provision MbusNode.provision
  split
  · rfl
  · exact storeAll_eq _ rfl

theorem applyPendingConfiguration_eq :
    applyPendingConfiguration node = some node.applyPendingConfiguration := by
  unfold applyPendingConfiguration MbusNode.applyPendingConfiguration
  rw [load_eq node (by decide), some_bind]
  split
  · rfl
  · have cleared : store node Reg.applyConfiguration.toNat 0 =
        some (node.setRegister Reg.applyConfiguration 0) := store_eq node (by decide) 0
    rw [cleared, some_bind, load_eq _ (by decide), some_bind, load_eq _ (by decide),
      some_bind, load_eq _ (by decide), some_bind]
    dsimp only
    split
    · rfl
    · exact provision_eq _ _ _ _

/-- The read loop, over a range that fits. -/
theorem loadRange_eq {start count : Nat} (inside : start + count ≤ 128) (response : List UInt8) :
    foldIndexed (load node) appendU16 start response count =
      some ((readRange node.registers start count).foldl appendU16 response) := by
  have fetched : load node = fun index => node.registers.toList[index]? := by
    funext index
    exact (Vector.getElem?_toList ..).symm
  rw [fetched, foldIndexed_getElem node.registers.toList appendU16 (by simpa using inside)]
  rfl

/-- The write loop, over a range and a frame that fit. -/
theorem storeFrame_eq {frame : List UInt8} {index offset count : Nat}
    (registers : index + count ≤ 128) (bytes : offset + 2 * count ≤ frame.length) :
    storeFrame frame node index offset count =
      some { node with
        registers := writeRange node.registers index (readWords frame offset count) } := by
  induction count generalizing node index offset with
  | zero => rfl
  | succ count inductionHypothesis =>
      rw [storeFrame, readU16_eq (by omega), some_bind,
        store_eq node (by omega), some_bind, inductionHypothesis _ (by omega) (by omega)]
      rfl

variable (requestAddress : UInt8) {frame : List UInt8}

theorem readRegisters_eq (sized : frame.length = 8) (function : UInt8) :
    readRegisters node requestAddress frame function =
      some (node.readRegisters requestAddress frame function) := by
  unfold readRegisters MbusNode.readRegisters
  rw [readU16_eq (by omega), readU16_eq (by omega), some_bind, some_bind]
  dsimp only
  split
  · rfl
  · next accepted =>
      simp only [not_or, not_lt] at accepted
      rw [loadRange_eq node accepted.2.2]
      rfl

theorem writeSingleRegister_eq (sized : frame.length = 8) :
    writeSingleRegister node requestAddress frame =
      some (node.writeSingleRegister requestAddress frame) := by
  unfold writeSingleRegister MbusNode.writeSingleRegister
  rw [readU16_eq (by omega), readU16_eq (by omega), some_bind, some_bind]
  dsimp only
  split
  · rfl
  · next inside =>
      rw [store_eq node (Nat.lt_of_not_le inside), some_bind, applyPendingConfiguration_eq]
      rfl

theorem writeMultipleRegisters_eq (sized : 9 ≤ frame.length) :
    writeMultipleRegisters node requestAddress frame =
      some (node.writeMultipleRegisters requestAddress frame) := by
  unfold writeMultipleRegisters MbusNode.writeMultipleRegisters
  rw [readU16_eq (by omega), readU16_eq (by omega), byte_eq (by omega), some_bind, some_bind,
    some_bind]
  dsimp only
  split
  · rfl
  · next accepted =>
      simp only [not_or, not_lt, not_not] at accepted
      obtain ⟨-, bytes, length, registers⟩ := accepted
      rw [storeFrame_eq node registers (by omega), some_bind, applyPendingConfiguration_eq]
      rfl

theorem answerFrame_eq (sized : 4 ≤ frame.length) :
    answerFrame node requestAddress frame = some (node.answerFrame requestAddress frame) := by
  unfold answerFrame MbusNode.answerFrame
  rw [byte_eq (by omega), some_bind]
  dsimp only
  split
  · next read =>
      rw [unlessBroadcast]
      split
      · rfl
      · rw [readRegisters_eq node requestAddress read.2]
        rfl
  · split
    · next single => exact writeSingleRegister_eq node requestAddress single.2
    · split
      · next multiple => exact writeMultipleRegisters_eq node requestAddress multiple.2
      · rfl

/-- Every index a frame leads to is inside the frame or inside the registers. -/
theorem processFrame_eq (frame : List UInt8) :
    processFrame node frame = some (node.processFrame frame) := by
  unfold processFrame MbusNode.processFrame
  split
  · rfl
  · next sized =>
      rw [crc16_eq (by omega), byte_eq (by omega), byte_eq (by omega), byte_eq (by omega),
        some_bind, some_bind, some_bind]
      dsimp only
      split
      · rfl
      · rw [some_bind]
        split
        · rfl
        · exact answerFrame_eq node _ (by omega)

end Accesses

end Checked

end MbusNode

end GridexEdge.Node
