import GridexEdge.Foundation.RegisterFile
import GridexEdge.Foundation.Words

/-!
The register node of the field firmware: its map, its RTU request handling and
its provisioning.

`processFrame_cases` is the complete effect of a frame: nothing, or one range
write followed by the pending-configuration check.
-/

namespace GridexEdge.Node

open Foundation

/-- Any sixteen-bit value can come out of the stored configuration, so the type
is its register value; provisioning accepts six of them. -/
abbrev NodeType := UInt16

namespace NodeType

abbrev unconfigured : NodeType := 0
abbrev inverter : NodeType := 1
abbrev batteryBms : NodeType := 2
abbrev allInOneBess : NodeType := 3
abbrev meter : NodeType := 4
abbrev evse : NodeType := 5
abbrev secondCabinet : NodeType := 6

end NodeType

inductive NodeState where
  | boot
  | awaitingAddress
  | ready
  | driverMissing
  | fault

def NodeState.code : NodeState → UInt16
  | .boot => 0
  | .awaitingAddress => 1
  | .ready => 2
  | .driverMissing => 3
  | .fault => 4

namespace Reg

abbrev magic : UInt16 := 0x0000
abbrev mapVersion : UInt16 := 0x0001
abbrev nodeType : UInt16 := 0x0002
abbrev nodeState : UInt16 := 0x0003
abbrev nodeAddress : UInt16 := 0x0004
abbrev driverId : UInt16 := 0x0005
abbrev quality : UInt16 := 0x0006
abbrev uid0 : UInt16 := 0x0007
abbrev uid1 : UInt16 := 0x0008
abbrev uid2 : UInt16 := 0x0009
abbrev uid3 : UInt16 := 0x000A
abbrev uptimeLow : UInt16 := 0x000B
abbrev heartbeat : UInt16 := 0x000C
abbrev requestedAddress : UInt16 := 0x0010
abbrev requestedNodeType : UInt16 := 0x0011
abbrev requestedDriverId : UInt16 := 0x0012
abbrev applyConfiguration : UInt16 := 0x0013
abbrev commandSequence : UInt16 := 0x0014
abbrev requestedPowerKwX10 : UInt16 := 0x0015
abbrev commandEnable : UInt16 := 0x0016
abbrev commandTtlSeconds : UInt16 := 0x0017
abbrev lastCommandResult : UInt16 := 0x0018
abbrev appliedPowerKwX10 : UInt16 := 0x0019
abbrev actualPowerKwX10 : UInt16 := 0x0040
abbrev energyWhHigh : UInt16 := 0x0041
abbrev energyWhLow : UInt16 := 0x0042
abbrev deviceState : UInt16 := 0x0043
abbrev alarmBits : UInt16 := 0x0044
abbrev cloudConnected : UInt16 := 0x0045
abbrev ethernetStatus : UInt16 := 0x0046
abbrev modbusTcpStatus : UInt16 := 0x0047
abbrev driverReady : UInt16 := 0x0048
abbrev deviceBusStatus : UInt16 := 0x0049
abbrev watchdogStatus : UInt16 := 0x004A
abbrev recoveryCount : UInt16 := 0x004B
abbrev ethernetRecoveryCount : UInt16 := 0x004C
abbrev busRecoveryCount : UInt16 := 0x004D
abbrev lastError : UInt16 := 0x004E
abbrev magicValue : UInt16 := 0x4758
abbrev mapVersionValue : UInt16 := 0x0005
abbrev applyKey : UInt16 := 0xA55A

end Reg

def validType (type : NodeType) : Bool :=
  type == NodeType.inverter || type == NodeType.batteryBms || type == NodeType.allInOneBess ||
    type == NodeType.meter || type == NodeType.evse || type == NodeType.secondCabinet

structure NodeConfig where
  address : UInt8 := 0
  type : NodeType := NodeType.unconfigured
  driverId : UInt16 := 0
  uid : UInt64 := 0

structure MbusNode where
  config : NodeConfig
  registers : Vector UInt16 128 := Vector.replicate 128 0
  configurationChanged : Bool := false

namespace MbusNode

def registerValue (node : MbusNode) (address : UInt16) : UInt16 :=
  if inside : address.toNat < 128 then node.registers[address.toNat] else 0

def setRegister (node : MbusNode) (address value : UInt16) : MbusNode :=
  { node with registers := node.registers.setIfInBounds address.toNat value }

/-- One register after another. -/
def setRegisters (node : MbusNode) (words : List (UInt16 × UInt16)) : MbusNode :=
  words.foldl (fun node word => node.setRegister word.1 word.2) node

/-- Store consecutive registers; the callers check the range first. -/
def storeRange (node : MbusNode) (start : UInt16) (values : List UInt16) : MbusNode :=
  { node with registers := writeRange node.registers start.toNat values }

def temporaryAddress (uid : UInt64) : UInt8 :=
  let folded := uid.toUInt32 ^^^ (uid >>> 32).toUInt32
  let folded := folded ^^^ (folded >>> 16)
  (200 + folded % 48).toUInt8

/-- A folded identifier moves the address up from two hundred. -/
theorem temporaryAddress_bounds (uid : UInt64) :
    200 ≤ (temporaryAddress uid).toNat ∧ (temporaryAddress uid).toNat ≤ 247 := by
  unfold temporaryAddress
  dsimp only
  rw [UInt32.toNat_toUInt8, UInt32.toNat_add, UInt32.toNat_mod]
  simp only [UInt32.reduceToNat]
  omega

def initialState (config : NodeConfig) : NodeState :=
  if config.type = NodeType.unconfigured then .awaitingAddress else .driverMissing

def initializeIdentity (node : MbusNode) : MbusNode :=
  let config := node.config
  node.setRegisters
    [ (Reg.magic, Reg.magicValue),
      (Reg.mapVersion, Reg.mapVersionValue),
      (Reg.nodeType, config.type),
      (Reg.nodeState, (initialState config).code),
      (Reg.nodeAddress, config.address.toUInt16),
      (Reg.driverId, config.driverId),
      (Reg.uid0, (config.uid >>> 48).toUInt16),
      (Reg.uid1, (config.uid >>> 32).toUInt16),
      (Reg.uid2, (config.uid >>> 16).toUInt16),
      (Reg.uid3, config.uid.toUInt16),
      (Reg.requestedAddress, config.address.toUInt16),
      (Reg.requestedNodeType, config.type),
      (Reg.requestedDriverId, config.driverId) ]

/-- A node from its stored configuration. -/
def ofConfig (config : NodeConfig) : MbusNode :=
  let address := if config.address = 0 then temporaryAddress config.uid else config.address
  initializeIdentity { config := { config with address := address } }

/-- One bit of the CRC. -/
def crcBit (crc : UInt16) : UInt16 :=
  if crc &&& 1 ≠ 0 then (crc >>> 1) ^^^ 0xA001 else crc >>> 1

def crc16 (bytes : List UInt8) : UInt16 :=
  bytes.foldl (fun crc byte => Nat.iterate crcBit 8 (crc ^^^ byte.toUInt16)) 0xFFFF

/-- The CRC follows a response low byte first. -/
def withCrc (response : List UInt8) : List UInt8 :=
  response ++ [lowByte (crc16 response), highByte (crc16 response)]

def exception (requestAddress function code : UInt8) : List UInt8 :=
  withCrc [requestAddress, function ||| 0x80, code]

def provision (node : MbusNode) (address : UInt8) (type : NodeType) (driverId : UInt16) :
    Bool × MbusNode :=
  if address < 1 ∨ 247 < address ∨ validType type = false ∨ driverId = 0 then (false, node)
  else
    let provisioned : MbusNode :=
      { node with
        config := { node.config with address := address, type := type, driverId := driverId }
        configurationChanged := true }
    (true, provisioned.setRegisters
      [ (Reg.requestedAddress, address.toUInt16),
        (Reg.requestedNodeType, type),
        (Reg.requestedDriverId, driverId),
        (Reg.nodeAddress, address.toUInt16),
        (Reg.nodeType, type),
        (Reg.driverId, driverId),
        (Reg.nodeState, NodeState.driverMissing.code) ])

/-- The apply key in the configuration window provisions the node from the
requested registers; the key is cleared first, whatever comes of it. -/
def applyPendingConfiguration (node : MbusNode) : MbusNode :=
  if node.registerValue Reg.applyConfiguration ≠ Reg.applyKey then node
  else
    let cleared := node.setRegister Reg.applyConfiguration 0
    let requestedAddress := cleared.registerValue Reg.requestedAddress
    if 247 < requestedAddress then cleared
    else
      (cleared.provision requestedAddress.toUInt8
        (cleared.registerValue Reg.requestedNodeType)
        (cleared.registerValue Reg.requestedDriverId)).2

def takeConfigurationChanged (node : MbusNode) : Bool × MbusNode :=
  (node.configurationChanged, { node with configurationChanged := false })

section Requests

variable (node : MbusNode) (requestAddress : UInt8) (frame : List UInt8)

/-- A broadcast is never answered. -/
def unlessBroadcast (response : List UInt8) : List UInt8 :=
  if requestAddress = 0 then [] else response

/-- FC03 and FC04. -/
def readRegisters (function : UInt8) : List UInt8 :=
  let start := readU16 frame 2
  let count := readU16 frame 4
  if count = 0 ∨ 64 < count ∨ 128 < start.toNat + count.toNat then
    exception requestAddress function 0x02
  else
    withCrc ((readRange node.registers start.toNat count.toNat).foldl appendU16
      [requestAddress, function, UInt8.ofNat (count.toNat * 2)])

/-- FC06. -/
def writeSingleRegister : List UInt8 × MbusNode :=
  let address := readU16 frame 2
  let value := readU16 frame 4
  if 128 ≤ address.toNat then
    (unlessBroadcast requestAddress (exception requestAddress 0x06 0x02), node)
  else
    (unlessBroadcast requestAddress frame,
      (node.storeRange address [value]).applyPendingConfiguration)

/-- FC10. -/
def writeMultipleRegisters : List UInt8 × MbusNode :=
  let start := readU16 frame 2
  let count := readU16 frame 4
  let byteCount := frame.getD 6 0
  if count = 0 ∨ byteCount.toNat ≠ count.toNat * 2 ∨ frame.length ≠ 9 + byteCount.toNat ∨
      128 < start.toNat + count.toNat then
    (unlessBroadcast requestAddress (exception requestAddress 0x10 0x03), node)
  else
    (unlessBroadcast requestAddress
        (withCrc (appendU16 (appendU16 [requestAddress, 0x10] start) count)),
      (node.storeRange start (readWords frame 7 count.toNat)).applyPendingConfiguration)

end Requests

/-- The functions of a frame that is intact and meant for this node. -/
def answerFrame (node : MbusNode) (requestAddress : UInt8) (frame : List UInt8) :
    List UInt8 × MbusNode :=
  let function := frame.getD 1 0
  if (function = 0x03 ∨ function = 0x04) ∧ frame.length = 8 then
    (unlessBroadcast requestAddress (node.readRegisters requestAddress frame function), node)
  else if function = 0x06 ∧ frame.length = 8 then
    node.writeSingleRegister requestAddress frame
  else if function = 0x10 ∧ 9 ≤ frame.length then
    node.writeMultipleRegisters requestAddress frame
  else
    (unlessBroadcast requestAddress (exception requestAddress function 0x01), node)

def processFrame (node : MbusNode) (frame : List UInt8) : List UInt8 × MbusNode :=
  if frame.length < 4 then ([], node)
  else
    let expectedCrc := crc16 (frame.take (frame.length - 2))
    let receivedCrc := word (frame.getD (frame.length - 1) 0) (frame.getD (frame.length - 2) 0)
    if expectedCrc ≠ receivedCrc then ([], node)
    else
      let requestAddress := frame.getD 0 0
      if requestAddress ≠ 0 ∧ requestAddress ≠ node.config.address then ([], node)
      else node.answerFrame requestAddress frame

/-! ### Registers after an update -/

section Updates

variable (node : MbusNode)

theorem registerValue_setRegister (address other value : UInt16) :
    (node.setRegister address value).registerValue other =
      if other = address ∧ address.toNat < 128 then value else node.registerValue other := by
  unfold registerValue setRegister
  by_cases inside : other.toNat < 128
  · simp only [inside, dite_true, Vector.getElem_setIfInBounds]
    by_cases same : other = address
    · subst same
      simp [inside]
    · rw [if_neg (fun index => same (UInt16.toNat_inj.mp index.symm)), if_neg (by simp [same])]
  · have missed : ¬(other = address ∧ address.toNat < 128) := by
      rintro ⟨rfl, reached⟩
      exact inside reached
    simp [inside, missed]

@[simp]
theorem registerValue_setRegister_self {address : UInt16} (value : UInt16)
    (inside : address.toNat < 128) :
    (node.setRegister address value).registerValue address = value := by
  rw [registerValue_setRegister, if_pos ⟨rfl, inside⟩]

@[simp]
theorem registerValue_setRegister_of_ne {address other : UInt16} (value : UInt16)
    (different : other ≠ address) :
    (node.setRegister address value).registerValue other = node.registerValue other := by
  rw [registerValue_setRegister, if_neg (fun same => different same.1)]

@[simp]
theorem setRegisters_config (words : List (UInt16 × UInt16)) :
    (node.setRegisters words).config = node.config := by
  induction words generalizing node with
  | nil => rfl
  | cons word rest inductionHypothesis => exact inductionHypothesis (node.setRegister word.1 word.2)

theorem registerValue_setRegisters_of_not_mem {words : List (UInt16 × UInt16)}
    {address : UInt16} (missing : address ∉ words.map Prod.fst) :
    (node.setRegisters words).registerValue address = node.registerValue address := by
  induction words generalizing node with
  | nil => rfl
  | cons word rest inductionHypothesis =>
      rw [List.map_cons, List.mem_cons, not_or] at missing
      exact (inductionHypothesis (node.setRegister word.1 word.2) missing.2).trans
        (node.registerValue_setRegister_of_ne word.2 missing.1)

/-- Of distinct registers each keeps the value it was given. -/
theorem registerValue_setRegisters_of_mem {words : List (UInt16 × UInt16)}
    (distinct : (words.map Prod.fst).Nodup) {address value : UInt16}
    (member : (address, value) ∈ words) (inside : address.toNat < 128) :
    (node.setRegisters words).registerValue address = value := by
  induction words generalizing node with
  | nil => simp at member
  | cons word rest inductionHypothesis =>
      rw [List.map_cons, List.nodup_cons] at distinct
      rcases List.mem_cons.mp member with rfl | later
      · exact ((node.setRegister address value).registerValue_setRegisters_of_not_mem
          distinct.1).trans (node.registerValue_setRegister_self value inside)
      · exact inductionHypothesis (node.setRegister word.1 word.2) distinct.2 later

/-- Provisioning writes seven registers and no other. -/
theorem registerValue_provision_of_not_mem (configured : UInt8) (type : NodeType)
    (driverId : UInt16) {address : UInt16}
    (missing : address ∉ [Reg.requestedAddress, Reg.requestedNodeType, Reg.requestedDriverId,
      Reg.nodeAddress, Reg.nodeType, Reg.driverId, Reg.nodeState]) :
    (node.provision configured type driverId).2.registerValue address =
      node.registerValue address := by
  unfold provision
  split
  · rfl
  · exact registerValue_setRegisters_of_not_mem _ missing

theorem registerValue_storeRange (start : UInt16) (values : List UInt16) (address : UInt16) :
    (node.storeRange start values).registerValue address =
      if covered : start.toNat ≤ address.toNat ∧ address.toNat - start.toNat < values.length ∧
          address.toNat < 128 then
        values[address.toNat - start.toNat]
      else node.registerValue address := by
  unfold registerValue storeRange
  by_cases inside : address.toNat < 128
  · simp only [inside, dite_true, and_true, getElem_writeRange]
  · simp [inside]

theorem registerValue_storeRange_of_outside {start : UInt16} {values : List UInt16}
    {address : UInt16}
    (outside : address.toNat < start.toNat ∨ start.toNat + values.length ≤ address.toNat) :
    (node.storeRange start values).registerValue address = node.registerValue address := by
  rw [registerValue_storeRange, dif_neg]
  omega

/-- The key check is the only thing that can make a range write do more. -/
theorem applyPendingConfiguration_of_ne
    (unapplied : node.registerValue Reg.applyConfiguration ≠ Reg.applyKey) :
    node.applyPendingConfiguration = node := by
  rw [applyPendingConfiguration, if_pos unapplied]

/-- What a frame stores: a range at the start it names, of one register for FC06
and of the quantity it names for FC10, after which the key is checked. -/
theorem processFrame_cases (frame : List UInt8) :
    (node.processFrame frame).2 = node ∨
      ∃ values : List UInt16,
        (frame.getD 1 0 = 0x06 ∧ values.length = 1 ∨
          frame.getD 1 0 = 0x10 ∧ values.length = (readU16 frame 4).toNat) ∧
        (readU16 frame 2).toNat + values.length ≤ 128 ∧
        (node.processFrame frame).2 =
          (node.storeRange (readU16 frame 2) values).applyPendingConfiguration := by
  unfold processFrame answerFrame
  dsimp only
  split_ifs with _ _ _ _ single multiple
  · exact .inl rfl
  · exact .inl rfl
  · exact .inl rfl
  · exact .inl rfl
  · unfold writeSingleRegister
    dsimp only
    split
    · exact .inl rfl
    · next inside =>
        exact .inr ⟨[readU16 frame 4], .inl ⟨single.1, rfl⟩, Nat.lt_of_not_le inside, rfl⟩
  · unfold writeMultipleRegisters
    dsimp only
    split
    · exact .inl rfl
    · next accepted =>
        simp only [not_or, not_lt] at accepted
        refine .inr ⟨readWords frame 7 (readU16 frame 4).toNat, .inr ⟨multiple.1, ?_⟩, ?_, rfl⟩
        · exact length_readWords _ _ _
        · rw [length_readWords]
          exact accepted.2.2.2
  · exact .inl rfl

end Updates

end MbusNode

end GridexEdge.Node
