import GridexEdge.Core.EdgeController
import GridexEdge.Foundation.RegisterFile
import GridexEdge.RockPi.MbusNodeTelemetry

/-!
The northbound register map and the bank behind the Modbus server: seventeen
holding registers with three command mailboxes, and 768 input registers.
-/

namespace GridexEdge.RockPi

open GridexEdge.Core Foundation

namespace Northbound

def operatorApplyKeyValue : UInt16 := 0xA55A
def nodeSlotBase : Nat := 0x0100
def nodeSlotStride : Nat := 16
def nodeSlotCount : Nat := 32

end Northbound

/-! ### Holding registers -/

namespace Holding

abbrev commandSequence : Fin 17 := 0
abbrev requestedPowerKwX10 : Fin 17 := 1
abbrev commandEnable : Fin 17 := 2
abbrev emsHeartbeat : Fin 17 := 3
abbrev operatorSequence : Fin 17 := 4
abbrev operatorActionMask : Fin 17 := 5
abbrev requestedRunState : Fin 17 := 6
abbrev requestedReactivePowerKvarX10 : Fin 17 := 7
abbrev requestedSocUpperPct : Fin 17 := 8
abbrev requestedSocLowerPct : Fin 17 := 9
abbrev operatorApplyKey : Fin 17 := 10
abbrev nodeCommandSequence : Fin 17 := 11
abbrev nodeCommandTargetSlot : Fin 17 := 12
abbrev nodeRequestedPowerKwX10 : Fin 17 := 13
abbrev nodeCommandEnable : Fin 17 := 14
abbrev nodeCommandTtlSeconds : Fin 17 := 15
abbrev nodeCommandApplyKey : Fin 17 := 16

end Holding

/-! ### Operator action bits -/

namespace Action

def runState : UInt16 := 1
def reactivePower : UInt16 := 2
def socLimits : UInt16 := 4
def all : UInt16 := runState ||| reactivePower ||| socLimits

end Action

/-! ### Input registers -/

namespace Input

abbrev actualPowerKwX10 : Nat := 0
abbrev socPctX10 : Nat := 1
abbrev sohPct : Nat := 2
abbrev voltageVX10 : Nat := 3
abbrev currentAX10 : Nat := 4
abbrev maxChargeKwX10 : Nat := 5
abbrev maxDischargeKwX10 : Nat := 6
abbrev batteryStatus : Nat := 7
abbrev batterySystemFlags : Nat := 8
abbrev qualityBits : Nat := 9
abbrev edgeState : Nat := 10
abbrev appliedPowerKwX10 : Nat := 11
abbrev controlReady : Nat := 12
abbrev configuredMaxChargeKwX10 : Nat := 13
abbrev configuredMaxDischargeKwX10 : Nat := 14
abbrev dcPowerKwX10 : Nat := 15
abbrev commandedPowerKwX10 : Nat := 16
abbrev pcsStatus : Nat := 17
abbrev reactivePowerKvarX10 : Nat := 18
abbrev accumulatedChargeKwhX10High : Nat := 19
abbrev accumulatedChargeKwhX10Low : Nat := 20
abbrev accumulatedDischargeKwhX10High : Nat := 21
abbrev accumulatedDischargeKwhX10Low : Nat := 22
abbrev dailyChargeKwhX10 : Nat := 23
abbrev dailyDischargeKwhX10 : Nat := 24
abbrev alarmBits : Nat := 25
abbrev lastOperatorSequence : Nat := 26
abbrev lastOperatorResult : Nat := 27
abbrev frequencyHzX100 : Nat := 28
abbrev socUpperLimitPct : Nat := 29
abbrev socLowerLimitPct : Nat := 30
abbrev extendedTelemetryValid : Nat := 31
abbrev pcsPowerOn : Nat := 32
abbrev pcsGridTied : Nat := 33
abbrev pcsCurrentSourceMode : Nat := 34

end Input

/-! ### The words of a node's window -/

namespace NodeInput

abbrev online : Nat := 0
abbrev address : Nat := 1
abbrev nodeType : Nat := 2
abbrev nodeState : Nat := 3
abbrev driverId : Nat := 4
abbrev quality : Nat := 5
abbrev heartbeat : Nat := 6
abbrev actualPowerKwX10 : Nat := 7
abbrev energyWhHigh : Nat := 8
abbrev energyWhLow : Nat := 9
abbrev deviceState : Nat := 10
abbrev alarmBits : Nat := 11
abbrev ageSeconds : Nat := 12
abbrev cloudConnected : Nat := 13

end NodeInput

def encodeSignedX10 (value : ℚ) : UInt16 :=
  unsigned (saturate (roundHalfAway (value * 10)))

def encodeUnsigned (value scale : ℚ) : UInt16 :=
  UInt16.ofNat (clamp (roundHalfAway (value * scale)) 0 65535).toNat

def encodeUnsigned32 (value scale : ℚ) : UInt32 :=
  UInt32.ofNat (clamp (roundHalfAway (value * scale)) 0 4294967295).toNat

structure NorthboundCommand where
  sequence : UInt16
  heartbeat : UInt16
  requestedPowerKw : ℚ
  enabled : Bool
  deriving DecidableEq

structure NorthboundOperatorCommand where
  sequence : UInt16
  actionMask : UInt16
  requestedRunState : UInt16
  requestedReactivePowerKvar : ℚ
  requestedSocUpperPct : ℚ
  requestedSocLowerPct : ℚ
  authorized : Bool

structure NorthboundNodeCommand where
  sequence : UInt16
  targetSlot : Nat
  requestedPowerKw : ℚ
  ttlSeconds : UInt16
  enabled : Bool
  authorized : Bool

structure NorthboundRegisterBank where
  holding : Vector UInt16 17 := Vector.replicate 17 0
  input : Vector UInt16 768 := Vector.replicate 768 0
  commandObserved : Bool := true
  lastSequence : UInt16 := 0
  lastHeartbeat : UInt16 := 0
  operatorCommandObserved : Bool := true
  lastOperatorSequence : UInt16 := 0
  nodeCommandObserved : Bool := true
  lastNodeCommandSequence : UInt16 := 0

/-- Both banks are read the same way: a nonempty range inside the bank. -/
def readBank {size : Nat} (registers : Vector UInt16 size) (start count : UInt16) :
    Option (List UInt16) :=
  if count = 0 ∨ size < start.toNat + count.toNat then none
  else some (readRange registers start.toNat count.toNat)

theorem readBank_of_fits {size : Nat} (registers : Vector UInt16 size) {start count : UInt16}
    (positive : 1 ≤ count.toNat) (inside : start.toNat + count.toNat ≤ size) :
    readBank registers start count = some (readRange registers start.toNat count.toNat) := by
  unfold readBank
  rw [if_neg]
  rintro (rfl | outside)
  · exact absurd positive (by decide)
  · omega

theorem readBank_of_outside {size : Nat} (registers : Vector UInt16 size) {start count : UInt16}
    (outside : size < start.toNat + count.toNat) : readBank registers start count = none := by
  rw [readBank, if_pos (.inr outside)]

/-! ### The window of a slot -/

def windowBase (slot : Nat) : Nat := Northbound.nodeSlotBase + slot * Northbound.nodeSlotStride

theorem windowBase_eq (slot : Nat) : windowBase slot = 256 + slot * 16 := rfl

/-- The address belongs to the sixteen registers of the slot. -/
def InSlot (slot address : Nat) : Prop :=
  windowBase slot ≤ address ∧ address < windowBase slot + 16

theorem inSlot_disjoint {slot other address : Nat} (window : InSlot slot address)
    (different : other ≠ slot) : ¬InSlot other address := by
  rintro ⟨low, high⟩
  have own := window
  simp only [InSlot, windowBase_eq] at own low high
  omega

namespace NorthboundRegisterBank

variable (bank : NorthboundRegisterBank)

abbrev holdingRegister (address : Fin 17) : UInt16 := bank.holding[address]

def readHolding (start count : UInt16) : Option (List UInt16) := readBank bank.holding start count

def readInput (start count : UInt16) : Option (List UInt16) := readBank bank.input start count

def writeHolding (start : UInt16) (values : List UInt16) : Bool × NorthboundRegisterBank :=
  if values = [] ∨ 17 < start.toNat + values.length then (false, bank)
  else (true, { bank with holding := writeRange bank.holding start.toNat values })

/-- The command mailbox: a change of the sequence or of the heartbeat delivers
the payload registers as they are now. -/
def takeCommand : Option NorthboundCommand × NorthboundRegisterBank :=
  let sequence := bank.holding[Holding.commandSequence]
  let heartbeat := bank.holding[Holding.emsHeartbeat]
  if bank.commandObserved && sequence == bank.lastSequence && heartbeat == bank.lastHeartbeat then
    (none, bank)
  else
    let rawPower := bank.holding[Holding.requestedPowerKwX10]
    let enabled := bank.holding[Holding.commandEnable] == 1
    (some {
        sequence := sequence
        heartbeat := heartbeat
        requestedPowerKw := if enabled then (signed rawPower : ℚ) / 10 else 0
        enabled := enabled },
      { bank with
        commandObserved := true
        lastSequence := sequence
        lastHeartbeat := heartbeat })

def takeOperatorCommand : Option NorthboundOperatorCommand × NorthboundRegisterBank :=
  let sequence := bank.holding[Holding.operatorSequence]
  if bank.operatorCommandObserved && sequence == bank.lastOperatorSequence then (none, bank)
  else
    (some {
        sequence := sequence
        actionMask := bank.holding[Holding.operatorActionMask]
        requestedRunState := bank.holding[Holding.requestedRunState]
        requestedReactivePowerKvar :=
          (signed bank.holding[Holding.requestedReactivePowerKvarX10] : ℚ) / 10
        requestedSocUpperPct := bank.holding[Holding.requestedSocUpperPct].toNat
        requestedSocLowerPct := bank.holding[Holding.requestedSocLowerPct].toNat
        authorized :=
          bank.holding[Holding.operatorApplyKey] == Northbound.operatorApplyKeyValue },
      { bank with
        operatorCommandObserved := true
        lastOperatorSequence := sequence })

def takeNodeCommand : Option NorthboundNodeCommand × NorthboundRegisterBank :=
  let sequence := bank.holding[Holding.nodeCommandSequence]
  if bank.nodeCommandObserved && sequence == bank.lastNodeCommandSequence then (none, bank)
  else
    (some {
        sequence := sequence
        targetSlot := bank.holding[Holding.nodeCommandTargetSlot].toNat
        requestedPowerKw := (signed bank.holding[Holding.nodeRequestedPowerKwX10] : ℚ) / 10
        ttlSeconds := bank.holding[Holding.nodeCommandTtlSeconds]
        enabled := bank.holding[Holding.nodeCommandEnable] == 1
        authorized :=
          bank.holding[Holding.nodeCommandApplyKey] == Northbound.operatorApplyKeyValue },
      { bank with
        nodeCommandObserved := true
        lastNodeCommandSequence := sequence })

def publishOperatorResult (sequence result : UInt16) : NorthboundRegisterBank :=
  { bank with
    input := (bank.input.set Input.lastOperatorSequence sequence).set
      Input.lastOperatorResult result }

/-- One status bit. -/
def bit (index : UInt16) (condition : Bool) : UInt16 := if condition then 1 <<< index else 0

def flag (condition : Bool) : UInt16 := if condition then 1 else 0

def qualityBits (snapshot : ControllerSnapshot) : UInt16 :=
  bit 0 (snapshot.battery.quality == .good) ||| bit 1 snapshot.battery.limitsValid |||
    bit 2 snapshot.emsConnected ||| bit 3 snapshot.heartbeatOk |||
    bit 4 (!snapshot.battery.pcsFault && !snapshot.battery.bmsFault) |||
    bit 5 snapshot.battery.controlReady ||| bit 6 snapshot.battery.extendedTelemetryValid

def alarmBits (battery : BatteryTelemetry) : UInt16 :=
  bit 0 battery.pcsWarning ||| bit 1 battery.bmsAlarm

/-- The published words, address by address, in the order of the stores. -/
def publication (snapshot : ControllerSnapshot) (configuredLimit : ConfiguredPowerLimit) :
    List (Nat × UInt16) :=
  let battery := snapshot.battery
  let accumulatedCharge := encodeUnsigned32 battery.accumulatedChargeKwh 10
  let accumulatedDischarge := encodeUnsigned32 battery.accumulatedDischargeKwh 10
  [ (Input.actualPowerKwX10, encodeSignedX10 battery.actualPowerKw),
    (Input.socPctX10, encodeUnsigned battery.socPct 10),
    (Input.sohPct, encodeUnsigned battery.sohPct 1),
    (Input.voltageVX10, encodeUnsigned battery.voltageV 10),
    (Input.currentAX10, encodeSignedX10 battery.currentA),
    (Input.maxChargeKwX10, encodeUnsigned battery.maxChargeKw 10),
    (Input.maxDischargeKwX10, encodeUnsigned battery.maxDischargeKw 10),
    (Input.batteryStatus, battery.statusCode),
    (Input.batterySystemFlags, battery.bmsSystemFlags),
    (Input.qualityBits, qualityBits snapshot),
    (Input.edgeState, snapshot.state.code),
    (Input.appliedPowerKwX10, encodeSignedX10 snapshot.command.appliedPowerKw),
    (Input.controlReady, flag battery.controlReady),
    (Input.configuredMaxChargeKwX10, encodeUnsigned (configuredLimit.maxChargeKw.getD 0) 10),
    (Input.configuredMaxDischargeKwX10, encodeUnsigned (configuredLimit.maxDischargeKw.getD 0) 10),
    (Input.dcPowerKwX10, encodeSignedX10 battery.dcPowerKw),
    (Input.commandedPowerKwX10, encodeSignedX10 battery.commandedPowerKw),
    (Input.pcsStatus, battery.pcsStatusCode),
    (Input.reactivePowerKvarX10, encodeSignedX10 battery.reactivePowerKvar),
    (Input.accumulatedChargeKwhX10High, (accumulatedCharge >>> 16).toUInt16),
    (Input.accumulatedChargeKwhX10Low, accumulatedCharge.toUInt16),
    (Input.accumulatedDischargeKwhX10High, (accumulatedDischarge >>> 16).toUInt16),
    (Input.accumulatedDischargeKwhX10Low, accumulatedDischarge.toUInt16),
    (Input.dailyChargeKwhX10, encodeUnsigned battery.dailyChargeKwh 10),
    (Input.dailyDischargeKwhX10, encodeUnsigned battery.dailyDischargeKwh 10),
    (Input.alarmBits, alarmBits battery),
    (Input.frequencyHzX100, encodeUnsigned battery.frequencyHz 100),
    (Input.socUpperLimitPct, encodeUnsigned battery.socUpperLimitPct 1),
    (Input.socLowerLimitPct, encodeUnsigned battery.socLowerLimitPct 1),
    (Input.extendedTelemetryValid, flag battery.extendedTelemetryValid),
    (Input.pcsPowerOn, flag battery.pcsPowerOn),
    (Input.pcsGridTied, flag battery.pcsGridTied),
    (Input.pcsCurrentSourceMode, flag battery.pcsCurrentSourceMode) ]

def publish (snapshot : ControllerSnapshot) (configuredLimit : ConfiguredPowerLimit) :
    NorthboundRegisterBank :=
  { bank with
    input := (publication snapshot configuredLimit).foldl
      (fun input word => input.setIfInBounds word.1 word.2) bank.input }

/-- Whole seconds since the last sighting, for a node that is online. -/
def ageSeconds (now : SteadyTime) (sample : MbusNodeTelemetry) : UInt16 :=
  let age := if sample.online then (now - sample.lastSeen).tdiv (seconds 1) else 65535
  UInt16.ofNat (clamp age 0 65535).toNat

/-- The words of one node from the base of its window, in the order of the stores. -/
def nodePublication (base : Nat) (now : SteadyTime) (sample : MbusNodeTelemetry) :
    List (Nat × UInt16) :=
  [ (base + NodeInput.online, flag sample.online),
    (base + NodeInput.address, sample.address.toUInt16),
    (base + NodeInput.nodeType, sample.nodeType),
    (base + NodeInput.nodeState, sample.nodeState),
    (base + NodeInput.driverId, sample.driverId),
    (base + NodeInput.quality, sample.quality),
    (base + NodeInput.heartbeat, sample.heartbeat),
    (base + NodeInput.actualPowerKwX10, encodeSignedX10 sample.actualPowerKw),
    (base + NodeInput.energyWhHigh, (sample.energyWh >>> 16).toUInt16),
    (base + NodeInput.energyWhLow, sample.energyWh.toUInt16),
    (base + NodeInput.deviceState, sample.deviceState),
    (base + NodeInput.alarmBits, sample.alarmBits),
    (base + NodeInput.cloudConnected, flag sample.cloudConnected),
    (base + NodeInput.ageSeconds, ageSeconds now sample) ]

def publishNode (now : SteadyTime) (slot : Nat) (sample : MbusNodeTelemetry) :
    NorthboundRegisterBank :=
  if Northbound.nodeSlotCount ≤ slot then bank
  else
    let base := Northbound.nodeSlotBase + slot * Northbound.nodeSlotStride
    { bank with input := storeWords bank.input (nodePublication base now sample) }

/-! ### Spec of the accesses -/

theorem writeHolding_of_fits {start : UInt16} {values : List UInt16} (nonempty : values ≠ [])
    (inside : start.toNat + values.length ≤ 17) :
    bank.writeHolding start values =
      (true, { bank with holding := writeRange bank.holding start.toNat values }) := by
  unfold writeHolding
  rw [if_neg]
  rintro (empty | outside)
  · exact nonempty empty
  · omega

theorem writeHolding_of_not_fits {start : UInt16} {values : List UInt16}
    (outside : values = [] ∨ 17 < start.toNat + values.length) :
    bank.writeHolding start values = (false, bank) := by
  rw [writeHolding, if_pos outside]

/-- Registers that hold a list of words are read as that list. -/
theorem readInput_of_held {start count : UInt16} {words : List UInt16}
    (length : words.length = count.toNat) (nonempty : words ≠ [])
    (inside : start.toNat + words.length ≤ 768)
    (held : ∀ index < words.length, bank.input[start.toNat + index]? = words[index]?) :
    bank.readInput start count = some words := by
  have positive := List.length_pos_of_ne_nil nonempty
  rw [readInput, readBank_of_fits _ (by omega) (by omega)]
  congr 1
  apply List.ext_getElem
  · rw [length_readRange]
    omega
  · intro index inner bounded
    have within : start.toNat + index < 768 := by omega
    rw [getElem_readRange _ _ _ _ inner within]
    apply Option.some.inj
    rw [← Vector.getElem?_eq_getElem within, ← List.getElem?_eq_getElem bounded]
    exact held index bounded

/-- The power a pair of payload registers asks for. -/
def effectivePowerKw (power enable : UInt16) : ℚ :=
  if enable = 1 then (signed power : ℚ) / 10 else 0

/-- Neither trigger of the command mailbox has moved since the last take. -/
def Idle : Prop :=
  bank.commandObserved = true ∧ bank.holding[Holding.commandSequence] = bank.lastSequence ∧
    bank.holding[Holding.emsHeartbeat] = bank.lastHeartbeat

theorem takeCommand_of_idle (idle : bank.Idle) : bank.takeCommand = (none, bank) := by
  obtain ⟨observed, sameSequence, sameHeartbeat⟩ := idle
  simp [takeCommand, observed, sameSequence, sameHeartbeat]

theorem takeCommand_of_not_idle (moved : ¬bank.Idle) :
    bank.takeCommand.1 = some
      { sequence := bank.holding[Holding.commandSequence]
        heartbeat := bank.holding[Holding.emsHeartbeat]
        requestedPowerKw := effectivePowerKw bank.holding[Holding.requestedPowerKwX10]
          bank.holding[Holding.commandEnable]
        enabled := bank.holding[Holding.commandEnable] == 1 } := by
  unfold takeCommand
  dsimp only
  rw [if_neg (by simpa [Idle, and_assoc] using moved)]
  simp [effectivePowerKw]

/-- Every delivered command carries the payload registers as they are. -/
theorem takeCommand_power {command : NorthboundCommand}
    (taken : bank.takeCommand.1 = some command) :
    command.requestedPowerKw = effectivePowerKw bank.holding[Holding.requestedPowerKwX10]
      bank.holding[Holding.commandEnable] := by
  by_cases idle : bank.Idle
  · rw [bank.takeCommand_of_idle idle] at taken
    exact absurd taken (by simp)
  · rw [bank.takeCommand_of_not_idle idle] at taken
    rw [← Option.some.inj taken]

theorem publication_addresses (snapshot : ControllerSnapshot)
    (configuredLimit : ConfiguredPowerLimit) :
    (publication snapshot configuredLimit).map Prod.fst =
      List.range 26 ++ [28, 29, 30, 31, 32, 33, 34] := rfl

theorem nodePublication_addresses (base : Nat) (now : SteadyTime) (sample : MbusNodeTelemetry) :
    (nodePublication base now sample).map Prod.fst =
      [0, 1, 2, 3, 4, 5, 6, 7, 8, 9, 10, 11, 13, 12].map (base + ·) := rfl

/-- A publication changes none of the mailboxes. -/
theorem publish_cases (snapshot : ControllerSnapshot) (configuredLimit : ConfiguredPowerLimit) :
    ∃ input, bank.publish snapshot configuredLimit = { bank with input := input } := ⟨_, rfl⟩

theorem publishOperatorResult_cases (sequence result : UInt16) :
    ∃ input, bank.publishOperatorResult sequence result = { bank with input := input } :=
  ⟨_, rfl⟩

theorem publishNode_cases (now : SteadyTime) (slot : Nat) (sample : MbusNodeTelemetry) :
    ∃ input, bank.publishNode now slot sample = { bank with input := input } := by
  unfold publishNode
  split
  · exact ⟨bank.input, rfl⟩
  · exact ⟨_, rfl⟩

/-- A take changes no register. -/
@[simp]
theorem takeCommand_holding : bank.takeCommand.2.holding = bank.holding := by
  unfold takeCommand
  dsimp only
  split <;> rfl

/-! ### What leaves an input register alone -/

theorem writeHolding_input (start : UInt16) (values : List UInt16) :
    (bank.writeHolding start values).2.input = bank.input := by
  unfold writeHolding
  split <;> rfl

theorem takeCommand_input : bank.takeCommand.2.input = bank.input := by
  unfold takeCommand
  dsimp only
  split <;> rfl

theorem takeOperatorCommand_input : bank.takeOperatorCommand.2.input = bank.input := by
  unfold takeOperatorCommand
  dsimp only
  split <;> rfl

theorem takeNodeCommand_input : bank.takeNodeCommand.2.input = bank.input := by
  unfold takeNodeCommand
  dsimp only
  split <;> rfl

theorem input_publish_of_notMem (snapshot : ControllerSnapshot)
    (configuredLimit : ConfiguredPowerLimit) {address : Nat}
    (other : address ∉ List.range 26 ++ [28, 29, 30, 31, 32, 33, 34]) :
    (bank.publish snapshot configuredLimit).input[address]? = bank.input[address]? := by
  apply getElem?_storeWords_of_notMem
  rwa [publication_addresses]

theorem input_publish_of_above (snapshot : ControllerSnapshot)
    (configuredLimit : ConfiguredPowerLimit) {address : Nat} (above : 34 < address) :
    (bank.publish snapshot configuredLimit).input[address]? = bank.input[address]? := by
  apply input_publish_of_notMem
  intro member
  have small : ∀ known ∈ List.range 26 ++ [28, 29, 30, 31, 32, 33, 34], known ≤ 34 := by decide
  exact absurd (small address member) (Nat.not_le_of_lt above)

section Slots

variable (now : SteadyTime) (sample : MbusNodeTelemetry)

theorem publishNode_of_slot {slot : Nat} (inside : slot < 32) :
    bank.publishNode now slot sample =
      { bank with
        input := storeWords bank.input (nodePublication (windowBase slot) now sample) } :=
  if_neg (Nat.not_le_of_lt inside)

theorem publishNode_of_no_slot {slot : Nat} (missing : 32 ≤ slot) :
    bank.publishNode now slot sample = bank := if_pos missing

theorem inSlot_of_published {slot address : Nat}
    (published : address ∈ (nodePublication (windowBase slot) now sample).map Prod.fst) :
    InSlot slot address := by
  rw [nodePublication_addresses] at published
  obtain ⟨offset, listed, rfl⟩ := List.mem_map.mp published
  have small : ∀ known ∈ [0, 1, 2, 3, 4, 5, 6, 7, 8, 9, 10, 11, 13, 12], known < 16 := by decide
  exact ⟨Nat.le_add_right _ _, Nat.add_lt_add_left (small offset listed) _⟩

/-- A publication stores nothing outside the window of its slot. -/
theorem input_publishNode_of_outside {slot address : Nat} (outside : ¬InSlot slot address) :
    (bank.publishNode now slot sample).input[address]? = bank.input[address]? := by
  by_cases inside : slot < 32
  · rw [publishNode_of_slot bank now sample inside]
    apply getElem?_storeWords_of_notMem
    exact fun published => outside (inSlot_of_published now sample published)
  · rw [publishNode_of_no_slot bank now sample (Nat.le_of_not_lt inside)]

end Slots

end NorthboundRegisterBank

end GridexEdge.RockPi
