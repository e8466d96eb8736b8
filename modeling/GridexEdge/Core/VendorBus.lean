import GridexEdge.Core.Types
import Mathlib.Data.List.Infix

/-!
The vendor side of the gateway: the Modbus client interface, the STE-261L
register numbers, one complete poll, and the bus on which they happen.

The bus carries a ghost history, newest first. No function of the model reads
it; the queries at the end give the properties of a run their vocabulary.
-/

namespace GridexEdge.Core

/-- A Modbus client over a device of any kind. A read may fail or return any
value, a write may be acknowledged or not, and each may change the device. -/
structure IModbusClient (Device : Type) where
  readInput : UInt16 → Device → Option UInt16 × Device
  readInputRange : UInt16 → UInt16 → Device → Option (List UInt16) × Device
  readHolding : UInt16 → Device → Option UInt16 × Device
  readCoil : UInt16 → Device → Option Bool × Device
  writeHolding : UInt16 → UInt16 → Device → Bool × Device

namespace Registers

abbrev pcsFault : UInt16 := 1
abbrev pcsOffGrid : UInt16 := 2
abbrev pcsWarning : UInt16 := 3
abbrev pcsCommunicationFault : UInt16 := 4
abbrev pcsActivePower : UInt16 := 9
abbrev pcsReactivePower : UInt16 := 10
abbrev pcsDcPower : UInt16 := 12
abbrev pcsFrequency : UInt16 := 13
abbrev pcsCommandedPower : UInt16 := 14
abbrev pcsStatus : UInt16 := 16
abbrev bmsCurrent : UInt16 := 101
abbrev bmsSoc : UInt16 := 102
abbrev bmsSoh : UInt16 := 103
abbrev bmsVoltage : UInt16 := 104
abbrev bmsStatus : UInt16 := 105
abbrev bmsAccumulatedChargeEnergy : UInt16 := 122
abbrev bmsSystemFlags : UInt16 := 126
abbrev bmsMaxChargePower : UInt16 := 127
abbrev bmsMaxDischargePower : UInt16 := 128
abbrev bmsDailyChargeEnergy : UInt16 := 129
abbrev bmsDailyDischargeEnergy : UInt16 := 130
abbrev bmsAlarm : UInt16 := 183
abbrev bmsFault : UInt16 := 184
abbrev bmsCommunicationFault : UInt16 := 185
abbrev pcsGridMode : UInt16 := 5001
abbrev pcsWorkMode : UInt16 := 5002
abbrev pcsPowerOn : UInt16 := 5003
abbrev pcsPowerCommand : UInt16 := 5005
abbrev pcsReactivePowerCommand : UInt16 := 5006
abbrev pcsSocUpperLimit : UInt16 := 5007
abbrev pcsSocLowerLimit : UInt16 := 5008
abbrev heartbeatSeconds : UInt16 := 5301
abbrev heartbeatEnable : UInt16 := 5302

end Registers

/-- The outcome of every read of one poll. -/
structure PollReads where
  pcsFault : Option Bool
  pcsOffGrid : Option Bool
  pcsWarning : Option Bool
  pcsCommunicationFault : Option Bool
  bmsAlarm : Option Bool
  bmsFault : Option Bool
  bmsCommunicationFault : Option Bool
  pcsGridMode : Option UInt16
  pcsWorkMode : Option UInt16
  pcsPowerOn : Option UInt16
  socUpperLimit : Option UInt16
  socLowerLimit : Option UInt16
  actualPower : Option UInt16
  reactivePower : Option UInt16
  dcPower : Option UInt16
  frequency : Option UInt16
  commandedPower : Option UInt16
  pcsStatus : Option UInt16
  current : Option UInt16
  soc : Option UInt16
  soh : Option UInt16
  voltage : Option UInt16
  status : Option UInt16
  accumulatedEnergy : Option (List UInt16)
  systemFlags : Option UInt16
  maxCharge : Option UInt16
  maxDischarge : Option UInt16
  dailyCharge : Option UInt16
  dailyDischarge : Option UInt16

/-- The seventeen reads without which a poll is refused. -/
structure MandatoryReads where
  pcsFault : Bool
  pcsOffGrid : Bool
  pcsCommunicationFault : Bool
  bmsFault : Bool
  bmsCommunicationFault : Bool
  pcsGridMode : UInt16
  pcsWorkMode : UInt16
  pcsPowerOn : UInt16
  actualPower : UInt16
  current : UInt16
  soc : UInt16
  soh : UInt16
  voltage : UInt16
  status : UInt16
  systemFlags : UInt16
  maxCharge : UInt16
  maxDischarge : UInt16

def PollReads.mandatory (reads : PollReads) : Option MandatoryReads := do
  let pcsFault ← reads.pcsFault
  let pcsOffGrid ← reads.pcsOffGrid
  let pcsCommunicationFault ← reads.pcsCommunicationFault
  let bmsFault ← reads.bmsFault
  let bmsCommunicationFault ← reads.bmsCommunicationFault
  let pcsGridMode ← reads.pcsGridMode
  let pcsWorkMode ← reads.pcsWorkMode
  let pcsPowerOn ← reads.pcsPowerOn
  let actualPower ← reads.actualPower
  let current ← reads.current
  let soc ← reads.soc
  let soh ← reads.soh
  let voltage ← reads.voltage
  let status ← reads.status
  let systemFlags ← reads.systemFlags
  let maxCharge ← reads.maxCharge
  let maxDischarge ← reads.maxDischarge
  return {
    pcsFault, pcsOffGrid, pcsCommunicationFault, bmsFault, bmsCommunicationFault
    pcsGridMode, pcsWorkMode, pcsPowerOn, actualPower, current, soc, soh, voltage
    status, systemFlags, maxCharge, maxDischarge }

section Reading

variable {Device : Type} (client : IModbusClient Device)

/-- The reads of one poll in the order the driver issues them. The four energy
words come from one request, so that both counters show the same instant. -/
def readPoll : StateM Device PollReads := do
  let pcsFault ← client.readCoil Registers.pcsFault
  let pcsOffGrid ← client.readCoil Registers.pcsOffGrid
  let pcsWarning ← client.readCoil Registers.pcsWarning
  let pcsCommunicationFault ← client.readCoil Registers.pcsCommunicationFault
  let bmsAlarm ← client.readCoil Registers.bmsAlarm
  let bmsFault ← client.readCoil Registers.bmsFault
  let bmsCommunicationFault ← client.readCoil Registers.bmsCommunicationFault
  let pcsGridMode ← client.readHolding Registers.pcsGridMode
  let pcsWorkMode ← client.readHolding Registers.pcsWorkMode
  let pcsPowerOn ← client.readHolding Registers.pcsPowerOn
  let socUpperLimit ← client.readHolding Registers.pcsSocUpperLimit
  let socLowerLimit ← client.readHolding Registers.pcsSocLowerLimit
  let actualPower ← client.readInput Registers.pcsActivePower
  let reactivePower ← client.readInput Registers.pcsReactivePower
  let dcPower ← client.readInput Registers.pcsDcPower
  let frequency ← client.readInput Registers.pcsFrequency
  let commandedPower ← client.readInput Registers.pcsCommandedPower
  let pcsStatus ← client.readInput Registers.pcsStatus
  let current ← client.readInput Registers.bmsCurrent
  let soc ← client.readInput Registers.bmsSoc
  let soh ← client.readInput Registers.bmsSoh
  let voltage ← client.readInput Registers.bmsVoltage
  let status ← client.readInput Registers.bmsStatus
  let accumulatedEnergy ← client.readInputRange Registers.bmsAccumulatedChargeEnergy 4
  let systemFlags ← client.readInput Registers.bmsSystemFlags
  let maxCharge ← client.readInput Registers.bmsMaxChargePower
  let maxDischarge ← client.readInput Registers.bmsMaxDischargePower
  let dailyCharge ← client.readInput Registers.bmsDailyChargeEnergy
  let dailyDischarge ← client.readInput Registers.bmsDailyDischargeEnergy
  return {
    pcsFault, pcsOffGrid, pcsWarning, pcsCommunicationFault, bmsAlarm, bmsFault
    bmsCommunicationFault, pcsGridMode, pcsWorkMode, pcsPowerOn, socUpperLimit
    socLowerLimit, actualPower, reactivePower, dcPower, frequency, commandedPower
    pcsStatus, current, soc, soh, voltage, status, accumulatedEnergy, systemFlags
    maxCharge, maxDischarge, dailyCharge, dailyDischarge }

end Reading

/-- What the gateway did. Commands carry the power and enable registers as they
were when the mailbox was read. -/
inductive Occurrence where
  | command (receivedAt : SteadyTime) (power enable : UInt16)
  | tick (now : SteadyTime)
  | poll (reads : PollReads)
  | write (address value : UInt16) (acknowledged : Bool)

structure Bus (Device : Type) where
  device : Device
  history : List Occurrence := []

namespace Bus

variable {Device : Type} (client : IModbusClient Device) (bus : Bus Device)

def note (occurrence : Occurrence) : Bus Device :=
  { bus with history := occurrence :: bus.history }

def poll : PollReads × Bus Device :=
  let answer := readPoll client bus.device
  (answer.1, { device := answer.2, history := .poll answer.1 :: bus.history })

def readHolding (address : UInt16) : Option UInt16 × Bus Device :=
  let answer := client.readHolding address bus.device
  (answer.1, { bus with device := answer.2 })

def write (address value : UInt16) : Bool × Bus Device :=
  let answer := client.writeHolding address value bus.device
  (answer.1, { device := answer.2, history := .write address value answer.1 :: bus.history })

@[simp]
theorem write_history (address value : UInt16) :
    (bus.write client address value).2.history =
      .write address value (bus.write client address value).1 :: bus.history := rfl

end Bus

/-! ### Reading a history -/

/-- The reads of the most recent poll. -/
def lastPoll : List Occurrence → Option PollReads
  | [] => none
  | .poll reads :: _ => some reads
  | _ :: earlier => lastPoll earlier

/-- A stop of the PCS has been acknowledged since the most recent poll. -/
def stoppedSincePoll : List Occurrence → Bool
  | [] => false
  | .poll _ :: _ => false
  | .write address value acknowledged :: earlier =>
      (address == Registers.pcsPowerOn && value == 0 && acknowledged) || stoppedSincePoll earlier
  | _ :: earlier => stoppedSincePoll earlier

/-- The time of the loop iteration under way. -/
def currentTime : List Occurrence → Option SteadyTime
  | [] => none
  | .tick now :: _ => some now
  | _ :: earlier => currentTime earlier

/-- When the latest command was received, and its power and enable registers. -/
def latestCommand : List Occurrence → Option (SteadyTime × UInt16 × UInt16)
  | [] => none
  | .command receivedAt power enable :: _ => some (receivedAt, power, enable)
  | _ :: earlier => latestCommand earlier

/-- Both heartbeat registers were written and acknowledged in the iteration of
this time. -/
def HeartbeatAcknowledgedAt (history : List Occurrence) (time : SteadyTime) : Prop :=
  ∃ earlier,
    (.write Registers.heartbeatSeconds 60 true ::
      .write Registers.heartbeatEnable 1 true :: earlier) <:+ history ∧
    currentTime earlier = some time

/-- What a register that starts at zero and keeps acknowledged writes holds. -/
def writtenValue (register : UInt16) : List Occurrence → UInt16
  | [] => 0
  | .write address value true :: earlier =>
      if address = register then value else writtenValue register earlier
  | _ :: earlier => writtenValue register earlier

/-- What a history has gained. -/
def since (before after : List Occurrence) : List Occurrence :=
  after.take (after.length - before.length)

def Occurrence.Acknowledged : Occurrence → Prop
  | .write _ _ acknowledged => acknowledged = true
  | _ => True

instance decidableAcknowledged : ∀ occurrence : Occurrence, Decidable occurrence.Acknowledged
  | .command _ _ _ => .isTrue trivial
  | .tick _ => .isTrue trivial
  | .poll _ => .isTrue trivial
  | .write _ _ acknowledged => inferInstanceAs (Decidable (acknowledged = true))

/-- The value and outcome of a setpoint write. -/
def Occurrence.setpoint? : Occurrence → Option (UInt16 × Bool)
  | .write address value acknowledged =>
      if address = Registers.pcsPowerCommand then some (value, acknowledged) else none
  | _ => none

def setpointWrites (history : List Occurrence) : List (UInt16 × Bool) :=
  history.filterMap Occurrence.setpoint?

@[simp]
theorem since_append (added history : List Occurrence) :
    since history (added ++ history) = added := by
  simp [since]

theorem HeartbeatAcknowledgedAt.cons {history : List Occurrence} {time : SteadyTime}
    (acknowledged : HeartbeatAcknowledgedAt history time) (occurrence : Occurrence) :
    HeartbeatAcknowledgedAt (occurrence :: history) time := by
  obtain ⟨earlier, suffix, reached⟩ := acknowledged
  exact ⟨earlier, suffix.trans (List.suffix_cons _ _), reached⟩

theorem stoppedSincePoll_write {address value : UInt16} {acknowledged : Bool}
    {history : List Occurrence} (other : address ≠ Registers.pcsPowerOn) :
    stoppedSincePoll (.write address value acknowledged :: history) =
      stoppedSincePoll history := by
  simp [stoppedSincePoll, other]

theorem writtenValue_write_of_ne {register address value : UInt16} {acknowledged : Bool}
    {history : List Occurrence} (other : address ≠ register) :
    writtenValue register (.write address value acknowledged :: history) =
      writtenValue register history := by
  cases acknowledged <;> simp [writtenValue, other]

end GridexEdge.Core
