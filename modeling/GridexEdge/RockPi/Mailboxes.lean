import GridexEdge.Foundation.ChangeDetector
import GridexEdge.RockPi.NorthboundRegisterBank

/-!
The three mailboxes of the northbound bank under any interleaving of writes,
publications and takes.

They share one array of registers and keep a last key each. A `Mailbox` names
the registers, the key and the payload of one of them together with the laws
that make it a change detector.
-/

namespace GridexEdge.RockPi

open GridexEdge.Core Foundation

inductive BankOperation where
  | writeHolding (start : UInt16) (values : List UInt16)
  | publish (snapshot : ControllerSnapshot) (configuredLimit : ConfiguredPowerLimit)
  | publishOperatorResult (sequence result : UInt16)
  | publishNode (now : SteadyTime) (slot : Nat) (sample : MbusNodeTelemetry)
  | takeCommand
  | takeOperatorCommand
  | takeNodeCommand

namespace BankOperation

def isTakeCommand : BankOperation → Bool
  | .takeCommand => true
  | _ => false

def isTakeOperatorCommand : BankOperation → Bool
  | .takeOperatorCommand => true
  | _ => false

def isTakeNodeCommand : BankOperation → Bool
  | .takeNodeCommand => true
  | _ => false

/-- The operation is a write over one of these registers. -/
def writesOver (registers : List (Fin 17)) : BankOperation → Bool
  | .writeHolding start values =>
      registers.any fun address =>
        decide (start.toNat ≤ address ∧ address < start.toNat + values.length)
  | _ => false

end BankOperation

namespace NorthboundRegisterBank

variable (bank : NorthboundRegisterBank)

def perform : BankOperation → NorthboundRegisterBank
  | .writeHolding start values => (bank.writeHolding start values).2
  | .publish snapshot configuredLimit => bank.publish snapshot configuredLimit
  | .publishOperatorResult sequence result => bank.publishOperatorResult sequence result
  | .publishNode now slot sample => bank.publishNode now slot sample
  | .takeCommand => bank.takeCommand.2
  | .takeOperatorCommand => bank.takeOperatorCommand.2
  | .takeNodeCommand => bank.takeNodeCommand.2

/-- The flags a fresh bank starts with. -/
structure Observed : Prop where
  command : bank.commandObserved = true
  operator : bank.operatorCommandObserved = true
  node : bank.nodeCommandObserved = true

theorem observed_fresh : ({} : NorthboundRegisterBank).Observed := ⟨rfl, rfl, rfl⟩

/-- Everything an operation does to the part of the bank the mailboxes use. -/
structure Performed (operation : BankOperation) (after : NorthboundRegisterBank) : Prop where
  observed : after.Observed
  command : (after.lastSequence, after.lastHeartbeat) =
    if operation.isTakeCommand then
      (bank.holdingRegister Holding.commandSequence, bank.holdingRegister Holding.emsHeartbeat)
    else (bank.lastSequence, bank.lastHeartbeat)
  operator : after.lastOperatorSequence =
    if operation.isTakeOperatorCommand then bank.holdingRegister Holding.operatorSequence
    else bank.lastOperatorSequence
  node : after.lastNodeCommandSequence =
    if operation.isTakeNodeCommand then bank.holdingRegister Holding.nodeCommandSequence
    else bank.lastNodeCommandSequence
  holding : after.holding = bank.holding ∨
    ∃ start values, operation = .writeHolding start values ∧
      after.holding = writeRange bank.holding start.toNat values

variable {bank}

theorem performed_of_published (observed : bank.Observed) {operation : BankOperation}
    {input : Vector UInt16 768} (command : operation.isTakeCommand = false)
    (operator : operation.isTakeOperatorCommand = false)
    (node : operation.isTakeNodeCommand = false) :
    bank.Performed operation { bank with input := input } where
  observed := ⟨observed.command, observed.operator, observed.node⟩
  command := by rw [command]; rfl
  operator := by rw [operator]; rfl
  node := by rw [node]; rfl
  holding := .inl rfl

theorem performed_writeHolding (observed : bank.Observed) (start : UInt16)
    (values : List UInt16) :
    bank.Performed (.writeHolding start values) (bank.writeHolding start values).2 := by
  unfold writeHolding
  split
  · exact ⟨observed, rfl, rfl, rfl, .inl rfl⟩
  · exact ⟨⟨observed.command, observed.operator, observed.node⟩, rfl, rfl, rfl,
      .inr ⟨start, values, rfl, rfl⟩⟩

theorem performed_takeCommand (observed : bank.Observed) :
    bank.Performed .takeCommand bank.takeCommand.2 := by
  unfold takeCommand
  dsimp only
  split
  · next idle =>
      simp only [Bool.and_eq_true, beq_iff_eq] at idle
      exact ⟨observed, by simp [BankOperation.isTakeCommand, idle.1.2, idle.2], rfl, rfl, .inl rfl⟩
  · exact ⟨⟨rfl, observed.operator, observed.node⟩, rfl, rfl, rfl, .inl rfl⟩

theorem performed_takeOperatorCommand (observed : bank.Observed) :
    bank.Performed .takeOperatorCommand bank.takeOperatorCommand.2 := by
  unfold takeOperatorCommand
  dsimp only
  split
  · next idle =>
      simp only [Bool.and_eq_true, beq_iff_eq] at idle
      exact ⟨observed, rfl, by simp [BankOperation.isTakeOperatorCommand, idle.2], rfl, .inl rfl⟩
  · exact ⟨⟨observed.command, rfl, observed.node⟩, rfl, rfl, rfl, .inl rfl⟩

theorem performed_takeNodeCommand (observed : bank.Observed) :
    bank.Performed .takeNodeCommand bank.takeNodeCommand.2 := by
  unfold takeNodeCommand
  dsimp only
  split
  · next idle =>
      simp only [Bool.and_eq_true, beq_iff_eq] at idle
      exact ⟨observed, rfl, rfl, by simp [BankOperation.isTakeNodeCommand, idle.2], .inl rfl⟩
  · exact ⟨⟨observed.command, observed.operator, rfl⟩, rfl, rfl, rfl, .inl rfl⟩

theorem Observed.performed (observed : bank.Observed) (operation : BankOperation) :
    bank.Performed operation (bank.perform operation) := by
  cases operation with
  | writeHolding start values => exact performed_writeHolding observed start values
  | publish snapshot configuredLimit =>
      obtain ⟨input, published⟩ := bank.publish_cases snapshot configuredLimit
      rw [perform, published]
      exact performed_of_published observed rfl rfl rfl
  | publishOperatorResult sequence result =>
      obtain ⟨input, published⟩ := bank.publishOperatorResult_cases sequence result
      rw [perform, published]
      exact performed_of_published observed rfl rfl rfl
  | publishNode now slot sample =>
      obtain ⟨input, published⟩ := bank.publishNode_cases now slot sample
      rw [perform, published]
      exact performed_of_published observed rfl rfl rfl
  | takeCommand => exact performed_takeCommand observed
  | takeOperatorCommand => exact performed_takeOperatorCommand observed
  | takeNodeCommand => exact performed_takeNodeCommand observed

/-- Only a write over a register changes it. -/
theorem Performed.untouched {operation : BankOperation} {after : NorthboundRegisterBank}
    (performed : bank.Performed operation after) {registers : List (Fin 17)}
    (elsewhere : operation.writesOver registers = false) :
    ∀ address ∈ registers, after.holdingRegister address = bank.holdingRegister address := by
  intro address listed
  rcases performed.holding with same | ⟨start, values, rfl, stored⟩
  · rw [holdingRegister, same]
  · rw [holdingRegister, stored]
    have outside := (List.any_eq_false.mp elsewhere) address listed
    simp only [decide_eq_true_eq, not_and_or] at outside
    exact getElem_writeRange_of_outside _ _ (by omega)

end NorthboundRegisterBank

/-! ### Mailboxes -/

namespace NorthboundRegisterBank

/-- Two banks hold the same words in some registers. -/
def AgreeOn (registers : List (Fin 17)) (bank other : NorthboundRegisterBank) : Prop :=
  ∀ address ∈ registers, bank.holdingRegister address = other.holdingRegister address

theorem AgreeOn.perform {registers : List (Fin 17)} {bank other : NorthboundRegisterBank}
    (agree : AgreeOn registers bank other) (observed : bank.Observed)
    (otherObserved : other.Observed) (operation : BankOperation) :
    AgreeOn registers (bank.perform operation) (other.perform operation) := by
  cases written : operation.writesOver registers with
  | false =>
      intro address listed
      have same := (observed.performed operation).untouched written address listed
      have sameOther := (otherObserved.performed operation).untouched written address listed
      exact same.trans ((agree address listed).trans sameOther.symm)
  | true =>
      cases operation with
      | writeHolding start values =>
          unfold NorthboundRegisterBank.perform writeHolding
          dsimp only
          split
          · exact agree
          · intro address listed
            have before := agree address listed
            simp only [holdingRegister, Fin.getElem_fin] at before ⊢
            rw [getElem_writeRange, getElem_writeRange, before]
      | _ => exact absurd written Bool.false_ne_true

end NorthboundRegisterBank

/-- One of the mailboxes: its registers, its take, and the key, the payload and the
last key as functions of the bank. -/
structure Mailbox (Key Command : Type) [DecidableEq Key] where
  registers : List (Fin 17)
  takes : BankOperation → Bool
  take : NorthboundRegisterBank → Option Command
  key : NorthboundRegisterBank → Key
  decode : NorthboundRegisterBank → Command
  keyOf : Command → Key
  seen : NorthboundRegisterBank → Key
  keyOf_decode : ∀ bank, keyOf (decode bank) = key bank
  local_key : ∀ bank other, NorthboundRegisterBank.AgreeOn registers bank other →
    key bank = key other
  local_decode : ∀ bank other, NorthboundRegisterBank.AgreeOn registers bank other →
    decode bank = decode other
  take_exact : ∀ bank, bank.Observed →
    take bank = if key bank = seen bank then none else some (decode bank)
  seen_performed : ∀ bank operation after, bank.Performed operation after →
    seen after = if takes operation then key bank else seen bank

namespace Mailbox

variable {Key Command : Type} [DecidableEq Key] (mailbox : Mailbox Key Command)

/-- What the takes of a run return, from a fresh bank. -/
def answers (operations : List BankOperation) : List (Option Command) :=
  outputs NorthboundRegisterBank.perform
    (fun bank operation => if mailbox.takes operation then [mailbox.take bank] else [])
    {} operations

/-- The bank as each of these takes finds it. -/
def views (operations : List BankOperation) : List NorthboundRegisterBank :=
  outputs NorthboundRegisterBank.perform
    (fun bank operation => if mailbox.takes operation then [bank] else []) {} operations

/-- Takes of this mailbox and writes over its registers. -/
def concerns (operation : BankOperation) : Bool :=
  mailbox.takes operation || operation.writesOver mailbox.registers

/-- The keys delivered are the keys present at the takes without consecutive
repeats, each with the payload of that take; and nothing else in the run matters. -/
structure ExactlyOnce (first : Key) (operations : List BankOperation) : Prop where
  keys : first :: (mailbox.answers operations).reduceOption.map mailbox.keyOf =
    (first :: (mailbox.views operations).map mailbox.key).destutter (· ≠ ·)
  payloads : mailbox.answers operations =
    deliveries mailbox.key mailbox.decode first (mailbox.views operations)
  isolated : mailbox.answers operations =
    mailbox.answers (operations.filter mailbox.concerns)

variable {mailbox}

theorem answers_eq_deliveries (operations : List BankOperation) :
    mailbox.answers operations =
      deliveries mailbox.key mailbox.decode (mailbox.seen {}) (mailbox.views operations) :=
  outputs_takes NorthboundRegisterBank.perform mailbox.key mailbox.decode id mailbox.seen
    mailbox.takes mailbox.take NorthboundRegisterBank.Observed
    (fun _ operation observed => observed.performed operation |>.observed)
    (fun bank observed => mailbox.take_exact bank observed)
    (fun bank operation observed =>
      mailbox.seen_performed bank operation _ (observed.performed operation))
    NorthboundRegisterBank.observed_fresh operations

/-- Two runs that differ in what does not concern the mailbox. -/
structure Related (mailbox : Mailbox Key Command) (bank other : NorthboundRegisterBank) :
    Prop where
  registers : NorthboundRegisterBank.AgreeOn mailbox.registers bank other
  seen : mailbox.seen bank = mailbox.seen other
  observed : bank.Observed
  otherObserved : other.Observed

theorem Related.take {bank other : NorthboundRegisterBank} (related : mailbox.Related bank other) :
    mailbox.take bank = mailbox.take other := by
  rw [mailbox.take_exact bank related.observed, mailbox.take_exact other related.otherObserved,
    related.seen, mailbox.local_key bank other related.registers,
    mailbox.local_decode bank other related.registers]

theorem answers_filter (operations : List BankOperation) :
    mailbox.answers operations = mailbox.answers (operations.filter mailbox.concerns) := by
  apply outputs_filter NorthboundRegisterBank.perform _ mailbox.Related
  · intro bank other operation related _
    have performed := related.observed.performed operation
    have otherPerformed := related.otherObserved.performed operation
    refine ⟨by rw [related.take], ?_, ?_, performed.observed, otherPerformed.observed⟩
    · exact related.registers.perform related.observed related.otherObserved operation
    · rw [mailbox.seen_performed _ _ _ performed, mailbox.seen_performed _ _ _ otherPerformed,
        mailbox.local_key bank other related.registers, related.seen]
  · intro bank other operation related unconcerned
    rw [concerns, Bool.or_eq_false_iff] at unconcerned
    have performed := related.observed.performed operation
    refine ⟨by simp [unconcerned.1], ?_, ?_, performed.observed, related.otherObserved⟩
    · intro address listed
      exact (performed.untouched unconcerned.2 address listed).trans
        (related.registers address listed)
    · rw [mailbox.seen_performed _ _ _ performed, unconcerned.1]
      exact related.seen
  · exact ⟨fun _ _ => rfl, rfl, NorthboundRegisterBank.observed_fresh,
      NorthboundRegisterBank.observed_fresh⟩

theorem exactlyOnce {first : Key} (initial : mailbox.seen {} = first)
    (operations : List BankOperation) : mailbox.ExactlyOnce first operations where
  keys := by
    rw [answers_eq_deliveries, initial]
    exact deliveries_keys _ _ mailbox.keyOf mailbox.keyOf_decode first _
  payloads := by rw [answers_eq_deliveries, initial]
  isolated := answers_filter operations

end Mailbox

/-! ### The three of them -/

open NorthboundRegisterBank

def commandMailbox : Mailbox (UInt16 × UInt16) NorthboundCommand where
  registers := [Holding.commandSequence, Holding.requestedPowerKwX10, Holding.commandEnable,
    Holding.emsHeartbeat]
  takes := BankOperation.isTakeCommand
  take := fun bank => bank.takeCommand.1
  key := fun bank =>
    (bank.holdingRegister Holding.commandSequence, bank.holdingRegister Holding.emsHeartbeat)
  decode := fun bank =>
    { sequence := bank.holdingRegister Holding.commandSequence
      heartbeat := bank.holdingRegister Holding.emsHeartbeat
      requestedPowerKw := effectivePowerKw (bank.holdingRegister Holding.requestedPowerKwX10)
        (bank.holdingRegister Holding.commandEnable)
      enabled := bank.holdingRegister Holding.commandEnable == 1 }
  keyOf := fun command => (command.sequence, command.heartbeat)
  seen := fun bank => (bank.lastSequence, bank.lastHeartbeat)
  keyOf_decode := fun _ => rfl
  local_key := by
    intro bank other agree
    rw [agree _ (by simp), agree _ (by simp)]
  local_decode := by
    intro bank other agree
    rw [agree Holding.commandSequence (by simp), agree Holding.requestedPowerKwX10 (by simp),
      agree Holding.commandEnable (by simp), agree Holding.emsHeartbeat (by simp)]
  take_exact := by
    intro bank observed
    by_cases idle : bank.Idle
    · rw [bank.takeCommand_of_idle idle, if_pos (Prod.ext idle.2.1 idle.2.2)]
    · rw [bank.takeCommand_of_not_idle idle, if_neg]
      intro same
      exact idle ⟨observed.command, congrArg Prod.fst same, congrArg Prod.snd same⟩
  seen_performed := fun _ _ _ performed => performed.command

def operatorMailbox : Mailbox UInt16 NorthboundOperatorCommand where
  registers := [Holding.operatorSequence, Holding.operatorActionMask, Holding.requestedRunState,
    Holding.requestedReactivePowerKvarX10, Holding.requestedSocUpperPct,
    Holding.requestedSocLowerPct, Holding.operatorApplyKey]
  takes := BankOperation.isTakeOperatorCommand
  take := fun bank => bank.takeOperatorCommand.1
  key := fun bank => bank.holdingRegister Holding.operatorSequence
  decode := fun bank =>
    { sequence := bank.holdingRegister Holding.operatorSequence
      actionMask := bank.holdingRegister Holding.operatorActionMask
      requestedRunState := bank.holdingRegister Holding.requestedRunState
      requestedReactivePowerKvar :=
        (signed (bank.holdingRegister Holding.requestedReactivePowerKvarX10) : ℚ) / 10
      requestedSocUpperPct := (bank.holdingRegister Holding.requestedSocUpperPct).toNat
      requestedSocLowerPct := (bank.holdingRegister Holding.requestedSocLowerPct).toNat
      authorized :=
        bank.holdingRegister Holding.operatorApplyKey == Northbound.operatorApplyKeyValue }
  keyOf := fun command => command.sequence
  seen := fun bank => bank.lastOperatorSequence
  keyOf_decode := fun _ => rfl
  local_key := by
    intro bank other agree
    rw [agree _ (by simp)]
  local_decode := by
    intro bank other agree
    rw [agree Holding.operatorSequence (by simp), agree Holding.operatorActionMask (by simp),
      agree Holding.requestedRunState (by simp),
      agree Holding.requestedReactivePowerKvarX10 (by simp),
      agree Holding.requestedSocUpperPct (by simp), agree Holding.requestedSocLowerPct (by simp),
      agree Holding.operatorApplyKey (by simp)]
  take_exact := by
    intro bank observed
    unfold takeOperatorCommand
    simp only [observed.operator, Bool.true_and, beq_iff_eq]
    split
    · rfl
    · rfl
  seen_performed := fun _ _ _ performed => performed.operator

def nodeMailbox : Mailbox UInt16 NorthboundNodeCommand where
  registers := [Holding.nodeCommandSequence, Holding.nodeCommandTargetSlot,
    Holding.nodeRequestedPowerKwX10, Holding.nodeCommandEnable, Holding.nodeCommandTtlSeconds,
    Holding.nodeCommandApplyKey]
  takes := BankOperation.isTakeNodeCommand
  take := fun bank => bank.takeNodeCommand.1
  key := fun bank => bank.holdingRegister Holding.nodeCommandSequence
  decode := fun bank =>
    { sequence := bank.holdingRegister Holding.nodeCommandSequence
      targetSlot := (bank.holdingRegister Holding.nodeCommandTargetSlot).toNat
      requestedPowerKw :=
        (signed (bank.holdingRegister Holding.nodeRequestedPowerKwX10) : ℚ) / 10
      ttlSeconds := bank.holdingRegister Holding.nodeCommandTtlSeconds
      enabled := bank.holdingRegister Holding.nodeCommandEnable == 1
      authorized :=
        bank.holdingRegister Holding.nodeCommandApplyKey == Northbound.operatorApplyKeyValue }
  keyOf := fun command => command.sequence
  seen := fun bank => bank.lastNodeCommandSequence
  keyOf_decode := fun _ => rfl
  local_key := by
    intro bank other agree
    rw [agree _ (by simp)]
  local_decode := by
    intro bank other agree
    rw [agree Holding.nodeCommandSequence (by simp),
      agree Holding.nodeCommandTargetSlot (by simp),
      agree Holding.nodeRequestedPowerKwX10 (by simp), agree Holding.nodeCommandEnable (by simp),
      agree Holding.nodeCommandTtlSeconds (by simp), agree Holding.nodeCommandApplyKey (by simp)]
  take_exact := by
    intro bank observed
    unfold takeNodeCommand
    simp only [observed.node, Bool.true_and, beq_iff_eq]
    split
    · rfl
    · rfl
  seen_performed := fun _ _ _ performed => performed.node

/-- From a fresh bank, under every interleaving of all operations, each mailbox
delivers exactly once for every change of its key that its takes can see. -/
theorem mailboxes_exactly_once (operations : List BankOperation) :
    commandMailbox.ExactlyOnce (0, 0) operations ∧ operatorMailbox.ExactlyOnce 0 operations ∧
      nodeMailbox.ExactlyOnce 0 operations :=
  ⟨Mailbox.exactlyOnce rfl operations, Mailbox.exactlyOnce rfl operations,
    Mailbox.exactlyOnce rfl operations⟩

end GridexEdge.RockPi
