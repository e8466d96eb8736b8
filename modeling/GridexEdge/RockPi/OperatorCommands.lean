import GridexEdge.Core.AcknowledgedWrites
import GridexEdge.Core.ZeroFallback
import GridexEdge.RockPi.MainLoop
import GridexEdge.RockPi.Mailboxes

/-!
Operator commands: each one is processed once, refused without a write unless it
is authorized and valid, and answered with the truth about its writes.
-/

namespace GridexEdge.RockPi

open GridexEdge.Core Foundation

/-- The writes of the actions in a mask, with the requested register values. -/
def actionWrites (mask runState socUpper socLower reactivePower : UInt16) :
    List (UInt16 × UInt16) :=
  (if mask &&& Action.runState ≠ 0 then
    if runState = 1 then [(Registers.pcsPowerOn, 1)]
    else [(Registers.pcsPowerCommand, 0), (Registers.pcsPowerOn, 0)]
  else []) ++
  (if mask &&& Action.socLimits ≠ 0 then
    [(Registers.pcsSocUpperLimit, socUpper), (Registers.pcsSocLowerLimit, socLower)]
  else []) ++
  if mask &&& Action.reactivePower ≠ 0 then
    [(Registers.pcsReactivePowerCommand, reactivePower)]
  else []

/-- What the operator registers of a bank ask for. -/
def requestedWrites (bank : NorthboundRegisterBank) : List (UInt16 × UInt16) :=
  actionWrites (bank.holdingRegister Holding.operatorActionMask)
    (bank.holdingRegister Holding.requestedRunState)
    (bank.holdingRegister Holding.requestedSocUpperPct)
    (bank.holdingRegister Holding.requestedSocLowerPct)
    (bank.holdingRegister Holding.requestedReactivePowerKvarX10)

/-- The mask asks for something, for nothing unknown, and for no run state above one. -/
def ValidRequest (bank : NorthboundRegisterBank) : Prop :=
  bank.holdingRegister Holding.operatorActionMask ≠ 0 ∧
    bank.holdingRegister Holding.operatorActionMask &&& ~~~Action.all = 0 ∧
    (bank.holdingRegister Holding.operatorActionMask &&& Action.runState ≠ 0 →
      bank.holdingRegister Holding.requestedRunState ≤ 1)

section Actions

variable {Device : Type} {client : IModbusClient Device} {register : Device → UInt16 → UInt16}
  (keeps : KeepsWrites client register) (driver : SunStoragePro261Driver) (bus : Bus Device)

theorem Wrote.optional {required : List (UInt16 × UInt16)} {result : Bool × Bus Device}
    (condition : Prop) [Decidable condition] (wrote : Wrote register required bus result) :
    Wrote register (if condition then required else []) bus
      (if condition then result else (true, bus)) := by
  split
  · exact wrote
  · exact .skipped bus

theorem encodeSigned_pct {raw : UInt16} (inside : raw.toNat ≤ 100) :
    encodeSigned (raw.toNat : ℚ) 1 = raw := by
  have decoded : (raw.toNat : ℚ) = decodeSigned raw 1 := by
    rw [decodeSigned, signed_of_lt (by omega), div_one]
    norm_cast
  rw [decoded]
  exact encodeSigned_decodeSigned raw (by norm_num)

include keeps

/-- Limits that are accepted are whole percentages, which the registers hold exactly. -/
theorem writeSocLimitsPct_words (lower upper : UInt16) :
    Wrote register [(Registers.pcsSocUpperLimit, upper), (Registers.pcsSocLowerLimit, lower)] bus
      (driver.writeSocLimitsPct client lower.toNat upper.toNat bus) := by
  by_cases accepted : upper.toNat ≤ 100 ∧ lower.toNat < upper.toNat
  · have wrote := driver.writeSocLimitsPct_wrote keeps bus lower.toNat upper.toNat
    rw [encodeSigned_pct accepted.1, encodeSigned_pct (by omega)] at wrote
    exact wrote
  · have refused : driver.writeSocLimitsPct client lower.toNat upper.toNat bus = (false, bus) := by
      unfold SunStoragePro261Driver.writeSocLimitsPct
      rw [if_pos]
      simp only [Bool.or_eq_true, decide_eq_true_eq]
      rcases not_and_or.mp accepted with high | inverted
      · exact .inl (.inr (by exact_mod_cast Nat.lt_of_not_le high))
      · exact .inr (by exact_mod_cast Nat.le_of_not_lt inverted)
    rw [refused]
    exact .refused bus (by simp)

/-- The three actions of a command, each over registers of its own. -/
theorem applyOperation_wrote {operation : NorthboundOperatorCommand}
    {socUpper socLower reactivePower : UInt16}
    (upper : operation.requestedSocUpperPct = socUpper.toNat)
    (lower : operation.requestedSocLowerPct = socLower.toNat)
    (kvar : operation.requestedReactivePowerKvar = (signed reactivePower : ℚ) / 10) :
    Wrote register
      (actionWrites operation.actionMask operation.requestedRunState socUpper socLower
        reactivePower) bus
      ((applyOperation client operation driver bus).1,
        (applyOperation client operation driver bus).2.2) := by
  unfold applyOperation actionWrites
  dsimp only
  generalize poweredEq : (if operation.actionMask &&& Action.runState ≠ 0 then
    driver.writePowerState client (operation.requestedRunState == 1) bus
    else (true, driver, bus)) = powered
  have power : Wrote register
      (if operation.actionMask &&& Action.runState ≠ 0 then
        if operation.requestedRunState = 1 then [(Registers.pcsPowerOn, 1)]
        else [(Registers.pcsPowerCommand, 0), (Registers.pcsPowerOn, 0)]
      else []) bus (powered.1, powered.2.2) := by
    rw [← poweredEq]
    by_cases asked : operation.actionMask &&& Action.runState ≠ 0
    · have wrote := driver.writePowerState_wrote keeps bus (operation.requestedRunState == 1)
      rw [if_pos asked, if_pos asked]
      simpa only [SunStoragePro261Driver.powerStateWrites, beq_iff_eq] using wrote
    · rw [if_neg asked, if_neg asked]
      exact .skipped bus
  rw [upper, lower, kvar]
  have limits := Wrote.optional powered.2.2 (operation.actionMask &&& Action.socLimits ≠ 0)
    (writeSocLimitsPct_words keeps powered.2.1 powered.2.2 socLower socUpper)
  generalize (if operation.actionMask &&& Action.socLimits ≠ 0 then
    powered.2.1.writeSocLimitsPct client socLower.toNat socUpper.toNat powered.2.2
    else (true, powered.2.2)) = limited at limits ⊢
  have wrote := powered.2.1.writeReactivePowerSetpointKvar_wrote keeps limited.2
    ((signed reactivePower : ℚ) / 10)
  have encoded : encodeSigned ((signed reactivePower : ℚ) / 10) 10 = reactivePower :=
    encodeSigned_decodeSigned reactivePower (by norm_num)
  rw [encoded] at wrote
  have reactive := Wrote.optional limited.2
    (operation.actionMask &&& Action.reactivePower ≠ 0) wrote
  have powerLimits := power.both limits (addresses_disjoint (by split_ifs <;> rfl))
  exact powerLimits.both reactive (addresses_disjoint (by split_ifs <;> rfl))

/-- What the processing of a command does, from the operator registers it was taken
from: nothing without the key or for an invalid request, and a success if and only
if every requested write was acknowledged, which the vendor's registers then hold. -/
structure Truthful (register : Device → UInt16 → UInt16) (bank : NorthboundRegisterBank)
    (before after : Bus Device) (result : UInt16) : Prop where
  unauthorized : bank.holdingRegister Holding.operatorApplyKey ≠ Northbound.operatorApplyKeyValue →
    result = 2 ∧ after = before
  invalid : bank.holdingRegister Holding.operatorApplyKey = Northbound.operatorApplyKeyValue →
    ¬ValidRequest bank → result = 3 ∧ after = before
  acknowledged : ∃ sent, after.history = sent ++ before.history ∧
    (result = 1 ↔
      bank.holdingRegister Holding.operatorApplyKey = Northbound.operatorApplyKeyValue ∧
        ValidRequest bank ∧ ∀ write ∈ requestedWrites bank, .write write.1 write.2 true ∈ sent)
  holds : result = 1 → ∀ write ∈ requestedWrites bank, register after.device write.1 = write.2

omit keeps in
/-- A refusal with the code of its reason, before anything was written. -/
theorem Truthful.refused {bank : NorthboundRegisterBank} {result : UInt16}
    (unauthorized : bank.holdingRegister Holding.operatorApplyKey ≠
      Northbound.operatorApplyKeyValue → result = 2)
    (invalid : bank.holdingRegister Holding.operatorApplyKey = Northbound.operatorApplyKeyValue →
      ¬ValidRequest bank → result = 3)
    (reason : ¬(bank.holdingRegister Holding.operatorApplyKey =
      Northbound.operatorApplyKeyValue ∧ ValidRequest bank)) :
    Truthful register bank bus bus result := by
  have failed : result ≠ 1 := by
    intro success
    by_cases authorized :
        bank.holdingRegister Holding.operatorApplyKey = Northbound.operatorApplyKeyValue
    · have three := invalid authorized fun valid => reason ⟨authorized, valid⟩
      exact absurd (success.symm.trans three) (by decide)
    · have two := unauthorized authorized
      exact absurd (success.symm.trans two) (by decide)
  constructor
  · exact fun wrong => ⟨unauthorized wrong, rfl⟩
  · exact fun right bad => ⟨invalid right bad, rfl⟩
  · refine ⟨[], rfl, fun success => absurd success failed, fun all => ?_⟩
    exact absurd ⟨all.1, all.2.1⟩ reason
  · exact fun success => absurd success failed

omit keeps in
theorem validRequest_iff (bank : NorthboundRegisterBank) :
    ValidRequest bank ↔ (!maskValid (operatorMailbox.decode bank) ||
      (operatorMailbox.decode bank).actionMask &&& Action.runState != 0 &&
        decide (1 < (operatorMailbox.decode bank).requestedRunState)) = false := by
  simp only [ValidRequest, maskValid, Bool.or_eq_false_iff, Bool.not_eq_false',
    Bool.and_eq_true, bne_iff_ne, beq_iff_eq, Bool.and_eq_false_imp, decide_eq_false_iff_not,
    UInt16.not_lt, and_assoc]
  exact Iff.rfl

theorem handleOperation_truthful (bank : NorthboundRegisterBank) :
    Truthful register bank bus
      (handleOperation client (operatorMailbox.decode bank) driver bus).2.2
      (handleOperation client (operatorMailbox.decode bank) driver bus).1 := by
  by_cases authorized :
      bank.holdingRegister Holding.operatorApplyKey = Northbound.operatorApplyKeyValue
  · have accepted : (operatorMailbox.decode bank).authorized = true := beq_iff_eq.mpr authorized
    by_cases valid : ValidRequest bank
    · have wrote : Wrote register (requestedWrites bank) bus _ :=
        @applyOperation_wrote _ _ _ keeps driver bus (operatorMailbox.decode bank) _ _ _
          rfl rfl rfl
      have handled : handleOperation client (operatorMailbox.decode bank) driver bus =
          (if (applyOperation client (operatorMailbox.decode bank) driver bus).1 then 1 else 4,
            (applyOperation client (operatorMailbox.decode bank) driver bus).2) := by
        rw [handleOperation, accepted, (validRequest_iff bank).mp valid]
        rfl
      rw [handled]
      have success : ∀ all : Bool, (if all then (1 : UInt16) else 4) = 1 ↔ all = true := by
        intro all
        cases all with
        | false => decide
        | true => decide
      obtain ⟨sent, history, -, exact⟩ := wrote.sent
      refine ⟨fun wrong => absurd authorized wrong, fun _ bad => absurd valid bad,
        ⟨sent, history, ?_⟩, fun reported => wrote.holds ((success _).mp reported)⟩
      rw [success, exact]
      exact ⟨fun all => ⟨authorized, valid, all⟩, fun all => all.2.2⟩
    · have mistaken := valid
      rw [validRequest_iff, Bool.not_eq_false] at mistaken
      have handled : handleOperation client (operatorMailbox.decode bank) driver bus =
          (3, driver, bus) := by
        rw [handleOperation, accepted, mistaken]
        rfl
      rw [handled]
      apply Truthful.refused
      · exact fun wrong => absurd authorized wrong
      · exact fun _ _ => rfl
      · exact fun all => valid all.2
  · have refused : (operatorMailbox.decode bank).authorized = false :=
      beq_eq_false_iff_ne.mpr authorized
    have handled : handleOperation client (operatorMailbox.decode bank) driver bus =
        (2, driver, bus) := by
      rw [handleOperation, refused]
      rfl
    rw [handled]
    apply Truthful.refused
    · exact fun _ => rfl
    · exact fun right => absurd right authorized
    · exact fun all => authorized all.1

end Actions

/-! ### Answers -/

namespace NorthboundRegisterBank

variable (bank : NorthboundRegisterBank)

/-- Registers 26 and 27, which only an operator result is stored in. -/
def Answers (sequence result : UInt16) : Prop :=
  bank.input[Input.lastOperatorSequence]? = some sequence ∧
    bank.input[Input.lastOperatorResult]? = some result

theorem answers_publishOperatorResult (sequence result : UInt16) :
    (bank.publishOperatorResult sequence result).Answers sequence result := by
  constructor
  · simp [publishOperatorResult]
  · simp [publishOperatorResult]

theorem Answers.readInput {bank : NorthboundRegisterBank} {sequence result : UInt16}
    (answers : bank.Answers sequence result) :
    bank.readInput 26 2 = some [sequence, result] := by
  apply readInput_of_held _ rfl (List.cons_ne_nil _ _)
  · show 26 + 2 ≤ 768
    decide
  · intro index bounded
    match index, bounded with
    | 0, _ => exact answers.1
    | 1, _ => exact answers.2

variable {bank}

theorem Answers.of_same {after : NorthboundRegisterBank} {sequence result : UInt16}
    (answers : bank.Answers sequence result) (same : after.input = bank.input) :
    after.Answers sequence result := by
  rw [NorthboundRegisterBank.Answers, same]
  exact answers

theorem Answers.publish {sequence result : UInt16} (answers : bank.Answers sequence result)
    (snapshot : ControllerSnapshot) (configuredLimit : ConfiguredPowerLimit) :
    (bank.publish snapshot configuredLimit).Answers sequence result := by
  rw [NorthboundRegisterBank.Answers, input_publish_of_notMem _ _ _ (by decide),
    input_publish_of_notMem _ _ _ (by decide)]
  exact answers

/-- All slots lie above the answer registers. -/
theorem Answers.publishNode {sequence result : UInt16} (answers : bank.Answers sequence result)
    (now : SteadyTime) (slot : Nat) (sample : MbusNodeTelemetry) :
    (bank.publishNode now slot sample).Answers sequence result := by
  have below : ∀ address < 256, ¬InSlot slot address := by
    rintro address bound ⟨low, -⟩
    rw [windowBase_eq] at low
    omega
  rw [NorthboundRegisterBank.Answers,
    input_publishNode_of_outside bank now sample (below 26 (by decide)),
    input_publishNode_of_outside bank now sample (below 27 (by decide))]
  exact answers

/-- A take gives nothing and changes nothing, or it gives the operator registers as
they are. -/
theorem takeOperatorCommand_cases (bank : NorthboundRegisterBank) :
    bank.takeOperatorCommand = (none, bank) ∨
      ∃ after, bank.takeOperatorCommand = (some (operatorMailbox.decode bank), after) := by
  unfold takeOperatorCommand
  dsimp only
  split
  · exact .inl rfl
  · exact .inr ⟨_, rfl⟩

end NorthboundRegisterBank

/-! ### Runs of the loop -/

def LoopEvent.isTakeOperatorCommand : LoopEvent → Bool
  | .takeOperatorCommand => true
  | _ => false

namespace Gateway

variable {Device : Type} {client : IModbusClient Device} {register : Device → UInt16 → UInt16}

/-- What the looks at the operator mailbox give along a run. -/
def operatorAnswers (client : IModbusClient Device) (gateway : Gateway Device)
    (events : List LoopEvent) : List (Option NorthboundOperatorCommand) :=
  outputs (Gateway.step client)
    (fun gateway event =>
      if event.isTakeOperatorCommand then [gateway.bank.takeOperatorCommand.1] else [])
    gateway events

/-- The bank as each of these looks finds it. -/
def operatorViews (client : IModbusClient Device) (gateway : Gateway Device)
    (events : List LoopEvent) : List NorthboundRegisterBank :=
  outputs (Gateway.step client)
    (fun gateway event => if event.isTakeOperatorCommand then [gateway.bank] else [])
    gateway events

/-- One look of the loop at the operator mailbox. Without a command nothing happens;
a command is processed, and its answer stays until the next look. -/
structure OperatorPolled (client : IModbusClient Device) (register : Device → UInt16 → UInt16)
    (gateway : Gateway Device) : Prop where
  idle : gateway.bank.takeOperatorCommand.1 = none → gateway.takeOperatorCommand client = gateway
  processed : ∀ operation, gateway.bank.takeOperatorCommand.1 = some operation →
    ∃ result,
      Truthful register gateway.bank gateway.bus (gateway.takeOperatorCommand client).bus
        result ∧
      ∀ later : List LoopEvent, (∀ event ∈ later, event.isTakeOperatorCommand = false) →
        (run (Gateway.step client) (gateway.takeOperatorCommand client) later).bank.readInput
          26 2 = some [operation.sequence, result]

theorem step_takeCommand_bank (gateway : Gateway Device) (now : SteadyTime) :
    (gateway.step client (.takeCommand now)).bank = gateway.bank.takeCommand.2 := by
  rw [step, takeCommand]
  split
  · next taken => rw [taken]
  · next taken => rw [taken]

/-- The bank after an event of the loop, as the operator mailbox sees it. -/
theorem step_operator (gateway : Gateway Device) (event : LoopEvent)
    (observed : gateway.bank.Observed) :
    (gateway.step client event).bank.Observed ∧
      (gateway.step client event).bank.lastOperatorSequence =
        if event.isTakeOperatorCommand then gateway.bank.holdingRegister Holding.operatorSequence
        else gateway.bank.lastOperatorSequence := by
  cases event with
  | northboundWrite start values =>
      have performed := observed.performed (.writeHolding start values)
      exact ⟨performed.observed, performed.operator⟩
  | takeCommand now =>
      have performed := observed.performed .takeCommand
      rw [step_takeCommand_bank]
      exact ⟨performed.observed, performed.operator⟩
  | tick now => exact ⟨observed, rfl⟩
  | takeOperatorCommand =>
      have performed := observed.performed .takeOperatorCommand
      have flags := performed.operator
      rw [step, Gateway.takeOperatorCommand]
      split
      · next taken =>
          rw [NorthboundRegisterBank.perform, taken] at performed flags
          exact ⟨⟨performed.observed.command, performed.observed.operator,
            performed.observed.node⟩, flags⟩
      · next taken =>
          rw [NorthboundRegisterBank.perform, taken] at performed flags
          exact ⟨performed.observed, flags⟩
  | takeNodeCommand =>
      have performed := observed.performed .takeNodeCommand
      exact ⟨performed.observed, performed.operator⟩
  | publish =>
      have performed := observed.performed
        (.publish gateway.snapshot gateway.controller.config.configuredLimit)
      exact ⟨performed.observed, performed.operator⟩
  | publishNode now slot sample =>
      have performed := observed.performed (.publishNode now slot sample)
      exact ⟨performed.observed, performed.operator⟩

/-- Between two looks nothing is stored in the answer registers. -/
theorem step_answers (gateway : Gateway Device) {event : LoopEvent} {sequence result : UInt16}
    (other : event.isTakeOperatorCommand = false)
    (answers : gateway.bank.Answers sequence result) :
    (gateway.step client event).bank.Answers sequence result := by
  cases event with
  | northboundWrite start values =>
      exact answers.of_same (gateway.bank.writeHolding_input start values)
  | takeCommand now =>
      rw [step_takeCommand_bank]
      exact answers.of_same gateway.bank.takeCommand_input
  | tick now => exact answers
  | takeOperatorCommand => exact absurd other (by decide)
  | takeNodeCommand => exact answers.of_same gateway.bank.takeNodeCommand_input
  | publish => exact answers.publish _ _
  | publishNode now slot sample => exact answers.publishNode now slot sample

theorem run_answers {gateway : Gateway Device} {later : List LoopEvent}
    {sequence result : UInt16} (others : ∀ event ∈ later, event.isTakeOperatorCommand = false)
    (answers : gateway.bank.Answers sequence result) :
    (run (Gateway.step client) gateway later).bank.Answers sequence result :=
  run_invariant_of_forall (Gateway.step client)
    (fun gateway => gateway.bank.Answers sequence result)
    (fun gateway _ other answers => step_answers gateway other answers) answers others

theorem operatorPolled (keeps : KeepsWrites client register) (gateway : Gateway Device) :
    OperatorPolled client register gateway := by
  rcases gateway.bank.takeOperatorCommand_cases with idle | ⟨after, taken⟩
  · refine ⟨fun _ => ?_, fun operation processed => ?_⟩
    · rw [takeOperatorCommand, idle]
    · rw [idle] at processed
      exact absurd processed (by simp)
  · refine ⟨fun nothing => ?_, fun operation processed => ?_⟩
    · rw [taken] at nothing
      exact absurd nothing (by simp)
    · rw [taken] at processed
      cases processed
      have handled := handleOperation_truthful keeps gateway.driver gateway.bus gateway.bank
      rw [takeOperatorCommand, taken]
      refine ⟨_, handled, fun later others => ?_⟩
      apply NorthboundRegisterBank.Answers.readInput
      apply run_answers others
      exact after.answers_publishOperatorResult _ _

/-- Along every run from the start of the service, with any vendor that keeps what
it acknowledges: the commands processed are one for each change of the sequence that
a look can see, and each look does what `OperatorPolled` says. -/
theorem operator_commands_truthful (keeps : KeepsWrites client register)
    (config : ControllerConfig) (approval : CommissioningApproval) (device : Device)
    (events : List LoopEvent) :
    operatorAnswers client (initial config approval device) events =
        deliveries operatorMailbox.key operatorMailbox.decode 0
          (operatorViews client (initial config approval device) events) ∧
      0 :: (operatorAnswers client (initial config approval device) events).reduceOption.map
          (fun operation => operation.sequence) =
        (0 :: (operatorViews client (initial config approval device) events).map
          operatorMailbox.key).destutter (· ≠ ·) ∧
      Along (Gateway.step client)
        (fun gateway event => event = .takeOperatorCommand →
          OperatorPolled client register gateway)
        (initial config approval device) events := by
  have answers : operatorAnswers client (initial config approval device) events =
      deliveries operatorMailbox.key operatorMailbox.decode 0
        (operatorViews client (initial config approval device) events) :=
    outputs_takes (Gateway.step client) operatorMailbox.key operatorMailbox.decode
      (fun gateway => gateway.bank) (fun gateway => gateway.bank.lastOperatorSequence)
      LoopEvent.isTakeOperatorCommand (fun gateway => gateway.bank.takeOperatorCommand.1)
      (fun gateway => gateway.bank.Observed)
      (fun gateway event observed => (step_operator gateway event observed).1)
      (fun gateway observed => operatorMailbox.take_exact gateway.bank observed)
      (fun gateway event observed => (step_operator gateway event observed).2)
      NorthboundRegisterBank.observed_fresh events
  refine ⟨answers, ?_, ?_⟩
  · rw [answers]
    exact deliveries_keys _ _ operatorMailbox.keyOf operatorMailbox.keyOf_decode 0 _
  · refine along_of_invariant (Gateway.step client) (fun _ => True) (fun _ _ _ => trivial)
      ?_ trivial events
    intro gateway event _ _
    exact operatorPolled keeps gateway

/-- A vendor that stores and acknowledges every write. -/
def storingVendor : IModbusClient (UInt16 → UInt16) where
  readInput := fun address device => (some (device address), device)
  readInputRange := fun _ _ device => (some [0, 0, 0, 0], device)
  readHolding := fun address device => (some (device address), device)
  readCoil := fun _ device => (some false, device)
  writeHolding := fun address value device => (true, Function.update device address value)

theorem storingVendor_keeps : KeepsWrites storingVendor (fun device => device) where
  acknowledged := by
    intro address value device _
    exact Function.update_self address value device
  elsewhere := by
    intro address value device other different
    exact Function.update_of_ne different value device
  reading := fun _ _ _ => rfl

/-- A cabinet in order that is switched off. -/
def stoppedCabinet : UInt16 → UInt16 := fun address =>
  if address = Registers.pcsGridMode ∨ address = Registers.pcsPowerOn then 0 else 1

/-- An authorized start and, with the sequence of the first one, a stop that the
loop never sees. -/
def repeatedOperator : List LoopEvent :=
  [.tick 0, .northboundWrite 4 [7, 1, 1, 0, 0, 0, 0xA55A], .takeOperatorCommand, .publish,
    .northboundWrite 4 [7, 1, 0, 0, 0, 0, 0xA55A], .takeOperatorCommand, .publish]

/-- The start is processed once: the cabinet has acknowledged it and is switched on, and the
answer says so. -/
theorem operator_commands_truthful_repeated :
    let started := initial {} ControlLoop.fullApproval stoppedCabinet
    (operatorAnswers storingVendor started repeatedOperator).reduceOption.map
        (fun operation => operation.sequence) = [7] ∧
      (run (Gateway.step storingVendor) started repeatedOperator).bus.device Registers.pcsPowerOn =
        1 ∧
      (run (Gateway.step storingVendor) started repeatedOperator).bank.readInput 26 2 =
        some [7, 1] := by
  intro started
  have truthful := operator_commands_truthful storingVendor_keeps {} ControlLoop.fullApproval
    stoppedCabinet repeatedOperator
  have seen : (operatorViews storingVendor started repeatedOperator).map operatorMailbox.key =
      [7, 7] := by decide +kernel
  have once : [(0 : UInt16), 7, 7].destutter (· ≠ ·) = [0, 7] := by decide
  have answered := truthful.2.1
  rw [seen, once] at answered
  exact ⟨(List.cons.inj answered).2, by decide +kernel, by decide +kernel⟩

end Gateway

end GridexEdge.RockPi
