import GridexEdge.Foundation.Runs
import GridexEdge.Node.FrameReplies

/-!
How a node comes to its address, type and driver.

A frame first stores what it carries, and the key is checked on what is then there. So
a frame stages registers over many requests, and the three values change together, at
one check, or not at all.
-/

namespace GridexEdge.Node

open Foundation

namespace MbusNode

/-- Everything that can change a node's configuration, and the call that asks whether
it was changed. -/
inductive ProvisioningEvent where
  | processFrame (frame : List UInt8)
  | provision (address : UInt8) (type : NodeType) (driverId : UInt16)
  | takeConfigurationChanged

def step (node : MbusNode) : ProvisioningEvent → MbusNode
  | .processFrame frame => (node.processFrame frame).2
  | .provision address type driverId => (node.provision address type driverId).2
  | .takeConfigurationChanged => node.takeConfigurationChanged.2

/-- The registers after what a frame carries is stored, before the key is checked. -/
def staged (node : MbusNode) (frame : List UInt8) : MbusNode :=
  let start := readU16 frame 2
  let count := readU16 frame 4
  let byteCount := frame.getD 6 0
  if ¬(Intact frame ∧ (frame.getD 0 0 = 0 ∨ frame.getD 0 0 = node.config.address)) then node
  else if frame.getD 1 0 = 0x06 ∧ frame.length = 8 then
    if 128 ≤ start.toNat then node else node.storeRange start [count]
  else if frame.getD 1 0 = 0x10 ∧ 9 ≤ frame.length then
    if count = 0 ∨ byteCount.toNat ≠ count.toNat * 2 ∨ frame.length ≠ 9 + byteCount.toNat ∨
        128 < start.toNat + count.toNat then node
    else node.storeRange start (readWords frame 7 count.toNat)
  else node

def HoldsKey (node : MbusNode) : Prop :=
  node.registerValue Reg.applyConfiguration = Reg.applyKey

instance decidableHoldsKey (node : MbusNode) : Decidable node.HoldsKey :=
  inferInstanceAs (Decidable (_ = _))

/-- Values a node may be given, as the registers hold them. -/
def Acceptable (address type driverId : UInt16) : Prop :=
  1 ≤ address.toNat ∧ address.toNat ≤ 247 ∧ 1 ≤ type.toNat ∧ type.toNat ≤ 6 ∧ driverId ≠ 0

instance decidableAcceptable (address type driverId : UInt16) :
    Decidable (Acceptable address type driverId) := inferInstanceAs (Decidable (_ ∧ _))

/-- The requested values and the key stand in the registers together, and the values are
acceptable. -/
def Requests (node : MbusNode) : Prop :=
  node.HoldsKey ∧ Acceptable (node.registerValue Reg.requestedAddress)
    (node.registerValue Reg.requestedNodeType) (node.registerValue Reg.requestedDriverId)

instance decidableRequests (node : MbusNode) : Decidable node.Requests :=
  inferInstanceAs (Decidable (_ ∧ _))

/-- The event is a request that is accepted. -/
def Accepts (node : MbusNode) : ProvisioningEvent → Prop
  | .processFrame frame => (node.staged frame).Requests
  | .provision address type driverId => Acceptable address.toUInt16 type driverId
  | .takeConfigurationChanged => False

instance decidableAccepts (node : MbusNode) :
    ∀ event, Decidable (node.Accepts event)
  | .processFrame frame => inferInstanceAs (Decidable (node.staged frame).Requests)
  | .provision address type driverId =>
      inferInstanceAs (Decidable (Acceptable address.toUInt16 type driverId))
  | .takeConfigurationChanged => .isFalse id

/-- The configuration an accepted request asks for. -/
def requestedConfig (node : MbusNode) : ProvisioningEvent → NodeConfig
  | .processFrame frame =>
      { node.config with
        address := ((node.staged frame).registerValue Reg.requestedAddress).toUInt8
        type := (node.staged frame).registerValue Reg.requestedNodeType
        driverId := (node.staged frame).registerValue Reg.requestedDriverId }
  | .provision address type driverId =>
      { node.config with address := address, type := type, driverId := driverId }
  | .takeConfigurationChanged => node.config

variable (node : MbusNode)

theorem validType_iff (type : NodeType) :
    validType type = true ↔ 1 ≤ type.toNat ∧ type.toNat ≤ 6 := by
  have code : ∀ (value : UInt16) (number : Nat), value.toNat = number →
      (type = value ↔ type.toNat = number) := by
    rintro value number rfl
    exact UInt16.toNat_inj.symm
  simp only [validType, Bool.or_eq_true, beq_iff_eq]
  rw [code NodeType.inverter 1 rfl, code NodeType.batteryBms 2 rfl,
    code NodeType.allInOneBess 3 rfl, code NodeType.meter 4 rfl, code NodeType.evse 5 rfl,
    code NodeType.secondCabinet 6 rfl]
  omega

/-- What the code checks of three values, as arithmetic. -/
theorem acceptable_iff (address : UInt8) (type : NodeType) (driverId : UInt16) :
    ¬(address < 1 ∨ 247 < address ∨ validType type = false ∨ driverId = 0) ↔
      Acceptable address.toUInt16 type driverId := by
  have low : address < 1 ↔ address.toNat < 1 := UInt8.lt_iff_toNat_lt
  have high : 247 < address ↔ 247 < address.toNat := UInt8.lt_iff_toNat_lt
  rw [Acceptable, UInt8.toNat_toUInt16, low, high, ← Bool.not_eq_true, validType_iff]
  simp only [not_or, not_lt, not_not, and_assoc, ne_eq]

theorem setRegisters_configurationChanged (words : List (UInt16 × UInt16)) :
    (node.setRegisters words).configurationChanged = node.configurationChanged := by
  induction words generalizing node with
  | nil => rfl
  | cons word rest inductionHypothesis => exact inductionHypothesis (node.setRegister word.1 word.2)

theorem provision_of_acceptable {address : UInt8} {type : NodeType} {driverId : UInt16}
    (acceptable : Acceptable address.toUInt16 type driverId) :
    (node.provision address type driverId).1 = true ∧
      (node.provision address type driverId).2.config =
        { node.config with address := address, type := type, driverId := driverId } ∧
      (node.provision address type driverId).2.configurationChanged = true := by
  rw [provision, if_neg ((acceptable_iff address type driverId).mpr acceptable)]
  exact ⟨rfl, setRegisters_config _ _, setRegisters_configurationChanged _ _⟩

theorem provision_of_not_acceptable {address : UInt8} {type : NodeType} {driverId : UInt16}
    (refused : ¬Acceptable address.toUInt16 type driverId) :
    node.provision address type driverId = (false, node) :=
  if_pos (not_not.mp (mt (acceptable_iff address type driverId).mp refused))

/-- An address that is not too large survives the narrowing. -/
theorem toUInt16_toUInt8_of_small {address : UInt16} (small : ¬247 < address) :
    address.toUInt8.toUInt16 = address := by
  have bounded : address.toNat ≤ 247 := UInt16.le_iff_toNat_le.mp (UInt16.not_lt.mp small)
  apply UInt16.toNat_inj.mp
  rw [UInt8.toNat_toUInt16, UInt16.toNat_toUInt8]
  omega

/-! ### The key check -/

section Check

variable {node}

/-- The requested values are the same before and after the key is cleared. -/
theorem cleared_requested {address : UInt16} (other : address ≠ Reg.applyConfiguration) :
    (node.setRegister Reg.applyConfiguration 0).registerValue address =
      node.registerValue address :=
  node.registerValue_setRegister_of_ne 0 other

theorem applyPendingConfiguration_of_requests (requests : node.Requests) :
    node.applyPendingConfiguration.config =
        { node.config with
          address := (node.registerValue Reg.requestedAddress).toUInt8
          type := node.registerValue Reg.requestedNodeType
          driverId := node.registerValue Reg.requestedDriverId } ∧
      node.applyPendingConfiguration.configurationChanged = true := by
  obtain ⟨holds, acceptable⟩ := requests
  have held : node.registerValue Reg.applyConfiguration = Reg.applyKey := holds
  have small : ¬247 < node.registerValue Reg.requestedAddress :=
    UInt16.not_lt.mpr (UInt16.le_iff_toNat_le.mpr acceptable.2.1)
  have narrowed := toUInt16_toUInt8_of_small small
  rw [← narrowed] at acceptable
  rw [applyPendingConfiguration, if_neg (not_not_intro held)]
  dsimp only
  rw [cleared_requested (by decide), cleared_requested (by decide), cleared_requested (by decide),
    if_neg small]
  exact (provision_of_acceptable _ acceptable).2

/-- An address of sixteen bits that is too large is refused before it is narrowed. -/
theorem applyPendingConfiguration_of_not_requests (refused : ¬node.Requests) :
    node.applyPendingConfiguration.config = node.config ∧
      node.applyPendingConfiguration.configurationChanged = node.configurationChanged := by
  unfold applyPendingConfiguration
  split
  · exact ⟨rfl, rfl⟩
  · next holds =>
      dsimp only
      rw [cleared_requested (by decide), cleared_requested (by decide),
        cleared_requested (by decide)]
      split
      · exact ⟨rfl, rfl⟩
      · next small =>
          rw [provision_of_not_acceptable]
          · exact ⟨rfl, rfl⟩
          · intro acceptable
            rw [toUInt16_toUInt8_of_small small] at acceptable
            exact refused ⟨not_not.mp holds, acceptable⟩

/-- The key never outlives its check. -/
theorem not_holdsKey_applyPendingConfiguration : ¬node.applyPendingConfiguration.HoldsKey := by
  unfold applyPendingConfiguration
  split
  · next unapplied => exact unapplied
  · have cleared : ¬(node.setRegister Reg.applyConfiguration 0).HoldsKey := by
      rw [HoldsKey, registerValue_setRegister_self _ _ (by decide)]
      decide
    dsimp only
    split
    · exact cleared
    · rw [HoldsKey, registerValue_provision_of_not_mem _ _ _ _ (by decide)]
      exact cleared

/-- A frame is its storing and then the check. -/
theorem processFrame_eq_staged (keyless : ¬node.HoldsKey) (frame : List UInt8) :
    (node.processFrame frame).2 = (node.staged frame).applyPendingConfiguration := by
  have unapplied : node.applyPendingConfiguration = node :=
    node.applyPendingConfiguration_of_ne keyless
  unfold staged
  dsimp only
  split
  · next ignored =>
      rw [unapplied, processFrame_of_ignored (by tauto)]
  · next accepted =>
      obtain ⟨intact, addressed⟩ := not_not.mp accepted
      rw [processFrame_of_intact intact addressed]
      unfold answerFrame writeSingleRegister writeMultipleRegisters
      dsimp only
      by_cases read : (frame.getD 1 0 = 0x03 ∨ frame.getD 1 0 = 0x04) ∧ frame.length = 8
      · have noWrite : ∀ function : UInt8, function ≠ 0x03 → function ≠ 0x04 →
            frame.getD 1 0 ≠ function := by
          rintro function notThree notFour rfl
          exact read.1.elim notThree notFour
        rw [if_pos read, if_neg (fun single => noWrite 0x06 (by decide) (by decide) single.1),
          if_neg (fun multiple => noWrite 0x10 (by decide) (by decide) multiple.1), unapplied]
      · rw [if_neg read]
        split_ifs
        · exact unapplied.symm
        · rfl
        · exact unapplied.symm
        · rfl
        · exact unapplied.symm

theorem staged_config (node : MbusNode) (frame : List UInt8) :
    (node.staged frame).config = node.config ∧
      (node.staged frame).configurationChanged = node.configurationChanged := by
  unfold staged
  dsimp only
  split_ifs <;> exact ⟨rfl, rfl⟩

/-! ### One event -/

variable {event : ProvisioningEvent}

theorem not_holdsKey_step (keyless : ¬node.HoldsKey) : ¬(node.step event).HoldsKey := by
  cases event with
  | processFrame frame =>
      rw [step, processFrame_eq_staged keyless]
      exact not_holdsKey_applyPendingConfiguration
  | provision address type driverId =>
      rw [step, HoldsKey, registerValue_provision_of_not_mem _ _ _ _ (by decide)]
      exact keyless
  | takeConfigurationChanged => exact keyless

/-- An accepted request changes the three values together, and marks the change. -/
theorem step_of_accepts (keyless : ¬node.HoldsKey) (accepts : node.Accepts event) :
    (node.step event).config = node.requestedConfig event ∧
      (node.step event).configurationChanged = true := by
  cases event with
  | processFrame frame =>
      have applied := applyPendingConfiguration_of_requests accepts
      rw [(staged_config node frame).1] at applied
      rw [step, processFrame_eq_staged keyless]
      exact applied
  | provision address type driverId => exact (node.provision_of_acceptable accepts).2
  | takeConfigurationChanged => exact accepts.elim

/-- Any other event leaves the configuration alone, and only the question about it
resets the mark. -/
theorem step_of_not_accepts (keyless : ¬node.HoldsKey) (refused : ¬node.Accepts event) :
    (node.step event).config = node.config ∧
      (event ≠ .takeConfigurationChanged →
        (node.step event).configurationChanged = node.configurationChanged) := by
  cases event with
  | processFrame frame =>
      obtain ⟨config, changed⟩ := applyPendingConfiguration_of_not_requests refused
      obtain ⟨sameConfig, sameChanged⟩ := staged_config node frame
      rw [step, processFrame_eq_staged keyless]
      exact ⟨config.trans sameConfig, fun _ => changed.trans sameChanged⟩
  | provision address type driverId =>
      rw [step, node.provision_of_not_acceptable refused]
      exact ⟨rfl, fun _ => rfl⟩
  | takeConfigurationChanged => exact ⟨rfl, fun wrong => absurd rfl wrong⟩

/-- An address a node may have. -/
def Addressed (node : MbusNode) : Prop :=
  1 ≤ node.config.address.toNat ∧ node.config.address.toNat ≤ 247

theorem addressed_step (keyless : ¬node.HoldsKey) (addressed : node.Addressed) :
    (node.step event).Addressed := by
  by_cases accepts : node.Accepts event
  · rw [Addressed, (step_of_accepts keyless accepts).1]
    cases event with
    | processFrame frame =>
        obtain ⟨-, low, high, -⟩ := accepts
        rw [requestedConfig]
        dsimp only
        rw [UInt16.toNat_toUInt8]
        omega
    | provision address type driverId =>
        obtain ⟨low, high, -⟩ := accepts
        rw [UInt8.toNat_toUInt16] at low high
        exact ⟨low, high⟩
    | takeConfigurationChanged => exact accepts.elim
  · rw [Addressed, (step_of_not_accepts keyless accepts).1]
    exact addressed

end Check

/-! ### Runs -/

theorem addressed_ofConfig {config : NodeConfig} (bounded : config.address ≤ 247) :
    (ofConfig config).Addressed := by
  have upper : config.address.toNat ≤ 247 := UInt8.le_iff_toNat_le.mp bounded
  unfold Addressed ofConfig initializeIdentity
  rw [setRegisters_config]
  dsimp only
  split
  · have bounds := temporaryAddress_bounds config.uid
    omega
  · next configured =>
      have nonzero : config.address.toNat ≠ 0 := fun zero => configured (UInt8.toNat_inj.mp zero)
      omega

theorem not_holdsKey_ofConfig (config : NodeConfig) : ¬(ofConfig config).HoldsKey := by
  unfold HoldsKey ofConfig initializeIdentity
  rw [registerValue_setRegisters_of_not_mem _ (by simp +decide)]
  simp +decide [registerValue]

variable {node}

/-- Every reached state has an address and no key. -/
theorem addressed_run (keyless : ¬node.HoldsKey) (addressed : node.Addressed)
    (events : List ProvisioningEvent) :
    (run step node events).Addressed ∧ ¬(run step node events).HoldsKey :=
  run_invariant step (fun node => node.Addressed ∧ ¬node.HoldsKey)
    (fun _ _ holds => ⟨addressed_step holds.2 holds.1, not_holdsKey_step holds.2⟩)
    ⟨addressed, keyless⟩ events

/-- Somewhere in the run a request is accepted. -/
def SomeAccepted (node : MbusNode) (events : List ProvisioningEvent) : Prop :=
  ∃ before event after, events = before ++ event :: after ∧
    (run step node before).Accepts event

theorem someAccepted_cons {event : ProvisioningEvent} {rest : List ProvisioningEvent} :
    node.SomeAccepted (event :: rest) ↔
      node.Accepts event ∨ (node.step event).SomeAccepted rest := by
  constructor
  · rintro ⟨before, accepted, after, split, accepts⟩
    cases before with
    | nil =>
        cases split
        exact .inl accepts
    | cons first before =>
        cases split
        exact .inr ⟨before, accepted, after, rfl, accepts⟩
  · rintro (accepts | ⟨before, accepted, after, rfl, accepts⟩)
    · exact ⟨[], event, rest, rfl, accepts⟩
    · exact ⟨event :: before, accepted, after, rfl, accepts⟩

/-- Until it is asked for, the mark remembers any accepted request. -/
theorem configurationChanged_run (keyless : ¬node.HoldsKey) {events : List ProvisioningEvent}
    (unasked : .takeConfigurationChanged ∉ events) :
    (run step node events).configurationChanged = true ↔
      node.configurationChanged = true ∨ node.SomeAccepted events := by
  induction events generalizing node with
  | nil =>
      have nothing : ¬node.SomeAccepted [] := by
        rintro ⟨before, event, after, split, -⟩
        exact absurd split (by simp)
      rw [run_nil, or_iff_left nothing]
  | cons event rest inductionHypothesis =>
      rw [List.mem_cons, not_or] at unasked
      rw [run_cons, inductionHypothesis (not_holdsKey_step keyless) unasked.2, someAccepted_cons]
      by_cases accepts : node.Accepts event
      · simp [accepts, (step_of_accepts keyless accepts).2]
      · rw [(step_of_not_accepts keyless accepts).2 (Ne.symm unasked.1)]
        simp [accepts]

/-- What one event may do to the configuration. -/
structure AllOrNothing (node : MbusNode) (event : ProvisioningEvent) : Prop where
  accepted : node.Accepts event → (node.step event).config = node.requestedConfig event ∧
    (node.step event).configurationChanged = true
  refused : ¬node.Accepts event → (node.step event).config = node.config ∧
    (event ≠ .takeConfigurationChanged →
      (node.step event).configurationChanged = node.configurationChanged)
  keyless : ¬(node.step event).HoldsKey

/-- A batch starts with the node or after a question about its configuration. -/
def StartsBatch (before : List ProvisioningEvent) : Prop :=
  before = [] ∨ ∃ earlier, before = earlier ++ [.takeConfigurationChanged]

theorem configurationChanged_of_startsBatch (config : NodeConfig)
    {before : List ProvisioningEvent} (starts : StartsBatch before) :
    (run step (ofConfig config) before).configurationChanged = false := by
  rcases starts with rfl | ⟨earlier, rfl⟩
  · rw [run_nil, ofConfig, initializeIdentity, setRegisters_configurationChanged]
  · rw [run_append]
    rfl

/-- In every run of a node: it has an address, every event changes all three values
together or nothing, no key is left, and a question is answered with yes exactly when its
batch has had an accepted request. -/
theorem provisioning_is_all_or_nothing (config : NodeConfig) (bounded : config.address ≤ 247)
    (events : List ProvisioningEvent) :
    (run step (ofConfig config) events).Addressed ∧
      ¬(run step (ofConfig config) events).HoldsKey ∧
      Along step AllOrNothing (ofConfig config) events ∧
      ∀ before batch, events = before ++ batch → StartsBatch before →
        .takeConfigurationChanged ∉ batch →
        ((run step (ofConfig config) events).takeConfigurationChanged.1 = true ↔
          (run step (ofConfig config) before).SomeAccepted batch) := by
  have keyless := not_holdsKey_ofConfig config
  have reached := addressed_run keyless (addressed_ofConfig bounded)
  refine ⟨(reached events).1, (reached events).2, ?_, ?_⟩
  · exact along_of_invariant step (fun node => ¬node.HoldsKey)
      (fun _ _ => not_holdsKey_step)
      (fun _ _ keyless => ⟨step_of_accepts keyless, step_of_not_accepts keyless,
        not_holdsKey_step keyless⟩) keyless events
  · rintro before batch rfl starts unasked
    have changed := configurationChanged_run (reached before).2 unasked
    rw [configurationChanged_of_startsBatch config starts] at changed
    rw [takeConfigurationChanged, run_append, changed]
    simp

/-- The three values staged by one frame each, with a type there is not and then one there
is; the key comes once for each, and the question twice. -/
theorem provisioning_is_all_or_nothing_staged :
    let write (address value : UInt16) : ProvisioningEvent :=
      .processFrame (withCrc (appendU16 (appendU16 [0, 0x06] address) value))
    let before := [write Reg.requestedAddress 17, write Reg.requestedNodeType 9,
      write Reg.requestedDriverId 3, write Reg.applyConfiguration Reg.applyKey,
      .takeConfigurationChanged]
    let batch := [write Reg.requestedNodeType 2, write Reg.applyConfiguration Reg.applyKey]
    (run step (ofConfig {}) (before ++ batch)).takeConfigurationChanged.1 = true ∧
      (run step (ofConfig {}) (before ++ batch)).Addressed ∧
      (run step (ofConfig {}) before).config.address = 200 ∧
      (run step (ofConfig {}) (before ++ batch)).config.address = 17 := by
  intro write before batch
  obtain ⟨addressed, -, -, batches⟩ :=
    provisioning_is_all_or_nothing {} (by decide) (before ++ batch)
  refine ⟨(batches before batch rfl (.inr ⟨before.dropLast, rfl⟩) (by simp [batch, write])).mpr ?_,
    addressed, by decide +kernel, by decide +kernel⟩
  exact ⟨[write Reg.requestedNodeType 2], write Reg.applyConfiguration Reg.applyKey, [], rfl,
    by decide +kernel⟩

end MbusNode

end GridexEdge.Node
