import GridexEdge.Foundation.Words
import GridexEdge.RockPi.NorthboundRegisterBank

/-!
The vendor's words through poll and publication. Each value is decoded to a number
and encoded to a word again; the words come out as they went in.
-/

namespace GridexEdge.RockPi

open GridexEdge.Core Foundation

/-! ### One word -/

/-- The word if it is not negative, and else zero. -/
def nonnegativeWord (raw : UInt16) : UInt16 := if 0 ≤ signed raw then raw else 0

theorem encodeSignedX10_decodeSigned (raw : UInt16) :
    encodeSignedX10 (decodeSigned raw 10) = raw :=
  encodeSigned_decodeSigned raw (by norm_num)

theorem ofNat_signed {raw : UInt16} (nonneg : 0 ≤ signed raw) :
    UInt16.ofNat (signed raw).toNat = raw := by
  have small : raw.toNat < 32768 := by
    by_contra large
    rw [signed_of_not_lt large] at nonneg
    have bound := raw.toNat_lt
    omega
  rw [signed_of_lt small, Int.toNat_natCast, UInt16.ofNat_toNat]

/-- A clamp at zero replaces exactly the negative words. -/
theorem ofNat_clamp_signed (raw : UInt16) :
    UInt16.ofNat (clamp (signed raw) 0 65535).toNat = nonnegativeWord raw := by
  have upper := signed_upper raw
  unfold nonnegativeWord
  split
  · next nonneg =>
      rw [clamp_of_mem nonneg (by omega)]
      exact ofNat_signed nonneg
  · next negative =>
      rw [clamp, if_pos (by omega)]
      rfl

theorem encodeUnsigned_decodeSigned (raw : UInt16) {scale : ℚ} (positive : 0 < scale) :
    encodeUnsigned (decodeSigned raw scale) scale = nonnegativeWord raw := by
  rw [encodeUnsigned, decodeSigned_mul raw positive, roundHalfAway_intCast]
  exact ofNat_clamp_signed raw

/-- The limits are clamped at zero already when they are decoded. -/
theorem encodeUnsigned_max_decodeSigned (raw : UInt16) :
    encodeUnsigned (max 0 (decodeSigned raw 10)) 10 = nonnegativeWord raw := by
  by_cases nonneg : 0 ≤ decodeSigned raw 10
  · rw [max_eq_right nonneg]
    exact encodeUnsigned_decodeSigned raw (by norm_num)
  · have negative : ¬0 ≤ signed raw := by
      intro wrong
      apply nonneg
      rw [decodeSigned]
      positivity
    rw [max_eq_left (le_of_not_ge nonneg), nonnegativeWord, if_neg negative, encodeUnsigned,
      zero_mul, roundHalfAway_zero]
    rfl

/-! ### Two words -/

/-- The two's complement reading of a pair of words. -/
def signed32 (high low : UInt16) : ℤ := (doubleWord high low).toInt32.toInt

theorem signed32_of_nonneg {high low : UInt16} (nonneg : 0 ≤ signed32 high low) :
    signed32 high low = (doubleWord high low).toNat := by
  have bound := (doubleWord high low).toNat_lt
  have reading : signed32 high low = (doubleWord high low).toBitVec.toInt := rfl
  rw [reading, BitVec.toInt_eq_toNat_cond] at nonneg ⊢
  split at nonneg
  · rw [if_pos ‹_›]
    rfl
  · rw [UInt32.toNat_toBitVec] at nonneg
    omega

theorem encodeUnsigned32_decodeSigned32 (high low : UInt16) :
    encodeUnsigned32 (decodeSigned32 high low 10) 10 =
      if 0 ≤ signed32 high low then doubleWord high low else 0 := by
  have exact : decodeSigned32 high low 10 * 10 = ((signed32 high low : ℤ) : ℚ) :=
    div_mul_cancel₀ _ (by norm_num)
  rw [encodeUnsigned32, exact, roundHalfAway_intCast]
  split
  · next nonneg =>
      have bound := (doubleWord high low).toNat_lt
      rw [signed32_of_nonneg nonneg, clamp_of_mem (by omega) (by omega), Int.toNat_natCast,
        UInt32.ofNat_toNat]
  · next negative =>
      rw [clamp, if_pos (by omega)]
      rfl

/-! ### The whole image -/

/-- The registers of a vendor whose reads all succeed. -/
structure VendorImage where
  input : UInt16 → UInt16
  holding : UInt16 → UInt16
  coil : UInt16 → Bool

def VendorImage.client : IModbusClient VendorImage where
  readInput := fun address image => (some (image.input address), image)
  readInputRange := fun start count image =>
    (some ((List.range count.toNat).map fun offset => image.input (start + UInt16.ofNat offset)),
      image)
  readHolding := fun address image => (some (image.holding address), image)
  readCoil := fun address image => (some (image.coil address), image)
  writeHolding := fun address value image =>
    (true, { image with holding := Function.update image.holding address value })

/-- The words of one of the accumulated counters, high first. -/
def energyWords (approval : CommissioningApproval) (image : VendorImage) (first : UInt16) :
    UInt16 × UInt16 :=
  if approval.int32HighWordFirst then (image.input first, image.input (first + 1))
  else (image.input (first + 1), image.input first)

/-- Northbound addresses and the vendor's input registers behind them, by what a
register can show. -/
def signedFields : List (UInt16 × UInt16) :=
  [(0, Registers.pcsActivePower), (4, Registers.bmsCurrent), (15, Registers.pcsDcPower),
    (16, Registers.pcsCommandedPower), (18, Registers.pcsReactivePower)]

def nonnegativeFields : List (UInt16 × UInt16) :=
  [(1, Registers.bmsSoc), (2, Registers.bmsSoh), (3, Registers.bmsVoltage),
    (5, Registers.bmsMaxChargePower), (6, Registers.bmsMaxDischargePower),
    (23, Registers.bmsDailyChargeEnergy), (24, Registers.bmsDailyDischargeEnergy),
    (28, Registers.pcsFrequency)]

def plainFields : List (UInt16 × UInt16) :=
  [(7, Registers.bmsStatus), (8, Registers.bmsSystemFlags), (17, Registers.pcsStatus)]

/-- The limits of the SOC come from holding registers. -/
def limitFields : List (UInt16 × UInt16) :=
  [(29, Registers.pcsSocUpperLimit), (30, Registers.pcsSocLowerLimit)]

/-- The first registers of the counters and their northbound addresses. -/
def energyFields : List (UInt16 × UInt16) :=
  [(19, Registers.bmsAccumulatedChargeEnergy), (21, Registers.bmsAccumulatedChargeEnergy + 2)]

/-- What a client of the bank reads is what the vendor holds. -/
structure PassedThrough (approval : CommissioningApproval) (image : VendorImage)
    (bank : NorthboundRegisterBank) : Prop where
  signedWords : ∀ field ∈ signedFields, bank.readInput field.1 1 = some [image.input field.2]
  nonnegativeWords : ∀ field ∈ nonnegativeFields,
    bank.readInput field.1 1 = some [nonnegativeWord (image.input field.2)]
  plainWords : ∀ field ∈ plainFields, bank.readInput field.1 1 = some [image.input field.2]
  limitWords : ∀ field ∈ limitFields,
    bank.readInput field.1 1 = some [nonnegativeWord (image.holding field.2)]
  energyPairs : ∀ field ∈ energyFields,
    bank.readInput field.1 2 =
      if 0 ≤ signed32 (energyWords approval image field.2).1 (energyWords approval image field.2).2
      then some [(energyWords approval image field.2).1, (energyWords approval image field.2).2]
      else some [0, 0]

namespace NorthboundRegisterBank

variable (bank : NorthboundRegisterBank) (snapshot : ControllerSnapshot)
  (configuredLimit : ConfiguredPowerLimit)

/-- Every published word is held at its address. -/
theorem input_publish (position : Nat) {address : Nat} {word : UInt16}
    (published : (publication snapshot configuredLimit)[position]? = some (address, word)) :
    (bank.publish snapshot configuredLimit).input[address]? = some word := by
  have distinct : ((publication snapshot configuredLimit).map Prod.fst).Nodup := by
    rw [publication_addresses]
    decide
  have member := List.mem_of_getElem? published
  have listed : address ∈ (publication snapshot configuredLimit).map Prod.fst :=
    List.mem_map.mpr ⟨_, member, rfl⟩
  have inside : address < 768 := by
    rw [publication_addresses] at listed
    have bounded : ∀ known ∈ List.range 26 ++ [28, 29, 30, 31, 32, 33, 34], known < 768 := by
      decide
    exact bounded address listed
  exact getElem?_storeWords_of_mem bank.input inside distinct member

theorem readInput_publish (position : Nat) {address word : UInt16}
    (published : (publication snapshot configuredLimit)[position]? = some (address.toNat, word)) :
    (bank.publish snapshot configuredLimit).readInput address 1 = some [word] := by
  have held := bank.input_publish snapshot configuredLimit position published
  apply readInput_of_held _ rfl (List.cons_ne_nil _ _)
  · exact Nat.succ_le_of_lt (Vector.getElem?_eq_some_iff.mp held).1
  · intro index bounded
    match index, bounded with
    | 0, _ => exact held

theorem readInput_publish_pair (position : Nat) {address high low : UInt16}
    (publishedHigh : (publication snapshot configuredLimit)[position]? =
      some (address.toNat, high))
    (publishedLow : (publication snapshot configuredLimit)[position + 1]? =
      some (address.toNat + 1, low)) :
    (bank.publish snapshot configuredLimit).readInput address 2 = some [high, low] := by
  have heldHigh := bank.input_publish snapshot configuredLimit position publishedHigh
  have heldLow := bank.input_publish snapshot configuredLimit (position + 1) publishedLow
  apply readInput_of_held _ rfl (List.cons_ne_nil _ _)
  · exact Nat.succ_le_of_lt (Vector.getElem?_eq_some_iff.mp heldLow).1
  · intro index bounded
    match index, bounded with
    | 0, _ => exact heldHigh
    | 1, _ => exact heldLow

end NorthboundRegisterBank

/-- The northbound pair of a counter is the vendor's pair unless it is negative. -/
theorem accumulated_words (high low : UInt16) :
    some [highWord (encodeUnsigned32 (decodeSigned32 high low 10) 10),
        lowWord (encodeUnsigned32 (decodeSigned32 high low 10) 10)] =
      if 0 ≤ signed32 high low then some [high, low] else some [0, 0] := by
  rw [encodeUnsigned32_decodeSigned32]
  split
  · rw [highWord_doubleWord, lowWord_doubleWord]
  · rfl

/-- The counters of a poll are decoded from their own words in the configured order. -/
theorem accumulatedKwh_image (approval : CommissioningApproval) (image : VendorImage) :
    let energy := (VendorImage.client.readInputRange Registers.bmsAccumulatedChargeEnergy 4 image).1
    let charge := energyWords approval image Registers.bmsAccumulatedChargeEnergy
    let discharge := energyWords approval image (Registers.bmsAccumulatedChargeEnergy + 2)
    accumulatedKwh approval energy 0 = decodeSigned32 charge.1 charge.2 10 ∧
      accumulatedKwh approval energy 2 = decodeSigned32 discharge.1 discharge.2 10 := by
  intro energy charge discharge
  have order : ∀ highFirst : Bool, approval.int32HighWordFirst = highFirst →
      accumulatedKwh approval energy 0 = decodeSigned32 charge.1 charge.2 10 ∧
        accumulatedKwh approval energy 2 = decodeSigned32 discharge.1 discharge.2 10 := by
    intro highFirst configured
    simp only [accumulatedKwh, charge, discharge, energyWords, energy, VendorImage.client,
      configured]
    cases highFirst with
    | false => exact ⟨rfl, rfl⟩
    | true => exact ⟨rfl, rfl⟩
  exact order _ rfl

/-- For every image of the vendor and either order of the counters' words, the bank
shows the vendor's words after a poll and a publication. -/
theorem telemetry_passes_through (image : VendorImage) (driver : SunStoragePro261Driver)
    (history : List Occurrence) (snapshot : ControllerSnapshot)
    (configuredLimit : ConfiguredPowerLimit) (bank : NorthboundRegisterBank) :
    PassedThrough driver.approval image
      (bank.publish
        { snapshot with
          battery := (driver.poll VendorImage.client { device := image, history := history }).1 }
        configuredLimit) where
  signedWords := by
    intro field member
    simp only [signedFields, List.mem_cons, List.not_mem_nil, or_false] at member
    rcases member with rfl | rfl | rfl | rfl | rfl
    · rw [← encodeSignedX10_decodeSigned (image.input _)]
      exact bank.readInput_publish _ configuredLimit 0 rfl
    · rw [← encodeSignedX10_decodeSigned (image.input _)]
      exact bank.readInput_publish _ configuredLimit 4 rfl
    · rw [← encodeSignedX10_decodeSigned (image.input _)]
      exact bank.readInput_publish _ configuredLimit 15 rfl
    · rw [← encodeSignedX10_decodeSigned (image.input _)]
      exact bank.readInput_publish _ configuredLimit 16 rfl
    · rw [← encodeSignedX10_decodeSigned (image.input _)]
      exact bank.readInput_publish _ configuredLimit 18 rfl
  nonnegativeWords := by
    have one : (0 : ℚ) < 1 := by norm_num
    have ten : (0 : ℚ) < 10 := by norm_num
    have hundred : (0 : ℚ) < 100 := by norm_num
    intro field member
    simp only [nonnegativeFields, List.mem_cons, List.not_mem_nil, or_false] at member
    rcases member with rfl | rfl | rfl | rfl | rfl | rfl | rfl | rfl
    · rw [← encodeUnsigned_decodeSigned (image.input _) ten]
      exact bank.readInput_publish _ configuredLimit 1 rfl
    · rw [← encodeUnsigned_decodeSigned (image.input _) one]
      exact bank.readInput_publish _ configuredLimit 2 rfl
    · rw [← encodeUnsigned_decodeSigned (image.input _) ten]
      exact bank.readInput_publish _ configuredLimit 3 rfl
    · rw [← encodeUnsigned_max_decodeSigned (image.input _)]
      exact bank.readInput_publish _ configuredLimit 5 rfl
    · rw [← encodeUnsigned_max_decodeSigned (image.input _)]
      exact bank.readInput_publish _ configuredLimit 6 rfl
    · rw [← encodeUnsigned_decodeSigned (image.input _) ten]
      exact bank.readInput_publish _ configuredLimit 23 rfl
    · rw [← encodeUnsigned_decodeSigned (image.input _) ten]
      exact bank.readInput_publish _ configuredLimit 24 rfl
    · rw [← encodeUnsigned_decodeSigned (image.input _) hundred]
      exact bank.readInput_publish _ configuredLimit 26 rfl
  plainWords := by
    intro field member
    simp only [plainFields, List.mem_cons, List.not_mem_nil, or_false] at member
    rcases member with rfl | rfl | rfl
    · exact bank.readInput_publish _ configuredLimit 7 rfl
    · exact bank.readInput_publish _ configuredLimit 8 rfl
    · exact bank.readInput_publish _ configuredLimit 17 rfl
  limitWords := by
    have one : (0 : ℚ) < 1 := by norm_num
    intro field member
    simp only [limitFields, List.mem_cons, List.not_mem_nil, or_false] at member
    rcases member with rfl | rfl
    · rw [← encodeUnsigned_decodeSigned (image.holding _) one]
      exact bank.readInput_publish _ configuredLimit 27 rfl
    · rw [← encodeUnsigned_decodeSigned (image.holding _) one]
      exact bank.readInput_publish _ configuredLimit 28 rfl
  energyPairs := by
    intro field member
    simp only [energyFields, List.mem_cons, List.not_mem_nil, or_false] at member
    rcases member with rfl | rfl
    · rw [← accumulated_words, ← (accumulatedKwh_image driver.approval image).1]
      exact bank.readInput_publish_pair _ configuredLimit 19 rfl rfl
    · rw [← accumulated_words, ← (accumulatedKwh_image driver.approval image).2]
      exact bank.readInput_publish_pair _ configuredLimit 21 rfl rfl

end GridexEdge.RockPi
