import GridexEdge.Foundation.ShiftRegister
import GridexEdge.Node.FrameReplies

/-!
The CRC of a frame as a shift register, and what it finds.

The sixteen bits of the register hold two bytes at once, so a frame that passes the check
fails it after any change confined to two adjacent bytes.
-/

namespace GridexEdge.Node.MbusNode

open Foundation

def crcPolynomial : BitVec 16 := 0xA001#16

theorem msb_crcPolynomial : crcPolynomial.msb = true := by decide

/-- The symbol that a byte is to the register. -/
def crcSymbol (byte : UInt8) : BitVec 16 := byte.toUInt16.toBitVec

theorem below_crcSymbol (byte : UInt8) : Below 8 (crcSymbol byte) := by
  intro index outside
  have small : byte.toNat < 2 ^ index :=
    Nat.lt_of_lt_of_le byte.toNat_lt (Nat.pow_le_pow_right (by decide) outside)
  exact Nat.testBit_lt_two_pow small

theorem crcSymbol_injective : Function.Injective crcSymbol := by
  intro first second same
  have values : first.toNat = second.toNat := congrArg (fun symbol => symbol.toNat) same
  exact UInt8.toNat_inj.mp values

theorem toBitVec_crcBit (crc : UInt16) :
    (crcBit crc).toBitVec = shiftBit crcPolynomial crc.toBitVec := by
  have low : crc &&& 1 ≠ 0 ↔ crc.toBitVec.getLsbD 0 = true := by
    have masked : (crc &&& 1).toBitVec = (BitVec.ofBool (crc.toBitVec.getLsbD 0)).setWidth 16 :=
      BitVec.and_one_eq_setWidth_ofBool_getLsbD
    rw [Ne, ← UInt16.toBitVec_inj, masked]
    cases crc.toBitVec.getLsbD 0 <;> decide
  have down : (crc >>> 1).toBitVec = crc.toBitVec >>> 1 := by
    simp
  unfold crcBit shiftBit
  by_cases set : crc.toBitVec.getLsbD 0 = true
  · rw [if_pos set, if_pos (low.mpr set), UInt16.toBitVec_xor, down]
    rfl
  · rw [if_neg set, if_neg (fun other => set (low.mp other)), down]

theorem toBitVec_crcBits (count : Nat) (crc : UInt16) :
    (Nat.iterate crcBit count crc).toBitVec = shiftBits crcPolynomial count crc.toBitVec := by
  induction count generalizing crc with
  | zero => rfl
  | succ count inductionHypothesis =>
      rw [Function.iterate_succ_apply, inductionHypothesis, toBitVec_crcBit]
      rfl

/-- The CRC of the code is the register after all bytes. -/
theorem toBitVec_crc16 (bytes : List UInt8) :
    (crc16 bytes).toBitVec = absorb crcPolynomial 8 0xFFFF#16 (bytes.map crcSymbol) := by
  have started : ∀ crc : UInt16,
      (bytes.foldl (fun crc byte => Nat.iterate crcBit 8 (crc ^^^ byte.toUInt16)) crc).toBitVec =
        absorb crcPolynomial 8 crc.toBitVec (bytes.map crcSymbol) := by
    induction bytes with
    | nil => exact fun _ => rfl
    | cons byte rest inductionHypothesis =>
        intro crc
        rw [List.foldl_cons, inductionHypothesis, toBitVec_crcBits, UInt16.toBitVec_xor]
        rfl
  exact started 0xFFFF

/-- What the node compares: the CRC of what stands before the last two bytes, with them. -/
def PassesCrc (frame : List UInt8) : Prop :=
  crc16 (frame.take (frame.length - 2)) =
    word (frame.getD (frame.length - 1) 0) (frame.getD (frame.length - 2) 0)

theorem intact_iff (frame : List UInt8) : Intact frame ↔ 4 ≤ frame.length ∧ PassesCrc frame :=
  Iff.rfl

theorem passesCrc_append (body : List UInt8) (low high : UInt8) :
    PassesCrc (body ++ [low, high]) ↔ crc16 body = word high low := by
  have length : (body ++ [low, high]).length = body.length + 2 := List.length_append
  rw [PassesCrc, length]
  simp

theorem toBitVec_word (high low : UInt8) :
    (word high low).toBitVec = pack 8 [crcSymbol low, crcSymbol high] := by
  have upper : (high.toUInt16 <<< 8).toBitVec = crcSymbol high <<< 8 := by simp [crcSymbol]
  apply BitVec.eq_of_getLsbD_eq
  intro index _
  rw [word, UInt16.toBitVec_or, upper, pack, pack, pack, BitVec.zero_shiftLeft, BitVec.xor_zero,
    BitVec.getLsbD_or, BitVec.getLsbD_xor, Bool.or_comm]
  by_cases below : index < 8
  · simp [below, crcSymbol]
  · have clear := below_crcSymbol low index (Nat.le_of_not_lt below)
    rw [clear, Bool.false_xor]
    exact congrArg (· || _) clear

/-- Two more bytes bring the register to zero exactly if they are what it held. -/
theorem crc16_append_eq_zero_iff (body : List UInt8) (low high : UInt8) :
    crc16 (body ++ [low, high]) = 0 ↔ crc16 body = word high low := by
  have small : ∀ symbol ∈ [crcSymbol low, crcSymbol high], Below 8 symbol := by
    simp [below_crcSymbol]
  have register : (crc16 (body ++ [low, high])).toBitVec =
      shiftBits crcPolynomial 16 ((crc16 body).toBitVec ^^^ (word high low).toBitVec) := by
    rw [toBitVec_crc16, toBitVec_crc16, List.map_append, absorb_append, toBitVec_word]
    exact absorb_eq_shiftBits small (Nat.le_refl 16) _
  have empty := shiftBits_zero crcPolynomial 16
  rw [← UInt16.toBitVec_inj, ← UInt16.toBitVec_inj, register]
  constructor
  · intro zero
    have cleared := shiftBits_injective msb_crcPolynomial 16 (zero.trans empty.symm)
    exact BitVec.xor_eq_zero_iff.mp cleared
  · intro same
    rw [same, BitVec.xor_self]
    exact empty

theorem passesCrc_iff {frame : List UInt8} (closed : 2 ≤ frame.length) :
    PassesCrc frame ↔ crc16 frame = 0 := by
  obtain ⟨low, high, last⟩ : ∃ low high, frame.drop (frame.length - 2) = [low, high] :=
    List.length_eq_two.mp (by rw [List.length_drop]; omega)
  rw [← List.take_append_drop (frame.length - 2) frame, last,
    passesCrc_append, crc16_append_eq_zero_iff]

/-- A change confined to one byte or to two adjacent bytes, the CRC's own among them. -/
def Burst (frame corrupted : List UInt8) : Prop :=
  ∃ front first second back, frame = front ++ first ++ back ∧
    corrupted = front ++ second ++ back ∧ first.length = second.length ∧ first.length ≤ 2 ∧
    first ≠ second

/-- No burst leads from one frame with a right CRC to another. -/
theorem Burst.crc16_ne {frame corrupted : List UInt8} (burst : Burst frame corrupted) :
    crc16 corrupted ≠ crc16 frame := by
  obtain ⟨front, first, second, back, rfl, rfl, length, short, changed⟩ := burst
  intro same
  have small : ∀ bytes : List UInt8, ∀ symbol ∈ bytes.map crcSymbol, Below 8 symbol := by
    simp [below_crcSymbol]
  have registers := congrArg UInt16.toBitVec same
  simp only [toBitVec_crc16, List.map_append] at registers
  have symbols := absorb_burst msb_crcPolynomial (by simp [length]) (by simp; omega)
    (small second) (small first) registers
  exact changed (List.map_injective_iff.mpr crcSymbol_injective symbols).symm

theorem crc16_withCrc (body : List UInt8) : crc16 (withCrc body) = 0 :=
  (crc16_append_eq_zero_iff body _ _).mpr (word_highByte_lowByte _).symm

/-- Every closed frame passes, passing is a remainder of zero, a node answers a frame that is
addressed to it and passes, and a burst is found. -/
theorem crc_detects_bursts :
    (∀ body, PassesCrc (withCrc body) ∧ crc16 (withCrc body) = 0) ∧
      (∀ frame, Intact frame ↔ 4 ≤ frame.length ∧ crc16 frame = 0) ∧
      (∀ frame, 4 ≤ frame.length → crc16 frame = 0 → ∀ node : MbusNode,
        frame.getD 0 0 = 0 ∨ frame.getD 0 0 = node.config.address →
          node.processFrame frame = node.answerFrame (frame.getD 0 0) frame) ∧
      ∀ frame corrupted, Burst frame corrupted → crc16 frame = 0 →
        crc16 corrupted ≠ 0 ∧ ∀ node : MbusNode, node.processFrame corrupted = ([], node) := by
  have checked : ∀ frame, Intact frame ↔ 4 ≤ frame.length ∧ crc16 frame = 0 := fun frame => by
    rw [intact_iff]
    exact and_congr_right fun long => passesCrc_iff (by omega)
  refine ⟨fun body => ?_, checked, fun frame long passes node addressed => ?_,
    fun frame corrupted burst passes => ?_⟩
  · have closed : 2 ≤ (withCrc body).length := by simp [withCrc]
    exact ⟨(passesCrc_iff closed).mpr (crc16_withCrc body), crc16_withCrc body⟩
  · exact processFrame_of_intact ((checked frame).mpr ⟨long, passes⟩) addressed
  · have fails : crc16 corrupted ≠ 0 := by
      rw [← passes]
      exact burst.crc16_ne
    refine ⟨fails, fun node => processFrame_of_ignored (.inl fun intact => ?_)⟩
    exact fails ((checked corrupted).mp intact).2

end GridexEdge.Node.MbusNode
