import Mathlib.Data.Nat.Bitwise
import Mathlib.Data.List.Basic

/-!
Sixteen-bit words as big-endian byte pairs, and pairs of such words.

A wire format that carries words reads them back from a byte list at an offset.
`readWords_append` is the round trip every codec over this format uses.
-/

namespace GridexEdge.Foundation

/-- The word whose most significant byte is `high`. -/
def word (high low : UInt8) : UInt16 :=
  (high.toUInt16 <<< 8) ||| low.toUInt16

def highByte (value : UInt16) : UInt8 := (value >>> 8).toUInt8

def lowByte (value : UInt16) : UInt8 := (value &&& 0xFF).toUInt8

theorem word_toNat (high low : UInt8) :
    (word high low).toNat = high.toNat * 256 + low.toNat := by
  have highBound := high.toNat_lt
  have lowBound := low.toNat_lt
  simp only [word, UInt16.toNat_or, UInt16.toNat_shiftLeft, UInt8.toNat_toUInt16]
  have shifted : high.toNat <<< (UInt16.toNat 8 % 16) % 2 ^ 16 = high.toNat <<< 8 := by
    apply Nat.mod_eq_of_lt
    simp only [UInt16.reduceToNat, Nat.reduceMod, Nat.shiftLeft_eq]
    omega
  rw [shifted, ← Nat.shiftLeft_add_eq_or_of_lt (by simpa using lowBound), Nat.shiftLeft_eq]

theorem highByte_toNat (value : UInt16) : (highByte value).toNat = value.toNat / 256 := by
  have bound := value.toNat_lt
  simp only [highByte, UInt16.toNat_toUInt8, UInt16.toNat_shiftRight,
    Nat.shiftRight_eq_div_pow]
  simp only [UInt16.reduceToNat, Nat.reduceMod]
  omega

theorem lowByte_toNat (value : UInt16) : (lowByte value).toNat = value.toNat % 256 := by
  have masked : value.toNat &&& 255 = value.toNat % 256 :=
    Nat.and_two_pow_sub_one_eq_mod _ 8
  simp only [lowByte, UInt16.toNat_toUInt8, UInt16.toNat_and]
  rw [show UInt16.toNat 0xFF = 255 from rfl, masked]
  omega

@[simp]
theorem word_highByte_lowByte (value : UInt16) :
    word (highByte value) (lowByte value) = value := by
  apply UInt16.toNat_inj.mp
  rw [word_toNat, highByte_toNat, lowByte_toNat]
  omega

@[simp]
theorem highByte_word (high low : UInt8) : highByte (word high low) = high := by
  have bound := low.toNat_lt
  apply UInt8.toNat_inj.mp
  rw [highByte_toNat, word_toNat]
  omega

@[simp]
theorem lowByte_word (high low : UInt8) : lowByte (word high low) = low := by
  have bound := low.toNat_lt
  apply UInt8.toNat_inj.mp
  rw [lowByte_toNat, word_toNat]
  omega

/-- Append one word, high byte first. -/
def appendU16 (bytes : List UInt8) (value : UInt16) : List UInt8 :=
  bytes ++ [highByte value, lowByte value]

/-- The wire image of a list of words. -/
def wordsBytes : List UInt16 → List UInt8
  | [] => []
  | value :: rest => highByte value :: lowByte value :: wordsBytes rest

@[simp]
theorem length_wordsBytes (values : List UInt16) :
    (wordsBytes values).length = 2 * values.length := by
  induction values with
  | nil => rfl
  | cons value rest inductionHypothesis =>
      simp only [wordsBytes, List.length_cons, inductionHypothesis]
      omega

theorem foldl_appendU16 (bytes : List UInt8) (values : List UInt16) :
    values.foldl appendU16 bytes = bytes ++ wordsBytes values := by
  induction values generalizing bytes with
  | nil => simp [wordsBytes]
  | cons value rest inductionHypothesis =>
      simp [inductionHypothesis, appendU16, wordsBytes]

/-- The word at a byte offset. Absent bytes read as zero: every caller has
checked the length before it reads. -/
def readU16 (bytes : List UInt8) (offset : Nat) : UInt16 :=
  word (bytes.getD offset 0) (bytes.getD (offset + 1) 0)

theorem readU16_append_right (front bytes : List UInt8) (offset : Nat) :
    readU16 (front ++ bytes) (front.length + offset) = readU16 bytes offset := by
  have skip : ∀ index, (front ++ bytes).getD (front.length + index) 0 = bytes.getD index 0 := by
    intro index
    rw [List.getD_append_right _ _ _ _ (Nat.le_add_right _ _), Nat.add_sub_cancel_left]
  unfold readU16
  rw [Nat.add_assoc, skip, skip]

theorem readU16_append_left (bytes back : List UInt8) (offset : Nat)
    (inside : offset + 1 < bytes.length) :
    readU16 (bytes ++ back) offset = readU16 bytes offset := by
  unfold readU16
  rw [List.getD_append _ _ _ _ (by omega), List.getD_append _ _ _ _ inside]

@[simp]
theorem readU16_zero (high low : UInt8) (rest : List UInt8) :
    readU16 (high :: low :: rest) 0 = word high low := rfl

@[simp]
theorem readU16_succ (head : UInt8) (rest : List UInt8) (offset : Nat) :
    readU16 (head :: rest) (offset + 1) = readU16 rest offset := rfl

/-- Consecutive words from a byte offset. -/
def readWords (bytes : List UInt8) (offset : Nat) : Nat → List UInt16
  | 0 => []
  | count + 1 => readU16 bytes offset :: readWords bytes (offset + 2) count

@[simp]
theorem length_readWords (bytes : List UInt8) (offset count : Nat) :
    (readWords bytes offset count).length = count := by
  induction count generalizing offset with
  | zero => rfl
  | succ count inductionHypothesis => simp [readWords, inductionHypothesis]

theorem readWords_wordsBytes (values : List UInt16) (back : List UInt8) :
    readWords (wordsBytes values ++ back) 0 values.length = values := by
  suffices general : ∀ (front : List UInt8) (remaining : List UInt16),
      readWords (front ++ (wordsBytes remaining ++ back)) front.length
        remaining.length = remaining by
    simpa using general [] values
  intro front remaining
  induction remaining generalizing front with
  | nil => rfl
  | cons value rest inductionHypothesis =>
      simp only [List.length_cons, readWords, wordsBytes, List.cons_append]
      have headWord : readU16
          (front ++ highByte value :: lowByte value :: (wordsBytes rest ++ back))
          front.length = value := by
        have moved := readU16_append_right front
          (highByte value :: lowByte value :: (wordsBytes rest ++ back)) 0
        simpa using moved
      have tailWords := inductionHypothesis (front ++ [highByte value, lowByte value])
      simp only [List.append_assoc, List.cons_append, List.nil_append,
        List.length_append, List.length_cons, List.length_nil] at tailWords
      rw [headWord, tailWords]

/-- Words written after any header are read back from the header's length. -/
theorem readWords_append (header : List UInt8) (values : List UInt16) (back : List UInt8) :
    readWords (header ++ wordsBytes values ++ back) header.length values.length = values := by
  have shift : ∀ count offset,
      readWords (header ++ (wordsBytes values ++ back)) (header.length + offset) count =
        readWords (wordsBytes values ++ back) offset count := by
    intro count
    induction count with
    | zero => intro offset; rfl
    | succ count inductionHypothesis =>
        intro offset
        simp only [readWords]
        rw [readU16_append_right, Nat.add_assoc, inductionHypothesis]
  rw [List.append_assoc]
  exact (shift values.length 0).trans (readWords_wordsBytes values back)

/-! ### Pairs of words -/

def doubleWord (high low : UInt16) : UInt32 := (high.toUInt32 <<< 16) ||| low.toUInt32

def highWord (value : UInt32) : UInt16 := (value >>> 16).toUInt16

def lowWord (value : UInt32) : UInt16 := value.toUInt16

theorem doubleWord_toNat (high low : UInt16) :
    (doubleWord high low).toNat = high.toNat * 65536 + low.toNat := by
  have highBound := high.toNat_lt
  have lowBound := low.toNat_lt
  simp only [doubleWord, UInt32.toNat_or, UInt32.toNat_shiftLeft, UInt16.toNat_toUInt32]
  have shifted : high.toNat <<< (UInt32.toNat 16 % 32) % 2 ^ 32 = high.toNat <<< 16 := by
    apply Nat.mod_eq_of_lt
    simp only [UInt32.reduceToNat, Nat.reduceMod, Nat.shiftLeft_eq]
    omega
  rw [shifted, ← Nat.shiftLeft_add_eq_or_of_lt (by simpa using lowBound), Nat.shiftLeft_eq]

theorem highWord_toNat (value : UInt32) : (highWord value).toNat = value.toNat / 65536 := by
  have bound := value.toNat_lt
  simp only [highWord, UInt32.toNat_toUInt16, UInt32.toNat_shiftRight,
    Nat.shiftRight_eq_div_pow]
  simp only [UInt32.reduceToNat, Nat.reduceMod]
  omega

theorem lowWord_toNat (value : UInt32) : (lowWord value).toNat = value.toNat % 65536 :=
  UInt32.toNat_toUInt16 value

@[simp]
theorem highWord_doubleWord (high low : UInt16) : highWord (doubleWord high low) = high := by
  have bound := low.toNat_lt
  apply UInt16.toNat_inj.mp
  rw [highWord_toNat, doubleWord_toNat]
  omega

@[simp]
theorem lowWord_doubleWord (high low : UInt16) : lowWord (doubleWord high low) = low := by
  have bound := low.toNat_lt
  apply UInt16.toNat_inj.mp
  rw [lowWord_toNat, doubleWord_toNat]
  omega

end GridexEdge.Foundation
