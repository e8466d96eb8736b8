import Mathlib.Data.List.DropRight

/-!
Text as the bytes of its characters: trimming, and the lower-case hexadecimal text
of a byte string.
-/

namespace GridexEdge.Foundation

/-- The bytes of characters below 256. -/
def asciiBytes (characters : List Char) : List UInt8 :=
  characters.map fun character => character.val.toUInt8

/-! ### Trimming -/

/-- Remove the blanks at both ends. -/
def trim (blank : UInt8 → Bool) (text : List UInt8) : List UInt8 :=
  (text.dropWhile blank).rdropWhile blank

/-- Blanks after a text that neither begins nor ends with one are all that a trim
removes. -/
theorem trim_append {blank : UInt8 → Bool} {text trailing : List UInt8} (nonempty : text ≠ [])
    (first : blank (text.head nonempty) = false) (last : blank (text.getLast nonempty) = false)
    (blanks : ∀ character ∈ trailing, blank character = true) :
    trim blank (text ++ trailing) = text := by
  have cut : (text ++ trailing).rdropWhile blank = text := by
    induction trailing using List.reverseRecOn with
    | nil =>
        rw [List.append_nil, List.rdropWhile_eq_self_iff]
        intro _
        rw [last]
        exact Bool.false_ne_true
    | append_singleton rest final inductionHypothesis =>
        rw [← List.append_assoc, List.rdropWhile_concat_pos _ _ _ (blanks final (by simp))]
        exact inductionHypothesis fun character member =>
          blanks character (List.mem_append_left _ member)
  have kept : (text ++ trailing).dropWhile blank = text ++ trailing := by
    cases text with
    | nil => exact absurd rfl nonempty
    | cons head rest =>
        rw [List.head_cons] at first
        rw [List.cons_append, List.dropWhile_cons_of_neg (by simp [first])]
  rw [trim, kept, cut]

/-! ### Hexadecimal text -/

def hexDigits : List UInt8 :=
  asciiBytes ['0', '1', '2', '3', '4', '5', '6', '7', '8', '9', 'a', 'b', 'c', 'd', 'e', 'f']

def hexDigit (value : UInt8) : UInt8 := hexDigits.getD value.toNat 0

def hexDigest (digest : List UInt8) : List UInt8 :=
  digest.flatMap fun (value : UInt8) => [hexDigit (value >>> 4), hexDigit (value &&& 0x0F)]

@[simp]
theorem hexDigest_cons (value : UInt8) (rest : List UInt8) :
    hexDigest (value :: rest) =
      hexDigit (value >>> 4) :: hexDigit (value &&& 0x0F) :: hexDigest rest := rfl

@[simp]
theorem length_hexDigest (digest : List UInt8) :
    (hexDigest digest).length = 2 * digest.length := by
  induction digest with
  | nil => rfl
  | cons value rest inductionHypothesis =>
      rw [hexDigest_cons, List.length_cons, List.length_cons, inductionHypothesis,
        List.length_cons]
      rfl

/-- Every character is a digit or a lower-case letter up to `f`. -/
theorem mem_hexDigest {digest : List UInt8} {character : UInt8}
    (member : character ∈ hexDigest digest) :
    (0x30 ≤ character ∧ character ≤ 0x39) ∨ (0x61 ≤ character ∧ character ≤ 0x66) := by
  have digits : ∀ value : Nat, value < 16 →
      (0x30 ≤ hexDigits.getD value 0 ∧ hexDigits.getD value 0 ≤ 0x39) ∨
        (0x61 ≤ hexDigits.getD value 0 ∧ hexDigits.getD value 0 ≤ 0x66) := by decide
  have high : ∀ value : UInt8, (value >>> 4).toNat < 16 := by
    intro value
    have bound := value.toNat_lt
    rw [UInt8.toNat_shiftRight, Nat.shiftRight_eq_div_pow]
    exact Nat.div_lt_of_lt_mul bound
  have low : ∀ value : UInt8, (value &&& 0x0F).toNat < 16 := by
    intro value
    rw [UInt8.toNat_and]
    exact Nat.lt_of_le_of_lt Nat.and_le_right (by decide)
  induction digest with
  | nil => exact absurd member List.not_mem_nil
  | cons value rest inductionHypothesis =>
      rw [hexDigest_cons, List.mem_cons, List.mem_cons] at member
      rcases member with rfl | rfl | later
      · exact digits _ (high value)
      · exact digits _ (low value)
      · exact inductionHypothesis later

end GridexEdge.Foundation
