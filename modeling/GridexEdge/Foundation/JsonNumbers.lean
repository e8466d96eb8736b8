import GridexEdge.Foundation.Json
import GridexEdge.Foundation.StreamFormat

/-!
What a stream prints for a number is a number of the JSON grammar.
-/

namespace GridexEdge.Foundation.Json

theorem asciiBytes_append (first second : Text) :
    asciiBytes (first ++ second) = asciiBytes first ++ asciiBytes second :=
  List.map_append

/-- The byte of a digit has the value of its character. -/
theorem toNat_digit {character : Char} (digit : character.isDigit = true) :
    character.val.toUInt8.toNat = character.val.toNat ∧ 48 ≤ character.val.toNat ∧
      character.val.toNat ≤ 57 := by
  have bounds : 48 ≤ character.val.toNat ∧ character.val.toNat ≤ 57 := by
    simpa [Char.isDigit, UInt32.le_iff_toNat_le] using digit
  refine ⟨?_, bounds⟩
  rw [UInt32.toNat_toUInt8]
  omega

theorem isDigit_of_isDigit {character : Char} (digit : character.isDigit = true) :
    isDigit character.val.toUInt8 = true := by
  obtain ⟨small, bounds⟩ := toNat_digit digit
  rw [isDigit, Bool.and_eq_true, decide_eq_true_eq, decide_eq_true_eq, UInt8.le_iff_toNat_le,
    UInt8.le_iff_toNat_le, small]
  exact bounds

theorem all_isDigit_decimal (value : Nat) : (decimal value).all Char.isDigit = true := by
  rw [List.all_eq_true]
  exact fun character member => Nat.isDigit_of_mem_toDigits (by decide) (by decide) member

theorem decimal_eq_cons {value : Nat} (positive : 0 < value) :
    ∃ first rest, decimal value = first :: rest ∧ first ≠ '0' := by
  have digits : ∀ digit, digit < 10 → 0 < digit → Nat.digitChar digit ≠ '0' := by decide
  induction value using Nat.strong_induction_on with
  | _ value inductionHypothesis =>
      rw [decimal, Nat.toDigits_eq_if (by decide)]
      split
      · next small => exact ⟨_, [], rfl, digits value small positive⟩
      · next large =>
          obtain ⟨first, rest, split, nonzero⟩ :=
            inductionHypothesis (value / 10) (by omega) (by omega)
          rw [decimal] at split
          exact ⟨first, rest ++ [Nat.digitChar (value % 10)], by rw [split]; rfl, nonzero⟩

namespace NumberPart

theorem readAll_append {part middle last : NumberPart} {first second : Text}
    (before : part.readAll (asciiBytes first) = some middle)
    (after : middle.readAll (asciiBytes second) = some last) :
    part.readAll (asciiBytes (first ++ second)) = some last := by
  rw [readAll] at before after
  rw [asciiBytes_append, readAll, List.foldlM_append, before]
  exact after

theorem readAll_cons {part after : NumberPart} {character : Char}
    (stepped : part.next character.val.toUInt8 = some after) (rest : Text) :
    part.readAll (asciiBytes (character :: rest)) = after.readAll (asciiBytes rest) := by
  rw [asciiBytes, List.map_cons, readAll, List.foldlM_cons, stepped]
  rfl

theorem readAll_digits {part : NumberPart}
    (stays : ∀ byte, isDigit byte = true → part.next byte = some part) {digits : Text}
    (all : digits.all Char.isDigit = true) : part.readAll (asciiBytes digits) = some part := by
  induction digits with
  | nil => rfl
  | cons character rest inductionHypothesis =>
      rw [List.all_cons, Bool.and_eq_true] at all
      rw [readAll_cons (stays _ (isDigit_of_isDigit all.1)), inductionHypothesis all.2]

theorem next_whole {byte : UInt8} (digit : isDigit byte = true) :
    next .whole byte = some .whole := if_pos digit

theorem next_fraction {byte : UInt8} (digit : isDigit byte = true) :
    next .fraction byte = some .fraction := if_pos digit

theorem next_exponent {byte : UInt8} (digit : isDigit byte = true) :
    next .exponent byte = some .exponent := if_pos digit

/-- Digits that do not start with a zero, after a sign or without one. -/
theorem readAll_lead {part : NumberPart} (starts : part = .start ∨ part = .minus)
    {first : Char} {rest : Text} (nonzero : first ≠ '0')
    (all : (first :: rest).all Char.isDigit = true) :
    part.readAll (asciiBytes (first :: rest)) = some .whole := by
  rw [List.all_cons, Bool.and_eq_true] at all
  have digit := isDigit_of_isDigit all.1
  have noMinus : first.val.toUInt8 ≠ 0x2D := by
    intro same
    rw [same] at digit
    exact absurd digit (by decide)
  have noZero : first.val.toUInt8 ≠ 0x30 := by
    intro same
    have value := (toNat_digit all.1).1
    rw [same] at value
    exact nonzero (Char.ext (UInt32.toNat_inj.mp value.symm))
  have leads : lead first.val.toUInt8 = some .whole := (if_neg noZero).trans (if_pos digit)
  have stepped : part.next first.val.toUInt8 = some .whole := by
    rcases starts with rfl | rfl
    · exact (if_neg noMinus).trans leads
    · exact leads
  rw [readAll_cons stepped, readAll_digits (fun _ => next_whole) all.2]

end NumberPart

theorem isNumber_decimal (value : Nat) : isNumber (asciiBytes (decimal value)) = true := by
  rcases Nat.eq_zero_or_pos value with rfl | positive
  · rfl
  · obtain ⟨first, rest, split, nonzero⟩ := decimal_eq_cons positive
    have all := all_isDigit_decimal value
    rw [split] at all
    rw [split, isNumber, NumberPart.readAll_lead (.inl rfl) nonzero all]
    rfl

def digitsValue (digits : List UInt8) : Nat :=
  digits.foldl (fun value digit => 10 * value + (digit.toNat - 0x30)) 0

/-- The value of a number that has digits only. -/
def natural? : Json → Option Nat
  | .number text => if text.all isDigit then some (digitsValue text) else none
  | _ => none

theorem digitsValue_decimal (value : Nat) : digitsValue (asciiBytes (decimal value)) = value := by
  have same : ∀ (digits : Text) (start : Nat), digits.all Char.isDigit = true →
      (asciiBytes digits).foldl (fun value digit => 10 * value + (digit.toNat - 0x30)) start =
        Nat.ofDigitChars 10 digits start := by
    intro digits
    induction digits with
    | nil => exact fun start _ => rfl
    | cons digit rest inductionHypothesis =>
        intro start all
        rw [List.all_cons, Bool.and_eq_true] at all
        have byte := (toNat_digit all.1).1
        rw [asciiBytes, List.map_cons, List.foldl_cons, byte, Nat.ofDigitChars_cons]
        exact inductionHypothesis _ all.2
  rw [digitsValue, same _ 0 (all_isDigit_decimal value)]
  exact Nat.ofDigitChars_ten_toDigits

theorem natural?_decimal (value : Nat) :
    natural? (.number (asciiBytes (decimal value))) = some value := by
  have digits : (asciiBytes (decimal value)).all isDigit = true := by
    rw [asciiBytes, List.all_map, List.all_eq_true]
    exact fun character member =>
      isDigit_of_isDigit (List.all_eq_true.mp (all_isDigit_decimal value) character member)
  rw [natural?, if_pos digits, digitsValue_decimal]

/-! ### Rationals -/

theorem one_le_roundHalfEven {value : ℚ} (large : 1 ≤ value) : 1 ≤ roundHalfEven value := by
  have floor : 1 ≤ ⌊value⌋ := Int.le_floor.mpr (by exact_mod_cast large)
  unfold roundHalfEven
  dsimp only
  split_ifs <;> omega

/-- The digits are those of a positive number. -/
theorem significantDigits_eq_decimal {magnitude : ℚ} (positive : 0 < magnitude) :
    ∃ value, 0 < value ∧ (significantDigits magnitude).1 = decimal value := by
  unfold significantDigits
  dsimp only
  split
  · exact ⟨100000, by decide, rfl⟩
  · refine ⟨_, ?_, rfl⟩
    have least : (10 : ℚ) ^ Int.log 10 magnitude ≤ magnitude :=
      Int.zpow_log_le_self (by decide) positive
    have scaled : (10 : ℚ) ^ Int.log 10 magnitude * 10 ^ (5 - Int.log 10 magnitude) = 100000 := by
      rw [← zpow_add₀ (by norm_num), add_sub_cancel]
      norm_num
    have large : 1 ≤ magnitude * 10 ^ (5 - Int.log 10 magnitude) := by
      calc (1 : ℚ) ≤ 100000 := by norm_num
        _ = 10 ^ Int.log 10 magnitude * 10 ^ (5 - Int.log 10 magnitude) := scaled.symm
        _ ≤ magnitude * 10 ^ (5 - Int.log 10 magnitude) :=
            mul_le_mul_of_nonneg_right least (zpow_nonneg (by norm_num) _)
    have rounded := one_le_roundHalfEven large
    omega

namespace NumberPart

/-- The digits before the point may be followed by a fraction. -/
theorem readAll_fraction {part : NumberPart} (ended : part = .zero ∨ part = .whole)
    {digits : Text} (all : digits.all Char.isDigit = true) :
    ∃ last, part.readAll (asciiBytes (Foundation.fraction digits)) = some last ∧
      (last = .zero ∨ last = .whole ∨ last = .fraction) := by
  have pointed : part.next '.'.val.toUInt8 = some .point := by
    rcases ended with rfl | rfl <;> rfl
  unfold Foundation.fraction
  split
  · exact ⟨part, rfl, by tauto⟩
  · next kept nonempty =>
      refine ⟨.fraction, ?_, .inr (.inr rfl)⟩
      have digit : ∀ character ∈ digits.rdropWhile (· == '0'), character.isDigit = true :=
        fun character member =>
          List.all_eq_true.mp all character ((List.rdropWhile_prefix _ _).subset member)
      cases cut : digits.rdropWhile (· == '0') with
      | nil => exact absurd cut nonempty
      | cons first rest =>
          rw [cut] at digit
          have opened : next .point first.val.toUInt8 = some .fraction :=
            if_pos (isDigit_of_isDigit (digit first List.mem_cons_self))
          have others : rest.all Char.isDigit = true := List.all_eq_true.mpr
            fun character member => digit character (List.mem_cons_of_mem _ member)
          rw [readAll_cons pointed, readAll_cons opened,
            readAll_digits (fun _ => next_fraction) others]

theorem all_isDigit_padded (width value : Nat) : (padded width value).all Char.isDigit = true := by
  rw [padded, List.leftpad, List.all_append, all_isDigit_decimal, Bool.and_true]
  simp

/-- An exponent has a sign and digits. -/
theorem readAll_exponent {part : NumberPart}
    (ended : part = .zero ∨ part = .whole ∨ part = .fraction) (negative : Prop)
    [Decidable negative] (value : Nat) :
    part.readAll (asciiBytes (['e', if negative then '-' else '+'] ++ padded 2 value)) =
      some .exponent := by
  have marked : part.next 'e'.val.toUInt8 = some .mark := by
    rcases ended with rfl | rfl | rfl <;> rfl
  have signed : next .mark (if negative then '-' else '+').val.toUInt8 = some .sign := by
    split <;> rfl
  have all := all_isDigit_padded 2 value
  have nonempty : padded 2 value ≠ [] := by
    simp [padded, List.leftpad, decimal]
  cases digits : padded 2 value with
  | nil => exact absurd digits nonempty
  | cons first rest =>
      rw [digits, List.all_cons, Bool.and_eq_true] at all
      have opened : next .sign first.val.toUInt8 = some .exponent :=
        if_pos (isDigit_of_isDigit all.1)
      rw [List.cons_append, List.singleton_append, readAll_cons marked, readAll_cons signed,
        readAll_cons opened, readAll_digits (fun _ => next_exponent) all.2]

end NumberPart

theorem isNumber_of_readAll {text : List UInt8} {part : NumberPart}
    (read : NumberPart.start.readAll text = some part) (complete : part.complete = true) :
    isNumber text = true := by
  rw [isNumber, read]
  exact complete

theorem complete_of_ended {part : NumberPart}
    (ended : part = .zero ∨ part = .whole ∨ part = .fraction) : part.complete = true := by
  rcases ended with rfl | rfl | rfl <;> rfl

theorem readAll_sign (negative : Prop) [Decidable negative] :
    ∃ part, NumberPart.start.readAll (asciiBytes (if negative then ['-'] else [])) = some part ∧
      (part = .start ∨ part = .minus) := by
  split
  · exact ⟨.minus, rfl, .inr rfl⟩
  · exact ⟨.start, rfl, .inl rfl⟩

/-! The three formats -/

section Formats

variable {sign : Text} {part : NumberPart}
  (signed : NumberPart.start.readAll (asciiBytes sign) = some part)
  (starts : part = .start ∨ part = .minus) {digits : Text}
  (all : digits.all Char.isDigit = true)

include signed starts all

/-- A number that starts with some of the digits and has the rest in its fraction. -/
theorem readAll_pointed (lead : ∃ first rest, digits = first :: rest ∧ first ≠ '0') (count : Nat) :
    ∃ last, NumberPart.start.readAll (asciiBytes
        (sign ++ digits.take (count + 1) ++ fraction (digits.drop (count + 1)))) = some last ∧
      (last = .zero ∨ last = .whole ∨ last = .fraction) := by
  obtain ⟨first, rest, rfl, nonzero⟩ := lead
  rw [List.all_eq_true] at all
  have taken : ((first :: rest).take (count + 1)).all Char.isDigit = true :=
    List.all_eq_true.mpr fun character member => all character (List.mem_of_mem_take member)
  have dropped : ((first :: rest).drop (count + 1)).all Char.isDigit = true :=
    List.all_eq_true.mpr fun character member => all character (List.mem_of_mem_drop member)
  have whole : part.readAll (asciiBytes ((first :: rest).take (count + 1))) = some .whole :=
    NumberPart.readAll_lead starts nonzero taken
  obtain ⟨last, read, ended⟩ := NumberPart.readAll_fraction (.inr rfl) dropped
  exact ⟨last, NumberPart.readAll_append (NumberPart.readAll_append signed whole) read, ended⟩

/-- A number below one. -/
theorem readAll_small (count : Nat) :
    ∃ last, NumberPart.start.readAll (asciiBytes
        (sign ++ decimal 0 ++ fraction (List.replicate count '0' ++ digits))) = some last ∧
      (last = .zero ∨ last = .whole ∨ last = .fraction) := by
  have zeros : (List.replicate count '0' ++ digits).all Char.isDigit = true := by
    rw [List.all_append, all, Bool.and_true]
    simp
  have zero : part.readAll (asciiBytes (decimal 0)) = some .zero := by
    rcases starts with rfl | rfl <;> rfl
  obtain ⟨last, read, ended⟩ := NumberPart.readAll_fraction (.inl rfl) zeros
  exact ⟨last, NumberPart.readAll_append (NumberPart.readAll_append signed zero) read, ended⟩

end Formats

/-- A stream in its default format prints numbers of the grammar. -/
theorem isNumber_streamDouble (value : ℚ) : isNumber (asciiBytes (streamDouble value)) = true := by
  unfold streamDouble
  split
  · exact isNumber_decimal 0
  · next nonzero =>
      obtain ⟨scaled, positive, digits⟩ := significantDigits_eq_decimal (abs_pos.mpr nonzero)
      have all := all_isDigit_decimal scaled
      have lead := decimal_eq_cons positive
      rw [← digits] at all lead
      obtain ⟨part, signed, starts⟩ := readAll_sign (value < 0)
      dsimp only
      split
      · obtain ⟨last, read, ended⟩ := readAll_pointed signed starts all lead 0
        have exponent := NumberPart.readAll_exponent ended
          ((significantDigits |value|).2 < 0) (significantDigits |value|).2.natAbs
        have number := NumberPart.readAll_append read exponent
        rw [← List.append_assoc] at number
        exact isNumber_of_readAll number rfl
      · split
        · obtain ⟨last, read, ended⟩ := readAll_small signed starts all
            (-(significantDigits |value|).2 - 1).toNat
          exact isNumber_of_readAll read (complete_of_ended ended)
        · obtain ⟨last, read, ended⟩ := readAll_pointed signed starts all lead
            (significantDigits |value|).2.toNat
          exact isNumber_of_readAll read (complete_of_ended ended)

end GridexEdge.Foundation.Json
