import Mathlib.Data.Int.Log
import Mathlib.Data.List.DropRight
import Mathlib.Data.Rat.Floor

/-!
The characters an output stream prints for numbers in its default format:
decimal naturals, and rationals to six significant digits.
-/

namespace GridexEdge.Foundation

abbrev Text := List Char

def decimal (value : Nat) : Text := Nat.toDigits 10 value

/-- At least `width` digits. -/
def padded (width value : Nat) : Text := (decimal value).leftpad width '0'

/-- Round to the nearest integer, halves to the even one. -/
def roundHalfEven (value : ℚ) : ℤ :=
  let low := ⌊value⌋
  if value - low < 1 / 2 then low
  else if 1 / 2 < value - low then low + 1
  else if low % 2 = 0 then low
  else low + 1

/-- The six significant digits of a positive value and the exponent of the first. -/
def significantDigits (magnitude : ℚ) : Text × ℤ :=
  let exponent := Int.log 10 magnitude
  let scaled := roundHalfEven (magnitude * 10 ^ (5 - exponent))
  if scaled = 1000000 then (decimal 100000, exponent + 1)
  else (decimal scaled.toNat, exponent)

/-- A fraction part, absent when only zeros are left. -/
def fraction (digits : Text) : Text :=
  match digits.rdropWhile (· == '0') with
  | [] => []
  | kept => '.' :: kept

def streamDouble (value : ℚ) : Text :=
  if value = 0 then decimal 0
  else
    let sign : Text := if value < 0 then ['-'] else []
    let (digits, exponent) := significantDigits |value|
    let whole := exponent.toNat + 1
    if exponent < -4 ∨ 6 ≤ exponent then
      sign ++ digits.take 1 ++ fraction (digits.drop 1) ++
        ['e', if exponent < 0 then '-' else '+'] ++ padded 2 exponent.natAbs
    else if exponent < 0 then
      sign ++ decimal 0 ++ fraction (List.replicate (-exponent - 1).toNat '0' ++ digits)
    else sign ++ digits.take whole ++ fraction (digits.drop whole)

/-- The characters of a number. -/
def numeric (character : Char) : Bool :=
  character.isDigit || character == '-' || character == '+' || character == '.' ||
    character == 'e'

theorem numeric_decimal (value : Nat) : (decimal value).all numeric := by
  rw [List.all_eq_true]
  intro character member
  have digit := Nat.isDigit_of_mem_toDigits (by decide) (by decide) member
  simp [numeric, digit]

theorem numeric_padded (width value : Nat) : (padded width value).all numeric := by
  rw [padded, List.leftpad, List.all_append, numeric_decimal, Bool.and_true]
  simp [numeric]

theorem numeric_significantDigits (magnitude : ℚ) :
    (significantDigits magnitude).1.all numeric := by
  unfold significantDigits
  dsimp only
  split
  · exact numeric_decimal 100000
  · exact numeric_decimal _

theorem numeric_fraction {digits : Text} (all : digits.all numeric) :
    (fraction digits).all numeric := by
  rw [List.all_eq_true] at all
  have kept : (digits.rdropWhile (· == '0')).all numeric := by
    rw [List.all_eq_true]
    intro character member
    exact all character ((List.rdropWhile_prefix _ _).subset member)
  unfold fraction
  split
  · rfl
  · rw [List.all_cons, kept]
    rfl

theorem all_take {digits : Text} (all : digits.all numeric) (count : Nat) :
    (digits.take count).all numeric := by
  rw [List.all_eq_true] at all ⊢
  exact fun character member => all character (List.mem_of_mem_take member)

theorem all_drop {digits : Text} (all : digits.all numeric) (count : Nat) :
    (digits.drop count).all numeric := by
  rw [List.all_eq_true] at all ⊢
  exact fun character member => all character (List.mem_of_mem_drop member)

/-- Whatever a stream prints for a number consists of the characters of numbers. -/
theorem numeric_streamDouble (value : ℚ) : (streamDouble value).all numeric := by
  have digits := numeric_significantDigits |value|
  have sign : (if value < 0 then ['-'] else []).all numeric := by
    split <;> rfl
  unfold streamDouble
  split
  · exact numeric_decimal 0
  · dsimp only
    split
    · have marks : (['e', if (significantDigits |value|).2 < 0 then '-' else '+'] : Text).all
          numeric := by
        split <;> rfl
      simp only [List.all_append, sign, all_take digits, numeric_fraction (all_drop digits 1),
        marks, numeric_padded, Bool.and_self]
    · split
      · have zeros : (List.replicate (-(significantDigits |value|).2 - 1).toNat '0' ++
            (significantDigits |value|).1).all numeric := by
          rw [List.all_append, digits, Bool.and_true, List.all_eq_true]
          intro character member
          rw [List.eq_of_mem_replicate member]
          rfl
        simp only [List.all_append, sign, numeric_decimal, numeric_fraction zeros, Bool.and_self]
      · simp only [List.all_append, sign, all_take digits, numeric_fraction (all_drop digits _),
          Bool.and_self]

example : streamDouble (-25 / 2) = ['-', '1', '2', '.', '5'] := by decide +kernel

end GridexEdge.Foundation
