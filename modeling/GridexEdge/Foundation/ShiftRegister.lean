import Mathlib.Data.BitVec
import Mathlib.Data.Nat.Bitwise

/-!
Linear feedback shift registers that shift towards the low bit.

A register that takes in symbols of `size` bits and shifts once for each bit is linear over
exclusive or. If the top bit of its polynomial is set, no shift loses anything, and symbols
that fit the register together leave different states.
-/

namespace GridexEdge.Foundation

variable {width : Nat} (polynomial : BitVec width)

/-- The low bit leaves the register, and puts the polynomial in when it is set. -/
def shiftBit (register : BitVec width) : BitVec width :=
  if register.getLsbD 0 then (register >>> 1) ^^^ polynomial else register >>> 1

def shiftBits (count : Nat) (register : BitVec width) : BitVec width :=
  Nat.iterate (shiftBit polynomial) count register

/-- The register after symbols of `size` bits each. -/
def absorb (size : Nat) (register : BitVec width) (symbols : List (BitVec width)) :
    BitVec width :=
  symbols.foldl (fun register symbol => shiftBits polynomial size (register ^^^ symbol)) register

/-- No bit from `size` on is set. -/
def Below (size : Nat) (value : BitVec width) : Prop :=
  ∀ index, size ≤ index → value.getLsbD index = false

/-- Symbols side by side, the first one lowest. -/
def pack (size : Nat) : List (BitVec width) → BitVec width
  | [] => .ofNat width 0
  | symbol :: rest => symbol ^^^ (pack size rest <<< size)

theorem shiftBit_xor (first second : BitVec width) :
    shiftBit polynomial (first ^^^ second) =
      shiftBit polynomial first ^^^ shiftBit polynomial second := by
  unfold shiftBit
  rw [BitVec.getLsbD_xor, BitVec.ushiftRight_xor_distrib]
  cases first.getLsbD 0 <;> cases second.getLsbD 0
  · rfl
  · exact BitVec.xor_assoc _ _ _
  · rw [BitVec.xor_assoc, BitVec.xor_comm _ polynomial, ← BitVec.xor_assoc]
    rfl
  -- the polynomial came in twice
  · have twice : ∀ left right : BitVec width,
        left ^^^ polynomial ^^^ (right ^^^ polynomial) = left ^^^ right := by
      intro left right
      rw [BitVec.xor_comm right, BitVec.xor_assoc, ← BitVec.xor_assoc polynomial,
        BitVec.xor_self, BitVec.zero_xor]
    exact (twice _ _).symm

theorem shiftBits_xor (count : Nat) (first second : BitVec width) :
    shiftBits polynomial count (first ^^^ second) =
      shiftBits polynomial count first ^^^ shiftBits polynomial count second := by
  induction count generalizing first second with
  | zero => rfl
  | succ count inductionHypothesis =>
      rw [shiftBits, Function.iterate_succ_apply, shiftBit_xor]
      exact inductionHypothesis _ _

theorem shiftBits_zero (count : Nat) :
    shiftBits polynomial count (.ofNat width 0) = .ofNat width 0 := by
  have doubled := shiftBits_xor polynomial count (.ofNat width 0) (.ofNat width 0)
  rwa [BitVec.xor_self, BitVec.xor_self] at doubled

variable {polynomial}

theorem shiftBit_eq_zero (top : polynomial.msb = true) {register : BitVec width}
    (zero : shiftBit polynomial register = .ofNat width 0) : register = .ofNat width 0 := by
  cases low : register.getLsbD 0 with
  | true =>
      rw [shiftBit, if_pos low] at zero
      have same : register >>> 1 = polynomial := BitVec.xor_eq_zero_iff.mp zero
      rw [← same, BitVec.msb_ushiftRight] at top
      exact absurd top Bool.false_ne_true
  | false =>
      have clear : ¬register.getLsbD 0 = true := by rw [low]; exact Bool.false_ne_true
      rw [shiftBit, if_neg clear] at zero
      apply BitVec.eq_of_getLsbD_eq
      intro index _
      cases index with
      | zero => exact low.trans BitVec.getLsbD_zero.symm
      | succ index =>
          have shifted := congrArg (fun value => value.getLsbD index) zero
          rw [BitVec.getLsbD_ushiftRight, Nat.add_comm] at shifted
          rw [shifted]
          simp

/-- With the top bit of the polynomial, every shift can be taken back. -/
theorem shiftBits_injective (top : polynomial.msb = true) (count : Nat) :
    Function.Injective (shiftBits polynomial count) := by
  have single : Function.Injective (shiftBit polynomial) := by
    intro first second same
    have zero := shiftBit_xor polynomial first second
    rw [same, BitVec.xor_self] at zero
    exact BitVec.xor_eq_zero_iff.mp (shiftBit_eq_zero top zero)
  exact single.iterate count

/-- Bits that are shifted up and down again meet no polynomial on their way. -/
theorem shiftBits_shiftLeft {count : Nat} {value : BitVec width}
    (low : Below (width - count) value) : shiftBits polynomial count (value <<< count) = value := by
  induction count with
  | zero => exact BitVec.shiftLeft_zero value
  | succ count inductionHypothesis =>
      have clear : ¬(value <<< (count + 1)).getLsbD 0 = true := by simp
      have down : value <<< (count + 1) >>> 1 = value <<< count := by
        apply BitVec.eq_of_getLsbD_eq
        intro index inside
        rw [BitVec.getLsbD_ushiftRight, BitVec.getLsbD_shiftLeft, BitVec.getLsbD_shiftLeft]
        by_cases below : 1 + index < width
        · simp [below, inside, show 1 + index < count + 1 ↔ index < count by omega,
            show 1 + index - (count + 1) = index - count by omega]
        · have top : value.getLsbD (index - count) = false := low _ (by omega)
          simp [below, top]
      rw [shiftBits, Function.iterate_succ_apply, shiftBit, if_neg clear, down]
      exact inductionHypothesis fun index outside => low index (by omega)

theorem Below.xor {size : Nat} {first second : BitVec width} (left : Below size first)
    (right : Below size second) : Below size (first ^^^ second) := fun index outside => by
  rw [BitVec.getLsbD_xor, left index outside, right index outside]
  rfl

theorem Below.shiftLeft {size : Nat} {value : BitVec width} (low : Below size value)
    (count : Nat) : Below (size + count) (value <<< count) := fun index outside => by
  rw [BitVec.getLsbD_shiftLeft, low (index - count) (by omega), Bool.and_false]

theorem Below.mono {size larger : Nat} {value : BitVec width} (low : Below size value)
    (more : size ≤ larger) : Below larger value :=
  fun index outside => low index (Nat.le_trans more outside)

theorem below_pack {size : Nat} {symbols : List (BitVec width)}
    (small : ∀ symbol ∈ symbols, Below size symbol) :
    Below (size * symbols.length) (pack size symbols) := by
  induction symbols with
  | nil => exact fun index _ => BitVec.getLsbD_zero
  | cons symbol rest inductionHypothesis =>
      have later := inductionHypothesis fun other member =>
        small other (List.mem_cons_of_mem _ member)
      have first := small symbol List.mem_cons_self
      rw [List.length_cons, Nat.mul_succ]
      exact (first.mono (Nat.le_add_left _ _)).xor (later.shiftLeft size)

/-- Symbols that fit the register together may come in at once. -/
theorem absorb_eq_shiftBits {size : Nat} {symbols : List (BitVec width)}
    (small : ∀ symbol ∈ symbols, Below size symbol) (fits : size * symbols.length ≤ width)
    (register : BitVec width) :
    absorb polynomial size register symbols =
      shiftBits polynomial (size * symbols.length) (register ^^^ pack size symbols) := by
  induction symbols generalizing register with
  | nil => exact (BitVec.xor_zero).symm
  | cons symbol rest inductionHypothesis =>
      have others : ∀ other ∈ rest, Below size other :=
        fun other member => small other (List.mem_cons_of_mem _ member)
      rw [List.length_cons, Nat.mul_succ] at fits
      have low : Below (width - size) (pack size rest) := (below_pack others).mono (by omega)
      have step : absorb polynomial size register (symbol :: rest) =
          absorb polynomial size (shiftBits polynomial size (register ^^^ symbol)) rest := rfl
      rw [step, inductionHypothesis others (by omega), List.length_cons, Nat.mul_succ]
      have together : shiftBits polynomial size (register ^^^ symbol) ^^^ pack size rest =
          shiftBits polynomial size (register ^^^ pack size (symbol :: rest)) := by
        rw [pack, ← BitVec.xor_assoc, shiftBits_xor polynomial size (register ^^^ symbol),
          shiftBits_shiftLeft low]
      rw [together, shiftBits, shiftBits, shiftBits, ← Function.iterate_add_apply]

theorem shiftLeft_inj {count : Nat} {first second : BitVec width}
    (left : Below (width - count) first) (right : Below (width - count) second)
    (same : first <<< count = second <<< count) : first = second := by
  apply BitVec.eq_of_getLsbD_eq
  intro index _
  by_cases inside : index + count < width
  · have above : ¬index + count < count := by omega
    have bit := congrArg (fun value => value.getLsbD (index + count)) same
    rw [BitVec.getLsbD_shiftLeft, BitVec.getLsbD_shiftLeft, decide_eq_true inside,
      decide_eq_false above, Nat.add_sub_cancel] at bit
    exact bit
  · rw [left index (by omega), right index (by omega)]

/-- The symbols can be read from what they are packed to. -/
theorem pack_injective {size : Nat} {first second : List (BitVec width)}
    (length : first.length = second.length) (fits : size * first.length ≤ width)
    (firstSmall : ∀ symbol ∈ first, Below size symbol)
    (secondSmall : ∀ symbol ∈ second, Below size symbol)
    (same : pack size first = pack size second) : first = second := by
  induction first generalizing second with
  | nil => exact (List.length_eq_zero_iff.mp length.symm).symm
  | cons left lefts inductionHypothesis =>
      cases second with
      | nil => exact absurd length (Nat.succ_ne_zero _)
      | cons right rights =>
          have leftsSmall : ∀ symbol ∈ lefts, Below size symbol :=
            fun symbol member => firstSmall symbol (List.mem_cons_of_mem _ member)
          have rightsSmall : ∀ symbol ∈ rights, Below size symbol :=
            fun symbol member => secondSmall symbol (List.mem_cons_of_mem _ member)
          have rest : lefts.length = rights.length := Nat.succ.inj length
          rw [List.length_cons, Nat.mul_succ] at fits
          have heads : left = right := by
            apply BitVec.eq_of_getLsbD_eq
            intro index _
            by_cases inside : index < size
            · have bit := congrArg (fun value => value.getLsbD index) same
              simpa [pack, BitVec.getLsbD_shiftLeft, inside] using bit
            · have outside := Nat.le_of_not_lt inside
              rw [firstSmall left List.mem_cons_self index outside,
                secondSmall right List.mem_cons_self index outside]
          subst heads
          have shifted : pack size lefts <<< size = pack size rights <<< size :=
            (BitVec.xor_right_inj left).mp same
          have tails : pack size lefts = pack size rights := by
            apply shiftLeft_inj _ _ shifted
            · exact (below_pack leftsSmall).mono (by omega)
            · exact (below_pack rightsSmall).mono (by rw [← rest]; omega)
          rw [inductionHypothesis rest (by omega) leftsSmall rightsSmall tails]

theorem absorb_append (size : Nat) (register : BitVec width) (front back : List (BitVec width)) :
    absorb polynomial size register (front ++ back) =
      absorb polynomial size (absorb polynomial size register front) back :=
  List.foldl_append

/-- Common symbols keep different registers apart. -/
theorem absorb_injective (top : polynomial.msb = true) (size : Nat)
    (symbols : List (BitVec width)) :
    Function.Injective fun register => absorb polynomial size register symbols := by
  induction symbols with
  | nil => exact fun _ _ same => same
  | cons symbol rest inductionHypothesis =>
      intro first second same
      have shifted := shiftBits_injective top size (inductionHypothesis same)
      exact (BitVec.xor_left_inj symbol).mp shifted

/-- Between common symbols, two bursts that the register holds whole leave it different. -/
theorem absorb_burst (top : polynomial.msb = true) {size : Nat} {register : BitVec width}
    {front first second back : List (BitVec width)} (length : first.length = second.length)
    (fits : size * first.length ≤ width) (firstSmall : ∀ symbol ∈ first, Below size symbol)
    (secondSmall : ∀ symbol ∈ second, Below size symbol)
    (same : absorb polynomial size register (front ++ first ++ back) =
      absorb polynomial size register (front ++ second ++ back)) : first = second := by
  rw [absorb_append, absorb_append, absorb_append _ _ (front ++ second), absorb_append] at same
  have burst := absorb_injective top size back same
  have secondFits : size * second.length ≤ width := by rwa [← length]
  rw [absorb_eq_shiftBits firstSmall fits, absorb_eq_shiftBits secondSmall secondFits,
    ← length] at burst
  have packed := shiftBits_injective top _ burst
  exact pack_injective length fits firstSmall secondSmall ((BitVec.xor_right_inj _).mp packed)

end GridexEdge.Foundation
