import Mathlib.Algebra.Order.Floor.Ring
import Mathlib.Algebra.Order.Group.MinMax
import Mathlib.Algebra.Order.Round
import Mathlib.Data.Int.Interval
import Mathlib.Data.Rat.Floor
import Mathlib.Order.Interval.Set.ProjIcc
import Mathlib.Order.Interval.Set.UnorderedInterval
import Mathlib.Tactic.Linarith
import Mathlib.Tactic.NormNum

/-!
Rounding and saturation of exact numbers onto a signed sixteen-bit grid.

A number lies toward zero of a reference when it is in the unordered interval
between zero and the reference. Clamping into bounds around zero and rounding
half away from zero both stay toward zero, so no chain of them can change a
sign or exceed a magnitude.
-/

namespace GridexEdge.Foundation

section Clamp

variable {Alpha : Type*} [LinearOrder Alpha]

/-- The lower bound wins first, then the upper bound. -/
def clamp (value low high : Alpha) : Alpha :=
  if value < low then low else if high < value then high else value

theorem low_le_clamp {low high : Alpha} (value : Alpha) (ordered : low ≤ high) :
    low ≤ clamp value low high := by
  unfold clamp
  split
  · exact le_refl low
  · split
    · exact ordered
    · exact le_of_not_gt ‹_›

theorem clamp_le_high {low high : Alpha} (value : Alpha) (ordered : low ≤ high) :
    clamp value low high ≤ high := by
  unfold clamp
  split
  · exact ordered
  · split
    · exact le_refl high
    · exact le_of_not_gt ‹_›

theorem clamp_of_mem {value low high : Alpha} (lower : low ≤ value) (upper : value ≤ high) :
    clamp value low high = value := by
  simp [clamp, not_lt_of_ge lower, not_lt_of_ge upper]

theorem clamp_mem_uIcc [Zero Alpha] {value low high : Alpha} (lower : low ≤ 0)
    (upper : 0 ≤ high) : clamp value low high ∈ Set.uIcc 0 value := by
  unfold clamp
  rw [Set.mem_uIcc]
  split
  · next below => exact .inr ⟨le_of_lt below, lower⟩
  · split
    · next above => exact .inl ⟨upper, le_of_lt above⟩
    · rcases le_total 0 value with sign | sign
      · exact .inl ⟨sign, le_refl value⟩
      · exact .inr ⟨le_refl value, sign⟩

/-- Between ordered bounds it is the projection onto the interval. -/
theorem clamp_eq_projIcc {low high : Alpha} (value : Alpha) (ordered : low ≤ high) :
    clamp value low high = Set.projIcc low high ordered value := by
  rw [Set.coe_projIcc, clamp]
  split
  · next below => rw [max_eq_left ((min_le_right high value).trans (le_of_lt below))]
  · next above =>
      split
      · next beyond => rw [min_eq_left (le_of_lt beyond), max_eq_right ordered]
      · next inside =>
          rw [min_eq_right (le_of_not_gt inside), max_eq_right (le_of_not_gt above)]

theorem clamp_le_clamp {first second low high : Alpha} (ordered : low ≤ high)
    (smaller : first ≤ second) : clamp first low high ≤ clamp second low high := by
  rw [clamp_eq_projIcc first ordered, clamp_eq_projIcc second ordered]
  exact Set.monotone_projIcc ordered smaller

theorem clamp_clamp {low high : Alpha} (value : Alpha) (ordered : low ≤ high) :
    clamp (clamp value low high) low high = clamp value low high :=
  clamp_of_mem (low_le_clamp value ordered) (clamp_le_high value ordered)

theorem clamp_lt_iff {value low high bound : Alpha} (ordered : low ≤ high) (below : low < bound) :
    clamp value low high < bound ↔ value < bound ∨ high < bound := by
  rw [clamp_eq_projIcc value ordered, Set.coe_projIcc, max_lt_iff, min_lt_iff]
  constructor
  · rintro ⟨-, upper | inner⟩
    · exact .inr upper
    · exact .inl inner
  · rintro (inner | upper)
    · exact ⟨below, .inr inner⟩
    · exact ⟨below, .inl upper⟩

end Clamp

section Distance

variable {Alpha : Type*} [AddCommGroup Alpha] [LinearOrder Alpha] [IsOrderedAddMonoid Alpha]

theorem clamp_neg (value : Alpha) {low high : Alpha} (ordered : low ≤ high) :
    clamp (-value) (-high) (-low) = -clamp value low high := by
  rw [clamp_eq_projIcc _ (neg_le_neg ordered), clamp_eq_projIcc _ ordered, Set.coe_projIcc,
    Set.coe_projIcc, min_neg_neg, max_neg_neg, neg_inj]
  rcases le_total value high with inside | above
  · rw [min_eq_right inside]
    exact min_eq_right (max_le ordered inside)
  · rw [min_eq_left above, max_eq_right ordered]
    exact min_eq_left (le_max_of_le_right above)

/-- No other point of the interval is as near to the value. -/
theorem clamp_nearest {value low high point : Alpha} (lower : low ≤ point) (upper : point ≤ high)
    (other : point ≠ clamp value low high) :
    |clamp value low high - value| < |point - value| := by
  unfold clamp at other ⊢
  split at other
  · next below =>
      have farther : low < point := lt_of_le_of_ne lower (Ne.symm other)
      rw [if_pos below, abs_of_nonneg (sub_nonneg.mpr (le_of_lt below)),
        abs_of_nonneg (sub_nonneg.mpr (le_of_lt (below.trans farther)))]
      exact sub_lt_sub_right farther value
  · next inside =>
      rw [if_neg inside]
      split at other
      · next above =>
          have farther : point < high := lt_of_le_of_ne upper other
          rw [if_pos above, abs_of_nonpos (sub_nonpos.mpr (le_of_lt above)),
            abs_of_nonpos (sub_nonpos.mpr (le_of_lt (farther.trans above)))]
          exact neg_lt_neg (sub_lt_sub_right farther value)
      · next below =>
          rw [if_neg below, sub_self, abs_zero]
          exact abs_pos.mpr (sub_ne_zero.mpr other)

/-- A narrower interval around zero leaves less of the value. -/
theorem abs_clamp_le_abs_clamp {value low high narrowLow narrowHigh : Alpha}
    (lower : low ≤ narrowLow) (nonpos : narrowLow ≤ 0) (nonneg : 0 ≤ narrowHigh)
    (upper : narrowHigh ≤ high) :
    |clamp value narrowLow narrowHigh| ≤ |clamp value low high| := by
  rcases le_total 0 value with sign | sign
  · have narrow : clamp value narrowLow narrowHigh = min value narrowHigh := by
      rw [clamp_eq_projIcc value (nonpos.trans nonneg), Set.coe_projIcc, min_comm,
        max_eq_right (nonpos.trans (le_min sign nonneg))]
    have wide : clamp value low high = min value high := by
      rw [clamp_eq_projIcc value (lower.trans (nonpos.trans (nonneg.trans upper))),
        Set.coe_projIcc, min_comm,
        max_eq_right ((lower.trans nonpos).trans (le_min sign (nonneg.trans upper)))]
    rw [narrow, wide, abs_of_nonneg (le_min sign nonneg),
      abs_of_nonneg (le_min sign (nonneg.trans upper))]
    exact min_le_min_left value upper
  · have narrow : clamp value narrowLow narrowHigh = max narrowLow value := by
      rw [clamp_eq_projIcc value (nonpos.trans nonneg), Set.coe_projIcc,
        min_eq_right (sign.trans nonneg)]
    have wide : clamp value low high = max low value := by
      rw [clamp_eq_projIcc value (lower.trans (nonpos.trans (nonneg.trans upper))),
        Set.coe_projIcc, min_eq_right (sign.trans (nonneg.trans upper))]
    rw [narrow, wide, abs_of_nonpos (max_le nonpos sign),
      abs_of_nonpos (max_le (lower.trans nonpos) sign)]
    exact neg_le_neg (max_le_max_right value lower)

end Distance

/-- Round to the nearest integer, halves away from zero. -/
def roundHalfAway (value : ℚ) : ℤ :=
  if value < 0 then -⌊-value + 1 / 2⌋ else ⌊value + 1 / 2⌋

@[simp]
theorem roundHalfAway_intCast (value : ℤ) : roundHalfAway (value : ℚ) = value := by
  have nearest : ∀ n : ℤ, ⌊(n : ℚ) + 1 / 2⌋ = n := by
    intro n
    rw [Int.floor_intCast_add, show ⌊(1 / 2 : ℚ)⌋ = 0 by norm_num, add_zero]
  unfold roundHalfAway
  split
  · rw [← Int.cast_neg, nearest, neg_neg]
  · exact nearest value

@[simp]
theorem roundHalfAway_zero : roundHalfAway 0 = 0 := roundHalfAway_intCast 0

theorem roundHalfAway_neg (value : ℚ) : roundHalfAway (-value) = -roundHalfAway value := by
  rcases lt_trichotomy value 0 with sign | rfl | sign
  · simp [roundHalfAway, sign, not_lt_of_gt (neg_pos.mpr sign)]
  · simp
  · simp [roundHalfAway, sign, not_lt_of_gt sign]

/-- A nonnegative integer bound survives any excess below one half. -/
theorem roundHalfAway_le {value : ℚ} {bound : ℤ} (nonneg : 0 ≤ bound)
    (below : value < bound + 1 / 2) : roundHalfAway value ≤ bound := by
  unfold roundHalfAway
  split
  · next sign =>
      have : 0 ≤ ⌊-value + 1 / 2⌋ := Int.floor_nonneg.mpr (by linarith)
      omega
  · have strict : value + 1 / 2 < ((bound + 1 : ℤ) : ℚ) := by push_cast; linarith
    have := Int.floor_lt.mpr strict
    omega

theorem roundHalfAway_le_iff {value : ℚ} {bound : ℤ} (nonneg : 0 ≤ bound) :
    roundHalfAway value ≤ bound ↔ value < bound + 1 / 2 := by
  refine ⟨fun below => ?_, roundHalfAway_le nonneg⟩
  have cast : (0 : ℚ) ≤ bound := by exact_mod_cast nonneg
  unfold roundHalfAway at below
  split at below
  · linarith
  · have strict : value + 1 / 2 < ((bound + 1 : ℤ) : ℚ) := Int.floor_lt.mp (by omega)
    push_cast at strict
    linarith

theorem roundHalfAway_monotone {smaller larger : ℚ} (ordered : smaller ≤ larger) :
    roundHalfAway smaller ≤ roundHalfAway larger := by
  unfold roundHalfAway
  split
  · next negative =>
      have below : 0 ≤ ⌊-smaller + 1 / 2⌋ := Int.floor_nonneg.mpr (by linarith)
      split
      · exact neg_le_neg (Int.floor_le_floor (by linarith))
      · have above : 0 ≤ ⌊larger + 1 / 2⌋ := Int.floor_nonneg.mpr (by linarith)
        omega
  · next nonneg =>
      rw [if_neg (by linarith)]
      exact Int.floor_le_floor (by linarith)

/-- Rounding does not pass a whole number. -/
theorem le_roundHalfAway {whole : ℤ} {value : ℚ} (below : (whole : ℚ) ≤ value) :
    whole ≤ roundHalfAway value :=
  (roundHalfAway_intCast whole).symm.le.trans (roundHalfAway_monotone below)

theorem roundHalfAway_le_whole {whole : ℤ} {value : ℚ} (above : value ≤ (whole : ℚ)) :
    roundHalfAway value ≤ whole :=
  (roundHalfAway_monotone above).trans (roundHalfAway_intCast whole).le

theorem neg_le_roundHalfAway {value : ℚ} {bound : ℤ} (nonneg : 0 ≤ bound)
    (above : -(bound + 1 / 2 : ℚ) < value) : -bound ≤ roundHalfAway value := by
  have mirrored : roundHalfAway (-value) ≤ bound := roundHalfAway_le nonneg (by linarith)
  rw [roundHalfAway_neg] at mirrored
  omega

theorem roundHalfAway_nonneg {value : ℚ} (nonneg : 0 ≤ value) : 0 ≤ roundHalfAway value := by
  rw [roundHalfAway, if_neg (not_lt_of_ge nonneg)]
  exact Int.floor_nonneg.mpr (by linarith)

theorem roundHalfAway_nonpos {value : ℚ} (nonpos : value ≤ 0) : roundHalfAway value ≤ 0 := by
  have mirrored : 0 ≤ roundHalfAway (-value) := roundHalfAway_nonneg (by linarith)
  rw [roundHalfAway_neg] at mirrored
  omega

/-- Rounding toward an integer reference stays toward zero of it. -/
theorem roundHalfAway_mem_uIcc {value : ℚ} {reference : ℤ}
    (member : value ∈ Set.uIcc 0 (reference : ℚ)) :
    roundHalfAway value ∈ Set.uIcc 0 reference := by
  rw [Set.mem_uIcc] at member ⊢
  rcases member with ⟨lower, upper⟩ | ⟨lower, upper⟩
  · have nonneg : (0 : ℤ) ≤ reference := by exact_mod_cast lower.trans upper
    exact .inl ⟨roundHalfAway_nonneg lower, roundHalfAway_le nonneg (by linarith)⟩
  · have nonpos : reference ≤ 0 := by exact_mod_cast lower.trans upper
    have bounded : -(-reference) ≤ roundHalfAway value :=
      neg_le_roundHalfAway (by omega) (by push_cast; linarith)
    exact .inr ⟨by omega, roundHalfAway_nonpos upper⟩

/-- The two's complement reading of a register. -/
def signed (raw : UInt16) : ℤ := raw.toInt16.toInt

/-- The register that holds a signed integer, modulo its width. -/
def unsigned (value : ℤ) : UInt16 := (Int16.ofInt value).toUInt16

@[simp]
theorem unsigned_signed (raw : UInt16) : unsigned (signed raw) = raw := by
  simp [unsigned, signed]

theorem signed_unsigned {value : ℤ} (lower : -32768 ≤ value) (upper : value ≤ 32767) :
    signed (unsigned value) = value := by
  simp only [signed, unsigned, Int16.toInt16_toUInt16]
  exact Int16.toInt_ofInt_of_le lower (by omega)

@[simp]
theorem signed_zero : signed 0 = 0 := rfl

/-- Below half of its range a register reads the same with and without sign. -/
theorem signed_of_lt {raw : UInt16} (small : raw.toNat < 32768) : signed raw = raw.toNat := by
  show raw.toBitVec.toInt = _
  rw [BitVec.toInt_eq_toNat_bmod, UInt16.toNat_toBitVec, Int.bmod_eq_emod_of_lt (by omega)]
  omega

theorem signed_of_not_lt {raw : UInt16} (large : ¬raw.toNat < 32768) :
    signed raw = raw.toNat - 65536 := by
  have bound := raw.toNat_lt
  show raw.toBitVec.toInt = _
  rw [BitVec.toInt_eq_toNat_cond, UInt16.toNat_toBitVec, if_neg (by omega)]
  rfl

theorem signed_lower (raw : UInt16) : -32768 ≤ signed raw := raw.toInt16.le_toInt

theorem signed_upper (raw : UInt16) : signed raw ≤ 32767 :=
  Int.le_of_lt_add_one raw.toInt16.toInt_lt

theorem signed_eq_zero_iff (raw : UInt16) : signed raw = 0 ↔ raw = 0 := by
  constructor
  · intro zero
    rw [← unsigned_signed raw, zero]
    rfl
  · rintro rfl
    rfl

/-- Saturate to the signed sixteen-bit range. -/
def saturate (value : ℤ) : ℤ := clamp value (-32768) 32767

theorem saturate_lower (value : ℤ) : -32768 ≤ saturate value :=
  low_le_clamp value (by norm_num)

theorem saturate_upper (value : ℤ) : saturate value ≤ 32767 :=
  clamp_le_high value (by norm_num)

theorem saturate_mem_uIcc (value : ℤ) : saturate value ∈ Set.uIcc 0 value :=
  clamp_mem_uIcc (by norm_num) (by norm_num)

@[simp]
theorem signed_unsigned_saturate (value : ℤ) :
    signed (unsigned (saturate value)) = saturate value :=
  signed_unsigned (saturate_lower value) (saturate_upper value)

@[simp]
theorem saturate_signed (raw : UInt16) : saturate (signed raw) = signed raw :=
  clamp_of_mem (signed_lower raw) (signed_upper raw)

/-- Nothing strictly between zero and a reference changes sign or grows. -/
theorem sign_and_abs_of_mem_uIcc {value reference : ℤ}
    (member : value ∈ Set.uIcc 0 reference) (nonzero : value ≠ 0) :
    value.sign = reference.sign ∧ |value| ≤ |reference| := by
  rw [Set.mem_uIcc] at member
  rcases member with ⟨lower, upper⟩ | ⟨lower, upper⟩
  · have positive : 0 < value := by omega
    have larger : 0 < reference := by omega
    rw [Int.sign_eq_one_of_pos positive, Int.sign_eq_one_of_pos larger,
      abs_of_pos positive, abs_of_pos larger]
    exact ⟨rfl, upper⟩
  · have negative : value < 0 := by omega
    have smaller : reference < 0 := by omega
    rw [Int.sign_eq_neg_one_of_neg negative, Int.sign_eq_neg_one_of_neg smaller,
      abs_of_neg negative, abs_of_neg smaller]
    exact ⟨rfl, by omega⟩

end GridexEdge.Foundation
