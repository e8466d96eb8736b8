import GridexEdge.Core.SafetyEnvelope

/-!
The safety envelope as a projection.

Behind open gates the applied power is the point of an interval around zero that is
nearest to the request. The interval is set by the least limit of each direction, so
a tighter input can only shrink it.
-/

namespace GridexEdge.Core

open Foundation

/-- The least of the nonnegative parts of some limits. -/
structure LeastLimit (limits : List ℚ) (least : ℚ) : Prop where
  attained : ∃ limit ∈ limits, least = max 0 limit
  lower : ∀ limit ∈ limits, least ≤ max 0 limit

namespace LeastLimit

variable {limits : List ℚ} {least : ℚ}

theorem single (limit : ℚ) : LeastLimit [limit] (max 0 limit) where
  attained := ⟨limit, List.mem_singleton_self limit, rfl⟩
  lower other member := by rw [List.mem_singleton.mp member]

theorem append (some_ : LeastLimit limits least) (limit : ℚ) :
    LeastLimit (limits ++ [limit]) (min least (max 0 limit)) where
  attained := by
    rcases min_choice least (max 0 limit) with kept | added
    · obtain ⟨attaining, member, same⟩ := some_.attained
      exact ⟨attaining, List.mem_append_left _ member, kept.trans same⟩
    · exact ⟨limit, by simp, added⟩
  lower other member := by
    rcases List.mem_append.mp member with earlier | last
    · exact (min_le_left _ _).trans (some_.lower other earlier)
    · rw [List.mem_singleton.mp last]
      exact min_le_right _ _

/-- A list that undercuts every limit of another has the smaller least one. -/
theorem le_of_undercut (before : LeastLimit limits least) {others : List ℚ} {other : ℚ}
    (after : LeastLimit others other)
    (undercut : ∀ limit ∈ limits, ∃ lower ∈ others, lower ≤ limit) : other ≤ least := by
  obtain ⟨limit, member, same⟩ := before.attained
  obtain ⟨lower, among, smaller⟩ := undercut limit member
  calc other ≤ max 0 lower := after.lower lower among
    _ ≤ max 0 limit := max_le_max_left 0 smaller
    _ = least := same.symm

end LeastLimit

namespace SafetyInput

variable (input : SafetyInput)

/-- What the contract leaves for charging, where load and contract are known. -/
def headroomKw : Option ℚ :=
  match input.site.siteLoadKw, input.site.contractLimitKw with
  | some load, some contract => some (contract - load)
  | _, _ => none

def dischargeLimits : List ℚ :=
  [input.battery.maxDischargeKw] ++ input.configuredLimit.maxDischargeKw.toList

def chargeLimits : List ℚ :=
  [input.battery.maxChargeKw] ++ input.configuredLimit.maxChargeKw.toList ++
    input.headroomKw.toList

theorem leastLimit_discharge : LeastLimit input.dischargeLimits input.maxDischargeKw := by
  unfold dischargeLimits maxDischargeKw
  cases input.configuredLimit.maxDischargeKw with
  | none => exact .single _
  | some cap => exact (LeastLimit.single _).append cap

theorem leastLimit_charge : LeastLimit input.chargeLimits input.maxChargeKw := by
  unfold chargeLimits headroomKw maxChargeKw
  extract_lets battery configured
  have least : LeastLimit ([input.battery.maxChargeKw] ++
      input.configuredLimit.maxChargeKw.toList) configured := by
    unfold configured
    cases input.configuredLimit.maxChargeKw with
    | none => exact .single _
    | some cap => exact (LeastLimit.single _).append cap
  cases input.site.siteLoadKw with
  | none => exact (List.append_nil _).symm ▸ least
  | some load =>
      cases input.site.contractLimitKw with
      | none => exact (List.append_nil _).symm ▸ least
      | some contract => exact least.append (contract - load)

/-- The bounds of the allowed interval, from the limits and the two prohibitions. -/
structure Allows (low high : ℚ) : Prop where
  nonpos : low ≤ 0
  nonneg : 0 ≤ high
  discharge : if dischargeProhibited input.battery.bmsSystemFlags then high = 0
    else LeastLimit input.dischargeLimits high
  charge : if chargeProhibited input.battery.bmsSystemFlags then low = 0
    else LeastLimit input.chargeLimits (-low)

theorem allows_bounds : input.Allows input.lowerBoundKw input.upperBoundKw where
  nonpos := input.lowerBoundKw_nonpos
  nonneg := input.upperBoundKw_nonneg
  discharge := by
    unfold upperBoundKw
    split
    · rfl
    · exact input.leastLimit_discharge
  charge := by
    unfold lowerBoundKw
    split
    · rfl
    · rw [neg_neg]
      exact input.leastLimit_charge

/-! ### Tighter inputs -/

/-- A cap that was there is still there and no higher. -/
def CapTighter (before after : Option ℚ) : Prop :=
  ∀ cap, before = some cap → ∃ lower, after = some lower ∧ lower ≤ cap

/-- The same request under lower limits, with caps, prohibitions or failed gates
added. A higher site load lowers the headroom. -/
structure Tighter (before after : SafetyInput) : Prop where
  request : after.requestedPowerKw = before.requestedPowerKw
  gates : after.Open → before.Open
  batteryCharge : after.battery.maxChargeKw ≤ before.battery.maxChargeKw
  batteryDischarge : after.battery.maxDischargeKw ≤ before.battery.maxDischargeKw
  configuredCharge :
    CapTighter before.configuredLimit.maxChargeKw after.configuredLimit.maxChargeKw
  configuredDischarge :
    CapTighter before.configuredLimit.maxDischargeKw after.configuredLimit.maxDischargeKw
  contract : CapTighter before.site.contractLimitKw after.site.contractLimitKw
  load : ∀ load, before.site.siteLoadKw = some load →
    ∃ higher, after.site.siteLoadKw = some higher ∧ load ≤ higher
  charge : chargeProhibited before.battery.bmsSystemFlags = true →
    chargeProhibited after.battery.bmsSystemFlags = true
  discharge : dischargeProhibited before.battery.bmsSystemFlags = true →
    dischargeProhibited after.battery.bmsSystemFlags = true

namespace Tighter

variable {before after : SafetyInput}

theorem headroom (tighter : Tighter before after) :
    CapTighter before.headroomKw after.headroomKw := by
  intro cap known
  unfold headroomKw at known ⊢
  split at known
  · next load contract loaded contracted =>
      obtain ⟨higher, loadedAfter, more⟩ := tighter.load load loaded
      obtain ⟨lower, contractedAfter, less⟩ := tighter.contract contract contracted
      rw [loadedAfter, contractedAfter]
      refine ⟨lower - higher, rfl, ?_⟩
      rw [← Option.some.inj known]
      exact sub_le_sub less more
  · exact absurd known (by simp)

theorem maxDischargeKw_le (tighter : Tighter before after) :
    after.maxDischargeKw ≤ before.maxDischargeKw := by
  apply before.leastLimit_discharge.le_of_undercut after.leastLimit_discharge
  intro limit member
  simp only [dischargeLimits, List.mem_append, List.mem_singleton, Option.mem_toList] at member
  rcases member with rfl | configured
  · exact ⟨_, by simp [dischargeLimits], tighter.batteryDischarge⟩
  · obtain ⟨lower, capped, smaller⟩ := tighter.configuredDischarge limit configured
    exact ⟨lower, by simp [dischargeLimits, capped], smaller⟩

theorem maxChargeKw_le (tighter : Tighter before after) :
    after.maxChargeKw ≤ before.maxChargeKw := by
  apply before.leastLimit_charge.le_of_undercut after.leastLimit_charge
  intro limit member
  simp only [chargeLimits, List.mem_append, List.mem_singleton, Option.mem_toList] at member
  rcases member with (rfl | configured) | contracted
  · exact ⟨_, by simp [chargeLimits], tighter.batteryCharge⟩
  · obtain ⟨lower, capped, smaller⟩ := tighter.configuredCharge limit configured
    exact ⟨lower, by simp [chargeLimits, capped], smaller⟩
  · obtain ⟨lower, capped, smaller⟩ := tighter.headroom limit contracted
    exact ⟨lower, by simp [chargeLimits, capped], smaller⟩

theorem lowerBoundKw_le (tighter : Tighter before after) :
    before.lowerBoundKw ≤ after.lowerBoundKw := by
  unfold lowerBoundKw
  by_cases prohibited : chargeProhibited before.battery.bmsSystemFlags = true
  · rw [if_pos prohibited, if_pos (tighter.charge prohibited)]
  · rw [if_neg prohibited]
    split
    · exact neg_nonpos.mpr before.maxChargeKw_nonneg
    · exact neg_le_neg tighter.maxChargeKw_le

theorem upperBoundKw_le (tighter : Tighter before after) :
    after.upperBoundKw ≤ before.upperBoundKw := by
  unfold upperBoundKw
  by_cases prohibited : dischargeProhibited before.battery.bmsSystemFlags = true
  · rw [if_pos prohibited, if_pos (tighter.discharge prohibited)]
  · rw [if_neg prohibited]
    split
    · exact before.maxDischargeKw_nonneg
    · exact tighter.maxDischargeKw_le

end Tighter

/-- Another request under the same limits. -/
def ask (requestedPowerKw : ℚ) : SafetyInput := { input with requestedPowerKw := requestedPowerKw }

end SafetyInput

namespace SafetyEnvelope

variable (input : SafetyInput)

theorem bounds_ordered : input.lowerBoundKw ≤ input.upperBoundKw :=
  input.lowerBoundKw_nonpos.trans input.upperBoundKw_nonneg

theorem apply_ask (requestedPowerKw : ℚ) :
    (apply (input.ask requestedPowerKw)).appliedPowerKw =
      if input.Open then clamp requestedPowerKw input.lowerBoundKw input.upperBoundKw else 0 :=
  apply_appliedPowerKw (input.ask requestedPowerKw)

theorem apply_monotone {smaller larger : ℚ} (ordered : smaller ≤ larger) :
    (apply (input.ask smaller)).appliedPowerKw ≤ (apply (input.ask larger)).appliedPowerKw := by
  rw [apply_ask, apply_ask]
  split
  · exact clamp_le_clamp (bounds_ordered input) ordered
  · exact le_rfl

/-- The applied power keeps the sign of the request and stays below its magnitude. -/
theorem apply_toward_zero :
    0 ≤ (apply input).appliedPowerKw * input.requestedPowerKw ∧
      |(apply input).appliedPowerKw| ≤ |input.requestedPowerKw| := by
  rcases Set.mem_uIcc.mp (apply_mem_uIcc input) with ⟨lower, upper⟩ | ⟨lower, upper⟩
  · exact ⟨mul_nonneg lower (lower.trans upper), abs_le_abs_of_nonneg lower upper⟩
  · exact ⟨mul_nonneg_of_nonpos_of_nonpos upper (lower.trans upper),
      abs_le_abs_of_nonpos upper lower⟩

theorem abs_apply_le {before after : SafetyInput} (tighter : before.Tighter after) :
    |(apply after).appliedPowerKw| ≤ |(apply before).appliedPowerKw| := by
  by_cases opened : after.Open
  · rw [apply_appliedPowerKw, apply_appliedPowerKw, if_pos opened,
      if_pos (tighter.gates opened), tighter.request]
    exact abs_clamp_le_abs_clamp tighter.lowerBoundKw_le after.lowerBoundKw_nonpos
      after.upperBoundKw_nonneg tighter.upperBoundKw_le
  · rw [apply_of_not_open opened, abs_zero]
    exact abs_nonneg _

/-- Nothing is cut where the whole request is applied. -/
theorem apply_clamped_of_applied (whole : (apply input).appliedPowerKw = input.requestedPowerKw) :
    (apply input).clamped = false := by
  have cut : (apply input).clamped =
      decide (1 / 1000 < |(apply input).appliedPowerKw - input.requestedPowerKw|) := by
    unfold apply
    dsimp only
    repeat' split
    all_goals first | rfl | rw [zero_sub, abs_neg]
  rw [cut, whole]
  norm_num

theorem apply_again :
    (apply (input.ask (apply input).appliedPowerKw)).appliedPowerKw =
      (apply input).appliedPowerKw := by
  rw [apply_ask, apply_appliedPowerKw]
  split
  · exact clamp_clamp _ (bounds_ordered input)
  · rfl

/-- For all inputs: zero behind a closed gate, else the nearest point of the allowed
interval; monotone in the request, toward zero, never more under a tighter input, and
nothing more to cut from its own result. -/
theorem apply_is_safe_projection (input : SafetyInput) :
    (¬input.Open → (apply input).appliedPowerKw = 0) ∧
      (input.Open → ∃ low high, input.Allows low high ∧
        low ≤ (apply input).appliedPowerKw ∧ (apply input).appliedPowerKw ≤ high ∧
        ∀ point, low ≤ point → point ≤ high → point ≠ (apply input).appliedPowerKw →
          |(apply input).appliedPowerKw - input.requestedPowerKw| <
            |point - input.requestedPowerKw|) ∧
      (∀ smaller larger, smaller ≤ larger →
        (apply (input.ask smaller)).appliedPowerKw ≤ (apply (input.ask larger)).appliedPowerKw) ∧
      0 ≤ (apply input).appliedPowerKw * input.requestedPowerKw ∧
      |(apply input).appliedPowerKw| ≤ |input.requestedPowerKw| ∧
      (∀ after, input.Tighter after →
        |(apply after).appliedPowerKw| ≤ |(apply input).appliedPowerKw|) ∧
      (apply (input.ask (apply input).appliedPowerKw)).appliedPowerKw =
        (apply input).appliedPowerKw ∧
      (apply (input.ask (apply input).appliedPowerKw)).clamped = false := by
  refine ⟨apply_of_not_open, ?_, fun _ _ => apply_monotone input, (apply_toward_zero input).1,
    (apply_toward_zero input).2, fun _ => abs_apply_le, apply_again input,
    apply_clamped_of_applied _ (apply_again input)⟩
  intro opened
  refine ⟨input.lowerBoundKw, input.upperBoundKw, input.allows_bounds,
    lowerBoundKw_le_apply input, apply_le_upperBoundKw input, ?_⟩
  intro point lower upper other
  rw [apply_appliedPowerKw, if_pos opened] at other ⊢
  exact clamp_nearest lower upper other

end SafetyEnvelope

end GridexEdge.Core
