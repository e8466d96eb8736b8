import GridexEdge.Core.SunStoragePro261Driver

/-!
What the acknowledged writes of an operation leave in the device.

The device keeps an acknowledged write, and its control registers change only by
writes. `Wrote` sums up an operation over the bus: what it sent, when it reports
success, and what the registers then hold.
-/

namespace GridexEdge.Core

open Foundation

section Writes

variable {Device : Type}

/-- A view of the control registers of a device that keeps acknowledged writes. An
unacknowledged write may have been stored or not. -/
structure KeepsWrites (client : IModbusClient Device)
    (register : Device → UInt16 → UInt16) : Prop where
  acknowledged : ∀ address value device, (client.writeHolding address value device).1 = true →
    register (client.writeHolding address value device).2 address = value
  elsewhere : ∀ address value device other, other ≠ address →
    register (client.writeHolding address value device).2 other = register device other
  reading : ∀ address device other,
    register (client.readHolding address device).2 other = register device other

/-- An operation that succeeds exactly when all these writes, which are the only ones
it sends, were acknowledged; and then the registers hold them. -/
structure Wrote (register : Device → UInt16 → UInt16) (required : List (UInt16 × UInt16))
    (before : Bus Device) (result : Bool × Bus Device) : Prop where
  sent : ∃ sent : List Occurrence,
    result.2.history = sent ++ before.history ∧
      (∀ address value acknowledged, .write address value acknowledged ∈ sent →
        address ∈ required.map Prod.fst) ∧
      (result.1 = true ↔ ∀ write ∈ required, .write write.1 write.2 true ∈ sent)
  holds : result.1 = true → ∀ write ∈ required, register result.2.device write.1 = write.2
  elsewhere : ∀ other ∉ required.map Prod.fst,
    register result.2.device other = register before.device other

theorem addresses_disjoint {required later : List (UInt16 × UInt16)}
    (checked : (required.map Prod.fst).all
      (fun address => !(later.map Prod.fst).contains address) = true) :
    ∀ address ∈ required.map Prod.fst, address ∉ later.map Prod.fst := by
  intro address member
  have absent := List.all_eq_true.mp checked address member
  rw [Bool.not_eq_true', ← Bool.not_eq_true, List.contains_iff_mem] at absent
  exact absent

namespace Wrote

variable {register : Device → UInt16 → UInt16} {required later : List (UInt16 × UInt16)}
  {before : Bus Device} {result : Bool × Bus Device}

/-- An operation without writes. -/
theorem skipped (before : Bus Device) : Wrote register [] before (true, before) where
  sent := ⟨[], rfl, by simp, by simp⟩
  holds := by simp
  elsewhere := fun _ _ => rfl

/-- An operation refused before its first write. -/
theorem refused (before : Bus Device) (nonempty : required ≠ []) :
    Wrote register required before (false, before) where
  sent := by
    refine ⟨[], rfl, by simp, ?_⟩
    obtain ⟨write, member⟩ := List.exists_mem_of_ne_nil required nonempty
    exact ⟨fun absurd_ => absurd absurd_ Bool.false_ne_true,
      fun all => absurd (all write member) List.not_mem_nil⟩
  holds := fun absurd_ => absurd absurd_ Bool.false_ne_true
  elsewhere := fun _ _ => rfl

variable {client : IModbusClient Device}

theorem write (keeps : KeepsWrites client register) (before : Bus Device)
    (address value : UInt16) :
    Wrote register [(address, value)] before (before.write client address value) where
  sent := by
    refine ⟨[.write address value (before.write client address value).1], rfl, ?_, ?_⟩
    · intro other stored acknowledged member
      rw [List.mem_singleton, Occurrence.write.injEq] at member
      simp [member.1]
    · simp only [List.mem_singleton, forall_eq, Occurrence.write.injEq, true_and]
      exact eq_comm
  holds := by
    intro success write member
    rw [List.mem_singleton.mp member]
    exact keeps.acknowledged address value before.device success
  elsewhere := by
    intro other outside
    rw [List.map_singleton, List.mem_singleton] at outside
    exact keeps.elsewhere address value before.device other outside

/-- A read before the operation sends nothing and changes no register. -/
theorem afterRead (keeps : KeepsWrites client register) {address : UInt16}
    (wrote : Wrote register required (before.readHolding client address).2 result) :
    Wrote register required before result where
  sent := wrote.sent
  holds := wrote.holds
  elsewhere := fun other outside =>
    (wrote.elsewhere other outside).trans (keeps.reading address before.device other)

/-- Two operations over different registers, the second whatever came of the first. -/
theorem both {next : Bool × Bus Device} (first : Wrote register required before result)
    (second : Wrote register later result.2 next)
    (disjoint : ∀ address ∈ required.map Prod.fst, address ∉ later.map Prod.fst) :
    Wrote register (required ++ later) before (result.1 && next.1, next.2) where
  sent := by
    obtain ⟨sent, history, own, success⟩ := first.sent
    obtain ⟨nextSent, nextHistory, nextOwn, nextSuccess⟩ := second.sent
    refine ⟨nextSent ++ sent, by rw [nextHistory, history, List.append_assoc], ?_, ?_⟩
    · intro address value acknowledged member
      rw [List.map_append, List.mem_append]
      rcases List.mem_append.mp member with late | early
      · exact .inr (nextOwn address value acknowledged late)
      · exact .inl (own address value acknowledged early)
    · rw [Bool.and_eq_true, success, nextSuccess]
      constructor
      · rintro ⟨all, nextAll⟩ write member
        rcases List.mem_append.mp member with early | late
        · exact List.mem_append_right _ (all write early)
        · exact List.mem_append_left _ (nextAll write late)
      · intro all
        constructor
        · intro write member
          rcases List.mem_append.mp (all write (List.mem_append_left _ member)) with late | early
          · exact absurd (nextOwn _ _ _ late) (disjoint _ (List.mem_map_of_mem member))
          · exact early
        · intro write member
          rcases List.mem_append.mp (all write (List.mem_append_right _ member)) with late | early
          · exact late
          · exact absurd (List.mem_map_of_mem member)
              (disjoint _ (own _ _ _ early))
  holds := by
    intro success write member
    rw [Bool.and_eq_true] at success
    rcases List.mem_append.mp member with early | late
    · have kept := second.elsewhere write.1 (disjoint _ (List.mem_map_of_mem early))
      exact kept.trans (first.holds success.1 write early)
    · exact second.holds success.2 write late
  elsewhere := by
    intro other outside
    rw [List.map_append, List.mem_append, not_or] at outside
    exact (second.elsewhere other outside.2).trans (first.elsewhere other outside.1)

/-- Two operations over different registers, the second only after a success. -/
theorem andThen {next : Bus Device → Bool × Bus Device}
    (first : Wrote register required before result)
    (second : result.1 = true → Wrote register later result.2 (next result.2))
    (disjoint : ∀ address ∈ required.map Prod.fst, address ∉ later.map Prod.fst)
    (nonempty : later ≠ []) :
    Wrote register (required ++ later) before
      (if !result.1 then (false, result.2) else next result.2) := by
  cases success : result.1 with
  | false =>
      have denied : Wrote register later result.2 (false, result.2) := refused result.2 nonempty
      have stopped := both first denied disjoint
      rw [Bool.and_false] at stopped
      exact stopped
  | true =>
      have continued := both first (second success) disjoint
      rw [success, Bool.true_and] at continued
      exact continued

/-- Two writes to different registers, the second only after the first. -/
theorem pair (keeps : KeepsWrites client register) (before : Bus Device)
    {address other : UInt16} (distinct : address ≠ other) (value otherValue : UInt16) :
    Wrote register [(address, value), (other, otherValue)] before
      (if !(before.write client address value).1 then
        (false, (before.write client address value).2)
      else (before.write client address value).2.write client other otherValue) := by
  let next (bus : Bus Device) : Bool × Bus Device := bus.write client other otherValue
  have sequenced : Wrote register ([(address, value)] ++ [(other, otherValue)]) before
      (if !(before.write client address value).1 then
        (false, (before.write client address value).2)
      else next (before.write client address value).2) :=
    andThen (write keeps before address value) (fun _ => write keeps _ other otherValue)
      (by simpa using distinct) (by simp)
  exact sequenced

/-- The order of the required writes does not matter. -/
theorem of_perm (wrote : Wrote register required before result)
    (reordered : required.Perm later) : Wrote register later before result := by
  have addresses := (reordered.map Prod.fst)
  obtain ⟨sent, history, own, success⟩ := wrote.sent
  refine ⟨⟨sent, history, ?_, ?_⟩, ?_, ?_⟩
  · exact fun address value acknowledged member =>
      addresses.mem_iff.mp (own address value acknowledged member)
  · simpa only [reordered.mem_iff] using success
  · exact fun success write member => wrote.holds success write (reordered.mem_iff.mpr member)
  · exact fun other outside =>
      wrote.elsewhere other fun inside => outside (addresses.mem_iff.mp inside)

end Wrote

/-! ### The operator's writes -/

namespace SunStoragePro261Driver

variable {client : IModbusClient Device} {register : Device → UInt16 → UInt16}
  (keeps : KeepsWrites client register) (driver : SunStoragePro261Driver) (bus : Bus Device)

/-- A start is one write, a stop two, of which the second follows whatever came of
the first. -/
def powerStateWrites (powerOn : Bool) : List (UInt16 × UInt16) :=
  if powerOn then [(Registers.pcsPowerOn, 1)]
  else [(Registers.pcsPowerCommand, 0), (Registers.pcsPowerOn, 0)]

include keeps

theorem writePowerState_wrote (powerOn : Bool) :
    Wrote register (powerStateWrites powerOn) bus
      ((driver.writePowerState client powerOn bus).1,
        (driver.writePowerState client powerOn bus).2.2) := by
  unfold writePowerState
  cases powerOn with
  | true =>
      split
      · exact .refused bus (by simp [powerStateWrites])
      · rw [if_pos rfl]
        split
        · exact .refused bus (by simp [powerStateWrites])
        · exact .write keeps bus Registers.pcsPowerOn 1
  | false =>
      split
      · exact .refused bus (by simp [powerStateWrites])
      · rw [if_neg Bool.false_ne_true, encodeSigned_zero]
        exact .both (.write keeps bus Registers.pcsPowerCommand 0)
          (.write keeps _ Registers.pcsPowerOn 0) (addresses_disjoint rfl)

theorem writeReactivePowerSetpointKvar_wrote (reactivePowerKvar : ℚ) :
    Wrote register [(Registers.pcsReactivePowerCommand, encodeSigned reactivePowerKvar 10)] bus
      (driver.writeReactivePowerSetpointKvar client reactivePowerKvar bus) := by
  unfold writeReactivePowerSetpointKvar
  split
  · exact .refused bus (by simp)
  · exact .write keeps bus _ _

omit keeps in
/-- A last step that can only be skipped changes nothing. -/
theorem skipLast (result : Bool × Bus Device) :
    (if result.1 = false then (false, result.2) else (true, result.2)) = result := by
  obtain ⟨success, after⟩ := result
  cases success with
  | false => rfl
  | true => rfl

/-- Whatever the old window, both limits are written, the widening one first. -/
theorem writeSocLimitsPct_wrote (lowerPct upperPct : ℚ) :
    Wrote register
      [(Registers.pcsSocUpperLimit, encodeSigned upperPct 1),
        (Registers.pcsSocLowerLimit, encodeSigned lowerPct 1)] bus
      (driver.writeSocLimitsPct client lowerPct upperPct bus) := by
  unfold writeSocLimitsPct
  split
  · exact .refused bus (by simp)
  · dsimp only
    apply Wrote.afterRead keeps
    apply Wrote.afterRead keeps
    generalize ((bus.readHolding client Registers.pcsSocUpperLimit).2.readHolding client
      Registers.pcsSocLowerLimit).2 = before
    have upperFirst := Wrote.pair keeps before
      (by decide : Registers.pcsSocUpperLimit ≠ Registers.pcsSocLowerLimit)
      (encodeSigned upperPct 1) (encodeSigned lowerPct 1)
    have lowerFirst := (Wrote.pair keeps before
      (by decide : Registers.pcsSocLowerLimit ≠ Registers.pcsSocUpperLimit)
      (encodeSigned lowerPct 1) (encodeSigned upperPct 1)).of_perm (List.Perm.swap _ _ _)
    split
    · next rawUpper rawLower _ _ =>
        by_cases raised : decodeSigned rawUpper 1 < upperPct
        · by_cases lowered : lowerPct < decodeSigned rawLower 1
          · simpa [writeWhen, raised, lowered, not_le_of_gt raised, not_le_of_gt lowered,
              skipLast] using upperFirst
          · simpa [writeWhen, raised, lowered, not_le_of_gt raised, le_of_not_gt lowered] using
              upperFirst
        · by_cases lowered : lowerPct < decodeSigned rawLower 1
          · simpa [writeWhen, raised, lowered, le_of_not_gt raised, not_le_of_gt lowered,
              skipLast] using lowerFirst
          · simpa [writeWhen, raised, lowered, le_of_not_gt raised, le_of_not_gt lowered] using
              upperFirst
    · exact .refused _ (by simp)

end SunStoragePro261Driver

end Writes

end GridexEdge.Core
