import GridexEdge.Core.SunStoragePro261Driver

/-!
The window of the state of charge while its two registers are written.

The registers are written one at a time, and a write without an acknowledgement may
have taken effect or not. The order of the writes is such that the window is never
inverted in between, and an operation that stops early stops in such a moment.
-/

namespace GridexEdge.Core

open Foundation

structure SocWindow where
  lower : UInt16
  upper : UInt16

inductive WriteOutcome where
  | acknowledged
  | unanswered (effective : Bool)

/-- A cabinet that has the two registers, and answers or not, call by call. All
windows it has had before are kept, newest first. -/
structure SocCabinet where
  window : SocWindow
  readable : Nat → Bool
  outcome : Nat → WriteOutcome
  calls : Nat := 0
  earlier : List SocWindow := []

namespace SocCabinet

variable (cabinet : SocCabinet)

/-- Every window there has been, the present one first. -/
def moments : List SocWindow := cabinet.window :: cabinet.earlier

def stored (address value : UInt16) : SocWindow :=
  if address = Registers.pcsSocUpperLimit then { cabinet.window with upper := value }
  else if address = Registers.pcsSocLowerLimit then { cabinet.window with lower := value }
  else cabinet.window

def registerOf (address : UInt16) : UInt16 :=
  if address = Registers.pcsSocUpperLimit then cabinet.window.upper
  else if address = Registers.pcsSocLowerLimit then cabinet.window.lower
  else 0

def enter (window : SocWindow) : SocCabinet :=
  { cabinet with window := window, calls := cabinet.calls + 1, earlier := cabinet.moments }

def readHolding (address : UInt16) : Option UInt16 × SocCabinet :=
  (if cabinet.readable cabinet.calls then some (cabinet.registerOf address) else none,
    { cabinet with calls := cabinet.calls + 1 })

def writeHolding (address value : UInt16) : Bool × SocCabinet :=
  match cabinet.outcome cabinet.calls with
  | .acknowledged => (true, cabinet.enter (cabinet.stored address value))
  | .unanswered true => (false, cabinet.enter (cabinet.stored address value))
  | .unanswered false => (false, cabinet.enter cabinet.window)

/-- Nothing but the two registers can be read. -/
def client : IModbusClient SocCabinet where
  readInput _ cabinet := (none, cabinet)
  readInputRange _ _ cabinet := (none, cabinet)
  readHolding address cabinet := cabinet.readHolding address
  readCoil _ cabinet := (none, cabinet)
  writeHolding address value cabinet := cabinet.writeHolding address value

/-- Only windows of a kind have been seen. -/
def Visits (Allowed : SocWindow → Prop) : Prop := ∀ window ∈ cabinet.moments, Allowed window

variable {cabinet} {Allowed : SocWindow → Prop}

theorem Visits.enter {window : SocWindow} (visits : cabinet.Visits Allowed)
    (allowed : Allowed window) : (cabinet.enter window).Visits Allowed := by
  intro seen member
  rcases List.mem_cons.mp member with rfl | earlier
  · exact allowed
  · exact visits seen earlier

end SocCabinet

namespace SunStoragePro261Driver

open SocCabinet

variable {Allowed : SocWindow → Prop}

/-- A guarded write stays among the allowed windows when its own is one of them, and
has taken effect when it succeeds. -/
theorem writeWhen_visits (condition : Bool) (address value : UInt16) (bus : Bus SocCabinet)
    (visits : bus.device.Visits Allowed)
    (allowed : condition = true → Allowed (bus.device.stored address value)) :
    (writeWhen client condition address value bus).2.device.Visits Allowed ∧
      ((writeWhen client condition address value bus).1 = true →
        (writeWhen client condition address value bus).2.device.window =
          if condition then bus.device.stored address value else bus.device.window) := by
  cases condition with
  | false => exact ⟨visits, fun _ => rfl⟩
  | true =>
      have written : writeWhen client true address value bus =
          ((bus.device.writeHolding address value).1,
            { device := (bus.device.writeHolding address value).2
              history := .write address value (bus.device.writeHolding address value).1 ::
                bus.history }) := rfl
      rw [written]
      unfold SocCabinet.writeHolding
      split
      · exact ⟨visits.enter (allowed rfl), fun _ => rfl⟩
      · exact ⟨visits.enter (allowed rfl), fun wrong => absurd wrong (by simp)⟩
      · exact ⟨visits.enter (visits _ List.mem_cons_self), fun wrong => absurd wrong (by simp)⟩

theorem stored_upper (cabinet : SocCabinet) (value : UInt16) :
    cabinet.stored Registers.pcsSocUpperLimit value = { cabinet.window with upper := value } :=
  if_pos rfl

theorem stored_lower (cabinet : SocCabinet) (value : UInt16) :
    cabinet.stored Registers.pcsSocLowerLimit value = { cabinet.window with lower := value } := by
  rw [SocCabinet.stored, if_neg (by decide), if_pos rfl]

/-- The windows an operation may pass through on its way: the upper register is the
first to move unless only the lower one widens the window. -/
structure Passable (Allowed : SocWindow → Prop) (old requested : SocWindow)
    (raises lowers : Bool) : Prop where
  start : Allowed old
  goal : Allowed requested
  upperFirst : raises = true ∨ lowers = false → Allowed ⟨old.lower, requested.upper⟩
  lowerFirst : lowers = true → Allowed ⟨requested.lower, old.upper⟩

/-- The four writes of an operation, from a window that has been read. -/
theorem writes_visit {old requested : SocWindow} {raises lowers : Bool}
    (passable : Passable Allowed old requested raises lowers) {bus : Bus SocCabinet}
    (visits : bus.device.Visits Allowed) (window : bus.device.window = old) :
    let raised := writeWhen client raises Registers.pcsSocUpperLimit requested.upper bus
    let lowered := writeWhen client lowers Registers.pcsSocLowerLimit requested.lower raised.2
    let cut := writeWhen client (!raises) Registers.pcsSocUpperLimit requested.upper lowered.2
    let written :=
      if !raised.1 then (false, raised.2)
      else if !lowered.1 then (false, lowered.2)
      else if !cut.1 then (false, cut.2)
      else writeWhen client (!lowers) Registers.pcsSocLowerLimit requested.lower cut.2
    written.2.device.Visits Allowed ∧ (written.1 = true → written.2.device.window = requested) := by
  intro raised lowered cut written
  have stopped : ∀ after : Bus SocCabinet, written = (false, after) →
      after.device.Visits Allowed → written.2.device.Visits Allowed ∧
        (written.1 = true → written.2.device.window = requested) := by
    intro after stop visited
    rw [stop]
    exact ⟨visited, fun wrong => absurd wrong (by simp)⟩
  obtain ⟨raisedVisits, raisedWindow⟩ := writeWhen_visits raises Registers.pcsSocUpperLimit
    requested.upper bus visits (by
      intro up
      rw [stored_upper, window]
      exact passable.upperFirst (.inl up))
  by_cases raisedOk : raised.1 = true
  case neg => exact stopped raised.2 (by simp [written, raisedOk]) raisedVisits
  have first : raised.2.device.window =
      if raises then { old with upper := requested.upper } else old := by
    rw [raisedWindow raisedOk, stored_upper, window]
  obtain ⟨loweredVisits, loweredWindow⟩ := writeWhen_visits lowers Registers.pcsSocLowerLimit
    requested.lower raised.2 raisedVisits (by
      intro down
      rw [stored_lower, first]
      cases raises with
      | true => exact passable.goal
      | false => exact passable.lowerFirst down)
  by_cases loweredOk : lowered.1 = true
  case neg => exact stopped lowered.2 (by simp [written, raisedOk, loweredOk]) loweredVisits
  have second : lowered.2.device.window =
      { lower := if lowers then requested.lower else old.lower
        upper := if raises then requested.upper else old.upper } := by
    rw [loweredWindow loweredOk, stored_lower, first]
    cases raises <;> cases lowers <;> rfl
  obtain ⟨cutVisits, cutWindow⟩ := writeWhen_visits (!raises) Registers.pcsSocUpperLimit
    requested.upper lowered.2 loweredVisits (by
      rw [stored_upper, second]
      intro _
      cases lowers with
      | true => exact passable.goal
      | false => exact passable.upperFirst (.inr rfl))
  by_cases cutOk : cut.1 = true
  case neg => exact stopped cut.2 (by simp [written, raisedOk, loweredOk, cutOk]) cutVisits
  have third : cut.2.device.window =
      { lower := if lowers then requested.lower else old.lower, upper := requested.upper } := by
    rw [cutWindow cutOk, stored_upper, second]
    cases raises <;> rfl
  have last : written =
      writeWhen client (!lowers) Registers.pcsSocLowerLimit requested.lower cut.2 := by
    simp [written, raisedOk, loweredOk, cutOk]
  obtain ⟨finalVisits, finalWindow⟩ := writeWhen_visits (!lowers) Registers.pcsSocLowerLimit
    requested.lower cut.2 cutVisits (by
      rw [stored_lower, third]
      exact fun _ => passable.goal)
  rw [last]
  refine ⟨finalVisits, fun ok => ?_⟩
  rw [finalWindow ok, stored_lower, third]
  cases lowers <;> rfl

/-- A read that is answered has the register. -/
theorem readHolding_some {bus : Bus SocCabinet} {address raw : UInt16}
    (read : (bus.readHolding client address).1 = some raw) :
    raw = bus.device.registerOf address := by
  have answer : (bus.readHolding client address).1 =
      if bus.device.readable bus.device.calls then some (bus.device.registerOf address)
      else none := rfl
  rw [answer] at read
  split at read
  · exact (Option.some.inj read).symm
  · exact absurd read (by simp)

/-- Whatever the request, the cabinet is only taken through the passable windows. -/
theorem writeSocLimitsPct_visits (driver : SunStoragePro261Driver) (lowerPct upperPct : ℚ)
    {bus : Bus SocCabinet} (fresh : bus.device.earlier = [])
    (start : Allowed bus.device.window)
    (passable : 0 ≤ lowerPct → lowerPct < upperPct → upperPct ≤ 100 →
      Passable Allowed bus.device.window ⟨encodeSigned lowerPct 1, encodeSigned upperPct 1⟩
        (decodeSigned bus.device.window.upper 1 < upperPct)
        (lowerPct < decodeSigned bus.device.window.lower 1)) :
    let written := driver.writeSocLimitsPct client lowerPct upperPct bus
    written.2.device.Visits Allowed ∧
      (written.1 = true →
        written.2.device.window = ⟨encodeSigned lowerPct 1, encodeSigned upperPct 1⟩) := by
  have untouched : ∀ after : Bus SocCabinet, after.device.window = bus.device.window →
      after.device.earlier = [] → after.device.Visits Allowed := by
    intro after same none_ window member
    rw [SocCabinet.moments, same, none_, List.mem_singleton] at member
    rw [member]
    exact start
  unfold writeSocLimitsPct
  split
  · exact ⟨untouched bus rfl fresh, fun wrong => absurd wrong (by simp)⟩
  · next request =>
      simp only [Bool.or_eq_true, decide_eq_true_eq, not_or, not_lt, not_le] at request
      obtain ⟨⟨⟨-, nonneg⟩, bounded⟩, ordered⟩ := request
      dsimp only
      split
      · next rawUpper rawLower upperRead lowerRead =>
          have upperSame : rawUpper = bus.device.window.upper := readHolding_some upperRead
          have lowerSame : rawLower = bus.device.window.lower := readHolding_some lowerRead
          have raise : decide (upperPct ≤ decodeSigned rawUpper 1) =
              !decide (decodeSigned rawUpper 1 < upperPct) := by
            rw [← decide_not, decide_eq_decide, not_lt]
          have lower : decide (decodeSigned rawLower 1 ≤ lowerPct) =
              !decide (lowerPct < decodeSigned rawLower 1) := by
            rw [← decide_not, decide_eq_decide, not_lt]
          rw [raise, lower, upperSame, lowerSame]
          exact writes_visit (passable nonneg ordered bounded) (untouched _ rfl fresh) rfl
      · exact ⟨untouched _ rfl fresh, fun wrong => absurd wrong (by simp)⟩

/-! ### The requests -/

/-- What holds at every moment of an operation on a window, and at its end. -/
structure KeepsWindow (Ordered : ℤ → ℤ → Prop) (old requested : SocWindow)
    (written : Bool × Bus SocCabinet) : Prop where
  ordered : ∀ window ∈ written.2.device.moments, Ordered (signed window.lower) (signed window.upper)
  oldOrRequested : ∀ window ∈ written.2.device.moments,
    (window.lower = old.lower ∨ window.lower = requested.lower) ∧
      (window.upper = old.upper ∨ window.upper = requested.upper)
  done : written.1 = true → written.2.device.window = requested

section Requests

variable (driver : SunStoragePro261Driver) (old : SocWindow) (readable : Nat → Bool)
    (outcome : Nat → WriteOutcome) (history : List Occurrence)

/-- An operation on a cabinet that has had no window before the present one. -/
def changeWindow (lowerPct upperPct : ℚ) : Bool × Bus SocCabinet :=
  driver.writeSocLimitsPct client lowerPct upperPct
    { device := { window := old, readable := readable, outcome := outcome }
      history := history }

/-- The two windows in between are ordered where they can occur. -/
theorem keepsWindow_of_ordered {Ordered : ℤ → ℤ → Prop} {lowerPct upperPct : ℚ}
    (start : Ordered (signed old.lower) (signed old.upper))
    (between : 0 ≤ lowerPct → lowerPct < upperPct → upperPct ≤ 100 →
      Ordered (signed (encodeSigned lowerPct 1)) (signed (encodeSigned upperPct 1)) ∧
      (((signed old.upper : ℤ) : ℚ) < upperPct ∨ ((signed old.lower : ℤ) : ℚ) ≤ lowerPct →
        Ordered (signed old.lower) (signed (encodeSigned upperPct 1))) ∧
      (lowerPct < ((signed old.lower : ℤ) : ℚ) →
        Ordered (signed (encodeSigned lowerPct 1)) (signed old.upper))) :
    KeepsWindow Ordered old ⟨encodeSigned lowerPct 1, encodeSigned upperPct 1⟩
      (driver.changeWindow old readable outcome history lowerPct upperPct) := by
  have unscaled : ∀ raw : UInt16, decodeSigned raw 1 = ((signed raw : ℤ) : ℚ) :=
    fun raw => div_one _
  let Allowed (window : SocWindow) : Prop :=
    Ordered (signed window.lower) (signed window.upper) ∧
      (window.lower = old.lower ∨ window.lower = encodeSigned lowerPct 1) ∧
      (window.upper = old.upper ∨ window.upper = encodeSigned upperPct 1)
  have startAllowed : Allowed old := ⟨start, .inl rfl, .inl rfl⟩
  let bus : Bus SocCabinet :=
    { device := { window := old, readable := readable, outcome := outcome }, history := history }
  have fresh : bus.device.earlier = [] := rfl
  obtain ⟨visits, done⟩ :=
    driver.writeSocLimitsPct_visits lowerPct upperPct fresh startAllowed (by
      intro nonneg ordered bounded
      obtain ⟨goal, upperFirst, lowerFirst⟩ := between nonneg ordered bounded
      constructor
      · exact startAllowed
      · exact ⟨goal, .inr rfl, .inr rfl⟩
      · intro first
        rw [decide_eq_true_eq, decide_eq_false_iff_not, not_lt, unscaled, unscaled] at first
        exact ⟨upperFirst first, .inl rfl, .inr rfl⟩
      · intro first
        rw [decide_eq_true_eq, unscaled] at first
        exact ⟨lowerFirst first, .inr rfl, .inl rfl⟩)
  exact ⟨fun window member => (visits window member).1,
    fun window member => (visits window member).2, done⟩

/-- A percentage is rounded, and never saturated. -/
theorem signed_encodeSigned_percent {percent : ℚ} (nonneg : 0 ≤ percent) (bounded : percent ≤ 100) :
    signed (encodeSigned percent 1) = roundHalfAway percent := by
  have rounded : roundHalfAway percent ≤ 100 := roundHalfAway_le_whole (by exact_mod_cast bounded)
  have positive : 0 ≤ roundHalfAway percent := roundHalfAway_nonneg nonneg
  rw [signed_encodeSigned, mul_one]
  exact clamp_of_mem (by omega) (by omega)

/-- At every moment of an operation the window is ordered and each of its registers holds
what it held or what is requested, whatever is answered and whatever takes effect. -/
theorem soc_window_never_inverted :
    (∀ lower upper : ℤ, signed old.lower < signed old.upper →
      KeepsWindow (· < ·) old ⟨encodeSigned lower 1, encodeSigned upper 1⟩
        (driver.changeWindow old readable outcome history lower upper)) ∧
      ∀ lowerPct upperPct : ℚ, signed old.lower ≤ signed old.upper →
        KeepsWindow (· ≤ ·) old ⟨encodeSigned lowerPct 1, encodeSigned upperPct 1⟩
          (driver.changeWindow old readable outcome history lowerPct upperPct) := by
  constructor
  · intro lower upper ordered
    refine driver.keepsWindow_of_ordered old readable outcome history ordered ?_
    intro nonneg request bounded
    rw [signed_encodeSigned_percent nonneg (request.le.trans bounded),
      signed_encodeSigned_percent (nonneg.trans request.le) bounded,
      roundHalfAway_intCast, roundHalfAway_intCast]
    norm_cast at request ⊢
    refine ⟨request, ?_, fun below => below.trans ordered⟩
    rintro (raised | tightened)
    · exact ordered.trans raised
    · exact lt_of_le_of_lt tightened request
  · intro lowerPct upperPct ordered
    refine driver.keepsWindow_of_ordered old readable outcome history ordered ?_
    intro nonneg request bounded
    rw [signed_encodeSigned_percent nonneg (request.le.trans bounded),
      signed_encodeSigned_percent (nonneg.trans request.le) bounded]
    refine ⟨roundHalfAway_monotone request.le, ?_,
      fun below => (roundHalfAway_le_whole below.le).trans ordered⟩
    rintro (raised | tightened)
    · exact ordered.trans (le_roundHalfAway raised.le)
    · exact le_roundHalfAway (tightened.trans request.le)

end Requests

/-- Shifted from 10..90 to 30..95 by a cabinet that takes the lower limit last, and does
not say so. -/
theorem soc_window_never_inverted_shift :
    let driver : SunStoragePro261Driver :=
      { approval := ⟨true, true, true, false, true⟩, telemetryValid := true }
    let outcome (call : Nat) : WriteOutcome :=
      if call = 2 then .acknowledged else .unanswered true
    let shifted := driver.changeWindow ⟨10, 90⟩ (fun _ => true) outcome [] (30 : ℤ) (95 : ℤ)
    KeepsWindow (· < ·) ⟨10, 90⟩ ⟨encodeSigned (30 : ℤ) 1, encodeSigned (95 : ℤ) 1⟩ shifted ∧
      shifted.1 = false ∧
      shifted.2.device.moments.map (fun window => (window.lower, window.upper)) =
        [(30, 95), (10, 95), (10, 90)] :=
  ⟨(soc_window_never_inverted _ ⟨10, 90⟩ _ _ []).1 30 95 (by decide), by decide +kernel,
    by decide +kernel⟩

end SunStoragePro261Driver

end GridexEdge.Core
