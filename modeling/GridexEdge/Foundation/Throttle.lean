import GridexEdge.Foundation.Runs
import Mathlib.Algebra.Group.Nat.Defs

/-!
Actions that a wrapping counter of milliseconds holds apart.

The counter is read at times that do not wrap. A throttle compares differences of its
readings: it never opens early, and it opens whenever it is due as long as it is asked
before the counter can come round.
-/

namespace GridexEdge.Foundation

universe u v

/-- The counter at a time. -/
def clock (time : Nat) : UInt32 := UInt32.ofNat time

/-- The counter is read as a call starts, and may be read again before it ends. -/
structure TimedCall where
  start : Nat
  finish : Nat
  ordered : start ≤ finish

/-- One call after the other, from a time on. -/
def Chronological : Nat → List TimedCall → Prop
  | _, [] => True
  | since, call :: rest => since ≤ call.start ∧ Chronological call.finish rest

/-- Each starts a period after the end of the one before, at the earliest. -/
def Apart (period : Nat) : Nat → List TimedCall → Prop
  | _, [] => True
  | since, call :: rest => since + period ≤ call.start ∧ Apart period call.finish rest

/-- Each starts before a gap has passed since the start of the one before. -/
def Frequent (gap : Nat) : Nat → List TimedCall → Prop
  | _, [] => True
  | since, call :: rest => call.start < since + gap ∧ Frequent gap call.start rest

theorem Chronological.mono {since earlier : Nat} {calls : List TimedCall}
    (chronological : Chronological since calls) (before : earlier ≤ since) :
    Chronological earlier calls := by
  cases calls with
  | nil => trivial
  | cons call rest => exact ⟨before.trans chronological.1, chronological.2⟩

theorem Chronological.tail {since : Nat} {call : TimedCall} {rest : List TimedCall}
    (chronological : Chronological since (call :: rest)) : Chronological since rest :=
  chronological.2.mono (chronological.1.trans call.ordered)

theorem Chronological.sublist {since : Nat} {some all : List TimedCall} (sublist : some.Sublist all)
    (chronological : Chronological since all) : Chronological since some := by
  induction sublist generalizing since with
  | slnil => trivial
  | cons call _ inductionHypothesis => exact inductionHypothesis chronological.tail
  | cons_cons call _ inductionHypothesis =>
      exact ⟨chronological.1, inductionHypothesis chronological.2⟩

namespace Throttle

variable (period : UInt32)

def opens (last now : UInt32) : Bool := decide (period ≤ now - last)

/-- The difference of two readings is that of their times, less the rounds of the counter. -/
theorem toNat_clock_sub {since time : Nat} (later : since ≤ time) :
    (clock time - clock since).toNat = (time - since) % 2 ^ 32 := by
  rw [clock, clock, UInt32.toNat_sub, UInt32.toNat_ofNat', UInt32.toNat_ofNat']
  omega

theorem add_le_of_opens {since time : Nat} (later : since ≤ time)
    (open_ : opens period (clock since) (clock time) = true) : since + period.toNat ≤ time := by
  rw [opens, decide_eq_true_eq, UInt32.le_iff_toNat_le, toNat_clock_sub later] at open_
  have bounded := Nat.mod_le (time - since) (2 ^ 32)
  omega

theorem opens_iff {since time : Nat} (later : since ≤ time) (near : time < since + 2 ^ 32) :
    opens period (clock since) (clock time) = true ↔ since + period.toNat ≤ time := by
  rw [opens, decide_eq_true_eq, UInt32.le_iff_toNat_le, toNat_clock_sub later,
    Nat.mod_eq_of_lt (by omega)]
  omega

/-- A call, and whether there is anything to do. -/
abbrev Ask := TimedCall × Bool

def step (last : UInt32) (ask : Ask) : UInt32 :=
  if ask.2 && opens period last (clock ask.1.start) then clock ask.1.finish else last

def opening (last : UInt32) (ask : Ask) : List TimedCall :=
  if ask.2 && opens period last (clock ask.1.start) then [ask.1] else []

/-- The calls that a throttle lets through. -/
def openings (last : UInt32) (asks : List Ask) : List TimedCall :=
  outputs (step period) (opening period) last asks

/-- The calls that come when the period is over, by the times themselves. -/
def due (period : Nat) : Nat → List TimedCall → List TimedCall
  | _, [] => []
  | last, call :: rest =>
      if last + period ≤ call.start then call :: due period call.finish rest
      else due period last rest

/-- However far apart the asks are, the openings keep their distance. -/
theorem apart_openings {last since : Nat} {asks : List Ask} (before : last ≤ since)
    (chronological : Chronological since (asks.map Prod.fst)) :
    Apart period.toNat last (openings period (clock last) asks) := by
  induction asks generalizing last since with
  | nil => trivial
  | cons ask rest inductionHypothesis =>
      obtain ⟨starts, later⟩ := chronological
      rw [openings, outputs, opening, step]
      cases acts : ask.2 && opens period (clock last) (clock ask.1.start) with
      | true =>
          refine ⟨?_, inductionHypothesis le_rfl later⟩
          exact add_le_of_opens period (before.trans starts) (Bool.and_eq_true_iff.mp acts).2
      | false => exact inductionHypothesis (before.trans (starts.trans ask.1.ordered)) later

/-- A throttle that is always wanted, and asked often enough, opens whenever it is due. -/
theorem openings_eq_due {gap last since asked : Nat} {asks : List Ask}
    (fits : gap + period.toNat ≤ 2 ^ 32) (before : last ≤ since)
    (recent : asked + gap ≤ last + 2 ^ 32)
    (chronological : Chronological since (asks.map Prod.fst))
    (frequent : Frequent gap asked (asks.map Prod.fst)) (wanted : ∀ ask ∈ asks, ask.2 = true) :
    openings period (clock last) asks = due period.toNat last (asks.map Prod.fst) := by
  induction asks generalizing last since asked with
  | nil => rfl
  | cons ask rest inductionHypothesis =>
      obtain ⟨starts, later⟩ := chronological
      obtain ⟨soon, often⟩ := frequent
      have ordered := ask.1.ordered
      have acts := opens_iff period (before.trans starts) (Nat.lt_of_lt_of_le soon recent)
      have others : ∀ other ∈ rest, other.2 = true :=
        fun other member => wanted other (List.mem_cons_of_mem _ member)
      rw [openings, outputs, opening, step, wanted ask List.mem_cons_self, Bool.true_and,
        List.map_cons, due]
      by_cases isDue : last + period.toNat ≤ ask.1.start
      · rw [if_pos (acts.mpr isDue), if_pos (acts.mpr isDue), if_pos isDue]
        exact congrArg (ask.1 :: ·)
          (inductionHypothesis le_rfl (by omega) later often others)
      · rw [if_neg (mt acts.mp isDue), if_neg (mt acts.mp isDue), if_neg isDue]
        exact inductionHypothesis (by omega) (by omega) later often others

section Machines

variable {State : Type u} {Event : Type v} {period}

/-- A machine that keeps the last opening among its state, and acts when the throttle
lets it, acts at its openings. -/
theorem outputs_eq_openings {machine : State → Event → State} {last : State → UInt32}
    {ask : State → Event → Option Ask} {acts : State → Event → List TimedCall}
    {Allowed : State → Event → Prop}
    (unasked : ∀ state event, Allowed state event → ask state event = none →
      last (machine state event) = last state ∧ acts state event = [])
    (asked : ∀ state event call, Allowed state event → ask state event = some call →
      last (machine state event) = step period (last state) call ∧
        acts state event = opening period (last state) call)
    {state : State} {events : List Event} (allowed : Along machine Allowed state events) :
    outputs machine acts state events =
      openings period (last state)
        (outputs machine (fun state event => (ask state event).toList) state events) := by
  induction events generalizing state with
  | nil => rfl
  | cons event rest inductionHypothesis =>
      rw [outputs, outputs, inductionHypothesis allowed.2]
      cases call : ask state event with
      | none =>
          obtain ⟨kept, silent⟩ := unasked state event allowed.1 call
          rw [kept, silent]
          rfl
      | some call_ =>
          obtain ⟨moved, acted⟩ := asked state event call_ allowed.1 call
          rw [moved, acted]
          rfl

/-- The asks of a run come at the times of its events. -/
theorem sublist_asks {machine : State → Event → State} {ask : State → Event → Option Ask}
    {call : Event → TimedCall} (timed : ∀ state event asked, ask state event = some asked →
      asked.1 = call event) (state : State) (events : List Event) :
    ((outputs machine (fun state event => (ask state event).toList) state events).map
      Prod.fst).Sublist (events.map call) := by
  induction events generalizing state with
  | nil => exact List.Sublist.slnil
  | cons event rest inductionHypothesis =>
      rw [outputs, List.map_append, List.map_cons]
      cases asked : ask state event with
      | none => exact (inductionHypothesis _).cons _
      | some asked_ =>
          have same := timed state event asked_ asked
          rw [Option.toList_some, List.map_singleton, same]
          exact (inductionHypothesis _).cons_cons _

/-- A counter that goes up with every action has counted them all. -/
theorem count_run {machine : State → Event → State} {count : State → UInt16}
    {acts : State → Event → List TimedCall} {Allowed : State → Event → Prop}
    (counts : ∀ state event, Allowed state event →
      count (machine state event) = count state + UInt16.ofNat (acts state event).length)
    {state : State} {events : List Event} (allowed : Along machine Allowed state events) :
    count (run machine state events) =
      count state + UInt16.ofNat (outputs machine acts state events).length := by
  induction events generalizing state with
  | nil => exact (UInt16.add_zero _).symm
  | cons event rest inductionHypothesis =>
      rw [run_cons, inductionHypothesis allowed.2, counts state event allowed.1, outputs,
        List.length_append, UInt16.ofNat_add, UInt16.add_assoc]

end Machines

end Throttle

/-! ### Deadlines -/

/-- Whether the counter has come to a reading, by the sign of their difference. -/
def reached (deadline now : UInt32) : Bool := decide (0 ≤ (now - deadline).toInt32)

theorem toInt32_nonneg_iff (word : UInt32) : 0 ≤ word.toInt32 ↔ word.toNat < 2 ^ 31 := by
  have bounded := word.toNat_lt
  have same : word.toInt32.toInt = word.toBitVec.toInt := rfl
  rw [Int32.le_iff_toInt_le, Int32.toInt_zero, same, BitVec.toInt_eq_toNat_cond]
  change 0 ≤ (if 2 * word.toNat < 2 ^ 32 then (word.toNat : Int)
    else word.toNat - (2 ^ 32 : Nat)) ↔ _
  split
  · omega
  · omega

/-- The sign is right for half a round of the counter before the reading, and for half a
round after it. -/
theorem reached_iff {due time : Nat} (before : due ≤ time + 2 ^ 31) (after : time < due + 2 ^ 31) :
    reached (clock due) (clock time) = true ↔ due ≤ time := by
  rw [reached, decide_eq_true_eq, toInt32_nonneg_iff, clock, clock, UInt32.toNat_sub,
    UInt32.toNat_ofNat', UInt32.toNat_ofNat']
  omega

/-- Times a period apart, from a first one on. -/
def Spaced (period : Int) : Int → List Int → Prop
  | _, [] => True
  | next, time :: rest => next ≤ time ∧ Spaced period (time + period) rest

theorem Spaced.mono {period next earlier : Int} {times : List Int}
    (spaced : Spaced period next times) (before : earlier ≤ next) :
    Spaced period earlier times := by
  cases times with
  | nil => trivial
  | cons time rest => exact ⟨Int.le_trans before spaced.1, spaced.2⟩

theorem Spaced.left {period next : Int} {first second : List Int}
    (spaced : Spaced period next (first ++ second)) : Spaced period next first := by
  induction first generalizing next with
  | nil => trivial
  | cons time rest inductionHypothesis => exact ⟨spaced.1, inductionHypothesis spaced.2⟩

end GridexEdge.Foundation
