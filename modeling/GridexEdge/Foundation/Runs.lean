import Mathlib.Data.List.Basic
import Mathlib.Data.List.Destutter
import Mathlib.Data.List.Infix
import Mathlib.Data.List.Nodup

/-!
Runs of a deterministic event machine and the histories it leaves behind.

`Along` says that a property of a state and the event it meets holds at every
point of a run. `Justified` says that every entry of a newest-first history was
permitted by what had happened before it.
-/

namespace GridexEdge.Foundation

universe u v

section Runs

variable {State : Type u} {Event : Type v} (step : State → Event → State)

/-- The state after a list of events. -/
def run (state : State) (events : List Event) : State := events.foldl step state

@[simp]
theorem run_nil (state : State) : run step state [] = state := rfl

@[simp]
theorem run_cons (state : State) (event : Event) (rest : List Event) :
    run step state (event :: rest) = run step (step state event) rest := rfl

theorem run_append (state : State) (first second : List Event) :
    run step state (first ++ second) = run step (run step state first) second :=
  List.foldl_append

theorem run_invariant (Invariant : State → Prop)
    (preserved : ∀ state event, Invariant state → Invariant (step state event))
    {state : State} (initial : Invariant state) (events : List Event) :
    Invariant (run step state events) := by
  induction events generalizing state with
  | nil => exact initial
  | cons event rest inductionHypothesis => exact inductionHypothesis (preserved _ _ initial)

/-- The events of a run may all be of a kind that keeps the invariant. -/
theorem run_invariant_of_forall (Invariant : State → Prop) {Allowed : Event → Prop}
    (preserved : ∀ state event, Allowed event → Invariant state → Invariant (step state event))
    {state : State} (initial : Invariant state) {events : List Event}
    (allowed : ∀ event ∈ events, Allowed event) : Invariant (run step state events) := by
  induction events generalizing state with
  | nil => exact initial
  | cons event rest inductionHypothesis =>
      apply inductionHypothesis
      · exact preserved state event (allowed event List.mem_cons_self) initial
      · exact fun later member => allowed later (List.mem_cons_of_mem _ member)

/-- The property holds wherever the run meets an event. -/
def Along (Property : State → Event → Prop) : State → List Event → Prop
  | _, [] => True
  | state, event :: rest => Property state event ∧ Along Property (step state event) rest

instance decidableAlong {Property : State → Event → Prop}
    [∀ state event, Decidable (Property state event)] :
    ∀ state events, Decidable (Along step Property state events)
  | _, [] => .isTrue trivial
  | state, event :: rest =>
      @instDecidableAnd _ _ inferInstance (decidableAlong (step state event) rest)

theorem along_append {Property : State → Event → Prop} {state : State} (first second : List Event) :
    Along step Property state (first ++ second) ↔
      Along step Property state first ∧ Along step Property (run step state first) second := by
  induction first generalizing state with
  | nil => simp [Along]
  | cons event rest inductionHypothesis =>
      rw [List.cons_append, Along, Along, run_cons, inductionHypothesis, and_assoc]

theorem along_of_invariant (Invariant : State → Prop) {Property : State → Event → Prop}
    (preserved : ∀ state event, Invariant state → Invariant (step state event))
    (implied : ∀ state event, Invariant state → Property state event)
    {state : State} (initial : Invariant state) (events : List Event) :
    Along step Property state events := by
  induction events generalizing state with
  | nil => trivial
  | cons event rest inductionHypothesis =>
      exact ⟨implied _ _ initial, inductionHypothesis (preserved _ _ initial)⟩

theorem along_of_forall (Invariant : State → Prop) {Allowed : Event → Prop}
    {Property : State → Event → Prop}
    (preserved : ∀ state event, Allowed event → Invariant state → Invariant (step state event))
    (implied : ∀ state event, Invariant state → Property state event)
    {state : State} (initial : Invariant state) {events : List Event}
    (allowed : ∀ event ∈ events, Allowed event) : Along step Property state events := by
  induction events generalizing state with
  | nil => trivial
  | cons event rest inductionHypothesis =>
      refine ⟨implied state event initial, inductionHypothesis ?_ ?_⟩
      · exact preserved state event (allowed event List.mem_cons_self) initial
      · exact fun later member => allowed later (List.mem_cons_of_mem _ member)

/-- A property that holds along a run may help to keep the invariant. -/
theorem run_invariant_of_along (Invariant : State → Prop) {Property : State → Event → Prop}
    {state : State} {events : List Event}
    (preserved : ∀ state, ∀ event ∈ events, Invariant state → Property state event →
      Invariant (step state event))
    (initial : Invariant state) (along : Along step Property state events) :
    Invariant (run step state events) := by
  induction events generalizing state with
  | nil => exact initial
  | cons event rest inductionHypothesis =>
      apply inductionHypothesis
      · exact fun state later member => preserved state later (List.mem_cons_of_mem _ member)
      · exact preserved state event List.mem_cons_self initial along.1
      · exact along.2

/-- Two properties that agree while an invariant lasts, where the first one
carries the invariant to the next state, hold along the same runs. -/
theorem along_congr (Invariant : State → Prop) {First Second : State → Event → Prop}
    (agree : ∀ state event, Invariant state → (First state event ↔ Second state event))
    (carried : ∀ state event, Invariant state → First state event → Invariant (step state event))
    {state : State} (initial : Invariant state) (events : List Event) :
    Along step First state events ↔ Along step Second state events := by
  induction events generalizing state with
  | nil => exact Iff.rfl
  | cons event rest inductionHypothesis =>
      rw [Along, Along, agree state event initial]
      refine and_congr_right fun second => ?_
      exact inductionHypothesis (carried state event initial ((agree _ _ initial).mpr second))

/-- Along a run with a third property, two properties that agree wherever it holds
are the same. -/
theorem along_congr_of_along {Given First Second : State → Event → Prop}
    (agree : ∀ state event, Given state event → (First state event ↔ Second state event))
    {state : State} {events : List Event} (given : Along step Given state events) :
    Along step First state events ↔ Along step Second state events := by
  induction events generalizing state with
  | nil => exact Iff.rfl
  | cons event rest inductionHypothesis =>
      exact and_congr (agree state event given.1) (inductionHypothesis given.2)

/-- What a view of every state and the event it meets puts out along a run. -/
def outputs {Output : Type*} (view : State → Event → List Output) :
    State → List Event → List Output
  | _, [] => []
  | state, event :: rest => view state event ++ outputs view (step state event) rest

theorem outputs_append {Output : Type*} (view : State → Event → List Output) (state : State)
    (first second : List Event) :
    outputs step view state (first ++ second) =
      outputs step view state first ++ outputs step view (run step state first) second := by
  induction first generalizing state with
  | nil => rfl
  | cons event rest inductionHypothesis =>
      rw [List.cons_append, outputs, outputs, run_cons, inductionHypothesis, List.append_assoc]

/-- Nothing is put out twice when no point of the run puts out what an earlier one has. -/
theorem outputs_nodup_iff {Output : Type*} {view : State → Event → List Output}
    (single : ∀ state event, (view state event).Nodup) {state : State} (events : List Event) :
    (outputs step view state events).Nodup ↔
      ∀ before event after, events = before ++ event :: after →
        (outputs step view state before).Disjoint (view (run step state before) event) := by
  induction events using List.reverseRecOn with
  | nil => simp [outputs]
  | append_singleton events last inductionHypothesis =>
      have lastOutputs : outputs step view (run step state events) [last] =
          view (run step state events) last := List.append_nil _
      rw [outputs_append, lastOutputs, List.nodup_append', inductionHypothesis]
      constructor
      · rintro ⟨earlier, -, fresh⟩ before event after split
        rcases List.eq_nil_or_concat' after with rfl | ⟨shorter, final, rfl⟩
        · obtain ⟨rfl, same⟩ := List.append_inj' split rfl
          cases same
          exact fresh
        · rw [← List.cons_append, ← List.append_assoc] at split
          exact earlier before event shorter (List.append_inj_left' split rfl)
      · intro fresh
        refine ⟨fun before event after split => fresh before event (after ++ [last]) ?_,
          single _ _, fresh events last [] rfl⟩
        rw [split, List.append_assoc, List.cons_append]

/-- The first value is never forgotten. -/
theorem cons_tail_destutter {Value : Type*} (Related : Value → Value → Prop)
    [DecidableRel Related] (first : Value) (rest : List Value) :
    first :: (rest.destutter' Related first).tail = rest.destutter' Related first := by
  induction rest with
  | nil => rfl
  | cons value rest inductionHypothesis =>
      rw [List.destutter'_cons]
      split
      · rfl
      · exact inductionHypothesis

end Runs

section Histories

variable {Entry : Type u}

/-- Every entry of a newest-first history was safe after the entries below it. -/
def Justified (Safe : List Entry → Entry → Prop) (history : List Entry) : Prop :=
  ∀ entry before, (entry :: before) <:+ history → Safe before entry

variable {Safe : List Entry → Entry → Prop}

@[simp]
theorem justified_nil : Justified Safe ([] : List Entry) := by
  intro entry before suffix
  exact absurd (List.suffix_nil.mp suffix) (by simp)

theorem justified_cons {entry : Entry} {history : List Entry} :
    Justified Safe (entry :: history) ↔ Safe history entry ∧ Justified Safe history := by
  constructor
  · intro justified
    exact ⟨justified entry history List.suffix_rfl,
      fun other before suffix => justified other before (suffix.trans (List.suffix_cons _ _))⟩
  · rintro ⟨safe, justified⟩ other before suffix
    rcases List.suffix_cons_iff.mp suffix with same | earlier
    · cases same
      exact safe
    · exact justified other before earlier

end Histories

end GridexEdge.Foundation
