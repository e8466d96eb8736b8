import GridexEdge.Foundation.Runs
import Mathlib.Data.List.Destutter
import Mathlib.Data.List.ReduceOption

/-!
Delivering what lies behind a key whenever the key has changed.

A machine that compares a key with the one of its last look delivers once for
every change it can see. `deliveries` is that behaviour over the list of views
it had, and `outputs_takes` finds it in any machine that keeps the last key.
-/

namespace GridexEdge.Foundation

universe u v

section Deliveries

variable {View Key Item : Type*} [DecidableEq Key] (key : View → Key) (item : View → Item)

/-- One answer for each look: nothing while the key is the one of the look before. -/
def deliveries : Key → List View → List (Option Item)
  | _, [] => []
  | last, view :: rest =>
      (if key view = last then none else some (item view)) :: deliveries (key view) rest

/-- The delivered keys are the keys seen, with consecutive repeats removed. -/
theorem deliveries_keys (keyOf : Item → Key) (named : ∀ view, keyOf (item view) = key view)
    (last : Key) (views : List View) :
    last :: (deliveries key item last views).reduceOption.map keyOf =
      (last :: views.map key).destutter (· ≠ ·) := by
  rw [List.destutter_cons']
  induction views generalizing last with
  | nil => rfl
  | cons view rest inductionHypothesis =>
      by_cases same : key view = last
      · have repeated : ¬(last ≠ key view) := not_not.mpr same.symm
        rw [List.map_cons, List.destutter'_cons_neg _ repeated, ← inductionHypothesis, deliveries,
          if_pos same, same]
        rfl
      · have changed : last ≠ key view := Ne.symm same
        rw [List.map_cons, List.destutter'_cons_pos _ changed, ← inductionHypothesis, deliveries,
          if_neg same, List.reduceOption_cons_of_some, List.map_cons, named]

end Deliveries

section Machines

variable {State : Type u} {Event : Type v} (step : State → Event → State)

/-- A machine whose looks compare the key with the last one seen, and which changes
what it has seen only by a look, delivers as `deliveries` does. -/
theorem outputs_takes {View Key Item : Type*} [DecidableEq Key] (key : View → Key)
    (item : View → Item) (view : State → View) (seen : State → Key) (takes : Event → Bool)
    (answer : State → Option Item) (Invariant : State → Prop)
    (preserved : ∀ state event, Invariant state → Invariant (step state event))
    (exact : ∀ state, Invariant state →
      answer state = if key (view state) = seen state then none else some (item (view state)))
    (advance : ∀ state event, Invariant state →
      seen (step state event) = if takes event then key (view state) else seen state)
    {state : State} (initial : Invariant state) (events : List Event) :
    outputs step (fun state event => if takes event then [answer state] else []) state events =
      deliveries key item (seen state)
        (outputs step (fun state event => if takes event then [view state] else [])
          state events) := by
  induction events generalizing state with
  | nil => rfl
  | cons event rest inductionHypothesis =>
      rw [outputs, outputs, inductionHypothesis (preserved state event initial),
        advance state event initial]
      cases takes event with
      | false => rfl
      | true =>
          rw [if_pos rfl, if_pos rfl, if_pos rfl, exact state initial]
          rfl

/-- Events that move neither the observed part of the state nor the output can be
left out of a run. -/
theorem outputs_filter {Output : Type*} (view : State → Event → List Output)
    (Related : State → State → Prop) (relevant : Event → Bool)
    (kept : ∀ state other event, Related state other → relevant event = true →
      view state event = view other event ∧ Related (step state event) (step other event))
    (skipped : ∀ state other event, Related state other → relevant event = false →
      view state event = [] ∧ Related (step state event) other)
    {state other : State} (related : Related state other) (events : List Event) :
    outputs step view state events = outputs step view other (events.filter relevant) := by
  induction events generalizing state other with
  | nil => rfl
  | cons event rest inductionHypothesis =>
      cases concerned : relevant event with
      | false =>
          obtain ⟨silent, unmoved⟩ := skipped state other event related concerned
          rw [List.filter_cons_of_neg (by simp [concerned]), outputs, silent, List.nil_append]
          exact inductionHypothesis unmoved
      | true =>
          obtain ⟨same, moved⟩ := kept state other event related concerned
          rw [List.filter_cons_of_pos concerned, outputs, outputs, same]
          rw [inductionHypothesis moved]

end Machines

end GridexEdge.Foundation
