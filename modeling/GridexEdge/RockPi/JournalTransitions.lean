import GridexEdge.RockPi.JournalLines

/-!
The journal as the main loop uses it: a transition record whenever a slot's poll
status differs from the remembered one, and snapshots from time to time.

The loop remembers the new status whether or not its record was stored, so the
stored transitions of a slot form a chain as long as none of them is lost.
-/

namespace GridexEdge.RockPi

open Foundation

structure JournalLoop where
  store : JournalStore
  journalStatuses : List NodePollStatus := []
  nodeSamples : List MbusNodeTelemetry := []

/-- The statements of the loop that touch the journal, with the slot of each. -/
inductive JournalEvent where
  | takeSamples (nodeSamples : List MbusNodeTelemetry)
  | checkTransition (slot : Nat) (calls : SystemCalls)
  | appendSnapshot (slot : Nat) (calls : SystemCalls)

/-- One pass of the main loop. -/
structure JournalPass where
  nodeSamples : List MbusNodeTelemetry
  transitionCalls : Nat → SystemCalls := fun _ => {}
  snapshotDue : Bool := false
  snapshotCalls : Nat → SystemCalls := fun _ => {}

def JournalPass.events (pass : JournalPass) : List JournalEvent :=
  .takeSamples pass.nodeSamples ::
    (List.range pass.nodeSamples.length).map
      (fun slot => .checkTransition slot (pass.transitionCalls slot)) ++
    if pass.snapshotDue then
      (List.range pass.nodeSamples.length).map
        (fun slot => .appendSnapshot slot (pass.snapshotCalls slot))
    else []

namespace JournalLoop

variable (loop : JournalLoop)

def start (config : TelemetryJournalConfig) (current prior : Option Text) : JournalLoop :=
  { store := .start config current prior }

/-- The append of a slot's transition, when its status is not the remembered one. -/
def transitionCall (slot : Nat) (calls : SystemCalls) : Option JournalCall :=
  match loop.nodeSamples[slot]?, loop.journalStatuses[slot]? with
  | some sample, some previous =>
      if sample.pollStatus ≠ previous then
        some (.appendTransition (slot + 1) sample previous calls)
      else none
  | _, _ => none

def takeSamples (nodeSamples : List MbusNodeTelemetry) : JournalLoop :=
  { loop with
    nodeSamples := nodeSamples
    journalStatuses :=
      if loop.journalStatuses.length ≠ nodeSamples.length then
        List.replicate nodeSamples.length .unknown
      else loop.journalStatuses }

/-- The remembered status moves whether or not the record was stored. Slots are
numbered from one in the records. -/
def checkTransition (slot : Nat) (calls : SystemCalls) : JournalLoop :=
  match loop.nodeSamples[slot]?, loop.journalStatuses[slot]? with
  | some sample, some previous =>
      if sample.pollStatus ≠ previous then
        { loop with
          store := loop.store.step (.appendTransition (slot + 1) sample previous calls)
          journalStatuses := loop.journalStatuses.set slot sample.pollStatus }
      else loop
  | _, _ => loop

def appendSnapshot (slot : Nat) (calls : SystemCalls) : JournalLoop :=
  match loop.nodeSamples[slot]? with
  | some sample => { loop with store := loop.store.step (.appendSnapshot (slot + 1) sample calls) }
  | none => loop

def step : JournalEvent → JournalLoop
  | .takeSamples nodeSamples => loop.takeSamples nodeSamples
  | .checkTransition slot calls => loop.checkTransition slot calls
  | .appendSnapshot slot calls => loop.appendSnapshot slot calls

/-- A transition record that an enabled journal is asked for reaches the file. -/
def RecordsTransition : JournalEvent → Prop
  | .checkTransition slot calls =>
      ∀ call ∈ loop.transitionCall slot calls,
        loop.store.journal.enabled = true → loop.store.stores call = true
  | .takeSamples _ => True
  | .appendSnapshot _ _ => True

instance (event : JournalEvent) : Decidable (loop.RecordsTransition event) := by
  cases event <;> unfold RecordsTransition <;> infer_instance

end JournalLoop

/-! ### The stored transitions of a slot -/

/-- The transition records of a slot that were stored, in the order of storing. -/
def transitionsOf (slot : Nat) (history : List JournalOccurrence) : List JournalEntry :=
  (storedEntries history).filter fun entry => entry.kind == .transition && entry.slot == slot

/-- The status the last record leads to. -/
def lastStatus (first : NodePollStatus) : List JournalEntry → NodePollStatus
  | [] => first
  | entry :: rest => lastStatus entry.sample.pollStatus rest

/-- Each record starts from the status the one before it leads to. -/
def Chained (first : NodePollStatus) : List JournalEntry → Prop
  | [] => True
  | entry :: rest => entry.previousStatus = first ∧ Chained entry.sample.pollStatus rest

instance decidableChained : ∀ first entries, Decidable (Chained first entries)
  | _, [] => .isTrue trivial
  | _, entry :: rest =>
      @instDecidableAnd _ _ inferInstance (decidableChained entry.sample.pollStatus rest)

/-- Whether the last append for a slot was reported as a success. -/
def lastWriteSucceeded (slot : Nat) : List JournalOccurrence → Option Bool
  | [] => none
  | .appended entry _ succeeded :: earlier =>
      if entry.slot = slot then some succeeded else lastWriteSucceeded slot earlier
  | .discarded :: earlier => lastWriteSucceeded slot earlier
  | .rotated :: earlier => lastWriteSucceeded slot earlier

theorem lastStatus_append_singleton (first : NodePollStatus) (entries : List JournalEntry)
    (entry : JournalEntry) : lastStatus first (entries ++ [entry]) = entry.sample.pollStatus := by
  induction entries generalizing first with
  | nil => rfl
  | cons _ _ inductionHypothesis => exact inductionHypothesis _

theorem chained_append_singleton (first : NodePollStatus) (entries : List JournalEntry)
    (entry : JournalEntry) :
    Chained first (entries ++ [entry]) ↔
      Chained first entries ∧ entry.previousStatus = lastStatus first entries := by
  induction entries generalizing first with
  | nil => simp [Chained, lastStatus]
  | cons _ _ inductionHypothesis =>
      rw [List.cons_append, Chained, Chained, inductionHypothesis, lastStatus, and_assoc]

theorem transitionsOf_step (slot : Nat) (store : JournalStore) (call : JournalCall) :
    transitionsOf slot (store.step call).files.history =
      transitionsOf slot store.files.history ++
        if store.stores call ∧ (call.entry store.journal).kind = .transition ∧
            (call.entry store.journal).slot = slot then
          [call.entry store.journal]
        else [] := by
  rw [transitionsOf, (JournalStore.perform_notes _ _).2, List.filter_append, transitionsOf]
  congr 1
  rw [JournalStore.storedRecord]
  cases store.stores call with
  | false => simp
  | true => simp [List.filter_singleton]

namespace JournalStore

variable (store : JournalStore) (call : JournalCall)

@[simp]
theorem step_enabled : (store.step call).journal.enabled = store.journal.enabled := by
  rw [TelemetryJournal.enabled, step_config, TelemetryJournal.enabled]

/-- A disabled journal leaves everything as it is. -/
theorem step_of_disabled (closed : store.journal.enabled = false) : store.step call = store := by
  rcases store.step_cases call with ⟨-, same⟩ | ⟨open_, -, -⟩ | ⟨open_, -, -⟩
  · rw [step, same]
  · rw [closed] at open_
    exact absurd open_ Bool.false_ne_true
  · rw [closed] at open_
    exact absurd open_ Bool.false_ne_true

/-- A disabled journal that has stored nothing never will. -/
theorem silent_step {store : JournalStore}
    (silent : store.journal.enabled = false → store.files.history = [])
    (closed : (store.step call).journal.enabled = false) :
    (store.step call).files.history = [] := by
  rw [step_enabled] at closed
  rw [step_of_disabled _ _ closed]
  exact silent closed

/-- What is stored was asked of an enabled journal. -/
theorem enabled_of_stores {store : JournalStore} {call : JournalCall}
    (stored : store.stores call = true) : store.journal.enabled = true := by
  simp only [stores, reachesWrite, Bool.and_eq_true] at stored
  exact stored.1.1.1

end JournalStore

/-! ### One statement of the loop -/

namespace JournalLoop

variable {loop : JournalLoop}

/-- A check leaves the loop alone, or appends the transition and moves on. -/
theorem checkTransition_cases (loop : JournalLoop) (slot : Nat) (calls : SystemCalls) :
    loop.checkTransition slot calls = loop ∧
        (slot < loop.nodeSamples.length → slot < loop.journalStatuses.length →
          loop.journalStatuses[slot]? = loop.nodeSamples[slot]?.map (·.pollStatus)) ∨
      ∃ sample previous,
        loop.nodeSamples[slot]? = some sample ∧ loop.journalStatuses[slot]? = some previous ∧
          loop.transitionCall slot calls =
            some (.appendTransition (slot + 1) sample previous calls) ∧
          loop.checkTransition slot calls =
            { loop with
              store := loop.store.step (.appendTransition (slot + 1) sample previous calls)
              journalStatuses := loop.journalStatuses.set slot sample.pollStatus } := by
  cases sampled : loop.nodeSamples[slot]? with
  | none =>
      refine .inl ⟨by simp [checkTransition, sampled], fun inside => ?_⟩
      exact absurd (List.getElem?_eq_none_iff.mp sampled) (Nat.not_le_of_lt inside)
  | some sample =>
      cases remembered : loop.journalStatuses[slot]? with
      | none =>
          refine .inl ⟨by simp [checkTransition, sampled, remembered], fun _ inside => ?_⟩
          exact absurd (List.getElem?_eq_none_iff.mp remembered) (Nat.not_le_of_lt inside)
      | some previous =>
          by_cases same : sample.pollStatus = previous
          · exact .inl ⟨by simp [checkTransition, sampled, remembered, same],
              fun _ _ => by simp [same]⟩
          · exact .inr ⟨sample, previous, rfl, rfl, by
              simp [transitionCall, sampled, remembered, same], by
              simp [checkTransition, sampled, remembered, same]⟩

/-- While no transition is lost, the remembered status of every slot is the one its
stored transitions lead to. -/
structure Faithful (slots : Nat) (loop : JournalLoop) : Prop where
  sized : loop.journalStatuses = [] ∨ loop.journalStatuses.length = slots
  silent : loop.store.journal.enabled = false → loop.store.files.history = []
  chained : ∀ slot, Chained .unknown (transitionsOf (slot + 1) loop.store.files.history)
  remembered : loop.store.journal.enabled = true → ∀ slot,
    loop.journalStatuses.getD slot .unknown =
      lastStatus .unknown (transitionsOf (slot + 1) loop.store.files.history)

variable {slots : Nat}

theorem Faithful.takeSamples (faithful : loop.Faithful slots)
    {nodeSamples : List MbusNodeTelemetry} (sized : nodeSamples.length = slots) :
    (loop.takeSamples nodeSamples).Faithful slots := by
  unfold JournalLoop.takeSamples
  split
  · next resized =>
      rcases faithful.sized with empty | full
      · refine ⟨.inr (by simp [sized]), faithful.silent, faithful.chained, fun enabled slot => ?_⟩
        rw [← faithful.remembered enabled slot, empty]
        by_cases inside : slot < nodeSamples.length
        · simp [inside]
        · simp [inside]
      · exact absurd (full.trans sized.symm) resized
  · exact ⟨faithful.sized, faithful.silent, faithful.chained, faithful.remembered⟩

theorem Faithful.appendSnapshot (faithful : loop.Faithful slots) (slot : Nat)
    (calls : SystemCalls) : (loop.appendSnapshot slot calls).Faithful slots := by
  unfold JournalLoop.appendSnapshot
  cases loop.nodeSamples[slot]? with
  | none => exact faithful
  | some sample =>
      dsimp only
      let call : JournalCall := .appendSnapshot (slot + 1) sample calls
      have unchanged : ∀ other, transitionsOf other (loop.store.step call).files.history =
          transitionsOf other loop.store.files.history := by
        intro other
        rw [transitionsOf_step, if_neg, List.append_nil]
        rintro ⟨-, isTransition, -⟩
        exact absurd isTransition (by simp [call, JournalCall.entry, TelemetryJournal.record])
      refine ⟨faithful.sized, JournalStore.silent_step _ faithful.silent, fun other => ?_,
        fun enabled other => ?_⟩
      · rw [unchanged]
        exact faithful.chained other
      · rw [JournalStore.step_enabled] at enabled
        rw [unchanged]
        exact faithful.remembered enabled other

/-- A transition that is stored starts from the remembered status. -/
theorem Faithful.chained_step (faithful : loop.Faithful slots) {slot : Nat}
    {previous : NodePollStatus} (known : loop.journalStatuses[slot]? = some previous)
    (sample : MbusNodeTelemetry) (calls : SystemCalls) (other : Nat) :
    Chained .unknown (transitionsOf (other + 1)
      (loop.store.step (.appendTransition (slot + 1) sample previous calls)).files.history) := by
  rw [transitionsOf_step]
  split
  · next added =>
      have enabled := JournalStore.enabled_of_stores added.1
      have sameSlot : slot = other := Nat.succ.inj added.2.2
      rw [chained_append_singleton]
      refine ⟨faithful.chained other, ?_⟩
      rw [← faithful.remembered enabled other, ← sameSlot, List.getD_eq_getElem?_getD, known]
      rfl
  · rw [List.append_nil]
    exact faithful.chained other

/-- The status moves with the record that is stored, and those of other slots stay. -/
theorem Faithful.remembered_step (faithful : loop.Faithful slots)
    (enabled : loop.store.journal.enabled = true) {slot : Nat} {previous : NodePollStatus}
    (inside : slot < loop.journalStatuses.length) {sample : MbusNodeTelemetry}
    {calls : SystemCalls}
    (stored : loop.store.stores (.appendTransition (slot + 1) sample previous calls) = true)
    (other : Nat) :
    (loop.journalStatuses.set slot sample.pollStatus).getD other .unknown =
      lastStatus .unknown (transitionsOf (other + 1)
        (loop.store.step (.appendTransition (slot + 1) sample previous calls)).files.history) := by
  rw [transitionsOf_step, stored]
  by_cases sameSlot : other = slot
  · subst sameSlot
    rw [if_pos ⟨rfl, rfl, rfl⟩, lastStatus_append_singleton, List.getD_eq_getElem?_getD,
      List.getElem?_set_self inside]
    rfl
  · rw [if_neg, List.append_nil, ← faithful.remembered enabled other,
      List.getD_eq_getElem?_getD, List.getD_eq_getElem?_getD,
      List.getElem?_set_ne (Ne.symm sameSlot)]
    rintro ⟨-, -, numbered⟩
    exact sameSlot (Nat.succ.inj numbered).symm

theorem Faithful.checkTransition (faithful : loop.Faithful slots) {slot : Nat}
    {calls : SystemCalls} (recorded : loop.RecordsTransition (.checkTransition slot calls)) :
    (loop.checkTransition slot calls).Faithful slots := by
  rcases loop.checkTransition_cases slot calls with ⟨same, -⟩ |
    ⟨sample, previous, -, known, asked, moved⟩
  · rw [same]
    exact faithful
  · have stored := recorded _ asked
    have inside : slot < loop.journalStatuses.length := (List.getElem?_eq_some_iff.mp known).1
    rw [moved]
    constructor
    · rcases faithful.sized with empty | full
      · exact .inl (by simp [empty])
      · exact .inr (by simpa using full)
    · exact JournalStore.silent_step _ faithful.silent
    · exact faithful.chained_step known sample calls
    · intro enabled
      rw [JournalStore.step_enabled] at enabled
      exact faithful.remembered_step enabled inside (stored enabled)

/-! ### Whole passes -/

def pass (loop : JournalLoop) (pass : JournalPass) : JournalLoop := run step loop pass.events

/-- No transition of the pass is lost. -/
def RecordsTransitions (loop : JournalLoop) (pass : JournalPass) : Prop :=
  Along step RecordsTransition loop pass.events

instance (loop : JournalLoop) (pass : JournalPass) : Decidable (loop.RecordsTransitions pass) :=
  inferInstanceAs (Decidable (Along step RecordsTransition loop pass.events))

theorem Faithful.pass (faithful : loop.Faithful slots) {pass : JournalPass}
    (sized : pass.nodeSamples.length = slots) (recorded : loop.RecordsTransitions pass) :
    (loop.pass pass).Faithful slots := by
  refine run_invariant_of_along step (Faithful slots) ?_ faithful recorded
  intro later event member before recorded
  cases event with
  | takeSamples nodeSamples =>
      have same : nodeSamples = pass.nodeSamples := by
        simp only [JournalPass.events, List.cons_append, List.mem_cons, List.mem_append,
          List.mem_map, reduceCtorEq, and_false, exists_false, false_or] at member
        rcases member with same | snapshots
        · exact JournalEvent.takeSamples.inj same
        · split at snapshots
          · simp at snapshots
          · simp at snapshots
      rw [same]
      exact before.takeSamples sized
  | checkTransition slot calls => exact before.checkTransition recorded
  | appendSnapshot slot calls => exact before.appendSnapshot slot calls

/-- After the checks of the first slots, these slots are remembered as sampled. -/
theorem checked_slots (loop : JournalLoop) (calls : Nat → SystemCalls)
    (sized : loop.journalStatuses.length = loop.nodeSamples.length) (count : Nat)
    (within : count ≤ loop.nodeSamples.length) :
    let after := run step loop
      ((List.range count).map fun slot => .checkTransition slot (calls slot))
    after.nodeSamples = loop.nodeSamples ∧
      after.journalStatuses.length = loop.nodeSamples.length ∧
      ∀ slot < count,
        after.journalStatuses[slot]? = loop.nodeSamples[slot]?.map (·.pollStatus) := by
  induction count with
  | zero => exact ⟨rfl, sized, fun slot below => absurd below (Nat.not_lt_zero slot)⟩
  | succ count inductionHypothesis =>
      obtain ⟨samples, length, agree⟩ := inductionHypothesis (Nat.le_of_succ_le within)
      rw [List.range_succ, List.map_append, run_append]
      generalize run step loop ((List.range count).map fun slot =>
        .checkTransition slot (calls slot)) = earlier at samples length agree ⊢
      show (earlier.checkTransition count (calls count)).nodeSamples = _ ∧
        (earlier.checkTransition count (calls count)).journalStatuses.length = _ ∧
        ∀ slot < count + 1,
          (earlier.checkTransition count (calls count)).journalStatuses[slot]? = _
      rcases earlier.checkTransition_cases count (calls count) with ⟨same, settled⟩ |
        ⟨sample, previous, sampled, known, -, moved⟩
      · rw [same]
        refine ⟨samples, length, fun slot below => ?_⟩
        rcases Nat.lt_succ_iff_lt_or_eq.mp below with lower | rfl
        · exact agree slot lower
        · rw [settled (by rw [samples]; exact within) (by rw [length]; exact within), samples]
      · rw [moved]
        refine ⟨samples, by simpa using length, fun slot below => ?_⟩
        dsimp only
        rcases Nat.lt_succ_iff_lt_or_eq.mp below with lower | rfl
        · rw [List.getElem?_set_ne (Nat.ne_of_gt lower)]
          exact agree slot lower
        · rw [List.getElem?_set_self (List.getElem?_eq_some_iff.mp known).1, ← samples, sampled]
          rfl

theorem snapshots_same (loop : JournalLoop) (calls : Nat → SystemCalls) (snapshots : List Nat) :
    let after := run step loop (snapshots.map fun slot => .appendSnapshot slot (calls slot))
    after.nodeSamples = loop.nodeSamples ∧ after.journalStatuses = loop.journalStatuses := by
  induction snapshots generalizing loop with
  | nil => exact ⟨rfl, rfl⟩
  | cons slot rest inductionHypothesis =>
      have unchanged : (loop.appendSnapshot slot (calls slot)).nodeSamples = loop.nodeSamples ∧
          (loop.appendSnapshot slot (calls slot)).journalStatuses = loop.journalStatuses := by
        unfold JournalLoop.appendSnapshot
        split
        · exact ⟨rfl, rfl⟩
        · exact ⟨rfl, rfl⟩
      obtain ⟨samples, statuses⟩ := inductionHypothesis (loop.appendSnapshot slot (calls slot))
      exact ⟨samples.trans unchanged.1, statuses.trans unchanged.2⟩

/-- A pass leaves every slot remembered as sampled. -/
theorem pass_agrees (loop : JournalLoop) (pass : JournalPass) {slot : Nat}
    (inside : slot < pass.nodeSamples.length) :
    ∃ sample, (loop.pass pass).nodeSamples[slot]? = some sample ∧
      (loop.pass pass).journalStatuses[slot]? = some sample.pollStatus := by
  have sized : (loop.takeSamples pass.nodeSamples).journalStatuses.length =
      (loop.takeSamples pass.nodeSamples).nodeSamples.length := by
    unfold JournalLoop.takeSamples
    split
    · simp
    · next same => simpa using same
  obtain ⟨samples, -, agree⟩ := checked_slots (loop.takeSamples pass.nodeSamples)
    pass.transitionCalls sized pass.nodeSamples.length (Nat.le_refl _)
  have checked := agree slot inside
  have sampled : pass.nodeSamples[slot]? = some pass.nodeSamples[slot] :=
    List.getElem?_eq_getElem inside
  refine ⟨pass.nodeSamples[slot], ?_⟩
  generalize checksEq : run step (loop.takeSamples pass.nodeSamples)
    ((List.range pass.nodeSamples.length).map
      fun slot => .checkTransition slot (pass.transitionCalls slot)) = afterChecks
    at samples agree checked
  have whole : loop.pass pass = run step afterChecks
      (if pass.snapshotDue then
        (List.range pass.nodeSamples.length).map
          (fun slot => .appendSnapshot slot (pass.snapshotCalls slot))
      else []) := by
    rw [← checksEq, ← run_append]
    rfl
  have kept : (loop.pass pass).nodeSamples = afterChecks.nodeSamples ∧
      (loop.pass pass).journalStatuses = afterChecks.journalStatuses := by
    rw [whole]
    split
    · exact afterChecks.snapshots_same pass.snapshotCalls _
    · exact ⟨rfl, rfl⟩
  rw [kept.1, kept.2, samples, checked]
  exact ⟨sampled, congrArg (Option.map (·.pollStatus)) sampled⟩

theorem faithful_start (slots : Nat) (config : TelemetryJournalConfig)
    (current prior : Option Text) : (start config current prior).Faithful slots :=
  ⟨.inl rfl, fun _ => rfl, fun _ => trivial, fun _ _ => rfl⟩

/-- The stored transitions of a slot are an unbroken chain from the unknown status,
which ends at the sampled status if the last write for the slot succeeded. -/
def TransitionsUnbroken (loop : JournalLoop) (slot : Nat) : Prop :=
  Chained .unknown (transitionsOf (slot + 1) loop.store.files.history) ∧
    (lastWriteSucceeded (slot + 1) loop.store.files.history = some true →
      loop.nodeSamples[slot]?.map (·.pollStatus) =
        some (lastStatus .unknown (transitionsOf (slot + 1) loop.store.files.history)))

instance (loop : JournalLoop) (slot : Nat) : Decidable (loop.TransitionsUnbroken slot) :=
  inferInstanceAs (Decidable (_ ∧ (_ → _)))

/-- The polling service has one sample for each of its slots. While every transition
record that an enabled journal is asked for is stored, the chain of every slot is
unbroken. A record is stored when its whole line is written: behind a snapshot that
was torn off, this line is still not one that can be read. -/
theorem transitions_unbroken (config : TelemetryJournalConfig) (current prior : Option Text)
    (slots : Nat) (passes : List JournalPass)
    (sized : ∀ pass ∈ passes, pass.nodeSamples.length = slots)
    (recorded : Along JournalLoop.pass RecordsTransitions (start config current prior) passes) :
    ∀ slot < slots,
      (run JournalLoop.pass (start config current prior) passes).TransitionsUnbroken slot := by
  let Invariant (loop : JournalLoop) : Prop :=
    loop.Faithful slots ∧
      (loop.store.files.history = [] ∨
        ∀ slot < slots, ∃ sample, loop.nodeSamples[slot]? = some sample ∧
          loop.journalStatuses[slot]? = some sample.pollStatus)
  have reached : Invariant (run JournalLoop.pass (start config current prior) passes) := by
    refine run_invariant_of_along JournalLoop.pass Invariant ?_ ⟨?_, .inl rfl⟩ recorded
    · intro loop pass member before recorded
      refine ⟨before.1.pass (sized pass member) recorded, .inr fun slot inside => ?_⟩
      exact loop.pass_agrees pass (by rw [sized pass member]; exact inside)
    · exact faithful_start slots config current prior
  generalize run JournalLoop.pass (start config current prior) passes = after at reached
  obtain ⟨faithful, agrees⟩ := reached
  intro slot inside
  refine ⟨faithful.chained slot, fun succeeded => ?_⟩
  cases enabled : after.store.journal.enabled with
  | false =>
      rw [faithful.silent enabled] at succeeded
      exact absurd succeeded (by simp [lastWriteSucceeded])
  | true =>
      rcases agrees with empty | agree
      · rw [empty] at succeeded
        exact absurd succeeded (by simp [lastWriteSucceeded])
      · obtain ⟨sample, sampled, known⟩ := agree slot inside
        have remembered := faithful.remembered enabled slot
        rw [List.getD_eq_getElem?_getD, known] at remembered
        rw [sampled, ← remembered]
        rfl

/-- An online node that stops answering, with a snapshot that cannot be written. -/
theorem transitions_unbroken_after_failed_snapshot :
    (run JournalLoop.pass (start serviceJournal none none)
      [{ nodeSamples := [{ pollStatus := .online }], snapshotDue := true,
          snapshotCalls := fun _ => { opened := false } },
        { nodeSamples := [{ pollStatus := .transportFailure }] }]).TransitionsUnbroken 0 :=
  transitions_unbroken serviceJournal none none 1
    [{ nodeSamples := [{ pollStatus := .online }], snapshotDue := true,
        snapshotCalls := fun _ => { opened := false } },
      { nodeSamples := [{ pollStatus := .transportFailure }] }]
    (by decide) (by decide +kernel) 0 (by decide)

/-- The record of the change to online is lost, and the next one starts from online. -/
theorem lost_transition_breaks_chain :
    ¬∀ (config : TelemetryJournalConfig) (current prior : Option Text) (slots : Nat)
        (passes : List JournalPass), (∀ pass ∈ passes, pass.nodeSamples.length = slots) →
      ∀ slot < slots,
        (run JournalLoop.pass (start config current prior) passes).TransitionsUnbroken slot := by
  intro claimed
  have unbroken := claimed serviceJournal none none 1
    [{ nodeSamples := [{ pollStatus := .online }],
        transitionCalls := fun _ => { opened := false } },
      { nodeSamples := [{ pollStatus := .transportFailure }] }] (by decide) 0 (by decide)
  revert unbroken
  decide +kernel

end JournalLoop

end GridexEdge.RockPi
