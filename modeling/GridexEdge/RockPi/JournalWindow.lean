import GridexEdge.RockPi.TelemetryJournal

/-!
The window of lines the journal keeps.

Whatever fails, neither file outgrows its bound. While every write stores a
whole line or nothing, the two files are the windows of a rotating log of lines,
so together they hold the latest part of all that was stored.
-/

namespace GridexEdge.RockPi

open Foundation

/-! ### What one append does to the files -/

namespace TelemetryJournal

variable (calls : SystemCalls) (journal : TelemetryJournal) (files : JournalFiles)

theorem rotateIfNeeded_cases (incomingBytes : Nat) :
    (journal.rotateIfNeeded calls files incomingBytes).2 = files ∧
        ((journal.rotateIfNeeded calls files incomingBytes).1 = true →
          files.current = none ∨
            (files.current.getD []).length + incomingBytes ≤ journal.config.maxBytes) ∨
      journal.rotateIfNeeded calls files incomingBytes =
        (files.removePrior calls).renameToPrior calls := by
  unfold rotateIfNeeded
  split
  · exact .inl ⟨rfl, by simp⟩
  · split
    · exact .inl ⟨rfl, by simp⟩
    · cases present : files.current with
      | none => exact .inl ⟨rfl, fun _ => .inl rfl⟩
      | some text =>
          dsimp only
          split
          · next fits => exact .inl ⟨rfl, fun _ => .inr fits⟩
          · exact .inr rfl

/-- What a discard and a rename keep, the rotation keeps. -/
theorem rotateIfNeeded_invariant (Invariant : JournalFiles → Prop)
    (removed : ∀ files : JournalFiles, Invariant files → Invariant (files.removePrior calls))
    (renamed : ∀ files : JournalFiles, Invariant files →
      Invariant (files.renameToPrior calls).2)
    (incomingBytes : Nat) (before : Invariant files) :
    Invariant (journal.rotateIfNeeded calls files incomingBytes).2 := by
  rcases rotateIfNeeded_cases calls journal files incomingBytes with ⟨same, -⟩ | moved
  · rw [same]
    exact before
  · rw [moved]
    exact renamed _ (removed _ before)

end TelemetryJournal

namespace JournalStore

variable (store : JournalStore) (call : JournalCall)

/-- The files a call finds when it comes to open the journal. -/
def rotated : JournalFiles :=
  (store.journal.rotateIfNeeded call.systemCalls store.files
    (call.entry store.journal).line.length).2

theorem step_cases :
    store.journal.enabled = false ∧ store.perform call = (true, store) ∨
      store.journal.enabled = true ∧ store.reachesWrite call = false ∧
        store.perform call = (false,
          { store with
            files := (store.rotated call).note
              (.appended (call.entry store.journal) false false) }) ∨
      store.journal.enabled = true ∧ store.reachesWrite call = true ∧
        store.perform call = (store.stores call && call.systemCalls.synced,
          { journal :=
              if store.stores call && call.systemCalls.synced then
                { store.journal with sequence := store.journal.sequence + 1 }
              else store.journal
            files := ((store.rotated call).appendText ((call.entry store.journal).line.take
                (call.systemCalls.written (call.entry store.journal).line))).note
              (.appended (call.entry store.journal) (store.stores call)
                (store.stores call && call.systemCalls.synced)) }) := by
  unfold perform TelemetryJournal.append
  cases enabled : store.journal.enabled with
  | false => exact .inl ⟨rfl, by simp⟩
  | true =>
      refine .inr ?_
      cases reached : store.reachesWrite call with
      | false =>
          refine .inl ⟨rfl, rfl, ?_⟩
          have refused : (!(store.journal.rotateIfNeeded call.systemCalls store.files
              (call.entry store.journal).line.length).1 || !call.systemCalls.opened) = true := by
            rw [reachesWrite, enabled, Bool.true_and] at reached
            rw [← Bool.not_and, reached, Bool.not_false]
          simp only [Bool.not_true, Bool.false_eq_true, if_false, if_pos refused, rotated]
      | true =>
          refine .inr ⟨rfl, rfl, ?_⟩
          have accepted : (!(store.journal.rotateIfNeeded call.systemCalls store.files
              (call.entry store.journal).line.length).1 || !call.systemCalls.opened) = false := by
            rw [reachesWrite, enabled, Bool.true_and] at reached
            rw [← Bool.not_and, reached, Bool.not_true]
          simp only [Bool.not_true, Bool.false_eq_true, if_false, accepted, rotated, stores,
            reached, Bool.true_and]

/-- The configured bound never changes. -/
@[simp]
theorem step_config : (store.step call).journal.config = store.journal.config := by
  rcases store.step_cases call with ⟨-, same⟩ | ⟨-, -, same⟩ | ⟨-, -, same⟩
  · rw [step, same]
  · rw [step, same]
  · rw [step, same]
    dsimp only
    split <;> rfl

end JournalStore

/-! ### The bound -/

namespace JournalFiles

structure Bounded (maxBytes : Nat) (files : JournalFiles) : Prop where
  current : (files.current.getD []).length ≤ maxBytes
  prior : (files.prior.getD []).length ≤ maxBytes

variable {maxBytes : Nat} {files : JournalFiles} (calls : SystemCalls)

theorem Bounded.removePrior (bounded : files.Bounded maxBytes) :
    (files.removePrior calls).Bounded maxBytes := by
  unfold JournalFiles.removePrior
  split
  · exact ⟨bounded.current, Nat.zero_le _⟩
  · exact bounded

theorem Bounded.renameToPrior (bounded : files.Bounded maxBytes) :
    (files.renameToPrior calls).2.Bounded maxBytes := by
  unfold JournalFiles.renameToPrior
  split
  · exact ⟨Nat.zero_le _, bounded.current⟩
  · exact bounded

end JournalFiles

/-- A rotation that succeeds leaves room for the line. -/
theorem TelemetryJournal.rotateIfNeeded_room {calls : SystemCalls} {journal : TelemetryJournal}
    {files : JournalFiles} {incomingBytes : Nat} (fits : incomingBytes ≤ journal.config.maxBytes)
    (ready : (journal.rotateIfNeeded calls files incomingBytes).1 = true) :
    (((journal.rotateIfNeeded calls files incomingBytes).2.current).getD []).length +
      incomingBytes ≤ journal.config.maxBytes := by
  rcases rotateIfNeeded_cases calls journal files incomingBytes with ⟨same, room⟩ | moved
  · rw [same]
    rcases room ready with missing | enough
    · rw [missing]
      simpa using fits
    · exact enough
  · rw [moved] at ready ⊢
    unfold JournalFiles.renameToPrior at ready ⊢
    split
    · simpa [JournalFiles.note] using fits
    · next failed =>
        rw [if_neg failed] at ready
        exact absurd ready Bool.false_ne_true

namespace JournalStore

/-- The line a call appends is no longer than the bound. -/
def LineFits (store : JournalStore) (call : JournalCall) : Prop :=
  (call.entry store.journal).line.length ≤ store.journal.config.maxBytes

instance (store : JournalStore) (call : JournalCall) : Decidable (store.LineFits call) :=
  inferInstanceAs (Decidable (_ ≤ _))

theorem bounded_rotated {store : JournalStore} (call : JournalCall)
    (bounded : store.files.Bounded store.journal.config.maxBytes) :
    (store.rotated call).Bounded store.journal.config.maxBytes := by
  apply TelemetryJournal.rotateIfNeeded_invariant _ _ _ _ _ _ _ bounded
  · exact fun _ before => before.removePrior call.systemCalls
  · exact fun _ before => before.renameToPrior call.systemCalls

theorem bounded_step {store : JournalStore} {call : JournalCall} (fits : store.LineFits call)
    (bounded : store.files.Bounded store.journal.config.maxBytes) :
    (store.step call).files.Bounded store.journal.config.maxBytes := by
  have rotated := bounded_rotated call bounded
  rcases store.step_cases call with ⟨-, same⟩ | ⟨-, -, same⟩ | ⟨-, reached, same⟩
  · rw [step, same]
    exact bounded
  · rw [step, same]
    exact ⟨rotated.current, rotated.prior⟩
  · rw [step, same]
    refine ⟨?_, rotated.prior⟩
    rw [reachesWrite, Bool.and_eq_true, Bool.and_eq_true] at reached
    have room : ((store.rotated call).current.getD []).length +
        (call.entry store.journal).line.length ≤ store.journal.config.maxBytes :=
      TelemetryJournal.rotateIfNeeded_room fits reached.1.2
    have short := List.length_take_le'
      (call.systemCalls.written (call.entry store.journal).line) (call.entry store.journal).line
    simp only [JournalFiles.note, JournalFiles.appendText, Option.getD_some, List.length_append]
    omega

end JournalStore

/-! ### The windows -/

/-- The move of the rotating log of lines behind an occurrence. -/
def JournalOccurrence.move : JournalOccurrence → Option (RotatingLog.Move Text)
  | .discarded => some .discard
  | .rotated => some .rotate
  | .appended entry true _ => some (.store entry.line)
  | .appended _ false _ => none

namespace JournalFiles

def moves (files : JournalFiles) : List (RotatingLog.Move Text) :=
  files.history.filterMap JournalOccurrence.move

/-- The two files hold the two windows of a log, line after line. -/
def Holds (files : JournalFiles) (log : RotatingLog Text) : Prop :=
  files.prior.getD [] = log.older.flatten ∧ files.current.getD [] = log.newer.flatten

/-- The files hold what the moves have made of a first log. -/
def Follows (base : RotatingLog Text) (files : JournalFiles) : Prop :=
  files.Holds (base.replay files.moves)

variable {base : RotatingLog Text} {files : JournalFiles} (calls : SystemCalls)

theorem Follows.removePrior (follows : files.Follows base) :
    (files.removePrior calls).Follows base := by
  unfold JournalFiles.removePrior
  split
  · exact ⟨rfl, follows.2⟩
  · exact follows

theorem Follows.renameToPrior (follows : files.Follows base) :
    (files.renameToPrior calls).2.Follows base := by
  unfold JournalFiles.renameToPrior
  split
  · exact ⟨follows.2, rfl⟩
  · exact follows

theorem Follows.noteFailed (follows : files.Follows base) (entry : JournalEntry)
    (succeeded : Bool) : (files.note (.appended entry false succeeded)).Follows base := follows

theorem Follows.appendLine (follows : files.Follows base) (entry : JournalEntry)
    (succeeded : Bool) :
    ((files.appendText entry.line).note (.appended entry true succeeded)).Follows base := by
  refine ⟨follows.1, ?_⟩
  have extended : files.current.getD [] ++ entry.line =
      ((base.replay files.moves).newer ++ [entry.line]).flatten := by
    rw [follows.2, List.flatten_append, List.flatten_singleton]
  exact extended

end JournalFiles

namespace JournalStore

variable {base : RotatingLog Text} {store : JournalStore}

theorem follows_rotated (call : JournalCall) (follows : store.files.Follows base) :
    (store.rotated call).Follows base := by
  apply TelemetryJournal.rotateIfNeeded_invariant _ _ _ _ _ _ _ follows
  · exact fun _ before => before.removePrior call.systemCalls
  · exact fun _ before => before.renameToPrior call.systemCalls

/-- A write that stores nothing changes no byte, one that stores the whole line
is a move of the log. -/
theorem follows_step {call : JournalCall} (whole : store.WholeOrNothing call)
    (follows : store.files.Follows base) : (store.step call).files.Follows base := by
  have rotated := follows_rotated call follows
  rcases store.step_cases call with ⟨-, same⟩ | ⟨-, -, same⟩ | ⟨-, reached, same⟩
  · rw [step, same]
    exact follows
  · rw [step, same]
    exact rotated.noteFailed _ _
  · rw [step, same]
    cases stored : store.stores call with
    | true =>
        have count : call.systemCalls.written (call.entry store.journal).line =
            (call.entry store.journal).line.length := by
          simpa [stores, reached] using stored
        rw [count, List.take_length]
        exact rotated.appendLine _ _
    | false =>
        have nothing : call.systemCalls.written (call.entry store.journal).line = 0 := by
          rcases whole reached with zero | stored_
          · exact zero
          · rw [stored] at stored_
            exact absurd stored_ Bool.false_ne_true
        rw [nothing, List.take_zero]
        have unchanged : ((store.rotated call).appendText []).Follows base := by
          refine ⟨rotated.1, ?_⟩
          rw [JournalFiles.appendText, List.append_nil, Option.getD_some]
          exact rotated.2
        exact unchanged.noteFailed _ _

end JournalStore

/-! ### What is stored -/

/-- Every record whose whole line was stored, in the order of storing. -/
def storedEntries : List JournalOccurrence → List JournalEntry
  | [] => []
  | .appended entry true _ :: earlier => storedEntries earlier ++ [entry]
  | .appended _ false _ :: earlier => storedEntries earlier
  | .discarded :: earlier => storedEntries earlier
  | .rotated :: earlier => storedEntries earlier

theorem stored_filterMap_move (history : List JournalOccurrence) :
    RotatingLog.stored (history.filterMap JournalOccurrence.move) =
      (storedEntries history).map JournalEntry.line := by
  induction history with
  | nil => rfl
  | cons occurrence earlier inductionHypothesis =>
      cases occurrence with
      | discarded => exact inductionHypothesis
      | rotated => exact inductionHypothesis
      | appended entry stored succeeded =>
          cases stored with
          | false => exact inductionHypothesis
          | true =>
              rw [storedEntries, List.map_append, ← inductionHypothesis]
              rfl

namespace JournalStore

variable (store : JournalStore) (call : JournalCall)

theorem storedEntries_rotated :
    storedEntries (store.rotated call).history = storedEntries store.files.history := by
  apply TelemetryJournal.rotateIfNeeded_invariant _ _ _
    (fun files => storedEntries files.history = storedEntries store.files.history) _ _ _ rfl
  · intro files before
    unfold JournalFiles.removePrior
    split
    · exact before
    · exact before
  · intro files before
    unfold JournalFiles.renameToPrior
    split
    · exact before
    · exact before

/-- The record of a call whose system calls store its line. -/
def storedRecord : List JournalEntry :=
  if store.stores call then [call.entry store.journal] else []

/-- A call notes its record as stored exactly if it stores the line, and reports a success
exactly if the line is synced as well or the journal is off. -/
theorem perform_notes :
    (store.perform call).1 =
        (!store.journal.enabled || (store.stores call && call.systemCalls.synced)) ∧
      storedEntries (store.step call).files.history =
        storedEntries store.files.history ++ store.storedRecord call := by
  have entries := store.storedEntries_rotated call
  unfold storedRecord
  rcases store.step_cases call with ⟨closed, same⟩ | ⟨enabled, missed, same⟩ | ⟨enabled, -, same⟩
  · have idle : store.stores call = false := by
      simp [stores, reachesWrite, closed]
    rw [step, same, idle, closed]
    simp
  · have idle : store.stores call = false := by
      simp [stores, missed]
    rw [step, same, idle, enabled]
    simpa [JournalFiles.note, storedEntries] using entries
  · rw [step, same, enabled]
    refine ⟨(Bool.false_or _).symm, ?_⟩
    cases store.stores call with
    | false => simpa [JournalFiles.note, JournalFiles.appendText, storedEntries] using entries
    | true => simpa [JournalFiles.note, JournalFiles.appendText, storedEntries] using entries

variable {store}

theorem storedEntries_run (appends : List JournalCall) :
    storedEntries (run step store appends).files.history =
      storedEntries store.files.history ++ outputs step storedRecord store appends := by
  induction appends generalizing store with
  | nil => exact (List.append_nil _).symm
  | cons call rest inductionHypothesis =>
      rw [run_cons, inductionHypothesis, (store.perform_notes call).2, outputs,
        List.append_assoc]

end JournalStore

/-! ### Whole runs -/

namespace JournalStore

theorem start_maxBytes (config : TelemetryJournalConfig) (current prior : Option Text) :
    (start config current prior).journal.config.maxBytes = config.maxBytes := by
  unfold start TelemetryJournal.construct
  dsimp only
  split <;> rfl

theorem bounded_run {store : JournalStore} {appends : List JournalCall}
    (fits : Along step LineFits store appends)
    (bounded : store.files.Bounded store.journal.config.maxBytes) :
    (run step store appends).files.Bounded store.journal.config.maxBytes := by
  let Invariant (later : JournalStore) : Prop :=
    later.files.Bounded later.journal.config.maxBytes ∧
      later.journal.config = store.journal.config
  have kept : Invariant (run step store appends) := by
    refine run_invariant_of_along step Invariant ?_ ⟨bounded, rfl⟩ fits
    rintro later call - ⟨before, same⟩ fits
    refine ⟨?_, by rw [step_config, same]⟩
    rw [step_config]
    exact bounded_step fits before
  have result := kept.1
  rwa [kept.2] at result

theorem follows_run {base : RotatingLog Text} {store : JournalStore} {appends : List JournalCall}
    (whole : Along step WholeOrNothing store appends) (follows : store.files.Follows base) :
    (run step store appends).files.Follows base :=
  run_invariant_of_along step (fun later => later.files.Follows base)
    (fun _ _ _ before whole => follows_step whole before) follows whole

/-- Whatever fails, both files stay within the bound; and while writes store whole
lines or nothing, the lines of the prior file and then of the current one are
the latest of all lines ever stored, with every line since the last rotation. The lines
stored are those of the calls whose system calls store them. -/
theorem journal_window (config : TelemetryJournalConfig) (current prior : Option Text)
    (appends : List JournalCall)
    (currentFits : (current.getD []).length ≤ config.maxBytes)
    (priorFits : (prior.getD []).length ≤ config.maxBytes)
    (linesFit : Along step LineFits (start config current prior) appends) :
    (run step (start config current prior) appends).files.Bounded config.maxBytes ∧
      (∀ base : RotatingLog Text,
        (start config current prior).files.Holds base →
        Along step WholeOrNothing (start config current prior) appends →
        ∃ log : RotatingLog Text,
          (run step (start config current prior) appends).files.Holds log ∧
            log.records <:+ base.records ++
              RotatingLog.stored (run step (start config current prior) appends).files.moves ∧
            RotatingLog.storedSinceRotation
              (run step (start config current prior) appends).files.moves <:+ log.newer) ∧
      RotatingLog.stored (run step (start config current prior) appends).files.moves =
        (outputs step storedRecord (start config current prior) appends).map
          JournalEntry.line := by
  refine ⟨?_, fun base holds whole => ?_, ?_⟩
  · have bounded := bounded_run linesFit (by
      rw [start_maxBytes]
      exact ⟨currentFits, priorFits⟩)
    rwa [start_maxBytes] at bounded
  · exact ⟨_, follows_run whole holds, RotatingLog.records_replay_suffix _ _,
      RotatingLog.storedSinceRotation_suffix _ _⟩
  · have recorded := @storedEntries_run (start config current prior) appends
    rw [JournalFiles.moves, stored_filterMap_move, recorded]
    rfl

/-- A failing open and a write that stores nothing, then a snapshot. -/
theorem journal_window_after_failures :
    let appends : List JournalCall :=
      [.appendSnapshot 1 {} { opened := false }, .appendSnapshot 1 {} { shortWrite := some 0 },
        .appendSnapshot 1 {} {}]
    let reached := run step (start serviceJournal (some ['x']) none) appends
    reached.files.Bounded serviceJournal.maxBytes ∧
      (∃ log : RotatingLog Text, reached.files.Holds log ∧
        log.records <:+ [['x']] ++ RotatingLog.stored reached.files.moves ∧
        RotatingLog.storedSinceRotation reached.files.moves <:+ log.newer) ∧
      (RotatingLog.stored reached.files.moves).length = 1 := by
  intro appends reached
  have window := journal_window serviceJournal (some ['x']) none appends
    (by decide) (by decide) (by decide +kernel)
  refine ⟨window.1, window.2.1 { newer := [['x']] } ⟨rfl, rfl⟩ (by decide +kernel), ?_⟩
  rw [window.2.2, List.length_map]
  decide +kernel

end JournalStore

end GridexEdge.RockPi
