import GridexEdge.RockPi.JournalWindow

/-!
The records a reader finds in the two files.

Every append derives its sequence number from a counter that moves only after a
successful sync, and its bytes stay where a failed write left them. So a torn
write spoils the line after it, and a line whose sync failed is followed by one
with its number. Without these two failures the files are complete records in
increasing order.
-/

namespace GridexEdge.RockPi

open Foundation

/-- Splitting at the newlines gives records and nothing after the last of them,
and their sequence numbers increase in file order. -/
def JournalFiles.Intact (files : JournalFiles) : Prop :=
  ∃ entries : List JournalEntry,
    files.contents.splitOn '\n' = entries.map JournalEntry.text ++ [[]] ∧
      entries.Pairwise fun earlier later => earlier.sequence < later.sequence

/-! ### The stored records -/

/-- A line reached the file and its append was reported as failed. -/
def JournalOccurrence.unsynced : JournalOccurrence → Bool
  | .appended _ stored succeeded => stored && !succeeded
  | .discarded => false
  | .rotated => false

theorem flatten_lines (entries : List JournalEntry) :
    (entries.map JournalEntry.line).flatten =
      terminated '\n' (entries.map JournalEntry.text) := by
  induction entries with
  | nil => rfl
  | cons entry rest inductionHypothesis =>
      rw [List.map_cons, List.flatten_cons, inductionHypothesis, List.map_cons, terminated_cons,
        JournalEntry.line, List.append_assoc, List.singleton_append]

/-- Files that hold a part of the lines stored in increasing order are intact. -/
theorem JournalFiles.intact_of_holds {files : JournalFiles} {log : RotatingLog Text}
    (holds : files.Holds log) (suffix : log.records <:+ RotatingLog.stored files.moves)
    (ascending : (storedEntries files.history).Pairwise
      fun earlier later => earlier.sequence < later.sequence) : files.Intact := by
  rw [moves, stored_filterMap_move, List.suffix_map_iff] at suffix
  obtain ⟨entries, kept, lines⟩ := suffix
  refine ⟨entries, ?_, ascending.sublist kept.sublist⟩
  have found : files.contents = terminated '\n' (entries.map JournalEntry.text) := by
    rw [contents, holds.1, holds.2, ← List.flatten_append, ← flatten_lines]
    exact congrArg List.flatten lines
  rw [found]
  apply splitOn_terminated
  intro text member
  obtain ⟨entry, -, rfl⟩ := List.mem_map.mp member
  exact entry.newline_notMem_text

/-! ### The order of the numbers -/

namespace JournalStore

/-- Stored numbers increase, and none is ahead of the counter unless a sync has
failed. -/
structure Ordered (store : JournalStore) : Prop where
  ascending : (storedEntries store.files.history).Pairwise
    fun earlier later => earlier.sequence < later.sequence
  behind : store.files.history.any JournalOccurrence.unsynced = false →
    ∀ entry ∈ storedEntries store.files.history, entry.sequence ≤ store.journal.sequence

/-- The write stores all or nothing; and it stores nothing once a stored line has
failed to sync or the counter is exhausted. -/
def Kept (store : JournalStore) (call : JournalCall) : Prop :=
  store.WholeOrNothing call ∧
    (store.stores call = true →
      store.files.history.any JournalOccurrence.unsynced = false ∧
        store.journal.sequence < 0xFFFFFFFFFFFFFFFF)

instance (store : JournalStore) (call : JournalCall) : Decidable (store.Kept call) :=
  inferInstanceAs (Decidable (_ ∧ _))

variable {store : JournalStore} {call : JournalCall}

/-- A rotation stores nothing and syncs nothing. -/
theorem rotated_history (store : JournalStore) (call : JournalCall) :
    storedEntries (store.rotated call).history = storedEntries store.files.history ∧
      (store.rotated call).history.any JournalOccurrence.unsynced =
        store.files.history.any JournalOccurrence.unsynced := by
  refine ⟨store.storedEntries_rotated call, ?_⟩
  apply TelemetryJournal.rotateIfNeeded_invariant _ _ _
    (fun files => files.history.any JournalOccurrence.unsynced =
      store.files.history.any JournalOccurrence.unsynced) _ _ _ rfl
  · intro files before
    unfold JournalFiles.removePrior
    split
    · exact before
    · exact before
  · intro files before
    unfold JournalFiles.renameToPrior
    split
    · exact before
    · exact before

theorem lt_add_one {sequence : UInt64} (room : sequence < 0xFFFFFFFFFFFFFFFF) :
    sequence < sequence + 1 := by
  rw [UInt64.lt_iff_toNat_lt] at room ⊢
  rw [UInt64.toNat_add]
  simp only [UInt64.reduceToNat] at room ⊢
  omega

theorem Ordered.of_same {later : JournalStore} (ordered : store.Ordered)
    (entries : storedEntries later.files.history = storedEntries store.files.history)
    (failures : later.files.history.any JournalOccurrence.unsynced =
      store.files.history.any JournalOccurrence.unsynced)
    (counter : later.journal.sequence = store.journal.sequence) : later.Ordered := by
  refine ⟨?_, fun synced => ?_⟩
  · rw [entries]
    exact ordered.ascending
  · rw [entries, counter]
    exact ordered.behind (failures.symm.trans synced)

theorem ordered_step (kept : store.Kept call) (ordered : store.Ordered) :
    (store.step call).Ordered := by
  obtain ⟨entries, failures⟩ := store.rotated_history call
  rcases store.step_cases call with ⟨-, same⟩ | ⟨-, -, same⟩ | ⟨-, -, same⟩
  · rw [step, same]
    exact ordered
  · rw [step, same]
    exact ordered.of_same entries failures rfl
  · rw [step, same]
    cases stored : store.stores call with
    | false => exact ordered.of_same entries failures rfl
    | true =>
        obtain ⟨allSynced, room⟩ := kept.2 stored
        have below := ordered.behind allSynced
        have above := lt_add_one room
        refine ⟨?_, fun synced => ?_⟩
        · show (storedEntries (store.rotated call).history ++
            [call.entry store.journal]).Pairwise _
          rw [entries, List.pairwise_append]
          refine ⟨ordered.ascending, List.pairwise_singleton _ _, ?_⟩
          intro earlier member latest isLatest
          rw [List.mem_singleton.mp isLatest, JournalCall.entry_sequence]
          exact UInt64.lt_of_le_of_lt (below earlier member) above
        · show ∀ entry ∈ storedEntries (store.rotated call).history ++
            [call.entry store.journal], _
          have success : call.systemCalls.synced = true := by
            simpa [JournalFiles.note, JournalOccurrence.unsynced] using
              (List.any_eq_false.mp synced) _ (List.mem_cons_self)
          rw [entries]
          intro entry member
          rw [success, Bool.and_self, if_pos rfl]
          rcases List.mem_append.mp member with old | latest
          · exact UInt64.le_of_lt (UInt64.lt_of_le_of_lt (below entry old) above)
          · rw [List.mem_singleton.mp latest, JournalCall.entry_sequence]
            exact UInt64.le_refl _

theorem ordered_start (config : TelemetryJournalConfig) (current prior : Option Text) :
    (start config current prior).Ordered :=
  ⟨List.Pairwise.nil, fun _ _ member => absurd member List.not_mem_nil⟩

/-- From an empty journal, along every run whose steps are all kept, the two files
are complete records in increasing order. -/
theorem journal_intact (config : TelemetryJournalConfig) (current prior : Option Text)
    (appends : List JournalCall) (currentEmpty : current.getD [] = [])
    (priorEmpty : prior.getD [] = [])
    (kept : Along step Kept (start config current prior) appends) :
    (run step (start config current prior) appends).files.Intact := by
  let Invariant (later : JournalStore) : Prop := later.files.Follows {} ∧ later.Ordered
  have reached : Invariant (run step (start config current prior) appends) := by
    refine run_invariant_of_along step Invariant ?_ ⟨⟨priorEmpty, currentEmpty⟩, ?_⟩ kept
    · rintro later call - ⟨follows, ordered⟩ kept
      exact ⟨follows_step kept.1 follows, ordered_step kept ordered⟩
    · exact ordered_start config current prior
  apply JournalFiles.intact_of_holds reached.1 _ reached.2.ascending
  have suffix := RotatingLog.records_replay_suffix {}
    (run step (start config current prior) appends).files.moves
  rwa [show ({} : RotatingLog Text).records = [] from rfl, List.nil_append] at suffix

/-- A snapshot that cannot be stored between two that are. -/
theorem journal_intact_after_full_disk :
    (run step (start serviceJournal none none)
      [.appendSnapshot 1 {} {}, .appendSnapshot 1 {} { shortWrite := some 0 },
        .appendTransition 1 { pollStatus := .online } .unknown {}]).files.Intact :=
  journal_intact _ none none _ rfl rfl (by decide +kernel)

/-- One byte of a snapshot is stored, then the next snapshot whole: the file is one
line that opens with two braces. -/
theorem torn_write_breaks_journal :
    ¬∀ (config : TelemetryJournalConfig) (current prior : Option Text)
        (appends : List JournalCall), current.getD [] = [] → prior.getD [] = [] →
      (run step (start config current prior) appends).files.Intact := by
  intro claimed
  obtain ⟨entries, lines, -⟩ := claimed serviceJournal none none
    [.appendSnapshot 1 {} { shortWrite := some 1 }, .appendSnapshot 1 {} {}] rfl rfl
  have glued : (run step (start serviceJournal none none)
      [.appendSnapshot 1 {} { shortWrite := some 1 }, .appendSnapshot 1 {} {}]).files.contents =
      terminated '\n' ['\x7b' :: JournalEntry.text
        { sequence := 1, kind := .snapshot, slot := 1, sample := {}, previousStatus := .unknown }]
      := by
    decide +kernel
  rw [glued, splitOn_terminated] at lines
  · cases entries with
    | nil => exact absurd (congrArg List.length lines) (by simp)
    | cons entry rest =>
        obtain ⟨rest, opening⟩ := entry.text_opening
        obtain ⟨snapshotRest, snapshotOpening⟩ := JournalEntry.text_opening
          { sequence := 1, kind := .snapshot, slot := 1, sample := {}, previousStatus := .unknown }
        rw [List.map_cons, opening, snapshotOpening] at lines
        simp at lines
  · intro piece member
    rw [List.mem_singleton.mp member]
    simp [JournalEntry.newline_notMem_text]

end JournalStore

end GridexEdge.RockPi
