import Mathlib.Data.List.Basic
import Mathlib.Data.List.Infix

/-!
Logs of terminated records, kept in two windows.

Records are stored at the end of the newer window. A rotation makes the newer
window the older one, and the older window may also be discarded alone.
Whatever the order of these moves, the log is a suffix of all it was given.
-/

namespace GridexEdge.Foundation

universe u

section Terminated

variable {Alpha : Type u}

/-- Every piece, each followed by the terminator. -/
def terminated (terminator : Alpha) (pieces : List (List Alpha)) : List Alpha :=
  pieces.flatMap (· ++ [terminator])

@[simp]
theorem terminated_nil (terminator : Alpha) : terminated terminator [] = [] := rfl

@[simp]
theorem terminated_cons (terminator : Alpha) (piece : List Alpha) (rest : List (List Alpha)) :
    terminated terminator (piece :: rest) =
      piece ++ terminator :: terminated terminator rest := by
  simp [terminated]

/-- Pieces without the terminator are found again, and nothing is left after
the last of them. -/
theorem splitOn_terminated [BEq Alpha] [LawfulBEq Alpha] {terminator : Alpha}
    {pieces : List (List Alpha)} (clean : ∀ piece ∈ pieces, terminator ∉ piece) :
    (terminated terminator pieces).splitOn terminator = pieces ++ [[]] := by
  induction pieces with
  | nil => simp
  | cons piece rest inductionHypothesis =>
      have inside : ∀ element ∈ piece, (element == terminator) = false := by
        intro element member
        rw [beq_eq_false_iff_ne]
        rintro rfl
        exact clean piece (by simp) member
      have remaining := inductionHypothesis fun other member => clean other (by simp [member])
      rw [List.splitOn_eq_splitOnP] at remaining ⊢
      rw [terminated_cons, List.splitOnP_append_cons_of_forall_mem inside _ (by simp), remaining]
      rfl

end Terminated

structure RotatingLog (Record : Type u) where
  older : List Record := []
  newer : List Record := []

namespace RotatingLog

variable {Record : Type u}

inductive Move (Record : Type u) where
  | store (record : Record)
  | rotate
  | discard

def records (log : RotatingLog Record) : List Record := log.older ++ log.newer

def move (log : RotatingLog Record) : Move Record → RotatingLog Record
  | .store record => { log with newer := log.newer ++ [record] }
  | .rotate => { older := log.newer, newer := [] }
  | .discard => { log with older := [] }

/-- The log after a newest-first list of moves. -/
def replay (base : RotatingLog Record) : List (Move Record) → RotatingLog Record
  | [] => base
  | latest :: earlier => (replay base earlier).move latest

/-- Moves one after the other, the oldest first. -/
theorem foldl_move (base : RotatingLog Record) (moves : List (Move Record)) :
    moves.foldl move base = replay base moves.reverse := by
  induction moves using List.reverseRecOn with
  | nil => rfl
  | append_singleton moves latest inductionHypothesis =>
      rw [List.foldl_append, inductionHypothesis, List.reverse_append, List.reverse_singleton,
        List.singleton_append]
      rfl

/-- Every record stored by the moves, in the order of storing. -/
def stored : List (Move Record) → List Record
  | [] => []
  | .store record :: earlier => stored earlier ++ [record]
  | .rotate :: earlier => stored earlier
  | .discard :: earlier => stored earlier

/-- The records stored since the last rotation. -/
def storedSinceRotation : List (Move Record) → List Record
  | [] => []
  | .store record :: earlier => storedSinceRotation earlier ++ [record]
  | .rotate :: _ => []
  | .discard :: earlier => storedSinceRotation earlier

theorem newer_suffix_records (log : RotatingLog Record) : log.newer <:+ log.records :=
  List.suffix_append _ _

/-- The windows together are the latest part of everything ever stored. -/
theorem records_replay_suffix (base : RotatingLog Record) (moves : List (Move Record)) :
    (replay base moves).records <:+ base.records ++ stored moves := by
  induction moves with
  | nil => simp [replay, stored]
  | cons latest earlier inductionHypothesis =>
      cases latest with
      | store record =>
          have extended : (replay base earlier).records ++ [record] <:+
              base.records ++ stored earlier ++ [record] :=
            List.suffix_append_self_iff.mpr inductionHypothesis
          simpa only [replay, move, stored, records, List.append_assoc] using extended
      | rotate =>
          refine List.IsSuffix.trans ?_ inductionHypothesis
          rw [replay, move, records, List.append_nil]
          exact newer_suffix_records (replay base earlier)
      | discard =>
          refine List.IsSuffix.trans ?_ inductionHypothesis
          rw [replay, move, records, List.nil_append]
          exact newer_suffix_records (replay base earlier)

/-- Nothing stored since the last rotation has left the newer window. -/
theorem storedSinceRotation_suffix (base : RotatingLog Record) (moves : List (Move Record)) :
    storedSinceRotation moves <:+ (replay base moves).newer := by
  induction moves with
  | nil => exact List.nil_suffix
  | cons latest earlier inductionHypothesis =>
      cases latest with
      | store record => exact List.suffix_append_self_iff.mpr inductionHypothesis
      | rotate => exact List.nil_suffix
      | discard => exact inductionHypothesis

end RotatingLog

end GridexEdge.Foundation
