import Mathlib.Data.List.Basic

/-!
Texts cut at a delimiter: into the lines of a stream, and at the last place of a mark.
-/

namespace GridexEdge.Foundation

universe u v

variable {Alpha : Type u} [DecidableEq Alpha]

/-! ### Lines -/

/-- The lines of a stream, of which some has been read. A last one without its delimiter counts
if it is not empty. -/
def getlines (delimiter : Alpha) : List Alpha → List Alpha → List (List Alpha)
  | read, [] => if read = [] then [] else [read]
  | read, element :: rest =>
      if element = delimiter then read :: getlines delimiter [] rest
      else getlines delimiter (read ++ [element]) rest

theorem notMem_getlines {delimiter : Alpha} {read text line : List Alpha}
    (clean : delimiter ∉ read) (member : line ∈ getlines delimiter read text) :
    delimiter ∉ line := by
  induction text generalizing read with
  | nil =>
      rw [getlines] at member
      split at member
      · cases member
      · cases List.mem_singleton.mp member
        exact clean
  | cons element rest inductionHypothesis =>
      rw [getlines] at member
      split at member
      · rcases List.mem_cons.mp member with rfl | later
        · exact clean
        · exact inductionHypothesis List.not_mem_nil later
      · next different =>
          refine inductionHypothesis ?_ member
          rw [List.mem_append, List.mem_singleton, not_or]
          exact ⟨clean, Ne.symm different⟩

/-- As far as empty lines do not count, the lines are the text cut at its delimiters. -/
theorem filterMap_getlines {Value : Type v} {keep : List Alpha → Option Value}
    (skips : keep [] = none) (delimiter : Alpha) {read : List Alpha} (clean : delimiter ∉ read)
    (text : List Alpha) :
    (getlines delimiter read text).filterMap keep =
      ((read ++ text).splitOn delimiter).filterMap keep := by
  have inner {line : List Alpha} (absent : delimiter ∉ line) :
      ∀ element ∈ line, (element == delimiter) = false := by
    intro element member
    rw [beq_eq_false_iff_ne]
    rintro rfl
    exact absent member
  induction text generalizing read with
  | nil =>
      rw [List.append_nil, List.splitOn_eq_splitOnP, List.splitOnP_eq_singleton (inner clean),
        getlines]
      split
      · next empty => simp [empty, skips]
      · rfl
  | cons element rest inductionHypothesis =>
      rw [getlines]
      split
      · next same =>
          subst same
          have later := @inductionHypothesis [] List.not_mem_nil
          rw [List.nil_append] at later
          rw [List.filterMap_cons, later, List.splitOn_eq_splitOnP, List.splitOn_eq_splitOnP,
            List.splitOnP_append_cons_of_forall_mem (inner clean) _ (beq_self_eq_true element),
            List.filterMap_cons]
      · next different =>
          have longer : delimiter ∉ read ++ [element] := by
            rw [List.mem_append, List.mem_singleton, not_or]
            exact ⟨clean, Ne.symm different⟩
          rw [inductionHypothesis longer, List.append_assoc, List.singleton_append]

/-! ### The last place of a mark -/

/-- What stands before and behind it. -/
def cutAtLast (mark : Alpha) : List Alpha → Option (List Alpha × List Alpha)
  | [] => none
  | element :: rest =>
      match cutAtLast mark rest with
      | some (before, after) => some (element :: before, after)
      | none => if element = mark then some ([], rest) else none

variable {mark : Alpha}

theorem cutAtLast_of_notMem {text : List Alpha} (absent : mark ∉ text) :
    cutAtLast mark text = none := by
  induction text with
  | nil => rfl
  | cons element rest inductionHypothesis =>
      rw [List.mem_cons, not_or] at absent
      rw [cutAtLast, inductionHypothesis absent.2]
      exact if_neg (Ne.symm absent.1)

theorem cutAtLast_append {after : List Alpha} (absent : mark ∉ after) (before : List Alpha) :
    cutAtLast mark (before ++ mark :: after) = some (before, after) := by
  induction before with
  | nil =>
      rw [List.nil_append, cutAtLast, cutAtLast_of_notMem absent]
      exact if_pos rfl
  | cons element rest inductionHypothesis =>
      rw [List.cons_append, cutAtLast, inductionHypothesis]

theorem eq_of_cutAtLast {text before after : List Alpha}
    (cut : cutAtLast mark text = some (before, after)) : text = before ++ mark :: after := by
  induction text generalizing before with
  | nil => cases cut
  | cons element rest inductionHypothesis =>
      rw [cutAtLast] at cut
      cases later : cutAtLast mark rest with
      | some found =>
          rw [later] at cut
          cases cut
          rw [List.cons_append, ← inductionHypothesis later]
      | none =>
          rw [later] at cut
          dsimp only at cut
          split at cut
          · next same =>
              cases cut
              rw [same, List.nil_append]
          · cases cut

end GridexEdge.Foundation
