import Mathlib.Data.List.DropRight

/-!
The segments of a list between the elements that end one.

`endedSegments` are the segments with an end, and `openSegment` is what follows the last end.
-/

namespace GridexEdge.Foundation

universe u

variable {Alpha : Type u} (ends : Alpha → Bool)

def endedSegments (values : List Alpha) : List (List Alpha) := (values.splitOnP ends).dropLast

def openSegment (values : List Alpha) : List Alpha := values.rtakeWhile fun value => !ends value

variable {ends}

theorem openSegment_append_end {value : Alpha} (isEnd : ends value = true) (values : List Alpha) :
    openSegment ends (values ++ [value]) = [] := by
  rw [openSegment, List.rtakeWhile_concat, isEnd]
  rfl

theorem openSegment_append_inner {value : Alpha} (inner : ends value = false)
    (values : List Alpha) :
    openSegment ends (values ++ [value]) = openSegment ends values ++ [value] := by
  rw [openSegment, List.rtakeWhile_concat, inner]
  rfl

theorem openSegment_inner {values : List Alpha} {value : Alpha}
    (member : value ∈ openSegment ends values) : ends value = false := by
  simpa using List.mem_rtakeWhile_imp member

theorem endedSegments_of_inner {values : List Alpha}
    (inner : ∀ value ∈ values, ends value = false) : endedSegments ends values = [] := by
  rw [endedSegments, List.splitOnP_eq_singleton inner]
  rfl

theorem endedSegments_append_cons {values : List Alpha} {value : Alpha} (isEnd : ends value = true)
    (front : List Alpha) (inner : ∀ value ∈ values, ends value = false) :
    endedSegments ends (front ++ value :: values) = front.splitOnP ends := by
  rw [endedSegments, List.splitOnP_append_cons front values isEnd,
    List.splitOnP_eq_singleton inner, List.dropLast_concat]

/-- Either nothing ends a segment, or a last end does. -/
theorem cut_at_last_end (values : List Alpha) :
    openSegment ends values = values ∨
      ∃ front value, ends value = true ∧ values = front ++ value :: openSegment ends values := by
  induction values using List.reverseRecOn with
  | nil => exact .inl rfl
  | append_singleton values last inductionHypothesis =>
      cases isEnd : ends last with
      | true => exact .inr ⟨values, last, isEnd, by rw [openSegment_append_end isEnd]⟩
      | false =>
          rw [openSegment_append_inner isEnd]
          rcases inductionHypothesis with whole | ⟨front, value, stops, cut⟩
          · exact .inl (congrArg (· ++ [last]) whole)
          · refine .inr ⟨front, value, stops, ?_⟩
            rw [← List.cons_append, ← List.append_assoc, ← cut]

theorem splitOnP_eq (values : List Alpha) :
    values.splitOnP ends = endedSegments ends values ++ [openSegment ends values] := by
  have inner : ∀ value ∈ openSegment ends values, ends value = false :=
    fun value => openSegment_inner
  rcases @cut_at_last_end _ ends values with whole | ⟨front, value, isEnd, cut⟩
  · rw [whole] at inner
    rw [endedSegments_of_inner inner, whole, List.splitOnP_eq_singleton inner, List.nil_append]
  · have before : endedSegments ends values = front.splitOnP ends := by
      rw [cut, endedSegments_append_cons isEnd front inner]
    rw [before]
    conv_lhs => rw [cut]
    rw [List.splitOnP_append_cons front _ isEnd, List.splitOnP_eq_singleton inner]

theorem endedSegments_append_end {value : Alpha} (isEnd : ends value = true)
    (values : List Alpha) :
    endedSegments ends (values ++ [value]) =
      endedSegments ends values ++ [openSegment ends values] := by
  rw [endedSegments, List.splitOnP_append_cons values [] isEnd, List.splitOnP_nil,
    List.dropLast_concat, splitOnP_eq]

theorem endedSegments_append_inner {value : Alpha} (inner : ends value = false)
    (values : List Alpha) : endedSegments ends (values ++ [value]) = endedSegments ends values := by
  have others : ∀ other ∈ openSegment ends (values ++ [value]), ends other = false :=
    fun other => openSegment_inner
  rcases @cut_at_last_end _ ends values with whole | ⟨front, stop, isEnd, cut⟩
  · rw [openSegment_append_inner inner, whole] at others
    rw [endedSegments_of_inner others,
      endedSegments_of_inner fun other member => others other (List.mem_append_left _ member)]
  · rw [openSegment_append_inner inner] at others
    rw [cut, List.append_assoc, List.cons_append, endedSegments_append_cons isEnd front others,
      endedSegments_append_cons isEnd front fun other => openSegment_inner]

/-- Elements that end nothing only lengthen the open segment. -/
theorem segments_append_inner (values : List Alpha) {more : List Alpha}
    (inner : ∀ value ∈ more, ends value = false) :
    endedSegments ends (values ++ more) = endedSegments ends values ∧
      openSegment ends (values ++ more) = openSegment ends values ++ more := by
  induction more using List.reverseRecOn with
  | nil => simp
  | append_singleton more last inductionHypothesis =>
      have lastInner : ends last = false := inner last (by simp)
      obtain ⟨ended, opened⟩ := inductionHypothesis fun value member =>
        inner value (List.mem_append_left _ member)
      rw [← List.append_assoc, endedSegments_append_inner lastInner,
        openSegment_append_inner lastInner, ended, opened, List.append_assoc]
      exact ⟨rfl, rfl⟩

/-- A segment that has ended stays what it is. -/
theorem endedSegments_append_of_end {value : Alpha} (isEnd : ends value = true)
    (before after : List Alpha) :
    endedSegments ends (before ++ value :: after) =
      endedSegments ends (before ++ [value]) ++ endedSegments ends after := by
  rw [endedSegments, List.splitOnP_append_cons before after isEnd, endedSegments_append_end isEnd,
    ← splitOnP_eq, endedSegments, List.dropLast_append_of_ne_nil (List.splitOnP_ne_nil ends after)]

end GridexEdge.Foundation
