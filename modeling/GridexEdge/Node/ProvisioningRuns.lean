import GridexEdge.Foundation.Segments
import GridexEdge.Node.ProvisioningLine

/-!
The lines of the serial console and the runs of characters between its line ends.

The buffer holds the open run while it fits, and a longer one is discarded whole.
-/

namespace GridexEdge.Node.ProvisioningLine

open Foundation

/-- A run is a line if the buffer of eighty characters takes it. -/
def Shown (typed : List UInt8) : Prop := typed ≠ [] ∧ typed.length ≤ 80

instance (typed : List UInt8) : Decidable (Shown typed) :=
  inferInstanceAs (Decidable (typed ≠ [] ∧ typed.length ≤ 80))

/-- The lines by splitting: the ended runs that are neither empty nor too long. -/
def lines (values : List UInt8) : List (List UInt8) :=
  (endedSegments lineEnd values).filter fun typed => decide (Shown typed)

/-- What the state keeps of the characters since the last line end. -/
structure Reads (line : ProvisioningLine) (typed : List UInt8) : Prop where
  discarding_iff : line.discarding = true ↔ 80 < typed.length
  buffer_eq : line.discarding = false → line.buffer = typed

variable {line : ProvisioningLine} {typed : List UInt8} {value : UInt8}

theorem reads_fresh : Reads fresh [] where
  discarding_iff := by decide
  buffer_eq _ := rfl

namespace Reads

/-- At its end a run comes out if the buffer took it, and the next one starts afresh. -/
theorem push_end (reads : Reads line typed) (isEnd : lineEnd value = true) :
    line.push value = (if Shown typed then some typed else none, fresh) := by
  rw [push, if_pos isEnd]
  cases discarding : line.discarding with
  | true =>
      have long : 80 < typed.length := reads.discarding_iff.mp discarding
      rw [if_neg fun shown : Shown typed => absurd shown.2 (Nat.not_le_of_lt long)]
      rfl
  | false =>
      have short : typed.length ≤ 80 := by
        have := reads.discarding_iff
        rw [discarding] at this
        simpa using this
      rw [reads.buffer_eq discarding]
      by_cases empty : typed = []
      · rw [empty]
        rfl
      · have kept : (!false && typed != []) = true := by simpa using empty
        rw [if_pos kept, if_pos ⟨empty, short⟩]

theorem push_inner (reads : Reads line typed) (inner : lineEnd value = false) :
    (line.push value).1 = none ∧ Reads (line.push value).2 (typed ++ [value]) := by
  have longer : (typed ++ [value]).length = typed.length + 1 := List.length_append
  rw [push, inner, if_neg Bool.false_ne_true]
  cases discarding : line.discarding with
  | true =>
      have long : 80 < typed.length := reads.discarding_iff.mp discarding
      rw [if_pos rfl]
      refine ⟨rfl, ⟨fun _ => by omega, fun _ => discarding⟩, fun kept => ?_⟩
      rw [discarding] at kept
      exact absurd kept (Bool.noConfusion)
  | false =>
      have buffered := reads.buffer_eq discarding
      rw [if_neg Bool.false_ne_true]
      by_cases full : line.buffer.length = 80
      -- the character that does not fit starts the discarding of its whole run
      · rw [dif_pos full]
        rw [buffered] at full
        exact ⟨rfl, ⟨fun _ => by omega, fun _ => rfl⟩, fun kept => Bool.noConfusion kept⟩
      · have fits := line.fits
        rw [dif_neg full]
        rw [buffered] at fits full
        refine ⟨rfl, ⟨fun stopped => Bool.noConfusion stopped, fun long => by omega⟩, fun _ => ?_⟩
        exact congrArg (· ++ [value]) buffered

end Reads

/-- After any characters the state is that of the run they leave open. -/
theorem reads_pushAll (values : List UInt8) :
    Reads (fresh.pushAll values) (openSegment lineEnd values) := by
  induction values using List.reverseRecOn with
  | nil => exact reads_fresh
  | append_singleton values value inductionHypothesis =>
      have last : fresh.pushAll (values ++ [value]) = ((fresh.pushAll values).push value).2 := by
        rw [pushAll, run_append]
        rfl
      rw [last]
      cases isEnd : lineEnd value with
      | true =>
          rw [inductionHypothesis.push_end isEnd, openSegment_append_end isEnd]
          exact reads_fresh
      | false =>
          rw [openSegment_append_inner isEnd]
          exact (inductionHypothesis.push_inner isEnd).2

/-- Each character returns the run that it ends, if that is a line. -/
theorem push_pushAll (values : List UInt8) (value : UInt8) :
    ((fresh.pushAll values).push value).1 =
      if lineEnd value = true ∧ Shown (openSegment lineEnd values) then
        some (openSegment lineEnd values)
      else none := by
  have reads := reads_pushAll values
  cases isEnd : lineEnd value with
  | true =>
      rw [reads.push_end isEnd]
      simp
  | false => simpa using (reads.push_inner isEnd).1

theorem completedLines_eq_lines (values : List UInt8) :
    fresh.completedLines values = lines values := by
  induction values using List.reverseRecOn with
  | nil => rfl
  | append_singleton values value inductionHypothesis =>
      have last : fresh.completedLines (values ++ [value]) =
          fresh.completedLines values ++ ((fresh.pushAll values).push value).1.toList := by
        rw [completedLines, outputs_append]
        congr 1
        exact List.append_nil _
      rw [last, push_pushAll, inductionHypothesis, lines, lines]
      cases isEnd : lineEnd value with
      | true =>
          rw [endedSegments_append_end isEnd, List.filter_append]
          by_cases shown : Shown (openSegment lineEnd values) <;> simp [shown]
      | false =>
          rw [endedSegments_append_inner isEnd]
          simp

/-- A run that is too long leaves the lines before and after it as they are. -/
theorem lines_of_long {before typed : List UInt8} (opens : openSegment lineEnd before = [])
    (inner : ∀ value ∈ typed, lineEnd value = false) (long : 80 < typed.length) {value : UInt8}
    (isEnd : lineEnd value = true) (after : List UInt8) :
    lines (before ++ typed ++ value :: after) = lines before ++ lines after := by
  have dropped : ¬Shown typed := fun shown => absurd shown.2 (Nat.not_le_of_lt long)
  obtain ⟨ended, opened⟩ := segments_append_inner before inner
  rw [opens, List.nil_append] at opened
  rw [lines, endedSegments_append_of_end isEnd, endedSegments_append_end isEnd, ended, opened,
    List.filter_append, List.filter_append, List.filter_singleton]
  simp [lines, dropped]

/-- The lines are the runs between line ends that the buffer takes. Each comes out at its
own end, and a longer run changes no other line. -/
theorem completedLines_spec (values : List UInt8) :
    fresh.completedLines values = lines values ∧
      (∀ before value after, values = before ++ value :: after →
        ((fresh.pushAll before).push value).1 =
          if lineEnd value = true ∧ Shown (openSegment lineEnd before) then
            some (openSegment lineEnd before)
          else none) ∧
      ∀ before typed value after, values = before ++ typed ++ value :: after →
        openSegment lineEnd before = [] → (∀ inner ∈ typed, lineEnd inner = false) →
        lineEnd value = true → 80 < typed.length →
        fresh.completedLines values =
          fresh.completedLines before ++ fresh.completedLines after := by
  refine ⟨completedLines_eq_lines values, ?_, ?_⟩
  · intro before value _ _
    exact push_pushAll before value
  · intro before typed value after split opens inner isEnd long
    rw [completedLines_eq_lines, completedLines_eq_lines, completedLines_eq_lines, split,
      lines_of_long opens inner long isEnd]

end GridexEdge.Node.ProvisioningLine
