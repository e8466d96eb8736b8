import Mathlib.Data.List.Basic
import Mathlib.Data.Nat.Basic

/-!
Frames cut off the front of a byte stream.

The rule that cuts answers about a beginning of the stream, and keeps its answer when
more bytes come. So it does not matter in what pieces they come: `scan_append`.
-/

namespace GridexEdge.Foundation

universe u

/-- What the beginning of a stream says about its first frame. -/
inductive Cut where
  | wait
  | stop
  | frame (size : Nat)
deriving DecidableEq

structure Framing (Byte : Type u) where
  cut : List Byte → Cut
  size_pos : ∀ {bytes size}, cut bytes = .frame size → 0 < size
  size_le : ∀ {bytes size}, cut bytes = .frame size → size ≤ bytes.length
  cut_append : ∀ {bytes} more, cut bytes ≠ .wait → cut (bytes ++ more) = cut bytes

/-- The frames of a stream, whether something that is no frame stopped the cutting,
and what is left from there on. -/
structure Scanned (Byte : Type u) where
  frames : List (List Byte)
  stopped : Bool
  rest : List Byte

namespace Framing

variable {Byte : Type u} (framing : Framing Byte)

def scan (stream : List Byte) : Scanned Byte :=
  match _ : framing.cut stream with
  | .wait => { frames := [], stopped := false, rest := stream }
  | .stop => { frames := [], stopped := true, rest := stream }
  | .frame size =>
      let later := scan (stream.drop size)
      { later with frames := stream.take size :: later.frames }
termination_by stream.length
decreasing_by
  have := framing.size_pos ‹_›
  have := framing.size_le ‹_›
  rw [List.length_drop]
  omega

variable {framing}

theorem scan_of_wait {stream : List Byte} (waits : framing.cut stream = .wait) :
    framing.scan stream = { frames := [], stopped := false, rest := stream } := by
  rw [scan]
  split <;> simp_all

theorem scan_of_stop {stream : List Byte} (stops : framing.cut stream = .stop) :
    framing.scan stream = { frames := [], stopped := true, rest := stream } := by
  rw [scan]
  split <;> simp_all

theorem scan_of_frame {stream : List Byte} {size : Nat}
    (sized : framing.cut stream = .frame size) :
    framing.scan stream =
      { framing.scan (stream.drop size) with
        frames := stream.take size :: (framing.scan (stream.drop size)).frames } := by
  rw [scan]
  split <;> simp_all

/-- The cases of a scan, for inductions over the stream. -/
theorem scan_induction (Holds : List Byte → Prop)
    (wait : ∀ stream, framing.cut stream = .wait → Holds stream)
    (stop : ∀ stream, framing.cut stream = .stop → Holds stream)
    (frame : ∀ stream size, framing.cut stream = .frame size → Holds (stream.drop size) →
      Holds stream) (stream : List Byte) : Holds stream := by
  induction stream using scan.induct framing with
  | case1 stream waits => exact wait stream waits
  | case2 stream stops => exact stop stream stops
  | case3 stream size sized inductionHypothesis => exact frame stream size sized inductionHypothesis

/-- What is left says why there was no other frame. -/
theorem cut_rest (stream : List Byte) :
    framing.cut (framing.scan stream).rest =
      if (framing.scan stream).stopped then .stop else .wait := by
  induction stream using framing.scan_induction with
  | wait stream waits => rw [scan_of_wait waits]; exact waits
  | stop stream stops => rw [scan_of_stop stops]; exact stops
  | frame stream size sized inductionHypothesis =>
      rw [scan_of_frame sized]
      exact inductionHypothesis

/-- Every frame was cut at its own length from the front of something. -/
theorem cut_of_mem_frames {stream frame : List Byte}
    (member : frame ∈ (framing.scan stream).frames) :
    ∃ behind, framing.cut (frame ++ behind) = .frame frame.length := by
  induction stream using framing.scan_induction with
  | wait stream waits => simp [scan_of_wait waits] at member
  | stop stream stops => simp [scan_of_stop stops] at member
  | frame stream size sized inductionHypothesis =>
      rw [scan_of_frame sized] at member
      rcases List.mem_cons.mp member with rfl | later
      · refine ⟨stream.drop size, ?_⟩
        rw [List.take_append_drop, sized, List.length_take, min_eq_left (framing.size_le sized)]
      · exact inductionHypothesis later

/-- A stream in two pieces: what the first leaves goes before the second, unless the
first has stopped the cutting. -/
theorem scan_append (first second : List Byte) :
    framing.scan (first ++ second) =
      if (framing.scan first).stopped then
        { framing.scan first with rest := (framing.scan first).rest ++ second }
      else
        { framing.scan ((framing.scan first).rest ++ second) with
          frames := (framing.scan first).frames ++
            (framing.scan ((framing.scan first).rest ++ second)).frames } := by
  induction first using framing.scan_induction with
  | wait first waits => rw [scan_of_wait waits]; rfl
  | stop first stops =>
      have still : framing.cut (first ++ second) = .stop :=
        (framing.cut_append second (by simp [stops])).trans stops
      rw [scan_of_stop stops, scan_of_stop still]
      rfl
  | frame first size sized inductionHypothesis =>
      have still : framing.cut (first ++ second) = .frame size :=
        (framing.cut_append second (by simp [sized])).trans sized
      have inside := framing.size_le sized
      rw [scan_of_frame still, List.drop_append_of_le_length inside,
        List.take_append_of_le_length inside, inductionHypothesis, scan_of_frame sized]
      dsimp only
      split <;> rfl

end Framing

end GridexEdge.Foundation
