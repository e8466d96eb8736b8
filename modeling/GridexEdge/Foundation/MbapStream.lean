import GridexEdge.Foundation.Framing
import GridexEdge.Foundation.Mbap

/-!
A stream of Modbus TCP frames as its receiver cuts it.

The receiver knows where a frame ends from its header. A sender who puts whole frames on a
stream, and leaves a part of one only at its end, is read frame by frame.
-/

namespace GridexEdge.Foundation

namespace Mbap

def cutFrame (bytes : List UInt8) : Cut :=
  if bytes.length < 6 then .wait
  else if bytes.length < 6 + (readU16 bytes 4).toNat then .wait
  else .frame (6 + (readU16 bytes 4).toNat)

theorem cutFrame_eq_frame {bytes : List UInt8} {size : Nat} (sized : cutFrame bytes = .frame size) :
    6 ≤ bytes.length ∧ size = 6 + (readU16 bytes 4).toNat ∧ size ≤ bytes.length := by
  unfold cutFrame at sized
  split_ifs at sized with short incomplete
  cases sized
  exact ⟨Nat.le_of_not_lt short, rfl, Nat.le_of_not_lt incomplete⟩

theorem cutFrame_append {bytes : List UInt8} (more : List UInt8)
    (decided : cutFrame bytes ≠ .wait) : cutFrame (bytes ++ more) = cutFrame bytes := by
  unfold cutFrame at decided ⊢
  split_ifs at decided with short incomplete
  · exact absurd rfl decided
  · exact absurd rfl decided
  · rw [readU16_append_left _ _ _ (by omega), List.length_append, if_neg (by omega),
      if_neg (by omega), if_neg short, if_neg incomplete]

def framing : Framing UInt8 where
  cut := cutFrame
  size_pos sized := by
    have := (cutFrame_eq_frame sized).2.1
    omega
  size_le sized := (cutFrame_eq_frame sized).2.2
  cut_append more decided := cutFrame_append more decided

theorem complete_adu (transaction : UInt16) (unit : UInt8) {pdu : List UInt8}
    (short : pdu.length < 65535) : Complete (adu transaction unit pdu) := by
  have announced : readU16 (adu transaction unit pdu) 4 = UInt16.ofNat (pdu.length + 1) :=
    word_highByte_lowByte _
  rw [Complete, announced, UInt16.toNat_ofNat', length_adu]
  omega

/-- The frames of a stream. -/
def frames (stream : List UInt8) : List (List UInt8) := (framing.scan stream).frames

/-- The stream ends where a frame does. -/
def Whole (stream : List UInt8) : Prop :=
  (framing.scan stream).stopped = false ∧ (framing.scan stream).rest = []

section Streams

variable {stream : List UInt8}

theorem whole_nil : Whole [] ∧ frames [] = [] := by
  have waits : framing.cut [] = .wait := rfl
  rw [Whole, frames, Framing.scan_of_wait waits]
  exact ⟨⟨rfl, rfl⟩, rfl⟩

/-- After whole frames the receiver begins anew. -/
theorem Whole.scan_append (whole : Whole stream) (more : List UInt8) :
    framing.scan (stream ++ more) =
      { framing.scan more with frames := frames stream ++ frames more } := by
  rw [Framing.scan_append, whole.1, whole.2, if_neg Bool.false_ne_true]
  rfl

theorem cutFrame_of_complete {frame : List UInt8} (complete : Complete frame) :
    framing.cut frame = .frame frame.length := by
  obtain ⟨sized, announced⟩ := complete
  change cutFrame frame = _
  rw [cutFrame, if_neg (by omega), if_neg (by omega), announced]

theorem Whole.append_frame (whole : Whole stream) {frame : List UInt8} (complete : Complete frame) :
    Whole (stream ++ frame) ∧ frames (stream ++ frame) = frames stream ++ [frame] := by
  have single : framing.scan frame = { frames := [frame], stopped := false, rest := [] } := by
    rw [Framing.scan_of_frame (cutFrame_of_complete complete), List.drop_length, List.take_length,
      Framing.scan_of_wait rfl]
  rw [Whole, frames, whole.scan_append, frames, frames, single]
  exact ⟨⟨rfl, rfl⟩, rfl⟩

/-- A part of a frame is not taken for one. -/
theorem Whole.frames_append_take (whole : Whole stream) {frame : List UInt8}
    (complete : Complete frame) {taken : Nat} (part : taken < frame.length) :
    frames (stream ++ frame.take taken) = frames stream := by
  obtain ⟨sized, announced⟩ := complete
  have waits : framing.cut (frame.take taken) = .wait := by
    change cutFrame (frame.take taken) = _
    rw [cutFrame, List.length_take, min_eq_left (Nat.le_of_lt part)]
    split
    · rfl
    · next headed =>
        have header : readU16 frame 4 = readU16 (frame.take taken) 4 := by
          rw [← readU16_append_left (frame.take taken) (frame.drop taken) 4
            (by rw [List.length_take]; omega), List.take_append_drop]
        rw [← header, if_pos (by omega)]
  rw [frames, whole.scan_append, frames, frames, Framing.scan_of_wait waits]
  exact List.append_nil _

end Streams

end Mbap

end GridexEdge.Foundation
