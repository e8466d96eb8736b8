import GridexEdge.Foundation.Words

/-!
Modbus TCP framing: seven bytes of header, then the protocol data unit.

The header counts what follows its length field, so the end of a frame is known
from its first six bytes. `Aligned` says that a received stream stops at such an
end.
-/

namespace GridexEdge.Foundation

namespace Mbap

/-- The frame of a protocol data unit. -/
def adu (transaction : UInt16) (unit : UInt8) (pdu : List UInt8) : List UInt8 :=
  appendU16 (appendU16 (appendU16 [] transaction) 0) (UInt16.ofNat (pdu.length + 1)) ++ unit :: pdu

theorem adu_eq (transaction : UInt16) (unit : UInt8) (pdu : List UInt8) :
    adu transaction unit pdu =
      [highByte transaction, lowByte transaction, 0, 0,
        highByte (UInt16.ofNat (pdu.length + 1)), lowByte (UInt16.ofNat (pdu.length + 1)),
        unit] ++ pdu := rfl

@[simp]
theorem length_adu (transaction : UInt16) (unit : UInt8) (pdu : List UInt8) :
    (adu transaction unit pdu).length = pdu.length + 7 := by
  rw [adu_eq, List.length_append, Nat.add_comm]
  rfl

/-- A frame of exactly the length its header states. -/
def Complete (frame : List UInt8) : Prop :=
  7 ≤ frame.length ∧ frame.length = 6 + (readU16 frame 4).toNat

/-- The stream is a sequence of complete frames. -/
def Aligned (stream : List UInt8) : Prop :=
  ∃ frames : List (List UInt8), (∀ frame ∈ frames, Complete frame) ∧ stream = frames.flatten

theorem aligned_nil : Aligned [] := ⟨[], by simp, rfl⟩

theorem Aligned.append {stream frame : List UInt8} (aligned : Aligned stream)
    (complete : Complete frame) : Aligned (stream ++ frame) := by
  obtain ⟨frames, all, rfl⟩ := aligned
  refine ⟨frames ++ [frame], ?_, by simp⟩
  intro other member
  rcases List.mem_append.mp member with earlier | last
  · exact all other earlier
  · rw [List.mem_singleton.mp last]
    exact complete

/-- A header and as many bytes as it announces make a frame. -/
theorem complete_of_header {header body : List UInt8} (sized : header.length = 7)
    (announced : body.length + 1 = (readU16 header 4).toNat) : Complete (header ++ body) := by
  constructor
  · rw [List.length_append]
    omega
  · rw [readU16_append_left _ _ _ (by omega), List.length_append]
    omega

end Mbap

end GridexEdge.Foundation
