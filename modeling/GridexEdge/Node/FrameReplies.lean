import GridexEdge.Node.CheckedAccess
import GridexEdge.Node.Replies

/-!
What the node answers to an arbitrary string of bytes.

`reply_answerFrame` is the complete answer to an intact frame for this node: a refusal,
a read range, the frame itself, or the range it has stored.
-/

namespace GridexEdge.Node

open Foundation

namespace MbusNode

/-- An answer to a frame, as the master checks it. -/
structure Answers (frame response : List UInt8) : Prop where
  intact : Intact response
  address : response.getD 0 0 = frame.getD 0 0
  function : response.getD 1 0 = frame.getD 1 0 ∨ response.getD 1 0 = frame.getD 1 0 ||| 0x80

theorem answers_withCrc {frame body : List UInt8} (sized : 2 ≤ body.length)
    (address : body.getD 0 0 = frame.getD 0 0)
    (function : body.getD 1 0 = frame.getD 1 0 ∨ body.getD 1 0 = frame.getD 1 0 ||| 0x80) :
    Answers frame (withCrc body) := by
  refine ⟨intact_withCrc sized, ?_, ?_⟩
  · rw [getD_withCrc (by omega), address]
  · rw [getD_withCrc (by omega)]
    exact function

def IsException (response : List UInt8) : Prop := response.getD 1 0 &&& 0x80 ≠ 0

section Answers

variable (node : MbusNode) (frame : List UInt8)

/-- The words of the range that a read names. -/
def rangeRead : List UInt16 :=
  (List.range (readU16 frame 4).toNat).map fun index =>
    node.registerValue (readU16 frame 2 + UInt16.ofNat index)

/-- What the answer to an intact frame for this node can be. -/
inductive Reply : List UInt8 × MbusNode → Prop where
  | refused (code : UInt8) : Reply (exception (frame.getD 0 0) (frame.getD 1 0) code, node)
  | read (isRead : frame.getD 1 0 = 0x03 ∨ frame.getD 1 0 = 0x04) (length : frame.length = 8)
      (readable : Readable (readU16 frame 2) (readU16 frame 4)) :
      Reply (withCrc ([frame.getD 0 0, frame.getD 1 0,
        UInt8.ofNat ((readU16 frame 4).toNat * 2)] ++ wordsBytes (node.rangeRead frame)), node)
  | echoed (single : frame.getD 1 0 = 0x06) (after : MbusNode) : Reply (frame, after)
  | stored (multiple : frame.getD 1 0 = 0x10) (after : MbusNode) :
      Reply (withCrc (appendU16 (appendU16 [frame.getD 0 0, frame.getD 1 0] (readU16 frame 2))
        (readU16 frame 4)), after)

/-- A range that fits is read register by register. -/
theorem readRange_eq_map {start count : UInt16} (fits : start.toNat + count.toNat ≤ 128) :
    readRange node.registers start.toNat count.toNat =
      (List.range count.toNat).map fun index =>
        node.registerValue (start + UInt16.ofNat index) := by
  apply List.ext_getElem
  · rw [length_readRange, List.length_map, List.length_range]
    omega
  · intro index inside bounded
    rw [List.length_map, List.length_range] at bounded
    have place : (start + UInt16.ofNat index).toNat = start.toNat + index := by
      rw [UInt16.toNat_add, UInt16.toNat_ofNat']
      omega
    rw [getElem_readRange _ _ _ _ inside (by omega), List.getElem_map, List.getElem_range,
      registerValue, dif_pos (by omega)]
    simp [place]

variable {frame}

theorem reply_answerFrame (unicast : frame.getD 0 0 ≠ 0) :
    node.Reply frame (node.answerFrame (frame.getD 0 0) frame) := by
  have kept : ∀ response, unlessBroadcast (frame.getD 0 0) response = response :=
    fun response => if_neg unicast
  unfold answerFrame writeSingleRegister writeMultipleRegisters
  simp only [kept]
  split
  · next read =>
      unfold readRegisters
      dsimp only
      split
      · exact .refused 0x02
      · next accepted =>
          have readable := readable_iff.mp accepted
          rw [foldl_appendU16, readRange_eq_map node readable.2.2]
          exact .read read.1 read.2 readable
  · split
    · next single =>
        split
        · rw [← single.1]
          exact .refused 0x02
        · exact .echoed single.1 _
    · split
      · next multiple =>
          split
          · rw [← multiple.1]
            exact .refused 0x03
          · rw [← multiple.1]
            exact .stored multiple.1 _
      · exact .refused 0x01

variable {node} {processed : List UInt8 × MbusNode}

theorem Reply.answers (reply : node.Reply frame processed) (intact : Intact frame) :
    Answers frame processed.1 := by
  cases reply with
  | refused code => exact answers_withCrc (by simp) rfl (.inr rfl)
  | read isRead length readable => exact answers_withCrc (by simp) rfl (.inl rfl)
  | echoed single after => exact ⟨intact, rfl, .inl rfl⟩
  | stored multiple after => exact answers_withCrc (by simp [appendU16]) rfl (.inl rfl)

/-- Only a refusal carries the exception bit. -/
theorem Reply.unchanged (reply : node.Reply frame processed)
    (raised : IsException processed.1) : processed.2 = node := by
  cases reply with
  | refused code => rfl
  | read isRead length readable => rfl
  | echoed single after =>
      rw [IsException, single] at raised
      exact absurd rfl raised
  | stored multiple after =>
      have function : (withCrc (appendU16 (appendU16 [frame.getD 0 0, frame.getD 1 0]
          (readU16 frame 2)) (readU16 frame 4))).getD 1 0 = 0x10 := multiple
      rw [IsException, function] at raised
      exact absurd rfl raised

/-- Only an intact frame for this node, or for all, is looked at. -/
theorem processFrame_of_intact (intact : Intact frame)
    (addressed : frame.getD 0 0 = 0 ∨ frame.getD 0 0 = node.config.address) :
    node.processFrame frame = node.answerFrame (frame.getD 0 0) frame := by
  rw [processFrame, if_neg (not_lt.mpr intact.1)]
  dsimp only
  rw [if_neg (not_not_intro intact.2), if_neg (by tauto)]

theorem processFrame_of_ignored
    (ignored : ¬Intact frame ∨ frame.getD 0 0 ≠ 0 ∧ frame.getD 0 0 ≠ node.config.address) :
    node.processFrame frame = ([], node) := by
  unfold processFrame
  split
  · rfl
  · next sized =>
      dsimp only
      split
      · rfl
      · next crc =>
          have intact : Intact frame := ⟨not_lt.mp sized, not_not.mp crc⟩
          rw [if_pos (ignored.resolve_left (not_not_intro intact))]

theorem answerFrame_broadcast (node : MbusNode) (frame : List UInt8) :
    (node.answerFrame 0 frame).1 = [] := by
  unfold answerFrame writeSingleRegister writeMultipleRegisters
  dsimp only
  split_ifs <;> rfl

/-- What a master may rely on, for any string of bytes. -/
structure Disciplined (node : MbusNode) (frame : List UInt8) : Prop where
  inside : Checked.processFrame node frame = some (node.processFrame frame)
  ignored : ¬Intact frame ∨ frame.getD 0 0 ≠ 0 ∧ frame.getD 0 0 ≠ node.config.address →
    node.processFrame frame = ([], node)
  broadcast : frame.getD 0 0 = 0 → (node.processFrame frame).1 = []
  answered : Intact frame → frame.getD 0 0 ≠ 0 → frame.getD 0 0 = node.config.address →
    Answers frame (node.processFrame frame).1
  refused : IsException (node.processFrame frame).1 → (node.processFrame frame).2 = node
  unread : frame.getD 1 0 = 0x03 ∨ frame.getD 1 0 = 0x04 → (node.processFrame frame).2 = node
  read : Intact frame → frame.getD 0 0 ≠ 0 → frame.getD 0 0 = node.config.address →
    frame.getD 1 0 = 0x03 ∨ frame.getD 1 0 = 0x04 → frame.length = 8 →
    Readable (readU16 frame 2) (readU16 frame 4) →
    (node.processFrame frame).1 =
      withCrc ([frame.getD 0 0, frame.getD 1 0, UInt8.ofNat ((readU16 frame 4).toNat * 2)] ++
        wordsBytes (node.rangeRead frame))

/-- Every byte string, in every state of the node. -/
theorem processFrame_is_disciplined (node : MbusNode) (frame : List UInt8) :
    node.Disciplined frame := by
  constructor
  · exact Checked.processFrame_eq node frame
  · exact processFrame_of_ignored
  · intro broadcast
    by_cases intact : Intact frame
    · rw [processFrame_of_intact intact (.inl broadcast), broadcast]
      exact answerFrame_broadcast node frame
    · rw [processFrame_of_ignored (.inl intact)]
  · intro intact unicast addressed
    rw [processFrame_of_intact intact (.inr addressed)]
    exact (reply_answerFrame node unicast).answers intact
  · intro raised
    by_cases silent : ¬Intact frame ∨ frame.getD 0 0 ≠ 0 ∧ frame.getD 0 0 ≠ node.config.address
    · rw [processFrame_of_ignored silent]
    · rw [not_or, not_not, not_and_or, not_not, not_not] at silent
      rw [processFrame_of_intact silent.1 silent.2] at raised ⊢
      by_cases broadcast : frame.getD 0 0 = 0
      · rw [broadcast, answerFrame_broadcast] at raised
        exact absurd rfl raised
      · exact (reply_answerFrame node broadcast).unchanged raised
  · intro isRead
    rcases node.processFrame_cases frame with same | ⟨values, write, -⟩
    · exact same
    · rcases isRead with read | read <;> rcases write with ⟨other, -⟩ | ⟨other, -⟩ <;>
        exact absurd (read.symm.trans other) (by decide)
  · intro intact unicast addressed isRead length readable
    rw [processFrame_of_intact intact (.inr addressed), answerFrame,
      if_pos ⟨isRead, length⟩, unlessBroadcast, if_neg unicast, readRegisters]
    dsimp only
    rw [if_neg (readable_iff.mpr readable), foldl_appendU16,
      readRange_eq_map node readable.2.2]
    rfl

end Answers

end MbusNode

end GridexEdge.Node
