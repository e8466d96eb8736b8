import GridexEdge.Node.EthernetControlServer
import GridexEdge.Foundation.Mbap

/-!
What the endpoint answers to a range read and to a range write.

An RTU frame closed with its own CRC passes the node's check, and the reply loses
its address and CRC again on the way out, so both answers are stated on protocol
data units.
-/

namespace GridexEdge.Node

open Foundation

namespace MbusNode

variable (node : MbusNode)

/-- The quantities a client writes are short enough for every length field. -/
theorem toNat_quantity {values : List UInt16} (short : values.length ≤ 123) :
    (UInt16.ofNat values.length).toNat = values.length := by
  rw [UInt16.toNat_ofNat']
  omega

theorem quantity_ne_zero {values : List UInt16} (nonempty : values ≠ [])
    (short : values.length ≤ 123) : UInt16.ofNat values.length ≠ 0 := by
  intro zero
  have size := toNat_quantity short
  rw [zero] at size
  exact nonempty (List.length_eq_zero_iff.mp size.symm)

/-- Long enough for an address, a function and the checksum of what stands before it. -/
def Intact (frame : List UInt8) : Prop :=
  4 ≤ frame.length ∧
    crc16 (frame.take (frame.length - 2)) =
      word (frame.getD (frame.length - 1) 0) (frame.getD (frame.length - 2) 0)

instance decidableIntact (frame : List UInt8) : Decidable (Intact frame) :=
  inferInstanceAs (Decidable (_ ∧ _))

theorem intact_withCrc {body : List UInt8} (sized : 2 ≤ body.length) : Intact (withCrc body) := by
  have length : (withCrc body).length = body.length + 2 := by simp [withCrc]
  have covered : (withCrc body).take (body.length + 2 - 2) = body := by simp [withCrc]
  have low : (withCrc body).getD (body.length + 2 - 2) 0 = lowByte (crc16 body) := by
    rw [withCrc, Nat.add_sub_cancel, List.getD_append_right _ _ _ _ (Nat.le_refl _),
      Nat.sub_self]
    rfl
  have high : (withCrc body).getD (body.length + 2 - 1) 0 = highByte (crc16 body) := by
    rw [withCrc, List.getD_append_right _ _ _ _ (by omega),
      show body.length + 2 - 1 - body.length = 1 by omega]
    rfl
  refine ⟨by omega, ?_⟩
  rw [length, covered, low, high, word_highByte_lowByte]

theorem getD_withCrc {body : List UInt8} {index : Nat} (inside : index < body.length) :
    (withCrc body).getD index 0 = body.getD index 0 :=
  List.getD_append _ _ _ _ inside

/-- A frame closed with its own CRC, under the node's own address. -/
theorem processFrame_withCrc {body : List UInt8} (sized : 2 ≤ body.length)
    (addressed : body.getD 0 0 = node.config.address) :
    node.processFrame (withCrc body) = node.answerFrame node.config.address (withCrc body) := by
  obtain ⟨long, crc⟩ := intact_withCrc sized
  have first : (withCrc body).getD 0 0 = node.config.address := by
    rw [getD_withCrc (by omega), addressed]
  rw [processFrame, if_neg (by omega)]
  dsimp only
  rw [if_neg (not_not_intro crc), first, if_neg (fun other => other.2 rfl)]

/-- The ranges the node reads out. -/
def Readable (start count : UInt16) : Prop :=
  1 ≤ count.toNat ∧ count.toNat ≤ 64 ∧ start.toNat + count.toNat ≤ 128

instance decidableReadable (start count : UInt16) : Decidable (Readable start count) :=
  inferInstanceAs (Decidable (_ ∧ _))

/-- What the code checks of a range, as arithmetic. -/
theorem readable_iff {start count : UInt16} :
    ¬(count = 0 ∨ 64 < count ∨ 128 < start.toNat + count.toNat) ↔ Readable start count := by
  have zero : count = 0 ↔ count.toNat = 0 := UInt16.toNat_inj.symm
  have long : 64 < count ↔ 64 < count.toNat := UInt16.lt_iff_toNat_lt
  unfold Readable
  rw [zero, long]
  omega

/-- FC03 without framing. -/
def readRequest (start count : UInt16) : List UInt8 :=
  [0x03, highByte start, lowByte start, highByte count, lowByte count]

def readReply (start count : UInt16) : List UInt8 :=
  if Readable start count then
    [0x03, UInt8.ofNat (count.toNat * 2)] ++
      wordsBytes (readRange node.registers start.toNat count.toNat)
  else [0x83, 0x02]

theorem readReply_ne_nil (start count : UInt16) : node.readReply start count ≠ [] := by
  unfold readReply
  split <;> simp

/-- Every reply fits in a frame: the longest carries sixty-four words. -/
theorem length_readReply_le (start count : UInt16) :
    (node.readReply start count).length ≤ 130 := by
  unfold readReply
  split
  · next readable =>
      have short := readable.2.1
      simp only [List.length_append, length_wordsBytes, length_readRange, List.length_cons,
        List.length_nil]
      omega
  · decide

/-- FC10 without framing. -/
def writeRequest (start : UInt16) (values : List UInt16) : List UInt8 :=
  [0x10, highByte start, lowByte start, highByte (UInt16.ofNat values.length),
    lowByte (UInt16.ofNat values.length), UInt8.ofNat (values.length * 2)] ++ wordsBytes values

def writeReply (start : UInt16) (values : List UInt16) : List UInt8 :=
  [0x10, highByte start, lowByte start, highByte (UInt16.ofNat values.length),
    lowByte (UInt16.ofNat values.length)]

variable {node}

theorem processFrame_readRequest (unicast : node.config.address ≠ 0) (start count : UInt16) :
    node.processFrame (withCrc (node.config.address :: readRequest start count)) =
      (withCrc (node.config.address :: node.readReply start count), node) := by
  have body : withCrc (node.config.address :: readRequest start count) =
      [node.config.address, 0x03, highByte start, lowByte start, highByte count, lowByte count,
        lowByte (crc16 (node.config.address :: readRequest start count)),
        highByte (crc16 (node.config.address :: readRequest start count))] := rfl
  rw [node.processFrame_withCrc (by simp [readRequest]) rfl, body, answerFrame]
  simp only [List.getD_cons_succ, List.getD_cons_zero, List.length_cons, List.length_nil,
    true_or, and_self, if_true, unlessBroadcast, unicast, if_false, readRegisters, readU16_succ,
    readU16_zero, word_highByte_lowByte, foldl_appendU16]
  by_cases readable : Readable start count
  · rw [if_neg (readable_iff.mpr readable), readReply, if_pos readable]
    rfl
  · rw [if_pos (not_not.mp (mt readable_iff.mp readable)), readReply, if_neg readable]
    rfl

/-- What the node reads of a range write, whatever follows it. -/
theorem writeRequest_fields (address : UInt8) (start : UInt16) (values : List UInt16)
    (back : List UInt8) :
    (address :: writeRequest start values ++ back).length = 7 + values.length * 2 + back.length ∧
      (address :: writeRequest start values ++ back).getD 1 0 = 0x10 ∧
      readU16 (address :: writeRequest start values ++ back) 2 = start ∧
      readU16 (address :: writeRequest start values ++ back) 4 = UInt16.ofNat values.length ∧
      (address :: writeRequest start values ++ back).getD 6 0 = UInt8.ofNat (values.length * 2) ∧
      readWords (address :: writeRequest start values ++ back) 7 values.length = values := by
  refine ⟨?_, rfl, word_highByte_lowByte start, word_highByte_lowByte _, rfl, ?_⟩
  · simp only [writeRequest, List.length_append, length_wordsBytes, List.length_cons,
      List.length_nil]
    omega
  · exact readWords_append
      [address, 0x10, highByte start, lowByte start, highByte (UInt16.ofNat values.length),
        lowByte (UInt16.ofNat values.length), UInt8.ofNat (values.length * 2)] values back

/-- A range write as long as the client sends, over registers the node has. -/
theorem processFrame_writeRequest (unicast : node.config.address ≠ 0) {start : UInt16}
    {values : List UInt16} (nonempty : values ≠ []) (short : values.length ≤ 123)
    (fits : start.toNat + values.length ≤ 128) :
    node.processFrame (withCrc (node.config.address :: writeRequest start values)) =
      (withCrc (node.config.address :: writeReply start values),
        (node.storeRange start values).applyPendingConfiguration) := by
  have byteCount : (UInt8.ofNat (values.length * 2)).toNat = values.length * 2 := by
    rw [UInt8.toNat_ofNat']
    omega
  let crc := crc16 (node.config.address :: writeRequest start values)
  have body : withCrc (node.config.address :: writeRequest start values) =
      node.config.address :: writeRequest start values ++ [lowByte crc, highByte crc] := rfl
  obtain ⟨length, function, startWord, countWord, byteWord, stored⟩ :=
    writeRequest_fields node.config.address start values [lowByte crc, highByte crc]
  rw [node.processFrame_withCrc (by simp [writeRequest]) rfl, body, answerFrame, function, length,
    if_neg (by simp), if_neg (by simp), if_pos (by simp +arith), writeMultipleRegisters,
    startWord, countWord, byteWord, length, toNat_quantity short, byteCount, stored, if_neg]
  · rw [unlessBroadcast, if_neg unicast]
    rfl
  · simp only [quantity_ne_zero nonempty short, List.length_cons, List.length_nil, false_or]
    omega

end MbusNode

namespace EthernetControlServer

variable (unitId : UInt8) {node : MbusNode}

/-- The reply without its address and CRC, under the request's header. -/
theorem wrapResponse_withCrc (transaction : UInt16) (request answer : List UInt8)
    (address : UInt8) :
    wrapResponse unitId (Mbap.adu transaction unitId request)
        (MbusNode.withCrc (address :: answer)) =
      Mbap.adu transaction unitId answer := by
  have length : (MbusNode.withCrc (address :: answer)).length - 3 = answer.length := by
    simp [MbusNode.withCrc]
  have body : ((MbusNode.withCrc (address :: answer)).drop 1).take answer.length = answer := by
    simp [MbusNode.withCrc]
  rw [wrapResponse, length, body]
  rfl

theorem exception_adu (transaction : UInt16) (request : List UInt8) (function code : UInt8) :
    exception (Mbap.adu transaction unitId request) function code =
      Mbap.adu transaction unitId [function ||| 0x80, code] := by
  rw [Mbap.adu_eq _ _ [function ||| 0x80, code]]
  have high : highByte (UInt16.ofNat ([function ||| 0x80, code].length + 1)) = 0 := by
    change highByte 3 = 0
    decide
  have low : lowByte (UInt16.ofNat ([function ||| 0x80, code].length + 1)) = 3 := by
    change lowByte 3 = 3
    decide
  rw [high, low]
  rfl

section Framed

variable (transaction : UInt16) {request : List UInt8}

/-- What the endpoint reads of a framed request. -/
theorem handle_adu (sized : 5 ≤ request.length) :
    handle unitId node (Mbap.adu transaction unitId request) =
      let adu := Mbap.adu transaction unitId request
      if !writeAllowed (request.getD 0 0) (readU16 request 1)
          (checkedCount (request.getD 0 0) adu) then
        (Mbap.adu transaction unitId [request.getD 0 0 ||| 0x80, 0x02], node)
      else
        let rtuResponse := node.processFrame (MbusNode.withCrc (node.config.address :: request))
        if rtuResponse.1.length < 4 then ([], rtuResponse.2)
        else (wrapResponse unitId adu rtuResponse.1, rtuResponse.2) := by
  have accepted : ¬((Mbap.adu transaction unitId request).length < 12 ∨
      readU16 (Mbap.adu transaction unitId request) 2 ≠ 0 ∨
      (Mbap.adu transaction unitId request).getD 6 0 ≠ unitId) := by
    rw [Mbap.length_adu]
    rintro (short | protocol | unit)
    · omega
    · exact protocol (word_highByte_lowByte 0)
    · exact unit rfl
  rw [handle, if_neg accepted, ← exception_adu]
  rfl

/-- A request that the window check lets through and the node answers. -/
theorem handle_of_allowed {answer : List UInt8} {after : MbusNode} (sized : 5 ≤ request.length)
    (allowed : writeAllowed (request.getD 0 0) (readU16 request 1)
      (checkedCount (request.getD 0 0) (Mbap.adu transaction unitId request)) = true)
    (answered : node.processFrame (MbusNode.withCrc (node.config.address :: request)) =
      (MbusNode.withCrc (node.config.address :: answer), after)) (nonempty : answer ≠ []) :
    handle unitId node (Mbap.adu transaction unitId request) =
      (Mbap.adu transaction unitId answer, after) := by
  have positive := List.length_pos_iff.mpr nonempty
  have length : ¬(MbusNode.withCrc (node.config.address :: answer)).length < 4 := by
    simp only [MbusNode.withCrc, List.length_append, List.length_cons, List.length_nil]
    omega
  rw [handle_adu unitId transaction sized]
  dsimp only
  rw [allowed, answered, wrapResponse_withCrc, if_neg (by simp), if_neg length]

theorem handle_of_refused (sized : 5 ≤ request.length)
    (refused : writeAllowed (request.getD 0 0) (readU16 request 1)
      (checkedCount (request.getD 0 0) (Mbap.adu transaction unitId request)) = false) :
    handle unitId node (Mbap.adu transaction unitId request) =
      (Mbap.adu transaction unitId [request.getD 0 0 ||| 0x80, 0x02], node) := by
  rw [handle_adu unitId transaction sized]
  dsimp only
  rw [refused, if_pos (by simp)]

end Framed

theorem handle_readRequest (unicast : node.config.address ≠ 0) (transaction start count : UInt16) :
    handle unitId node (Mbap.adu transaction unitId (MbusNode.readRequest start count)) =
      (Mbap.adu transaction unitId (node.readReply start count), node) :=
  handle_of_allowed unitId transaction (by simp [MbusNode.readRequest]) rfl
    (MbusNode.processFrame_readRequest unicast start count) (node.readReply_ne_nil start count)

/-- The registers a client may write: one to four words inside the command
window. -/
def InWindow (start : UInt16) (values : List UInt16) : Prop :=
  0x14 ≤ start.toNat ∧ values ≠ [] ∧ start.toNat + values.length - 1 ≤ 0x17

instance decidableInWindow (start : UInt16) (values : List UInt16) :
    Decidable (InWindow start values) :=
  inferInstanceAs (Decidable (_ ∧ _))

theorem writeAllowed_range {start : UInt16} {values : List UInt16} (nonempty : values ≠ [])
    (short : values.length ≤ 123) :
    writeAllowed 0x10 start (UInt16.ofNat values.length) = decide (InWindow start values) := by
  have first : Reg.commandSequence.toNat = 0x14 := rfl
  have last : Reg.commandTtlSeconds.toNat = 0x17 := rfl
  rw [writeAllowed, if_neg (by decide), if_neg (MbusNode.quantity_ne_zero nonempty short),
    MbusNode.toNat_quantity short, ← Bool.decide_and,
    decide_eq_decide, UInt16.le_iff_toNat_le, first, last]
  simp [InWindow, nonempty]

/-- What a range write leaves and answers. -/
def writeOutcome (node : MbusNode) (start : UInt16) (values : List UInt16) :
    List UInt8 × MbusNode :=
  if InWindow start values then (MbusNode.writeReply start values, node.storeRange start values)
  else ([0x90, 0x02], node)

theorem handle_writeRequest (unicast : node.config.address ≠ 0)
    (keyless : node.registerValue Reg.applyConfiguration ≠ Reg.applyKey) (transaction : UInt16)
    {start : UInt16} {values : List UInt16} (nonempty : values ≠ [])
    (short : values.length ≤ 123) :
    handle unitId node (Mbap.adu transaction unitId (MbusNode.writeRequest start values)) =
      (Mbap.adu transaction unitId (writeOutcome node start values).1,
        (writeOutcome node start values).2) := by
  have sized : 5 ≤ (MbusNode.writeRequest start values).length := by
    simp only [MbusNode.writeRequest, List.length_append, List.length_cons]
    omega
  have startWord : readU16 (MbusNode.writeRequest start values) 1 = start :=
    word_highByte_lowByte start
  have countWord : checkedCount 0x10
      (Mbap.adu transaction unitId (MbusNode.writeRequest start values)) =
        UInt16.ofNat values.length :=
    word_highByte_lowByte _
  have function : (MbusNode.writeRequest start values).getD 0 0 = 0x10 := rfl
  by_cases inside : InWindow start values
  · obtain ⟨low, -, high⟩ := inside
    have isolated : (node.storeRange start values).applyPendingConfiguration =
        node.storeRange start values := by
      have key : Reg.applyConfiguration.toNat = 0x13 := rfl
      apply MbusNode.applyPendingConfiguration_of_ne
      rwa [node.registerValue_storeRange_of_outside (.inl (by omega))]
    rw [writeOutcome, if_pos ⟨low, nonempty, high⟩]
    refine handle_of_allowed unitId transaction sized ?_ ?_ (by simp [MbusNode.writeReply])
    · rw [function, startWord, countWord, writeAllowed_range nonempty short]
      exact decide_eq_true ⟨low, nonempty, high⟩
    · rw [MbusNode.processFrame_writeRequest unicast nonempty short (by omega), isolated]
  · have refused : handle unitId node
        (Mbap.adu transaction unitId (MbusNode.writeRequest start values)) =
          (Mbap.adu transaction unitId [0x10 ||| 0x80, 0x02], node) := by
      apply handle_of_refused unitId transaction sized
      rw [function, startWord, countWord, writeAllowed_range nonempty short]
      exact decide_eq_false inside
    rw [writeOutcome, if_neg inside, refused, show (0x10 : UInt8) ||| 0x80 = 0x90 by decide]

/-! ### A frame in fragments -/

/-- A frame the endpoint can take in. -/
structure Sendable (frame : List UInt8) : Prop where
  complete : Mbap.Complete frame
  long : 8 ≤ frame.length
  short : frame.length ≤ 260

theorem sendable_adu (transaction : UInt16) {request : List UInt8} (nonempty : request ≠ [])
    (short : request.length ≤ 253) : Sendable (Mbap.adu transaction unitId request) := by
  have positive := List.length_pos_iff.mpr nonempty
  have length := Mbap.length_adu transaction unitId request
  refine ⟨⟨by omega, ?_⟩, by omega, by omega⟩
  have announced : readU16 (Mbap.adu transaction unitId request) 4 =
      UInt16.ofNat (request.length + 1) := word_highByte_lowByte _
  rw [announced, UInt16.toNat_ofNat']
  omega

section Fragments

variable (node) {server : EthernetControlServer}

/-- The beginning of a frame waits for the rest of it. -/
theorem processFrames_of_beginning {rest : List UInt8} (sendable : Sendable (server.rx ++ rest))
    (unfinished : rest ≠ []) : server.processFrames node = ([], server, node) := by
  have positive := List.length_pos_iff.mpr unfinished
  obtain ⟨⟨-, total⟩, long, short⟩ := sendable
  rw [List.length_append] at total long short
  rw [processFrames]
  split
  · rfl
  · next header =>
      rw [readU16_append_left _ _ _ (by omega)] at total
      dsimp only
      rw [if_neg, if_pos (by omega)]
      rw [UInt16.lt_iff_toNat_lt]
      simp only [UInt16.reduceToNat]
      omega

/-- A whole frame is handled and taken out of the buffer. -/
theorem processFrames_of_frame (sendable : Sendable server.rx) :
    server.processFrames node =
      (if (handle server.unitId node server.rx).1 = [] then []
        else [(handle server.unitId node server.rx).1],
      { server with rx := [] }, (handle server.unitId node server.rx).2) := by
  obtain ⟨⟨-, total⟩, long, short⟩ := sendable
  have emptied : ∀ after : MbusNode,
      processFrames { server with rx := [] } after = ([], { server with rx := [] }, after) := by
    intro after
    rw [processFrames, if_pos (by simp)]
  rw [processFrames, if_neg (by omega)]
  dsimp only
  rw [if_neg, if_neg (by omega), ← total, List.take_length, List.drop_length, emptied]
  rw [UInt16.lt_iff_toNat_lt]
  simp only [UInt16.reduceToNat]
  omega

/-- One pass that reads a fragment the buffer has room for. -/
theorem loop_of_fragment {fragment : List UInt8} (accepted : server.client.isSome = true)
    (nonempty : fragment ≠ []) (room : server.rx.length + fragment.length ≤ 300) (nowMs : UInt32)
    {replies : List (List UInt8)} {after : MbusNode} {left : List UInt8}
    (processed : processFrames
        { server with rx := server.rx ++ fragment, lastByteMs := nowMs } node =
      (replies, { server with rx := left, lastByteMs := nowMs }, after)) :
    server.loop node
        { connected := true, candidate := none, available := fragment, nowMs := nowMs } =
      (replies, { server with rx := left, lastByteMs := nowMs }, after) := by
  have taken : fragment.take (300 - server.rx.length) = fragment :=
    List.take_of_length_le (by omega)
  have client : server.client ≠ none := Option.isSome_iff_ne_none.mp accepted
  rw [loop, acceptClient]
  simp only [accepted, Bool.and_self, if_true, if_neg client]
  rw [readAvailable]
  simp only [taken, if_neg nonempty]
  rw [processed]
  simp

theorem loop_of_beginning {fragment rest : List UInt8} (accepted : server.client.isSome = true)
    (nonempty : fragment ≠ []) (room : server.rx.length + fragment.length ≤ 300) (nowMs : UInt32)
    (sendable : Sendable (server.rx ++ fragment ++ rest)) (unfinished : rest ≠ []) :
    server.loop node
        { connected := true, candidate := none, available := fragment, nowMs := nowMs } =
      ([], { server with rx := server.rx ++ fragment, lastByteMs := nowMs }, node) :=
  loop_of_fragment node accepted nonempty room nowMs
    (processFrames_of_beginning node sendable unfinished)

/-- The pass that reads the end of a frame handles it. -/
theorem loop_of_last {fragment : List UInt8} (accepted : server.client.isSome = true)
    (nonempty : fragment ≠ []) (room : server.rx.length + fragment.length ≤ 300) (nowMs : UInt32)
    (sendable : Sendable (server.rx ++ fragment)) :
    server.loop node
        { connected := true, candidate := none, available := fragment, nowMs := nowMs } =
      (if (handle server.unitId node (server.rx ++ fragment)).1 = [] then []
        else [(handle server.unitId node (server.rx ++ fragment)).1],
      { server with rx := [], lastByteMs := nowMs },
      (handle server.unitId node (server.rx ++ fragment)).2) :=
  loop_of_fragment node accepted nonempty room nowMs (processFrames_of_frame node sendable)

/-- No answer and an empty one are the same bytes on the wire. -/
theorem flatten_answer (answer : List UInt8) :
    (if answer = [] then [] else [answer]).flatten = answer := by
  split
  · next silent => exact silent.symm
  · exact List.append_nil answer

/-- The pass that accepts a connection from the configured source. -/
theorem loop_of_connect {remoteIP : UInt32} (allowed : server.sourceAllowed remoteIP = true)
    (nowMs : UInt32) :
    server.loop node
        { connected := false, candidate := some remoteIP, available := [], nowMs := nowMs } =
      ([], { server with client := some remoteIP, rx := [] }, node) := by
  have waiting : ∀ accepted : EthernetControlServer, accepted.rx = [] →
      accepted.processFrames node = ([], accepted, node) := by
    intro accepted empty
    rw [processFrames, if_pos (by simp [empty])]
  rw [loop, acceptClient]
  simp only [Bool.and_false, Bool.false_eq_true, if_false, allowed, Bool.not_true, reduceCtorEq]
  rw [waiting _ (by simp [readAvailable])]
  simp [readAvailable]

end Fragments

end EthernetControlServer

end GridexEdge.Node
