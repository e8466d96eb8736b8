import GridexEdge.Node.OtaReplies
import GridexEdge.RockPi.OtaRequest

/-!
An update from the file of the gateway to the flash of the node.

The web server of the node is a library: what it hands over is what can be read of the
bytes that came, the content of a part cut into chunks in any way.
-/

namespace GridexEdge.Node

open Foundation

namespace EspOtaService

variable {request : HttpRequest} {passed : List UInt8} {service : EspOtaService}

end EspOtaService

end GridexEdge.Node

namespace GridexEdge.RockPi.OtaApply

open Foundation Node

/-- The content of a part, cut into chunks in any way. -/
def HandedOver (part : Http.Part) (file : FilePart) : Prop :=
  EspOtaService.received file.chunks = part.content

/-- The web server hands over a request to the update route once all of it has come. -/
def Delivered (wire : List UInt8) (peer : UInt32) (post : OtaPost) : Prop :=
  ∃ message parts, Http.readMessage wire = some message ∧ message.requestLine = route ∧
    ((Http.fieldValue contentTypeName message.fields).bind boundaryOf).bind
      (Http.readMultipart · message.body) = some parts ∧
    post.request =
      { remoteIP := peer
        shaHeader := (Http.fieldValue shaHeader message.fields).getD []
        tokenHeader := (Http.fieldValue tokenHeader message.fields).getD [] } ∧
    List.Forall₂ HandedOver parts post.parts

/-- The answer as the web server sends it; a reason phrase has letters and blanks only. -/
def Replied (answer : HttpReply) (reply : List UInt8) : Prop :=
  ∃ reason rest, (∀ byte ∈ reason, byte = 0x20 ∨ 0x41 ≤ byte) ∧ reason.length ≤ 200 ∧
    reply = asciiBytes "HTTP/1.1 ".toList ++ asciiBytes (decimal answer.status.toNat) ++ [0x20] ++
      reason ++ Http.crlf ++ rest

variable {found : Surroundings} {firmware token : List UInt8} {peer : UInt32} {post : OtaPost}

theorem statusLine_of_line {line rest : List UInt8} (solid : 0x0D ∉ line)
    (short : line.length ≤ 253) : statusLine (line ++ Http.crlf ++ rest) = line := by
  have cut : (line ++ Http.crlf ++ rest).take 255 =
      line ++ Http.crlf ++ rest.take (255 - (line ++ Http.crlf).length) := by
    rw [List.take_append, List.take_of_length_le]
    rw [List.length_append]
    exact Nat.add_le_add_right short 2
  have absent : ¬Http.crlf <:+: line := fun inside => solid (inside.subset List.mem_cons_self)
  have found : Http.cutAt Http.crlf
      (line ++ Http.crlf ++ rest.take (255 - (line ++ Http.crlf).length)) =
      some (line, rest.take (255 - (line ++ Http.crlf).length)) :=
    Http.cutAt_append (by decide) absent _
  rw [statusLine, cut, found]
  rfl

theorem accepts_line {first reason rest : List UInt8}
    (words : ∀ byte ∈ reason, byte = 0x20 ∨ 0x41 ≤ byte) (short : reason.length ≤ 200)
    (solid : 0x0D ∉ first) (brief : first.length ≤ 20) :
    accepts (first ++ reason ++ Http.crlf ++ rest) = true ↔
      asciiBytes " 200 ".toList <:+: first ++ reason := by
  have noReturn : 0x0D ∉ first ++ reason := by
    rw [List.mem_append, not_or]
    refine ⟨solid, fun member => ?_⟩
    exact absurd (words _ member) (by decide)
  have fits : (first ++ reason).length ≤ 253 := by
    rw [List.length_append]
    omega
  rw [accepts, statusLine_of_line noReturn fits, Http.isSome_cutAt (by decide)]

/-- Of the two answers of the service the program accepts the one of success. -/
theorem accepts_iff {answer : HttpReply} {reply : List UInt8}
    (status : answer.status = 200 ∨ answer.status = 422) (replied : Replied answer reply) :
    reply ≠ [] ∧ (accepts reply = true ↔ answer.status = 200) := by
  obtain ⟨reason, rest, words, short, rfl⟩ := replied
  refine ⟨by simp [Http.crlf], ?_⟩
  rcases status with success | failure
  · have first : asciiBytes "HTTP/1.1 ".toList ++ asciiBytes (decimal answer.status.toNat) ++
        [0x20] = asciiBytes "HTTP/1.1".toList ++ asciiBytes " 200 ".toList := by
      rw [success]
      decide +kernel
    rw [first, accepts_line words short (by decide) (by decide)]
    exact ⟨fun _ => success, fun _ => ⟨_, reason, rfl⟩⟩
  · have first : asciiBytes "HTTP/1.1 ".toList ++ asciiBytes (decimal answer.status.toNat) ++
        [0x20] = asciiBytes "HTTP/1.1 422 ".toList := by
      rw [failure]
      decide +kernel
    rw [first, accepts_line words short (by decide) (by decide), failure]
    refine ⟨fun inside => ?_, fun wrong => absurd wrong (by decide)⟩
    -- there is no zero in this line
    have zero : (0x30 : UInt8) ∈ asciiBytes "HTTP/1.1 422 ".toList ++ reason :=
      inside.subset (by decide)
    rcases List.mem_append.mp zero with fixed | word
    · exact absurd fixed (by decide)
    · exact absurd (words _ word) (by decide)

/-! ### End to end -/

end GridexEdge.RockPi.OtaApply
