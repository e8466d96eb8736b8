import GridexEdge.Node.OtaUploads

/-!
Requests to the update endpoint and their answers. An answer reads only the flag
that the last file left behind, so a request without a file is answered for the
file of an earlier one.
-/

namespace GridexEdge.Node

open Foundation

/-- One request: its files, and the clock at its answer. -/
structure OtaPost where
  request : HttpRequest
  parts : List FilePart
  nowMs : UInt32

inductive ServerEvent where
  | post (post : OtaPost)
  | restartCheck (nowMs : UInt32)

namespace EspOtaService

variable (service : EspOtaService)

def afterParts (request : HttpRequest) (parts : List FilePart) : EspOtaService :=
  run (fun service part => service.afterUpload (part.events request)) service parts

def answer (post : OtaPost) : HttpReply × EspOtaService :=
  (service.afterParts post.request post.parts).handleResult post.nowMs

def serve : ServerEvent → EspOtaService
  | .post post => (service.answer post).2
  | .restartCheck nowMs => service.loop nowMs

/-- The last file of the request finalised a verified image. A file after that one
would have failed or replaced the image. -/
def Deserved (post : OtaPost) : Prop :=
  ∃ earlier last, post.parts = earlier ++ [last] ∧
    UpdateCall.finish true ∈
      (service.afterParts post.request earlier).updateCalls (last.events post.request) ∧
    Verified service.config post.request last (passedBytes
      ((service.afterParts post.request earlier).updateCalls (last.events post.request)))

/-- The answer to a request tells its effect: a success behind a finalised image of
its own, with a restart, and else no success and the restart as it was. -/
structure Agrees (post : OtaPost) : Prop where
  status : (service.answer post).1.status = 200 ↔ service.Deserved post
  scheduled : (service.answer post).1.status = 200 →
    (service.answer post).2.restartPending = true ∧
      (service.answer post).2.restartAtMs = post.nowMs + 250
  untouched : (service.answer post).1.status ≠ 200 →
    (service.answer post).2.restartPending = service.restartPending ∧
      (service.answer post).2.restartAtMs = service.restartAtMs

/-- The request has a file, or no update is recorded as completed before it. -/
def Unmistakable (post : OtaPost) : Prop := post.parts ≠ [] ∨ service.completed = false

theorem afterParts_keeps (request : HttpRequest) (parts : List FilePart) :
    (service.afterParts request parts).config = service.config ∧
      (service.afterParts request parts).restartPending = service.restartPending ∧
      (service.afterParts request parts).restartAtMs = service.restartAtMs := by
  apply run_invariant (fun (service : EspOtaService) (part : FilePart) =>
      service.afterUpload (part.events request))
    (fun reached => reached.config = service.config ∧
      reached.restartPending = service.restartPending ∧
      reached.restartAtMs = service.restartAtMs)
  · intro reached part kept
    have keeps := reached.afterUpload_keeps (part.events request)
    exact ⟨keeps.1.trans kept.1, keeps.2.1.trans kept.2.1, keeps.2.2.trans kept.2.2⟩
  · exact ⟨rfl, rfl, rfl⟩

theorem handleResult_status (nowMs : UInt32) :
    (service.handleResult nowMs).1.status = 200 ↔ service.completed = true := by
  rw [handleResult]
  cases service.completed with
  | false =>
      have unprocessable : ¬((422 : UInt16) = 200) := by decide
      exact ⟨fun wrong => absurd wrong unprocessable, fun wrong => absurd wrong Bool.false_ne_true⟩
  | true => exact ⟨fun _ => rfl, fun _ => rfl⟩

theorem handleResult_success {nowMs : UInt32}
    (success : (service.handleResult nowMs).1.status = 200) :
    (service.handleResult nowMs).2.restartPending = true ∧
      (service.handleResult nowMs).2.restartAtMs = nowMs + 250 := by
  rw [handleResult_status] at success
  rw [handleResult, success]
  exact ⟨rfl, rfl⟩

theorem handleResult_failure {nowMs : UInt32}
    (failure : (service.handleResult nowMs).1.status ≠ 200) :
    (service.handleResult nowMs).2 = service := by
  rw [ne_eq, handleResult_status, Bool.not_eq_true] at failure
  rw [handleResult, failure]
  rfl

/-- The flag after a request with files is the one its last file left. -/
theorem completed_iff_deserved {post : OtaPost} (nonempty : post.parts ≠ []) :
    (service.afterParts post.request post.parts).completed = true ↔ service.Deserved post := by
  obtain ⟨earlier, last, parts⟩ := (List.eq_nil_or_concat post.parts).resolve_left nonempty
  rw [List.concat_eq_append] at parts
  let before := service.afterParts post.request earlier
  have outcome := before.fileOutcome post.request last
  have sameConfig : before.config = service.config :=
    (service.afterParts_keeps post.request earlier).1
  have after : service.afterParts post.request post.parts =
      before.afterUpload (last.events post.request) := by
    rw [parts, afterParts, run_append]
    rfl
  rw [after]
  constructor
  · intro completed
    have finished : .finish true ∈ before.updateCalls (last.events post.request) := by
      by_contra absent
      rw [(outcome.aborted absent).1] at completed
      exact absurd completed Bool.false_ne_true
    refine ⟨earlier, last, parts, finished, ?_⟩
    rw [← sameConfig]
    exact outcome.verified true finished
  · rintro ⟨others, final, sameParts, finished, -⟩
    obtain ⟨rfl, sameLast⟩ := List.append_inj' (parts.symm.trans sameParts) rfl
    obtain rfl := List.singleton_inj.mp sameLast
    exact outcome.completed finished

theorem agrees_iff (post : OtaPost) : service.Agrees post ↔ service.Unmistakable post := by
  have keeps := service.afterParts_keeps post.request post.parts
  have schedule : ∀ success : (service.answer post).1.status = 200,
      (service.answer post).2.restartPending = true ∧
        (service.answer post).2.restartAtMs = post.nowMs + 250 :=
    fun success => handleResult_success _ success
  have unscheduled : (service.answer post).1.status ≠ 200 →
      (service.answer post).2.restartPending = service.restartPending ∧
        (service.answer post).2.restartAtMs = service.restartAtMs := by
    intro failure
    rw [answer, handleResult_failure _ failure]
    exact keeps.2
  have status : (service.answer post).1.status = 200 ↔
      (service.afterParts post.request post.parts).completed = true :=
    handleResult_status _ post.nowMs
  by_cases empty : post.parts = []
  · have undeserved : ¬service.Deserved post := by
      rintro ⟨earlier, last, parts, -⟩
      rw [empty] at parts
      exact absurd parts.symm (by simp)
    have same : service.afterParts post.request post.parts = service := by
      rw [empty]
      rfl
    rw [same] at status
    constructor
    · intro agrees
      right
      rw [← Bool.not_eq_true, ← status, agrees.status]
      exact undeserved
    · rintro (nonempty | fresh)
      · exact absurd empty nonempty
      · refine ⟨?_, schedule, unscheduled⟩
        rw [status, fresh]
        exact ⟨fun wrong => absurd wrong Bool.false_ne_true, fun right => absurd right undeserved⟩
  · refine ⟨fun _ => .inl empty, fun _ => ⟨?_, schedule, unscheduled⟩⟩
    rw [status]
    exact service.completed_iff_deserved empty

/-- Along a run the answers agree with the effects exactly as long as no request
without a file meets the flag of an earlier one. -/
theorem answers_agree_iff (config : EspOtaConfig) (events : List ServerEvent) :
    Along serve (fun service event => ∀ post, event = .post post → service.Agrees post)
        (boot config) events ↔
      Along serve (fun service event => ∀ post, event = .post post → service.Unmistakable post)
        (boot config) events := by
  apply along_congr serve (fun _ => True)
  · intro service event _
    exact forall_congr' fun post => imp_congr_right fun _ => service.agrees_iff post
  · exact fun _ _ _ _ => trivial
  · trivial

/-! ### A request without a file -/

def pilotToken : List UInt8 := List.replicate 32 0x61

def pilotConfig : EspOtaConfig where
  rockPiAddress := 0x0100A8C0
  tokenHash := hexDigest (sha256 pilotToken)

/-- A verified update of one byte. -/
def pilotUpdate : OtaPost where
  request :=
    { remoteIP := 0x0100A8C0
      shaHeader := hexDigest (sha256 [0xE9])
      tokenHeader := pilotToken }
  parts :=
    [{ tokenHashed := true
       began := true
       hashBegan := true
       chunks := [{ bytes := [0xE9], addressable := by decide, written := 1, hashed := true }]
       ending := .finish true true }]
  nowMs := 1000

/-- A request of another peer, without headers or files. -/
def strayPost : OtaPost where
  request := { remoteIP := 0x0200A8C0, shaHeader := [], tokenHeader := [] }
  parts := []
  nowMs := 1100

theorem stray_post_postpones_restart :
    ¬Along serve (fun service event => ∀ post, event = .post post → service.Agrees post)
      (boot pilotConfig) [.post pilotUpdate, .post strayPost] := by
  intro agree
  have unmistakable := (agrees_iff _ strayPost).mp (agree.2.1 strayPost rfl)
  have completed : ((boot pilotConfig).serve (.post pilotUpdate)).completed = true := by
    decide +kernel
  rcases unmistakable with files | fresh
  · exact files rfl
  · rw [completed] at fresh
    exact absurd fresh (by decide)

end EspOtaService

end GridexEdge.Node
