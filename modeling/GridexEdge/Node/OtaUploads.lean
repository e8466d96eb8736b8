import GridexEdge.Node.EspOtaService

/-!
Whole files through the update endpoint. The decision of the first event reaches
the last one through four flags and a shared hash context: an image is finalised
only when it was authorized and verified, and every other update is aborted.
-/

namespace GridexEdge.Node

open Foundation

inductive FileEnding where
  | finish (digested ended : Bool)
  | aborted

def FileEnding.event : FileEnding → UploadEvent
  | .finish digested ended => .finish digested ended
  | .aborted => .aborted

/-- One uploaded file: the answers to the calls at its start, its chunks and its end. -/
structure FilePart where
  tokenHashed : Bool
  began : Bool
  hashBegan : Bool
  chunks : List Chunk
  ending : FileEnding

/-- The events that follow the start of a file. -/
def laterEvents (chunks : List Chunk) (ending : FileEnding) : List UploadEvent :=
  chunks.map .write ++ [ending.event]

def FilePart.events (part : FilePart) (request : HttpRequest) : List UploadEvent :=
  .start request part.tokenHashed part.began part.hashBegan :: laterEvents part.chunks part.ending

/-- The bytes passed to `Update.write`. -/
def passedBytes (calls : List UpdateCall) : List UInt8 :=
  calls.flatMap fun
    | .write bytes => bytes
    | _ => []

theorem passedBytes_append (first second : List UpdateCall) :
    passedBytes (first ++ second) = passedBytes first ++ passedBytes second :=
  List.flatMap_append

/-- The chunk is not empty and was written whole and hashed. -/
structure Chunk.Accepted (chunk : Chunk) : Prop where
  nonempty : chunk.bytes ≠ []
  whole : chunk.written = chunk.currentSize
  hashed : chunk.hashed = true

/-- The start came from the configured peer with the secret, every chunk was accepted,
and the passed bytes are of an admissible length and hash to the digest header. -/
structure Verified (config : EspOtaConfig) (request : HttpRequest) (part : FilePart)
    (passed : List UInt8) : Prop where
  enabled : config.enabled = true
  source : request.remoteIP = config.rockPiAddress
  token : hexDigest (sha256 request.tokenHeader) = config.tokenHash
  accepted : ∀ chunk ∈ part.chunks, chunk.Accepted
  size : 1 ≤ passed.length ∧ passed.length ≤ 3 * 1024 * 1024
  digest : hexDigest (sha256 passed) = request.shaHeader

/-- What the events of one file leave behind. -/
structure FileOutcome (config : EspOtaConfig) (request : HttpRequest) (part : FilePart)
    (after : EspOtaService) (calls : List UpdateCall) : Prop where
  verified : ∀ succeeded, .finish succeeded ∈ calls →
    Verified config request part (passedBytes calls)
  completed : .finish true ∈ calls → after.completed = true
  aborted : .finish true ∉ calls →
    after.completed = false ∧ (.begin true ∈ calls → calls.getLast? = some .abort)

inductive OtaEvent where
  | file (request : HttpRequest) (part : FilePart)
  | result (nowMs : UInt32)
  | restartCheck (nowMs : UInt32)

namespace EspOtaService

variable (service : EspOtaService)

def afterUpload (events : List UploadEvent) : EspOtaService :=
  run (fun service event => (service.handleUpload event).1) service events

def updateCalls (events : List UploadEvent) : List UpdateCall :=
  outputs (fun service event => (service.handleUpload event).1)
    (fun service event => (service.handleUpload event).2) service events

variable {service}

/-! ### Refused uploads -/

/-- No upload is accepted and no update is recorded as completed. -/
structure Refused (service : EspOtaService) : Prop where
  accepted : service.accepted = false
  completed : service.completed = false

theorem Refused.ignores (refused : service.Refused) (chunk : Chunk) :
    service.handleUpload (.write chunk) = (service, []) := by
  rw [handleUpload, refused.accepted]
  rfl

theorem Refused.ignoresEnding (refused : service.Refused) (ending : FileEnding) :
    service.handleUpload ending.event = (service, []) := by
  cases ending with
  | finish digested ended =>
      rw [FileEnding.event, handleUpload, refused.accepted]
      rfl
  | aborted =>
      rw [FileEnding.event, handleUpload, refused.accepted]
      rfl

theorem Refused.later (refused : service.Refused) (chunks : List Chunk) (ending : FileEnding) :
    service.afterUpload (laterEvents chunks ending) = service ∧
      service.updateCalls (laterEvents chunks ending) = [] := by
  induction chunks with
  | nil =>
      have ignored := refused.ignoresEnding ending
      constructor
      · exact congrArg Prod.fst ignored
      · exact (List.append_nil _).trans (congrArg Prod.snd ignored)
  | cons chunk rest inductionHypothesis =>
      have ignored := refused.ignores chunk
      rw [laterEvents, List.map_cons, List.cons_append, afterUpload, updateCalls, run_cons,
        outputs, ignored]
      exact inductionHypothesis

/-! ### Accepted uploads -/

/-- An upload in progress: everything passed to the library so far has been counted
and hashed. -/
structure Receiving (request : HttpRequest) (passed : List UInt8) (service : EspOtaService) :
    Prop where
  accepted : service.accepted = true
  completed : service.completed = false
  written : service.writtenBytes = UInt32.ofNat passed.length
  bounded : passed.length ≤ 3 * 1024 * 1024
  expected : service.expectedSha256 = request.shaHeader
  digest : validSha256 request.shaHeader = true
  started : service.hashStarted = true
  context : service.hashContext = passed

/-- The result of a handler that gave the upload up. -/
structure GivenUp (result : EspOtaService × List UpdateCall) : Prop where
  refused : result.1.Refused
  aborted : result.2.getLast? = some .abort
  unfinished : .finish true ∉ result.2

theorem currentSize_toNat (chunk : Chunk) : chunk.currentSize.toNat = chunk.bytes.length := by
  have small := chunk.addressable
  rw [Chunk.currentSize, UInt32.toNat_ofNat_of_lt' (Nat.lt_trans small (by decide))]

theorem Receiving.sum_toNat {request : HttpRequest} {passed : List UInt8}
    (receiving : Receiving request passed service) (chunk : Chunk) :
    (service.writtenBytes + chunk.currentSize).toNat = (passed ++ chunk.bytes).length := by
  have small := chunk.addressable
  have bounded := receiving.bounded
  have written : service.writtenBytes.toNat = passed.length := by
    rw [receiving.written, UInt32.toNat_ofNat_of_lt' (Nat.lt_of_le_of_lt bounded (by decide))]
  rw [UInt32.toNat_add, written, currentSize_toNat, List.length_append]
  apply Nat.mod_eq_of_lt
  omega

/-- A chunk is accepted, or the upload is given up without a finalisation. -/
theorem Receiving.write {request : HttpRequest} {passed : List UInt8}
    (receiving : Receiving request passed service) (chunk : Chunk) :
    chunk.Accepted ∧ Receiving request (passed ++ chunk.bytes) (service.handleWrite chunk).1 ∧
        (service.handleWrite chunk).2 = [.write chunk.bytes] ∨
      GivenUp (service.handleWrite chunk) ∧
        ∀ succeeded, .finish succeeded ∉ (service.handleWrite chunk).2 := by
  have sum := receiving.sum_toNat chunk
  unfold handleWrite
  split
  · right
    exact ⟨⟨⟨rfl, receiving.completed⟩, rfl, by simp⟩, by simp⟩
  · next admissible =>
      split
      · right
        exact ⟨⟨⟨rfl, receiving.completed⟩, rfl, by simp⟩, by simp⟩
      · next stored =>
          left
          simp only [Bool.or_eq_true, beq_iff_eq, decide_eq_true_eq, not_or, UInt32.not_lt,
            UInt32.le_iff_toNat_le, sum] at admissible
          simp only [Bool.or_eq_true, bne_iff_ne, Bool.not_eq_true', not_or, not_not,
            Bool.not_eq_false] at stored
          refine ⟨⟨?_, stored.1, stored.2⟩, ?_, rfl⟩
          · rintro empty
            apply admissible.1
            rw [Chunk.currentSize, empty]
            rfl
          · refine ⟨receiving.accepted, receiving.completed, ?_, admissible.2, receiving.expected,
              receiving.digest, receiving.started, ?_⟩
            · apply UInt32.toNat_inj.mp
              rw [sum, UInt32.toNat_ofNat_of_lt'
                (Nat.lt_of_le_of_lt admissible.2 (by decide))]
            · exact congrArg (· ++ chunk.bytes) receiving.context

/-- The bytes of a list of chunks. -/
def received (chunks : List Chunk) : List UInt8 := chunks.flatMap Chunk.bytes

theorem passedBytes_writes (chunks : List Chunk) :
    passedBytes (chunks.map fun chunk => .write chunk.bytes) = received chunks := by
  rw [passedBytes, received, List.flatMap_map]

/-- All chunks are accepted and the end of the file decides, or the upload is given
up at one of them. -/
theorem Receiving.later {request : HttpRequest} {passed : List UInt8}
    (receiving : Receiving request passed service) (chunks : List Chunk) (ending : FileEnding) :
    (∃ closing : EspOtaService, Receiving request (passed ++ received chunks) closing ∧
        (∀ chunk ∈ chunks, chunk.Accepted) ∧
        service.afterUpload (laterEvents chunks ending) =
          (closing.handleUpload ending.event).1 ∧
        service.updateCalls (laterEvents chunks ending) =
          (chunks.map fun chunk => .write chunk.bytes) ++
            (closing.handleUpload ending.event).2) ∨
      GivenUp (service.afterUpload (laterEvents chunks ending),
          service.updateCalls (laterEvents chunks ending)) ∧
        ∀ succeeded, .finish succeeded ∉ service.updateCalls (laterEvents chunks ending) := by
  induction chunks generalizing service passed with
  | nil =>
      left
      refine ⟨service, ?_, by simp, rfl, ?_⟩
      · rw [received, List.flatMap_nil, List.append_nil]
        exact receiving
      · exact List.append_nil _
  | cons chunk rest inductionHypothesis =>
      have handled : service.handleUpload (.write chunk) = service.handleWrite chunk := by
        rw [handleUpload, receiving.accepted]
        rfl
      have after : service.afterUpload (laterEvents (chunk :: rest) ending) =
          (service.handleWrite chunk).1.afterUpload (laterEvents rest ending) := by
        rw [← handled]
        rfl
      have calls : service.updateCalls (laterEvents (chunk :: rest) ending) =
          (service.handleWrite chunk).2 ++
            (service.handleWrite chunk).1.updateCalls (laterEvents rest ending) := by
        rw [← handled]
        rfl
      rw [after, calls]
      rcases receiving.write chunk with ⟨accepted, continued, written⟩ | ⟨givenUp, unfinished⟩
      · rw [written]
        rcases inductionHypothesis continued with
          ⟨closing, closed, others, last, lastCalls⟩ | ⟨later, unfinished⟩
        · left
          refine ⟨closing, ?_, ?_, last, ?_⟩
          · rw [received, List.flatMap_cons, ← List.append_assoc]
            exact closed
          · exact List.forall_mem_cons.mpr ⟨accepted, others⟩
          · rw [lastCalls]
            rfl
        · right
          refine ⟨⟨later.refused, ?_, ?_⟩, ?_⟩
          · exact List.mem_getLast?_append_of_mem_getLast? later.aborted
          · simpa using later.unfinished
          · simpa using unfinished
      · right
        obtain ⟨sameService, silent⟩ := givenUp.refused.later rest ending
        rw [sameService, silent, List.append_nil]
        exact ⟨givenUp, unfinished⟩

/-- A digest that equals the header is the digest of the passed bytes: a failed call
leaves the empty text, which no valid header is. -/
theorem Receiving.digest_of_equal {request : HttpRequest} {passed : List UInt8}
    (receiving : Receiving request passed service) {digested : Bool}
    (equal : (service.finishFirmwareHash digested).1 = service.expectedSha256) :
    hexDigest (sha256 passed) = request.shaHeader := by
  unfold finishFirmwareHash at equal
  rw [receiving.started, receiving.context, receiving.expected] at equal
  cases digested with
  | true => exact equal
  | false =>
      have valid := receiving.digest
      rw [← equal] at valid
      exact absurd valid (show ¬validSha256 [] = true by decide)

/-- The end of a file finalises only the image of the digest header. -/
theorem Receiving.finish {request : HttpRequest} {passed : List UInt8}
    (receiving : Receiving request passed service) (digested ended : Bool) :
    (1 ≤ passed.length ∧ hexDigest (sha256 passed) = request.shaHeader) ∧
        ((service.handleFinish digested ended).1.completed = true ∧
            (service.handleFinish digested ended).2 = [.finish true] ∨
          GivenUp (service.handleFinish digested ended) ∧
            (service.handleFinish digested ended).2 = [.finish false, .abort]) ∨
      GivenUp (service.handleFinish digested ended) ∧
        (service.handleFinish digested ended).2 = [.abort] := by
  unfold handleFinish
  dsimp only
  split
  · right
    exact ⟨⟨⟨rfl, receiving.completed⟩, rfl, by simp⟩, rfl⟩
  · next verified =>
      left
      simp only [Bool.or_eq_true, beq_iff_eq, Bool.not_eq_true', not_or, Bool.not_eq_false,
        secureEquals_iff] at verified
      refine ⟨⟨?_, receiving.digest_of_equal verified.2⟩, ?_⟩
      · apply Nat.one_le_iff_ne_zero.mpr
        intro empty
        apply verified.1
        rw [finishFirmwareHash, receiving.written, empty]
        rfl
      · split
        · exact .inr ⟨⟨⟨rfl, receiving.completed⟩, rfl, by simp⟩, rfl⟩
        · exact .inl ⟨rfl, rfl⟩

/-! ### A whole file -/

/-- A start opens an update for an authorized request, or the file is refused and a
started update aborted. -/
theorem handleStart_cases (service : EspOtaService) (request : HttpRequest)
    (tokenHashed began hashBegan : Bool) :
    service.config.requestAuthorized request tokenHashed = true ∧
        Receiving request [] (service.handleStart request tokenHashed began hashBegan).1 ∧
        (service.handleStart request tokenHashed began hashBegan).2 = [.begin true] ∨
      (service.handleStart request tokenHashed began hashBegan).1.Refused ∧
        (∀ succeeded, .finish succeeded ∉
          (service.handleStart request tokenHashed began hashBegan).2) ∧
        (.begin true ∈ (service.handleStart request tokenHashed began hashBegan).2 →
          (service.handleStart request tokenHashed began hashBegan).2.getLast? =
            some .abort) := by
  unfold handleStart
  dsimp only
  split
  · exact .inr ⟨⟨rfl, rfl⟩, by simp, by simp⟩
  · next authorized =>
      rw [Bool.not_eq_true', Bool.not_eq_false] at authorized
      split
      · exact .inr ⟨⟨rfl, rfl⟩, by simp, by simp⟩
      · split
        · exact .inr ⟨⟨rfl, rfl⟩, by simp, by simp⟩
        · have valid := (service.config.requestAuthorized_iff request tokenHashed).mp authorized
          exact .inl ⟨authorized, ⟨authorized, rfl, rfl, Nat.zero_le _, rfl, valid.2.2.2.1, rfl,
            rfl⟩, rfl⟩

theorem passedBytes_file (chunks : List Chunk) {closing : List UpdateCall}
    (nothing : passedBytes closing = []) :
    passedBytes (.begin true ::
      ((chunks.map fun chunk => .write chunk.bytes) ++ closing)) = received chunks := by
  have opened : passedBytes [.begin true] = [] := rfl
  rw [← List.singleton_append, passedBytes_append, passedBytes_append, passedBytes_writes, opened,
    nothing, List.append_nil, List.nil_append]

theorem getLast?_file (chunks : List Chunk) {closing : List UpdateCall} {call : UpdateCall}
    (last : closing.getLast? = some call) :
    (.begin true :: ((chunks.map fun chunk => .write chunk.bytes) ++ closing)).getLast? =
      some call := by
  rw [← List.cons_append]
  exact List.mem_getLast?_append_of_mem_getLast? last

/-- A file that is never finalised leaves nothing completed, and nothing started. -/
theorem fileOutcome_of_unfinished {config : EspOtaConfig} {request : HttpRequest}
    {part : FilePart} {after : EspOtaService} {calls : List UpdateCall}
    (unfinished : ∀ succeeded, .finish succeeded ∉ calls) (completed : after.completed = false)
    (aborted : .begin true ∈ calls → calls.getLast? = some .abort) :
    FileOutcome config request part after calls where
  verified := fun succeeded finished => absurd finished (unfinished succeeded)
  completed := fun finished => absurd finished (unfinished true)
  aborted := fun _ => ⟨completed, aborted⟩

/-- The end of an upload whose chunks were all accepted. -/
theorem Receiving.fileOutcome {config : EspOtaConfig} {request : HttpRequest} {part : FilePart}
    {closing : EspOtaService}
    (authorized : config.requestAuthorized request part.tokenHashed = true)
    (receiving : Receiving request (received part.chunks) closing)
    (accepted : ∀ chunk ∈ part.chunks, chunk.Accepted) :
    FileOutcome config request part (closing.handleUpload part.ending.event).1
      (.begin true :: ((part.chunks.map fun chunk => .write chunk.bytes) ++
        (closing.handleUpload part.ending.event).2)) := by
  obtain ⟨-, enabled, source, -, token⟩ :=
    (config.requestAuthorized_iff request part.tokenHashed).mp authorized
  cases part.ending with
  | aborted =>
      have handled : closing.handleUpload FileEnding.aborted.event =
          (closing.fail "upload aborted", [.abort]) := by
        rw [FileEnding.event, handleUpload, receiving.accepted]
        rfl
      rw [handled]
      exact fileOutcome_of_unfinished (by simp) receiving.completed
        fun _ => getLast?_file _ rfl
  | finish digested ended =>
      have handled : closing.handleUpload (FileEnding.finish digested ended).event =
          closing.handleFinish digested ended := by
        rw [FileEnding.event, handleUpload, receiving.accepted]
        rfl
      rw [handled]
      rcases receiving.finish digested ended with ⟨⟨nonempty, digest⟩, closed⟩ | ⟨givenUp, calls⟩
      · have verified : Verified config request part (received part.chunks) :=
          ⟨enabled, source, token, accepted, ⟨nonempty, receiving.bounded⟩, digest⟩
        rcases closed with ⟨completed, calls⟩ | ⟨givenUp, calls⟩
        · rw [calls]
          refine ⟨fun succeeded _ => ?_, fun _ => completed, fun absent => ?_⟩
          · rwa [passedBytes_file part.chunks rfl]
          · exact absurd (by simp) absent
        · rw [calls]
          refine ⟨fun succeeded _ => ?_, fun finished => ?_, fun _ => ?_⟩
          · rwa [passedBytes_file part.chunks rfl]
          · simp at finished
          · exact ⟨givenUp.refused.completed, fun _ => getLast?_file _ rfl⟩
      · rw [calls]
        exact fileOutcome_of_unfinished (by simp) givenUp.refused.completed
          fun _ => getLast?_file _ rfl

/-- Whatever came before, the events of a file end in a finalisation of a verified
image or in an aborted update. -/
theorem fileOutcome (service : EspOtaService) (request : HttpRequest) (part : FilePart) :
    FileOutcome service.config request part (service.afterUpload (part.events request))
      (service.updateCalls (part.events request)) := by
  have after : service.afterUpload (part.events request) =
      (service.handleStart request part.tokenHashed part.began part.hashBegan).1.afterUpload
        (laterEvents part.chunks part.ending) := rfl
  have calls : service.updateCalls (part.events request) =
      (service.handleStart request part.tokenHashed part.began part.hashBegan).2 ++
        (service.handleStart request part.tokenHashed part.began part.hashBegan).1.updateCalls
          (laterEvents part.chunks part.ending) := rfl
  rw [after, calls]
  rcases service.handleStart_cases request part.tokenHashed part.began part.hashBegan with
    ⟨authorized, receiving, opened⟩ | ⟨refused, unfinished, aborted⟩
  · rw [opened]
    rcases receiving.later part.chunks part.ending with
      ⟨closing, closed, accepted, last, lastCalls⟩ | ⟨givenUp, unfinished⟩
    · rw [last, lastCalls]
      exact closed.fileOutcome authorized accepted
    · apply fileOutcome_of_unfinished
      · simp [unfinished]
      · exact givenUp.refused.completed
      · exact fun _ => List.mem_getLast?_append_of_mem_getLast? givenUp.aborted
  · obtain ⟨same, silent⟩ := refused.later part.chunks part.ending
    rw [same, silent, List.append_nil]
    exact fileOutcome_of_unfinished unfinished refused.completed aborted

/-! ### Runs of the endpoint -/

theorem afterUpload_keeps (service : EspOtaService) (events : List UploadEvent) :
    (service.afterUpload events).config = service.config ∧
      (service.afterUpload events).restartPending = service.restartPending ∧
      (service.afterUpload events).restartAtMs = service.restartAtMs := by
  apply run_invariant (fun service event => (handleUpload service event).1)
    (fun reached => reached.config = service.config ∧
      reached.restartPending = service.restartPending ∧
      reached.restartAtMs = service.restartAtMs)
  · intro reached event kept
    have keeps := reached.handleUpload_keeps event
    exact ⟨keeps.1.trans kept.1, keeps.2.1.trans kept.2.1, keeps.2.2.trans kept.2.2⟩
  · exact ⟨rfl, rfl, rfl⟩

/-- A file, the end of a request or the check for a due restart. -/
def step (service : EspOtaService) : OtaEvent → EspOtaService
  | .file request part => service.afterUpload (part.events request)
  | .result nowMs => (service.handleResult nowMs).2
  | .restartCheck nowMs => service.loop nowMs

theorem step_config (service : EspOtaService) (event : OtaEvent) :
    (service.step event).config = service.config := by
  cases event with
  | file request part => exact (service.afterUpload_keeps (part.events request)).1
  | result nowMs =>
      rw [step, handleResult]
      split
      · rfl
      · rfl
  | restartCheck nowMs =>
      rw [step, loop]
      split
      · rfl
      · rfl

/-- For every sequence of files, requests and restarts, and every success or failure
of the library calls, each file finalises a verified image or leaves nothing started
or completed behind. -/
theorem update_finalised_only_if_verified (config : EspOtaConfig) (events : List OtaEvent) :
    Along step
      (fun service event => ∀ request part, event = .file request part →
        FileOutcome config request part (service.afterUpload (part.events request))
          (service.updateCalls (part.events request)))
      (boot config) events := by
  apply along_of_invariant step (fun service => service.config = config)
  · intro service event same
    exact (service.step_config event).trans same
  · rintro service event rfl request part -
    exact service.fileOutcome request part
  · rfl

end EspOtaService

end GridexEdge.Node
