import GridexEdge.Foundation.Runs
import GridexEdge.Foundation.Sha256

/-!
The firmware update endpoint of the node. The web server delivers the parts of an
upload one by one, and the service carries the decision made at the first of them
through the later ones.

What the calls of the update library and of the hash library answer comes with the
event; a call that answers well does what its documentation says.
-/

namespace GridexEdge.Node

open Foundation

structure EspOtaConfig where
  rockPiAddress : UInt32 := 0
  tokenHash : List UInt8 := []

/-- The peer of a request and its two collected headers, empty when absent. -/
structure HttpRequest where
  remoteIP : UInt32
  shaHeader : List UInt8
  tokenHeader : List UInt8

def kMaxFirmwareBytes : UInt32 := 3 * 1024 * 1024

/-! ### Authorization -/

def validSha256 (value : List UInt8) : Bool :=
  value.length == 64 && value.all fun character =>
    (0x30 ≤ character && character ≤ 0x39) || (0x61 ≤ character && character ≤ 0x66) ||
      (0x41 ≤ character && character ≤ 0x46)

/-- The differences of all positions are gathered before the answer. -/
def secureEquals (left right : List UInt8) : Bool :=
  left.length == right.length &&
    (left.zip right).foldl (fun difference pair => difference ||| (pair.1 ^^^ pair.2)) 0 == 0

/-- The digest of a header value, or nothing when a call of the hash library failed. -/
def sha256Hex (complete : Bool) (value : List UInt8) : List UInt8 :=
  if complete then hexDigest (sha256 value) else []

namespace EspOtaConfig

variable (config : EspOtaConfig)

def enabled : Bool := config.rockPiAddress != 0 && validSha256 config.tokenHash

def sourceAllowed (request : HttpRequest) : Bool :=
  config.enabled && request.remoteIP == config.rockPiAddress

def requestAuthorized (request : HttpRequest) (hashed : Bool) : Bool :=
  config.sourceAllowed request && validSha256 request.shaHeader &&
    secureEquals (sha256Hex hashed request.tokenHeader) config.tokenHash

end EspOtaConfig

theorem foldl_or_eq_zero (pairs : List (UInt8 × UInt8)) (difference : UInt8) :
    pairs.foldl (fun difference pair => difference ||| (pair.1 ^^^ pair.2)) difference = 0 ↔
      difference = 0 ∧ ∀ pair ∈ pairs, pair.1 = pair.2 := by
  induction pairs generalizing difference with
  | nil => simp
  | cons pair rest inductionHypothesis =>
      rw [List.foldl_cons, inductionHypothesis, UInt8.or_eq_zero_iff, UInt8.xor_eq_zero_iff,
        List.forall_mem_cons, and_assoc]

theorem secureEquals_iff (left right : List UInt8) :
    secureEquals left right = true ↔ left = right := by
  rw [secureEquals, Bool.and_eq_true, beq_iff_eq, beq_iff_eq, foldl_or_eq_zero]
  constructor
  · rintro ⟨sameLength, -, samePairs⟩
    apply List.ext_getElem sameLength
    intro index inside bounded
    apply samePairs (left[index], right[index])
    rw [List.mem_iff_getElem]
    refine ⟨index, ?_, List.getElem_zip⟩
    rw [List.length_zip]
    exact Nat.lt_min.mpr ⟨inside, bounded⟩
  · rintro rfl
    refine ⟨rfl, rfl, fun pair member => ?_⟩
    obtain ⟨index, inside, rfl⟩ := List.mem_iff_getElem.mp member
    simp

theorem validSha256_hexDigest {digest : List UInt8} (length : digest.length = 32) :
    validSha256 (hexDigest digest) = true := by
  rw [validSha256, Bool.and_eq_true, beq_iff_eq, length_hexDigest, length, List.all_eq_true]
  refine ⟨rfl, fun character member => ?_⟩
  simp only [Bool.or_eq_true, Bool.and_eq_true, decide_eq_true_eq]
  exact .inl (mem_hexDigest member)

/-- A failed call of the hash library authorizes nothing, since no verifier is empty. -/
theorem EspOtaConfig.requestAuthorized_iff (config : EspOtaConfig) (request : HttpRequest)
    (hashed : Bool) :
    config.requestAuthorized request hashed = true ↔
      hashed = true ∧ config.enabled = true ∧ request.remoteIP = config.rockPiAddress ∧
        validSha256 request.shaHeader = true ∧
          hexDigest (sha256 request.tokenHeader) = config.tokenHash := by
  rw [requestAuthorized, sourceAllowed, Bool.and_eq_true, Bool.and_eq_true, Bool.and_eq_true,
    beq_iff_eq, secureEquals_iff, sha256Hex]
  cases hashed with
  | true =>
      rw [if_pos rfl]
      simp only [true_and, and_assoc]
  | false =>
      rw [if_neg Bool.false_ne_true]
      constructor
      · rintro ⟨⟨⟨enabled, -⟩, -⟩, empty⟩
        rw [EspOtaConfig.enabled, ← empty, Bool.and_eq_true] at enabled
        exact absurd enabled.2 (by decide)
      · rintro ⟨wrong, -⟩
        exact absurd wrong Bool.false_ne_true

/-! ### Events -/

/-- A chunk of a file as the server holds it, with the number of bytes the update
library answers to have written and the success of the hash library. Any chunk fits
the memory of the node, which is far below half of its address space. -/
structure Chunk where
  bytes : List UInt8
  addressable : bytes.length < 0x80000000
  written : UInt32
  hashed : Bool

def Chunk.currentSize (chunk : Chunk) : UInt32 := UInt32.ofNat chunk.bytes.length

inductive UploadEvent where
  | start (request : HttpRequest) (tokenHashed began hashBegan : Bool)
  | write (chunk : Chunk)
  | finish (digested ended : Bool)
  | aborted

/-- The calls of the update library: `Update.begin`, `write`, `end(true)`, `abort`. -/
inductive UpdateCall where
  | begin (succeeded : Bool)
  | write (bytes : List UInt8)
  | finish (succeeded : Bool)
  | abort
  deriving DecidableEq

structure HttpReply where
  status : UInt16
  text : String
  deriving DecidableEq

/-! ### The service -/

/-- The hash context and its flag are shared by all uploads. -/
structure EspOtaService where
  config : EspOtaConfig
  accepted : Bool := false
  completed : Bool := false
  restartPending : Bool := false
  restartAtMs : UInt32 := 0
  rejectedRequests : UInt32 := 0
  writtenBytes : UInt32 := 0
  expectedSha256 : List UInt8 := []
  failureReason : String := "not started"
  hashContext : List UInt8 := []
  hashStarted : Bool := false

namespace EspOtaService

variable (service : EspOtaService)

/-- A failure, which ends the acceptance of the upload. -/
def fail (reason : String) : EspOtaService :=
  { service with
    accepted := false
    failureReason := reason
    rejectedRequests := service.rejectedRequests + 1 }

def handleStart (request : HttpRequest) (tokenHashed began hashBegan : Bool) :
    EspOtaService × List UpdateCall :=
  let accepted := service.config.requestAuthorized request tokenHashed
  let opened : EspOtaService :=
    { service with
      accepted := accepted
      completed := false
      failureReason := "upload incomplete"
      writtenBytes := 0
      expectedSha256 := request.shaHeader }
  if !accepted then (opened.fail "authorization", [])
  else if !began then (opened.fail "flash initialization", [.begin false])
  else if !hashBegan then
    ({ opened with hashContext := [] }.fail "hash initialization", [.begin true, .abort])
  else ({ opened with hashContext := [], hashStarted := true }, [.begin true])

/-- The size is checked before the write, the hash only updated after it. -/
def handleWrite (chunk : Chunk) : EspOtaService × List UpdateCall :=
  if chunk.currentSize == 0 ||
      decide (kMaxFirmwareBytes < service.writtenBytes + chunk.currentSize) then
    (service.fail "chunk write or size", [.abort])
  else if chunk.written != chunk.currentSize || !chunk.hashed then
    (service.fail "chunk write or size", [.write chunk.bytes, .abort])
  else
    ({ service with
        hashContext := service.hashContext ++ chunk.bytes
        writtenBytes := service.writtenBytes + chunk.currentSize },
      [.write chunk.bytes])

/-- The digest of what was hashed, or nothing; the context is released either way. -/
def finishFirmwareHash (digested : Bool) : List UInt8 × EspOtaService :=
  (if !service.hashStarted || !digested then [] else hexDigest (sha256 service.hashContext),
    { service with hashStarted := false })

def handleFinish (digested ended : Bool) : EspOtaService × List UpdateCall :=
  let finished := service.finishFirmwareHash digested
  if finished.2.writtenBytes == 0 || !secureEquals finished.1 finished.2.expectedSha256 then
    (finished.2.fail "integrity or flash finalization", [.abort])
  else if !ended then
    (finished.2.fail "integrity or flash finalization", [.finish false, .abort])
  else ({ finished.2 with completed := true }, [.finish true])

def handleUpload : UploadEvent → EspOtaService × List UpdateCall
  | .start request tokenHashed began hashBegan =>
      service.handleStart request tokenHashed began hashBegan
  | .write chunk => if !service.accepted then (service, []) else service.handleWrite chunk
  | .finish digested ended =>
      if !service.accepted then (service, []) else service.handleFinish digested ended
  | .aborted =>
      if !service.accepted then (service, []) else (service.fail "upload aborted", [.abort])

/-- The answer to a request after its files, with a restart behind a success. -/
def handleResult (nowMs : UInt32) : HttpReply × EspOtaService :=
  if !service.completed then ({ status := 422, text := service.failureReason }, service)
  else
    ({ status := 200, text := "OTA accepted; restarting" },
      { service with
        restartPending := true
        restartAtMs := nowMs + 250 })

/-- The service after a start of the node. -/
def boot (config : EspOtaConfig) : EspOtaService := { config := config }

/-- The difference is a signed one, so the check survives the wrap of the clock. -/
def restartDue (nowMs : UInt32) : Bool :=
  service.restartPending && decide (0 ≤ (nowMs - service.restartAtMs).toInt32)

def loop (nowMs : UInt32) : EspOtaService :=
  if service.restartDue nowMs then boot service.config else service

/-- No upload changes the configuration or the pending restart. -/
theorem handleUpload_keeps (event : UploadEvent) :
    (service.handleUpload event).1.config = service.config ∧
      (service.handleUpload event).1.restartPending = service.restartPending ∧
      (service.handleUpload event).1.restartAtMs = service.restartAtMs := by
  cases event with
  | start request tokenHashed began hashBegan =>
      rw [handleUpload, handleStart]
      dsimp only
      split
      · exact ⟨rfl, rfl, rfl⟩
      · split
        · exact ⟨rfl, rfl, rfl⟩
        · split
          · exact ⟨rfl, rfl, rfl⟩
          · exact ⟨rfl, rfl, rfl⟩
  | write chunk =>
      rw [handleUpload, handleWrite]
      split
      · exact ⟨rfl, rfl, rfl⟩
      · split
        · exact ⟨rfl, rfl, rfl⟩
        · split
          · exact ⟨rfl, rfl, rfl⟩
          · exact ⟨rfl, rfl, rfl⟩
  | finish digested ended =>
      rw [handleUpload, handleFinish]
      dsimp only
      split
      · exact ⟨rfl, rfl, rfl⟩
      · split
        · exact ⟨rfl, rfl, rfl⟩
        · split
          · exact ⟨rfl, rfl, rfl⟩
          · exact ⟨rfl, rfl, rfl⟩
  | aborted =>
      rw [handleUpload]
      split
      · exact ⟨rfl, rfl, rfl⟩
      · exact ⟨rfl, rfl, rfl⟩

end EspOtaService

end GridexEdge.Node
