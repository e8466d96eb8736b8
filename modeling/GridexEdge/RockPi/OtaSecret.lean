import GridexEdge.Node.ProvisioningLine
import GridexEdge.RockPi.OtaApply

/-!
The update secret from the serial console of the node to the request of the gateway.
The console, the command and the token file each have limits of their own; the line
buffer of the console is the shortest.
-/

namespace GridexEdge.RockPi

open Foundation Node

/-- A secret as documented: 32 to 128 printable characters without blanks. -/
structure Secret (token : List UInt8) : Prop where
  short : 32 ≤ token.length
  long : token.length ≤ 128
  printable : ∀ value ∈ token, 0x21 ≤ value ∧ value ≤ 0x7E

/-- What the operator types. -/
def otaKeyLine (token : List UInt8) : List UInt8 :=
  ProvisioningCommand.otaKeyPrefix ++ token ++ [0x0A]

/-- Every call of the libraries succeeds. -/
def workingCalls : ProvisioningCalls := { opened := true, hashed := true, stored := true }

section Secrets

variable (fromString : List UInt8 → Option UInt32) {token : List UInt8}

/-- The typed secret is stored, and the client's request with it is authorized. -/
structure EndToEnd (token : List UInt8) : Prop where
  stored : ∀ preferences : ControlPreferences,
    (preferences.typed fromString workingCalls (otaKeyLine token)).otaTokenHash =
      hexDigest (sha256 token)
  accepted : ∀ (preferences : ControlPreferences) (address : UInt32) (firmwareSize : Nat)
    (digest trailing : List UInt8), fromString preferences.rockPiIp = some address →
    address ≠ 0 → 1 ≤ firmwareSize → firmwareSize ≤ 3 * 1024 * 1024 → digest.length = 32 →
    (∀ value ∈ trailing, value = 0x20 ∨ value = 0x0A) →
    ∃ request, otaApply address firmwareSize (readToken true (token ++ trailing))
        (some (hexDigest digest)) = some request ∧
      request.tokenHeader = token ∧
      (loadOtaConfig fromString
        (preferences.typed fromString workingCalls (otaKeyLine token))).requestAuthorized
          request true = true

/-- A printable character ends no line and is trimmed by neither side. -/
theorem printable_solid {value : UInt8} (printable : 0x21 ≤ value) :
    lineEnd value = false ∧ isSpace value = false ∧ tokenBlank value = false := by
  have differs : ∀ other : UInt8, other < 0x21 → (value == other) = false := by
    intro other low
    rw [beq_eq_false_iff_ne]
    rintro rfl
    exact absurd printable (UInt8.not_le.mpr low)
  have high : decide (value ≤ 0x0D) = false := by
    rw [decide_eq_false_iff_not, UInt8.not_le]
    exact UInt8.lt_of_lt_of_le (by decide) printable
  refine ⟨?_, ?_, ?_⟩
  · rw [lineEnd, differs _ (by decide), differs _ (by decide)]
    rfl
  · rw [isSpace, differs _ (by decide), high, Bool.and_false]
    rfl
  · rw [tokenBlank, differs _ (by decide), differs _ (by decide), differs _ (by decide),
      differs _ (by decide)]
    rfl

theorem Secret.nonempty (secret : Secret token) : token ≠ [] := by
  rintro rfl
  exact absurd secret.short (by decide)

theorem Secret.inner (secret : Secret token) :
    ∀ value ∈ ProvisioningCommand.otaKeyPrefix ++ token, lineEnd value = false := by
  have opening : ProvisioningCommand.otaKeyPrefix.all (fun value => !lineEnd value) = true := rfl
  intro value member
  rcases List.mem_append.mp member with early | late
  · simpa using List.all_eq_true.mp opening value early
  · exact (printable_solid (secret.printable value late).1).1

theorem Secret.completed (secret : Secret token) :
    ProvisioningLine.fresh.completedLines (otaKeyLine token) =
      if token.length ≤ 72 then [ProvisioningCommand.otaKeyPrefix ++ token] else [] := by
  have length : (ProvisioningCommand.otaKeyPrefix ++ token).length = 8 + token.length := by
    rw [List.length_append]
    rfl
  rw [otaKeyLine, ProvisioningLine.completedLines_typed secret.inner, length]
  by_cases fits : token.length ≤ 72
  · rw [if_pos fits, if_pos]
    exact ⟨by simp [secret.nonempty], by omega⟩
  · rw [if_neg fits, if_neg]
    omega

theorem Secret.command (secret : Secret token) :
    ProvisioningCommand.ofLine (ProvisioningCommand.otaKeyPrefix ++ token) = .otaKey token := by
  have opening : ProvisioningCommand.otaKeyPrefix.all (fun value => value != 0) = true := rfl
  have nonzero : ∀ value ∈ ProvisioningCommand.otaKeyPrefix ++ token, (value != 0) = true := by
    intro value member
    rcases List.mem_append.mp member with early | late
    · exact List.all_eq_true.mp opening value early
    · rw [bne_iff_ne]
      rintro rfl
      exact absurd (secret.printable 0 late).1 (by decide)
  have line : trim isSpace ((ProvisioningCommand.otaKeyPrefix ++ token).takeWhile (· != 0)) =
      ProvisioningCommand.otaKeyPrefix ++ token := by
    rw [List.takeWhile_eq_self_iff.mpr nonzero]
    have whole := @trim_append isSpace (ProvisioningCommand.otaKeyPrefix ++ token) []
      (by simp [secret.nonempty]) rfl ?_ (by simp)
    · rwa [List.append_nil] at whole
    · rw [List.getLast_append_of_ne_nil _ secret.nonempty]
      exact (printable_solid (secret.printable _ (List.getLast_mem _)).1).2.1
  rw [ProvisioningCommand.ofLine, line]
  rfl

theorem Secret.typed (secret : Secret token) (preferences : ControlPreferences) :
    preferences.typed fromString workingCalls (otaKeyLine token) =
      if token.length ≤ 72 then { preferences with otaTokenHash := hexDigest (sha256 token) }
      else preferences := by
  rw [ControlPreferences.typed, secret.completed]
  split
  · have admissible : ¬(token.length < 32 ∨ 128 < token.length) := by
      have short := secret.short
      have long := secret.long
      omega
    have digested : (hexDigest (sha256 token) == []) = false := by
      rw [beq_eq_false_iff_ne]
      intro empty
      have length := length_hexDigest (sha256 token)
      rw [empty, length_sha256] at length
      exact absurd length (by decide)
    rw [List.foldl_cons, List.foldl_nil, secret.command, ControlPreferences.execute,
      if_neg admissible, sha256Hex, workingCalls, if_pos rfl]
    dsimp only
    rw [digested]
    rfl
  · rfl

/-- A secret works end to end exactly if it fits the line behind the command. -/
theorem secret_end_to_end_iff (secret : Secret token) :
    EndToEnd fromString token ↔ token.length ≤ 72 := by
  constructor
  · intro works
    by_contra long
    have stored := works.stored {}
    rw [secret.typed, if_neg long] at stored
    have length := length_hexDigest (sha256 token)
    rw [← stored, length_sha256] at length
    exact absurd length (by decide)
  · intro fits
    refine ⟨fun preferences => ?_, ?_⟩
    · rw [secret.typed, if_pos fits]
    · intro preferences address firmwareSize digest trailing known assigned nonempty bounded
        length blanks
      have read : readToken true (token ++ trailing) = some token := by
        apply readToken_of_solid secret.short secret.long
        · exact fun value member => (printable_solid (secret.printable value member).1).2.2
        · intro value member
          rcases blanks value member with rfl | rfl
          · rfl
          · rfl
      have sized : ¬(firmwareSize = 0 ∨ 3 * 1024 * 1024 < firmwareSize) := by omega
      rw [read, otaApply, if_neg sized]
      refine ⟨_, rfl, rfl, ?_⟩
      rw [EspOtaConfig.requestAuthorized_iff, secret.typed, if_pos fits]
      have config : (loadOtaConfig fromString
          { preferences with otaTokenHash := hexDigest (sha256 token) }).rockPiAddress =
            address := by
        rw [loadOtaConfig]
        dsimp only
        rw [known]
        rfl
      refine ⟨rfl, ?_, config.symm, validSha256_hexDigest length, rfl⟩
      rw [EspOtaConfig.enabled, config, Bool.and_eq_true, bne_iff_ne]
      exact ⟨assigned, validSha256_hexDigest (length_sha256 token)⟩

/-- A secret of 72 characters is the longest that works. -/
theorem secret_end_to_end_longest :
    EndToEnd (fun _ => some 0x0100A8C0) (List.replicate 72 0x61) := by
  have secret : Secret (List.replicate 72 0x61) := by
    refine ⟨by decide, by decide, fun value member => ?_⟩
    rw [List.eq_of_mem_replicate member]
    decide
  exact (secret_end_to_end_iff _ secret).mpr (by decide)

/-- A documented secret of 73 characters is discarded by the console. -/
theorem secret_of_73_discarded :
    Secret (List.replicate 73 0x61) ∧
      ¬EndToEnd (fun _ => some 0x0100A8C0) (List.replicate 73 0x61) := by
  have discarded : (ControlPreferences.typed (fun _ => some 0x0100A8C0) {} workingCalls
      (otaKeyLine (List.replicate 73 0x61))).otaTokenHash = [] := by decide +kernel
  refine ⟨⟨by decide, by decide, fun value member => ?_⟩, fun works => ?_⟩
  · rw [List.eq_of_mem_replicate member]
    decide
  · have stored := (works.stored {}).symm.trans discarded
    have length := congrArg List.length stored
    rw [length_hexDigest, length_sha256] at length
    exact absurd length (by decide)

end Secrets

end GridexEdge.RockPi
