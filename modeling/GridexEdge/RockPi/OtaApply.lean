import GridexEdge.Node.EspOtaService

/-!
The update client of the gateway: the secret from an owner-only file, and the
request it sends.
-/

namespace GridexEdge.RockPi

open Foundation

def tokenBlank (value : UInt8) : Bool :=
  value == 0x20 || value == 0x09 || value == 0x0D || value == 0x0A

/-- The first line of the file, if only its owner may read it. -/
def readToken (ownerOnly : Bool) (contents : List UInt8) : Option (List UInt8) :=
  if !ownerOnly then none
  else
    let token := trim tokenBlank (contents.takeWhile (· != 0x0A))
    if token.length < 32 ∨ 128 < token.length then none else some token

/-- The request for a firmware file of a size and digest, as its headers arrive: the
server delivers a value without blanks around it as it was sent. -/
def otaApply (localAddress : UInt32) (firmwareSize : Nat) (token digest : Option (List UInt8)) :
    Option Node.HttpRequest :=
  if firmwareSize = 0 ∨ 3 * 1024 * 1024 < firmwareSize then none
  else
    match token, digest with
    | some token, some digest =>
        some { remoteIP := localAddress, shaHeader := digest, tokenHeader := token }
    | _, _ => none

/-- A secret of an admissible length is read back whatever blanks follow it. -/
theorem readToken_of_solid {token trailing : List UInt8} (short : 32 ≤ token.length)
    (long : token.length ≤ 128) (solid : ∀ value ∈ token, tokenBlank value = false)
    (blanks : ∀ value ∈ trailing, tokenBlank value = true) :
    readToken true (token ++ trailing) = some token := by
  have nonempty : token ≠ [] := by
    rintro rfl
    exact absurd short (by decide)
  have inLine : ∀ value ∈ token, (value != 0x0A) = true := by
    intro value member
    rw [bne_iff_ne]
    rintro rfl
    exact absurd (solid _ member) (by decide)
  have line : (token ++ trailing).takeWhile (· != 0x0A) =
      token ++ trailing.takeWhile (· != 0x0A) := by
    rw [List.takeWhile_append, if_pos]
    rw [List.takeWhile_eq_self_iff.mpr inLine]
  have trimmed : trim tokenBlank (token ++ trailing.takeWhile (· != 0x0A)) = token := by
    apply trim_append nonempty
    · exact solid _ (List.head_mem nonempty)
    · exact solid _ (List.getLast_mem nonempty)
    · intro value member
      exact blanks value ((List.takeWhile_sublist _).subset member)
  unfold readToken
  dsimp only
  rw [line, trimmed, if_neg (by decide), if_neg]
  omega

end GridexEdge.RockPi
