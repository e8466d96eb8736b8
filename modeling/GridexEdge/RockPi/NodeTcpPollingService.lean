import GridexEdge.Foundation.Rounding
import GridexEdge.RockPi.PosixModbusTcpClient

/-!
The gateway's access to its nodes: one client for each configured endpoint, and
the power command sent to one of them.
-/

namespace GridexEdge.RockPi

open Foundation

structure NodeTcpPollingService (World : Type) where
  clients : List (PosixModbusTcpClient World)

namespace NodeTcpPollingService

def commandStart : UInt16 := 0x0014

section Operations

variable {World : Type} (network : Network World) (service : NodeTcpPollingService World)

/-- Exact rationals are always finite, so the finiteness test has no branch. -/
def applyPowerCommand (slot : Nat) (requestedPowerKw : ℚ) (enabled : Bool)
    (sequence ttlSeconds : UInt16) : Bool × NodeTcpPollingService World :=
  match service.clients[slot]? with
  | none => (false, service)
  | some client =>
      if requestedPowerKw < -32768 / 10 ∨ 32767 / 10 < requestedPowerKw ∨ ttlSeconds < 1 ∨
          30 < ttlSeconds then (false, service)
      else
        let raw := unsigned (roundHalfAway (requestedPowerKw * 10))
        let written := client.writeHoldingRange network commandStart
          [sequence, raw, if enabled then 1 else 0, ttlSeconds]
        (written.1, { service with clients := service.clients.set slot written.2 })

end Operations

variable {World : Type} {network : Network World} {service : NodeTcpPollingService World}

/-- A power on the register's grid is sent as that register value. -/
theorem applyPowerCommand_of_grid {slot : Nat} {client : PosixModbusTcpClient World}
    (configured : service.clients[slot]? = some client) (powerKwX10 : Int16) (enabled : Bool)
    (sequence : UInt16) {ttlSeconds : UInt16} (ttlValid : 1 ≤ ttlSeconds ∧ ttlSeconds ≤ 30) :
    service.applyPowerCommand network slot (powerKwX10.toInt / 10) enabled sequence ttlSeconds =
      let written := client.writeHoldingRange network commandStart
        [sequence, powerKwX10.toUInt16, if enabled then 1 else 0, ttlSeconds]
      (written.1, { service with clients := service.clients.set slot written.2 }) := by
  have low : (-32768 : ℚ) ≤ powerKwX10.toInt := by exact_mod_cast powerKwX10.le_toInt
  have high : (powerKwX10.toInt : ℚ) ≤ 32767 := by
    have strict := powerKwX10.toInt_lt
    exact_mod_cast (by omega : powerKwX10.toInt ≤ 32767)
  have raw : unsigned (roundHalfAway ((powerKwX10.toInt : ℚ) / 10 * 10)) =
      powerKwX10.toUInt16 := by
    rw [div_mul_cancel₀ _ (by norm_num), roundHalfAway_intCast, unsigned, Int16.ofInt_toInt]
  have accepted : ¬((powerKwX10.toInt : ℚ) / 10 < -32768 / 10 ∨
      32767 / 10 < (powerKwX10.toInt : ℚ) / 10 ∨ ttlSeconds < 1 ∨ 30 < ttlSeconds) := by
    rintro (below | above | short | long)
    · linarith
    · linarith
    · exact absurd ttlValid.1 (UInt16.not_le.mpr short)
    · exact absurd ttlValid.2 (UInt16.not_le.mpr long)
  rw [applyPowerCommand, configured]
  dsimp only
  rw [if_neg accepted, raw]

end NodeTcpPollingService

end GridexEdge.RockPi
