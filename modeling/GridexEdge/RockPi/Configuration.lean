import GridexEdge.Foundation.Cutting
import GridexEdge.Foundation.JsonNumbers
import GridexEdge.Node.ProvisioningLine

/-!
The endpoints of the nodes from the environment of the gateway.

The list is cut at its commas, and an item that is no endpoint is left out. What is left
has the order of the list, and the place of an endpoint there is its slot.
-/

namespace GridexEdge.RockPi

open Foundation

/-! ### Numbers -/

/-- A number at the start of a text: blanks, a sign, digits. What follows is not looked at. -/
def scanDecimal (text : List UInt8) : Option Int :=
  let text := text.dropWhile Node.isSpace
  let negative := text.head? == some 0x2D
  let text := if negative || text.head? == some 0x2B then text.tail else text
  let digits := text.takeWhile Json.isDigit
  if digits = [] then none
  else some (if negative then -(Json.digitsValue digits : Int) else Json.digitsValue digits)

/-- A number that does not fit its type is refused like a text without one. -/
def stoi (text : List UInt8) : Option Int :=
  (scanDecimal text).filter fun value => -2147483648 ≤ value ∧ value ≤ 2147483647

/-- A digit is no blank, no sign and no separator. -/
theorem apart_of_isDigit {byte : UInt8} (digit : Json.isDigit byte = true) :
    Node.isSpace byte = false ∧ byte ≠ 0x2D ∧ byte ≠ 0x2B ∧ byte ≠ 0x3A ∧ byte ≠ 0x2C := by
  have bounds : 0x30 ≤ byte ∧ byte ≤ 0x39 := by simpa [Json.isDigit] using digit
  have low : 48 ≤ byte.toNat := UInt8.le_iff_toNat_le.mp bounds.1
  have high : byte.toNat ≤ 57 := UInt8.le_iff_toNat_le.mp bounds.2
  have apart : ∀ value : Nat, 48 ≤ value → value < 58 →
      Node.isSpace (UInt8.ofNat value) = false ∧ UInt8.ofNat value ≠ 0x2D ∧
        UInt8.ofNat value ≠ 0x2B ∧ UInt8.ofNat value ≠ 0x3A ∧ UInt8.ofNat value ≠ 0x2C := by
    decide
  have result := apart byte.toNat low (Nat.lt_succ_of_le high)
  rwa [UInt8.ofNat_toNat] at result

theorem isDigit_of_mem_decimal {value : Nat} {byte : UInt8}
    (member : byte ∈ asciiBytes (decimal value)) : Json.isDigit byte = true := by
  obtain ⟨character, inside, rfl⟩ := List.mem_map.mp member
  exact Json.isDigit_of_isDigit
    (List.all_eq_true.mp (Json.all_isDigit_decimal value) character inside)

theorem scanDecimal_decimal (value : Nat) :
    scanDecimal (asciiBytes (decimal value)) = some (value : Int) := by
  have nonempty : asciiBytes (decimal value) ≠ [] := by
    rw [asciiBytes, ne_eq, List.map_eq_nil_iff]
    exact Nat.toDigits_ne_nil
  obtain ⟨first, others, split⟩ := List.exists_cons_of_ne_nil nonempty
  have digits : ∀ byte ∈ first :: others, Json.isDigit byte = true :=
    fun byte member => isDigit_of_mem_decimal (split ▸ member)
  obtain ⟨space, noMinus, noPlus, -⟩ := apart_of_isDigit (digits first List.mem_cons_self)
  have unsigned : ∀ sign : UInt8, first ≠ sign → ((first :: others).head? == some sign) = false :=
    fun sign different => beq_eq_false_iff_ne.mpr fun same => different (Option.some.inj same)
  have magnitude := Json.digitsValue_decimal value
  rw [split] at magnitude
  unfold scanDecimal
  dsimp only
  rw [split, List.dropWhile_cons_of_neg (by simp [space]), unsigned _ noMinus, unsigned _ noPlus,
    Bool.or_false, if_neg Bool.false_ne_true, List.takeWhile_eq_self_iff.mpr digits, magnitude,
    if_neg (List.cons_ne_nil _ _), if_neg Bool.false_ne_true]

theorem stoi_decimal {value : Nat} (fits : value ≤ 2147483647) :
    stoi (asciiBytes (decimal value)) = some (value : Int) := by
  rw [stoi, scanDecimal_decimal, Option.filter_some, if_pos]
  rw [decide_eq_true_eq]
  omega

/-! ### Endpoints -/

structure NodeTcpEndpoint where
  host : List UInt8
  port : UInt16
  unitId : UInt8

/-- A variable of the environment by its name. -/
abbrev Environment := String → Option (List UInt8)

/-- An empty variable counts as none. -/
def envString (environment : Environment) (name : String) (fallback : List UInt8) : List UInt8 :=
  match environment name with
  | some value => if value.isEmpty then fallback else value
  | none => fallback

/-- The port of an item: behind the last colon, or the one of the protocol. -/
def portOf (cut : Option (List UInt8 × List UInt8)) : Option Int :=
  match cut with
  | none => some 1502
  | some (_, text) => stoi text

/-- One item of the list, or nothing where the loop goes on to the next. -/
def nodeEndpoint (item : List UInt8) : Option NodeTcpEndpoint :=
  let cut := cutAtLast 0x3A item
  let host := (cut.map Prod.fst).getD item
  if host.isEmpty then none
  else
    (portOf cut).bind fun port =>
      if port < 1 ∨ 65535 < port then none
      else some { host := host, port := UInt16.ofNat port.toNat, unitId := 1 }

def envNodeEndpoints (environment : Environment) (name : String) : List NodeTcpEndpoint :=
  (getlines 0x2C [] (envString environment name [])).filterMap nodeEndpoint

/-- What every endpoint of the configuration is like. -/
structure NodeTcpEndpoint.WellFormed (endpoint : NodeTcpEndpoint) : Prop where
  host : endpoint.host ≠ []
  plain : 0x2C ∉ endpoint.host
  port : endpoint.port ≠ 0
  unit : endpoint.unitId = 1

theorem wellFormed_nodeEndpoint {item : List UInt8} {endpoint : NodeTcpEndpoint}
    (plain : 0x2C ∉ item) (usable : nodeEndpoint item = some endpoint) : endpoint.WellFormed := by
  unfold nodeEndpoint at usable
  dsimp only at usable
  split at usable
  · cases usable
  · next named =>
      obtain ⟨port, -, opened⟩ := Option.bind_eq_some_iff.mp usable
      split at opened
      · cases opened
      · next inRange =>
          cases opened
          refine ⟨fun empty => named (List.isEmpty_iff.mpr empty), ?_, fun zero => ?_, rfl⟩
          · cases cut : cutAtLast 0x3A item with
            | none => exact plain
            | some sides =>
                intro member
                rw [eq_of_cutAtLast (cut : cutAtLast 0x3A item = some (sides.1, sides.2))] at plain
                exact plain (List.mem_append_left _ member)
          · have small : port.toNat % 65536 = 0 := by
              simpa using congrArg UInt16.toNat zero
            omega

/-! ### The text of a list -/

/-- A host that no separator can be mistaken in, and a port if it is written. -/
structure SpelledEndpoint where
  host : List UInt8
  port : Option UInt16
  named : host ≠ []
  plain : 0x2C ∉ host
  bare : port = none → 0x3A ∉ host
  opened : port ≠ some 0

namespace SpelledEndpoint

variable (spelled : SpelledEndpoint)

def text : List UInt8 :=
  spelled.host ++ (spelled.port.map fun port => 0x3A :: asciiBytes (decimal port.toNat)).getD []

def endpoint : NodeTcpEndpoint where
  host := spelled.host
  port := spelled.port.getD 1502
  unitId := 1

theorem plain_text : 0x2C ∉ spelled.text := by
  rw [text, List.mem_append, not_or]
  refine ⟨spelled.plain, ?_⟩
  cases spelled.port with
  | none => exact List.not_mem_nil
  | some port =>
      rw [Option.map_some, Option.getD_some, List.mem_cons, not_or]
      refine ⟨by decide, fun member => ?_⟩
      exact (apart_of_isDigit (isDigit_of_mem_decimal member)).2.2.2.2 rfl

theorem nodeEndpoint_text : nodeEndpoint spelled.text = some spelled.endpoint := by
  have named : ¬spelled.host.isEmpty = true := fun empty =>
    spelled.named (List.isEmpty_iff.mp empty)
  unfold nodeEndpoint text endpoint
  cases written : spelled.port with
  | none =>
      rw [Option.map_none, Option.getD_none, List.append_nil,
        cutAtLast_of_notMem (spelled.bare written)]
      exact if_neg named
  | some port =>
      have digits : 0x3A ∉ asciiBytes (decimal port.toNat) := fun member =>
        (apart_of_isDigit (isDigit_of_mem_decimal member)).2.2.2.1 rfl
      have bound := port.toNat_lt
      have positive : 0 < port.toNat := by
        rw [Nat.pos_iff_ne_zero]
        intro zero
        exact spelled.opened (written.trans (congrArg some (UInt16.toNat_inj.mp zero)))
      rw [Option.map_some, Option.getD_some, cutAtLast_append digits]
      dsimp only
      rw [Option.map_some, Option.getD_some, if_neg named, portOf, stoi_decimal (by omega),
        Option.bind_some, if_neg (by omega), Int.toNat_natCast, UInt16.ofNat_toNat]
      rfl

end SpelledEndpoint

/-- An item of the list: an endpoint, or a text that the loop passes over. -/
inductive EndpointItem where
  | endpoint (spelled : SpelledEndpoint)
  | unusable (text : List UInt8) (plain : 0x2C ∉ text) (refused : nodeEndpoint text = none)

namespace EndpointItem

def text : EndpointItem → List UInt8
  | .endpoint spelled => spelled.text
  | .unusable text _ _ => text

def endpoint? : EndpointItem → Option NodeTcpEndpoint
  | .endpoint spelled => some spelled.endpoint
  | .unusable _ _ _ => none

theorem plain_text (item : EndpointItem) : 0x2C ∉ item.text := by
  cases item with
  | endpoint spelled => exact spelled.plain_text
  | unusable text plain refused => exact plain

theorem nodeEndpoint_text (item : EndpointItem) : nodeEndpoint item.text = item.endpoint? := by
  cases item with
  | endpoint spelled => exact spelled.nodeEndpoint_text
  | unusable text plain refused => exact refused

end EndpointItem

/-- Every endpoint of the configuration is well formed, whatever the environment holds. A list of
endpoints, joined by commas, with or without their ports and with anything unusable between them,
is read back as these endpoints in their order. -/
theorem endpoints_of_environment (environment : Environment) (name : String) :
    (∀ endpoint ∈ envNodeEndpoints environment name, endpoint.WellFormed) ∧
      ∀ items : List EndpointItem,
        environment name = some ([0x2C].intercalate (items.map EndpointItem.text)) →
        envNodeEndpoints environment name = items.filterMap EndpointItem.endpoint? := by
  constructor
  · intro endpoint member
    obtain ⟨item, line, usable⟩ := List.mem_filterMap.mp member
    exact wellFormed_nodeEndpoint (notMem_getlines List.not_mem_nil line) usable
  · intro items given
    have listed : envString environment name [] =
        [0x2C].intercalate (items.map EndpointItem.text) := by
      rw [envString, given]
      dsimp only
      split
      · next empty => exact (List.isEmpty_iff.mp empty).symm
      · rfl
    have skips : nodeEndpoint [] = none := rfl
    rw [envNodeEndpoints, listed, filterMap_getlines skips 0x2C List.not_mem_nil, List.nil_append]
    cases items with
    | nil => rfl
    | cons first rest =>
        have plain : ∀ text ∈ (first :: rest).map EndpointItem.text, 0x2C ∉ text := by
          rw [List.forall_mem_map]
          exact fun item _ => item.plain_text
        rw [List.splitOn_intercalate 0x2C plain (by simp), List.filterMap_map]
        exact List.filterMap_congr fun item _ => item.nodeEndpoint_text

end GridexEdge.RockPi
