import GridexEdge.RockPi.NorthboundRegisterBank
import GridexEdge.Foundation.Mbap

/-!
The northbound Modbus TCP server and its specification.

`handlePdu` follows the source branch by branch. `Answered` is the contract of a
request: which requests are accepted, what each answer holds, which exception
the others get, and which registers may differ afterwards.
-/

namespace GridexEdge.RockPi

open Foundation

namespace NorthboundModbusTcpServer

def exception (function code : UInt8) : List UInt8 := [function ||| 0x80, code]

section Functions

variable (bank : NorthboundRegisterBank) (function : UInt8) (pdu : List UInt8)

/-- FC03 and FC04. -/
def readRegisters : List UInt8 × NorthboundRegisterBank :=
  if pdu.length ≠ 5 then (exception function 0x03, bank)
  else
    let start := readU16 pdu 1
    let count := readU16 pdu 3
    if count = 0 ∨ 125 < count then (exception function 0x03, bank)
    else
      match if function = 0x03 then bank.readHolding start count
        else bank.readInput start count with
      | none => (exception function 0x02, bank)
      | some values =>
          (values.foldl appendU16 [function, UInt8.ofNat (values.length * 2)], bank)

/-- FC06. -/
def writeSingleRegister : List UInt8 × NorthboundRegisterBank :=
  if pdu.length ≠ 5 then (exception function 0x03, bank)
  else
    let address := readU16 pdu 1
    let value := readU16 pdu 3
    match bank.writeHolding address [value] with
    | (false, bank) => (exception function 0x02, bank)
    | (true, bank) => (pdu, bank)

/-- FC10. -/
def writeMultipleRegisters : List UInt8 × NorthboundRegisterBank :=
  if pdu.length < 6 then (exception function 0x03, bank)
  else
    let start := readU16 pdu 1
    let count := readU16 pdu 3
    let byteCount := pdu.getD 5 0
    if count = 0 ∨ 123 < count ∨ byteCount.toNat ≠ count.toNat * 2 ∨
        pdu.length ≠ 6 + byteCount.toNat then
      (exception function 0x03, bank)
    else
      match bank.writeHolding start (readWords pdu 6 count.toNat) with
      | (false, bank) => (exception function 0x02, bank)
      | (true, bank) => (appendU16 (appendU16 [function] start) count, bank)

end Functions

def handlePdu (bank : NorthboundRegisterBank) (pdu : List UInt8) :
    List UInt8 × NorthboundRegisterBank :=
  match pdu with
  | [] => (exception 0 0x03, bank)
  | function :: _ =>
      if function = 0x03 ∨ function = 0x04 then readRegisters bank function pdu
      else if function = 0x06 then writeSingleRegister bank function pdu
      else if function = 0x10 then writeMultipleRegisters bank function pdu
      else (exception function 0x01, bank)

/-- The response frame under the request's header. -/
def response (header responsePdu : List UInt8) : List UInt8 :=
  appendU16 (header.take 4) (UInt16.ofNat (responsePdu.length + 1)) ++
    header.getD 6 0 :: responsePdu

/-- One pass of the client loop over the unread bytes: the response, the bytes
left and the bank, or `none` where the connection is closed. -/
def handleFrame (unitId : UInt8) (bank : NorthboundRegisterBank) (received : List UInt8) :
    Option (List UInt8 × List UInt8 × NorthboundRegisterBank) :=
  if received.length < 7 then none
  else
    let header := received.take 7
    let protocolId := readU16 header 2
    let length := readU16 header 4
    if protocolId ≠ 0 ∨ length < 2 ∨ 254 < length then none
    else if (received.drop 7).length < length.toNat - 1 then none
    else
      let pdu := (received.drop 7).take (length.toNat - 1)
      let answer :=
        if header.getD 6 0 ≠ unitId then (exception (pdu.getD 0 0) 0x0B, bank)
        else handlePdu bank pdu
      some (response header answer.1, (received.drop 7).drop (length.toNat - 1), answer.2)

/-- The client loop. One entry of `sends` is one pass and says whether its
response could be sent; the list ends when the server stops or the peer hangs up. -/
def handleClient (unitId : UInt8) (bank : NorthboundRegisterBank) (received : List UInt8) :
    List Bool → List (List UInt8) × NorthboundRegisterBank
  | [] => ([], bank)
  | sent :: sends =>
      match handleFrame unitId bank received with
      | none => ([], bank)
      | some (response, unread, bank) =>
          if sent then
            let later := handleClient unitId bank unread sends
            (response :: later.1, later.2)
          else ([], bank)

/-! ### Specification -/

/-- Start address and quantity, as every request carries them. -/
def start (pdu : List UInt8) : Nat := (readU16 pdu 1).toNat

def count (pdu : List UInt8) : Nat := (readU16 pdu 3).toNat

def byteCount (pdu : List UInt8) : Nat := (pdu.getD 5 0).toNat

def WellFormedRead (pdu : List UInt8) : Prop :=
  pdu.length = 5 ∧ 1 ≤ count pdu ∧ count pdu ≤ 125

def WellFormedWrite (pdu : List UInt8) : Prop :=
  1 ≤ count pdu ∧ count pdu ≤ 123 ∧ byteCount pdu = 2 * count pdu ∧
    pdu.length = 6 + byteCount pdu

/-- The words a write request stores. -/
def payload (pdu : List UInt8) : List UInt16 :=
  if pdu.head? = some 0x06 then [readU16 pdu 3] else readWords pdu 6 (count pdu)

/-- The request of each function code is well formed. -/
def WellFormed (pdu : List UInt8) : Prop :=
  (pdu.head? = some 0x03 ∨ pdu.head? = some 0x04) ∧ WellFormedRead pdu ∨
    pdu.head? = some 0x06 ∧ pdu.length = 5 ∨
      pdu.head? = some 0x10 ∧ WellFormedWrite pdu

/-- The addressed range lies in the bank of the function code. -/
def InRange (pdu : List UInt8) : Prop :=
  pdu.head? = some 0x03 ∧ start pdu + count pdu ≤ 17 ∨
    pdu.head? = some 0x04 ∧ start pdu + count pdu ≤ 768 ∨
      (pdu.head? = some 0x06 ∨ pdu.head? = some 0x10) ∧
        start pdu + (payload pdu).length ≤ 17

def Supported (function : UInt8) : Prop :=
  function = 0x03 ∨ function = 0x04 ∨ function = 0x06 ∨ function = 0x10

/-- The answer that carries a range of words. -/
def CarriesWords (answer : List UInt8) (function : UInt8) (words : List UInt16) : Prop :=
  ∃ bytes : UInt8, bytes.toNat = 2 * words.length ∧
    answer = function :: bytes :: wordsBytes words

/-- The bank after a range of holding registers was stored. -/
def stored (bank : NorthboundRegisterBank) (start : Nat) (values : List UInt16) :
    NorthboundRegisterBank :=
  { bank with holding := writeRange bank.holding start values }

/-- What a request is owed: when it is accepted, with which answer and effect,
and which exception it gets otherwise. -/
structure Answered (bank : NorthboundRegisterBank) (pdu : List UInt8)
    (answer : List UInt8 × NorthboundRegisterBank) : Prop where
  readHolding : pdu.head? = some 0x03 →
    (CarriesWords answer.1 0x03 (readRange bank.holding (start pdu) (count pdu)) ↔
      WellFormedRead pdu ∧ start pdu + count pdu ≤ 17)
  readInput : pdu.head? = some 0x04 →
    (CarriesWords answer.1 0x04 (readRange bank.input (start pdu) (count pdu)) ↔
      WellFormedRead pdu ∧ start pdu + count pdu ≤ 768)
  writeSingle : pdu.head? = some 0x06 →
    (answer = (pdu, stored bank (start pdu) [readU16 pdu 3]) ↔
      pdu.length = 5 ∧ start pdu < 17)
  writeMultiple : pdu.head? = some 0x10 →
    (answer = (pdu.take 5, stored bank (start pdu) (readWords pdu 6 (count pdu))) ↔
      WellFormedWrite pdu ∧ start pdu + count pdu ≤ 17)
  malformed : ∀ function, pdu.head? = some function → Supported function → ¬WellFormed pdu →
    answer = (exception function 0x03, bank)
  outOfRange : ∀ function, pdu.head? = some function → WellFormed pdu → ¬InRange pdu →
    answer = (exception function 0x02, bank)
  unsupported : ∀ function, pdu.head? = some function → ¬Supported function →
    answer = (exception function 0x01, bank)
  othersKept : answer.2 = { bank with holding := answer.2.holding }
  onlyAddressed : ∀ (index : Nat) (inside : index < 17),
    answer.2.holding[index] ≠ bank.holding[index] →
      (pdu.head? = some 0x06 ∨ pdu.head? = some 0x10) ∧ WellFormed pdu ∧ InRange pdu ∧
        start pdu ≤ index ∧ index < start pdu + (payload pdu).length

section Branches

variable (bank : NorthboundRegisterBank) (function : UInt8) (pdu : List UInt8)

instance : Decidable (WellFormedRead pdu) := inferInstanceAs (Decidable (_ ∧ _ ∧ _))

instance : Decidable (WellFormedWrite pdu) := inferInstanceAs (Decidable (_ ∧ _ ∧ _ ∧ _))

theorem count_bounds_iff (limit : UInt16) :
    ¬(readU16 pdu 3 = 0 ∨ limit < readU16 pdu 3) ↔
      1 ≤ count pdu ∧ count pdu ≤ limit.toNat := by
  unfold count
  rw [not_or, ← UInt16.toNat_inj, UInt16.lt_iff_toNat_lt, UInt16.toNat_zero]
  omega

/-- FC03 and FC04 differ in the bank they read. -/
theorem readRegisters_eq {size : Nat} (registers : Vector UInt16 size)
    (selected : ∀ start count, (if function = 0x03 then bank.readHolding start count
      else bank.readInput start count) = readBank registers start count) :
    readRegisters bank function pdu =
      if WellFormedRead pdu then
        if start pdu + count pdu ≤ size then
          (function :: UInt8.ofNat (2 * count pdu) ::
            wordsBytes (readRange registers (start pdu) (count pdu)), bank)
        else (exception function 0x02, bank)
      else (exception function 0x03, bank) := by
  have bounds := count_bounds_iff pdu 125
  unfold readRegisters
  dsimp only
  by_cases sized : pdu.length = 5
  · by_cases counted : readU16 pdu 3 = 0 ∨ 125 < readU16 pdu 3
    · have malformed : ¬WellFormedRead pdu := fun formed => bounds.mpr formed.2 counted
      rw [if_neg (not_not.mpr sized), if_pos counted, if_neg malformed]
    · have formed : WellFormedRead pdu := ⟨sized, bounds.mp counted⟩
      rw [if_neg (not_not.mpr sized), if_neg counted, if_pos formed, selected]
      by_cases inside : start pdu + count pdu ≤ size
      · rw [readBank_of_fits registers formed.2.1 inside, if_pos inside]
        have full : min (count pdu) (size - start pdu) * 2 = 2 * count pdu := by omega
        simp [foldl_appendU16, ← count.eq_1, ← start.eq_1, full]
      · rw [readBank_of_outside registers (Nat.lt_of_not_le inside), if_neg inside]
  · have malformed : ¬WellFormedRead pdu := fun formed => sized formed.1
    rw [if_pos sized, if_neg malformed]

theorem writeSingleRegister_eq :
    writeSingleRegister bank function pdu =
      if pdu.length = 5 then
        if start pdu < 17 then (pdu, stored bank (start pdu) [readU16 pdu 3])
        else (exception function 0x02, bank)
      else (exception function 0x03, bank) := by
  unfold writeSingleRegister
  dsimp only
  by_cases sized : pdu.length = 5
  · rw [if_neg (not_not.mpr sized), if_pos sized]
    by_cases inside : start pdu < 17
    · have fits : (readU16 pdu 1).toNat + [readU16 pdu 3].length ≤ 17 := inside
      rw [bank.writeHolding_of_fits (List.cons_ne_nil _ _) fits, if_pos inside]
      rfl
    · have outside : 17 < (readU16 pdu 1).toNat + [readU16 pdu 3].length :=
        Nat.lt_succ_of_le (Nat.le_of_not_lt inside)
      rw [bank.writeHolding_of_not_fits (.inr outside), if_neg inside]
  · rw [if_pos sized, if_neg sized]

/-- The response to FC10 repeats the first five bytes of the request. -/
theorem appendU16_appendU16_eq_take (head : pdu.head? = some function) (sized : 5 ≤ pdu.length) :
    appendU16 (appendU16 [function] (readU16 pdu 1)) (readU16 pdu 3) = pdu.take 5 := by
  match pdu, head, sized with
  | _ :: a :: b :: c :: d :: rest, head, _ =>
      cases head
      simp [appendU16, readU16]

theorem writeMultiple_accepts_iff :
    ¬(pdu.length < 6) ∧ ¬(readU16 pdu 3 = 0 ∨ 123 < readU16 pdu 3 ∨
        (pdu.getD 5 0).toNat ≠ (readU16 pdu 3).toNat * 2 ∨
        pdu.length ≠ 6 + (pdu.getD 5 0).toNat) ↔
      WellFormedWrite pdu := by
  have bounds := count_bounds_iff pdu 123
  rw [or_assoc.symm, not_or, bounds, not_or, not_not, not_not]
  unfold WellFormedWrite byteCount count
  constructor
  · rintro ⟨-, ⟨positive, limited⟩, bytes, sized⟩
    exact ⟨positive, limited, bytes.trans (Nat.mul_comm _ _), sized⟩
  · rintro ⟨positive, limited, bytes, sized⟩
    exact ⟨by omega, ⟨positive, limited⟩, bytes.trans (Nat.mul_comm _ _), sized⟩

theorem writeMultipleRegisters_eq (head : pdu.head? = some function) :
    writeMultipleRegisters bank function pdu =
      if WellFormedWrite pdu then
        if start pdu + count pdu ≤ 17 then
          (pdu.take 5, stored bank (start pdu) (readWords pdu 6 (count pdu)))
        else (exception function 0x02, bank)
      else (exception function 0x03, bank) := by
  unfold writeMultipleRegisters
  dsimp only
  by_cases formed : WellFormedWrite pdu
  · obtain ⟨long, accepted⟩ := (writeMultiple_accepts_iff pdu).mpr formed
    have positive : 1 ≤ count pdu := formed.1
    have length := length_readWords pdu 6 (count pdu)
    rw [if_neg long, if_neg accepted, if_pos formed, ← count.eq_1]
    by_cases inside : start pdu + count pdu ≤ 17
    · have nonempty : readWords pdu 6 (count pdu) ≠ [] := fun empty => by
        rw [empty, List.length_nil] at length
        omega
      rw [bank.writeHolding_of_fits nonempty (by rwa [length]), if_pos inside,
        ← appendU16_appendU16_eq_take function pdu head (by omega)]
      rfl
    · rw [bank.writeHolding_of_not_fits (.inr (by rw [length]; exact Nat.lt_of_not_le inside)),
        if_neg inside]
  · rw [if_neg formed]
    by_cases short : pdu.length < 6
    · rw [if_pos short]
    · have refused := mt (writeMultiple_accepts_iff pdu).mp formed
      rw [if_neg short, if_pos (not_not.mp fun accepted => refused ⟨short, accepted⟩)]

end Branches

/-- The effect of an accepted request, function code by function code. -/
inductive Accepted (bank : NorthboundRegisterBank) (pdu : List UInt8) :
    List UInt8 × NorthboundRegisterBank → Prop where
  | readHolding (head : pdu.head? = some 0x03) :
      Accepted bank pdu (0x03 :: UInt8.ofNat (2 * count pdu) ::
        wordsBytes (readRange bank.holding (start pdu) (count pdu)), bank)
  | readInput (head : pdu.head? = some 0x04) :
      Accepted bank pdu (0x04 :: UInt8.ofNat (2 * count pdu) ::
        wordsBytes (readRange bank.input (start pdu) (count pdu)), bank)
  | writeSingle (head : pdu.head? = some 0x06) :
      Accepted bank pdu (pdu, stored bank (start pdu) [readU16 pdu 3])
  | writeMultiple (head : pdu.head? = some 0x10) :
      Accepted bank pdu (pdu.take 5, stored bank (start pdu) (readWords pdu 6 (count pdu)))

section Contract

variable (bank : NorthboundRegisterBank) {pdu : List UInt8} {function : UInt8}

/-- The three fates of a supported request. -/
def Fate (function : UInt8) (pdu : List UInt8) (answer : List UInt8 × NorthboundRegisterBank) :
    Prop :=
  (WellFormed pdu ∧ InRange pdu ∧ Accepted bank pdu answer) ∨
    (WellFormed pdu ∧ ¬InRange pdu ∧ answer = (exception function 0x02, bank)) ∨
    (¬WellFormed pdu ∧ answer = (exception function 0x03, bank))

theorem fate_of_eq {formed inside : Prop} [Decidable formed] [Decidable inside]
    {accepted : List UInt8 × NorthboundRegisterBank} (wellFormed : WellFormed pdu ↔ formed)
    (inRange : InRange pdu ↔ inside) (effect : Accepted bank pdu accepted) :
    Fate bank function pdu
      (if formed then
        if inside then accepted else (exception function 0x02, bank)
      else (exception function 0x03, bank)) := by
  split_ifs with isFormed isInside
  · exact .inl ⟨wellFormed.mpr isFormed, inRange.mpr isInside, effect⟩
  · exact .inr (.inl ⟨wellFormed.mpr isFormed, mt inRange.mp isInside, rfl⟩)
  · exact .inr (.inr ⟨mt wellFormed.mp isFormed, rfl⟩)

theorem handlePdu_fate (head : pdu.head? = some function) (supported : Supported function) :
    Fate bank function pdu (handlePdu bank pdu) := by
  cases pdu with
  | nil => simp at head
  | cons first body =>
      obtain rfl : first = function := by simpa using head
      rcases supported with rfl | rfl | rfl | rfl
      · change Fate _ _ _ (readRegisters bank 0x03 (0x03 :: body))
        rw [readRegisters_eq bank _ _ bank.holding fun _ _ => rfl]
        exact fate_of_eq bank (by simp [WellFormed]) (by simp [InRange]) (.readHolding rfl)
      · change Fate _ _ _ (readRegisters bank 0x04 (0x04 :: body))
        rw [readRegisters_eq bank _ _ bank.input fun _ _ => rfl]
        exact fate_of_eq bank (by simp [WellFormed]) (by simp [InRange]) (.readInput rfl)
      · change Fate _ _ _ (writeSingleRegister bank 0x06 (0x06 :: body))
        rw [writeSingleRegister_eq]
        exact fate_of_eq bank (by simp [WellFormed]) (by simp [InRange, payload, Nat.lt_succ_iff])
          (.writeSingle rfl)
      · change Fate _ _ _ (writeMultipleRegisters bank 0x10 (0x10 :: body))
        rw [writeMultipleRegisters_eq bank _ _ rfl]
        exact fate_of_eq bank (by simp [WellFormed]) (by simp [InRange, payload])
          (.writeMultiple rfl)

theorem handlePdu_unsupported (head : pdu.head? = some function)
    (unsupported : ¬Supported function) : handlePdu bank pdu = (exception function 0x01, bank) := by
  cases pdu with
  | nil => simp at head
  | cons first body =>
      obtain rfl : first = function := by simpa using head
      simp only [Supported, not_or] at unsupported
      simp [handlePdu, unsupported]

theorem exception_ne (code : UInt8) (supported : Supported function) {answer : List UInt8}
    (plain : answer.head? = some function) : exception function code ≠ answer := by
  rintro rfl
  have marked : function ||| 0x80 = function := by simpa [exception] using plain
  rcases supported with rfl | rfl | rfl | rfl <;> exact absurd marked (by decide)

theorem not_carriesWords_exception (code : UInt8) (supported : Supported function)
    (words : List UInt16) : ¬CarriesWords (exception function code) function words := by
  rintro ⟨bytes, -, same⟩
  exact exception_ne code supported rfl same

/-- A property that accepted answers have and exceptions lack tells which
requests are accepted. -/
theorem Fate.accepts_iff (Property : List UInt8 × NorthboundRegisterBank → Prop)
    {answer : List UInt8 × NorthboundRegisterBank} (fate : Fate bank function pdu answer)
    (refused : ∀ code, ¬Property (exception function code, bank))
    (granted : WellFormed pdu → InRange pdu → Accepted bank pdu answer → Property answer) :
    Property answer ↔ WellFormed pdu ∧ InRange pdu := by
  rcases fate with ⟨formed, inside, effect⟩ | ⟨-, outside, rfl⟩ | ⟨malformed, rfl⟩
  · exact iff_of_true (granted formed inside effect) ⟨formed, inside⟩
  · exact iff_of_false (refused _) fun both => outside both.2
  · exact iff_of_false (refused _) fun both => malformed both.1

theorem supported_of_wellFormed (head : pdu.head? = some function) (formed : WellFormed pdu) :
    Supported function := by
  unfold WellFormed at formed
  rw [head] at formed
  simp only [Option.some.injEq] at formed
  rcases formed with ⟨read, -⟩ | ⟨single, -⟩ | ⟨multiple, -⟩
  · exact read.elim .inl fun input => .inr (.inl input)
  · exact .inr (.inr (.inl single))
  · exact .inr (.inr (.inr multiple))

/-- The word count of a read range that fits is the requested one, and its byte
count fits a byte. -/
theorem carriesWords_readRange {size : Nat} (registers : Vector UInt16 size)
    (limited : count pdu ≤ 125) (inside : start pdu + count pdu ≤ size) :
    CarriesWords (function :: UInt8.ofNat (2 * count pdu) ::
      wordsBytes (readRange registers (start pdu) (count pdu))) function
      (readRange registers (start pdu) (count pdu)) := by
  refine ⟨UInt8.ofNat (2 * count pdu), ?_, rfl⟩
  rw [length_readRange, UInt8.toNat_ofNat']
  omega

theorem Accepted.othersKept {answer : List UInt8 × NorthboundRegisterBank}
    (accepted : Accepted bank pdu answer) :
    answer.2 = { bank with holding := answer.2.holding } := by
  cases accepted <;> rfl

theorem Accepted.onlyAddressed {answer : List UInt8 × NorthboundRegisterBank}
    (accepted : Accepted bank pdu answer) {index : Nat} (inside : index < 17)
    (changed : answer.2.holding[index] ≠ bank.holding[index]) :
    (pdu.head? = some 0x06 ∨ pdu.head? = some 0x10) ∧
      start pdu ≤ index ∧ index < start pdu + (payload pdu).length := by
  have addressed : ∀ values : List UInt16,
      (stored bank (start pdu) values).holding[index] ≠ bank.holding[index] →
        start pdu ≤ index ∧ index < start pdu + values.length := by
    intro values differs
    by_contra outside
    exact differs (getElem_writeRange_of_outside bank.holding inside (by omega))
  cases accepted with
  | readHolding head => exact absurd rfl changed
  | readInput head => exact absurd rfl changed
  | writeSingle head =>
      refine ⟨.inl head, ?_⟩
      rw [payload, if_pos head]
      exact addressed _ changed
  | writeMultiple head =>
      refine ⟨.inr head, ?_⟩
      rw [payload, if_neg (by simp [head])]
      exact addressed _ changed

theorem handlePdu_cases (head : pdu.head? = some function) :
    (WellFormed pdu ∧ InRange pdu ∧ Accepted bank pdu (handlePdu bank pdu)) ∨
      ∃ code, handlePdu bank pdu = (exception function code, bank) := by
  by_cases supported : Supported function
  · rcases handlePdu_fate bank head supported with accepted | ⟨-, -, answer⟩ | ⟨-, answer⟩
    · exact .inl accepted
    · exact .inr ⟨_, answer⟩
    · exact .inr ⟨_, answer⟩
  · exact .inr ⟨_, handlePdu_unsupported bank head supported⟩

theorem readHolding_accepts (head : pdu.head? = some 0x03) :
    CarriesWords (handlePdu bank pdu).1 0x03 (readRange bank.holding (start pdu) (count pdu)) ↔
      WellFormedRead pdu ∧ start pdu + count pdu ≤ 17 := by
  have request : WellFormed pdu ∧ InRange pdu ↔
      WellFormedRead pdu ∧ start pdu + count pdu ≤ 17 := by
    simp [WellFormed, InRange, head]
  rw [← request]
  apply Fate.accepts_iff bank
    (fun answer => CarriesWords answer.1 0x03 (readRange bank.holding (start pdu) (count pdu)))
    (handlePdu_fate bank head (.inl rfl))
  · exact fun code => not_carriesWords_exception code (.inl rfl) _
  · intro formed inside accepted
    obtain ⟨⟨-, -, limited⟩, fits⟩ := request.mp ⟨formed, inside⟩
    generalize handlePdu bank pdu = answer at accepted
    cases accepted with
    | readHolding => exact carriesWords_readRange _ limited fits
    | readInput other | writeSingle other | writeMultiple other => simp [head] at other

theorem readInput_accepts (head : pdu.head? = some 0x04) :
    CarriesWords (handlePdu bank pdu).1 0x04 (readRange bank.input (start pdu) (count pdu)) ↔
      WellFormedRead pdu ∧ start pdu + count pdu ≤ 768 := by
  have request : WellFormed pdu ∧ InRange pdu ↔
      WellFormedRead pdu ∧ start pdu + count pdu ≤ 768 := by
    simp [WellFormed, InRange, head]
  rw [← request]
  apply Fate.accepts_iff bank
    (fun answer => CarriesWords answer.1 0x04 (readRange bank.input (start pdu) (count pdu)))
    (handlePdu_fate bank head (.inr (.inl rfl)))
  · exact fun code => not_carriesWords_exception code (.inr (.inl rfl)) _
  · intro formed inside accepted
    obtain ⟨⟨-, -, limited⟩, fits⟩ := request.mp ⟨formed, inside⟩
    generalize handlePdu bank pdu = answer at accepted
    cases accepted with
    | readInput => exact carriesWords_readRange _ limited fits
    | readHolding other | writeSingle other | writeMultiple other => simp [head] at other

theorem writeSingle_accepts (head : pdu.head? = some 0x06) :
    handlePdu bank pdu = (pdu, stored bank (start pdu) [readU16 pdu 3]) ↔
      pdu.length = 5 ∧ start pdu < 17 := by
  have supported : Supported 0x06 := .inr (.inr (.inl rfl))
  have request : WellFormed pdu ∧ InRange pdu ↔ pdu.length = 5 ∧ start pdu < 17 := by
    simp [WellFormed, InRange, head, payload, Nat.lt_succ_iff]
  rw [← request]
  apply Fate.accepts_iff bank
    (fun answer => answer = (pdu, stored bank (start pdu) [readU16 pdu 3]))
    (handlePdu_fate bank head supported)
  · exact fun code same => exception_ne code supported head (congrArg Prod.fst same)
  · intro formed inside accepted
    generalize handlePdu bank pdu = answer at accepted
    cases accepted with
    | writeSingle => rfl
    | readHolding other | readInput other | writeMultiple other => simp [head] at other

theorem writeMultiple_accepts (head : pdu.head? = some 0x10) :
    handlePdu bank pdu =
        (pdu.take 5, stored bank (start pdu) (readWords pdu 6 (count pdu))) ↔
      WellFormedWrite pdu ∧ start pdu + count pdu ≤ 17 := by
  have supported : Supported 0x10 := .inr (.inr (.inr rfl))
  have request : WellFormed pdu ∧ InRange pdu ↔
      WellFormedWrite pdu ∧ start pdu + count pdu ≤ 17 := by
    simp [WellFormed, InRange, head, payload]
  rw [← request]
  apply Fate.accepts_iff bank
    (fun answer =>
      answer = (pdu.take 5, stored bank (start pdu) (readWords pdu 6 (count pdu))))
    (handlePdu_fate bank head supported)
  · intro code same
    exact exception_ne code supported (by rw [List.head?_take, if_neg (by decide), head])
      (congrArg Prod.fst same)
  · intro formed inside accepted
    generalize handlePdu bank pdu = answer at accepted
    cases accepted with
    | writeMultiple => rfl
    | readHolding other | readInput other | writeSingle other => simp [head] at other

theorem handlePdu_othersKept (pdu : List UInt8) :
    (handlePdu bank pdu).2 = { bank with holding := (handlePdu bank pdu).2.holding } := by
  cases pdu with
  | nil => rfl
  | cons function body =>
      have head : (function :: body).head? = some function := rfl
      rcases handlePdu_cases bank head with ⟨-, -, accepted⟩ | ⟨code, answer⟩
      · exact accepted.othersKept
      · rw [answer]

theorem handlePdu_answered (nonempty : pdu ≠ []) : Answered bank pdu (handlePdu bank pdu) := by
  obtain ⟨function, body, rfl⟩ := List.exists_cons_of_ne_nil nonempty
  have head : (function :: body).head? = some function := rfl
  generalize function :: body = pdu at head
  have fate := handlePdu_fate bank head
  refine ⟨readHolding_accepts bank, readInput_accepts bank, writeSingle_accepts bank,
    writeMultiple_accepts bank, ?malformed, ?outOfRange, fun other =>
      handlePdu_unsupported bank, handlePdu_othersKept bank pdu, ?onlyAddressed⟩
  case malformed =>
    intro other same supported malformed
    cases head.symm.trans same
    rcases fate supported with ⟨formed, -⟩ | ⟨formed, -⟩ | ⟨-, answer⟩
    · exact absurd formed malformed
    · exact absurd formed malformed
    · exact answer
  case outOfRange =>
    intro other same formed outside
    cases head.symm.trans same
    rcases fate (supported_of_wellFormed head formed) with ⟨-, inside, -⟩ | ⟨-, -, answer⟩ |
      ⟨malformed, -⟩
    · exact absurd inside outside
    · exact answer
    · exact absurd formed malformed
  case onlyAddressed =>
    intro index inside changed
    rcases handlePdu_cases bank head with ⟨formed, range, accepted⟩ | ⟨code, answer⟩
    · obtain ⟨write, addressed⟩ := accepted.onlyAddressed bank inside changed
      exact ⟨write, formed, range, addressed⟩
    · exact absurd (by rw [answer]) changed

/-- A successful write leaves exactly its words in the addressed range. -/
theorem handlePdu_stored (write : pdu.head? = some 0x06 ∨ pdu.head? = some 0x10)
    (formed : WellFormed pdu) (inside : InRange pdu) :
    (handlePdu bank pdu).2 = stored bank (start pdu) (payload pdu) := by
  rcases write with head | head
  · have accepted := (writeSingle_accepts bank head).mpr
      (by simpa [WellFormed, InRange, head, payload, Nat.lt_succ_iff] using And.intro formed inside)
    rw [accepted, payload, if_pos head]
  · have accepted := (writeMultiple_accepts bank head).mpr
      (by simpa [WellFormed, InRange, head, payload] using And.intro formed inside)
    rw [accepted, payload, if_neg (by simp [head])]

theorem payload_length_bounds (write : pdu.head? = some 0x06 ∨ pdu.head? = some 0x10)
    (formed : WellFormed pdu) : 1 ≤ (payload pdu).length ∧ (payload pdu).length ≤ 123 := by
  rcases write with head | head
  · simp [payload, head]
  · have bounds : WellFormedWrite pdu := by simpa [WellFormed, head] using formed
    rw [payload, if_neg (by simp [head]), length_readWords]
    exact ⟨bounds.1, bounds.2.1⟩

def readRequest (start count : Nat) : List UInt8 :=
  appendU16 (appendU16 [0x03] (UInt16.ofNat start)) (UInt16.ofNat count)

theorem readRequest_fields (first quantity : Nat) (firstBound : first < 65536)
    (quantityBound : quantity < 65536) :
    start (readRequest first quantity) = first ∧ count (readRequest first quantity) = quantity := by
  simp [start, count, readRequest, appendU16, readU16, Nat.mod_eq_of_lt firstBound,
    Nat.mod_eq_of_lt quantityBound]

/-- Reading a range after a successful write to it returns the written words. -/
theorem handlePdu_readBack (write : pdu.head? = some 0x06 ∨ pdu.head? = some 0x10)
    (formed : WellFormed pdu) (inside : InRange pdu) :
    CarriesWords
      (handlePdu (handlePdu bank pdu).2 (readRequest (start pdu) (payload pdu).length)).1
      0x03 (payload pdu) := by
  obtain ⟨positive, limited⟩ := payload_length_bounds write formed
  have fits : start pdu + (payload pdu).length ≤ 17 := by
    rcases write with head | head <;> simpa [InRange, head] using inside
  obtain ⟨first, quantity⟩ :=
    readRequest_fields (start pdu) (payload pdu).length (by omega) (by omega)
  have head : (readRequest (start pdu) (payload pdu).length).head? = some 0x03 := rfl
  have accepted := (readHolding_accepts (handlePdu bank pdu).2 head).mpr
    ⟨⟨rfl, by omega, by omega⟩, by omega⟩
  have after : (handlePdu bank pdu).2.holding =
      writeRange bank.holding (start pdu) (payload pdu) := by
    rw [handlePdu_stored bank write formed inside, stored]
  rwa [first, quantity, after, readRange_writeRange bank.holding fits] at accepted

end Contract

/-! ### Frames -/

section Frames

variable (unitId : UInt8) (bank : NorthboundRegisterBank) {pdu : List UInt8}

theorem CarriesWords.length_le {answer : List UInt8} {function : UInt8} {words : List UInt16}
    (carries : CarriesWords answer function words) : answer.length ≤ 257 := by
  obtain ⟨bytes, counted, rfl⟩ := carries
  have bound := bytes.toNat_lt
  rw [List.length_cons, List.length_cons, length_wordsBytes]
  omega

/-- No response outgrows the length field of its header. -/
theorem handlePdu_length_le (short : pdu.length ≤ 253) :
    (handlePdu bank pdu).1.length ≤ 257 := by
  cases pdu with
  | nil => simp [handlePdu, exception]
  | cons function body =>
      have head : (function :: body).head? = some function := rfl
      generalize function :: body = pdu at *
      rcases handlePdu_cases bank head with ⟨formed, inside, accepted⟩ | ⟨code, answer⟩
      · generalize answered : handlePdu bank pdu = answer at accepted
        rw [← answered]
        cases accepted with
        | readHolding read =>
            exact ((readHolding_accepts bank read).mpr
              (by simpa [WellFormed, InRange, read] using And.intro formed inside)).length_le
        | readInput read =>
            exact ((readInput_accepts bank read).mpr
              (by simpa [WellFormed, InRange, read] using And.intro formed inside)).length_le
        | writeSingle write =>
            rw [answered]
            exact short.trans (by decide)
        | writeMultiple write => simp [answered]
      · rw [answer]
        simp [exception]

theorem response_eq (transaction : UInt16) (unit : UInt8) (header body : List UInt8)
    (same : header = (Mbap.adu transaction unit body).take 7) (responsePdu : List UInt8) :
    response header responsePdu = Mbap.adu transaction unit responsePdu := by
  subst same
  rfl

/-- The answer to a request under the unit the frame names. -/
def unitAnswer (unit : UInt8) (pdu : List UInt8) : List UInt8 × NorthboundRegisterBank :=
  if unit ≠ unitId then (exception (pdu.getD 0 0) 0x0B, bank) else handlePdu bank pdu

/-- A whole frame is answered under its own transaction and unit, and the bytes
after it are left unread. -/
theorem handleFrame_frame (transaction : UInt16) (unit : UInt8) (nonempty : pdu ≠ [])
    (short : pdu.length ≤ 253) (unread : List UInt8) :
    handleFrame unitId bank (Mbap.adu transaction unit pdu ++ unread) =
      some (Mbap.adu transaction unit (unitAnswer unitId bank unit pdu).1, unread,
        (unitAnswer unitId bank unit pdu).2) := by
  have positive := List.length_pos_iff.mpr nonempty
  have header : (Mbap.adu transaction unit pdu ++ unread).take 7 =
      (Mbap.adu transaction unit pdu).take 7 := rfl
  have body : (Mbap.adu transaction unit pdu ++ unread).drop 7 = pdu ++ unread := rfl
  have lengthWord : readU16 ((Mbap.adu transaction unit pdu).take 7) 4 =
      UInt16.ofNat (pdu.length + 1) := word_highByte_lowByte _
  have lengthNat : (UInt16.ofNat (pdu.length + 1)).toNat = pdu.length + 1 := by
    rw [UInt16.toNat_ofNat']
    omega
  unfold handleFrame
  dsimp only
  rw [header, body, lengthWord, if_neg, if_neg, if_neg, lengthNat]
  · have taken : (pdu ++ unread).take (pdu.length + 1 - 1) = pdu := by simp
    have dropped : (pdu ++ unread).drop (pdu.length + 1 - 1) = unread := by simp
    rw [taken, dropped, response_eq transaction unit _ pdu rfl]
    rfl
  · rw [lengthNat, List.length_append]
    omega
  · rw [UInt16.lt_iff_toNat_lt, UInt16.lt_iff_toNat_lt, lengthNat]
    rintro (protocol | tooShort | tooLong)
    · exact protocol (word_highByte_lowByte 0)
    · simp only [UInt16.reduceToNat] at tooShort
      omega
    · simp only [UInt16.reduceToNat] at tooLong
      omega
  · rw [List.length_append, Mbap.adu_eq, List.length_append]
    simp only [List.length_cons, List.length_nil]
    omega

/-- Whatever was received, a pass under a foreign unit leaves the bank alone. -/
theorem handleFrame_foreign {received response unread : List UInt8}
    {after : NorthboundRegisterBank} (foreign : received.getD 6 0 ≠ unitId)
    (handled : handleFrame unitId bank received = some (response, unread, after)) :
    after = bank := by
  unfold handleFrame at handled
  dsimp only at handled
  split_ifs at handled with short closed cut own
  · cases handled
    rfl
  · refine absurd ?_ foreign
    simpa [List.getD_eq_getElem?_getD, List.getElem?_take] using own

theorem handleFrame_othersKept {received response unread : List UInt8}
    {after : NorthboundRegisterBank}
    (handled : handleFrame unitId bank received = some (response, unread, after)) :
    after = { bank with holding := after.holding } := by
  unfold handleFrame at handled
  dsimp only at handled
  split_ifs at handled
  · cases handled
    rfl
  · cases handled
    exact handlePdu_othersKept bank _

/-- A whole connection, however it ends, can only change holding registers. -/
theorem handleClient_othersKept (received : List UInt8) (sends : List Bool) :
    (handleClient unitId bank received sends).2 =
      { bank with holding := (handleClient unitId bank received sends).2.holding } := by
  induction sends generalizing bank received with
  | nil => rfl
  | cons sent sends inductionHypothesis =>
      unfold handleClient
      split
      · rfl
      · next response unread after handled =>
          have kept := handleFrame_othersKept unitId bank handled
          split
          · dsimp only
            rw [inductionHypothesis after unread]
            rw [kept]
          · exact kept

/-- The contract of the server: each request is answered as specified, each
frame under its own header with an exact length field, foreign units change
nothing, and a written range reads back. -/
theorem server_meets_specification (nonempty : pdu ≠ []) (short : pdu.length ≤ 253) :
    Answered bank pdu (handlePdu bank pdu) ∧
      (∀ transaction unit unread,
        handleFrame unitId bank (Mbap.adu transaction unit pdu ++ unread) =
          some (Mbap.adu transaction unit (unitAnswer unitId bank unit pdu).1, unread,
            (unitAnswer unitId bank unit pdu).2) ∧
        (UInt16.ofNat ((unitAnswer unitId bank unit pdu).1.length + 1)).toNat =
          (unitAnswer unitId bank unit pdu).1.length + 1) ∧
      (∀ received response unread after, received.getD 6 0 ≠ unitId →
        handleFrame unitId bank received = some (response, unread, after) → after = bank) ∧
      ((pdu.head? = some 0x06 ∨ pdu.head? = some 0x10) → WellFormed pdu → InRange pdu →
        CarriesWords
          (handlePdu (handlePdu bank pdu).2 (readRequest (start pdu) (payload pdu).length)).1
          0x03 (payload pdu)) := by
  refine ⟨handlePdu_answered bank nonempty, fun transaction unit unread => ⟨?_, ?_⟩,
    fun _ _ _ _ foreign handled => handleFrame_foreign unitId bank foreign handled,
    handlePdu_readBack bank⟩
  · exact handleFrame_frame unitId bank transaction unit nonempty short unread
  · have bound : (unitAnswer unitId bank unit pdu).1.length ≤ 257 := by
      unfold unitAnswer
      split
      · exact (by decide : 2 ≤ 257)
      · exact handlePdu_length_le bank short
    rw [UInt16.toNat_ofNat']
    omega

/-- A write of two words, the last two holding registers. -/
theorem server_meets_specification_lastTwo :
    Answered {} [0x10, 0, 15, 0, 2, 4, 1, 2, 3, 4]
      (handlePdu {} [0x10, 0, 15, 0, 2, 4, 1, 2, 3, 4]) :=
  (server_meets_specification 1 {} (by decide) (by decide)).1

end Frames

end NorthboundModbusTcpServer

end GridexEdge.RockPi
