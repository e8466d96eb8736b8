import GridexEdge.Foundation.JsonNumbers
import GridexEdge.RockPi.JournalRecord

/-!
The JSON payloads of the MQTT publisher.

A string is written through a stream whose base, width and fill outlast a write, and each
payload is read back as the object that it is meant to be.
-/

namespace GridexEdge.RockPi

open Foundation

/-! ### Strings -/

/-- An output stream with the settings that stay between writes. -/
structure OutputStream where
  text : List UInt8 := []
  hex : Bool := false
  width : Nat := 0
  fill : UInt8 := 0x20

namespace OutputStream

/-- A write fills up to the width and takes it back. -/
def put (output : OutputStream) (bytes : List UInt8) : OutputStream :=
  { output with
    text := output.text ++ List.replicate (output.width - bytes.length) output.fill ++ bytes
    width := 0 }

def putInt (output : OutputStream) (value : Nat) : OutputStream :=
  output.put (asciiBytes (Nat.toDigits (if output.hex then 16 else 10) value))

/-- One character of a string, escaped where JSON demands it. -/
def putCharacter (output : OutputStream) (character : UInt8) : OutputStream :=
  if character = 0x22 then output.put [0x5C, 0x22]
  else if character = 0x5C then output.put [0x5C, 0x5C]
  else if character = 0x0A then output.put [0x5C, 0x6E]
  else if character = 0x0D then output.put [0x5C, 0x72]
  else if character = 0x09 then output.put [0x5C, 0x74]
  else if character < 0x20 then
    let output := output.put [0x5C, 0x75, 0x30, 0x30]
    let output := ({ output with hex := true, width := 2, fill := 0x30 }).putInt character.toNat
    { output with hex := false, fill := 0x20 }
  else output.put [character]

end OutputStream

def jsonString (value : List UInt8) : List UInt8 :=
  ((value.foldl OutputStream.putCharacter (({} : OutputStream).put [0x22])).put [0x22]).text

/-- What a character adds to a stream with its first settings. -/
def escapedCharacter (character : UInt8) : List UInt8 :=
  (({} : OutputStream).putCharacter character).text

namespace OutputStream

/-- Every character leaves the settings of the stream as they were. -/
theorem putCharacter_eq (text : List UInt8) (character : UInt8) :
    ({ text } : OutputStream).putCharacter character =
      { text := text ++ escapedCharacter character } := by
  unfold escapedCharacter putCharacter
  split_ifs <;> simp [put, putInt]

theorem foldl_putCharacter (text value : List UInt8) :
    value.foldl putCharacter { text } = { text := text ++ value.flatMap escapedCharacter } := by
  induction value generalizing text with
  | nil => simp
  | cons character rest inductionHypothesis =>
      rw [List.foldl_cons, putCharacter_eq, inductionHypothesis, List.flatMap_cons,
        List.append_assoc]

end OutputStream

theorem jsonString_eq (value : List UInt8) :
    jsonString value = 0x22 :: (value.flatMap escapedCharacter ++ [0x22]) := by
  have opened : ({} : OutputStream).put [0x22] = { text := [0x22] } := rfl
  rw [jsonString, opened, OutputStream.foldl_putCharacter]
  simp [OutputStream.put]

/-- A control character without a letter of its own is spelled by its code. -/
theorem escapedCharacter_control : ∀ code, code < 32 → code ≠ 0x0A → code ≠ 0x0D → code ≠ 0x09 →
    escapedCharacter (UInt8.ofNat code) =
      [0x5C, 0x75, 0x30, 0x30, hexDigit (UInt8.ofNat (code / 16)),
        hexDigit (UInt8.ofNat (code % 16))] := by
  decide

theorem hexValue_hexDigit : ∀ digit, digit < 16 →
    Json.hexValue (hexDigit (UInt8.ofNat digit)) = some digit := by
  decide

theorem utf8_control : ∀ code, code < 32 → Json.utf8 code = [UInt8.ofNat code] := by
  decide

/-- A character is escaped by a letter or by its code, or it stays. -/
theorem escapedCharacter_cases (character : UInt8) :
    (∃ letter, escapedCharacter character = [0x5C, letter] ∧ letter ≠ 0x75 ∧ ¬letter < 0x20 ∧
        Json.escaped letter = some character) ∨
      (∃ code, code < 32 ∧ character = UInt8.ofNat code ∧
        escapedCharacter character =
          [0x5C, 0x75, 0x30, 0x30, hexDigit (UInt8.ofNat (code / 16)),
            hexDigit (UInt8.ofNat (code % 16))]) ∨
      escapedCharacter character = [character] ∧ character ≠ 0x22 ∧ character ≠ 0x5C ∧
        ¬character < 0x20 := by
  by_cases quote : character = 0x22
  · rw [quote]
    exact .inl ⟨0x22, rfl, by decide, by decide, rfl⟩
  by_cases backslash : character = 0x5C
  · rw [backslash]
    exact .inl ⟨0x5C, rfl, by decide, by decide, rfl⟩
  by_cases newline : character = 0x0A
  · rw [newline]
    exact .inl ⟨0x6E, rfl, by decide, by decide, rfl⟩
  by_cases carriage : character = 0x0D
  · rw [carriage]
    exact .inl ⟨0x72, rfl, by decide, by decide, rfl⟩
  by_cases tab : character = 0x09
  · rw [tab]
    exact .inl ⟨0x74, rfl, by decide, by decide, rfl⟩
  by_cases control : character < 0x20
  · have small : character.toNat < 32 := UInt8.lt_iff_toNat_lt.mp control
    have text := escapedCharacter_control character.toNat small
      (fun equal => newline (UInt8.toNat_inj.mp equal))
      (fun equal => carriage (UInt8.toNat_inj.mp equal))
      (fun equal => tab (UInt8.toNat_inj.mp equal))
    have same : UInt8.ofNat character.toNat = character := UInt8.ofNat_toNat
    rw [same] at text
    exact .inr (.inl ⟨character.toNat, small, same.symm, text⟩)
  · refine .inr (.inr ⟨?_, quote, backslash, control⟩)
    simp [escapedCharacter, OutputStream.putCharacter, OutputStream.put, quote, backslash,
      newline, carriage, tab, control]

theorem spells_escapedCharacter (character : UInt8) :
    Json.Spells (escapedCharacter character) [character] := by
  rcases escapedCharacter_cases character with
    ⟨letter, text, noUnit, -, means⟩ | ⟨code, small, rfl, text⟩ | ⟨text, quote, backslash, visible⟩
  · rw [text]
    exact Json.spells_escape noUnit means
  · have value : ((0 * 16 + 0) * 16 + code / 16) * 16 + code % 16 = code := by omega
    have spelled := @Json.spells_unit 0x30 0x30 _ _ 0 0 _ _ rfl rfl
      (hexValue_hexDigit (code / 16) (by omega)) (hexValue_hexDigit (code % 16) (by omega))
      (by simp [Json.isHigh]; omega) (by simp [Json.isLow]; omega)
    rwa [value, utf8_control code small, ← text] at spelled
  · rw [text]
    exact Json.spells_plain quote backslash visible

theorem spells_flatMap (value : List UInt8) :
    Json.Spells (value.flatMap escapedCharacter) value := by
  induction value with
  | nil => exact Json.spells_nil
  | cons character rest inductionHypothesis =>
      exact (spells_escapedCharacter character).append inductionHypothesis

/-- A string of any bytes is one string of the grammar, and spells those bytes. -/
theorem quotes_jsonString : Json.Quotes jsonString := by
  intro bytes
  rw [jsonString_eq]
  exact Json.lexes_string (spells_flatMap bytes)

theorem jsonString_injective : Function.Injective jsonString := by
  intro first second same
  have left := Json.lex_of_lexes (quotes_jsonString first)
  rw [same, Json.lex_of_lexes (quotes_jsonString second)] at left
  simpa using left.symm

/-- A quotation mark that no backslash stands before, as the text is read from its start. -/
def hasBareQuote : List UInt8 → Bool
  | [] => false
  | [character] => character == 0x22
  | character :: next :: rest =>
      if character = 0x5C then hasBareQuote rest
      else character == 0x22 || hasBareQuote (next :: rest)

theorem hasBareQuote_plain {character : UInt8} (quote : character ≠ 0x22)
    (backslash : character ≠ 0x5C) (rest : List UInt8) :
    hasBareQuote (character :: rest) = hasBareQuote rest := by
  cases rest <;> simp [hasBareQuote, quote, backslash]

theorem hexDigit_apart : ∀ digit, digit < 16 →
    hexDigit (UInt8.ofNat digit) ≠ 0x22 ∧ hexDigit (UInt8.ofNat digit) ≠ 0x5C ∧
      ¬hexDigit (UInt8.ofNat digit) < 0x20 := by
  decide

theorem hasBareQuote_escapedCharacter (character : UInt8) (rest : List UInt8) :
    hasBareQuote (escapedCharacter character ++ rest) = hasBareQuote rest := by
  rcases escapedCharacter_cases character with
    ⟨letter, text, -⟩ | ⟨code, small, -, text⟩ | ⟨text, quote, backslash, -⟩
  · rw [text]
    rfl
  · obtain ⟨highQuote, highBackslash, -⟩ := hexDigit_apart (code / 16) (by omega)
    obtain ⟨lowQuote, lowBackslash, -⟩ := hexDigit_apart (code % 16) (by omega)
    have code : hasBareQuote (0x30 :: 0x30 :: hexDigit (UInt8.ofNat (code / 16)) ::
        hexDigit (UInt8.ofNat (code % 16)) :: rest) = hasBareQuote rest := by
      rw [hasBareQuote_plain (by decide) (by decide), hasBareQuote_plain (by decide) (by decide),
        hasBareQuote_plain highQuote highBackslash, hasBareQuote_plain lowQuote lowBackslash]
    rw [text]
    exact code
  · rw [text]
    exact hasBareQuote_plain quote backslash rest

theorem hasBareQuote_flatMap (value : List UInt8) :
    hasBareQuote (value.flatMap escapedCharacter) = false := by
  induction value with
  | nil => rfl
  | cons character rest inductionHypothesis =>
      rw [List.flatMap_cons, hasBareQuote_escapedCharacter, inductionHypothesis]

theorem visible_escapedCharacter {character byte : UInt8}
    (member : byte ∈ escapedCharacter character) : ¬byte < 0x20 := by
  rcases escapedCharacter_cases character with
    ⟨letter, text, -, visible, -⟩ | ⟨code, small, -, text⟩ | ⟨text, -, -, visible⟩
  · rw [text] at member
    simp only [List.mem_cons, List.not_mem_nil, or_false] at member
    rcases member with rfl | rfl
    · decide
    · exact visible
  · obtain ⟨-, -, high⟩ := hexDigit_apart (code / 16) (by omega)
    obtain ⟨-, -, low⟩ := hexDigit_apart (code % 16) (by omega)
    rw [text] at member
    simp only [List.mem_cons, List.not_mem_nil, or_false] at member
    rcases member with rfl | rfl | rfl | rfl | rfl | rfl
    · decide
    · decide
    · decide
    · decide
    · exact high
    · exact low
  · rw [text, List.mem_singleton] at member
    rw [member]
    exact visible

theorem visible_jsonString {value : List UInt8} {byte : UInt8} (member : byte ∈ jsonString value) :
    ¬byte < 0x20 := by
  rw [jsonString_eq, List.mem_cons, List.mem_append, List.mem_singleton] at member
  rcases member with rfl | inner | rfl
  · decide
  · obtain ⟨character, -, listed⟩ := List.mem_flatMap.mp inner
    exact visible_escapedCharacter listed
  · decide

/-- The text is one literal of the grammar, and its escapes decode to the bytes. -/
structure IsLiteral (text value : List UInt8) : Prop where
  enclosed : ∃ inner, text = 0x22 :: (inner ++ [0x22]) ∧ hasBareQuote inner = false
  visible : ∀ byte ∈ text, ¬byte < 0x20
  decoded : Json.lex text = some [.string value]

theorem isLiteral_jsonString (value : List UInt8) : IsLiteral (jsonString value) value where
  enclosed := ⟨value.flatMap escapedCharacter, jsonString_eq value, hasBareQuote_flatMap value⟩
  visible _ := visible_jsonString
  decoded := Json.lex_of_lexes (quotes_jsonString value)

/-! ### Payloads -/

/-- The key of a member that is not the first. -/
def memberKey (name : String) : List UInt8 := asciiBytes (",\"" ++ name ++ "\":").toList

theorem memberKey_eq {name : String}
    (plain : (asciiBytes name.toList).flatMap escapedCharacter = asciiBytes name.toList) :
    memberKey name = 0x2C :: (jsonString (asciiBytes name.toList) ++ [0x3A]) := by
  have before : asciiBytes ",\"".toList = [0x2C, 0x22] := by decide
  have after : asciiBytes "\":".toList = [0x22, 0x3A] := by decide
  rw [memberKey, String.toList_append, String.toList_append, Json.asciiBytes_append,
    Json.asciiBytes_append, before, after, jsonString_eq, plain]
  simp

/-- What all payloads start with. -/
def payloadOpening (observedAt : Utc) : List UInt8 :=
  asciiBytes "\x7b\"schemaVersion\":1,\"observedAt\":".toList ++
    jsonString (asciiBytes (timestamp observedAt))

theorem payloadOpening_eq (observedAt : Utc) :
    payloadOpening observedAt =
      0x7B :: (jsonString (asciiBytes "schemaVersion".toList) ++ 0x3A :: (asciiBytes "1".toList ++
        0x2C :: (jsonString (asciiBytes "observedAt".toList) ++
          0x3A :: jsonString (asciiBytes (timestamp observedAt))))) := by
  have literal : asciiBytes "\x7b\"schemaVersion\":1,\"observedAt\":".toList =
      0x7B :: (jsonString (asciiBytes "schemaVersion".toList) ++ 0x3A :: (asciiBytes "1".toList ++
        0x2C :: (jsonString (asciiBytes "observedAt".toList) ++ [0x3A]))) := by decide
  rw [payloadOpening, literal]
  simp

def jsonBoolean (value : Bool) : List UInt8 := if value then Json.trueText else Json.falseText

def integer (value : Nat) : Json := .number (asciiBytes (decimal value))

theorem numeric_integer (value : Nat) : Json.Numeric (integer value) :=
  Json.isNumber_decimal value

/-- The names are written as they are. -/
def unescaped (name : String) : Bool :=
  (asciiBytes name.toList).flatMap escapedCharacter == asciiBytes name.toList

def namedMember (member : String × Json) : List UInt8 × Json :=
  (asciiBytes member.1.toList, member.2)

/-- The members that follow the time of an observation. -/
def membersText (members : List (String × Json)) : List UInt8 :=
  members.flatMap fun member => memberKey member.1 ++ Json.render jsonString member.2

theorem membersText_eq {members : List (String × Json)}
    (plain : (members.map Prod.fst).all unescaped = true) :
    membersText members = Json.renderMembers jsonString (members.map namedMember) := by
  induction members with
  | nil => rfl
  | cons member rest inductionHypothesis =>
      rw [List.map_cons, List.all_cons, Bool.and_eq_true] at plain
      have key := memberKey_eq (eq_of_beq plain.1)
      have others := inductionHypothesis plain.2
      rw [membersText] at others
      rw [membersText, List.flatMap_cons, others, key, List.map_cons, namedMember,
        Json.renderMembers]
      simp

/-- What all payloads have in common, read back. -/
def payloadObject (observedAt : Utc) (members : List (String × Json)) : Json :=
  .object
    ((asciiBytes "schemaVersion".toList, .number (asciiBytes "1".toList)) ::
      (asciiBytes "observedAt".toList, .string (asciiBytes (timestamp observedAt))) ::
      members.map namedMember)

/-- A payload is read back as the object of its members. -/
theorem read_payload (observedAt : Utc) {members : List (String × Json)}
    (plain : (members.map Prod.fst).all unescaped = true)
    (numeric : ∀ member ∈ members, Json.Numeric member.2) :
    Json.read (payloadOpening observedAt ++ membersText members ++ [0x7D]) =
      some (payloadObject observedAt members) := by
  have one : Json.isNumber (asciiBytes "1".toList) = true := by decide
  have others : Json.NumericMembers (members.map namedMember) :=
    Json.numericMembers_of_forall (List.forall_mem_map.mpr numeric)
  have written : payloadOpening observedAt ++ membersText members ++ [0x7D] =
      Json.render jsonString (payloadObject observedAt members) := by
    rw [membersText_eq plain, payloadOpening_eq]
    simp [payloadObject, Json.render, Json.renderMembers]
  rw [written]
  exact Json.read_render quotes_jsonString ⟨one, trivial, others⟩

/-! ### Health -/

structure EdgeHealthMessage where
  gatewayId : List UInt8
  state : List UInt8
  pcsHeartbeatOk : Bool := false
  controlReady : Bool := false
  safeMode : Bool := false
  northboundReady : Bool := false
  nodeOnlineCount : Nat := 0
  nodeTotal : Nat := 0
  cpuTemperatureC : Option ℚ := none

/-- A temperature that no processor has is not shown. -/
def shownTemperature (message : EdgeHealthMessage) : Option ℚ :=
  message.cpuTemperatureC.filter fun temperature => -40 ≤ temperature ∧ temperature ≤ 150

def healthPayload (observedAt : Utc) (message : EdgeHealthMessage) : List UInt8 :=
  [ payloadOpening observedAt,
    memberKey "gatewayId", jsonString message.gatewayId,
    memberKey "state", jsonString message.state,
    memberKey "pcsHeartbeatOk", jsonBoolean message.pcsHeartbeatOk,
    memberKey "controlReady", jsonBoolean message.controlReady,
    memberKey "safeMode", jsonBoolean message.safeMode,
    memberKey "northboundReady", jsonBoolean message.northboundReady,
    memberKey "nodeOnlineCount", asciiBytes (decimal message.nodeOnlineCount),
    memberKey "nodeTotal", asciiBytes (decimal message.nodeTotal),
    memberKey "cpuTemperatureC",
    match shownTemperature message with
    | some temperature => asciiBytes (streamDouble temperature)
    | none => Json.nullText,
    [0x7D] ].flatten

def healthMembers (message : EdgeHealthMessage) : List (String × Json) :=
  [ ("gatewayId", .string message.gatewayId),
    ("state", .string message.state),
    ("pcsHeartbeatOk", .bool message.pcsHeartbeatOk),
    ("controlReady", .bool message.controlReady),
    ("safeMode", .bool message.safeMode),
    ("northboundReady", .bool message.northboundReady),
    ("nodeOnlineCount", integer message.nodeOnlineCount),
    ("nodeTotal", integer message.nodeTotal),
    ("cpuTemperatureC",
      (shownTemperature message).elim .null fun temperature =>
        .number (asciiBytes (streamDouble temperature))) ]

theorem healthPayload_eq (observedAt : Utc) (message : EdgeHealthMessage) :
    healthPayload observedAt message =
      payloadOpening observedAt ++ membersText (healthMembers message) ++ [0x7D] := by
  cases shown : shownTemperature message <;>
    simp [healthPayload, membersText, healthMembers, shown, jsonBoolean, integer, Json.render]

theorem numeric_healthMembers (message : EdgeHealthMessage) :
    ∀ member ∈ healthMembers message, Json.Numeric member.2 := by
  have temperature : Json.Numeric ((shownTemperature message).elim .null fun temperature =>
      .number (asciiBytes (streamDouble temperature))) := by
    cases shownTemperature message with
    | none => trivial
    | some temperature => exact Json.isNumber_streamDouble temperature
  simp only [healthMembers, List.forall_mem_cons, Json.Numeric, numeric_integer, temperature]
  simp

theorem healthPayload_reads (observedAt : Utc) (message : EdgeHealthMessage) :
    Json.read (healthPayload observedAt message) =
      some (payloadObject observedAt (healthMembers message)) := by
  have plain : ["gatewayId", "state", "pcsHeartbeatOk", "controlReady", "safeMode",
      "northboundReady", "nodeOnlineCount", "nodeTotal", "cpuTemperatureC"].all unescaped =
        true := by decide
  rw [healthPayload_eq]
  exact read_payload observedAt plain (numeric_healthMembers message)

/-! ### Node telemetry -/

def NodePollStatus.code : NodePollStatus → Nat
  | .unknown => 0
  | .online => 1
  | .transportFailure => 2
  | .identityFailure => 3
  | .telemetryFailure => 4

section NodeTelemetry

variable (gmtime : Int → Utc) (observedAt : Utc) (slot : Nat) (sample : MbusNodeTelemetry)

/-- The slot is counted from one here. -/
def nodeTelemetryPayload : List UInt8 :=
  [ payloadOpening observedAt,
    memberKey "slot", asciiBytes (decimal slot),
    memberKey "nodeAddress", asciiBytes (decimal sample.address.toNat),
    memberKey "nodeType", asciiBytes (decimal sample.nodeType.toNat),
    memberKey "nodeState", asciiBytes (decimal sample.nodeState.toNat),
    memberKey "driverId", asciiBytes (decimal sample.driverId.toNat),
    memberKey "online", jsonBoolean sample.online,
    memberKey "lastSuccessfulContactAt",
    if sample.lastSuccessfulContact = 0 then Json.nullText
    else jsonString (asciiBytes (timestamp (gmtime sample.lastSuccessfulContact))),
    memberKey "quality", asciiBytes (decimal sample.quality.toNat),
    memberKey "actualPowerKw", asciiBytes (streamDouble sample.actualPowerKw),
    memberKey "energyWh", asciiBytes (decimal sample.energyWh.toNat),
    memberKey "deviceState", asciiBytes (decimal sample.deviceState.toNat),
    memberKey "alarmBits", asciiBytes (decimal sample.alarmBits.toNat),
    memberKey "heartbeat", asciiBytes (decimal sample.heartbeat.toNat),
    memberKey "pollStatus", asciiBytes (decimal sample.pollStatus.code),
    memberKey "consecutiveFailures", asciiBytes (decimal sample.consecutiveFailures.toNat),
    memberKey "ethernetStatus", asciiBytes (decimal sample.ethernetStatus.toNat),
    memberKey "modbusTcpStatus", asciiBytes (decimal sample.modbusTcpStatus.toNat),
    memberKey "driverReady", asciiBytes (decimal sample.driverReady.toNat),
    memberKey "deviceBusStatus", asciiBytes (decimal sample.deviceBusStatus.toNat),
    memberKey "watchdogStatus", asciiBytes (decimal sample.watchdogStatus.toNat),
    memberKey "recoveryCount", asciiBytes (decimal sample.recoveryCount.toNat),
    memberKey "lastError", asciiBytes (decimal sample.lastError.toNat),
    [0x7D] ].flatten

def nodeTelemetryMembers : List (String × Json) :=
  [ ("slot", integer slot),
    ("nodeAddress", integer sample.address.toNat),
    ("nodeType", integer sample.nodeType.toNat),
    ("nodeState", integer sample.nodeState.toNat),
    ("driverId", integer sample.driverId.toNat),
    ("online", .bool sample.online),
    ("lastSuccessfulContactAt",
      if sample.lastSuccessfulContact = 0 then .null
      else .string (asciiBytes (timestamp (gmtime sample.lastSuccessfulContact)))),
    ("quality", integer sample.quality.toNat),
    ("actualPowerKw", .number (asciiBytes (streamDouble sample.actualPowerKw))),
    ("energyWh", integer sample.energyWh.toNat),
    ("deviceState", integer sample.deviceState.toNat),
    ("alarmBits", integer sample.alarmBits.toNat),
    ("heartbeat", integer sample.heartbeat.toNat),
    ("pollStatus", integer sample.pollStatus.code),
    ("consecutiveFailures", integer sample.consecutiveFailures.toNat),
    ("ethernetStatus", integer sample.ethernetStatus.toNat),
    ("modbusTcpStatus", integer sample.modbusTcpStatus.toNat),
    ("driverReady", integer sample.driverReady.toNat),
    ("deviceBusStatus", integer sample.deviceBusStatus.toNat),
    ("watchdogStatus", integer sample.watchdogStatus.toNat),
    ("recoveryCount", integer sample.recoveryCount.toNat),
    ("lastError", integer sample.lastError.toNat) ]

theorem nodeTelemetryPayload_eq :
    nodeTelemetryPayload gmtime observedAt slot sample =
      payloadOpening observedAt ++ membersText (nodeTelemetryMembers gmtime slot sample) ++
        [0x7D] := by
  by_cases never : sample.lastSuccessfulContact = 0 <;>
    simp [nodeTelemetryPayload, membersText, nodeTelemetryMembers, never, jsonBoolean, integer,
      Json.render]

theorem numeric_nodeTelemetryMembers :
    ∀ member ∈ nodeTelemetryMembers gmtime slot sample, Json.Numeric member.2 := by
  have contact : Json.Numeric (if sample.lastSuccessfulContact = 0 then .null
      else .string (asciiBytes (timestamp (gmtime sample.lastSuccessfulContact)))) := by
    split <;> trivial
  have power : Json.Numeric (.number (asciiBytes (streamDouble sample.actualPowerKw))) :=
    Json.isNumber_streamDouble sample.actualPowerKw
  simp only [nodeTelemetryMembers, List.forall_mem_cons, numeric_integer, contact, power]
  simp [Json.Numeric]

theorem nodeTelemetryPayload_reads :
    Json.read (nodeTelemetryPayload gmtime observedAt slot sample) =
      some (payloadObject observedAt (nodeTelemetryMembers gmtime slot sample)) := by
  have plain : ["slot", "nodeAddress", "nodeType", "nodeState", "driverId", "online",
      "lastSuccessfulContactAt", "quality", "actualPowerKw", "energyWh", "deviceState",
      "alarmBits", "heartbeat", "pollStatus", "consecutiveFailures", "ethernetStatus",
      "modbusTcpStatus", "driverReady", "deviceBusStatus", "watchdogStatus", "recoveryCount",
      "lastError"].all unescaped = true := by decide
  rw [nodeTelemetryPayload_eq]
  exact read_payload observedAt plain (numeric_nodeTelemetryMembers gmtime slot sample)

end NodeTelemetry

/-! ### System telemetry -/

structure SystemTelemetrySample (Value : Type) where
  sensorId : List UInt8
  unit : List UInt8
  value : Value

section SystemTelemetry

variable {Value : Type} (printed : Value → List UInt8)

/-- One sample, after a comma unless it is the first. -/
def sampleText (sample : SystemTelemetrySample Value) (index : Nat) : List UInt8 :=
  [ if index ≠ 0 then [0x2C] else [],
    asciiBytes "\x7b\"sensorId\":".toList, jsonString sample.sensorId,
    memberKey "value", printed sample.value,
    memberKey "unit", jsonString sample.unit, [0x7D] ].flatten

def systemTelemetryPayload (observedAt : Utc) (gatewayId bootId : List UInt8) (sequence : UInt64)
    (samples : List (SystemTelemetrySample Value)) : List UInt8 :=
  [ payloadOpening observedAt,
    memberKey "gatewayId", jsonString gatewayId,
    memberKey "bootId", jsonString bootId,
    memberKey "sequence", asciiBytes (decimal sequence.toNat),
    memberKey "samples", [0x5B],
    samples.zipIdx.flatMap fun indexed => sampleText printed indexed.1 indexed.2,
    [0x5D, 0x7D] ].flatten

/-- The object that a sample is meant to be. -/
def sampleObject (sample : SystemTelemetrySample Value) : Json :=
  .object
    [ (asciiBytes "sensorId".toList, .string sample.sensorId),
      (asciiBytes "value".toList, .number (printed sample.value)),
      (asciiBytes "unit".toList, .string sample.unit) ]

def systemTelemetryMembers (gatewayId bootId : List UInt8) (sequence : UInt64)
    (samples : List (SystemTelemetrySample Value)) : List (String × Json) :=
  [ ("gatewayId", .string gatewayId),
    ("bootId", .string bootId),
    ("sequence", integer sequence.toNat),
    ("samples", .array (samples.map (sampleObject printed))) ]

theorem render_sampleObject (sample : SystemTelemetrySample Value) :
    Json.render jsonString (sampleObject printed sample) = sampleText printed sample 0 := by
  have opening : asciiBytes "\x7b\"sensorId\":".toList =
      0x7B :: (jsonString (asciiBytes "sensorId".toList) ++ [0x3A]) := by decide
  have value := @memberKey_eq "value" (by decide)
  have unit := @memberKey_eq "unit" (by decide)
  rw [sampleText, opening, value, unit]
  simp [sampleObject, Json.render, Json.renderMembers]

theorem flatMap_sampleText_succ (samples : List (SystemTelemetrySample Value)) (start : Nat) :
    ((samples.zipIdx (start + 1)).flatMap fun indexed => sampleText printed indexed.1 indexed.2) =
      Json.renderItems jsonString (samples.map (sampleObject printed)) := by
  induction samples generalizing start with
  | nil => rfl
  | cons sample rest inductionHypothesis =>
      have first : sampleText printed sample (start + 1) =
          0x2C :: sampleText printed sample 0 := rfl
      rw [List.zipIdx_cons, List.flatMap_cons, inductionHypothesis, first, List.map_cons,
        Json.renderItems, render_sampleObject]
      rfl

/-- The loop over the samples writes the items of an array. -/
theorem flatMap_sampleText (samples : List (SystemTelemetrySample Value)) :
    (samples.zipIdx.flatMap fun indexed => sampleText printed indexed.1 indexed.2) =
      (Json.renderItems jsonString (samples.map (sampleObject printed))).drop 1 := by
  cases samples with
  | nil => rfl
  | cons sample rest =>
      rw [List.zipIdx_cons, List.flatMap_cons, flatMap_sampleText_succ, List.map_cons,
        Json.renderItems, render_sampleObject]
      rfl

theorem systemTelemetryPayload_eq (observedAt : Utc) (gatewayId bootId : List UInt8)
    (sequence : UInt64) (samples : List (SystemTelemetrySample Value)) :
    systemTelemetryPayload printed observedAt gatewayId bootId sequence samples =
      payloadOpening observedAt ++
        membersText (systemTelemetryMembers printed gatewayId bootId sequence samples) ++
        [0x7D] := by
  rw [systemTelemetryPayload, flatMap_sampleText]
  simp [membersText, systemTelemetryMembers, integer, Json.render]

theorem numeric_samples {samples : List (SystemTelemetrySample Value)}
    (numbers : ∀ sample ∈ samples, Json.isNumber (printed sample.value) = true) :
    Json.NumericItems (samples.map (sampleObject printed)) := by
  apply Json.numericItems_of_forall
  rw [List.forall_mem_map]
  exact fun sample member => ⟨trivial, numbers sample member, trivial, trivial⟩

end SystemTelemetry

/-- A string is one literal that decodes to its bytes, so no identifier breaks out of a
payload: it is read back as its object, with one entry for each sample. -/
theorem systemTelemetryPayload_reads {Value : Type} (printed : Value → List UInt8)
    {samples : List (SystemTelemetrySample Value)}
    (numbers : ∀ sample ∈ samples, Json.isNumber (printed sample.value) = true) :
    (∀ value, IsLiteral (jsonString value) value) ∧ Function.Injective jsonString ∧
      ∀ observedAt gatewayId bootId sequence,
        Json.read (systemTelemetryPayload printed observedAt gatewayId bootId sequence samples) =
          some (payloadObject observedAt
            (systemTelemetryMembers printed gatewayId bootId sequence samples)) := by
  refine ⟨isLiteral_jsonString, jsonString_injective,
    fun observedAt gatewayId bootId sequence => ?_⟩
  have plain : ["gatewayId", "bootId", "sequence", "samples"].all unescaped = true := by decide
  have items : Json.Numeric (.array (samples.map (sampleObject printed))) :=
    numeric_samples printed numbers
  rw [systemTelemetryPayload_eq]
  refine read_payload observedAt plain ?_
  simp only [systemTelemetryMembers, List.forall_mem_cons, Json.Numeric, numeric_integer]
  exact ⟨trivial, trivial, trivial, items, by simp⟩

/-- A sensor whose names try to end their strings and to add a member. -/
def hostileSamples : List (SystemTelemetrySample ℚ) :=
  [ { sensorId := asciiBytes "cpu\",\"value\":0,\"".toList, unit := [0x07, 0x22], value := 1 / 3 },
    { sensorId := [0xFF, 0x00, 0x5C], unit := asciiBytes "celsius".toList, value := -40 } ]

theorem systemTelemetryPayload_reads_hostile :
    let printed : ℚ → List UInt8 := fun value => asciiBytes (streamDouble value)
    (∀ value, IsLiteral (jsonString value) value) ∧ Function.Injective jsonString ∧
      ∀ observedAt gatewayId bootId sequence,
        Json.read (systemTelemetryPayload printed observedAt gatewayId bootId sequence
            hostileSamples) =
          some (payloadObject observedAt
            (systemTelemetryMembers printed gatewayId bootId sequence hostileSamples)) :=
  systemTelemetryPayload_reads _ fun sample _ => Json.isNumber_streamDouble sample.value

end GridexEdge.RockPi
