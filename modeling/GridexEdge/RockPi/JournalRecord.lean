import GridexEdge.Foundation.RecordLog
import GridexEdge.Foundation.StreamFormat
import GridexEdge.RockPi.MbusNodeTelemetry

/-!
The records of the telemetry journal and the text of each. All of it is ASCII,
so a character is a byte.
-/

namespace GridexEdge.RockPi

open GridexEdge.Core Foundation

/-- A broken-down time of the system clock. -/
structure Utc where
  year : Nat := 1970
  month : Nat := 1
  day : Nat := 1
  hour : Nat := 0
  minute : Nat := 0
  second : Nat := 0

def timestamp (utc : Utc) : Text :=
  decimal utc.year ++ "-".toList ++ padded 2 utc.month ++ "-".toList ++ padded 2 utc.day ++
    "T".toList ++ padded 2 utc.hour ++ ":".toList ++ padded 2 utc.minute ++ ":".toList ++
    padded 2 utc.second ++ "Z".toList

def pollStatusName : NodePollStatus → Text
  | .unknown => "unknown".toList
  | .online => "online".toList
  | .transportFailure => "transport_failure".toList
  | .identityFailure => "identity_failure".toList
  | .telemetryFailure => "telemetry_failure".toList

def jsonBool (value : Bool) : Text := if value then "true".toList else "false".toList

inductive RecordKind where
  | snapshot
  | transition
  deriving DecidableEq

def RecordKind.name : RecordKind → Text
  | .snapshot => "snapshot".toList
  | .transition => "transition".toList

/-- What one record says. -/
structure JournalEntry where
  sequence : UInt64
  observedAt : Utc := {}
  kind : RecordKind
  slot : Nat
  sample : MbusNodeTelemetry
  previousStatus : NodePollStatus

namespace JournalEntry

variable (entry : JournalEntry)

/-- What the stream is given, in order. -/
def pieces : List Text :=
  [ "\x7b\"schemaVersion\":1,\"sequence\":".toList, decimal entry.sequence.toNat,
    ",\"observedAt\":\"".toList, timestamp entry.observedAt,
    "\",\"kind\":\"".toList, entry.kind.name,
    "\",\"slot\":".toList, decimal entry.slot,
    ",\"online\":".toList, jsonBool entry.sample.online,
    ",\"pollStatus\":\"".toList, pollStatusName entry.sample.pollStatus,
    "\",\"previousPollStatus\":\"".toList, pollStatusName entry.previousStatus,
    "\",\"consecutiveFailures\":".toList, decimal entry.sample.consecutiveFailures.toNat,
    ",\"heartbeat\":".toList, decimal entry.sample.heartbeat.toNat,
    ",\"actualPowerKw\":".toList, streamDouble entry.sample.actualPowerKw,
    ",\"energyWh\":".toList, decimal entry.sample.energyWh.toNat,
    ",\"quality\":".toList, decimal entry.sample.quality.toNat,
    ",\"alarmBits\":".toList, decimal entry.sample.alarmBits.toNat,
    ",\"lastError\":".toList, decimal entry.sample.lastError.toNat,
    "\x7d".toList ]

/-- The JSON object of a record, without the newline that ends it. -/
def text : Text := entry.pieces.flatten

/-- The bytes of one append. -/
def line : Text := entry.text ++ ['\n']

end JournalEntry

/-! ### A record is one line -/

theorem newline_notMem_of_numeric {text : Text} (all : text.all numeric) : '\n' ∉ text := by
  intro member
  rw [List.all_eq_true] at all
  exact absurd (all '\n' member) (by decide)

theorem newline_notMem_decimal (value : Nat) : '\n' ∉ decimal value :=
  newline_notMem_of_numeric (numeric_decimal value)

theorem newline_notMem_padded (width value : Nat) : '\n' ∉ padded width value :=
  newline_notMem_of_numeric (numeric_padded width value)

theorem newline_notMem_streamDouble (value : ℚ) : '\n' ∉ streamDouble value :=
  newline_notMem_of_numeric (numeric_streamDouble value)

theorem newline_notMem_timestamp (utc : Utc) : '\n' ∉ timestamp utc := by
  simp [timestamp, newline_notMem_decimal, newline_notMem_padded]

theorem newline_notMem_pollStatusName (status : NodePollStatus) : '\n' ∉ pollStatusName status := by
  cases status <;> decide

theorem newline_notMem_jsonBool (value : Bool) : '\n' ∉ jsonBool value := by
  cases value <;> decide

theorem newline_notMem_kind (kind : RecordKind) : '\n' ∉ kind.name := by
  cases kind <;> decide

namespace JournalEntry

theorem newline_notMem_pieces (entry : JournalEntry) : ∀ piece ∈ entry.pieces, '\n' ∉ piece := by
  simp only [pieces, List.forall_mem_cons, newline_notMem_decimal, newline_notMem_timestamp,
    newline_notMem_streamDouble, newline_notMem_pollStatusName, newline_notMem_jsonBool,
    newline_notMem_kind, not_false_eq_true, true_and]
  refine ⟨?_, ?_, ?_, ?_, ?_, ?_, ?_, ?_, ?_, ?_, ?_, ?_, ?_, ?_, ?_, by simp⟩ <;> decide

theorem newline_notMem_text (entry : JournalEntry) : '\n' ∉ entry.text := by
  rw [text, List.mem_flatten]
  rintro ⟨piece, listed, member⟩
  exact entry.newline_notMem_pieces piece listed member

/-- A record opens with one brace and a quotation mark. -/
theorem text_opening (entry : JournalEntry) :
    ∃ rest, entry.text = '\x7b' :: '"' :: rest := ⟨entry.text.drop 2, rfl⟩

end JournalEntry

end GridexEdge.RockPi
