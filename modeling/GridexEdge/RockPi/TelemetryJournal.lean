import GridexEdge.Foundation.Runs
import GridexEdge.RockPi.JournalRecord

/-!
The telemetry journal: a line is appended to the current file, which becomes the
prior file before it would exceed its bound.

Every system call of an append may fail. The files carry a ghost history,
newest first, of the discards, rotations and appends that took effect.
-/

namespace GridexEdge.RockPi

open GridexEdge.Core Foundation

structure TelemetryJournalConfig where
  path : String
  maxBytes : Nat := 4 * 1024 * 1024
  enabled : Bool := true

/-- The journal of a service whose environment says nothing about it. -/
def serviceJournal : TelemetryJournalConfig where
  path := "/var/lib/gridex/telemetry-journal.ndjson"

structure TelemetryJournal where
  config : TelemetryJournalConfig
  sequence : UInt64 := 0

/-- How the system calls of one append turn out. The size is truthful or a
failure other than a missing file; `shortWrite` is what a write stores when it
does not store everything. -/
structure SystemCalls where
  observedAt : Utc := {}
  directoriesReady : Bool := true
  sizeKnown : Bool := true
  priorRemoved : Bool := true
  renamed : Bool := true
  opened : Bool := true
  shortWrite : Option Nat := none
  synced : Bool := true

namespace SystemCalls

/-- How many bytes of a line a write stores. -/
def written (calls : SystemCalls) (line : Text) : Nat :=
  min (calls.shortWrite.getD line.length) line.length

end SystemCalls

/-- An append stored its whole line or not, and was reported as a success or not. -/
inductive JournalOccurrence where
  | discarded
  | rotated
  | appended (entry : JournalEntry) (stored succeeded : Bool)

structure JournalFiles where
  current : Option Text := none
  prior : Option Text := none
  history : List JournalOccurrence := []

namespace JournalFiles

variable (calls : SystemCalls) (files : JournalFiles)

/-- Both files, the prior one first. -/
def contents : Text := files.prior.getD [] ++ files.current.getD []

def note (occurrence : JournalOccurrence) : JournalFiles :=
  { files with history := occurrence :: files.history }

def removePrior : JournalFiles :=
  if calls.priorRemoved then { files with prior := none }.note .discarded else files

def renameToPrior : Bool × JournalFiles :=
  if calls.renamed then
    (true, { files with current := none, prior := files.current }.note .rotated)
  else (false, files)

/-- The open call creates a missing file, and the write appends to it. -/
def appendText (text : Text) : JournalFiles :=
  { files with current := some (files.current.getD [] ++ text) }

end JournalFiles

namespace TelemetryJournal

variable (calls : SystemCalls) (journal : TelemetryJournal) (files : JournalFiles)

def construct (config : TelemetryJournalConfig) : TelemetryJournal :=
  if config.path = "" ∨ config.maxBytes < 64 * 1024 then
    { config := { config with enabled := false } }
  else { config := config }

def enabled : Bool := journal.config.enabled

def nextSequence : UInt64 := journal.sequence + 1

def record (observedAt : Utc) (kind : RecordKind) (slot : Nat) (sample : MbusNodeTelemetry)
    (previousStatus : NodePollStatus) : JournalEntry :=
  { sequence := journal.nextSequence
    observedAt := observedAt
    kind := kind
    slot := slot
    sample := sample
    previousStatus := previousStatus }

/-- A missing file needs no rotation, whatever the size of the line. -/
def rotateIfNeeded (incomingBytes : Nat) : Bool × JournalFiles :=
  if !calls.directoriesReady then (false, files)
  else if !calls.sizeKnown then (false, files)
  else
    match files.current with
    | none => (true, files)
    | some text =>
        if text.length + incomingBytes ≤ journal.config.maxBytes then (true, files)
        else (files.removePrior calls).renameToPrior calls

/-- The sequence counter moves only after the line is stored and synced. -/
def append (entry : JournalEntry) : Bool × TelemetryJournal × JournalFiles :=
  if !journal.enabled then (true, journal, files)
  else
    let rotated := journal.rotateIfNeeded calls files entry.line.length
    if !rotated.1 || !calls.opened then
      (false, journal, rotated.2.note (.appended entry false false))
    else
      let count := calls.written entry.line
      let stored := count == entry.line.length
      let synced := stored && calls.synced
      (synced,
        if synced then { journal with sequence := journal.sequence + 1 } else journal,
        (rotated.2.appendText (entry.line.take count)).note (.appended entry stored synced))

end TelemetryJournal

/-- The calls the main loop makes. -/
inductive JournalCall where
  | appendSnapshot (slot : Nat) (sample : MbusNodeTelemetry) (calls : SystemCalls)
  | appendTransition (slot : Nat) (sample : MbusNodeTelemetry) (previousStatus : NodePollStatus)
      (calls : SystemCalls)

namespace JournalCall

def systemCalls : JournalCall → SystemCalls
  | .appendSnapshot _ _ calls => calls
  | .appendTransition _ _ _ calls => calls

/-- The record a call asks the journal for. -/
def entry (journal : TelemetryJournal) : JournalCall → JournalEntry
  | .appendSnapshot slot sample calls =>
      journal.record calls.observedAt .snapshot slot sample .unknown
  | .appendTransition slot sample previousStatus calls =>
      journal.record calls.observedAt .transition slot sample previousStatus

@[simp]
theorem entry_sequence (journal : TelemetryJournal) (call : JournalCall) :
    (call.entry journal).sequence = journal.nextSequence := by
  cases call <;> rfl

end JournalCall

/-- A journal and the files behind it. -/
structure JournalStore where
  journal : TelemetryJournal
  files : JournalFiles := {}

namespace JournalStore

variable (store : JournalStore)

/-- A process that finds these files. -/
def start (config : TelemetryJournalConfig) (current prior : Option Text) : JournalStore :=
  { journal := .construct config, files := { current := current, prior := prior } }

/-- One call, with what it returns. -/
def perform (call : JournalCall) : Bool × JournalStore :=
  let appended := store.journal.append call.systemCalls store.files (call.entry store.journal)
  (appended.1, { journal := appended.2.1, files := appended.2.2 })

def step (call : JournalCall) : JournalStore := (store.perform call).2

/-- Rotation and open have succeeded: the line is handed to the write call. -/
def reachesWrite (call : JournalCall) : Bool :=
  store.journal.enabled &&
    (store.journal.rotateIfNeeded call.systemCalls store.files
      (call.entry store.journal).line.length).1 && call.systemCalls.opened

/-- The whole line reaches the file. -/
def stores (call : JournalCall) : Bool :=
  let line := (call.entry store.journal).line
  store.reachesWrite call && call.systemCalls.written line == line.length

/-- A write that stores anything stores the whole line. -/
def WholeOrNothing (call : JournalCall) : Prop :=
  store.reachesWrite call = true →
    call.systemCalls.written (call.entry store.journal).line = 0 ∨ store.stores call = true

instance (call : JournalCall) : Decidable (store.WholeOrNothing call) :=
  inferInstanceAs (Decidable (_ → _))

end JournalStore

end GridexEdge.RockPi
