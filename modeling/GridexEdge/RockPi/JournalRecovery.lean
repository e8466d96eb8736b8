import GridexEdge.Foundation.JsonTorn
import GridexEdge.Foundation.Segments
import GridexEdge.RockPi.JournalWindow
import GridexEdge.RockPi.MqttHealthPublisher

/-!
What a reader recovers from the journal after any life of the gateway.

A write may stop at any byte, any system call may fail and the process may end and start
again. The reader takes the complete lines of both files, the prior one first, and of these
the ones that are JSON.
-/

namespace GridexEdge.RockPi

open Foundation

/-! ### A record as an object -/

/-- A text that a string holds as it is. -/
def Unescaped (text : Text) : Prop :=
  (asciiBytes text).flatMap escapedCharacter = asciiBytes text

theorem Unescaped.append {first second : Text} (plainFirst : Unescaped first)
    (plainSecond : Unescaped second) : Unescaped (first ++ second) := by
  rw [Unescaped, Json.asciiBytes_append, List.flatMap_append, plainFirst, plainSecond]

theorem Unescaped.jsonString {text : Text} (plain : Unescaped text) :
    jsonString (asciiBytes text) = 0x22 :: (asciiBytes text ++ [0x22]) := by
  rw [jsonString_eq, plain]

theorem escapedCharacter_digit {character : Char} (digit : character.isDigit = true) :
    escapedCharacter character.val.toUInt8 = [character.val.toUInt8] := by
  obtain ⟨small, low, high⟩ := Json.toNat_digit digit
  rw [← small] at low high
  have apart : ∀ value : Nat, 48 ≤ value → value < 58 →
      escapedCharacter (UInt8.ofNat value) = [UInt8.ofNat value] := by decide
  have same := apart character.val.toUInt8.toNat low (by omega)
  rwa [UInt8.ofNat_toNat] at same

theorem unescaped_of_digits {text : Text} (digits : text.all Char.isDigit = true) :
    Unescaped text := by
  induction text with
  | nil => rfl
  | cons character rest inductionHypothesis =>
      rw [List.all_cons, Bool.and_eq_true] at digits
      have others := inductionHypothesis digits.2
      rw [Unescaped, asciiBytes] at others
      rw [Unescaped, asciiBytes, List.map_cons, List.flatMap_cons, others,
        escapedCharacter_digit digits.1]
      rfl

theorem unescaped_timestamp (utc : Utc) : Unescaped (timestamp utc) := by
  have number (value : Nat) : Unescaped (decimal value) :=
    unescaped_of_digits (Json.all_isDigit_decimal value)
  have filled (value : Nat) : Unescaped (padded 2 value) :=
    unescaped_of_digits (Json.NumberPart.all_isDigit_padded 2 value)
  have marks : ∀ mark ∈ ["-", "T", ":", "Z"], Unescaped mark.toList := by
    simp only [Unescaped]
    decide
  have dash := marks "-" (by simp)
  have colon := marks ":" (by simp)
  exact ((((((((((number _).append dash).append (filled _)).append dash).append
    (filled _)).append (marks "T" (by simp))).append (filled _)).append colon).append
    (filled _)).append colon |>.append (filled _)).append (marks "Z" (by simp))

theorem unescaped_pollStatusName (status : NodePollStatus) : Unescaped (pollStatusName status) := by
  cases status <;> (simp only [Unescaped]; decide)

theorem unescaped_kind (kind : RecordKind) : Unescaped kind.name := by
  cases kind <;> (simp only [Unescaped]; decide)

namespace JournalEntry

variable (entry : JournalEntry)

def members : List (String × Json) :=
  [ ("schemaVersion", integer 1),
    ("sequence", integer entry.sequence.toNat),
    ("observedAt", .string (asciiBytes (timestamp entry.observedAt))),
    ("kind", .string (asciiBytes entry.kind.name)),
    ("slot", integer entry.slot),
    ("online", .bool entry.sample.online),
    ("pollStatus", .string (asciiBytes (pollStatusName entry.sample.pollStatus))),
    ("previousPollStatus", .string (asciiBytes (pollStatusName entry.previousStatus))),
    ("consecutiveFailures", integer entry.sample.consecutiveFailures.toNat),
    ("heartbeat", integer entry.sample.heartbeat.toNat),
    ("actualPowerKw", .number (asciiBytes (streamDouble entry.sample.actualPowerKw))),
    ("energyWh", integer entry.sample.energyWh.toNat),
    ("quality", integer entry.sample.quality.toNat),
    ("alarmBits", integer entry.sample.alarmBits.toNat),
    ("lastError", integer entry.sample.lastError.toNat) ]

/-- The object that a record is meant to be. -/
def object : Json := .object (entry.members.map namedMember)

theorem numeric_object : Json.Numeric entry.object := by
  have power : Json.Numeric (.number (asciiBytes (streamDouble entry.sample.actualPowerKw))) :=
    Json.isNumber_streamDouble entry.sample.actualPowerKw
  apply Json.numericMembers_of_forall
  rw [List.forall_mem_map]
  simp only [members, List.forall_mem_cons, namedMember, numeric_integer, power]
  simp [Json.Numeric]

/-- The pieces of a record that are always the same, as the keys of its members. -/
theorem bytes_literals :
    asciiBytes "\x7b\"schemaVersion\":1,\"sequence\":".toList =
        0x7B :: ((memberKey "schemaVersion").drop 1 ++ (asciiBytes (decimal 1) ++
          memberKey "sequence")) ∧
      asciiBytes ",\"observedAt\":\"".toList = memberKey "observedAt" ++ [0x22] ∧
      asciiBytes "\",\"kind\":\"".toList = 0x22 :: (memberKey "kind" ++ [0x22]) ∧
      asciiBytes "\",\"slot\":".toList = 0x22 :: memberKey "slot" ∧
      asciiBytes ",\"pollStatus\":\"".toList = memberKey "pollStatus" ++ [0x22] ∧
      asciiBytes "\",\"previousPollStatus\":\"".toList =
        0x22 :: (memberKey "previousPollStatus" ++ [0x22]) ∧
      asciiBytes "\",\"consecutiveFailures\":".toList =
        0x22 :: memberKey "consecutiveFailures" ∧
      (∀ key ∈ [(",\"online\":", "online"), (",\"heartbeat\":", "heartbeat"),
        (",\"actualPowerKw\":", "actualPowerKw"), (",\"energyWh\":", "energyWh"),
        (",\"quality\":", "quality"), (",\"alarmBits\":", "alarmBits"),
        (",\"lastError\":", "lastError"), ("\x7d", "")],
          asciiBytes key.1.toList = if key.2 = "" then [0x7D] else memberKey key.2) ∧
      ∀ more, (memberKey "schemaVersion" ++ more).drop 1 =
        (memberKey "schemaVersion").drop 1 ++ more := by
  refine ⟨?_, ?_, ?_, ?_, ?_, ?_, ?_, ?_, fun _ => List.drop_append_of_le_length ?_⟩ <;>
    decide +kernel

theorem bytes_text : asciiBytes entry.text = Json.render jsonString entry.object := by
  have plain : (entry.members.map Prod.fst).all unescaped = true :=
    (by decide +kernel : ["schemaVersion", "sequence", "observedAt", "kind", "slot", "online",
      "pollStatus", "previousPollStatus", "consecutiveFailures", "heartbeat", "actualPowerKw",
      "energyWh", "quality", "alarmBits", "lastError"].all unescaped = true)
  have rendered : Json.render jsonString entry.object =
      0x7B :: ((membersText entry.members).drop 1 ++ [0x7D]) := by
    rw [membersText_eq plain]
    rfl
  have pieces : asciiBytes entry.text = (entry.pieces.map asciiBytes).flatten := by
    rw [text, asciiBytes, List.map_flatten]
    rfl
  obtain ⟨opening, observedAt, kind, slot, pollStatus, previous, failures, names, dropped⟩ :=
    bytes_literals
  simp only [List.forall_mem_cons, String.reduceEq, if_false, if_true] at names
  obtain ⟨online, heartbeat, power, energy, quality, alarms, error, closing, -⟩ := names
  have flag : asciiBytes (jsonBool entry.sample.online) =
      Json.render jsonString (.bool entry.sample.online) := by
    cases entry.sample.online <;> rfl
  rw [rendered, pieces]
  simp only [JournalEntry.pieces, members, membersText, List.map_cons, List.map_nil,
    List.flatten_cons, List.flatten_nil, List.flatMap_cons, List.flatMap_nil, List.append_nil,
    opening, observedAt, kind, slot, pollStatus, previous, failures, online, heartbeat, power,
    energy, quality, alarms, error, closing, flag, integer, Json.render, dropped,
    (unescaped_timestamp _).jsonString, (unescaped_kind _).jsonString,
    (unescaped_pollStatusName _).jsonString, List.append_assoc, List.cons_append, List.nil_append]

theorem lexes_text : Json.Lexes (asciiBytes entry.text) (Json.tokens entry.object) := by
  rw [bytes_text]
  exact Json.lexes_render quotes_jsonString entry.object entry.numeric_object

theorem read_text : Json.read (asciiBytes entry.text) = some entry.object := by
  rw [bytes_text]
  exact Json.read_render quotes_jsonString entry.numeric_object

theorem opensKey_text : Json.OpensKey (asciiBytes entry.text) where
  split := by
    have literal : asciiBytes "\x7b\"schemaVersion\":1,\"sequence\":".toList =
        0x7B :: 0x22 :: (asciiBytes "schemaVersion".toList ++
          0x22 :: asciiBytes ":1,\"sequence\":".toList) := by decide +kernel
    have first : entry.text = "\x7b\"schemaVersion\":1,\"sequence\":".toList ++
        entry.pieces.tail.flatten := rfl
    refine ⟨asciiBytes "schemaVersion".toList, asciiBytes ":1,\"sequence\":".toList ++
      asciiBytes entry.pieces.tail.flatten, ?_, ?_⟩
    · rw [first, Json.asciiBytes_append, literal]
      simp only [List.cons_append, List.append_assoc]
    · decide +kernel

/-- A record behind what was left of another one cannot be read. -/
theorem read_behind (rest : Text) :
    Json.read (asciiBytes ('\x7b' :: rest ++ entry.text)) = none := by
  rw [Json.asciiBytes_append]
  exact Json.read_torn entry.opensKey_text entry.lexes_text

end JournalEntry

/-! ### The pieces of a file -/

/-- What a write has left of the line of a record. -/
structure JournalPiece where
  entry : JournalEntry
  count : Nat

namespace JournalPiece

variable (piece : JournalPiece)

def bytes : Text := piece.entry.line.take piece.count

def whole : Bool := decide (piece.entry.line.length ≤ piece.count)

/-- Something was written, and not all of it. -/
def torn : Bool := decide (0 < piece.count) && !piece.whole

end JournalPiece

/-- The records whose lines are whole and stand behind no torn one. -/
def legible : Bool → List JournalPiece → List JournalEntry
  | _, [] => []
  | spoilt, piece :: rest =>
      if piece.whole then (if spoilt then [] else [piece.entry]) ++ legible false rest
      else legible (spoilt || piece.torn) rest

def wholeEntries (pieces : List JournalPiece) : List JournalEntry :=
  (pieces.filter JournalPiece.whole).map JournalPiece.entry

theorem legible_sublist (spoilt : Bool) (pieces : List JournalPiece) :
    (legible spoilt pieces).Sublist (wholeEntries pieces) := by
  induction pieces generalizing spoilt with
  | nil => exact .slnil
  | cons piece rest inductionHypothesis =>
      rw [legible, wholeEntries, List.filter_cons]
      cases piece.whole with
      | false => exact inductionHypothesis _
      | true =>
          cases spoilt with
          | false => exact (inductionHypothesis false).cons_cons piece.entry
          | true => exact (inductionHypothesis false).cons piece.entry

/-- Every torn line costs one whole line at the most. -/
theorem length_legible (spoilt : Bool) (pieces : List JournalPiece) :
    (wholeEntries pieces).length ≤
      (legible spoilt pieces).length + (pieces.filter JournalPiece.torn).length + spoilt.toNat := by
  induction pieces generalizing spoilt with
  | nil => exact Nat.zero_le _
  | cons piece rest inductionHypothesis =>
      have others := inductionHypothesis false
      have later := inductionHypothesis (spoilt || piece.torn)
      rw [wholeEntries, List.length_map] at others later
      rw [legible, wholeEntries, List.length_map, List.filter_cons, List.filter_cons]
      cases whole : piece.whole with
      | true =>
          have notTorn : piece.torn = false := by
            rw [JournalPiece.torn, whole, Bool.not_true, Bool.and_false]
          rw [notTorn, if_pos rfl, if_pos rfl, if_neg Bool.false_ne_true, List.length_cons,
            List.length_append]
          cases spoilt <;> simp at others ⊢ <;> omega
      | false =>
          rw [if_neg Bool.false_ne_true, if_neg Bool.false_ne_true]
          cases torn : piece.torn with
          | true =>
              rw [torn, Bool.or_true] at later
              rw [Bool.or_true, if_pos rfl, List.length_cons]
              simp only [Bool.toNat_true] at later
              omega
          | false =>
              rw [torn, Bool.or_false] at later
              rw [Bool.or_false, if_neg Bool.false_ne_true]
              exact later

/-! ### The lines of a file -/

def isNewline (character : Char) : Bool := character == '\n'

/-- The complete lines that are JSON. -/
def linesRead (text : Text) : List Json :=
  (endedSegments isNewline text).filterMap fun line => Json.read (asciiBytes line)

/-- What stands in the last line: nothing, or what begins like a record. -/
def Begun (spoilt : Bool) (text : Text) : Prop :=
  (∀ character ∈ text, isNewline character = false) ∧
    if spoilt then ∃ rest, text = '\x7b' :: rest else text = []

theorem isNewline_text (entry : JournalEntry) :
    ∀ character ∈ entry.text, isNewline character = false := by
  intro character member
  rw [isNewline, beq_eq_false_iff_ne]
  rintro rfl
  exact entry.newline_notMem_text member

theorem read_begun {spoilt : Bool} {before : Text} (begun : Begun spoilt before)
    (entry : JournalEntry) :
    Json.read (asciiBytes (before ++ entry.text)) = if spoilt then none else some entry.object := by
  cases spoilt with
  | false =>
      have nothing : before = [] := begun.2
      rw [nothing]
      exact entry.read_text
  | true =>
      obtain ⟨rest, rfl⟩ := begun.2
      exact entry.read_behind rest

theorem Begun.append {spoilt : Bool} {before : Text} (begun : Begun spoilt before)
    {piece : JournalPiece} (cut : piece.whole = false) :
    Begun (spoilt || piece.torn) (before ++ piece.bytes) := by
  have short : piece.count ≤ piece.entry.text.length := by
    have length : piece.entry.line.length = piece.entry.text.length + 1 := by
      rw [JournalEntry.line, List.length_append, List.length_singleton]
    have less := of_decide_eq_false cut
    omega
  have left : piece.bytes = piece.entry.text.take piece.count :=
    List.take_append_of_le_length short
  rw [left]
  refine ⟨?_, ?_⟩
  · rw [List.forall_mem_append]
    refine ⟨begun.1, fun character member => ?_⟩
    exact isNewline_text piece.entry character (List.mem_of_mem_take member)
  · cases spoilt with
    | true =>
        obtain ⟨rest, rfl⟩ := begun.2
        exact ⟨rest ++ piece.entry.text.take piece.count, rfl⟩
    | false =>
        have nothing : before = [] := begun.2
        rw [nothing, List.nil_append, Bool.false_or, JournalPiece.torn, cut, Bool.not_false,
          Bool.and_true]
        cases written : piece.count with
        | zero => simp
        | succ count =>
            obtain ⟨rest, opening⟩ := piece.entry.text_opening
            rw [opening]
            simp

/-- The lines of a file read what its pieces have left legible. -/
theorem linesRead_pieces {spoilt : Bool} {before : Text} (begun : Begun spoilt before)
    (pieces : List JournalPiece) :
    linesRead (before ++ (pieces.map JournalPiece.bytes).flatten) =
      (legible spoilt pieces).map JournalEntry.object := by
  induction pieces generalizing spoilt before with
  | nil =>
      rw [List.map_nil, List.flatten_nil, List.append_nil, linesRead,
        endedSegments_of_inner begun.1]
      rfl
  | cons piece rest inductionHypothesis =>
      rw [legible, List.map_cons, List.flatten_cons]
      cases whole : piece.whole with
      | false =>
          rw [← List.append_assoc]
          exact inductionHypothesis (begun.append whole)
      | true =>
          have line : piece.bytes = piece.entry.text ++ ['\n'] :=
            List.take_of_length_le (of_decide_eq_true whole)
          have inner : ∀ character ∈ before ++ piece.entry.text, isNewline character = false := by
            rw [List.forall_mem_append]
            exact ⟨begun.1, isNewline_text piece.entry⟩
          have later := @inductionHypothesis false [] ⟨by simp, rfl⟩
          rw [List.nil_append, linesRead] at later
          have cut : before ++ (piece.bytes ++ (rest.map JournalPiece.bytes).flatten) =
              (before ++ piece.entry.text) ++ '\n' :: (rest.map JournalPiece.bytes).flatten := by
            rw [line]
            simp
          have one : endedSegments isNewline (before ++ piece.entry.text ++ ['\n']) =
              [before ++ piece.entry.text] :=
            (endedSegments_append_cons rfl _ (by simp)).trans
              (List.splitOnP_eq_singleton inner)
          rw [cut, linesRead, endedSegments_append_of_end rfl, one, List.singleton_append,
            List.filterMap_cons, read_begun begun, later, if_pos rfl]
          cases spoilt <;> rfl

/-! ### The log of pieces -/

def fileText (pieces : List JournalPiece) : Text := (pieces.map JournalPiece.bytes).flatten

/-- The files hold what the pieces of a log have left. -/
def JournalFiles.HoldsPieces (files : JournalFiles) (log : RotatingLog JournalPiece) : Prop :=
  files.prior.getD [] = fileText log.older ∧ files.current.getD [] = fileText log.newer

namespace JournalStore

variable (store : JournalStore) (call : JournalCall)

/-- The current file is there, and the line would not fit into it. -/
def rotates : Bool :=
  call.systemCalls.directoriesReady && call.systemCalls.sizeKnown &&
    store.files.current.any fun text =>
      decide (store.journal.config.maxBytes <
        text.length + (call.entry store.journal).line.length)

/-- What a call does to the log: the older file may go, the newer one may take its place, and
the write leaves a piece. -/
def pieceMoves : List (RotatingLog.Move JournalPiece) :=
  if !store.journal.enabled then []
  else
    (if store.rotates call then
      (if call.systemCalls.priorRemoved then [.discard] else []) ++
        if call.systemCalls.renamed then [.rotate] else []
    else []) ++
      if store.reachesWrite call then
        [.store ⟨call.entry store.journal,
          call.systemCalls.written (call.entry store.journal).line⟩]
      else []

theorem rotated_eq :
    store.rotated call =
      if store.rotates call then
        ((store.files.removePrior call.systemCalls).renameToPrior call.systemCalls).2
      else store.files := by
  unfold rotated rotates TelemetryJournal.rotateIfNeeded
  cases call.systemCalls.directoriesReady with
  | false => rfl
  | true =>
      cases call.systemCalls.sizeKnown with
      | false => rfl
      | true =>
          cases store.files.current with
          | none => rfl
          | some text =>
              simp only [Bool.not_true, Bool.false_eq_true, if_false, Bool.and_self, Bool.true_and,
                Option.any_some, decide_eq_true_eq]
              by_cases fits : text.length + (call.entry store.journal).line.length ≤
                  store.journal.config.maxBytes
              · rw [if_pos fits, if_neg (Nat.not_lt_of_le fits)]
              · rw [if_neg fits, if_pos (Nat.lt_of_not_le fits)]

variable {store} {log : RotatingLog JournalPiece}

theorem holdsPieces_rotated (holds : store.files.HoldsPieces log) :
    (store.rotated call).HoldsPieces
      (run RotatingLog.move log
        (if store.rotates call then
          (if call.systemCalls.priorRemoved then [.discard] else []) ++
            if call.systemCalls.renamed then [.rotate] else []
        else [])) := by
  rw [rotated_eq]
  cases store.rotates call with
  | false => exact holds
  | true =>
      rw [if_pos rfl, if_pos rfl, JournalFiles.renameToPrior, JournalFiles.removePrior]
      cases call.systemCalls.priorRemoved with
      | false =>
          cases call.systemCalls.renamed with
          | false => exact holds
          | true => exact ⟨holds.2, rfl⟩
      | true =>
          cases call.systemCalls.renamed with
          | false => exact ⟨rfl, holds.2⟩
          | true => exact ⟨holds.2, rfl⟩

theorem holdsPieces_step (holds : store.files.HoldsPieces log) :
    (store.step call).files.HoldsPieces (run RotatingLog.move log (store.pieceMoves call)) := by
  have rotated := holdsPieces_rotated call holds
  rcases store.step_cases call with ⟨closed, same⟩ | ⟨enabled, missed, same⟩ |
    ⟨enabled, reached, same⟩
  · rw [step, same, pieceMoves, closed]
    exact holds
  · rw [step, same, pieceMoves, enabled, missed, Bool.not_true, if_neg Bool.false_ne_true,
      if_neg Bool.false_ne_true, List.append_nil]
    exact rotated
  · rw [step, same, pieceMoves, enabled, reached, Bool.not_true, if_neg Bool.false_ne_true,
      if_pos rfl, run_append]
    refine ⟨rotated.1, ?_⟩
    have longer := congrArg
      (· ++ (call.entry store.journal).line.take
        (call.systemCalls.written (call.entry store.journal).line)) rotated.2
    refine longer.trans ?_
    rw [run_cons, run_nil, RotatingLog.move, fileText, fileText, List.map_append,
      List.flatten_append, List.map_singleton, List.flatten_singleton]
    rfl

end JournalStore

/-! ### Lives of the gateway -/

/-- An append, or the end of the process and a start with the files that there are. The path
of the journal stays, its bound and its switch may be other ones. -/
inductive JournalLife where
  | call (call : JournalCall)
  | restart (maxBytes : Nat) (enabled : Bool)

namespace JournalStore

variable (store : JournalStore)

def live : JournalLife → JournalStore
  | .call call => store.step call
  | .restart maxBytes enabled =>
      { store with
        journal := .construct
          { path := store.journal.config.path, maxBytes := maxBytes, enabled := enabled } }

def lifeMoves : JournalLife → List (RotatingLog.Move JournalPiece)
  | .call call => store.pieceMoves call
  | .restart _ _ => []

variable {store} {log : RotatingLog JournalPiece}

theorem holdsPieces_live (holds : store.files.HoldsPieces log) (events : List JournalLife) :
    (run live store events).files.HoldsPieces
      (run RotatingLog.move log (outputs live lifeMoves store events)) := by
  induction events generalizing store log with
  | nil => exact holds
  | cons event rest inductionHypothesis =>
      rw [outputs, run_append]
      apply inductionHypothesis
      cases event with
      | call call => exact holdsPieces_step call holds
      | restart maxBytes enabled => exact holds

end JournalStore

/-- What a reader recovers from both files. -/
def JournalFiles.recovered (files : JournalFiles) : List Json :=
  linesRead (files.prior.getD []) ++ linesRead (files.current.getD [])

theorem JournalFiles.HoldsPieces.recovered {files : JournalFiles} {log : RotatingLog JournalPiece}
    (holds : files.HoldsPieces log) :
    files.recovered =
      (legible false log.older ++ legible false log.newer).map JournalEntry.object := by
  have fresh : Begun false [] := ⟨by simp, rfl⟩
  rw [JournalFiles.recovered, holds.1, holds.2, List.map_append]
  exact congrArg₂ (· ++ ·) (linesRead_pieces fresh log.older) (linesRead_pieces fresh log.newer)

namespace JournalStore

/-- From the first start on, however often the process ends and starts again with the same path,
whatever fails and wherever the writes stop: the reader recovers, each as the object it is meant
to be, in order and nothing else, the records of both files whose lines are whole and stand
behind no torn one. The files hold the latest of all pieces that were ever written, no record is
read twice or made up, and every torn line costs one whole line at the most. -/
theorem recovers_legible (config : TelemetryJournalConfig) (events : List JournalLife) :
    let moves := outputs live lifeMoves (start config none none) events
    let log : RotatingLog JournalPiece := run RotatingLog.move {} moves
    let found := legible false log.older ++ legible false log.newer
    (run live (start config none none) events).files.recovered = found.map JournalEntry.object ∧
      log.records <:+ RotatingLog.stored moves.reverse ∧
      found.Sublist (wholeEntries (RotatingLog.stored moves.reverse)) ∧
      (wholeEntries log.records).length ≤
        found.length + (log.records.filter JournalPiece.torn).length := by
  intro moves log found
  have holds : (run live (start config none none) events).files.HoldsPieces log :=
    @holdsPieces_live (start config none none) {} ⟨rfl, rfl⟩ events
  have latest : log.records <:+ RotatingLog.stored moves.reverse := by
    have suffix := RotatingLog.records_replay_suffix {} moves.reverse
    rw [← RotatingLog.foldl_move] at suffix
    exact suffix
  have whole : wholeEntries log.records = wholeEntries log.older ++ wholeEntries log.newer := by
    rw [RotatingLog.records, wholeEntries, List.filter_append, List.map_append]
    rfl
  refine ⟨holds.recovered, latest, ?_, ?_⟩
  · have kept : found.Sublist (wholeEntries log.records) := by
      rw [whole]
      exact (legible_sublist false _).append (legible_sublist false _)
    exact kept.trans ((latest.sublist.filter _).map _)
  · have older := length_legible false log.older
    have newer := length_legible false log.newer
    rw [whole, List.length_append, List.length_append, RotatingLog.records, List.filter_append,
      List.length_append]
    simp only [Bool.toNat_false, Nat.add_zero] at older newer
    omega

end JournalStore

end GridexEdge.RockPi
