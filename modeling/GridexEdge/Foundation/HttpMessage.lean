import GridexEdge.Foundation.JsonNumbers
import Mathlib.Data.List.Infix

/-!
Messages of HTTP as bytes, and the parts of a multipart body.

The readers come from the grammar: lines end with a carriage return and a line feed, a
head ends with an empty line, the length of the body is told by a field of the head. What
is written in this form is read back, and no beginning of it is a message.
-/

namespace GridexEdge.Foundation.Http

open Json

/-! ### Lines -/

def crlf : List UInt8 := [0x0D, 0x0A]

/-- A line up to a carriage return, which a line feed has to follow. -/
def readLine (input : List UInt8) : Option (List UInt8 × List UInt8) :=
  match input.dropWhile (· != 0x0D) with
  | 0x0D :: 0x0A :: rest => some (input.takeWhile (· != 0x0D), rest)
  | _ => none

theorem readLine_iff {input line rest : List UInt8} :
    readLine input = some (line, rest) ↔ 0x0D ∉ line ∧ input = line ++ crlf ++ rest := by
  constructor
  · intro read
    have split : input.takeWhile (· != 0x0D) ++ input.dropWhile (· != 0x0D) = input :=
      List.takeWhile_append_dropWhile
    unfold readLine at read
    split at read
    · next after =>
        cases read
        refine ⟨fun member => ?_, ?_⟩
        · exact absurd (List.mem_takeWhile_imp member) (by decide)
        · rw [after] at split
          rw [List.append_assoc]
          exact split.symm
    · cases read
  · rintro ⟨solid, rfl⟩
    have inside : ∀ byte ∈ line, (byte != 0x0D) = true := by
      intro byte member
      rw [bne_iff_ne]
      rintro rfl
      exact solid member
    rw [readLine, List.append_assoc, List.dropWhile_append_of_pos inside,
      List.takeWhile_append_of_pos inside]
    exact congrArg some (Prod.ext (List.append_nil line) rfl)

theorem length_of_readLine {input line rest : List UInt8}
    (read : readLine input = some (line, rest)) : rest.length < input.length := by
  rw [(readLine_iff.mp read).2, List.length_append, List.length_append]
  exact Nat.lt_add_of_pos_left (Nat.add_pos_right _ (by decide))

/-- The lines of a head and what follows the empty line behind them. -/
def readLines (input : List UInt8) : Option (List (List UInt8) × List UInt8) :=
  match _read : readLine input with
  | none => none
  | some (line, rest) =>
      if line = [] then some ([], rest)
      else (readLines rest).map fun lines => (line :: lines.1, lines.2)
termination_by input.length
decreasing_by exact length_of_readLine _read

theorem readLines_of_readLine {input line rest : List UInt8}
    (read : readLine input = some (line, rest)) :
    readLines input =
      if line = [] then some ([], rest)
      else (readLines rest).map fun lines => (line :: lines.1, lines.2) := by
  rw [readLines]
  split
  · next none => exact absurd (none.symm.trans read) (by simp)
  · next line' rest' some =>
      cases some.symm.trans read
      rfl

/-- A line that a head may have. -/
def HeadLine (line : List UInt8) : Prop := line ≠ [] ∧ 0x0D ∉ line

def headBytes (lines : List (List UInt8)) : List UInt8 := lines.flatMap (· ++ crlf) ++ crlf

theorem readLines_headBytes {lines : List (List UInt8)} (fit : ∀ line ∈ lines, HeadLine line)
    (rest : List UInt8) : readLines (headBytes lines ++ rest) = some (lines, rest) := by
  induction lines with
  | nil =>
      have cut : readLine (headBytes [] ++ rest) = some ([], rest) :=
        readLine_iff.mpr ⟨List.not_mem_nil, rfl⟩
      rw [readLines_of_readLine cut, if_pos rfl]
  | cons line lines inductionHypothesis =>
      obtain ⟨⟨nonempty, solid⟩, others⟩ := List.forall_mem_cons.mp fit
      have cut : readLine (headBytes (line :: lines) ++ rest) =
          some (line, headBytes lines ++ rest) := by
        refine readLine_iff.mpr ⟨solid, ?_⟩
        simp only [headBytes, List.flatMap_cons, List.append_assoc]
      rw [readLines_of_readLine cut, if_neg nonempty, inductionHypothesis others]
      rfl

/-- Whatever is read as a head was written as one. -/
theorem headBytes_of_readLines {input : List UInt8} {lines : List (List UInt8)}
    {rest : List UInt8} (read : readLines input = some (lines, rest)) :
    (∀ line ∈ lines, HeadLine line) ∧ input = headBytes lines ++ rest := by
  induction input using readLines.induct generalizing lines rest with
  | case1 input nothing =>
      rw [readLines] at read
      split at read
      · cases read
      · next some => exact absurd (nothing.symm.trans some) (by simp)
  | case2 input after line =>
      rw [readLines_of_readLine line, if_pos rfl] at read
      cases read
      exact ⟨fun _ member => absurd member List.not_mem_nil, (readLine_iff.mp line).2⟩
  | case3 input line after cut nonempty inductionHypothesis =>
      rw [readLines_of_readLine cut, if_neg nonempty, Option.map_eq_some_iff] at read
      obtain ⟨⟨others, final⟩, later, same⟩ := read
      cases same
      obtain ⟨fit, split⟩ := inductionHypothesis later
      obtain ⟨solid, whole⟩ := readLine_iff.mp cut
      refine ⟨List.forall_mem_cons.mpr ⟨⟨nonempty, solid⟩, fit⟩, ?_⟩
      rw [whole, split]
      simp only [headBytes, List.flatMap_cons, List.append_assoc]

/-- More input does not change a head that has been read. -/
theorem readLines_append {input : List UInt8} {lines : List (List UInt8)} {rest : List UInt8}
    (read : readLines input = some (lines, rest)) (more : List UInt8) :
    readLines (input ++ more) = some (lines, rest ++ more) := by
  obtain ⟨fit, whole⟩ := headBytes_of_readLines read
  rw [whole, List.append_assoc]
  exact readLines_headBytes fit _

/-! ### Fields -/

abbrev Field := List UInt8 × List UInt8

def blank (byte : UInt8) : Bool := byte == 0x20 || byte == 0x09

def lower (byte : UInt8) : UInt8 := if 0x41 ≤ byte && byte ≤ 0x5A then byte + 0x20 else byte

/-- A name up to a colon, and a value without the blanks around it. -/
def readField (line : List UInt8) : Option Field :=
  match line.dropWhile (· != 0x3A) with
  | 0x3A :: value => some (line.takeWhile (· != 0x3A), trim blank value)
  | _ => none

def fieldLine (field : Field) : List UInt8 := field.1 ++ [0x3A, 0x20] ++ field.2

/-- A field that is a line, and whose value has no blanks around it. -/
structure Plain (field : Field) : Prop where
  name : ∀ byte ∈ field.1, byte ≠ 0x3A ∧ byte ≠ 0x0D
  value : 0x0D ∉ field.2
  trimmed : trim blank field.2 = field.2

theorem headLine_fieldLine {field : Field} (plain : Plain field) : HeadLine (fieldLine field) := by
  constructor
  · simp [fieldLine]
  · rw [fieldLine, List.mem_append, List.mem_append, not_or, not_or]
    exact ⟨⟨fun member => (plain.name _ member).2 rfl, by decide⟩, plain.value⟩

theorem readField_fieldLine {field : Field} (plain : Plain field) :
    readField (fieldLine field) = some field := by
  have inside : ∀ byte ∈ field.1, (byte != 0x3A) = true :=
    fun byte member => bne_iff_ne.mpr (plain.name byte member).1
  have value : trim blank (0x20 :: field.2) = field.2 := by
    rw [trim, List.dropWhile_cons_of_pos (by decide)]
    exact plain.trimmed
  rw [readField, fieldLine, List.append_assoc, List.dropWhile_append_of_pos inside,
    List.takeWhile_append_of_pos inside]
  exact congrArg some (Prod.ext (List.append_nil _) value)

theorem mapM_readField {fields : List Field} (plain : ∀ field ∈ fields, Plain field) :
    (fields.map fieldLine).mapM readField = some fields := by
  induction fields with
  | nil => rfl
  | cons field rest inductionHypothesis =>
      obtain ⟨first, others⟩ := List.forall_mem_cons.mp plain
      rw [List.map_cons, List.mapM_cons, readField_fieldLine first, inductionHypothesis others]
      rfl

/-- Names in whatever case they are written. -/
def sameName (first second : List UInt8) : Bool := first.map lower == second.map lower

/-- The value of the first field of a name. -/
def fieldValue (name : List UInt8) (fields : List Field) : Option (List UInt8) :=
  (fields.find? fun field => sameName field.1 name).map (·.2)

theorem fieldValue_of_same {name first : List UInt8} (same : sameName first name = true)
    (value : List UInt8) (rest : List Field) :
    fieldValue name ((first, value) :: rest) = some value := by
  rw [fieldValue, List.find?_cons, same]
  rfl

theorem fieldValue_of_other {name first : List UInt8} (other : sameName first name = false)
    (value : List UInt8) (rest : List Field) :
    fieldValue name ((first, value) :: rest) = fieldValue name rest := by
  rw [fieldValue, List.find?_cons, other]
  rfl

/-! ### Messages -/

structure Message where
  requestLine : List UInt8
  fields : List Field
  body : List UInt8

def contentLengthName : List UInt8 := asciiBytes "Content-Length".toList

def contentLength (fields : List Field) : Option Nat :=
  (fieldValue contentLengthName fields).bind fun value => natural? (.number value)

def readMessage (input : List UInt8) : Option Message :=
  match readLines input with
  | some (requestLine :: lines, rest) => do
      let fields ← lines.mapM readField
      let length ← contentLength fields
      if length ≤ rest.length then some ⟨requestLine, fields, rest.take length⟩ else none
  | _ => none

namespace Message

variable (message : Message)

def lines : List (List UInt8) := message.requestLine :: message.fields.map fieldLine

def bytes : List UInt8 := headBytes message.lines ++ message.body

/-- The head can be read, and it tells the length of the body. -/
structure WellFormed : Prop where
  requestLine : HeadLine message.requestLine
  fields : ∀ field ∈ message.fields, Plain field
  length : contentLength message.fields = some message.body.length

variable {message}

theorem WellFormed.headLines (wellFormed : message.WellFormed) :
    ∀ line ∈ message.lines, HeadLine line := by
  refine List.forall_mem_cons.mpr ⟨wellFormed.requestLine, ?_⟩
  rw [List.forall_mem_map]
  exact fun field member => headLine_fieldLine (wellFormed.fields field member)

theorem readMessage_of_readLines (wellFormed : message.WellFormed) {input rest : List UInt8}
    (head : readLines input = some (message.lines, rest)) :
    readMessage input =
      if message.body.length ≤ rest.length then
        some ⟨message.requestLine, message.fields, rest.take message.body.length⟩
      else none := by
  rw [readMessage, head, Message.lines]
  dsimp only
  rw [mapM_readField wellFormed.fields, Option.bind_eq_bind, Option.bind_some, wellFormed.length]
  rfl

theorem readMessage_bytes (wellFormed : message.WellFormed) :
    readMessage message.bytes = some message := by
  have head : readLines message.bytes = some (message.lines, message.body) :=
    readLines_headBytes wellFormed.headLines message.body
  rw [readMessage_of_readLines wellFormed head, if_pos (Nat.le_refl _), List.take_length]

/-- A message that breaks off early is none. -/
theorem readMessage_of_prefix (wellFormed : message.WellFormed) {input : List UInt8}
    (cut : input <+: message.bytes) (shorter : input ≠ message.bytes) :
    readMessage input = none := by
  obtain ⟨more, whole⟩ := cut
  have head : readLines (input ++ more) = some (message.lines, message.body) := by
    rw [whole]
    exact readLines_headBytes wellFormed.headLines message.body
  cases early : readLines input with
  | none => rw [readMessage, early]
  | some read =>
      obtain ⟨lines, rest⟩ := read
      obtain ⟨rfl, body⟩ :=
        Prod.mk.inj (Option.some.inj ((readLines_append early more).symm.trans head))
      rw [readMessage_of_readLines wellFormed early, if_neg]
      have missing : more ≠ [] := by
        rintro rfl
        exact shorter ((List.append_nil input).symm.trans whole)
      rw [← body, List.length_append, Nat.not_le]
      exact Nat.lt_add_of_pos_right (List.length_pos_iff.mpr missing)

end Message

/-! ### Parts of a body -/

/-- The text before the first occurrence of a pattern and the text after it. -/
def cutAt (pattern : List UInt8) : List UInt8 → Option (List UInt8 × List UInt8)
  | [] => none
  | byte :: rest =>
      if pattern <+: byte :: rest then some ([], (byte :: rest).drop pattern.length)
      else (cutAt pattern rest).map fun cut => (byte :: cut.1, cut.2)

theorem length_of_cutAt {pattern input before after : List UInt8}
    (cut : cutAt pattern input = some (before, after)) : after.length ≤ input.length := by
  induction input generalizing before with
  | nil => cases cut
  | cons byte rest inductionHypothesis =>
      rw [cutAt] at cut
      split at cut
      · cases cut
        rw [List.length_drop]
        exact Nat.sub_le _ _
      · obtain ⟨⟨front, back⟩, later, same⟩ := Option.map_eq_some_iff.mp cut
        cases same
        exact Nat.le_succ_of_le (inductionHypothesis later)

/-- A pattern whose first byte comes only once cannot overlap itself, so it is found
first where it was put behind a text without it. -/
theorem cutAt_append {first : UInt8} {others before : List UInt8} (once : first ∉ others)
    (absent : ¬(first :: others) <:+: before) (after : List UInt8) :
    cutAt (first :: others) (before ++ (first :: others) ++ after) = some (before, after) := by
  induction before with
  | nil =>
      have here : (first :: others) <+: first :: (others ++ after) :=
        List.prefix_append (first :: others) after
      rw [List.nil_append, List.cons_append, cutAt, if_pos here]
      exact congrArg (fun rest => some ([], rest)) List.drop_left
  | cons byte rest inductionHypothesis =>
      have notHere : ¬(first :: others) <+: byte :: (rest ++ (first :: others) ++ after) := by
        rintro ⟨tail, same⟩
        have split :
            (first :: others) ++ tail = (byte :: rest) ++ ((first :: others) ++ after) := by
          rw [same, List.cons_append, List.append_assoc]
        rcases List.append_eq_append_iff.mp split with ⟨more, covered, -⟩ | ⟨more, longer, later⟩
        · exact absent ⟨[], more, covered.symm⟩
        · cases more with
          | nil =>
              rw [List.append_nil] at longer
              exact absent ⟨[], [], by rw [longer]; simp⟩
          | cons overlap more =>
              -- the pattern would begin again inside itself
              obtain ⟨rfl, -⟩ := List.cons.inj later
              obtain ⟨-, rfl⟩ := List.cons.inj longer
              exact once (List.mem_append_right _ List.mem_cons_self)
      have absentLater : ¬(first :: others) <:+: rest := fun inside =>
        absent (inside.trans (List.suffix_cons byte rest).isInfix)
      rw [List.cons_append, List.cons_append, cutAt, if_neg notHere,
        inductionHypothesis absentLater]
      rfl

theorem isSome_cutAt {pattern : List UInt8} (nonempty : pattern ≠ []) (input : List UInt8) :
    (cutAt pattern input).isSome ↔ pattern <:+: input := by
  induction input with
  | nil => simp [cutAt, nonempty]
  | cons byte rest inductionHypothesis =>
      rw [List.infix_cons_iff, ← inductionHypothesis, cutAt]
      split
      · next here => exact ⟨fun _ => .inl here, fun _ => rfl⟩
      · next elsewhere => simp [elsewhere]

/-- A part of a body: the lines of its head, and its content. -/
structure Part where
  lines : List (List UInt8)
  content : List UInt8

section Multipart

variable (boundary : List UInt8)

def dashes : List UInt8 := [0x2D, 0x2D]

def delimiter : List UInt8 := crlf ++ dashes ++ boundary

theorem length_of_part {boundary input rest content after : List UInt8}
    {lines : List (List UInt8)} (starts : crlf <+: input)
    (head : readLines (input.drop 2) = some (lines, rest))
    (cut : cutAt (delimiter boundary) rest = some (content, after)) :
    after.length < input.length := by
  have shorter := length_of_cutAt cut
  have headed := congrArg List.length (headBytes_of_readLines head).2
  have long : 2 ≤ input.length := starts.length_le
  rw [List.length_append, List.length_drop] at headed
  omega

/-- The parts behind a delimiter: none behind one with two dashes, else one up to the
next delimiter and those behind it. -/
def readParts (input : List UInt8) : Option (List Part) :=
  if dashes <+: input then some []
  else if _starts : crlf <+: input then
    match _head : readLines (input.drop 2) with
    | none => none
    | some (lines, rest) =>
        match _cut : cutAt (delimiter boundary) rest with
        | none => none
        | some (content, after) => (readParts after).map fun parts => ⟨lines, content⟩ :: parts
  else none
termination_by input.length
decreasing_by exact length_of_part _starts _head _cut

theorem readParts_of_part {input rest content after : List UInt8} {lines : List (List UInt8)}
    (closed : ¬dashes <+: input) (starts : crlf <+: input)
    (head : readLines (input.drop 2) = some (lines, rest))
    (cut : cutAt (delimiter boundary) rest = some (content, after)) :
    readParts boundary input = (readParts boundary after).map (⟨lines, content⟩ :: ·) := by
  rw [readParts, if_neg closed, dif_pos starts]
  split
  · next nothing => exact absurd (nothing.symm.trans head) (by simp)
  · next read =>
      cases read.symm.trans head
      split
      · next nothing => exact absurd (nothing.symm.trans cut) (by simp)
      · next found =>
          cases found.symm.trans cut
          rfl

def readMultipart (body : List UInt8) : Option (List Part) :=
  if dashes ++ boundary <+: body then readParts boundary (body.drop (dashes ++ boundary).length)
  else none

def Part.bytes (part : Part) : List UInt8 :=
  crlf ++ headBytes part.lines ++ part.content ++ delimiter boundary

def multipartBytes (parts : List Part) : List UInt8 :=
  dashes ++ boundary ++ parts.flatMap (Part.bytes boundary) ++ dashes ++ crlf

/-- The head can be read, and the content does not have the delimiter in it. -/
structure Part.WellFormed (part : Part) : Prop where
  lines : ∀ line ∈ part.lines, HeadLine line
  content : ¬delimiter boundary <:+: part.content

variable {boundary}

theorem readParts_bytes (solid : 0x0D ∉ boundary) {part : Part}
    (wellFormed : part.WellFormed boundary) (after : List UInt8) :
    readParts boundary (part.bytes boundary ++ after) =
      (readParts boundary after).map (part :: ·) := by
  have content : part.bytes boundary ++ after =
      crlf ++ (headBytes part.lines ++ (part.content ++ delimiter boundary ++ after)) := by
    simp only [Part.bytes, List.append_assoc]
  have head : readLines ((part.bytes boundary ++ after).drop 2) =
      some (part.lines, part.content ++ delimiter boundary ++ after) := by
    rw [content, List.drop_left' (show crlf.length = 2 from rfl)]
    exact readLines_headBytes wellFormed.lines _
  have once : (0x0D : UInt8) ∉ 0x0A :: 0x2D :: 0x2D :: boundary := by
    simp only [List.mem_cons, solid, or_false]
    decide
  have cut : cutAt (delimiter boundary) (part.content ++ delimiter boundary ++ after) =
      some (part.content, after) := cutAt_append once wellFormed.content after
  have closed : ¬dashes <+: part.bytes boundary ++ after := by
    rw [content]
    rintro ⟨_, same⟩
    exact absurd (List.cons.inj same).1 (by decide)
  have starts : crlf <+: part.bytes boundary ++ after := by
    rw [content]
    exact List.prefix_append _ _
  exact readParts_of_part boundary closed starts head cut

theorem readMultipart_multipartBytes (solid : 0x0D ∉ boundary) {parts : List Part}
    (wellFormed : ∀ part ∈ parts, part.WellFormed boundary) :
    readMultipart boundary (multipartBytes boundary parts) = some parts := by
  have behind : ∀ parts : List Part, (∀ part ∈ parts, part.WellFormed boundary) →
      readParts boundary (parts.flatMap (Part.bytes boundary) ++ (dashes ++ crlf)) =
        some parts := by
    intro parts wellFormed
    induction parts with
    | nil =>
        rw [List.flatMap_nil, List.nil_append, readParts, if_pos (List.prefix_append _ _)]
    | cons part rest inductionHypothesis =>
        obtain ⟨first, others⟩ := List.forall_mem_cons.mp wellFormed
        rw [List.flatMap_cons, List.append_assoc, readParts_bytes solid first,
          inductionHypothesis others]
        rfl
  have whole : multipartBytes boundary parts =
      (dashes ++ boundary) ++ (parts.flatMap (Part.bytes boundary) ++ (dashes ++ crlf)) := by
    simp only [multipartBytes, List.append_assoc]
  rw [readMultipart, whole, if_pos (List.prefix_append _ _), List.drop_left]
  exact behind parts wellFormed

end Multipart

end GridexEdge.Foundation.Http
