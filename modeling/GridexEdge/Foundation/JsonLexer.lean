import GridexEdge.Foundation.AsciiText
import GridexEdge.Foundation.Runs

/-!
A lexer of JSON texts over bytes. It accepts the numbers, literals and strings of the
grammar, and decodes the escapes of a string.

`Lexes` says what a text adds to the tokens read so far. A word at its end stays open until
the next byte, so texts are put together where a punctuation byte follows.
-/

namespace GridexEdge.Foundation.Json

inductive Token where
  | openArray
  | closeArray
  | openObject
  | closeObject
  | comma
  | colon
  | null
  | bool (value : Bool)
  | number (text : List UInt8)
  | string (bytes : List UInt8)

/-! ### Numbers -/

def isDigit (byte : UInt8) : Bool := 0x30 ≤ byte && byte ≤ 0x39

def isMark (byte : UInt8) : Bool := byte == 0x65 || byte == 0x45

def isSign (byte : UInt8) : Bool := byte == 0x2B || byte == 0x2D

/-- How far a number has been read. -/
inductive NumberPart where
  | start
  | minus
  | zero
  | whole
  | point
  | fraction
  | mark
  | sign
  | exponent
  deriving DecidableEq

namespace NumberPart

/-- A number does not start with a zero that more digits follow. -/
def lead (byte : UInt8) : Option NumberPart :=
  if byte = 0x30 then some .zero else if isDigit byte then some .whole else none

/-- After the digits before the point. -/
def afterWhole (byte : UInt8) : Option NumberPart :=
  if byte = 0x2E then some .point else if isMark byte then some .mark else none

def next : NumberPart → UInt8 → Option NumberPart
  | .start, byte => if byte = 0x2D then some .minus else lead byte
  | .minus, byte => lead byte
  | .zero, byte => afterWhole byte
  | .whole, byte => if isDigit byte then some .whole else afterWhole byte
  | .point, byte => if isDigit byte then some .fraction else none
  | .fraction, byte =>
      if isDigit byte then some .fraction else if isMark byte then some .mark else none
  | .mark, byte =>
      if isSign byte then some .sign else if isDigit byte then some .exponent else none
  | .sign, byte => if isDigit byte then some .exponent else none
  | .exponent, byte => if isDigit byte then some .exponent else none

/-- A number may end here. -/
def complete : NumberPart → Bool
  | .zero | .whole | .fraction | .exponent => true
  | _ => false

def readAll (part : NumberPart) (text : List UInt8) : Option NumberPart :=
  text.foldlM next part

end NumberPart

def isNumber (text : List UInt8) : Bool :=
  match NumberPart.start.readAll text with
  | some part => part.complete
  | none => false

/-! ### Tokens -/

def isBlank (byte : UInt8) : Bool :=
  byte == 0x20 || byte == 0x09 || byte == 0x0A || byte == 0x0D

/-- The bytes of numbers and literals. -/
def isWordByte (byte : UInt8) : Bool :=
  isDigit byte || isSign byte || byte == 0x2E || (0x61 ≤ byte && byte ≤ 0x7A) ||
    (0x41 ≤ byte && byte ≤ 0x5A)

def punctuation (byte : UInt8) : Option Token :=
  if byte = 0x5B then some .openArray
  else if byte = 0x5D then some .closeArray
  else if byte = 0x7B then some .openObject
  else if byte = 0x7D then some .closeObject
  else if byte = 0x2C then some .comma
  else if byte = 0x3A then some .colon
  else none

def trueText : List UInt8 := asciiBytes ['t', 'r', 'u', 'e']

def falseText : List UInt8 := asciiBytes ['f', 'a', 'l', 's', 'e']

def nullText : List UInt8 := asciiBytes ['n', 'u', 'l', 'l']

def wordToken (text : List UInt8) : Option Token :=
  if isNumber text then some (.number text)
  else if text = trueText then some (.bool true)
  else if text = falseText then some (.bool false)
  else if text = nullText then some .null
  else none

/-- The characters that a backslash stands before, other than those of a code unit. -/
def escaped (byte : UInt8) : Option UInt8 :=
  if byte = 0x22 ∨ byte = 0x5C ∨ byte = 0x2F then some byte
  else if byte = 0x62 then some 0x08
  else if byte = 0x66 then some 0x0C
  else if byte = 0x6E then some 0x0A
  else if byte = 0x72 then some 0x0D
  else if byte = 0x74 then some 0x09
  else none

def hexValue (byte : UInt8) : Option Nat :=
  if isDigit byte then some (byte.toNat - 0x30)
  else if 0x61 ≤ byte ∧ byte ≤ 0x66 then some (byte.toNat - 0x61 + 10)
  else if 0x41 ≤ byte ∧ byte ≤ 0x46 then some (byte.toNat - 0x41 + 10)
  else none

def isHigh (unit : Nat) : Bool := 0xD800 ≤ unit && unit < 0xDC00

def isLow (unit : Nat) : Bool := 0xDC00 ≤ unit && unit < 0xE000

/-- The bytes of a code point in UTF-8. -/
def utf8 (codePoint : Nat) : List UInt8 := String.utf8EncodeChar (Char.ofNat codePoint)

inductive Mode where
  | between
  | word (read : List UInt8)
  | text (read : List UInt8)
  | escape (read : List UInt8)
  /-- The digits of a code unit, after the first half of a pair if there was one. -/
  | unit (read : List UInt8) (high : Option Nat) (digits value : Nat)
  /-- A first half, the second of which must follow. -/
  | half (read : List UInt8) (high : Nat)
  | halfEscape (read : List UInt8) (high : Nat)

/-- A code unit with all its digits. -/
def codeUnit (read : List UInt8) (high : Option Nat) (value : Nat) : Option Mode :=
  match high with
  | none =>
      if isHigh value then some (.half read value)
      else if isLow value then none
      else some (.text (read ++ utf8 value))
  | some first =>
      if isLow value then
        some (.text (read ++ utf8 (0x10000 + (first - 0xD800) * 0x400 + (value - 0xDC00))))
      else none

structure Lexer where
  tokens : List Token := []
  mode : Mode := .between

namespace Lexer

/-- A byte where no token is open. -/
def begin (tokens : List Token) (byte : UInt8) : Option Lexer :=
  if isBlank byte then some { tokens }
  else
    match punctuation byte with
    | some token => some { tokens := tokens ++ [token] }
    | none =>
        if byte = 0x22 then some { tokens, mode := .text [] }
        else if isWordByte byte then some { tokens, mode := .word [byte] }
        else none

def step (lexer : Lexer) (byte : UInt8) : Option Lexer :=
  match lexer.mode with
  | .between => begin lexer.tokens byte
  | .word read =>
      if isWordByte byte then some { lexer with mode := .word (read ++ [byte]) }
      else (wordToken read).bind fun token => begin (lexer.tokens ++ [token]) byte
  | .text read =>
      if byte = 0x22 then some { tokens := lexer.tokens ++ [.string read] }
      else if byte = 0x5C then some { lexer with mode := .escape read }
      else if byte < 0x20 then none
      else some { lexer with mode := .text (read ++ [byte]) }
  | .escape read =>
      if byte = 0x75 then some { lexer with mode := .unit read none 0 0 }
      else (escaped byte).map fun character => { lexer with mode := .text (read ++ [character]) }
  | .unit read high digits value =>
      (hexValue byte).bind fun digit =>
        if digits = 3 then
          (codeUnit read high (value * 16 + digit)).map fun mode => { lexer with mode }
        else some { lexer with mode := .unit read high (digits + 1) (value * 16 + digit) }
  | .half read high =>
      if byte = 0x5C then some { lexer with mode := .halfEscape read high } else none
  | .halfEscape read high =>
      if byte = 0x75 then some { lexer with mode := .unit read (some high) 0 0 } else none

/-- The tokens at the end of a text, where a word ends too. -/
def settle (lexer : Lexer) : Option (List Token) :=
  match lexer.mode with
  | .between => some lexer.tokens
  | .word read => (wordToken read).map fun token => lexer.tokens ++ [token]
  | _ => none

def readAll (lexer : Lexer) (text : List UInt8) : Option Lexer := text.foldlM step lexer

end Lexer

def lex (text : List UInt8) : Option (List Token) :=
  (({} : Lexer).readAll text).bind Lexer.settle

/-- What a text adds to the tokens where no token is open. -/
def Lexes (text : List UInt8) (tokens : List Token) : Prop :=
  ∀ emitted, (({ tokens := emitted } : Lexer).readAll text).bind Lexer.settle =
    some (emitted ++ tokens)

theorem lex_of_lexes {text : List UInt8} {tokens : List Token} (lexes : Lexes text tokens) :
    lex text = some tokens := lexes []

theorem Lexer.readAll_append (lexer : Lexer) (first second : List UInt8) :
    lexer.readAll (first ++ second) = (lexer.readAll first).bind (·.readAll second) :=
  List.foldlM_append

/-! ### Words -/

/-- A byte that no word holds ends every number. -/
theorem NumberPart.next_eq_none {byte : UInt8} (other : isWordByte byte = false)
    (part : NumberPart) : part.next byte = none := by
  simp only [isWordByte, Bool.or_eq_false_iff] at other
  obtain ⟨⟨⟨⟨digit, sign⟩, point⟩, lower⟩, upper⟩ := other
  have zero : byte ≠ 0x30 := by
    rintro rfl
    exact absurd digit (by decide)
  have minus : byte ≠ 0x2D := by
    rintro rfl
    exact absurd sign (by decide)
  have notPoint : byte ≠ 0x2E := by
    rintro rfl
    exact absurd point (by decide)
  have mark : isMark byte = false := by
    rw [isMark, Bool.or_eq_false_iff, beq_eq_false_iff_ne, beq_eq_false_iff_ne]
    constructor
    · rintro rfl
      exact absurd lower (by decide)
    · rintro rfl
      exact absurd upper (by decide)
  cases part <;> simp [next, lead, afterWhole, digit, sign, zero, minus, notPoint, mark]

theorem NumberPart.all_isWordByte {part last : NumberPart} {text : List UInt8}
    (read : part.readAll text = some last) : text.all isWordByte = true := by
  induction text generalizing part with
  | nil => rfl
  | cons byte rest inductionHypothesis =>
      rw [readAll, List.foldlM_cons] at read
      obtain ⟨after, stepped, later⟩ := Option.bind_eq_some_iff.mp read
      have word : isWordByte byte = true := by
        by_contra other
        rw [next_eq_none (Bool.eq_false_iff.mpr other)] at stepped
        exact absurd stepped (by simp)
      rw [List.all_cons, word, inductionHypothesis later]
      rfl

theorem all_isWordByte_of_isNumber {text : List UInt8} (number : isNumber text = true) :
    text.all isWordByte = true ∧ text ≠ [] := by
  unfold isNumber at number
  split at number
  · next part read =>
      refine ⟨NumberPart.all_isWordByte read, ?_⟩
      rintro rfl
      cases read
      exact absurd number (by decide)
  · exact absurd number Bool.false_ne_true

theorem Lexer.readAll_word {text : List UInt8} (words : text.all isWordByte = true)
    (emitted : List Token) (read : List UInt8) :
    ({ tokens := emitted, mode := .word read } : Lexer).readAll text =
      some { tokens := emitted, mode := .word (read ++ text) } := by
  induction text generalizing read with
  | nil => rw [List.append_nil]; rfl
  | cons byte rest inductionHypothesis =>
      rw [List.all_cons, Bool.and_eq_true] at words
      have stepped : ({ tokens := emitted, mode := .word read } : Lexer).step byte =
          some { tokens := emitted, mode := .word (read ++ [byte]) } := if_pos words.1
      rw [readAll, List.foldlM_cons, stepped]
      exact (inductionHypothesis words.2 (read ++ [byte])).trans (by simp)

/-- No word starts like another token. -/
theorem Lexer.begin_word {byte : UInt8} (word : isWordByte byte = true) (emitted : List Token) :
    begin emitted byte = some { tokens := emitted, mode := .word [byte] } := by
  have apart : ∀ other : UInt8, isWordByte other = false → byte ≠ other := by
    rintro other no rfl
    exact absurd (word.symm.trans no) (by decide)
  simp [begin, isBlank, punctuation, word, apart 0x20 rfl, apart 0x09 rfl, apart 0x0A rfl,
    apart 0x0D rfl, apart 0x5B rfl, apart 0x5D rfl, apart 0x7B rfl, apart 0x7D rfl,
    apart 0x2C rfl, apart 0x3A rfl, apart 0x22 rfl]

theorem lexes_word {text : List UInt8} {token : Token} (words : text.all isWordByte = true)
    (nonempty : text ≠ []) (means : wordToken text = some token) : Lexes text [token] := by
  intro emitted
  cases text with
  | nil => exact absurd rfl nonempty
  | cons byte rest =>
      rw [List.all_cons, Bool.and_eq_true] at words
      have started : ({ tokens := emitted } : Lexer).step byte =
          some { tokens := emitted, mode := .word [byte] } := Lexer.begin_word words.1 emitted
      have all := Lexer.readAll_word words.2 emitted [byte]
      rw [Lexer.readAll] at all
      rw [Lexer.readAll, List.foldlM_cons, started, Option.bind_eq_bind, Option.bind_some, all,
        Option.bind_some, Lexer.settle, List.singleton_append]
      dsimp only
      rw [means]
      rfl

theorem lexes_number {text : List UInt8} (number : isNumber text = true) :
    Lexes text [.number text] := by
  obtain ⟨words, nonempty⟩ := all_isWordByte_of_isNumber number
  exact lexes_word words nonempty (if_pos number)

/-! ### Punctuation -/

theorem apart_of_punctuation {byte : UInt8} {token : Token}
    (mark : punctuation byte = some token) : isWordByte byte = false ∧ isBlank byte = false := by
  unfold punctuation at mark
  split_ifs at mark with h1 h2 h3 h4 h5 h6
  · rw [h1]; exact ⟨rfl, rfl⟩
  · rw [h2]; exact ⟨rfl, rfl⟩
  · rw [h3]; exact ⟨rfl, rfl⟩
  · rw [h4]; exact ⟨rfl, rfl⟩
  · rw [h5]; exact ⟨rfl, rfl⟩
  · rw [h6]; exact ⟨rfl, rfl⟩

theorem Lexer.begin_punctuation {byte : UInt8} {token : Token}
    (mark : punctuation byte = some token) (emitted : List Token) :
    begin emitted byte = some { tokens := emitted ++ [token] } := by
  rw [begin, (apart_of_punctuation mark).2, mark]
  rfl

/-- Punctuation ends an open word. -/
theorem Lexer.step_of_settle {lexer : Lexer} {emitted : List Token} {byte : UInt8}
    (settled : lexer.settle = some emitted) (other : isWordByte byte = false) :
    lexer.step byte = begin emitted byte := by
  obtain ⟨tokens, mode⟩ := lexer
  cases mode with
  | between =>
      rw [settle, Option.some.injEq] at settled
      rw [step, settled]
  | word read =>
      rw [settle] at settled
      obtain ⟨token, means, rfl⟩ := Option.map_eq_some_iff.mp settled
      rw [step]
      dsimp only
      rw [other, means]
      rfl
  | text | escape | unit | half | halfEscape => exact absurd settled (by simp [settle])

theorem Lexes.cons {byte : UInt8} {token : Token} {text : List UInt8} {tokens : List Token}
    (mark : punctuation byte = some token) (lexes : Lexes text tokens) :
    Lexes (byte :: text) (token :: tokens) := by
  intro emitted
  have started : ({ tokens := emitted } : Lexer).step byte =
      some { tokens := emitted ++ [token] } := Lexer.begin_punctuation mark emitted
  have rest := lexes (emitted ++ [token])
  rw [Lexer.readAll] at rest
  rw [Lexer.readAll, List.foldlM_cons, started, Option.bind_eq_bind, Option.bind_some, rest,
    List.append_assoc]
  rfl

theorem lexes_nil : Lexes [] [] := fun emitted => by
  rw [List.append_nil]
  rfl

/-- A text that may follow another one: it starts with punctuation. -/
inductive Follows : List UInt8 → List Token → Prop where
  | intro {byte : UInt8} {token : Token} {text : List UInt8} {tokens : List Token}
      (mark : punctuation byte = some token) (lexes : Lexes text tokens) :
      Follows (byte :: text) (token :: tokens)

theorem Lexes.append {first text : List UInt8} {before tokens : List Token}
    (lexes : Lexes first before) (follows : Follows text tokens) :
    Lexes (first ++ text) (before ++ tokens) := by
  obtain ⟨mark, later⟩ := follows
  rename_i byte token text tokens
  intro emitted
  obtain ⟨last, read, settled⟩ := Option.bind_eq_some_iff.mp (lexes emitted)
  have same : last.readAll (byte :: text) =
      ({ tokens := emitted ++ before } : Lexer).readAll (byte :: text) := by
    rw [Lexer.readAll, Lexer.readAll, List.foldlM_cons, List.foldlM_cons,
      Lexer.step_of_settle settled (apart_of_punctuation mark).1]
    rfl
  rw [Lexer.readAll_append, read, Option.bind_some, same, later.cons mark, List.append_assoc]

/-! ### Strings -/

/-- What a piece of text inside the quotes spells. -/
def Spells (piece bytes : List UInt8) : Prop :=
  ∀ emitted read, ({ tokens := emitted, mode := .text read } : Lexer).readAll piece =
    some { tokens := emitted, mode := .text (read ++ bytes) }

theorem spells_nil : Spells [] [] := fun emitted read => by
  rw [List.append_nil]
  rfl

theorem Spells.append {first second left right : List UInt8} (spells : Spells first left)
    (later : Spells second right) : Spells (first ++ second) (left ++ right) := by
  intro emitted read
  rw [Lexer.readAll_append, spells, Option.bind_some, later, List.append_assoc]

theorem spells_plain {byte : UInt8} (noQuote : byte ≠ 0x22) (noBackslash : byte ≠ 0x5C)
    (visible : ¬byte < 0x20) : Spells [byte] [byte] := by
  intro emitted read
  simp [Lexer.readAll, Lexer.step, noQuote, noBackslash, visible]

theorem spells_escape {byte character : UInt8} (noUnit : byte ≠ 0x75)
    (means : escaped byte = some character) : Spells [0x5C, byte] [character] := by
  intro emitted read
  simp [Lexer.readAll, Lexer.step, noUnit, means]

/-- Four hexadecimal digits stand for a code unit that is no half of a pair. -/
theorem spells_unit {first second third fourth : UInt8} {a b c d : Nat}
    (h1 : hexValue first = some a) (h2 : hexValue second = some b)
    (h3 : hexValue third = some c) (h4 : hexValue fourth = some d)
    (noHigh : isHigh (((a * 16 + b) * 16 + c) * 16 + d) = false)
    (noLow : isLow (((a * 16 + b) * 16 + c) * 16 + d) = false) :
    Spells [0x5C, 0x75, first, second, third, fourth]
      (utf8 (((a * 16 + b) * 16 + c) * 16 + d)) := by
  intro emitted read
  simp [Lexer.readAll, Lexer.step, codeUnit, h1, h2, h3, h4, noHigh, noLow]

theorem lexes_string {inner bytes : List UInt8} (spells : Spells inner bytes) :
    Lexes (0x22 :: (inner ++ [0x22])) [.string bytes] := by
  intro emitted
  have opened : ({ tokens := emitted } : Lexer).readAll [0x22] =
      some { tokens := emitted, mode := .text [] } := rfl
  have closed : ({ tokens := emitted, mode := .text bytes } : Lexer).readAll [0x22] =
      some { tokens := emitted ++ [.string bytes] } := rfl
  rw [← List.singleton_append, Lexer.readAll_append, opened, Option.bind_some,
    Lexer.readAll_append, spells, Option.bind_some, List.nil_append, closed]
  rfl

end GridexEdge.Foundation.Json
