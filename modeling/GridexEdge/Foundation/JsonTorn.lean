import GridexEdge.Foundation.Json

/-!
What stands behind an object that was cut short.

Whatever the torn text is, a reader takes the object written behind it for a part of it, or
the first key of that object for the end of a string. Either way nothing is read.
-/

namespace GridexEdge.Foundation.Json

/-! ### The lexer -/

namespace Lexer

theorem readAll_cons (lexer : Lexer) (byte : UInt8) (rest : List UInt8) :
    lexer.readAll (byte :: rest) = (lexer.step byte).bind (·.readAll rest) :=
  List.foldlM_cons

theorem tokens_begin {emitted : List Token} {byte : UInt8} {later : Lexer}
    (stepped : begin emitted byte = some later) : emitted <+: later.tokens := by
  unfold begin at stepped
  split at stepped
  · cases stepped
    exact List.prefix_rfl
  · split at stepped
    · cases stepped
      exact List.prefix_append _ _
    · split at stepped
      · cases stepped
        exact List.prefix_rfl
      · split at stepped
        · cases stepped
          exact List.prefix_rfl
        · cases stepped

/-- A token that has been read stays. -/
theorem tokens_step {lexer later : Lexer} {byte : UInt8} (stepped : lexer.step byte = some later) :
    lexer.tokens <+: later.tokens := by
  unfold step at stepped
  split at stepped
  · exact tokens_begin stepped
  · split at stepped
    · cases stepped
      exact List.prefix_rfl
    · obtain ⟨token, -, begun⟩ := Option.bind_eq_some_iff.mp stepped
      exact (List.prefix_append _ _).trans (tokens_begin begun)
  · split at stepped
    · cases stepped
      exact List.prefix_append _ _
    · split at stepped
      · cases stepped
        exact List.prefix_rfl
      · split at stepped
        · cases stepped
        · cases stepped
          exact List.prefix_rfl
  · split at stepped
    · cases stepped
      exact List.prefix_rfl
    · obtain ⟨character, -, rfl⟩ := Option.map_eq_some_iff.mp stepped
      exact List.prefix_rfl
  · obtain ⟨digit, -, next⟩ := Option.bind_eq_some_iff.mp stepped
    split at next
    · obtain ⟨mode, -, rfl⟩ := Option.map_eq_some_iff.mp next
      exact List.prefix_rfl
    · cases next
      exact List.prefix_rfl
  · split at stepped
    · cases stepped
      exact List.prefix_rfl
    · cases stepped
  · split at stepped
    · cases stepped
      exact List.prefix_rfl
    · cases stepped

theorem tokens_readAll {lexer later : Lexer} {text : List UInt8}
    (read : lexer.readAll text = some later) : lexer.tokens <+: later.tokens := by
  induction text generalizing lexer with
  | nil =>
      cases read
      exact List.prefix_rfl
  | cons byte rest inductionHypothesis =>
      rw [readAll_cons] at read
      obtain ⟨next, stepped, readRest⟩ := Option.bind_eq_some_iff.mp read
      exact (tokens_step stepped).trans (inductionHypothesis readRest)

end Lexer

/-- The start of an object whose first key would be no literal of its own. -/
structure OpensKey (text : List UInt8) : Prop where
  split : ∃ key rest, text = 0x7B :: 0x22 :: (key ++ 0x22 :: rest) ∧ key ≠ [] ∧
    key.all isWordByte = true ∧ wordToken key = none

/-- In the middle of a string, the quotation mark of the key ends the string, and the key is
left over. -/
theorem Lexer.readAll_key_of_text {text : List UInt8} (opens : OpensKey text)
    (emitted : List Token) (read : List UInt8) :
    ({ tokens := emitted, mode := .text read } : Lexer).readAll text = none := by
  obtain ⟨key, rest, rfl, nonempty, words, noToken⟩ := opens.split
  obtain ⟨first, others, rfl⟩ := List.exists_cons_of_ne_nil nonempty
  rw [List.all_cons, Bool.and_eq_true] at words
  have inside : ({ tokens := emitted, mode := .text read } : Lexer).step 0x7B =
      some { tokens := emitted, mode := .text (read ++ [0x7B]) } := rfl
  have closed : ({ tokens := emitted, mode := .text (read ++ [0x7B]) } : Lexer).step 0x22 =
      some { tokens := emitted ++ [.string (read ++ [0x7B])] } := rfl
  have begun : ({ tokens := emitted ++ [.string (read ++ [0x7B])] } : Lexer).step first =
      some { tokens := emitted ++ [.string (read ++ [0x7B])], mode := .word [first] } :=
    Lexer.begin_word words.1 _
  rw [readAll_cons, inside, Option.bind_some, readAll_cons, closed, Option.bind_some,
    List.cons_append, readAll_cons, begun, Option.bind_some, readAll_append,
    readAll_word words.2, Option.bind_some, readAll_cons]
  have noWord : isWordByte 0x22 = false := by decide
  have stuck : (⟨emitted ++ [.string (read ++ [0x7B])], .word ([first] ++ others)⟩ :
      Lexer).step 0x22 = none := by
    simp [step, noWord, noToken]
  rw [stuck]
  rfl

/-- Behind any text the object is not lexed, or it is lexed as it is alone. -/
theorem Lexer.readAll_object {text : List UInt8} {added : List Token} (opens : OpensKey text)
    (lexes : Lexes text added) (lexer : Lexer) :
    (lexer.readAll text).bind settle = none ∨
      ∃ emitted, lexer.tokens <+: emitted ∧
        (lexer.readAll text).bind settle = some (emitted ++ added) := by
  obtain ⟨emitted, mode⟩ := lexer
  obtain ⟨key, rest, split, -⟩ := opens.split
  -- in the modes inside an escape, a brace is no continuation
  have stuck : ({ tokens := emitted, mode := mode } : Lexer).step 0x7B = none →
      (({ tokens := emitted, mode := mode } : Lexer).readAll text).bind settle = none := by
    intro refused
    rw [split, readAll_cons, refused]
    rfl
  cases mode with
  | between => exact .inr ⟨emitted, List.prefix_rfl, lexes emitted⟩
  | word read =>
      cases ended : wordToken read with
      | none => exact .inl (stuck (by simp [step, isWordByte, isDigit, isSign, ended]))
      | some token =>
          refine .inr ⟨emitted ++ [token], List.prefix_append _ _, ?_⟩
          have same : ({ tokens := emitted, mode := .word read } : Lexer).step 0x7B =
              ({ tokens := emitted ++ [token] } : Lexer).step 0x7B := by
            simp [step, isWordByte, isDigit, isSign, ended]
          have alone := lexes (emitted ++ [token])
          rw [split, readAll_cons] at alone ⊢
          rw [same]
          exact alone
  | text read =>
      rw [readAll_key_of_text opens]
      exact .inl rfl
  | escape read => exact .inl (stuck rfl)
  | unit read high digits value => exact .inl (stuck rfl)
  | half read high => exact .inl (stuck rfl)
  | halfEscape read high => exact .inl (stuck rfl)

/-! ### The parser -/

namespace Parser

/-- Only before the first token is a value expected at the top. -/
def begun : Parser → Bool
  | .expectValue [] => false
  | _ => true

theorem begun_finish (frames : List Frame) (value : Json) :
    (finish frames value).begun = true := by
  cases frames with
  | nil => rfl
  | cons frame outer => cases frame <;> rfl

theorem begun_start {frames : List Frame} {token : Token} {later : Parser}
    (started : start frames token = some later) : later.begun = true := by
  cases token with
  | openArray | openObject =>
      cases started
      rfl
  | null | bool | number | string =>
      cases started
      exact begun_finish _ _
  | closeArray | closeObject | comma | colon => cases started

theorem begun_step {parser later : Parser} {token : Token}
    (stepped : parser.step token = some later) : later.begun = true := by
  unfold step at stepped
  split at stepped
  · exact begun_start stepped
  · cases stepped
    exact begun_finish _ _
  · exact begun_start stepped
  · cases stepped
    exact begun_finish _ _
  · cases stepped
    rfl
  · cases stepped
    rfl
  · cases stepped
    rfl
  · cases stepped
    rfl
  · cases stepped
    exact begun_finish _ _
  · cases stepped
    rfl
  · cases stepped
    exact begun_finish _ _
  · cases stepped

theorem begun_readAll {parser later : Parser} {tokens : List Token} (before : parser.begun = true)
    (read : parser.readAll tokens = some later) : later.begun = true := by
  induction tokens generalizing parser with
  | nil =>
      cases read
      exact before
  | cons token rest inductionHypothesis =>
      rw [readAll_cons] at read
      obtain ⟨next, stepped, readRest⟩ := Option.bind_eq_some_iff.mp read
      exact inductionHypothesis (begun_step stepped) readRest

end Parser

/-- An object behind the first token of another value ends nothing. -/
theorem Parser.readAll_object_of_begun {parser : Parser} (begun : parser.begun = true)
    (members : List (List UInt8 × Json)) (value : Json) :
    parser.readAll (tokens (.object members)) ≠ some (.done value) := by
  have object : tokens (.object members) =
      .openObject :: ((memberTokens members).drop 1 ++ [.closeObject]) := by
    rw [tokens]
  cases parser with
  | expectValue frames =>
      rw [readAll_tokens]
      cases frames with
      | nil => cases begun
      | cons frame outer => cases frame <;> exact fun same => by cases same
  | openedArray outer =>
      rw [readAll_openedArray, readAll_tokens]
      exact fun same => by cases same
  | openedObject | expectKey | expectColon | afterItem | afterMember | done =>
      rw [object, readAll_cons]
      exact fun same => by cases same

/-- An object cannot be read behind what begins like another one. -/
theorem read_torn {torn text : List UInt8} {members : List (List UInt8 × Json)}
    (opens : OpensKey text) (lexes : Lexes text (tokens (.object members))) :
    read (0x7B :: torn ++ text) = none := by
  rw [read, lex, List.cons_append, Lexer.readAll_cons]
  have first : ({} : Lexer).step 0x7B = some { tokens := [.openObject] } := rfl
  rw [first, Option.bind_some, Lexer.readAll_append]
  cases before : ({ tokens := [.openObject] } : Lexer).readAll torn with
  | none => rfl
  | some lexer =>
      rw [Option.bind_some]
      rcases lexer.readAll_object opens lexes with stuck | ⟨emitted, kept, lexed⟩
      · rw [stuck]
        rfl
      · obtain ⟨rest, rfl⟩ := (Lexer.tokens_readAll before).trans kept
        rw [lexed, Option.bind_some, parse, Parser.readAll_append]
        cases inner : (Parser.expectValue []).readAll ([.openObject] ++ rest) with
        | none => rfl
        | some parser =>
            have begun : parser.begun = true :=
              @Parser.begun_readAll (.openedObject []) parser rest rfl inner
            rw [Option.bind_some]
            cases finished : parser.readAll (tokens (.object members)) with
            | none => rfl
            | some last =>
                cases last with
                | done value => exact absurd finished (parser.readAll_object_of_begun begun _ _)
                | _ => rfl

end GridexEdge.Foundation.Json
