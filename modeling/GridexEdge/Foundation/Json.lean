import GridexEdge.Foundation.JsonLexer

/-!
JSON values, a reader and a writer.

The parser keeps the open arrays and objects on a stack, so it is a fold over the tokens.
`read_render` is the round trip of a writer whose strings and numbers are those of the
grammar.
-/

namespace GridexEdge.Foundation

inductive Json where
  | null
  | bool (value : Bool)
  | number (text : List UInt8)
  | string (bytes : List UInt8)
  | array (items : List Json)
  | object (members : List (List UInt8 × Json))

namespace Json

/-! ### Reader -/

/-- An array, or an object with the key of its open member. -/
inductive Frame where
  | array (items : List Json)
  | object (members : List (List UInt8 × Json)) (key : List UInt8)

inductive Parser where
  /-- A value must follow. -/
  | expectValue (frames : List Frame)
  | openedArray (outer : List Frame)
  | openedObject (outer : List Frame)
  | expectKey (members : List (List UInt8 × Json)) (outer : List Frame)
  | expectColon (members : List (List UInt8 × Json)) (key : List UInt8) (outer : List Frame)
  | afterItem (items : List Json) (outer : List Frame)
  | afterMember (members : List (List UInt8 × Json)) (outer : List Frame)
  | done (value : Json)

namespace Parser

/-- A value goes to the innermost open container. -/
def finish : List Frame → Json → Parser
  | [], value => .done value
  | .array items :: outer, value => .afterItem (items ++ [value]) outer
  | .object members key :: outer, value => .afterMember (members ++ [(key, value)]) outer

def start (frames : List Frame) : Token → Option Parser
  | .openArray => some (.openedArray frames)
  | .openObject => some (.openedObject frames)
  | .null => some (finish frames .null)
  | .bool value => some (finish frames (.bool value))
  | .number text => some (finish frames (.number text))
  | .string bytes => some (finish frames (.string bytes))
  | _ => none

def step : Parser → Token → Option Parser
  | .expectValue frames, token => start frames token
  | .openedArray outer, .closeArray => some (finish outer (.array []))
  | .openedArray outer, token => start (.array [] :: outer) token
  | .openedObject outer, .closeObject => some (finish outer (.object []))
  | .openedObject outer, .string key => some (.expectColon [] key outer)
  | .expectKey members outer, .string key => some (.expectColon members key outer)
  | .expectColon members key outer, .colon =>
      some (.expectValue (.object members key :: outer))
  | .afterItem items outer, .comma => some (.expectValue (.array items :: outer))
  | .afterItem items outer, .closeArray => some (finish outer (.array items))
  | .afterMember members outer, .comma => some (.expectKey members outer)
  | .afterMember members outer, .closeObject => some (finish outer (.object members))
  | _, _ => none

def readAll (parser : Parser) (tokens : List Token) : Option Parser := tokens.foldlM step parser

end Parser

def parse (tokens : List Token) : Option Json :=
  match (Parser.expectValue []).readAll tokens with
  | some (.done value) => some value
  | _ => none

def read (text : List UInt8) : Option Json := (lex text).bind parse

/-- The value of the first member of that name. -/
def field? (name : List UInt8) : Json → Option Json
  | .object members => members.lookup name
  | _ => none

/-! ### Writer -/

section Writer

variable (quote : List UInt8 → List UInt8)

mutual

/-- The text without blanks, where every item follows a comma except the first. -/
def render : Json → List UInt8
  | .null => nullText
  | .bool value => if value then trueText else falseText
  | .number text => text
  | .string bytes => quote bytes
  | .array items => 0x5B :: ((renderItems items).drop 1 ++ [0x5D])
  | .object members => 0x7B :: ((renderMembers members).drop 1 ++ [0x7D])

def renderItems : List Json → List UInt8
  | [] => []
  | item :: rest => 0x2C :: (render item ++ renderItems rest)

def renderMembers : List (List UInt8 × Json) → List UInt8
  | [] => []
  | (key, value) :: rest => 0x2C :: (quote key ++ 0x3A :: (render value ++ renderMembers rest))

end

end Writer

mutual

/-- The tokens of a value. -/
def tokens : Json → List Token
  | .null => [.null]
  | .bool value => [.bool value]
  | .number text => [.number text]
  | .string bytes => [.string bytes]
  | .array items => .openArray :: ((itemTokens items).drop 1 ++ [.closeArray])
  | .object members => .openObject :: ((memberTokens members).drop 1 ++ [.closeObject])

def itemTokens : List Json → List Token
  | [] => []
  | item :: rest => .comma :: (tokens item ++ itemTokens rest)

def memberTokens : List (List UInt8 × Json) → List Token
  | [] => []
  | (key, value) :: rest =>
      .comma :: .string key :: .colon :: (tokens value ++ memberTokens rest)

end

mutual

/-- All numbers are those of the grammar. -/
def Numeric : Json → Prop
  | .number text => isNumber text = true
  | .array items => NumericItems items
  | .object members => NumericMembers members
  | _ => True

def NumericItems : List Json → Prop
  | [] => True
  | item :: rest => Numeric item ∧ NumericItems rest

def NumericMembers : List (List UInt8 × Json) → Prop
  | [] => True
  | (_, value) :: rest => Numeric value ∧ NumericMembers rest

end

theorem numericItems_of_forall {items : List Json} (numeric : ∀ item ∈ items, Numeric item) :
    NumericItems items := by
  induction items with
  | nil => trivial
  | cons item rest inductionHypothesis =>
      rw [List.forall_mem_cons] at numeric
      exact ⟨numeric.1, inductionHypothesis numeric.2⟩

theorem numericMembers_of_forall {members : List (List UInt8 × Json)}
    (numeric : ∀ member ∈ members, Numeric member.2) : NumericMembers members := by
  induction members with
  | nil => trivial
  | cons member rest inductionHypothesis =>
      rw [List.forall_mem_cons] at numeric
      exact ⟨numeric.1, inductionHypothesis numeric.2⟩

/-! ### Round trip -/

/-- No value starts with a closing bracket. -/
theorem exists_tokens_eq_cons (value : Json) :
    ∃ first rest, tokens value = first :: rest ∧ first ≠ .closeArray := by
  cases value <;> exact ⟨_, _, rfl, Token.noConfusion⟩

namespace Parser

theorem readAll_append (parser : Parser) (first second : List Token) :
    parser.readAll (first ++ second) = (parser.readAll first).bind (·.readAll second) :=
  List.foldlM_append

theorem readAll_cons (parser : Parser) (token : Token) (rest : List Token) :
    parser.readAll (token :: rest) = (parser.step token).bind (·.readAll rest) :=
  List.foldlM_cons

/-- The first item of an array is read like any value in it. -/
theorem readAll_openedArray (outer : List Frame) (value : Json) :
    (openedArray outer).readAll (tokens value) =
      (expectValue (.array [] :: outer)).readAll (tokens value) := by
  obtain ⟨first, rest, split, opening⟩ := exists_tokens_eq_cons value
  rw [split, readAll_cons, readAll_cons]
  cases first with
  | closeArray => exact absurd rfl opening
  | _ => rfl

end Parser

mutual

theorem readAll_tokens (frames : List Frame) : (value : Json) →
    (Parser.expectValue frames).readAll (tokens value) = some (Parser.finish frames value)
  | .null => rfl
  | .bool _ => rfl
  | .number _ => rfl
  | .string _ => rfl
  | .array [] => rfl
  | .array (item :: rest) => by
      have first := readAll_tokens (.array [] :: frames) item
      have others := readAll_itemTokens frames [item] rest
      have opened : (Parser.openedArray frames).readAll (tokens item) =
          some (.afterItem [item] frames) := (Parser.readAll_openedArray frames item).trans first
      have all : (Parser.openedArray frames).readAll
          (tokens item ++ itemTokens rest ++ [.closeArray]) =
            some (.finish frames (.array (item :: rest))) := by
        rw [Parser.readAll_append, Parser.readAll_append, opened, Option.bind_some, others]
        rfl
      rw [tokens, itemTokens]
      exact all
  | .object [] => rfl
  | .object ((key, value) :: rest) => by
      have first := readAll_tokens (.object [] key :: frames) value
      have others := readAll_memberTokens frames [(key, value)] rest
      have opened : (Parser.expectValue (.object [] key :: frames)).readAll (tokens value) =
          some (.afterMember [(key, value)] frames) := first
      have all : (Parser.expectValue (.object [] key :: frames)).readAll
          (tokens value ++ memberTokens rest ++ [.closeObject]) =
            some (.finish frames (.object ((key, value) :: rest))) := by
        rw [Parser.readAll_append, Parser.readAll_append, opened, Option.bind_some, others]
        rfl
      rw [tokens, memberTokens]
      exact all

theorem readAll_itemTokens (outer : List Frame) (before : List Json) : (items : List Json) →
    (Parser.afterItem before outer).readAll (itemTokens items) =
      some (.afterItem (before ++ items) outer)
  | [] => by
      rw [List.append_nil]
      rfl
  | item :: rest => by
      have first := readAll_tokens (.array before :: outer) item
      have others := readAll_itemTokens outer (before ++ [item]) rest
      have all : (Parser.expectValue (.array before :: outer)).readAll
          (tokens item ++ itemTokens rest) =
            some (.afterItem (before ++ item :: rest) outer) := by
        rw [Parser.readAll_append, first, Option.bind_some]
        refine others.trans ?_
        rw [List.append_assoc]
        rfl
      rw [itemTokens]
      exact all

theorem readAll_memberTokens (outer : List Frame) (before : List (List UInt8 × Json)) :
    (members : List (List UInt8 × Json)) →
    (Parser.afterMember before outer).readAll (memberTokens members) =
      some (.afterMember (before ++ members) outer)
  | [] => by
      rw [List.append_nil]
      rfl
  | (key, value) :: rest => by
      have first := readAll_tokens (.object before key :: outer) value
      have others := readAll_memberTokens outer (before ++ [(key, value)]) rest
      have all : (Parser.expectValue (.object before key :: outer)).readAll
          (tokens value ++ memberTokens rest) =
            some (.afterMember (before ++ (key, value) :: rest) outer) := by
        rw [Parser.readAll_append, first, Option.bind_some]
        refine others.trans ?_
        rw [List.append_assoc]
        rfl
      rw [memberTokens]
      exact all

end

theorem parse_tokens (value : Json) : parse (tokens value) = some value := by
  rw [parse, readAll_tokens]
  rfl

section Writer

variable {quote : List UInt8 → List UInt8}

/-- A writer's string is one string of the grammar with the same bytes. -/
def Quotes (quote : List UInt8 → List UInt8) : Prop :=
  ∀ bytes, Lexes (quote bytes) [.string bytes]

theorem lexes_member (quotes : Quotes quote) (key : List UInt8) {text : List UInt8}
    {tokens : List Token} (lexes : Lexes text tokens) :
    Lexes (quote key ++ 0x3A :: text) (.string key :: .colon :: tokens) :=
  (quotes key).append (.intro rfl lexes)

mutual

theorem lexes_render (quotes : Quotes quote) : (value : Json) → Numeric value →
    Lexes (render quote value) (tokens value)
  | .null, _ => lexes_word rfl (List.cons_ne_nil _ _) rfl
  | .bool true, _ => lexes_word rfl (List.cons_ne_nil _ _) rfl
  | .bool false, _ => lexes_word rfl (List.cons_ne_nil _ _) rfl
  | .number _, numeric => lexes_number numeric
  | .string bytes, _ => quotes bytes
  | .array [], _ => Lexes.cons rfl (Lexes.cons rfl lexes_nil)
  | .array (item :: rest), numeric => by
      have first := lexes_render quotes item numeric.1
      have others := follows_renderItems quotes rest numeric.2
      have all : Lexes (0x5B :: (render quote item ++ (renderItems quote rest ++ [0x5D])))
          (.openArray :: (tokens item ++ (itemTokens rest ++ [.closeArray]))) :=
        .cons rfl (first.append others)
      rw [← List.append_assoc, ← List.append_assoc] at all
      rw [render, renderItems, tokens, itemTokens]
      exact all
  | .object [], _ => Lexes.cons rfl (Lexes.cons rfl lexes_nil)
  | .object ((key, value) :: rest), numeric => by
      have first := lexes_render quotes value numeric.1
      have others := follows_renderMembers quotes rest numeric.2
      have all : Lexes (0x7B :: (quote key ++ 0x3A ::
            (render quote value ++ (renderMembers quote rest ++ [0x7D]))))
          (.openObject :: .string key :: .colon ::
            (tokens value ++ (memberTokens rest ++ [.closeObject]))) :=
        .cons rfl (lexes_member quotes key (first.append others))
      rw [render, renderMembers, tokens, memberTokens]
      simpa using all

/-- Items that follow another one. -/
theorem follows_renderItems (quotes : Quotes quote) : (items : List Json) → NumericItems items →
    Follows (renderItems quote items ++ [0x5D]) (itemTokens items ++ [.closeArray])
  | [], _ => .intro rfl lexes_nil
  | item :: rest, numeric => by
      have first := lexes_render quotes item numeric.1
      have others := follows_renderItems quotes rest numeric.2
      have all := first.append others
      rw [← List.append_assoc, ← List.append_assoc] at all
      rw [renderItems, itemTokens]
      exact .intro rfl all

theorem follows_renderMembers (quotes : Quotes quote) :
    (members : List (List UInt8 × Json)) → NumericMembers members →
    Follows (renderMembers quote members ++ [0x7D]) (memberTokens members ++ [.closeObject])
  | [], _ => .intro rfl lexes_nil
  | (key, value) :: rest, numeric => by
      have first := lexes_render quotes value numeric.1
      have others := follows_renderMembers quotes rest numeric.2
      have all := lexes_member quotes key (first.append others)
      have follows := Follows.intro (rfl : punctuation 0x2C = some .comma) all
      rw [renderMembers, memberTokens]
      simpa using follows

end

/-- What a writer writes for a value is read back as that value. -/
theorem read_render (quotes : Quotes quote) {value : Json} (numeric : Numeric value) :
    read (render quote value) = some value := by
  rw [read, lex_of_lexes (lexes_render quotes value numeric), Option.bind_some, parse_tokens]

end Writer

end Json

end GridexEdge.Foundation
