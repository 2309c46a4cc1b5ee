import MaskedReport.Document.Lexeme

/-!
# From text to tokens

Tokens are read one after the other with the indentation of the blocks that are open. A token that
may turn out to start a mapping is remembered as a possible key until its line ends; the value mark
that makes it one puts the tokens of the mapping before it. `Feed.ofText` gives the tokens of a
text; when one cannot be read, the tokens from the first possible key on are not given, since what
they are was not settled.
-/

set_option autoImplicit false

namespace MaskedReport.Document

/-- A token that may start a mapping: the flow level and its number among the tokens. A required one
stands where its block can only hold keys. -/
structure PossibleKey where
  level : Nat
  number : Nat
  required : Bool
  index : Nat
  line : Nat
  column : Nat

/-- Where reading stands. `indents` holds the indentations of the open blocks, innermost first. -/
structure Scan where
  cursor : Cursor
  tokens : List Token := []
  flow : Nat := 0
  indents : List Nat := []
  keyAllowed : Bool := true
  keys : List PossibleKey := []
  ended : Bool := false

namespace Scan

/-- One more than the indentation of the innermost block; zero outside all blocks. -/
def depth (s : Scan) : Nat := (s.indents.head?.map (· + 1)).getD 0

/-- Adds a token at the end. -/
def push (s : Scan) (t : Token) : Scan := { s with tokens := s.tokens ++ [t] }

/-- Passes `n` characters and adds a token. -/
def pass (s : Scan) (n : Nat) (t : Token) : Scan :=
  { s with cursor := s.cursor.forward n, tokens := s.tokens ++ [t] }

/-- Whether a possible key is too far back to be one. -/
def isStale (s : Scan) (k : PossibleKey) : Bool :=
  k.line != s.cursor.line || decide (k.index + 1024 < s.cursor.index)

/-- Gives up the possible keys that are too far back. -/
def dropStale (s : Scan) : Except Refusal Scan :=
  if s.keys.any fun k => s.isStale k && k.required then Lexeme.fault .simpleKey
  else .ok { s with keys := s.keys.filter fun k => !s.isStale k }

/-- Gives up the possible key of this flow level. -/
def dropKey (s : Scan) : Except Refusal Scan :=
  if s.keys.any fun k => k.level = s.flow && k.required then Lexeme.fault .simpleKey
  else .ok { s with keys := s.keys.filter fun k => k.level != s.flow }

/-- Remembers the token to come as a possible key, where one is allowed. -/
def saveKey (s : Scan) : Except Refusal Scan := do
  if s.keyAllowed then
    let required := s.flow = 0 && s.depth = s.cursor.column + 1
    let s ← s.dropKey
    let key : PossibleKey := {
      level := s.flow
      number := s.tokens.length
      required
      index := s.cursor.index
      line := s.cursor.line
      column := s.cursor.column }
    return { s with keys := s.keys ++ [key] }
  else return s

/-- Closes the blocks that are indented more than the first `depth` columns allow. -/
def unwindTo (depth : Nat) : List Nat → List Token → List Nat × List Token
  | [], tokens => ([], tokens)
  | i :: outer, tokens =>
    if depth ≤ i then unwindTo depth outer (tokens ++ [.blockEnd]) else (i :: outer, tokens)

/-- Closes the blocks that end at a column; in a flow none do. -/
def unwind (s : Scan) (depth : Nat) : Scan :=
  if s.flow != 0 then s
  else
    let (indents, tokens) := unwindTo depth s.indents s.tokens
    { s with indents, tokens }

/-- Whether a block at a column would be a new one. -/
def isDeeper (s : Scan) (column : Nat) : Bool := decide (s.depth ≤ column)

/-- Opens a block at this column, unless the innermost one is as deep. -/
def openBlock (s : Scan) (t : Token) : Scan :=
  if s.isDeeper s.cursor.column then
    { s with indents := s.cursor.column :: s.indents, tokens := s.tokens ++ [t] }
  else s

/-- The place of the next token, after blanks, comments and line ends; a line end outside flows
allows a key again. -/
def toNextToken (inFlow : Bool) : Nat → Bool → Cursor → Bool × Cursor
  | 0, allowed, c => (allowed, c)
  | fuel + 1, allowed, c =>
    let c := c.skipSpaces.skipComment
    if c.peek.any isBreak then toNextToken inFlow fuel (allowed || !inFlow) c.lineBreak.2
    else (allowed, c)

/-- The end of the document's text. -/
def fetchEnd (s : Scan) : Except Refusal Scan := do
  let s ← (s.unwind 0).dropKey
  return { s.push .streamEnd with keyAllowed := false, keys := [], ended := true }

/-- A directive. -/
def fetchDirective (s : Scan) : Except Refusal Scan := do
  let s ← (s.unwind 0).dropKey
  let (d, cursor) ← Lexeme.directive s.cursor
  return { s.push (.directive d) with cursor, keyAllowed := false }

/-- A mark of the start or end of a document. -/
def fetchSeparator (s : Scan) (t : Token) : Except Refusal Scan := do
  let s ← (s.unwind 0).dropKey
  return { s.pass 3 t with keyAllowed := false }

/-- The start of a flow. -/
def fetchFlowStart (s : Scan) (t : Token) : Except Refusal Scan := do
  let s ← s.saveKey
  return { s.pass 1 t with flow := s.flow + 1, keyAllowed := true }

/-- The end of a flow. -/
def fetchFlowEnd (s : Scan) (t : Token) : Except Refusal Scan := do
  let s ← s.dropKey
  return { s.pass 1 t with flow := s.flow - 1, keyAllowed := false }

/-- A comma between the entries of a flow. -/
def fetchFlowEntry (s : Scan) : Except Refusal Scan := do
  let s ← s.dropKey
  return { s.pass 1 .flowEntry with keyAllowed := true }

/-- The mark of a sequence entry. -/
def fetchBlockEntry (s : Scan) : Except Refusal Scan := do
  if s.flow = 0 && !s.keyAllowed then Lexeme.fault .entryNotAllowed
  else
    let s := if s.flow = 0 then s.openBlock .blockSequenceStart else s
    let s ← s.dropKey
    return { s.pass 1 .blockEntry with keyAllowed := true }

/-- The mark of a key. -/
def fetchKey (s : Scan) : Except Refusal Scan := do
  if s.flow = 0 && !s.keyAllowed then Lexeme.fault .keyNotAllowed
  else
    let s := if s.flow = 0 then s.openBlock .blockMappingStart else s
    let s ← s.dropKey
    return { s.pass 1 .key with keyAllowed := s.flow == 0 }

/-- Puts a token before the one with the given number. -/
def insertAt (s : Scan) (n : Nat) (t : Token) : Scan :=
  { s with tokens := s.tokens.take n ++ t :: s.tokens.drop n }

/-- The mark of a value. The possible key of this flow level becomes a key, and may start a
mapping. -/
def fetchValue (s : Scan) : Except Refusal Scan := do
  match s.keys.find? fun k => k.level = s.flow with
  | some k =>
    let s := { s with keys := s.keys.filter fun k => k.level != s.flow }.insertAt k.number .key
    let s := if s.flow = 0 && s.isDeeper k.column then
        { s with indents := k.column :: s.indents }.insertAt k.number .blockMappingStart
      else s
    return { s.pass 1 .value with keyAllowed := false }
  | none =>
    if s.flow = 0 && !s.keyAllowed then Lexeme.fault .valueNotAllowed
    else
      let s := if s.flow = 0 then s.openBlock .blockMappingStart else s
      let s ← { s with keyAllowed := s.flow == 0 }.dropKey
      return s.pass 1 .value

/-- A token that may be a key and takes no key after it. -/
def fetchWord (s : Scan) (read : Cursor → Except Refusal (Token × Cursor)) :
    Except Refusal Scan := do
  let s ← s.saveKey
  let (t, cursor) ← read s.cursor
  return { s.push t with cursor, keyAllowed := false }

/-- A block scalar. -/
def fetchBlockScalar (s : Scan) : Except Refusal Scan := do
  let s ← s.dropKey
  let (text, cursor) ← Lexeme.blockScalar s.depth s.cursor
  return { s.push (.scalar text false) with cursor, keyAllowed := true }

/-- A plain scalar; a line end after it allows a key again. -/
def fetchPlain (s : Scan) : Except Refusal Scan := do
  let s ← s.saveKey
  let ((text, broken), cursor) := Lexeme.plainScalar (s.flow != 0) s.depth s.cursor
  return { s.push (.scalar text true) with cursor, keyAllowed := broken }

/-- The characters that start no plain scalar. -/
def isIndicator (ch : Char) : Bool :=
  isGap (some ch) || "-?:,[]\x7b\x7d#&*!|>'\"%@\x60".toList.contains ch

/-- Whether a plain scalar starts here. -/
def startsPlain (s : Scan) : Bool :=
  match s.cursor.peek with
  | none => false
  | some ch =>
    !isIndicator ch ||
      (!isGap (s.cursor.peekAt 1) && (ch = '-' || (s.flow = 0 && (ch = '?' || ch = ':'))))

/-- Reads a token that starts with the character. -/
def fetchToken (s : Scan) (ch : Char) : Except Refusal Scan :=
  let c := s.cursor
  let gapNext := isGap (c.peekAt 1)
  if ch = '%' ∧ c.column = 0 then s.fetchDirective
  else if c.column = 0 ∧ c.isMarker ['-', '-', '-'] then s.fetchSeparator .documentStart
  else if c.column = 0 ∧ c.isMarker ['.', '.', '.'] then s.fetchSeparator .documentEnd
  else if ch = '[' then s.fetchFlowStart .flowSequenceStart
  else if ch = '\x7b' then s.fetchFlowStart .flowMappingStart
  else if ch = ']' then s.fetchFlowEnd .flowSequenceEnd
  else if ch = '\x7d' then s.fetchFlowEnd .flowMappingEnd
  else if ch = ',' then s.fetchFlowEntry
  else if ch = '-' ∧ gapNext then s.fetchBlockEntry
  else if ch = '?' ∧ (s.flow ≠ 0 ∨ gapNext) then s.fetchKey
  else if ch = ':' ∧ (s.flow ≠ 0 ∨ gapNext) then s.fetchValue
  else if ch = '*' then
    s.fetchWord fun c => do
      let (n, c) ← Lexeme.anchorName .aliasName c
      return (.reference n, c)
  else if ch = '&' then
    s.fetchWord fun c => do
      let (n, c) ← Lexeme.anchorName .anchor c
      return (.anchor n, c)
  else if ch = '!' then
    s.fetchWord fun c => do
      let (t, c) ← Lexeme.tag c
      return (.tag t, c)
  else if (ch = '|' ∨ ch = '>') ∧ s.flow = 0 then s.fetchBlockScalar
  else if ch = '\'' ∨ ch = '"' then
    s.fetchWord fun c => do
      let (t, c) ← Lexeme.quotedScalar c
      return (.scalar t false, c)
  else if s.startsPlain then s.fetchPlain
  else Lexeme.fault .nextToken

/-- Reads the next token, with those that the end of blocks before it adds. -/
def fetch (s : Scan) : Except Refusal Scan := do
  let start :=
    if s.cursor.index = 0 ∧ s.cursor.peek = some '\uFEFF' then s.cursor.next else s.cursor
  let (keyAllowed, cursor) := toNextToken (s.flow != 0) (start.rest.length + 1) s.keyAllowed start
  let s ← { s with keyAllowed, cursor }.dropStale
  let s := s.unwind (cursor.column + 1)
  match cursor.peek with
  | none => s.fetchEnd
  | some ch => s.fetchToken ch

/-- The number of tokens that are settled: those before the first possible key. -/
def settled (s : Scan) : Nat := (s.keys.map (·.number)).foldl min s.tokens.length

end Scan

/-- The tokens of a text, up to the place where reading stops if it does. -/
structure Feed where
  tokens : List Token
  refusal : Option Refusal := none

namespace Feed

/-- Reads tokens to the end. `settled` is the number of settled tokens before the last step; `fuel`
bounds the steps. -/
def collect : Nat → (settled : Nat) → Scan → Feed
  | 0, _, s => ⟨s.tokens, none⟩
  | fuel + 1, settled, s =>
    match s.dropStale with
    | .error r => ⟨s.tokens.take settled, some r⟩
    | .ok s =>
      match s.fetch with
      | .error r => ⟨s.tokens.take s.settled, some r⟩
      | .ok t => if t.ended then ⟨t.tokens, none⟩ else collect fuel s.settled t

/-- The tokens of a text. Every step but the last takes a character. -/
def ofText (text : List Char) : Feed := collect (text.length + 2) 0 { cursor := { rest := text } }

end Feed

end MaskedReport.Document
