import MaskedReport.Document.Cursor
import MaskedReport.Document.Refusal
import MaskedReport.Document.Token
import MaskedReport.Text.Numeral
import MaskedReport.Text.Utf8

/-!
# Lexemes

The tokens of a document that have text of their own: directives, anchors, tags and scalars. Each
reader starts at the first character of its token and gives the place after it.
-/

set_option autoImplicit false

namespace MaskedReport.Document.Lexeme

/-- Refuses the document. -/
def fault {α : Type} (f : Fault) : Except Refusal α := .error (.fault f)

/-- The number that digits stand for. -/
def number (base : Nat) (digits : List Char) : Nat :=
  Numeral.value base (digits.filterMap Numeral.digitValue?)

/-! ## Tags -/

/-- The characters of tags, with the percent sign that starts a code. -/
def isTagChar (c : Char) : Bool :=
  isNameChar c || "-;/?:@&=+$,_.!~*'()[]%".toList.contains c

/-- Bytes written as percent codes; `fuel` bounds their number. -/
def percentBytes (place : TagPlace) : Nat → Cursor → Except Refusal (List UInt8 × Cursor)
  | 0, c => .ok ([], c)
  | fuel + 1, c =>
    if c.peek = some '%' then
      let two := c.next.ahead 2
      if two.length = 2 ∧ two.all Ascii.isHexDigit then do
        let (rest, c) ← percentBytes place fuel (c.forward 3)
        return (UInt8.ofNat (number 16 two) :: rest, c)
      else fault (.tagHandle place)
    else .ok ([], c)

/-- Characters written as percent codes of their bytes. -/
def percentChars (place : TagPlace) (c : Cursor) : Except Refusal (List Char × Cursor) := do
  let (bytes, c) ← percentBytes place c.rest.length c
  match Utf8.decode bytes with
  | .ok cs => return (cs, c)
  | .error _ => fault (.tagHandle place)

/-- The text of a tag, after what is found; `fuel` bounds the number of percent codes. -/
def tagChars (place : TagPlace) : Nat → List Char → Cursor → Except Refusal (List Char × Cursor)
  | 0, found, c => .ok (found, c)
  | fuel + 1, found, c => do
    let (plain, c) := c.span fun ch => isTagChar ch && ch != '%'
    if c.peek = some '%' then
      let (coded, c) ← percentChars place c
      tagChars place fuel (found ++ plain ++ coded) c
    else return (found ++ plain, c)

/-- The text of a tag, of which there must be some. -/
def tagText (place : TagPlace) (c : Cursor) : Except Refusal (String × Cursor) := do
  let (cs, after) ← tagChars place (c.rest.length + 1) [] c
  if after.index = c.index then fault (.tagText place) else return (String.ofList cs, after)

/-- A tag handle: an exclamation mark, or a name between two. -/
def tagHandle (place : TagPlace) (c : Cursor) : Except Refusal (String × Cursor) :=
  if c.peek != some '!' then fault (.tagHandle place)
  else if c.peekAt 1 = some ' ' then .ok ("!", c.next)
  else
    let (nameChars, after) := c.next.span isNameChar
    if after.peek != some '!' then fault (.tagHandle place)
    else .ok (String.ofList ('!' :: nameChars ++ ['!']), after.next)

/-- Whether a second exclamation mark comes before the word ends. -/
def hasHandle (c : Cursor) : Bool :=
  (c.rest.drop 1).takeWhile (fun ch => !endsWord (some ch)) |>.contains '!'

/-- A tag. -/
def tag (c : Cursor) : Except Refusal (WrittenTag × Cursor) := do
  let (t, c) ← if c.peekAt 1 = some '<' then do
      let (suffix, c) ← tagText .tag (c.forward 2)
      if c.peek != some '>' then fault (.tagText .tag)
      else pure (({ handle := none, suffix } : WrittenTag), c.next)
    else if isGap (c.peekAt 1) then pure ({ handle := none, suffix := "!" }, c.next)
    else do
      let (handle, c) ← if hasHandle c then tagHandle .tag c else pure ("!", c.next)
      let (suffix, c) ← tagText .tag c
      pure ({ handle := some handle, suffix }, c)
  if endsWord c.peek then return (t, c) else fault .tag

/-! ## Anchors and directives -/

/-- The name of an anchor or alias, after its mark. -/
def anchorName (f : Fault) (c : Cursor) : Except Refusal (String × Cursor) :=
  let (cs, c) := c.next.span isNameChar
  if cs.isEmpty then fault f
  else if isGap c.peek || c.peek.all ("?:,]\x7d%@\x60".toList.contains ·) then
    .ok (String.ofList cs, c)
  else fault f

/-- A number of a version. -/
def versionNumber (c : Cursor) : Except Refusal (Nat × Cursor) :=
  let (ds, c) := c.span Ascii.isDigit
  if ds.isEmpty then fault .directive
  else if Numeral.digitLimit < ds.length then .error (.scalar (.numeralTooLong ds.length))
  else .ok (number 10 ds, c)

/-- The rest of a directive's line, which may hold a comment. -/
def restOfLine (f : Fault) (c : Cursor) : Except Refusal Cursor :=
  let c := c.skipSpaces.skipComment
  if endsLine c.peek then .ok c.lineBreak.2 else fault f

/-- A directive. -/
def directive (c : Cursor) : Except Refusal (Directive × Cursor) := do
  let (name, c) := c.next.span isNameChar
  if name.isEmpty || !endsWord c.peek then fault .directive
  else
    let (d, c) ← if name = "YAML".toList then do
        let (major, c) ← versionNumber c.skipSpaces
        if c.peek != some '.' then fault .directive
        else
          let (minor, c) ← versionNumber c.next
          if endsWord c.peek then pure (Directive.version major minor, c) else fault .directive
      else if name = "TAG".toList then do
        let (handle, c) ← tagHandle .directive c.skipSpaces
        if c.peek != some ' ' then fault .directive
        else
          let (expansion, c) ← tagText .directive c.skipSpaces
          if endsWord c.peek then pure (.handle handle expansion, c) else fault .directive
      else pure (.reserved, c.skip (!isBreak ·))
    return (d, ← restOfLine .directive c)

/-! ## Block scalars -/

/-- What becomes of the line ends at the end of a block scalar. -/
inductive Chomping where
  | clip
  | strip
  | keep
  deriving DecidableEq

/-- The chomping that an indicator asks for. -/
def chomping? : Option Char → Option Chomping
  | some '+' => some .keep
  | some '-' => some .strip
  | _ => none

/-- An indentation indicator, if one stands here. -/
def indicator (c : Cursor) : Except Refusal (Option Nat × Cursor) :=
  match c.peek with
  | some d =>
    if d = '0' then fault .blockScalar
    else if Ascii.isDigit d then .ok (some (d.toNat - 48), c.next)
    else .ok (none, c)
  | none => .ok (none, c)

/-- The indicators after the mark of a block scalar, in either order. -/
def indicators (c : Cursor) : Except Refusal ((Chomping × Option Nat) × Cursor) := do
  let ((chomp, increment), c) ← match chomping? c.peek with
    | some chomp => do
      let (increment, c) ← indicator c.next
      pure ((chomp, increment), c)
    | none => do
      let (increment, c) ← indicator c
      match increment, chomping? c.peek with
      | some n, some chomp => pure ((chomp, some n), c.next)
      | _, _ => pure ((.clip, increment), c)
  if endsWord c.peek then return ((chomp, increment), c) else fault .blockScalar

/-- Lines of spaces: their ends, the greatest column among them, and the place after them. -/
def blankLines : Nat → List Char → Nat → Cursor → List Char × Nat × Cursor
  | 0, breaks, deepest, c => (breaks, deepest, c)
  | fuel + 1, breaks, deepest, c =>
    match c.peek with
    | some ch =>
      if ch = ' ' then
        let c := c.next
        blankLines fuel breaks (max deepest c.column) c
      else if isBreak ch then
        let (b, c) := c.lineBreak
        blankLines fuel (breaks ++ b) deepest c
      else (breaks, deepest, c)
    | none => (breaks, deepest, c)

/-- The place after spaces before a column. -/
def indentTo (column : Nat) (c : Cursor) : Cursor :=
  c.forward ((c.rest.take (column - c.column)).takeWhile (· = ' ')).length

/-- Line ends with spaces up to a column after each. -/
def indentedBreaks (column : Nat) : Nat → List Char → Cursor → List Char × Cursor
  | 0, breaks, c => (breaks, c)
  | fuel + 1, breaks, c =>
    let c := indentTo column c
    if c.peek.any isBreak then
      let (b, c) := c.lineBreak
      indentedBreaks column fuel (breaks ++ b) c
    else (breaks, c)

/-- The lines of a block scalar from a column on: `breaks` are the line ends before this line. Gives
the text, the last line end, the line ends after it, and the place. -/
def blockLines (folded : Bool) (column : Nat) :
    Nat → List Char → List Char → Cursor → List Char × List Char × List Char × Cursor
  | 0, found, breaks, c => (found, [], breaks, c)
  | fuel + 1, found, breaks, c =>
    let indented := c.peek.any fun ch => ch = ' ' || ch = '\t'
    let (line, c) := c.span (!isBreak ·)
    let (lineEnd, c) := c.lineBreak
    let found := found ++ breaks ++ line
    let (breaks, c) := indentedBreaks column (c.rest.length + 1) [] c
    if c.column = column ∧ c.peek.isSome then
      let joined :=
        if folded && lineEnd = ['\n'] && !indented && !(c.peek.any fun ch => ch = ' ' || ch = '\t')
        then if breaks.isEmpty then [' '] else []
        else lineEnd
      blockLines folded column fuel (found ++ joined) breaks c
    else (found, lineEnd, breaks, c)

/-- A block scalar within the given indentation, one more than that of the block around it. -/
def blockScalar (outer : Nat) (c : Cursor) : Except Refusal (String × Cursor) := do
  let folded := c.peek = some '>'
  let ((chomp, increment), c) ← indicators c.next
  let c ← restOfLine .blockScalar c
  let least := max outer 1
  let (column, breaks, c) := match increment with
    | none =>
      let (breaks, deepest, c) := blankLines (c.rest.length + 1) [] 0 c
      (max least deepest, breaks, c)
    | some n =>
      let column := least + n - 1
      let (breaks, c) := indentedBreaks column (c.rest.length + 1) [] c
      (column, breaks, c)
  let (found, lineEnd, breaks, c) :=
    if c.column = column ∧ c.peek.isSome then
      blockLines folded column (c.rest.length + 1) [] breaks c
    else ([], [], breaks, c)
  let tail := match chomp with
    | .strip => []
    | .clip => lineEnd
    | .keep => lineEnd ++ breaks
  return (String.ofList (found ++ tail), c)

/-! ## Quoted scalars -/

/-- The character that an escape of one letter stands for. -/
def simpleEscape? : Char → Option Char
  | '0' => some '\x00'
  | 'a' => some '\x07'
  | 'b' => some '\x08'
  | 't' => some '\t'
  | '\t' => some '\t'
  | 'n' => some '\n'
  | 'v' => some '\x0b'
  | 'f' => some '\x0c'
  | 'r' => some '\r'
  | 'e' => some '\x1b'
  | ' ' => some ' '
  | '"' => some '"'
  | '\\' => some '\\'
  | '/' => some '/'
  | 'N' => some '\u0085'
  | '_' => some '\u00a0'
  | 'L' => some '\u2028'
  | 'P' => some '\u2029'
  | _ => none

/-- The number of hexadecimal digits after the letter of an escape. -/
def codeLength? : Char → Option Nat
  | 'x' => some 2
  | 'u' => some 4
  | 'U' => some 8
  | _ => none

/-- Line ends within a quoted scalar with the blanks around them; no separator of documents may come
there. -/
def quotedBreaks : Nat → List Char → Cursor → Except Refusal (List Char × Cursor)
  | 0, breaks, c => .ok (breaks, c)
  | fuel + 1, breaks, c =>
    if c.isSeparator then fault .quoted
    else
      let c := c.skip fun ch => ch = ' ' || ch = '\t'
      if c.peek.any isBreak then
        let (b, c) := c.lineBreak
        quotedBreaks fuel (breaks ++ b) c
      else .ok (breaks, c)

/-- Blanks within a quoted scalar; a line end among them is folded. -/
def quotedSpaces (c : Cursor) : Except Refusal (List Char × Cursor) := do
  let (blanks, c) := c.span fun ch => ch = ' ' || ch = '\t'
  match c.peek with
  | none => fault .quoted
  | some ch =>
    if isBreak ch then
      let (lineEnd, c) := c.lineBreak
      let (breaks, c) ← quotedBreaks (c.rest.length + 1) [] c
      let folded := if lineEnd != ['\n'] then lineEnd else if breaks.isEmpty then [' '] else []
      return (folded ++ breaks, c)
    else return (blanks, c)

/-- An escape, its backslash taken. One by a code may give half of a surrogate pair, which stays
alone even where the other half comes next. -/
def escape (c : Cursor) : Except Refusal (List Letter × Cursor) :=
  match c.peek with
  | none => fault .doubleQuoted
  | some ch =>
    match simpleEscape? ch, codeLength? ch with
    | some d, _ => .ok ([.char d], c.next)
    | none, some n =>
      let digits := c.next.ahead n
      if digits.length = n ∧ digits.all Ascii.isHexDigit then
        let code := number 16 digits
        if 0x80000000 ≤ code then .error (.scalar .codeOverflow)
        else if 0x10FFFF < code then .error (.scalar .codePoint)
        else .ok ([.ofCode code], c.forward (n + 1))
      else fault .doubleQuoted
    | none, none =>
      if isBreak ch then do
        let (breaks, c) ← quotedBreaks (c.rest.length + 1) [] c.lineBreak.2
        return (breaks.map .char, c)
      else fault .doubleQuoted

/-- The text of a quoted scalar without blanks. -/
def quotedWord (double : Bool) :
    Nat → List Letter → Cursor → Except Refusal (List Letter × Cursor)
  | 0, found, c => .ok (found, c)
  | fuel + 1, found, c => do
    let (plain, c) := c.span fun ch => !(ch = '\'' || ch = '"' || ch = '\\' || isGap (some ch))
    let found := found ++ plain.map .char
    match c.peek with
    | none => return (found, c)
    | some ch =>
      if !double && ch = '\'' && c.peekAt 1 = some '\'' then
        quotedWord double fuel (found ++ [.char '\'']) (c.forward 2)
      else if (double && ch = '\'') || (!double && (ch = '"' || ch = '\\')) then
        quotedWord double fuel (found ++ [.char ch]) c.next
      else if double && ch = '\\' then
        let (letters, c) ← escape c.next
        quotedWord double fuel (found ++ letters) c
      else return (found, c)

/-- The text of a quoted scalar up to its closing mark. -/
def quotedText (double : Bool) :
    Nat → List Letter → Cursor → Except Refusal (List Letter × Cursor)
  | 0, _, _ => fault .quoted
  | fuel + 1, found, c => do
    let (word, c) ← quotedWord double (c.rest.length + 1) [] c
    let found := found ++ word
    if c.peek = some (if double then '"' else '\'') then return (found, c.next)
    else
      let (blanks, c) ← quotedSpaces c
      quotedText double fuel (found ++ blanks.map .char) c

/-- A quoted scalar. -/
def quotedScalar (c : Cursor) : Except Refusal (Text × Cursor) := do
  let double := c.peek = some '"'
  let (letters, c) ← quotedText double (c.rest.length + 1) [] c.next
  return (.ofList letters, c)

/-! ## Plain scalars -/

/-- Whether a plain scalar ends at the head of the text. -/
def endsPlain (inFlow : Bool) : List Char → Bool
  | [] => true
  | ch :: rest =>
    isGap (some ch) ||
      (ch = ':' && (isGap rest.head? ||
        (inFlow && rest.head?.any (",[]\x7b\x7d".toList.contains ·)))) ||
      (inFlow && ",?[]\x7b\x7d".toList.contains ch)

/-- The number of characters before the end of a plain scalar's word. -/
def plainLength (inFlow : Bool) : List Char → Nat
  | [] => 0
  | ch :: rest => if endsPlain inFlow (ch :: rest) then 0 else plainLength inFlow rest + 1

/-- Blank lines within a plain scalar; none if a separator of documents follows a line end. -/
def plainBreaks : Nat → List Char → Cursor → Option (List Char) × Cursor
  | 0, breaks, c => (some breaks, c)
  | fuel + 1, breaks, c =>
    match c.peek with
    | some ch =>
      if ch = ' ' then plainBreaks fuel breaks c.next
      else if isBreak ch then
        let (b, c) := c.lineBreak
        if c.isSeparator then (none, c) else plainBreaks fuel (breaks ++ b) c
      else (some breaks, c)
    | none => (some breaks, c)

/-- The gap after a word of a plain scalar: the text that it folds to, which is empty if the scalar
ends, whether a line ends in it, and the place after it. -/
def plainSpaces (c : Cursor) : List Char × Bool × Cursor :=
  let (spaces, c) := c.span (· = ' ')
  if c.peek.any isBreak then
    let (lineEnd, c) := c.lineBreak
    if c.isSeparator then ([], true, c)
    else match plainBreaks (c.rest.length + 1) [] c with
      | (none, c) => ([], true, c)
      | (some breaks, c) =>
        let folded := if lineEnd != ['\n'] then lineEnd else if breaks.isEmpty then [' '] else []
        (folded ++ breaks, true, c)
  else (spaces, false, c)

/-- The words of a plain scalar within an indentation: its text, whether a line ends after its last
word, and the place. -/
def plainWords (inFlow : Bool) (indent : Nat) :
    Nat → List Char → List Char → Bool → Cursor → List Char × Bool × Cursor
  | 0, found, _, broken, c => (found, broken, c)
  | fuel + 1, found, spaces, broken, c =>
    let n := if c.peek = some '#' then 0 else plainLength inFlow c.rest
    if n = 0 then (found, broken, c)
    else
      let found := found ++ spaces ++ c.ahead n
      let (spaces, broken, c) := plainSpaces (c.forward n)
      if spaces.isEmpty || c.peek = some '#' || (!inFlow && decide (c.column < indent)) then
        (found, broken, c)
      else plainWords inFlow indent fuel found spaces broken c

/-- A plain scalar, with whether a line ends after it. -/
def plainScalar (inFlow : Bool) (indent : Nat) (c : Cursor) : (String × Bool) × Cursor :=
  let (cs, broken, c) := plainWords inFlow indent (c.rest.length + 1) [] [] false c
  ((String.ofList cs, broken), c)

end MaskedReport.Document.Lexeme
