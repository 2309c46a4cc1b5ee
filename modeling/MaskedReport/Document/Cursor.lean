/-!
# Places in a document

A cursor is a place in the text of a document with its line and column. Line ends are line feeds,
carriage returns and the line and paragraph separators; a byte order mark takes no column.
-/

set_option autoImplicit false

namespace MaskedReport.Document

/-- The characters that end a line. -/
def isBreak (c : Char) : Bool :=
  c = '\n' || c = '\r' || c = '\u0085' || c = '\u2028' || c = '\u2029'

/-- Whether a line ends here, where nothing stands for the end of the text. -/
def endsLine (c : Option Char) : Bool := c.all isBreak

/-- Whether a space or a line end is here. -/
def endsWord (c : Option Char) : Bool := c.all fun d => d = ' ' || isBreak d

/-- Whether a blank or a line end is here. -/
def isGap (c : Option Char) : Bool := c.all fun d => d = ' ' || d = '\t' || isBreak d

/-- The characters of names of anchors, directives and tag handles. -/
def isNameChar (c : Char) : Bool :=
  ('0' ≤ c && c ≤ '9') || ('A' ≤ c && c ≤ 'Z') || ('a' ≤ c && c ≤ 'z') || c = '-' || c = '_'

/-- A place in a text. `index` counts the characters before it. -/
structure Cursor where
  rest : List Char
  index : Nat := 0
  line : Nat := 0
  column : Nat := 0
  deriving DecidableEq

namespace Cursor

/-- The character here. -/
def peek (c : Cursor) : Option Char := c.rest.head?

/-- The character `n` places on. -/
def peekAt (c : Cursor) (n : Nat) : Option Char := c.rest[n]?

/-- The next `n` characters. -/
def ahead (c : Cursor) (n : Nat) : List Char := c.rest.take n

/-- The place after the character here. -/
def next (c : Cursor) : Cursor :=
  match c.rest with
  | [] => c
  | ch :: rest =>
    if isBreak ch && !(ch = '\r' && rest.head? = some '\n') then
      { rest, index := c.index + 1, line := c.line + 1, column := 0 }
    else
      { c with
        rest
        index := c.index + 1
        column := if ch = '\uFEFF' then c.column else c.column + 1 }

/-- The place `n` characters on. -/
def forward : Nat → Cursor → Cursor
  | 0, c => c
  | n + 1, c => forward n c.next

/-- The characters that satisfy the test, and the place after them. -/
def span (test : Char → Bool) (c : Cursor) : List Char × Cursor :=
  let taken := c.rest.takeWhile test
  (taken, c.forward taken.length)

/-- The place after the characters that satisfy the test. -/
def skip (test : Char → Bool) (c : Cursor) : Cursor := (c.span test).2

/-- The place after spaces. -/
def skipSpaces (c : Cursor) : Cursor := c.skip (· = ' ')

/-- The place at the end of a comment that starts here. -/
def skipComment (c : Cursor) : Cursor :=
  if c.peek = some '#' then c.skip (!isBreak ·) else c

/-- The line end here as the text it stands for, which is empty if there is none, and the place
after it. -/
def lineBreak (c : Cursor) : List Char × Cursor :=
  match c.rest with
  | '\r' :: '\n' :: _ => (['\n'], c.forward 2)
  | ch :: _ =>
    if ch = '\u2028' || ch = '\u2029' then ([ch], c.next)
    else if isBreak ch then (['\n'], c.next)
    else ([], c)
  | [] => ([], c)

/-- Whether the three characters stand here, with a gap after them. -/
def isMarker (c : Cursor) (three : List Char) : Bool := c.ahead 3 = three && isGap (c.peekAt 3)

/-- Whether a marker of the start or end of a document stands here. -/
def isSeparator (c : Cursor) : Bool :=
  c.isMarker ['-', '-', '-'] || c.isMarker ['.', '.', '.']

end Cursor

end MaskedReport.Document
