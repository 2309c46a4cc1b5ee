import MaskedReport.Value.Shown

/-!
# JSON

Values written as JSON, in one line or indented. Texts are written with the letters they have but
for quotation marks, backslashes and controls. Values that JSON does not know are written as their
text form; NaN and the infinities are written as words. Keys are texts, numbers, truth values or
nothing; any other key fails, as does a collection within itself. What is written is encoded, which
fails where a letter is half of a surrogate pair. A value is written and encoded as a whole, or
printed piece by piece; what fails halfway has then been printed in part. Both are in UTF-8, with
nothing in the place of what cannot be encoded.
-/

set_option autoImplicit false

namespace MaskedReport.Json

/-- How JSON is laid out. `fullNames` tells which of its names a message calls a kind of key by. -/
structure Layout where
  /-- The columns of a level, or none for one line. -/
  indent : Option Nat := none
  fullNames : Bool := true

/-- One line, with spaces after commas and colons. -/
def oneLine : Layout := {}

/-- A line for each item and entry. -/
def indented : Layout := { indent := some 2, fullNames := false }

/-- The form of a character in a text. -/
def escape (c : Char) : List Char :=
  if c = '"' then ['\\', '"']
  else if c = '\\' then ['\\', '\\']
  else if c = '\n' then ['\\', 'n']
  else if c = '\r' then ['\\', 'r']
  else if c = '\t' then ['\\', 't']
  else if c = '\x08' then ['\\', 'b']
  else if c = '\x0c' then ['\\', 'f']
  else if c.toNat < 32 then '\\' :: 'u' :: Quoted.hex 4 c.toNat
  else [c]

/-- The form of a letter in a text. -/
def escapeLetter : Letter → List Letter
  | .char c => (escape c).map .char
  | .lone h => [.lone h]

/-- A text with its quotation marks. -/
def quoted (s : Text) : Text :=
  .ofList (.char '"' :: (s.toList.flatMap escapeLetter ++ [.char '"']))

/-- The form of a double. -/
def realText : Binary64 → String
  | .nan => "NaN"
  | .infinite n => if n then "-Infinity" else "Infinity"
  | x => x.text

/-- The text of a key. -/
def keyText (layout : Layout) : Value → Except Failure Text
  | .text s => .ok s
  | .null => .ok "null"
  | .bool b => .ok (if b then "true" else "false" : String)
  | .int i => do return (← wholeText i : String)
  | .real x => .ok (realText x)
  | v => .error (.keyUnwritable (if layout.fullNames then v.fullKind else v.kind))

/-- Line end and indentation at a depth, if there are lines. -/
def lineEnd (layout : Layout) (depth : Nat) : String :=
  match layout.indent with
  | none => ""
  | some n => "\n" ++ String.ofList (List.replicate (n * depth) ' ')

/-- What stands between items. -/
def separator (layout : Layout) (depth : Nat) : String :=
  match layout.indent with
  | none => ", "
  | some _ => "," ++ lineEnd layout depth

/-- The items between brackets. -/
def enclose (layout : Layout) (depth : Nat) (opening closing : String) (items : List Text) : Text :=
  if items.isEmpty then opening ++ closing
  else
    opening ++ lineEnd layout (depth + 1) ++
      Text.intercalate (separator layout (depth + 1)) items ++ lineEnd layout depth ++ closing

mutual

/-- A value at a depth. -/
def write (layout : Layout) (depth : Nat) : Value → Except Failure Text
  | .null => .ok "null"
  | .bool b => .ok (if b then "true" else "false" : String)
  | .int i => do return (← wholeText i : String)
  | .real x => .ok (realText x)
  | .text s => .ok (quoted s)
  | .list items => do
    return enclose layout depth "[" "]" (← writeItems layout (depth + 1) items)
  | .tuple items => do
    return enclose layout depth "[" "]" (← writeItems layout (depth + 1) items)
  | .map entries => do
    return enclose layout depth "\x7b" "\x7d" (← writeEntries layout (depth + 1) entries)
  | .loop _ => .error .circular
  | .set items => do return quoted (← (Value.set items).toText)
  | .bytes bs => do return quoted (← (Value.bytes bs).toText)
  | .date d => do return quoted (← (Value.date d).toText)
  | .instant t => do return quoted (← (Value.instant t).toText)
  | .pattern p => do return quoted (← (Value.pattern p).toText)
  | .bytePattern source => do return quoted (← (Value.bytePattern source).toText)

/-- Items at a depth. -/
def writeItems (layout : Layout) (depth : Nat) : List Value → Except Failure (List Text)
  | [] => .ok []
  | v :: rest => do
    return (← write layout depth v) :: (← writeItems layout depth rest)

/-- Entries at a depth. -/
def writeEntries (layout : Layout) (depth : Nat) :
    List (Value × Value) → Except Failure (List Text)
  | [] => .ok []
  | (k, v) :: rest => do
    let key ← keyText layout k
    let value ← write layout depth v
    return (quoted key ++ ": " ++ value) :: (← writeEntries layout depth rest)

end

/-- A text encoded, which needs all its letters to be characters. -/
def encoded (s : Text) : Except Failure String :=
  match Text.unencodable? (fun _ => false) 0 s.toList with
  | none => .ok s.string
  | some why => .error (.textUnencodable why)

/-- The JSON text of a value. -/
def text (layout : Layout) (v : Value) : Except Failure String := do
  encoded (← write layout 0 v)

/-! ## Printing -/

/-- Printing. What has been printed stays printed when a later step fails. -/
abbrev Printing := ExceptT Failure (StateM String)

/-- Prints a text, or nothing of it if it cannot be encoded. -/
def put (s : Text) : Printing Unit := do
  let piece ← liftExcept (encoded s)
  modify fun printed => printed ++ piece

/-- Prints items between brackets; `inside` is given what the items come after. -/
def printEnclosed (layout : Layout) (depth : Nat) (opening closing : String) (isEmpty : Bool)
    (inside : String → Printing Unit) : Printing Unit :=
  if isEmpty then put (opening ++ closing)
  else do
    inside (opening ++ lineEnd layout (depth + 1))
    put (lineEnd layout depth ++ closing)

mutual

/-- Prints a value at a depth, after the text before it. A text or a whole number goes with that
text in one piece, so where it cannot be printed neither is. -/
def print (layout : Layout) (depth : Nat) (before : String) : Value → Printing Unit
  | .int i => do put (before ++ (← liftExcept (wholeText i)))
  | .text s => put (before ++ quoted s)
  | .list items => do
    put before
    printEnclosed layout depth "[" "]" items.isEmpty fun opening =>
      printItems layout (depth + 1) opening items
  | .tuple items => do
    put before
    printEnclosed layout depth "[" "]" items.isEmpty fun opening =>
      printItems layout (depth + 1) opening items
  | .map entries => do
    put before
    printEnclosed layout depth "\x7b" "\x7d" entries.isEmpty fun opening => do
      put opening
      printEntries layout (depth + 1) "" entries
  | v => do
    put before
    put (← liftExcept (write layout depth v))

/-- Prints items at a depth, the first after the text before it. -/
def printItems (layout : Layout) (depth : Nat) (before : String) : List Value → Printing Unit
  | [] => pure ()
  | v :: rest => do
    print layout depth before v
    printItems layout depth (separator layout depth) rest

/-- Prints entries at a depth, the first after the text before it. -/
def printEntries (layout : Layout) (depth : Nat) (before : String) :
    List (Value × Value) → Printing Unit
  | [] => pure ()
  | (k, v) :: rest => do
    let key ← liftExcept (keyText layout k)
    put before
    put (quoted key ++ ": ")
    print layout depth "" v
    printEntries layout depth (separator layout depth) rest

end

end MaskedReport.Json
