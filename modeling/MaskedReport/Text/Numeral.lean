import MaskedReport.Text.Ascii
import MaskedReport.Text.CharClass
import MaskedReport.Number.Decimal

/-!
# Numerals

Whole numbers and doubles read from text. White space around a numeral is skipped, the decimal
digits of every script count as digits, and single underscores may stand between digits.
-/

set_option autoImplicit false

namespace MaskedReport.Numeral

/-- White space around a numeral. In ASCII the separators of files, groups, records and units are
none. -/
def isBlank (c : Char) : Bool :=
  if c.toNat < 128 then Ascii.isBlank c else CharClass.isBlank c.toNat

/-- The text without white space at either end. -/
def strip (s : List Char) : List Char :=
  ((s.dropWhile isBlank).reverse.dropWhile isBlank).reverse

/-- The value of a digit in bases up to sixteen; letters count from ten. -/
def digitValue? (c : Char) : Option Nat :=
  let n := c.toNat
  if 97 ≤ n ∧ n ≤ 122 then some (n - 87)
  else if 65 ≤ n ∧ n ≤ 90 then some (n - 55)
  else CharClass.decimalValue? n

/-- The value of a digit below the base. -/
def digitBelow? (base : Nat) (c : Char) : Option Nat := (digitValue? c).filter (· < base)

/-- The digits of a numeral: at least one, all below the base, with single underscores between
them. -/
def digits? (base : Nat) : List Char → Option (List Nat)
  | [] => none
  | [c] => (digitBelow? base c).map fun d => [d]
  | c :: '_' :: more => do
    let d ← digitBelow? base c
    let ds ← digits? base more
    return d :: ds
  | c :: e :: more => do
    let d ← digitBelow? base c
    let ds ← digits? base (e :: more)
    return d :: ds

/-- The number with the given digits. -/
def value (base : Nat) (ds : List Nat) : Nat := ds.foldl (fun n d => n * base + d) 0

/-- The sign of a numeral and what follows it. -/
def signed : List Char → Bool × List Char
  | '-' :: rest => (true, rest)
  | '+' :: rest => (false, rest)
  | s => (false, s)

/-- The marker `0b`, `0o` or `0x` that a numeral in that base may begin with, dropped together with
one underscore after it. -/
def withoutMarker (base : Nat) (s : List Char) : List Char :=
  let unscored : List Char → List Char
    | '_' :: rest => rest
    | rest => rest
  match s with
  | '0' :: m :: rest =>
    if (base = 2 ∧ (m = 'b' ∨ m = 'B')) ∨ (base = 8 ∧ (m = 'o' ∨ m = 'O')) ∨
        (base = 16 ∧ (m = 'x' ∨ m = 'X')) then unscored rest
    else s
  | _ => s

/-- The outcome of reading a whole number. -/
inductive Reading where
  | number (i : Int)
  | malformed
  /-- More decimal digits than are converted. -/
  | tooLong (digits : Nat)
  deriving DecidableEq

/-- The most decimal digits that are converted between a whole number and its text. -/
def digitLimit : Nat := 4300

/-- Reads a whole number in the given base. -/
def readInt (base : Nat) (s : List Char) : Reading :=
  let (negative, body) := signed (strip s)
  match digits? base (withoutMarker base body) with
  | none => .malformed
  | some ds =>
    if base = 10 ∧ digitLimit < ds.length then .tooLong ds.length
    else
      let n := value base ds
      .number (if negative then -(n : Int) else (n : Int))

/-- Small letters of ASCII. -/
def lowered (s : List Char) : List Char := s.map Char.toLower

/-- Splits leading digits, with single underscores between them, from the rest. -/
def spanDigits : List Char → List Nat × List Char
  | [] => ([], [])
  | c :: '_' :: e :: more =>
    match CharClass.decimalValue? c.toNat with
    | none => ([], c :: '_' :: e :: more)
    | some d =>
      if CharClass.isDecimal e.toNat then
        let (ds, tail) := spanDigits (e :: more)
        (d :: ds, tail)
      else ([d], '_' :: e :: more)
  | c :: rest =>
    match CharClass.decimalValue? c.toNat with
    | none => ([], c :: rest)
    | some d =>
      let (ds, tail) := spanDigits rest
      (d :: ds, tail)

/-- Reads an exponent mark with its digits, if the text is one or is empty. -/
def exponent? : List Char → Option Int
  | [] => some 0
  | c :: rest =>
    if c = 'e' ∨ c = 'E' then
      let (negative, body) := signed rest
      match spanDigits body with
      | ([], _) => none
      | (ds, []) => some (if negative then -(value 10 ds : Int) else (value 10 ds : Int))
      | (_, _ :: _) => none
    else none

/-- Reads a double: digits with an optional point and exponent, or the name of infinity or of
NaN. -/
def readReal? (s : List Char) : Option Binary64 :=
  let (negative, body) := signed (strip s)
  let word := lowered body
  if word = "inf".toList ∨ word = "infinity".toList then some (.infinite negative)
  else if word = "nan".toList then some .nan
  else
    let (whole, rest) := spanDigits body
    let (fraction, tail) := match rest with
      | '.' :: more => spanDigits more
      | _ => ([], rest)
    if whole.isEmpty && fraction.isEmpty then none
    else
      (exponent? tail).map fun e =>
        .ofDecimal negative (value 10 (whole ++ fraction)) (e - fraction.length)

end MaskedReport.Numeral
