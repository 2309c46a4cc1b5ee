import MaskedReport.Text.Letter
import MaskedReport.Text.Printable

/-!
# Quoted texts

The quoted form in which messages show a text or a string of bytes: between single quotes, or
between double quotes if it holds a single quote and no double one; a letter that is not printable
is shown by its code.
-/

set_option autoImplicit false

namespace MaskedReport.Quoted

/-- The small hexadecimal digits of a number, at least `width` of them. -/
def hex (width n : Nat) : List Char :=
  let ds := Nat.toDigits 16 n
  List.replicate (width - ds.length) '0' ++ ds

/-- The quotation mark for a text. -/
def mark (s : List Letter) : Char :=
  if s.contains (.char '\'') && !s.contains (.char '"') then '"' else '\''

/-- The form of one letter between the quotation marks `q`. -/
def escape (q : Char) : Letter → List Char
  | .lone s => '\\' :: 'u' :: hex 4 s.code
  | .char c =>
    if c = q ∨ c = '\\' then ['\\', c]
    else if c = '\n' then ['\\', 'n']
    else if c = '\r' then ['\\', 'r']
    else if c = '\t' then ['\\', 't']
    else if CharClass.isPrintable c.toNat then [c]
    else if c.toNat < 0x100 then '\\' :: 'x' :: hex 2 c.toNat
    else if c.toNat < 0x10000 then '\\' :: 'u' :: hex 4 c.toNat
    else '\\' :: 'U' :: hex 8 c.toNat

/-- The quoted form of letters. -/
def ofList (s : List Letter) : List Char :=
  let q := mark s
  q :: (s.flatMap (escape q) ++ [q])

/-- The quoted form of a text. -/
def text (s : Text) : String := String.ofList (ofList s.toList)

/-- A text as it is printed where what cannot be encoded is shown by its code. -/
def bare (s : Text) : String :=
  String.ofList (s.toList.flatMap fun
    | .char c => [c]
    | .lone h => '\\' :: 'u' :: hex 4 h.code)

/-- The form of one byte between the quotation marks `q`. -/
def escapeByte (q : Char) (b : UInt8) : List Char :=
  let c := Char.ofNat b.toNat
  if c = q ∨ c = '\\' then ['\\', c]
  else if c = '\n' then ['\\', 'n']
  else if c = '\r' then ['\\', 'r']
  else if c = '\t' then ['\\', 't']
  else if 32 ≤ b ∧ b < 127 then [c]
  else '\\' :: 'x' :: hex 2 b.toNat

/-- The quoted form of a string of bytes. -/
def bytes (bs : List UInt8) : String :=
  let q := mark (bs.map fun b => .char (Char.ofNat b.toNat))
  String.ofList ('b' :: q :: (bs.flatMap (escapeByte q) ++ [q]))

end MaskedReport.Quoted
