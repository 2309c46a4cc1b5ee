import MaskedReport.Document.Kind
import MaskedReport.Document.Refusal
import MaskedReport.Value.Basic

/-!
# Values of scalars

The value of a scalar by its tag: whole numbers in four bases and in base sixty, doubles, truth
values, bytes in base 64, dates and times.
-/

set_option autoImplicit false

namespace MaskedReport.Document.Scalar

/-- What makes a value of a scalar fail or succeed. -/
abbrev Made := Except Refusal

/-- Refuses a scalar. -/
def refuse {α : Type} (f : ScalarFault) : Made α := .error (.scalar f)

/-- The small letters of a text. -/
def lowered (s : List Letter) : List Letter :=
  s.map fun
    | .char c => .char (Char.ofNat (Case.lower c.toNat))
    | .lone h => .lone h

/-! ## Numbers -/

/-- A whole number from its digits in a base. -/
def whole (base : Nat) (numeral : List Letter) : Made Int :=
  match Numeral.readInt base (numeral.map Letter.asChar) with
  | .number i => .ok i
  | .malformed => refuse (.malformedInteger base (.ofList numeral))
  | .tooLong n => refuse (.numeralTooLong n)

/-- A double from its text. -/
def double (numeral : List Letter) : Made Binary64 :=
  match Numeral.readReal? (numeral.map Letter.asChar) with
  | some x => .ok x
  | none => refuse (.malformedReal (.ofList numeral))

/-- The parts of a text between colons. -/
def parts : List Letter → List Letter → List (List Letter)
  | [], part => [part.reverse]
  | c :: rest, part =>
    if c = .char ':' then part.reverse :: parts rest [] else parts rest (c :: part)

/-- The sign of a numeral without underscores, and the rest, of which there must be some. -/
def signed (s : List Letter) : Made (Bool × List Letter) :=
  match s with
  | [] => refuse .noNumber
  | c :: rest => .ok (c = .char '-', if c = .char '-' ∨ c = .char '+' then rest else s)

/-- A whole number. The head of the numeral tells the base; colons separate places of base sixty. -/
def int (text : List Letter) : Made Int := do
  let (negative, s) ← signed (text.filter (· != .char '_'))
  let n ← match s with
    | [] => refuse .noNumber
    | [.char '0'] => pure 0
    | .char '0' :: .char 'b' :: ds => whole 2 ds
    | .char '0' :: .char 'x' :: ds => whole 16 ds
    | .char '0' :: ds => whole 8 (.char '0' :: ds)
    | _ =>
      if s.contains (.char ':') then do
        let places ← (parts s []).mapM (whole 10)
        pure (places.foldl (fun n d => n * 60 + d) 0)
      else whole 10 s
  return if negative then -n else n

/-- The sum of places of base sixty, the last one first; `base` is what the next place counts, which
must be within the range of doubles. -/
def sexagesimal : List Binary64 → (base : Nat) → Binary64 → Made Binary64
  | [], _, sum => .ok sum
  | d :: rest, base, sum =>
    match Binary64.ofInt base with
    | .infinite _ => refuse .placeTooLarge
    | counted => sexagesimal rest (base * 60) (sum.add (d.mul counted))

/-- A double: infinity, NaN, places of base sixty, or a decimal numeral. -/
def real (text : List Letter) : Made Binary64 := do
  let (negative, s) ← signed (lowered (text.filter (· != .char '_')))
  if s = (".inf" : Text).toList then return .infinite negative
  else if s = (".nan" : Text).toList then return .nan
  else
    let x ← if s.contains (.char ':') then do
        let places ← (parts s []).mapM double
        sexagesimal places.reverse 1 .zero
      else double s
    return if negative then x.neg else x

/-! ## Bytes -/

/-- The value of a character in base 64. -/
def sextet? (c : Char) : Option Nat :=
  if 'A' ≤ c ∧ c ≤ 'Z' then some (c.toNat - 65)
  else if 'a' ≤ c ∧ c ≤ 'z' then some (c.toNat - 71)
  else if '0' ≤ c ∧ c ≤ '9' then some (c.toNat + 4)
  else if c = '+' then some 62
  else if c = '/' then some 63
  else none

/-- Decodes base 64: `taken` sextets of the present group of four are read, of which `left` holds
the bits that are not yet in a byte, and `padding` marks follow them. Other characters do not
count. -/
def decodeGroups : List Char → (taken left padding : Nat) → List UInt8 → Made (List UInt8)
  | [], taken, _, _, found =>
    if taken = 0 then .ok found
    else if taken = 1 then
      .error (.fault (.danglingCharacter (found.length / 3 * 4 + 1)))
    else .error (.fault .padding)
  | c :: rest, taken, left, padding, found =>
    if c = '=' then
      if 2 ≤ taken then
        if 4 ≤ taken + padding + 1 then .ok found
        else decodeGroups rest taken left (padding + 1) found
      else decodeGroups rest taken left padding found
    else match sextet? c with
      | none => decodeGroups rest taken left padding found
      | some v =>
        match taken with
        | 0 => decodeGroups rest 1 v 0 found
        | 1 => decodeGroups rest 2 (v % 16) 0 (found ++ [UInt8.ofNat (left * 4 + v / 16)])
        | 2 => decodeGroups rest 3 (v % 4) 0 (found ++ [UInt8.ofNat (left * 16 + v / 4)])
        | _ => decodeGroups rest 0 0 0 (found ++ [UInt8.ofNat (left * 64 + v)])

/-- Bytes in base 64. -/
def bytes (text : List Letter) : Made (List UInt8) :=
  let ascii (c : Letter) : Bool := c.code < 128
  match text.dropWhile ascii with
  | [] => decodeGroups (text.map Letter.asChar) 0 0 0 []
  | c :: rest =>
    let first := (text.takeWhile ascii).length
    .error (.fault (.notAscii c first (first + (rest.takeWhile (!ascii ·)).length)))

/-! ## Dates and times -/

/-- The form of dates and times. Its groups are year, month, day, hour, minute, second, fraction,
zone, and the zone's sign, hours and minutes. -/
def instantForm : Pattern.Node :=
  form ("^([0-9][0-9][0-9][0-9])-([0-9][0-9]?)-([0-9][0-9]?)" ++
    "(?:(?:[Tt]|[ \\t]+)([0-9][0-9]?):([0-9][0-9]):([0-9][0-9])(?:\\.([0-9]*))?" ++
    "(?:[ \\t]*(Z|([-+])([0-9][0-9]?)(?::([0-9][0-9]))?))?)?$")

/-- The number of microseconds that the digits of a fraction give. -/
def micros (digits : List Char) : Nat :=
  let six := digits.take 6
  Numeral.value 10 ((six ++ List.replicate (6 - six.length) '0').filterMap Numeral.digitValue?)

/-- Carries a fault of the calendar. -/
def ofCalendar {α : Type} : Except CalendarFault α → Made α
  | .ok a => .ok a
  | .error f => .error (.calendar f)

/-- A date, or a date with a time. -/
def instant (text : List Letter) : Made Value := do
  match instantForm.find { unicode := true } some (.start text) with
  | none => refuse .notInstant
  | some p =>
    let digits (group : Nat) : List Char := ((p.captured? group).getD []).map Letter.asChar
    let number (group : Nat) : Nat :=
      Numeral.value 10 ((digits group).filterMap Numeral.digitValue?)
    if (digits 4).isEmpty then
      return .date (← ofCalendar (Calendar.date (number 1) (number 2) (number 3)))
    else
      let zone ← match p.captured? 9 with
        | some sign =>
          let seconds : Int := (number 10 * 60 + number 11) * 60
          let signed := if sign = [.char '-'] then -seconds else seconds
          pure (some (← ofCalendar (Calendar.offset signed)))
        | none => pure (if (p.captured? 8).isSome then some 0 else none)
      return .instant (← ofCalendar (Calendar.dateTime (number 1) (number 2) (number 3) (number 4)
        (number 5) (number 6) (micros (digits 7)) zone))

/-! ## All kinds -/

/-- The truth values by their words. -/
def truthWords : List (String × Bool) :=
  [("yes", true), ("no", false), ("true", true), ("false", false), ("on", true), ("off", false)]

/-- The value of a scalar's text if its tag names a kind of scalar. -/
def value? (tag : String) : Option (List Letter → Made Value) :=
  if tag = nullTag then some fun _ => .ok .null
  else if tag = boolTag then
    some fun s =>
      match truthWords.find? fun w => (w.1 : Text).toList == lowered s with
      | some (_, b) => .ok (.bool b)
      | none => refuse (.notBoolean (.ofList (lowered s)))
  else if tag = intTag then some fun s => do return .int (← int s)
  else if tag = realTag then some fun s => do return .real (← real s)
  else if tag = bytesTag then some fun s => do return .bytes (← bytes s)
  else if tag = instantTag then some instant
  else if tag = textTag then some fun s => .ok (.text (.ofList s))
  else none

end MaskedReport.Document.Scalar
