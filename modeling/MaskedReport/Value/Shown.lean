import MaskedReport.Value.Basic

/-!
# Values in messages

The shown form of a value, as messages and reports quote it, and its text form, which differs only
for texts, doubles, dates and times. Neither exists for a value with a whole number of more than
4300 digits.
-/

set_option autoImplicit false

namespace MaskedReport

/-- The decimal text of a whole number. -/
def wholeText (i : Int) : Except Failure String :=
  if pow10 4300 ≤ i.natAbs then .error .numeralUnwritable else .ok (toString i)

namespace Value

mutual

/-- The shown form of a value. -/
def shown : Value → Except Failure String
  | null => .ok "None"
  | bool b => .ok (if b then "True" else "False")
  | int i => wholeText i
  | real x => .ok x.text
  | text s => .ok (Quoted.text s)
  | bytes bs => .ok (Quoted.bytes bs)
  | date d => .ok d.shown
  | instant t => .ok t.shown
  | list items => do return "[" ++ ", ".intercalate (← shownItems items) ++ "]"
  | tuple items => do
    match ← shownItems items with
    | [one] => return "(" ++ one ++ ",)"
    | all => return "(" ++ ", ".intercalate all ++ ")"
  | set [] => .ok "set()"
  | set items => do return "\x7b" ++ ", ".intercalate (← shownItems items) ++ "\x7d"
  | map entries => do return "\x7b" ++ ", ".intercalate (← shownEntries entries) ++ "\x7d"
  | pattern p => .ok p.shown
  | bytePattern source => .ok (Pattern.shownWith (Quoted.bytes source) [])
  | loop ofMap => .ok (if ofMap then "\x7b...\x7d" else "[...]")

/-- The shown forms of values. -/
def shownItems : List Value → Except Failure (List String)
  | [] => .ok []
  | v :: rest => do return (← shown v) :: (← shownItems rest)

/-- The shown forms of entries. -/
def shownEntries : List (Value × Value) → Except Failure (List String)
  | [] => .ok []
  | (k, v) :: rest => do
    return ((← shown k) ++ ": " ++ (← shown v)) :: (← shownEntries rest)

end

/-- The text form of a value. -/
def toText : Value → Except Failure Text
  | text s => .ok s
  | date d => .ok d.text
  | instant t => .ok (t.textWith " ")
  | v => do return (← v.shown)

end Value

end MaskedReport
