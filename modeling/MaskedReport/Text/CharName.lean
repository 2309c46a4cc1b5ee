import MaskedReport.Text.NameTable

/-!
# Character names

The characters of Unicode 14 by their names: those in the table of names, without regard to case,
and the ideographs and syllables whose names are formed by rule.
-/

set_option autoImplicit false

namespace MaskedReport.CharName

/-- The initial letters in the names of Hangul syllables. -/
def hangulInitials : List String :=
  ["G", "GG", "N", "D", "DD", "R", "M", "B", "BB", "S", "SS", "", "J", "JJ", "C", "K", "T", "P",
    "H"]

/-- The vowels in the names of Hangul syllables. -/
def hangulVowels : List String :=
  ["A", "AE", "YA", "YAE", "EO", "E", "YEO", "YE", "O", "WA", "WAE", "OE", "YO", "U", "WEO", "WE",
    "WI", "YU", "EU", "YI", "I"]

/-- The final letters in the names of Hangul syllables. -/
def hangulFinals : List String :=
  ["", "G", "GG", "GS", "N", "NJ", "NH", "D", "L", "LG", "LM", "LB", "LS", "LT", "LP", "LH", "M",
    "B", "BS", "S", "SS", "NG", "J", "C", "K", "T", "P", "H"]

/-- The code point of a Hangul syllable by the letters of its name. -/
def hangul? (letters : String) : Option Nat :=
  (List.range 19).findSome? fun i =>
    (List.range 21).findSome? fun v =>
      let open_ := (hangulInitials[i]?.getD "") ++ (hangulVowels[v]?.getD "")
      if letters.startsWith open_ then
        (List.range 28).findSome? fun f =>
          if letters = open_ ++ (hangulFinals[f]?.getD "") then
            some (0xAC00 + (i * 21 + v) * 28 + f)
          else none
      else none

/-- The code points of the unified ideographs. -/
def ideographRanges : List (Nat × Nat) :=
  [(0x3400, 0x4DBF), (0x4E00, 0x9FFF), (0x20000, 0x2A6DF), (0x2A700, 0x2B738), (0x2B740, 0x2B81D),
    (0x2B820, 0x2CEA1), (0x2CEB0, 0x2EBE0), (0x30000, 0x3134A)]

/-- The number that hexadecimal digits, four or five of them, stand for. -/
def hexCode? (digits : List Char) : Option Nat :=
  if digits.length = 4 ∨ digits.length = 5 then
    digits.foldl (fun n c => n.bind fun k =>
      if c.isDigit then some (k * 16 + (c.toNat - 48))
      else if 'A' ≤ c ∧ c ≤ 'F' then some (k * 16 + (c.toNat - 55))
      else none) (some 0)
  else none

/-- What follows the opening of a name. -/
def after? (opening name : String) : Option String :=
  if name.startsWith opening then some (String.ofList (name.toList.drop opening.length)) else none

/-- All runs of the table. -/
def runs : List (Nat × String × List String) :=
  alphabets ++ symbols ++ syllabaries ++ ancientScripts ++ pictographs ++ furtherNames

/-- The code point of a character in the table. -/
def tabled? (name : String) : Option Nat :=
  runs.findSome? fun (first, opening, endings) => do
    let ending ← after? opening name
    return first + (← ((String.join endings).splitOn ";").idxOf? ending)

/-- The code point of a named character. -/
def lookup? (name : String) : Option Nat :=
  match after? "HANGUL SYLLABLE " name with
  | some letters => hangul? letters
  | none =>
    match after? "CJK UNIFIED IDEOGRAPH-" name with
    | some digits =>
      (hexCode? digits.toList).filter fun c => ideographRanges.any fun r => r.1 ≤ c && c ≤ r.2
    | none => tabled? (String.ofList (name.toList.map Char.toUpper))

end MaskedReport.CharName
