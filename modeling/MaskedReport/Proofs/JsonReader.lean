import MaskedReport.Proofs.Numerals
import MaskedReport.Proofs.PercentCoding

/-!
# Reading JSON

A reader of JSON texts, written to the grammar and without regard to how values are written here. It
gives every member of an object, in order. White space may stand around each value, number forms and
escapes are those of the grammar, and the halves of a character outside the first plane are joined.
The lemmas say what it reads of a single token, whatever comes after it.
-/

set_option autoImplicit false

namespace MaskedReport

/-! ## UTF-8 -/

namespace Utf8

/-- Bytes of characters are decoded to these after what is done. -/
theorem decodeFrom_encode (s : List Char) {fuel : Nat} (h : s.length < fuel) (position : Nat)
    (done : List Char) : decodeFrom fuel position (encode s) done = .ok (done.reverse ++ s) := by
  induction s generalizing fuel position done with
  | nil =>
    obtain ⟨fuel, rfl⟩ := Nat.exists_eq_add_one_of_ne_zero (Nat.ne_zero_of_lt h)
    exact congrArg Except.ok (List.append_nil _).symm
  | cons c s ih =>
    obtain ⟨fuel, rfl⟩ := Nat.exists_eq_add_one_of_ne_zero (Nat.ne_zero_of_lt h)
    rw [encode_cons, decodeFrom, step_encodeChar]
    have hlength : s.length < fuel := Nat.lt_of_succ_lt_succ h
    have hrest := fun position => ih hlength position (c :: done)
    simpa using hrest _

/-- The bytes of a text are well formed, and are read back as the text. -/
theorem decode_encode (s : List Char) : decode (encode s) = .ok s :=
  decodeFrom_encode s (Nat.lt_succ_of_le (length_le_length_encode s)) 0 []

end Utf8

namespace Json

/-! ## The reader -/

/-- The text without the white space it begins with. -/
def skipSpaces (s : List Char) : List Char := s.dropWhile isSpace

/-- The code unit of four hexadecimal digits. -/
def codeUnit? (a b c d : Char) : Option Nat := do
  let a ← Http.hexValue? a
  let b ← Http.hexValue? b
  let c ← Http.hexValue? c
  let d ← Http.hexValue? d
  return ((a * 16 + b) * 16 + c) * 16 + d

/-- The character that a letter stands for after a backslash. -/
def unescaped? (c : Char) : Option Char :=
  if c = '"' ∨ c = '\\' ∨ c = '/' then some c
  else if c = 'b' then some '\x08'
  else if c = 'f' then some '\x0c'
  else if c = 'n' then some '\n'
  else if c = 'r' then some '\r'
  else if c = 't' then some '\t'
  else none

/-- The code units of the letters up to the closing quotation mark, and what follows it. A character
that is not escaped counts as one unit. -/
def readUnits : List Char → Option (List Nat × List Char)
  | [] => none
  | c :: rest =>
    if c = '"' then some ([], rest)
    else if c = '\\' then
      match rest with
      | [] => none
      | 'u' :: a :: b :: c :: d :: more => do
        let unit ← codeUnit? a b c d
        let (units, after) ← readUnits more
        return (unit :: units, after)
      | e :: more => do
        let letter ← unescaped? e
        let (units, after) ← readUnits more
        return (letter.toNat :: units, after)
    else if c.toNat < 32 then none
    else do
      let (units, after) ← readUnits rest
      return (c.toNat :: units, after)

/-- The characters of code units: two halves in a row are one character, and a half alone is none.
-/
def charsOf : List Nat → Option (List Char)
  | [] => some []
  | unit :: rest =>
    if unit.isValidChar then (charsOf rest).map (Char.ofNat unit :: ·)
    else
      match rest with
      | [] => none
      | low :: more =>
        if 0xD800 ≤ unit ∧ unit < 0xDC00 ∧ 0xDC00 ≤ low ∧ low < 0xE000 then
          (charsOf more).map
            (Char.ofNat (0x10000 + (unit - 0xD800) * 1024 + (low - 0xDC00)) :: ·)
        else none

/-- The text of a literal after its opening quotation mark. -/
def readText (s : List Char) : Option (String × List Char) := do
  let (units, rest) ← readUnits s
  let chars ← charsOf units
  return (String.ofList chars, rest)

/-- The digits that a text begins with, and what follows them. -/
def spanDigits (s : List Char) : List Char × List Char :=
  (s.takeWhile Char.isDigit, s.dropWhile Char.isDigit)

/-- The digits of a fraction, none if there is no fraction. -/
def readFraction (s : List Char) : List Char × List Char :=
  match s with
  | '.' :: more =>
    let (ds, rest) := spanDigits more
    if ds.isEmpty then ([], s) else (ds, rest)
  | _ => ([], s)

/-- The exponent, if there is one. -/
def readExponent (s : List Char) : Option Int × List Char :=
  match s with
  | [] => (none, s)
  | mark :: more =>
    if mark = 'e' ∨ mark = 'E' then
      let (negative, body) := Numeral.signed more
      let (ds, rest) := spanDigits body
      if ds.isEmpty then (none, s)
      else
        let n : Int := Nat.ofDigitChars 10 ds 0
        (some (if negative then -n else n), rest)
    else (none, s)

/-- A number without its sign: a whole number if it has neither fraction nor exponent. -/
def readMagnitude (negative : Bool) (s : List Char) : Option (Value × List Char) :=
  let (whole, rest) := spanDigits s
  if whole.isEmpty || (whole.head? == some '0' && 1 < whole.length) then none
  else
    let (fraction, rest) := readFraction rest
    let (exponent?, rest) := readExponent rest
    if fraction.isEmpty && exponent?.isNone then
      let n : Int := Nat.ofDigitChars 10 whole 0
      some (.int (if negative then -n else n), rest)
    else
      let digits := Nat.ofDigitChars 10 (whole ++ fraction) 0
      some (.real (.ofDecimal negative digits (exponent?.getD 0 - fraction.length)), rest)

/-- A number. -/
def readNumber (s : List Char) : Option (Value × List Char) :=
  match s with
  | '-' :: rest => readMagnitude true rest
  | _ => readMagnitude false s

/-- A name or a number. -/
def readAtom (s : List Char) : Option (Value × List Char) :=
  if ['n', 'u', 'l', 'l'].isPrefixOf s then some (.null, s.drop 4)
  else if ['t', 'r', 'u', 'e'].isPrefixOf s then some (.bool true, s.drop 4)
  else if ['f', 'a', 'l', 's', 'e'].isPrefixOf s then some (.bool false, s.drop 5)
  else readNumber s

/-- What follows a part between brackets: whether another part does, after a comma, or the closing
bracket comes. -/
def readEnd (closing : Char) (s : List Char) : Option (Bool × List Char) :=
  match skipSpaces s with
  | [] => none
  | c :: rest =>
    if c = ',' then some (true, rest)
    else if c = closing then some (false, rest)
    else none

/-- Parts with commas between them, up to the closing bracket. -/
def readSome {α : Type} (part : List Char → Option (α × List Char)) (closing : Char) :
    Nat → List Char → Option (List α × List Char)
  | 0, _ => none
  | fuel + 1, s => do
    let (a, rest) ← part s
    let (another, rest) ← readEnd closing rest
    if another then
      let (more, rest) ← readSome part closing fuel rest
      return (a :: more, rest)
    else return ([a], rest)

/-- The parts after an opening bracket, none if the closing bracket comes at once. Each takes a
character, so the length of the text bounds their number. -/
def readParts {α : Type} (part : List Char → Option (α × List Char)) (closing : Char)
    (s : List Char) : Option (List α × List Char) :=
  match skipSpaces s with
  | [] => none
  | c :: rest => if c = closing then some ([], rest) else readSome part closing s.length s

/-- A name with the colon after it. -/
def readName (s : List Char) : Option (String × List Char) :=
  match skipSpaces s with
  | '"' :: rest => do
    let (name, rest) ← readText rest
    match skipSpaces rest with
    | ':' :: rest => return (name, rest)
    | _ => none
  | _ => none

/-- A member of an object, given how values are read. -/
def readMember (value : List Char → Option (Value × List Char)) (s : List Char) :
    Option ((Value × Value) × List Char) := do
  let (name, rest) ← readName s
  let (v, rest) ← value rest
  return ((.text name, v), rest)

/-- A value that is nested less deep than a number tells, and what follows it. -/
def readValue : Nat → List Char → Option (Value × List Char)
  | 0, _ => none
  | depth + 1, s =>
    match skipSpaces s with
    | [] => none
    | c :: rest =>
      if c = '"' then (readText rest).map fun r => (.text r.1, r.2)
      else if c = '[' then
        (readParts (readValue depth) ']' rest).map fun r => (.list r.1, r.2)
      else if c = '\x7b' then
        (readParts (readMember (readValue depth)) '\x7d' rest).map fun r => (.map r.1, r.2)
      else readAtom (c :: rest)

/-- The value of a JSON text. A level of nesting takes a character, so its length bounds them. -/
def read (s : List Char) : Option Value := do
  let (v, rest) ← readValue (s.length + 1) s
  if (skipSpaces rest).isEmpty then some v else none

/-- The value of the bytes of a JSON text. -/
def readBytes (bs : List UInt8) : Option Value :=
  match Utf8.decode bs with
  | .ok s => read s
  | .error _ => none

example : read " [1, \"\\u00E9\\ud83d\\ude00\\/\", \x7b\"k\" : [ ]\x7d] ".toList =
    some (.list [.int 1, .text "é😀/", .map [(.text "k", .list [])]]) := by cbv

/-! ## White space -/

/-- Spaces in front are skipped with those after them. -/
theorem skipSpaces_append {before : List Char} (h : IsSpaces before) (s : List Char) :
    skipSpaces (before ++ s) = skipSpaces s :=
  List.dropWhile_append_of_pos h

/-- Nothing is skipped before a character that is no space. -/
theorem skipSpaces_cons {c : Char} (h : isSpace c = false) (s : List Char) :
    skipSpaces (c :: s) = c :: s :=
  List.dropWhile_cons_of_neg (by simp [h])

/-- Spaces are skipped up to a character that is none. -/
theorem skipSpaces_before {before : List Char} (h : IsSpaces before) {c : Char}
    (hc : isSpace c = false) (s : List Char) : skipSpaces (before ++ c :: s) = c :: s := by
  rw [skipSpaces_append h, skipSpaces_cons hc]

/-! ## String literals -/

/-- A character without a mark of its own is read as itself. -/
theorem readUnits_plain {c : Char} (hquote : c ≠ '"') (hslash : c ≠ '\\') (hcontrol : 32 ≤ c.toNat)
    (s : List Char) :
    readUnits (c :: s) = (readUnits s).map fun r => (c.toNat :: r.1, r.2) := by
  rw [readUnits.eq_def]
  dsimp only
  rw [if_neg hquote, if_neg hslash, if_neg (Nat.not_lt.mpr hcontrol)]
  cases readUnits s with
  | none => rfl
  | some r => rfl

/-- A backslash with a letter is read as the character meant. -/
theorem readUnits_escaped {e c : Char} (he : unescaped? e = some c) (s : List Char) :
    readUnits ('\\' :: e :: s) = (readUnits s).map fun r => (c.toNat :: r.1, r.2) := by
  have hcode : e ≠ 'u' := by
    rintro rfl
    cases he
  rw [readUnits.eq_def]
  simp only [Char.reduceEq, if_true, if_false]
  split
  · contradiction
  · rename_i heq
    exact absurd (List.cons.inj heq).1 hcode
  · rename_i heq
    obtain ⟨rfl, rfl⟩ := List.cons.inj heq
    rw [he]
    cases readUnits s with
    | none => rfl
    | some r => rfl

/-- A code is read as its unit. -/
theorem readUnits_code {a b c d : Char} {n : Nat} (h : codeUnit? a b c d = some n)
    (s : List Char) :
    readUnits ('\\' :: 'u' :: a :: b :: c :: d :: s) =
      (readUnits s).map fun r => (n :: r.1, r.2) := by
  rw [readUnits]
  simp only [Char.reduceEq, if_true, if_false, h]
  cases readUnits s with
  | none => rfl
  | some r => rfl

/-- The code unit of a text, if it is four hexadecimal digits. -/
def codeUnitOf? : List Char → Option Nat
  | [a, b, c, d] => codeUnit? a b c d
  | _ => none

/-- A control is written by a code that is read back as it. -/
theorem exists_code {n : Nat} (h : n < 32) :
    ∃ a b c d, Quoted.hex 4 n = [a, b, c, d] ∧ codeUnit? a b c d = some n := by
  have hall : ∀ n < 32, codeUnitOf? (Quoted.hex 4 n) = some n := by decide
  have hn := hall n h
  generalize Quoted.hex 4 n = digits at hn
  unfold codeUnitOf? at hn
  split at hn
  case h_1 a b c d => exact ⟨a, b, c, d, rfl, hn⟩
  case h_2 => cases hn

/-- A character as it is written in a literal is read as its code. -/
theorem readUnits_escape (c : Char) (s : List Char) :
    readUnits (escape c ++ s) = (readUnits s).map fun r => (c.toNat :: r.1, r.2) := by
  unfold escape
  split_ifs with hquote hslash hn hr ht hb hf hcontrol
  · exact readUnits_escaped (by rw [hquote]; rfl) s
  · exact readUnits_escaped (by rw [hslash]; rfl) s
  · exact readUnits_escaped (by rw [hn]; rfl) s
  · exact readUnits_escaped (by rw [hr]; rfl) s
  · exact readUnits_escaped (by rw [ht]; rfl) s
  · exact readUnits_escaped (by rw [hb]; rfl) s
  · exact readUnits_escaped (by rw [hf]; rfl) s
  · obtain ⟨a, b, c', d, hdigits, hcode⟩ := exists_code hcontrol
    rw [hdigits]
    exact readUnits_code hcode s
  · exact readUnits_plain hquote hslash (Nat.not_lt.mp hcontrol) s

/-- Written characters are read as their numbers, up to the closing mark. -/
theorem readUnits_flatMap_escape (s rest : List Char) :
    readUnits (s.flatMap escape ++ '"' :: rest) = some (s.map Char.toNat, rest) := by
  induction s with
  | nil =>
    show readUnits ('"' :: rest) = _
    unfold readUnits
    rfl
  | cons c s ih =>
    rw [List.flatMap_cons, List.append_assoc, readUnits_escape, ih]
    rfl

/-- The codes of characters are those of no halves. -/
theorem charsOf_map_toNat (s : List Char) : charsOf (s.map Char.toNat) = some s := by
  induction s with
  | nil => rfl
  | cons c s ih =>
    have hvalid : c.toNat.isValidChar := c.valid
    rw [List.map_cons, charsOf.eq_def]
    dsimp only
    rw [if_pos hvalid, ih, Char.ofNat_toNat]
    rfl

/-- A literal is read as the text that it quotes. -/
theorem readText_quoted (s : String) (rest : List Char) :
    readText (s.toList.flatMap escape ++ '"' :: rest) = some (s, rest) := by
  rw [readText, readUnits_flatMap_escape]
  simp [charsOf_map_toNat]

/-! ## Numbers -/

/-- What may come after a number: no digit, point or exponent mark. -/
def Stops (rest : List Char) : Prop :=
  ∀ c ∈ rest.head?, c.isDigit = false ∧ c ≠ '.' ∧ c ≠ 'e' ∧ c ≠ 'E'

/-- A character that continues no number stops it. -/
theorem stops_cons {c : Char} (h : c.isDigit = false ∧ c ≠ '.' ∧ c ≠ 'e' ∧ c ≠ 'E')
    (s : List Char) : Stops (c :: s) := by
  intro d hd
  cases hd
  exact h

/-- Digits are read up to what stops a number. -/
theorem spanDigits_append {ds rest : List Char} (hds : ∀ c ∈ ds, c.isDigit = true)
    (hrest : Stops rest) : spanDigits (ds ++ rest) = (ds, rest) := by
  have hhead : rest.takeWhile Char.isDigit = [] ∧ rest.dropWhile Char.isDigit = rest := by
    cases rest with
    | nil => exact ⟨rfl, rfl⟩
    | cons c rest => simp [(hrest c rfl).1]
  rw [spanDigits, List.takeWhile_append_of_pos hds, List.dropWhile_append_of_pos hds, hhead.1,
    hhead.2, List.append_nil]

/-- Nothing is read as a fraction where the number stops. -/
theorem readFraction_of_stops {rest : List Char} (h : Stops rest) :
    readFraction rest = ([], rest) := by
  unfold readFraction
  split
  · exact absurd rfl (h '.' rfl).2.1
  · rfl

/-- Nothing is read as an exponent where the number stops. -/
theorem readExponent_of_stops {rest : List Char} (h : Stops rest) :
    readExponent rest = (none, rest) := by
  unfold readExponent
  split
  · rfl
  · have hmark := (h _ rfl).2.2
    rw [if_neg (not_or.mpr hmark)]

/-- The digits of a whole number have no zero before others. -/
theorem zero_alone (n : Nat) :
    ((Decimal.digitsOf n).head? == some '0' && decide (1 < (Decimal.digitsOf n).length)) =
      false := by
  rcases Nat.eq_zero_or_pos n with rfl | hpos
  · rfl
  · obtain ⟨c, rest, hdigits, hzero⟩ := Decimal.head_digitsOf hpos
    simp [hdigits, hzero]

/-- A magnitude is read from its digits. -/
theorem readMagnitude_digitsOf (negative : Bool) (n : Nat) {rest : List Char} (h : Stops rest) :
    readMagnitude negative (Decimal.digitsOf n ++ rest) =
      some (.int (if negative then -(n : Int) else n), rest) := by
  have hsome : (Decimal.digitsOf n).isEmpty = false :=
    List.isEmpty_eq_false_iff.mpr (Decimal.digitsOf_ne_nil n)
  have hvalue : Nat.ofDigitChars 10 (Decimal.digitsOf n) 0 = n := Nat.ofDigitChars_ten_toDigits
  rw [readMagnitude, spanDigits_append (fun _ => Decimal.isDigit_of_mem_digitsOf) h]
  simp [hsome, zero_alone, readFraction_of_stops h, readExponent_of_stops h, hvalue]

/-- The text of a whole number is read as that number. -/
theorem readNumber_of_wholeText {i : Int} {t : String} (h : wholeText i = .ok t)
    {rest : List Char} (hrest : Stops rest) :
    readNumber (t.toList ++ rest) = some (.int i, rest) := by
  have hdigits : ∀ c ∈ Decimal.digitsOf i.natAbs, c.isDigit = true :=
    fun _ => Decimal.isDigit_of_mem_digitsOf
  rw [toList_of_wholeText h]
  by_cases hnegative : i < 0
  · have hvalue : -(i.natAbs : Int) = i := by omega
    rw [if_pos hnegative]
    show readMagnitude true (Decimal.digitsOf i.natAbs ++ rest) = _
    rw [readMagnitude_digitsOf true _ hrest, if_pos rfl, hvalue]
  · have hvalue : (i.natAbs : Int) = i := by omega
    rw [if_neg hnegative, List.nil_append]
    unfold readNumber
    split
    · rename_i more heq
      -- the digits do not begin with a sign
      obtain ⟨c, ds, hcons⟩ := List.exists_cons_of_ne_nil (Decimal.digitsOf_ne_nil i.natAbs)
      rw [hcons, List.cons_append] at heq
      have hsign := hdigits c (by simp [hcons])
      rw [(List.cons.inj heq).1] at hsign
      cases hsign
    · rw [readMagnitude_digitsOf false _ hrest, if_neg Bool.false_ne_true, hvalue]

end Json

end MaskedReport
