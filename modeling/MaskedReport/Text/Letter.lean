/-!
# Texts of letters

The texts that documents hold and settings give. A letter is a character or one half of a surrogate
pair that stands alone: an escape in a document can name such a half, which stays in the text and
which no encoding knows. So a text of letters can be compared, taken apart and put together like any
other, but it can be sent or printed only if all its letters are characters.
-/

set_option autoImplicit false

namespace MaskedReport

/-- The code points that are halves of pairs. No character has one of them. -/
structure Surrogate where
  code : Nat
  isHalf : 0xD800 ≤ code ∧ code ≤ 0xDFFF
  deriving DecidableEq

/-- A letter of a text. -/
inductive Letter where
  | char (c : Char)
  | lone (s : Surrogate)
  deriving DecidableEq

namespace Letter

/-- A character is a letter. -/
instance : Coe Char Letter := ⟨char⟩

/-- The code point of a letter. -/
def code : Letter → Nat
  | char c => c.toNat
  | lone s => s.code

/-- The letter of a code point. -/
def ofCode (n : Nat) : Letter :=
  if h : 0xD800 ≤ n ∧ n ≤ 0xDFFF then lone ⟨n, h⟩ else char (Char.ofNat n)

/-- A character in the place of a letter, where only some characters are of account: half of a pair
is as good as a question mark, which is none of them. -/
def asChar : Letter → Char
  | char c => c
  | lone _ => '?'

/-- Whether a letter is half of a pair. -/
def isLone : Letter → Bool
  | char _ => false
  | lone _ => true

end Letter

/-- A text. -/
structure Text where
  ofList ::
  toList : List Letter
  deriving DecidableEq, Inhabited

namespace Text

/-- The text of the characters of a string. -/
def ofString (s : String) : Text := ofList (s.toList.map .char)

/-- A string is the text of its characters. -/
instance : Coe String Text := ⟨ofString⟩

/-- Two texts one after the other. -/
instance : Append Text := ⟨fun s t => ofList (s.toList ++ t.toList)⟩

/-- Whether a text has no letters. -/
def isEmpty (s : Text) : Bool := s.toList.isEmpty

/-- Texts with another between each two of them. -/
def intercalate (between : Text) (texts : List Text) : Text :=
  ofList (between.toList.intercalate (texts.map toList))

/-- The characters of a text, each half of a pair replaced. -/
def chars (s : Text) : List Char := s.toList.map Letter.asChar

/-- The string of the characters of a text, each half of a pair replaced. -/
def string (s : Text) : String := String.ofList s.chars

/-- The characters of letters, if all are characters. -/
def charsOf? : List Letter → Option (List Char)
  | [] => some []
  | .char c :: rest => (charsOf? rest).map (c :: ·)
  | .lone _ :: _ => none

/-- Whether all letters of a text are characters. -/
def isPlain (s : Text) : Bool := s.toList.all (!·.isLone)

/-- Whether the first text comes before the second. -/
def before (s t : Text) : Bool :=
  compare (s.toList.map Letter.code) (t.toList.map Letter.code) == .lt

end Text

/-- What keeps a text from being encoded: halves of pairs in a row, with the first of them and its
place. -/
structure Unencodable where
  first : Surrogate
  position : Nat
  count : Nat
  deriving DecidableEq

namespace Text

/-- The first halves of pairs that keep letters from being encoded, if there are any; those that
satisfy the test do not, unless they follow one that does. -/
def unencodable? (isKept : Surrogate → Bool) : Nat → List Letter → Option Unencodable
  | _, [] => none
  | n, .char _ :: rest => unencodable? isKept (n + 1) rest
  | n, .lone s :: rest =>
    if isKept s then unencodable? isKept (n + 1) rest
    else some ⟨s, n, (rest.takeWhile Letter.isLone).length + 1⟩

end Text

end MaskedReport
