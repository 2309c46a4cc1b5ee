/-!
# UTF-8

Encoding, and decoding one character at a time. A fault tells how many bytes are at fault: the
longest beginning of a well-formed sequence, or one byte.
-/

set_option autoImplicit false

namespace MaskedReport.Utf8

/-- Why a byte sequence is not a character. -/
inductive Fault where
  /-- No sequence starts with this byte. -/
  | start
  /-- The sequence breaks off after `length` bytes at a byte that does not continue it. -/
  | continuation (length : Nat)
  /-- The bytes end within a sequence. -/
  | ended
  deriving DecidableEq, Repr

/-- Whether a byte continues a sequence. -/
def continues (b : UInt8) : Bool := 0x80 ≤ b && b < 0xC0

/-- Whether the second byte may follow the first: no overlong form, no surrogate, nothing above the
last code point. -/
def follows (lead second : UInt8) : Bool :=
  continues second &&
    (if lead = 0xE0 then 0xA0 ≤ second
     else if lead = 0xED then second < 0xA0
     else if lead = 0xF0 then 0x90 ≤ second
     else if lead = 0xF4 then second < 0x90
     else true)

/-- The six bits that a continuing byte carries. -/
def low (b : UInt8) : Nat := b.toNat % 64

/-- The first character of the bytes with the rest, or the fault at their head. -/
def step : List UInt8 → Except Fault (Option (Char × List UInt8))
  | [] => .ok none
  | a :: rest =>
    if a < 0x80 then .ok (some (Char.ofNat a.toNat, rest))
    else if a < 0xC2 then .error .start
    else if a < 0xE0 then
      match rest with
      | [] => .error .ended
      | b :: rest =>
        if continues b then .ok (some (Char.ofNat (a.toNat % 32 * 64 + low b), rest))
        else .error (.continuation 1)
    else if a < 0xF0 then
      match rest with
      | [] => .error .ended
      | b :: rest =>
        if !follows a b then .error (.continuation 1)
        else match rest with
          | [] => .error .ended
          | c :: rest =>
            if continues c then
              .ok (some (Char.ofNat (a.toNat % 16 * 4096 + low b * 64 + low c), rest))
            else .error (.continuation 2)
    else if a < 0xF5 then
      match rest with
      | [] => .error .ended
      | b :: rest =>
        if !follows a b then .error (.continuation 1)
        else match rest with
          | [] => .error .ended
          | c :: rest =>
            if !continues c then .error (.continuation 2)
            else match rest with
              | [] => .error .ended
              | d :: rest =>
                if continues d then
                  .ok (some (Char.ofNat
                    (a.toNat % 8 * 262144 + low b * 4096 + low c * 64 + low d), rest))
                else .error (.continuation 3)
    else .error .start

/-- A fault with the place of its first byte and the bytes at fault. -/
structure Located where
  fault : Fault
  position : Nat
  bytes : List UInt8

/-- Decodes from a position, the characters so far in reverse. -/
def decodeFrom : Nat → Nat → List UInt8 → List Char → Except Located (List Char)
  | 0, _, _, acc => .ok acc.reverse
  | fuel + 1, position, bs, acc =>
    match step bs with
    | .ok none => .ok acc.reverse
    | .ok (some (c, rest)) =>
      decodeFrom fuel (position + (bs.length - rest.length)) rest (c :: acc)
    | .error .start => .error ⟨.start, position, bs.take 1⟩
    | .error (.continuation n) => .error ⟨.continuation n, position, bs.take n⟩
    | .error .ended => .error ⟨.ended, position, bs⟩

/-- Decodes well-formed bytes, or gives the first fault. Every step takes a byte, so the number of
bytes bounds the steps. -/
def decode (bs : List UInt8) : Except Located (List Char) :=
  decodeFrom (bs.length + 1) 0 bs []

/-- Decodes with replacements, the characters so far in reverse. -/
def repairFrom : Nat → List UInt8 → List Char → List Char
  | 0, _, acc => acc.reverse
  | fuel + 1, bs, acc =>
    match step bs with
    | .ok none => acc.reverse
    | .ok (some (c, rest)) => repairFrom fuel rest (c :: acc)
    | .error .start => repairFrom fuel (bs.drop 1) ('\uFFFD' :: acc)
    | .error (.continuation n) => repairFrom fuel (bs.drop n) ('\uFFFD' :: acc)
    | .error .ended => ('\uFFFD' :: acc).reverse

/-- Decodes any bytes, with the replacement character in place of each fault. -/
def repair (bs : List UInt8) : List Char := repairFrom (bs.length + 1) bs []

/-- The bytes of a character. -/
def encodeChar (c : Char) : List UInt8 :=
  let n := c.toNat
  if n < 0x80 then [UInt8.ofNat n]
  else if n < 0x800 then [UInt8.ofNat (0xC0 + n / 64), UInt8.ofNat (0x80 + n % 64)]
  else if n < 0x10000 then
    [UInt8.ofNat (0xE0 + n / 4096), UInt8.ofNat (0x80 + n / 64 % 64), UInt8.ofNat (0x80 + n % 64)]
  else
    [UInt8.ofNat (0xF0 + n / 262144), UInt8.ofNat (0x80 + n / 4096 % 64),
      UInt8.ofNat (0x80 + n / 64 % 64), UInt8.ofNat (0x80 + n % 64)]

/-- The bytes of a text. -/
def encode (s : List Char) : List UInt8 := s.flatMap encodeChar

end MaskedReport.Utf8
