/-!
# Double-precision numbers

A finite double is a whole number of units of 2^-1074, so every comparison, sum and product is
taken in whole numbers and rounded once, to the nearest double, a tie going to the even
significand.
-/

set_option autoImplicit false

namespace MaskedReport

/-- The power of two. -/
def pow2 (n : Nat) : Nat := Nat.pow 2 n

/-- The power of five. -/
def pow5 (n : Nat) : Nat := Nat.pow 5 n

/-- The power of ten. -/
def pow10 (n : Nat) : Nat := Nat.pow 10 n

/-- A double. A finite one has the value `± significand * 2 ^ shift` in units of 2^-1074; its
significand is below 2^53, and at least 2^52 unless the shift is zero. -/
inductive Binary64 where
  | nan
  | infinite (negative : Bool)
  | finite (negative : Bool) (significand shift : Nat)
  deriving DecidableEq, Inhabited

namespace Binary64

/-- The quotient rounded to the nearest whole number, a tie going to the even one. -/
def roundDiv (num den : Nat) : Nat :=
  let q := num / den
  let r := num % den
  if 2 * r < den then q
  else if 2 * r > den then q + 1
  else if q % 2 = 0 then q else q + 1

/-- The double nearest to `num / den` units. -/
def ofUnits (negative : Bool) (num den : Nat) : Binary64 :=
  let q := num / den
  let shift := if q = 0 then 0 else q.log2 + 1 - 53
  let s := roundDiv num (den * pow2 shift)
  if s < pow2 53 then
    if shift ≤ 2045 then .finite negative s shift else .infinite negative
  else if shift + 1 ≤ 2045 then .finite negative (pow2 52) (shift + 1) else .infinite negative

/-- The double nearest to `num / den`. -/
def ofRatio (negative : Bool) (num den : Nat) : Binary64 :=
  ofUnits negative (num * pow2 1074) den

/-- The double nearest to a whole number. -/
def ofInt (i : Int) : Binary64 :=
  ofRatio (i < 0) i.natAbs 1

/-- The positive zero. -/
def zero : Binary64 := .finite false 0 0

/-- The value of a finite double in units of 2^-1074. -/
def units? : Binary64 → Option Int
  | .finite negative m p =>
    some (if negative then -((m * pow2 p : Nat) : Int) else ((m * pow2 p : Nat) : Int))
  | _ => none

/-- Whether the value is zero, of either sign. -/
def isZero : Binary64 → Bool
  | .finite _ 0 _ => true
  | _ => false

/-- The double with the other sign. -/
def neg : Binary64 → Binary64
  | .nan => .nan
  | .infinite n => .infinite (!n)
  | .finite n m p => .finite (!n) m p

/-- How two doubles compare; nothing compares with NaN. -/
def compare? : Binary64 → Binary64 → Option Ordering
  | .nan, _ => none
  | _, .nan => none
  | .infinite a, .infinite b =>
    some (if a = b then .eq else if a then .lt else .gt)
  | .infinite a, .finite .. => some (if a then .lt else .gt)
  | .finite .., .infinite b => some (if b then .gt else .lt)
  | x@(.finite ..), y@(.finite ..) =>
    match x.units?, y.units? with
    | some a, some b => some (compare a b)
    | _, _ => none

/-- How a double compares with a whole number, exactly. -/
def compareInt? (x : Binary64) (i : Int) : Option Ordering :=
  match x with
  | .nan => none
  | .infinite n => some (if n then .lt else .gt)
  | .finite .. => x.units?.map fun a => compare a (i * (pow2 1074 : Nat))

/-- The sum, rounded. A sum of zero is negative only if both terms are. -/
def add : Binary64 → Binary64 → Binary64
  | .nan, _ => .nan
  | _, .nan => .nan
  | .infinite a, .infinite b => if a = b then .infinite a else .nan
  | .infinite a, .finite .. => .infinite a
  | .finite .., .infinite b => .infinite b
  | x@(.finite a _ _), y@(.finite b _ _) =>
    match x.units?, y.units? with
    | some u, some v =>
      if u + v = 0 then .finite (a && b) 0 0
      else ofUnits (u + v < 0) (u + v).natAbs 1
    | _, _ => .nan

/-- The product, rounded. -/
def mul : Binary64 → Binary64 → Binary64
  | .nan, _ => .nan
  | _, .nan => .nan
  | .infinite a, .infinite b => .infinite (a != b)
  | .infinite a, .finite b m _ => if m = 0 then .nan else .infinite (a != b)
  | .finite a m _, .infinite b => if m = 0 then .nan else .infinite (a != b)
  | .finite a m p, .finite b n q => ofUnits (a != b) (m * n * pow2 (p + q)) (pow2 1074)

/-- The whole part of a finite double. -/
def truncate? : Binary64 → Option Int
  | .finite negative m p =>
    let w : Nat := m * pow2 p / pow2 1074
    some (if negative then -(w : Int) else (w : Int))
  | _ => none

end Binary64

end MaskedReport
