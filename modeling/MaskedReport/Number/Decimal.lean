import MaskedReport.Number.Binary64

/-!
# Decimal text of doubles

A double is written with the fewest decimal digits that read back as the same double, and of
those the digits nearest to its value. Reading rounds the exact decimal value once.
-/

set_option autoImplicit false

namespace MaskedReport

/-- The decimal `0.d₁d₂… * 10 ^ point`; `digits` is `d₁d₂…` as a whole number. -/
structure Decimal where
  digits : Nat
  point : Int
  deriving DecidableEq

namespace Decimal

/-- The digits of a whole number, most significant first. -/
def digitsOf (n : Nat) : List Char := Nat.toDigits 10 n

/-- The number of decimal digits of a whole number. -/
def width (n : Nat) : Nat := (digitsOf n).length

/-- Whether `c * 10 ^ e`, in units of 2^-1076, is at most `bound`. -/
def atMost (c : Nat) (e : Int) (bound : Nat) : Bool :=
  if e < 0 then decide (c * pow2 1076 ≤ bound * pow10 e.natAbs)
  else decide (c * pow10 e.natAbs * pow2 1076 ≤ bound)

/-- Whether `bound` is at most `c * 10 ^ e`, in units of 2^-1076. -/
def atLeast (c : Nat) (e : Int) (bound : Nat) : Bool :=
  if e < 0 then decide (bound * pow10 e.natAbs ≤ c * pow2 1076)
  else decide (bound ≤ c * pow10 e.natAbs * pow2 1076)

/-- A point of the grid `10 ^ e` that rounds to the double `m * 2 ^ p`, if one of the value's two
neighbours on the grid does: the nearer one, a tie going to the even one. -/
def onGrid? (m p : Nat) (e : Int) : Option Nat :=
  let value := 4 * m * pow2 p
  let high := value + 2 * pow2 p
  let low := value - (if m = pow2 52 ∧ 0 < p then pow2 p else 2 * pow2 p)
  let closed := m % 2 = 0
  let inside (c : Nat) : Bool :=
    if closed then atMost c e high && atLeast c e low
    else !atLeast c e high && !atMost c e low
  let below := if e < 0 then value * pow10 e.natAbs / pow2 1076
    else value / (pow10 e.natAbs * pow2 1076)
  match inside below, inside (below + 1) with
  | false, false => none
  | true, false => some below
  | false, true => some (below + 1)
  | true, true =>
    -- twice the value against the middle of the two neighbours
    let middle := 2 * below + 1
    if !atLeast middle e (2 * value) then some (below + 1)
    else if !atMost middle e (2 * value) then some below
    else some (if below % 2 = 0 then below else below + 1)

/-- The power of ten just above the value `m * 2 ^ p`. -/
def magnitude (m p : Nat) : Int :=
  (width (m * pow2 p * pow10 400 / pow2 1074) : Int) - 400

/-- The positive double `m * 2 ^ p` with all its digits. -/
def exact (m p : Nat) : Decimal :=
  let digits := m * pow2 p * pow5 1074
  ⟨digits, (width digits : Int) - 1074⟩

/-- The shortest decimal that reads back as the positive double `m * 2 ^ p`; were there none of up
to seventeen digits, all its digits. -/
def shortest (m p : Nat) : Decimal :=
  let top := magnitude m p
  let found := (List.range 17).findSome? fun k =>
    (onGrid? m p (top - (k + 1 : Nat))).map fun c => (c, k + 1)
  match found with
  | some (c, k) => ⟨c, top - k + width c⟩
  | none => exact m p

/-- The digits without the zeros at their end. -/
def significant (n : Nat) : List Char :=
  ((digitsOf n).reverse.dropWhile (· == '0')).reverse

/-- An exponent with its sign and at least two digits. -/
def exponentText (e : Int) : List Char :=
  let ds := digitsOf e.natAbs
  (if e < 0 then '-' else '+') :: (if ds.length < 2 then '0' :: ds else ds)

/-- The written form: positional for exponents from -4 to 15, always with a fraction; otherwise
with a power of ten. -/
def written (d : Decimal) : List Char :=
  let ds := significant d.digits
  let count : Int := ds.length
  if -4 < d.point ∧ d.point ≤ 16 then
    if d.point ≤ 0 then
      ['0', '.'] ++ List.replicate d.point.natAbs '0' ++ ds
    else if count ≤ d.point then
      ds ++ List.replicate (d.point - count).natAbs '0' ++ ['.', '0']
    else
      ds.take d.point.natAbs ++ ['.'] ++ ds.drop d.point.natAbs
  else
    let mantissa := match ds with
      | [] => ['0']
      | [c] => [c]
      | c :: rest => c :: '.' :: rest
    mantissa ++ ['e'] ++ exponentText (d.point - 1)

end Decimal

namespace Binary64

/-- The text of a double. -/
def text : Binary64 → String
  | .nan => "nan"
  | .infinite n => if n then "-inf" else "inf"
  | .finite n 0 _ => if n then "-0.0" else "0.0"
  | .finite n m p =>
    String.ofList ((if n then ['-'] else []) ++ (Decimal.shortest m p).written)

/-- The double nearest to `digits * 10 ^ exponent`. -/
def ofDecimal (negative : Bool) (digits : Nat) (exponent : Int) : Binary64 :=
  if digits = 0 then .finite negative 0 0
  else
    let top := exponent + Decimal.width digits
    if top > 310 then .infinite negative
    else if top < -330 then .finite negative 0 0
    else if exponent < 0 then ofRatio negative digits (pow10 exponent.natAbs)
    else ofRatio negative (digits * pow10 exponent.natAbs) 1

end Binary64

end MaskedReport
