import MaskedReport.Http.Address
import MaskedReport.Text.Utf8

/-!
# Request targets

The path of a request target, and the percent coding of names in it. A target may be a whole address
with scheme and host; a query and a fragment do not belong to the path.
-/

set_option autoImplicit false

namespace MaskedReport.Http

/-- The bytes as characters of the same codes. -/
def byteChars (bs : List UInt8) : List Char := bs.map fun b => Char.ofNat b.toNat

/-! ## The path of a target -/

/-- The characters of a scheme. -/
def isSchemeChar (c : Char) : Bool :=
  Ascii.isLetter c || Ascii.isDigit c || c = '+' || c = '-' || c = '.'

/-- The target without what no address holds: controls and spaces at its start, tabs and line ends
anywhere. -/
def cleaned (target : List Char) : List Char :=
  (target.dropWhile fun c => c.toNat ≤ 32).filter fun c => c != '\t' && c != '\r' && c != '\n'

/-- The target without its scheme. -/
def withoutScheme (target : List Char) : List Char :=
  let scheme := target.takeWhile (· != ':')
  match target.drop scheme.length with
  | ':' :: rest =>
    if scheme.head?.any Ascii.isLetter && scheme.all isSchemeChar then rest
    else target
  | _ => target

/-- Checks the brackets of a host with its port. -/
def checkHost (host : List Char) : Except TargetFault Unit :=
  let opened := host.contains '['
  let closed := host.contains ']'
  if opened != closed then .error .brackets
  else if opened then
    checkBracketed (((host.dropWhile (· != '[')).drop 1).takeWhile (· != ']'))
  else .ok ()

/-- The path of a target. -/
def pathOf (target : List Char) : Except TargetFault (List Char) := do
  let rest := withoutScheme (cleaned target)
  let rest ← match rest with
    | '/' :: '/' :: more => do
      let host := more.takeWhile fun c => c != '/' && c != '?' && c != '#'
      checkHost host
      pure (more.drop host.length)
    | _ => pure rest
  return (rest.takeWhile (· != '#')).takeWhile (· != '?')

/-- The path without slashes at its end; the empty path is the root. -/
def trimmed (path : List Char) : List Char :=
  match (path.reverse.dropWhile (· == '/')).reverse with
  | [] => ['/']
  | p => p

/-! ## Percent coding -/

/-- The value of a hexadecimal digit. -/
def hexValue? (c : Char) : Option Nat := if Ascii.isHexDigit c then Numeral.digitValue? c else none

/-- The bytes of ASCII characters, a percent sign with two hexadecimal digits standing for the byte
that they give. -/
def percentBytes : List Char → List UInt8
  | [] => []
  | [c] => [UInt8.ofNat c.toNat]
  | [c, d] => [UInt8.ofNat c.toNat, UInt8.ofNat d.toNat]
  | c :: d :: e :: rest =>
    match (if c = '%' then hexValue? d else none), hexValue? e with
    | some h, some l => UInt8.ofNat (h * 16 + l) :: percentBytes rest
    | _, _ => UInt8.ofNat c.toNat :: percentBytes (d :: e :: rest)

/-- Decodes percent codes: each run of ASCII characters gives bytes, which are read as UTF-8; other
characters stand for themselves. The run so far is in reverse. -/
def decodeRuns : List Char → List Char → List Char
  | [], run => Utf8.repair (percentBytes run.reverse)
  | c :: rest, run =>
    if c.toNat < 128 then decodeRuns rest (c :: run)
    else Utf8.repair (percentBytes run.reverse) ++ c :: decodeRuns rest []

/-- The name that a coded name stands for. -/
def unquote (name : List Char) : List Char := decodeRuns name []

end MaskedReport.Http
