import MaskedReport.Failure
import MaskedReport.Text.Numeral

/-!
# Addresses in brackets

The host of a request target may stand in brackets if it is an address of version 6 or of a later
one. An address of version 6 has eight groups of up to four hexadecimal digits; two colons stand for
one run of groups that are zero, and the last two groups may be an address of version 4.
-/

set_option autoImplicit false

namespace MaskedReport.Http

/-- Whether a text is a number below 256 without zeros at its start. -/
def isOctet (s : List Char) : Bool :=
  !s.isEmpty && s.length ≤ 3 && s.all Ascii.isDigit && (s.length = 1 || s.head? != some '0') &&
    decide (Numeral.value 10 (s.filterMap Numeral.digitValue?) < 256)

/-- Whether a text is an address of version 4. -/
def isV4 (s : List Char) : Bool :=
  let parts := s.splitOn '.'
  parts.length = 4 && parts.all isOctet

/-- Whether a text is a group of an address of version 6. -/
def isGroup (s : List Char) : Bool := !s.isEmpty && s.length ≤ 4 && s.all Ascii.isHexDigit

/-- Whether the groups after the two colons fit with those before, of which there are `count`. -/
def lowFits (count : Nat) (low : List (List Char)) : Bool :=
  (low = [[]] && count < 8) || (low.all isGroup && count + low.length < 8)

/-- Whether the parts between colons are those of an address of version 6. -/
def areGroups (parts : List (List Char)) : Bool :=
  let inner := (parts.drop 1).dropLast
  let gaps := inner.filter (·.isEmpty)
  if 9 < parts.length ∨ 1 < gaps.length then false
  else if gaps.isEmpty then parts.length = 8 && parts.all isGroup
  else
    let high := parts.takeWhile (!·.isEmpty)
    match parts with
    | [] :: rest =>
      -- an empty first part needs the gap right after it
      let low := rest.drop 1
      rest.head? = some [] && lowFits 0 low
    | _ => high.all isGroup && lowFits high.length (parts.drop (high.length + 1))

/-- Whether a text is an address of version 6, perhaps with a zone after a percent sign. -/
def isV6 (s : List Char) : Bool :=
  let host := s.takeWhile (· != '%')
  let zone := s.drop (host.length + 1)
  let zoned := host.length < s.length
  let parts := host.splitOn ':'
  let last := parts.getLast?.getD []
  if s.contains '/' || (zoned && (zone.isEmpty || zone.contains '%')) || parts.length < 3 then false
  else if last.contains '.' then
    isV4 last && areGroups (parts.dropLast ++ [['0'], ['0']])
  else areGroups parts

/-- Checks a host in brackets. -/
def checkBracketed (host : List Char) : Except TargetFault Unit :=
  match host with
  | 'v' :: rest =>
    let version := rest.takeWhile Ascii.isHexDigit
    match rest.drop version.length with
    | '.' :: tail =>
      if version.isEmpty || tail.isEmpty || tail.contains '\n' then .error .futureAddress
      else .ok ()
    | _ => .error .futureAddress
  | _ =>
    if isV4 host then .error .bracketedV4
    else if isV6 host then .ok ()
    else .error (.notAnAddress (String.ofList host))

end MaskedReport.Http
