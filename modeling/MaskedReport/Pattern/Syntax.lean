/-!
# Patterns

The abstract syntax of mask patterns, the flags that govern how a pattern matches, and the least
and greatest number of characters that a pattern takes.
-/

set_option autoImplicit false

namespace MaskedReport.Pattern

/-- Flags of a pattern. `unicode` and `ascii` choose the character classes; a pattern has exactly
one of them. -/
structure Flags where
  ignoreCase : Bool := false
  multiLine : Bool := false
  dotAll : Bool := false
  verbose : Bool := false
  unicode : Bool := false
  ascii : Bool := false
  template : Bool := false
  deriving DecidableEq, Inhabited

namespace Flags

/-- The number that stands for a set of flags. -/
def toNat (f : Flags) : Nat :=
  (if f.template then 1 else 0) + (if f.ignoreCase then 2 else 0) +
    (if f.multiLine then 8 else 0) + (if f.dotAll then 16 else 0) +
    (if f.unicode then 32 else 0) + (if f.verbose then 64 else 0) + (if f.ascii then 256 else 0)

/-- The flags of either set. -/
def union (a b : Flags) : Flags where
  ignoreCase := a.ignoreCase || b.ignoreCase
  multiLine := a.multiLine || b.multiLine
  dotAll := a.dotAll || b.dotAll
  verbose := a.verbose || b.verbose
  unicode := a.unicode || b.unicode
  ascii := a.ascii || b.ascii
  template := a.template || b.template

/-- The flags of the first set that are not in the second. -/
def without (a b : Flags) : Flags where
  ignoreCase := a.ignoreCase && !b.ignoreCase
  multiLine := a.multiLine && !b.multiLine
  dotAll := a.dotAll && !b.dotAll
  verbose := a.verbose && !b.verbose
  unicode := a.unicode && !b.unicode
  ascii := a.ascii && !b.ascii
  template := a.template && !b.template

/-- Whether two sets of flags share one. -/
def meets (a b : Flags) : Bool :=
  (a.ignoreCase && b.ignoreCase) || (a.multiLine && b.multiLine) || (a.dotAll && b.dotAll) ||
    (a.verbose && b.verbose) || (a.unicode && b.unicode) || (a.ascii && b.ascii) ||
    (a.template && b.template)

/-- The flags within a group that turns some on and some off. A choice of character classes
replaces the one outside. -/
def within (outer on off : Flags) : Flags :=
  let kept := if on.unicode || on.ascii then { outer with unicode := false, ascii := false }
    else outer
  (kept.union on).without off

end Flags

/-- A class of characters. -/
inductive CharKind where
  | digit
  | blank
  | word
  deriving DecidableEq

/-- A member of a character set. -/
inductive Member where
  | single (c : Nat)
  | range (first last : Nat)
  | kind (k : CharKind) (negated : Bool)
  deriving DecidableEq

/-- A condition on a place that takes no character. -/
inductive Anchor where
  | lineStart
  | lineEnd
  | textStart
  | textEnd
  | boundary
  | notBoundary
  deriving DecidableEq

/-- How a repetition chooses the number of its rounds: as many as possible, as few as possible, or
as many as possible without a second thought. -/
inductive Mode where
  | greedy
  | lazy
  | possessive
  deriving DecidableEq

/-- A pattern. Characters are code points. -/
inductive Node where
  | empty
  | char (c : Nat)
  | notChar (c : Nat)
  | any
  | oneOf (negated : Bool) (members : List Member)
  | anchor (a : Anchor)
  | seq (first second : Node)
  | alt (first second : Node)
  | rounds (mode : Mode) (least : Nat) (most : Option Nat) (body : Node)
  | capture (group : Nat) (body : Node)
  | underFlags (on off : Flags) (body : Node)
  | atomic (body : Node)
  | ahead (negated : Bool) (body : Node)
  /-- `least` and `most` are the widths of the body. -/
  | behind (negated : Bool) (least most : Nat) (body : Node)
  | reference (group : Nat)
  | conditional (group : Nat) (yes no : Node)
  deriving DecidableEq, Inhabited

namespace Node

/-- The nodes one after the other. -/
def sequence (items : List Node) : Node := items.foldr seq empty

/-- The first alternative that matches. -/
def alternatives : List Node → Node
  | [] => empty
  | [n] => n
  | n :: rest => alt n (alternatives rest)

/-- The bound that stands for "no bound" in widths and repetitions. -/
def unbounded : Nat := 4294967295

/-- Widths cut off at the bound. -/
def capped (w : Nat × Nat) : Nat × Nat := (min w.1 (unbounded - 1), min w.2 unbounded)

/-- The least and the greatest number of characters that a pattern takes; `groups` holds the widths
of the groups that are closed. -/
def width (groups : List (Option (Nat × Nat))) : Node → Nat × Nat
  | empty => (0, 0)
  | char _ => (1, 1)
  | notChar _ => (1, 1)
  | any => (1, 1)
  | oneOf _ _ => (1, 1)
  | anchor _ => (0, 0)
  | seq a b =>
    let (l, h) := width groups a
    let (l', h') := width groups b
    capped (l + l', h + h')
  | alt a b =>
    let (l, h) := width groups a
    let (l', h') := width groups b
    capped (min l l', max h h')
  | rounds _ least most body =>
    let (l, h) := width groups body
    capped (l * least, h * most.getD unbounded)
  | capture _ body => width groups body
  | underFlags _ _ body => width groups body
  | atomic body => width groups body
  | ahead _ _ => (0, 0)
  | behind _ _ _ _ => (0, 0)
  | reference g => ((groups[g - 1]?).bind id).getD (0, 0)
  | conditional _ yes no =>
    let (l, h) := width groups yes
    let (l', h') := width groups no
    capped (min l l', max h h')

end Node

end MaskedReport.Pattern
