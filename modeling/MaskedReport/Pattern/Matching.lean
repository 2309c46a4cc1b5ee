import MaskedReport.Pattern.Syntax
import MaskedReport.Text.Case
import MaskedReport.Text.CharClass
import MaskedReport.Text.Letter

/-!
# Matching

The order in which a pattern tries its ways to take letters is part of its meaning: a reference
sees the first captures that let the rest succeed. So a node is given the rest of the pattern as a
function and returns the first place at which everything succeeds. `Node.takesAll` tells whether a
pattern matches a whole text.
-/

set_option autoImplicit false

namespace MaskedReport.Pattern

/-- A place in a text: the letters before it (last one first) and after it, and the marks that
captures have left, latest first, as a group with a position. -/
structure Place where
  before : List Letter
  after : List Letter
  position : Nat
  starts : List (Nat × Nat)
  ends : List (Nat × Nat)
  deriving DecidableEq

namespace Place

/-- The start of a text. -/
def start (text : List Letter) : Place := ⟨[], text, 0, [], []⟩

/-- The place after the next letter, if there is one that satisfies the test. -/
def take? (test : Letter → Bool) (p : Place) : Option Place :=
  match p.after with
  | [] => none
  | c :: rest =>
    if test c then
      some { p with before := c :: p.before, after := rest, position := p.position + 1 }
    else none

/-- The place `n` letters back. -/
def back? : Nat → Place → Option Place
  | 0, p => some p
  | n + 1, p =>
    match p.before with
    | [] => none
    | c :: rest =>
      back? n { p with before := rest, after := c :: p.after, position := p.position - 1 }

/-- This place with the marks of another. -/
def withMarks (p other : Place) : Place := { p with starts := other.starts, ends := other.ends }

/-- The span of a group that is marked at both ends. -/
def span? (p : Place) (group : Nat) : Option (Nat × Nat) :=
  match p.starts.lookup group, p.ends.lookup group with
  | some a, some b => if a ≤ b then some (a, b) else none
  | _, _ => none

/-- The text that a group captured. -/
def captured? (p : Place) (group : Nat) : Option (List Letter) :=
  (p.span? group).map fun (a, b) => ((p.before.drop (p.position - b)).take (b - a)).reverse

end Place

/-- The lower case of a character as far as case is ignored under the flags. -/
def folded (flags : Flags) (c : Nat) : Nat :=
  if flags.ascii then if 65 ≤ c ∧ c ≤ 90 then c + 32 else c else Case.lower c

/-- The lower-case characters that count as the same as the lower-case character `c`. -/
def sameFolded (flags : Flags) (c : Nat) : List Nat :=
  if flags.ascii then [c] else c :: Case.companions c

/-- Whether the pattern's character `c` takes the character `d`. -/
def charTakes (flags : Flags) (c d : Nat) : Bool :=
  if flags.ignoreCase then (sameFolded flags (folded flags c)).contains (folded flags d)
  else c == d

/-- The characters with the lower case `c`. -/
def withFolded (flags : Flags) (c : Nat) : List Nat :=
  if flags.ascii then
    if 97 ≤ c ∧ c ≤ 122 then [c, c - 32] else if 65 ≤ c ∧ c ≤ 90 then [] else [c]
  else Case.withLower c

/-- Whether a class holds a character. -/
def CharKind.holds (flags : Flags) (k : CharKind) (c : Nat) : Bool :=
  if flags.ascii && 128 ≤ c then false
  else match k with
    | .digit => CharClass.isDecimal c
    | .blank =>
      if flags.ascii then (9 ≤ c && c ≤ 13) || c == 32 else CharClass.isBlank c
    | .word => CharClass.isAlphanumeric c || c == 95

/-- Whether a member of a set takes a character. -/
def Member.takes (flags : Flags) (d : Nat) : Member → Bool
  | .single c => charTakes flags c d
  | .range first last =>
    if flags.ignoreCase then
      (sameFolded flags (folded flags d)).any fun l =>
        (withFolded flags l).any fun x => first ≤ x && x ≤ last
    else first ≤ d && d ≤ last
  | .kind k negated => k.holds flags d != negated

/-- Whether the text is empty. -/
def Place.isBare (p : Place) : Bool := p.before.isEmpty && p.after.isEmpty

/-- Whether a word starts or ends at a place. -/
def Place.isEdge (flags : Flags) (p : Place) : Bool :=
  let word (c : Letter) : Bool := CharKind.word.holds flags c.code
  p.before.head?.any word != p.after.head?.any word

/-- Whether an anchor holds at a place. -/
def Anchor.holds (flags : Flags) (p : Place) : Anchor → Bool
  | .lineStart =>
    match p.before with
    | [] => true
    | c :: _ => flags.multiLine && c == .char '\n'
  | .lineEnd =>
    match p.after with
    | [] => true
    | c :: rest => c == .char '\n' && (flags.multiLine || rest.isEmpty)
  | .textStart => p.before.isEmpty
  | .textEnd => p.after.isEmpty
  | .boundary => !p.isBare && p.isEdge flags
  | .notBoundary => !p.isBare && !p.isEdge flags

/-- The rest of a pattern: the first place at which it succeeds. -/
abbrev Rest := Place → Option Place

/-- Takes the given text again. -/
def repeatText (flags : Flags) : List Letter → Rest
  | [], p => some p
  | c :: cs, p =>
    let same (d : Letter) : Bool :=
      if flags.ignoreCase then folded flags c.code == folded flags d.code else c == d
    (p.take? same).bind (repeatText flags cs)

/-- Rounds of a body, as many as possible, `done` of them taken. Past the least number no round
starts where the previous one, at `last`, started. -/
def greedyRounds (body : Rest → Rest) (least : Nat) (most : Option Nat) (k : Rest) :
    Nat → (done : Nat) → (last : Option Nat) → Rest
  | 0, _, _, _ => none
  | fuel + 1, done, last, p =>
    if done < least then body (greedyRounds body least most k fuel (done + 1) last) p
    else if most.all (done < ·) && last != some p.position then
      (body (greedyRounds body least most k fuel (done + 1) (some p.position)) p).or (k p)
    else k p

/-- Rounds of a body, as few as possible, `done` of them taken. -/
def lazyRounds (body : Rest → Rest) (least : Nat) (most : Option Nat) (k : Rest) :
    Nat → (done : Nat) → (last : Option Nat) → Rest
  | 0, _, _, _ => none
  | fuel + 1, done, last, p =>
    if done < least then body (lazyRounds body least most k fuel (done + 1) last) p
    else match k p with
      | some q => some q
      | none =>
        if most.all (done < ·) && last != some p.position then
          body (lazyRounds body least most k fuel (done + 1) (some p.position)) p
        else none

/-- The place after as many rounds as possible, each the first way of the body. -/
def possessiveRounds (body : Rest → Rest) (least : Nat) (most : Option Nat) :
    Nat → (done : Nat) → (last : Option Nat) → Rest
  | 0, _, _, _ => none
  | fuel + 1, done, last, p =>
    if done < least then
      (body some p).bind (possessiveRounds body least most fuel (done + 1) last)
    else if most.all (done < ·) && last != some p.position then
      match body some p with
      | some q => possessiveRounds body least most fuel (done + 1) (some p.position) q
      | none => some p
    else some p

/-- The first place at which the node and then the rest succeed. A repetition takes at most one
round that is empty past the least number, which bounds the number of rounds. -/
def Node.find (flags : Flags) : Node → Rest → Rest
  | .empty, k, p => k p
  | .char c, k, p => (p.take? fun d => charTakes flags c d.code).bind k
  | .notChar c, k, p => (p.take? fun d => !charTakes flags c d.code).bind k
  | .any, k, p => (p.take? fun d => flags.dotAll || d != .char '\n').bind k
  | .oneOf negated members, k, p =>
    (p.take? fun d => members.any (·.takes flags d.code) != negated).bind k
  | .anchor a, k, p => if a.holds flags p then k p else none
  | .seq a b, k, p => a.find flags (b.find flags k) p
  | .alt a b, k, p => (a.find flags k p).or (b.find flags k p)
  | .rounds mode least most body, k, p =>
    let fuel := least + p.after.length + 2
    match mode with
    | .greedy => greedyRounds (body.find flags) least most k fuel 0 none p
    | .lazy => lazyRounds (body.find flags) least most k fuel 0 none p
    | .possessive => (possessiveRounds (body.find flags) least most fuel 0 none p).bind k
  | .capture g body, k, p =>
    body.find flags (fun q => k { q with ends := (g, q.position) :: q.ends })
      { p with starts := (g, p.position) :: p.starts }
  | .underFlags on off body, k, p => body.find (flags.within on off) k p
  | .atomic body, k, p => (body.find flags some p).bind k
  | .ahead false body, k, p => (body.find flags some p).bind fun q => k (p.withMarks q)
  | .ahead true body, k, p => if (body.find flags some p).isSome then none else k p
  | .behind false least _ body, k, p =>
    ((p.back? least).bind (body.find flags some)).bind fun q => k (p.withMarks q)
  | .behind true least _ body, k, p =>
    if ((p.back? least).bind (body.find flags some)).isSome then none else k p
  | .reference g, k, p => ((p.captured? g).bind fun cs => repeatText flags cs p).bind k
  | .conditional g yes no, k, p =>
    if (p.span? g).isSome then yes.find flags k p else no.find flags k p

/-- Whether the node matches the whole text. -/
def Node.takesAll (flags : Flags) (node : Node) (text : List Letter) : Bool :=
  (node.find flags (fun p => if p.after.isEmpty then some p else none) (.start text)).isSome

end MaskedReport.Pattern
