import MaskedReport.Document.Node
import MaskedReport.Document.Scalar

/-!
# The value of a document

Nodes are given values by level: the scalars in a collection, and what its keys can be, are settled
before the collections in it are filled. So of several flaws the one of the least level counts, and
of those the first. `Document.read` is the entry point. There is no limit to how deep nodes may be
nested: a document is read here however deep it is, where an interpreter with a bounded stack gives
up.
-/

set_option autoImplicit false

namespace MaskedReport.Document

/-- A flaw with the level at which it shows. -/
structure Flaw where
  level : Nat
  refusal : Refusal

namespace Node

mutual

/-- The text of a node that should be a scalar: of a mapping, that of its value under the key
`=`. -/
def textOf : Node → Except Refusal (List Letter)
  | scalar _ text => .ok text.toList
  | sequence _ _ => .error (.fault (.otherNode "scalar" "sequence"))
  | mapping _ written _ _ => textIn written
  | loop ofMap =>
    .error (.fault (.otherNode "scalar" (if ofMap then "mapping" else "sequence")))

/-- The text of the value under the key `=`. -/
def textIn : List (Node × Node) → Except Refusal (List Letter)
  | [] => .error (.fault (.otherNode "scalar" "mapping"))
  | (key, value) :: rest => if key.tag = valueTag then textOf value else textIn rest

end

/-- A value with its flaws; a flawed value is nothing. -/
abbrev Built := Value × List Flaw

/-- A value that shows a flaw. -/
def flawed (level : Nat) (r : Refusal) : Built := (.null, [⟨level, r⟩])

/-- A value that may have failed at a level. -/
def settle (level : Nat) : Except Refusal Value → Built
  | .ok v => (v, [])
  | .error r => flawed level r

mutual

/-- The value of a node that stands at a level; a collection is filled at the next one. -/
def build (level : Nat) : Node → Built
  | loop ofMap => (.loop ofMap, [])
  | scalar t text =>
    match Scalar.value? t with
    | some make => settle level (make text.toList)
    | none =>
      if t = sequenceTag then flawed (level + 1) (.fault (.otherNode "sequence" "scalar"))
      else if t = mappingTag ∨ t = setTag then
        flawed (level + 1) (.fault (.otherNode "mapping" "scalar"))
      else if t = orderedMapTag then flawed (level + 1) (.fault .orderedMap)
      else if t = pairsTag then flawed (level + 1) (.fault .pairs)
      else flawed level (.fault (.unknownTag t))
  | sequence t items =>
    match Scalar.value? t with
    | some _ => flawed level (.fault (.otherNode "scalar" "sequence"))
    | none =>
      if t = sequenceTag then
        let (vs, flaws) := buildItems (level + 1) items
        (.list vs, flaws)
      else if t = mappingTag ∨ t = setTag then
        flawed (level + 1) (.fault (.otherNode "mapping" "sequence"))
      else if t = orderedMapTag then
        let (vs, flaws) := buildPairs .orderedMap (level + 1) items
        (.list vs, flaws)
      else if t = pairsTag then
        let (vs, flaws) := buildPairs .pairs (level + 1) items
        (.list vs, flaws)
      else flawed level (.fault (.unknownTag t))
  | mapping t written merged mergeable =>
    match Scalar.value? t with
    | some make =>
      settle level do
        let text ← textIn written
        if t = instantTag then Scalar.refuse .instantOfMapping else make text
    | none =>
      if t = mappingTag then
        if mergeable then
          let (es, flaws) := buildEntries (level + 1) merged
          (.map (Entries.ofPairs es), flaws)
        else flawed (level + 1) (.fault .mapping)
      else if t = setTag then
        if mergeable then
          let (es, flaws) := buildEntries (level + 1) merged
          (.set (Entries.ofPairs es).keys, flaws)
        else flawed (level + 1) (.fault .mapping)
      else if t = sequenceTag then
        flawed (level + 1) (.fault (.otherNode "sequence" "mapping"))
      else if t = orderedMapTag then flawed (level + 1) (.fault .orderedMap)
      else if t = pairsTag then flawed (level + 1) (.fault .pairs)
      else flawed level (.fault (.unknownTag t))

/-- The values of items. -/
def buildItems (level : Nat) : List Node → List Value × List Flaw
  | [] => ([], [])
  | n :: rest =>
    let (v, here) := build level n
    let (vs, later) := buildItems level rest
    (v :: vs, here ++ later)

/-- The values of entries. A value that cannot be a key shows a flaw. -/
def buildEntries (level : Nat) : List (Node × Node) → List (Value × Value) × List Flaw
  | [] => ([], [])
  | (key, value) :: rest =>
    let (k, ofKey) := build level key
    let misfit := if k.unhashable?.isSome then [⟨level, .fault .mapping⟩] else []
    let (v, ofValue) := build level value
    let (es, later) := buildEntries level rest
    ((k, v) :: es, ofKey ++ misfit ++ ofValue ++ later)

/-- The values of items that are mappings of one entry, as pairs. -/
def buildPairs (f : Fault) (level : Nat) : List Node → List Value × List Flaw
  | [] => ([], [])
  | mapping _ written _ _ :: rest =>
    let (es, here) := buildOne f level written
    let (vs, later) := buildPairs f level rest
    (es ++ vs, here ++ later)
  | _ :: rest =>
    let (vs, later) := buildPairs f level rest
    (vs, ⟨level, .fault f⟩ :: later)

/-- The value of the only entry, as a pair. -/
def buildOne (f : Fault) (level : Nat) : List (Node × Node) → List Value × List Flaw
  | [(key, value)] =>
    let (k, ofKey) := build level key
    let (v, ofValue) := build level value
    ([.tuple [k, v]], ofKey ++ ofValue)
  | _ => ([], [⟨level, .fault f⟩])

end

/-- The first flaw of the least level. -/
def worst? : List Flaw → Option Flaw
  | [] => none
  | f :: rest =>
    match worst? rest with
    | none => some f
    | some g => some (if g.level < f.level then g else f)

/-- The value of a node. -/
def toValue (n : Node) : Except Refusal Value :=
  let (v, flaws) := n.build 0
  match worst? flaws with
  | some f => .error f.refusal
  | none => .ok v

end Node

/-- Whether a character may stand in a document. -/
def isAcceptable (c : Char) : Bool :=
  let n := c.toNat
  n = 9 || n = 10 || n = 13 || (0x20 ≤ n && n ≤ 0x7E) || n = 0x85 || (0xA0 ≤ n && n ≤ 0xFFFD) ||
    0x10000 ≤ n

/-- Reads a text as one document and gives its value; that of no document is nothing. -/
def read (text : List Char) : Except Refusal Value := do
  match text.find? fun c => !isAcceptable c with
  | some c => throw (.fault (.unacceptable c.toNat))
  | none =>
    match ← Node.ofFeed (.ofText text) with
    | none => return .null
    | some n => n.toValue

end MaskedReport.Document
