import MaskedReport.Document.Kind
import MaskedReport.Document.Tokens

/-!
# Nodes

The tree of a document. An alias is the node that its anchor marks; within that node itself it is a
loop. Entries of a mapping under the merge key stand for the entries of the mappings they name,
which come first; the entries of a node as written are kept beside those after merging.
-/

set_option autoImplicit false

namespace MaskedReport.Document

/-- A node of a document. A mapping whose merge keys name something other than mappings cannot be
merged. -/
inductive Node where
  | scalar (tag : String) (text : Text)
  | sequence (tag : String) (items : List Node)
  | mapping (tag : String) (written merged : List (Node × Node)) (mergeable : Bool)
  /-- An alias of a node that it stands in. -/
  | loop (ofMap : Bool)
  deriving Inhabited

namespace Node

/-- The scalar where nothing is written. -/
def nothing : Node := scalar nullTag ""

/-- The tag of a node. -/
def tag : Node → String
  | scalar t _ => t
  | sequence t _ => t
  | mapping t _ _ _ => t
  | loop ofMap => if ofMap then mappingTag else sequenceTag

/-- The name of a kind of node in messages. -/
def name : Node → String
  | scalar _ _ => "scalar"
  | sequence _ _ => "sequence"
  | mapping _ _ _ _ => "mapping"
  | loop ofMap => if ofMap then "mapping" else "sequence"

/-- The entries that a merge takes from a mapping. -/
def mergedEntries? : Node → Option (List (Node × Node))
  | mapping _ _ merged mergeable => if mergeable then some merged else none
  | loop true => some []
  | _ => none

/-- The entries that a merge key brings in: of several mappings the last comes first, so that
earlier ones take precedence. -/
def mergeValue? : Node → Option (List (Node × Node))
  | sequence _ items => (items.mapM mergedEntries?).map fun all => all.reverse.flatten
  | n => n.mergedEntries?

/-- A key as it counts after merging: the key `=` is a text. -/
def asPlainKey : Node → Node
  | scalar t text => scalar (if t = valueTag then textTag else t) text
  | n => n

/-- The entries that merge keys bring in, and the other entries. -/
def mergeEntries? : List (Node × Node) → Option (List (Node × Node) × List (Node × Node))
  | [] => some ([], [])
  | (key, value) :: rest => do
    let (taken, own) ← mergeEntries? rest
    if key.tag = mergeTag then return ((← value.mergeValue?) ++ taken, own)
    else return (taken, (key.asPlainKey, value) :: own)

/-- The mapping with the entries as written. -/
def ofEntries (tag : String) (written : List (Node × Node)) : Node :=
  match mergeEntries? written with
  | some (taken, own) => mapping tag written (taken ++ own) true
  | none => mapping tag written written false

end Node

/-- What is left to read of a document: tokens, the expansions of tag handles, and the nodes that
anchors mark. -/
structure Reading where
  feed : Feed
  handles : List (String × String) := []
  anchors : List (String × Node) := []

/-- A step of reading nodes. -/
abbrev Read := StateT Reading (Except Refusal)

namespace Read

/-- Refuses the document. -/
def fault {α : Type} (f : Fault) : Read α := fun _ => .error (.fault f)

/-- The token to come. -/
def peek : Read Token := fun r =>
  match r.feed.tokens, r.feed.refusal with
  | t :: _, _ => .ok (t, r)
  | [], some e => .error e
  | [], none => .ok (.streamEnd, r)

/-- Takes the token to come. -/
def take : Read Token := do
  let t ← peek
  modify fun r => { r with feed := { r.feed with tokens := r.feed.tokens.drop 1 } }
  return t

/-- Takes the token if it comes next. -/
def accept (t : Token) : Read Bool := do
  if (← peek) = t then
    let _ ← take
    return true
  else return false

/-- Whether one of the tokens comes next. -/
def comes (ts : List Token) : Read Bool := do return ts.contains (← peek)

/-- Refuses an anchor that is taken. -/
def checkAnchor (anchor : Option String) : Read Unit := do
  match anchor with
  | none => return
  | some a => if ((← get).anchors.lookup a).isSome then fault (.secondAnchor a)

/-- Lets an anchor mark a node. -/
def mark (anchor : Option String) (n : Node) : Read Unit :=
  match anchor with
  | none => return
  | some a => modify fun r => { r with anchors := (a, n) :: r.anchors }

/-- The anchor and tag before a node, in either order. -/
def properties : Read (Option String × Option WrittenTag) := do
  match ← peek with
  | .anchor a =>
    let _ ← take
    match ← peek with
    | .tag t =>
      let _ ← take
      return (some a, some t)
    | _ => return (some a, none)
  | .tag t =>
    let _ ← take
    match ← peek with
    | .anchor a =>
      let _ ← take
      return (some a, some t)
    | _ => return (none, some t)
  | _ => return (none, none)

/-- The tag that a written tag stands for. -/
def wholeTag (t : Option WrittenTag) : Read (Option String) := do
  match t with
  | none => return none
  | some ⟨none, suffix⟩ => return some suffix
  | some ⟨some handle, suffix⟩ =>
    match (← get).handles.lookup handle with
    | some expansion => return some (expansion ++ suffix)
    | none => fault .undefinedHandle

/-- The tag of a collection: its own, unless that leaves the kind open. -/
def collectionTag (tag : Option String) (default : String) : String :=
  match tag with
  | none => default
  | some t => if t = "!" then default else t

/-- The scalar of a text and its tag. -/
def scalarNode (tag : Option String) (text : Text) (plain : Bool) : Node :=
  match tag with
  | none => .scalar (if plain then plainTag text else textTag) text
  | some t => .scalar (if t = "!" then plainTag text else t) text

mutual

/-- A node. In a block, collections may be written in block style; `indentless` tells that a
sequence may stand at the indentation of the mapping around it. -/
def node : Nat → (block indentless : Bool) → Read Node
  | 0, block, _ => fault (.noContent block)
  | fuel + 1, block, indentless => do
    match ← peek with
    | .reference a =>
      let _ ← take
      match (← get).anchors.lookup a with
      | some n => return n
      | none => fault (.undefinedAlias a)
    | _ =>
      let (anchor, written) ← properties
      let tag ← wholeTag written
      let collection (default : String) (ofMap : Bool) (read : Read (String → Node)) :
          Read Node := do
        checkAnchor anchor
        mark anchor (.loop ofMap)
        let n := (← read) (collectionTag tag default)
        mark anchor n
        return n
      let asSequence (items : List Node) (t : String) : Node := .sequence t items
      let asMapping (entries : List (Node × Node)) (t : String) : Node := .ofEntries t entries
      match ← peek with
      | .scalar text plain =>
        let _ ← take
        checkAnchor anchor
        let n := scalarNode tag text plain
        mark anchor n
        return n
      | .flowSequenceStart =>
        collection sequenceTag false do
          let _ ← take
          return asSequence (← flowSequence fuel true [])
      | .flowMappingStart =>
        collection mappingTag true do
          let _ ← take
          return asMapping (← flowMapping fuel true [])
      | other =>
        if indentless && other = .blockEntry then
          collection sequenceTag false do return asSequence (← indentlessSequence fuel [])
        else if block && other = .blockSequenceStart then
          collection sequenceTag false do
            let _ ← take
            return asSequence (← blockSequence fuel [])
        else if block && other = .blockMappingStart then
          collection mappingTag true do
            let _ ← take
            return asMapping (← blockMapping fuel [])
        else if anchor.isSome || tag.isSome then
          checkAnchor anchor
          let n := scalarNode tag "" true
          mark anchor n
          return n
        else fault (.noContent block)

/-- The entries of a block sequence after those found, up to its end. -/
def blockSequence : Nat → List Node → Read (List Node)
  | 0, _ => fault .blockCollection
  | fuel + 1, found => do
    if ← accept .blockEntry then
      if ← comes [.blockEntry, .blockEnd] then blockSequence fuel (found ++ [.nothing])
      else
        let n ← node fuel true false
        blockSequence fuel (found ++ [n])
    else if ← accept .blockEnd then return found
    else fault .blockCollection

/-- The entries of a sequence that is not indented. -/
def indentlessSequence : Nat → List Node → Read (List Node)
  | 0, _ => fault .blockCollection
  | fuel + 1, found => do
    if ← accept .blockEntry then
      if ← comes [.blockEntry, .key, .value, .blockEnd] then
        indentlessSequence fuel (found ++ [.nothing])
      else
        let n ← node fuel true false
        indentlessSequence fuel (found ++ [n])
    else return found

/-- The entries of a block mapping after those found, up to its end. -/
def blockMapping : Nat → List (Node × Node) → Read (List (Node × Node))
  | 0, _ => fault .blockMapping
  | fuel + 1, found => do
    if ← accept .key then
      let key ← if ← comes [.key, .value, .blockEnd] then pure Node.nothing
        else node fuel true true
      let value ← if ← accept .value then
          if ← comes [.key, .value, .blockEnd] then pure Node.nothing else node fuel true true
        else pure Node.nothing
      blockMapping fuel (found ++ [(key, value)])
    else if ← accept .blockEnd then return found
    else fault .blockMapping

/-- The entries of a flow sequence after those found, up to its closing bracket. A pair among them
is a mapping of one entry. -/
def flowSequence : Nat → (first : Bool) → List Node → Read (List Node)
  | 0, _, _ => fault .flowSequence
  | fuel + 1, first, found => do
    if ← accept .flowSequenceEnd then return found
    else
      if !first then
        if !(← accept .flowEntry) then fault .flowSequence
      if ← accept .key then
        let key ← if ← comes [.value, .flowEntry, .flowSequenceEnd] then pure Node.nothing
          else node fuel false false
        let value ← if ← accept .value then
            if ← comes [.flowEntry, .flowSequenceEnd] then pure Node.nothing
            else node fuel false false
          else pure Node.nothing
        flowSequence fuel false (found ++ [.ofEntries mappingTag [(key, value)]])
      else if ← accept .flowSequenceEnd then return found
      else
        let n ← node fuel false false
        flowSequence fuel false (found ++ [n])

/-- The entries of a flow mapping after those found, up to its closing brace. -/
def flowMapping : Nat → (first : Bool) → List (Node × Node) → Read (List (Node × Node))
  | 0, _, _ => fault .flowMapping
  | fuel + 1, first, found => do
    if ← accept .flowMappingEnd then return found
    else
      if !first then
        if !(← accept .flowEntry) then fault .flowMapping
      if ← accept .key then
        let key ← if ← comes [.value, .flowEntry, .flowMappingEnd] then pure Node.nothing
          else node fuel false false
        let value ← if ← accept .value then
            if ← comes [.flowEntry, .flowMappingEnd] then pure Node.nothing
            else node fuel false false
          else pure Node.nothing
        flowMapping fuel false (found ++ [(key, value)])
      else if ← accept .flowMappingEnd then return found
      else
        let key ← node fuel false false
        flowMapping fuel false (found ++ [(key, .nothing)])

end

/-- Takes marks of the end of a document. -/
def skipDocumentEnds : Nat → Read Unit
  | 0 => return
  | fuel + 1 => do if ← accept .documentEnd then skipDocumentEnds fuel

/-- The handles that every document has. -/
def commonHandles : List (String × String) := [("!", "!"), ("!!", "tag:yaml.org,2002:")]

/-- Directives before a document; `versioned` tells that one of them gave a version. -/
def directives : Nat → (versioned : Bool) → Read Unit
  | 0, _ => return
  | fuel + 1, versioned => do
    match ← peek with
    | .directive d =>
      let _ ← take
      match d with
      | .version major _ =>
        if versioned then fault .secondVersion
        else if major ≠ 1 then fault .otherVersion
        else directives fuel true
      | .handle name expansion =>
        if ((← get).handles.lookup name).isSome then fault (.secondHandle name)
        else
          modify fun r => { r with handles := (name, expansion) :: r.handles }
          directives fuel versioned
      | .reserved => directives fuel versioned
    | _ => modify fun r => { r with handles := r.handles ++ commonHandles }

/-- The start of a document that is marked, or the end of the text; tells whether a document
starts. -/
def documentStart (fuel : Nat) : Read Bool := do
  skipDocumentEnds fuel
  if ← comes [.streamEnd] then return false
  else
    modify fun r => { r with handles := [] }
    directives fuel false
    match ← take with
    | .documentStart => return true
    | t => fault (.noDocumentStart t.name)

/-- Whether the document has no content. -/
def isBare : Read Bool := do
  match ← peek with
  | .directive _ => return true
  | .documentStart => return true
  | .documentEnd => return true
  | .streamEnd => return true
  | _ => return false

/-- Whether the first document is marked, or there is none. -/
def isMarked : Read Bool := do
  match ← peek with
  | .directive _ => return true
  | .documentStart => return true
  | .streamEnd => return true
  | _ => return false

/-- The only document, if there is one. -/
def single (fuel : Nat) : Read (Option Node) := do
  let content : Read (Option Node) := do
    if ← isMarked then
      if !(← documentStart fuel) then return none
      else if ← isBare then return some .nothing
      else return some (← node fuel true false)
    else
      modify fun r => { r with handles := commonHandles }
      return some (← node fuel true false)
  match ← content with
  | none => return none
  | some n =>
    let _ ← accept .documentEnd
    if ← documentStart fuel then fault .severalDocuments else return some n

end Read

/-- The node of the only document in a feed, if there is one. At most three calls come between two
tokens that are taken, which bounds the calls. -/
def Node.ofFeed (feed : Feed) : Except Refusal (Option Node) := do
  let (n, _) ← (Read.single (4 * feed.tokens.length + 8)).run { feed }
  return n

end MaskedReport.Document
