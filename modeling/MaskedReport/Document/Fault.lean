import MaskedReport.Text.Quoted

/-!
# Faults of documents

Why a text is not a document, or a document has no value. Each fault belongs to the stage of reading
that finds it, and has the headline of its message.
-/

set_option autoImplicit false

namespace MaskedReport.Document

/-- The stages of reading a document: characters, tokens, events, nodes, values. -/
inductive Stage where
  | characters
  | tokens
  | events
  | nodes
  | values
  deriving DecidableEq

/-- What a text that should hold a tag belongs to. -/
inductive TagPlace where
  | tag
  | directive
  deriving DecidableEq

/-- Why a document cannot be read. -/
inductive Fault where
  | unacceptable (c : Nat)
  | nextToken
  | simpleKey
  | entryNotAllowed
  | keyNotAllowed
  | valueNotAllowed
  | directive
  | anchor
  | aliasName
  | tag
  /-- A malformed handle or percent code. -/
  | tagHandle (place : TagPlace)
  | tagText (place : TagPlace)
  | blockScalar
  | doubleQuoted
  | quoted
  | noDocumentStart (found : String)
  | secondVersion
  | otherVersion
  | secondHandle (handle : String)
  | undefinedHandle
  | noContent (block : Bool)
  | blockCollection
  | blockMapping
  | flowSequence
  | flowMapping
  | severalDocuments
  | undefinedAlias (name : String)
  | secondAnchor (name : String)
  | mapping
  | orderedMap
  | pairs
  | unknownTag (tag : String)
  | otherNode (wanted found : String)
  /-- A run of letters outside ASCII in encoded bytes; the first of them, and the positions of the
  first and the last. -/
  | notAscii (first : Letter) (start stop : Nat)
  | padding
  /-- Encoded bytes with a character too many. -/
  | danglingCharacter (count : Nat)
  deriving DecidableEq

namespace Fault

/-- The stage at which a fault is found. -/
def stage : Fault → Stage
  | unacceptable _ => .characters
  | nextToken | simpleKey | entryNotAllowed | keyNotAllowed | valueNotAllowed | directive | anchor
  | aliasName | tag | tagHandle _ | tagText _ | blockScalar | doubleQuoted | quoted => .tokens
  | noDocumentStart _ | secondVersion | otherVersion | secondHandle _ | undefinedHandle
  | noContent _ | blockCollection | blockMapping | flowSequence | flowMapping => .events
  | severalDocuments | undefinedAlias _ | secondAnchor _ => .nodes
  | mapping | orderedMap | pairs | unknownTag _ | otherNode _ _ | notAscii _ _ _ | padding
  | danglingCharacter _ => .values

/-- What messages call the place of a tag. -/
def placeName : TagPlace → String
  | .tag => "tag"
  | .directive => "directive"

/-- The code of a letter. -/
def code (n : Nat) : List Char :=
  if n < 0x100 then '\\' :: 'x' :: Quoted.hex 2 n
  else if n < 0x10000 then '\\' :: 'u' :: Quoted.hex 4 n
  else '\\' :: 'U' :: Quoted.hex 8 n

/-- The first line of the message: what was being read, or else what is wrong. -/
def headline : Fault → String
  | unacceptable c =>
    "unacceptable character #x" ++ String.ofList (Quoted.hex 4 c) ++
      ": special characters are not allowed"
  | nextToken => "while scanning for the next token"
  | simpleKey => "while scanning a simple key"
  | entryNotAllowed => "sequence entries are not allowed here"
  | keyNotAllowed => "mapping keys are not allowed here"
  | valueNotAllowed => "mapping values are not allowed here"
  | directive => "while scanning a directive"
  | anchor => "while scanning an anchor"
  | aliasName => "while scanning an alias"
  | tag => "while scanning a tag"
  | tagHandle place => "while scanning a " ++ placeName place
  | tagText place => "while parsing a " ++ placeName place
  | blockScalar => "while scanning a block scalar"
  | doubleQuoted => "while scanning a double-quoted scalar"
  | quoted => "while scanning a quoted scalar"
  | noDocumentStart found => "expected '<document start>', but found " ++ Quoted.text found
  | secondVersion => "found duplicate YAML directive"
  | otherVersion => "found incompatible YAML document (version 1.* is required)"
  | secondHandle handle => "duplicate tag handle " ++ Quoted.text handle
  | undefinedHandle => "while parsing a node"
  | noContent block => "while parsing a " ++ (if block then "block" else "flow") ++ " node"
  | blockCollection => "while parsing a block collection"
  | blockMapping => "while parsing a block mapping"
  | flowSequence => "while parsing a flow sequence"
  | flowMapping => "while parsing a flow mapping"
  | severalDocuments => "expected a single document in the stream"
  | undefinedAlias name => "found undefined alias " ++ Quoted.text name
  | secondAnchor name => "found duplicate anchor " ++ Quoted.text name ++ "; first occurrence"
  | mapping => "while constructing a mapping"
  | orderedMap => "while constructing an ordered map"
  | pairs => "while constructing pairs"
  | unknownTag name => "could not determine a constructor for the tag " ++ Quoted.text name
  | otherNode wanted found => "expected a " ++ wanted ++ " node, but found " ++ found
  | notAscii first start stop =>
    "failed to convert base64 data into ascii: 'ascii' codec can't encode " ++
      (if start = stop then
        "character '" ++ String.ofList (code first.code) ++ "' in position " ++ toString start
       else "characters in position " ++ toString start ++ "-" ++ toString stop) ++
      ": ordinal not in range(128)"
  | padding => "failed to decode base64 data: Incorrect padding"
  | danglingCharacter count =>
    "failed to decode base64 data: Invalid base64-encoded string: number of data characters (" ++
      toString count ++ ") cannot be 1 more than a multiple of 4"

end Fault

/-- Why a scalar of a document has no value of the kind it announces. -/
inductive ScalarFault where
  /-- A word that is neither true nor false. -/
  | notBoolean (word : Text)
  | noNumber
  | malformedInteger (base : Nat) (numeral : Text)
  | malformedReal (numeral : Text)
  | numeralTooLong (digits : Nat)
  /-- A place of base sixty that counts more than any double. -/
  | placeTooLarge
  | notInstant
  /-- A date or time that is announced for a mapping. -/
  | instantOfMapping
  | codePoint
  | codeOverflow
  deriving DecidableEq

end MaskedReport.Document
