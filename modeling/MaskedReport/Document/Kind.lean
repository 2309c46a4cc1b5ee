import MaskedReport.Pattern

/-!
# Kinds of scalars

Tags name the kind of each node of a document. A plain scalar without a tag has the kind of the
first rule that its text follows, and is a text otherwise. A rule looks only at texts that start
with one of its characters.
-/

set_option autoImplicit false

namespace MaskedReport.Document

/-- The tag of a kind that all documents share. -/
def sharedTag (kind : String) : String := "tag:yaml.org,2002:" ++ kind

/-- Nothing. -/
def nullTag : String := sharedTag "null"
/-- Truth values. -/
def boolTag : String := sharedTag "bool"
/-- Whole numbers. -/
def intTag : String := sharedTag "int"
/-- Doubles. -/
def realTag : String := sharedTag "float"
/-- Bytes in base 64. -/
def bytesTag : String := sharedTag "binary"
/-- Dates and times. -/
def instantTag : String := sharedTag "timestamp"
/-- Texts. -/
def textTag : String := sharedTag "str"
/-- Sequences. -/
def sequenceTag : String := sharedTag "seq"
/-- Mappings. -/
def mappingTag : String := sharedTag "map"
/-- Sequences of single entries with keys in order. -/
def orderedMapTag : String := sharedTag "omap"
/-- Sequences of single entries. -/
def pairsTag : String := sharedTag "pairs"
/-- Mappings of which the keys count. -/
def setTag : String := sharedTag "set"
/-- The key whose value is merged into the mapping. -/
def mergeTag : String := sharedTag "merge"
/-- The key whose value stands for the mapping. -/
def valueTag : String := sharedTag "value"

/-- The syntax of a pattern text. A text that is no pattern gives a node that matches nothing. -/
def form (text : Text) : Pattern.Node :=
  match Pattern.read { verbose := true } text.toList with
  | .ok (_, node) => node
  | .error _ => .oneOf false []

/-- A rule for the kind of a plain scalar. `starts` are the characters that its texts start with;
`orEmpty` tells that it looks at the empty text too. -/
structure Rule where
  tag : String
  starts : String
  orEmpty : Bool := false
  node : Pattern.Node

/-- The rules in the order in which they are tried. -/
def rules : List Rule := [
  { tag := boolTag
    starts := "yYnNtTfFoO"
    node := form ("^(?:yes|Yes|YES|no|No|NO" ++
      "|true|True|TRUE|false|False|FALSE|on|On|ON|off|Off|OFF)$") },
  { tag := realTag
    starts := "-+0123456789."
    node := form ("^(?:[-+]?(?:[0-9][0-9_]*)\\.[0-9_]*(?:[eE][-+][0-9]+)?" ++
      "|\\.[0-9][0-9_]*(?:[eE][-+][0-9]+)?|[-+]?[0-9][0-9_]*(?::[0-5]?[0-9])+\\.[0-9_]*" ++
      "|[-+]?\\.(?:inf|Inf|INF)|\\.(?:nan|NaN|NAN))$") },
  { tag := intTag
    starts := "-+0123456789"
    node := form ("^(?:[-+]?0b[0-1_]+|[-+]?0[0-7_]+|[-+]?(?:0|[1-9][0-9_]*)" ++
      "|[-+]?0x[0-9a-fA-F_]+|[-+]?[1-9][0-9_]*(?::[0-5]?[0-9])+)$") },
  { tag := mergeTag, starts := "<", node := form "^(?:<<)$" },
  { tag := nullTag, starts := "~nN", orEmpty := true, node := form "^(?:~|null|Null|NULL|)$" },
  { tag := instantTag
    starts := "0123456789"
    node := form ("^(?:[0-9][0-9][0-9][0-9]-[0-9][0-9]-[0-9][0-9]" ++
      "|[0-9][0-9][0-9][0-9]-[0-9][0-9]?-[0-9][0-9]?(?:[Tt]|[ \\t]+)[0-9][0-9]?" ++
      ":[0-9][0-9]:[0-9][0-9](?:\\.[0-9]*)?" ++
      "(?:[ \\t]*(?:Z|[-+][0-9][0-9]?(?::[0-9][0-9])?))?)$") },
  { tag := valueTag, starts := "=", node := form "^(?:=)$" },
  { tag := sharedTag "yaml", starts := "!&*", node := form "^(?:!|&|\\*)$" }]

/-- Whether a text follows a rule. -/
def Rule.holds (r : Rule) (text : List Letter) : Bool :=
  (match text with
    | [] => r.orEmpty
    | c :: _ => r.starts.toList.any (c == .char ·)) &&
  (r.node.find { unicode := true } some (.start text)).isSome

/-- The tag of a plain scalar. -/
def plainTag (text : Text) : String :=
  match rules.find? (·.holds text.toList) with
  | some r => r.tag
  | none => textTag

end MaskedReport.Document
