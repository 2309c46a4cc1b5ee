import MaskedReport.Text.Letter

/-!
# Tokens

The pieces that a document is made of.
-/

set_option autoImplicit false

namespace MaskedReport.Document

/-- A tag as written: a handle with what follows it, or a whole tag. -/
structure WrittenTag where
  handle : Option String
  suffix : String
  deriving DecidableEq

/-- What a directive says. -/
inductive Directive where
  | version (major minor : Nat)
  | handle (name expansion : String)
  /-- A directive that means nothing. -/
  | reserved
  deriving DecidableEq

/-- A token of a document. -/
inductive Token where
  | directive (d : Directive)
  | documentStart
  | documentEnd
  | streamEnd
  | blockSequenceStart
  | blockMappingStart
  | blockEnd
  | flowSequenceStart
  | flowMappingStart
  | flowSequenceEnd
  | flowMappingEnd
  | key
  | value
  | blockEntry
  | flowEntry
  | reference (name : String)
  | anchor (name : String)
  | tag (t : WrittenTag)
  | scalar (text : Text) (plain : Bool)
  deriving DecidableEq

namespace Token

/-- The name of a token in messages. -/
def name : Token → String
  | directive _ => "<directive>"
  | documentStart => "<document start>"
  | documentEnd => "<document end>"
  | streamEnd => "<stream end>"
  | blockSequenceStart => "<block sequence start>"
  | blockMappingStart => "<block mapping start>"
  | blockEnd => "<block end>"
  | flowSequenceStart => "["
  | flowMappingStart => "\x7b"
  | flowSequenceEnd => "]"
  | flowMappingEnd => "\x7d"
  | key => "?"
  | value => ":"
  | blockEntry => "-"
  | flowEntry => ","
  | reference _ => "<alias>"
  | anchor _ => "<anchor>"
  | tag _ => "<tag>"
  | scalar _ _ => "<scalar>"

end Token

end MaskedReport.Document
