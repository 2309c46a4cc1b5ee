import MaskedReport.Pattern.Matching
import MaskedReport.Pattern.Reader

/-!
# Compiled patterns

A pattern with its text and flags. A pattern matches a text only as a whole.
-/

set_option autoImplicit false

namespace MaskedReport

/-- A pattern that has been read. -/
structure Pattern where
  text : Text
  flags : Pattern.Flags
  node : Pattern.Node
  deriving DecidableEq, Inhabited

namespace Pattern

/-- Reads a pattern under the given flags. -/
def compile (flags : Flags) (text : Text) : Except Refusal Pattern := do
  let (flags, node) ← read flags text.toList
  return { text, flags, node }

/-- Whether the pattern matches the whole text. -/
def matchesAll (p : Pattern) (s : Text) : Bool := p.node.takesAll p.flags s.toList

/-- The names of the flags in messages. Unicode classes go without saying. -/
def flagNames (f : Flags) : List String :=
  (if f.template then ["re.TEMPLATE"] else []) ++
    (if f.ignoreCase then ["re.IGNORECASE"] else []) ++
    (if f.multiLine then ["re.MULTILINE"] else []) ++ (if f.dotAll then ["re.DOTALL"] else []) ++
    (if f.verbose then ["re.VERBOSE"] else []) ++ (if f.ascii then ["re.ASCII"] else [])

/-- A compiled pattern as messages show it: at most 200 characters of its quoted text, and its
flags. -/
def shownWith (quoted : String) (names : List String) : String :=
  "re.compile(" ++ String.ofList (quoted.toList.take 200) ++
    (if names.isEmpty then "" else ", " ++ "|".intercalate names) ++ ")"

/-- The pattern as messages show it. -/
def shown (p : Pattern) : String := shownWith (Quoted.text p.text) (flagNames p.flags)

end Pattern

end MaskedReport
