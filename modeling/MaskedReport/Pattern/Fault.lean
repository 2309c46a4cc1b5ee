import MaskedReport.Text.Quoted

/-!
# Faults of patterns

Why a text is not a pattern, and the wording of each cause. A fault has a place in the pattern; in
a pattern of several lines the message also tells line and column.
-/

set_option autoImplicit false

namespace MaskedReport.Pattern

/-- Why a text is not a pattern. -/
inductive Fault where
  | escapeAtEnd
  | badEscape (escape : String)
  | incompleteEscape (escape : String)
  | octalRange (escape : String)
  | missingBrace
  | missingName (what : String)
  | unterminatedName (closing : Char)
  | undefinedCharacter (name : Text)
  | openGroup
  | noSuchGroup (group : Nat)
  | sameLookBehind
  | unterminatedSet
  | badRange (first last : Text)
  | minAboveMax
  | nothingToRepeat
  | multipleRepeat
  | unexpectedEnd
  | badGroupName (name : Text)
  | badGroupNumber
  | unknownGroupName (name : Text)
  | groupRedefined (name : Text) (group earlier : Nat)
  | unknownExtension (extension : Text)
  | unterminatedComment
  | unterminatedGroup
  | twoBranches
  | flagsNotFirst
  | localeFlag
  | incompatibleFlags
  | missingFlagEnd
  | missingFlag
  | missingColon
  | unknownFlag
  | cannotTurnOn
  | cannotTurnOff
  | turnedOnAndOff
  | classFlagOff
  | unbalanced
  | lookBehindWidth
  /-- A repetition in a template, which takes none; `kind` names its mode. -/
  | templateRepetition (kind : String)
  deriving DecidableEq

/-- The message on a fault, without its place. -/
def Fault.message : Fault → String
  | escapeAtEnd => "bad escape (end of pattern)"
  | badEscape e => "bad escape " ++ e
  | incompleteEscape e => "incomplete escape " ++ e
  | octalRange e => "octal escape value " ++ e ++ " outside of range 0-0o377"
  | missingBrace => "missing \x7b"
  | missingName what => "missing " ++ what
  | unterminatedName c => "missing " ++ String.singleton c ++ ", unterminated name"
  | undefinedCharacter name => "undefined character name " ++ Quoted.text name
  | openGroup => "cannot refer to an open group"
  | noSuchGroup g => "invalid group reference " ++ toString g
  | sameLookBehind => "cannot refer to group defined in the same lookbehind subpattern"
  | unterminatedSet => "unterminated character set"
  | badRange a b => "bad character range " ++ Quoted.bare a ++ "-" ++ Quoted.bare b
  | minAboveMax => "min repeat greater than max repeat"
  | nothingToRepeat => "nothing to repeat"
  | multipleRepeat => "multiple repeat"
  | unexpectedEnd => "unexpected end of pattern"
  | badGroupName name => "bad character in group name " ++ Quoted.text name
  | badGroupNumber => "bad group number"
  | unknownGroupName name => "unknown group name " ++ Quoted.text name
  | groupRedefined name g earlier =>
    "redefinition of group name " ++ Quoted.text name ++ " as group " ++ toString g ++
      "; was group " ++ toString earlier
  | unknownExtension e => "unknown extension " ++ Quoted.bare e
  | unterminatedComment => "missing ), unterminated comment"
  | unterminatedGroup => "missing ), unterminated subpattern"
  | twoBranches => "conditional backref with more than two branches"
  | flagsNotFirst => "global flags not at the start of the expression"
  | localeFlag => "bad inline flags: cannot use 'L' flag with a str pattern"
  | incompatibleFlags => "bad inline flags: flags 'a', 'u' and 'L' are incompatible"
  | missingFlagEnd => "missing -, : or )"
  | missingFlag => "missing flag"
  | missingColon => "missing :"
  | unknownFlag => "unknown flag"
  | cannotTurnOn => "bad inline flags: cannot turn on global flag"
  | cannotTurnOff => "bad inline flags: cannot turn off global flag"
  | turnedOnAndOff => "bad inline flags: flag turned on and off"
  | classFlagOff => "bad inline flags: cannot turn off flags 'a', 'u' and 'L'"
  | unbalanced => "unbalanced parenthesis"
  | lookBehindWidth => "look-behind requires fixed-width pattern"
  | templateRepetition kind => "internal: unsupported template operator " ++ kind

/-- Why reading a pattern stops. Only the first is a fault of the pattern's form. -/
inductive Refusal where
  | malformed (fault : Fault) (position : Option Nat)
  /-- A repetition bound too large to be counted. -/
  | repetitionTooLarge
  /-- Flags for both choices of character classes. -/
  | flagsConflict
  /-- A repetition bound of more digits than are converted. -/
  | numeralTooLong (digits : Nat)
  deriving DecidableEq

/-- The line and column of a position, both counted from one. -/
def lineAndColumn (pattern : List Letter) (position : Nat) : Nat × Nat :=
  let before := pattern.take position
  (before.count (.char '\n') + 1, (before.reverse.takeWhile (· != .char '\n')).length + 1)

/-- A fault with its place in the pattern. -/
def Fault.located (pattern : List Letter) (fault : Fault) : Option Nat → String
  | none => fault.message
  | some p =>
    fault.message ++ " at position " ++ toString p ++
      (if pattern.contains (.char '\n') then
        let (line, column) := lineAndColumn pattern p
        " (line " ++ toString line ++ ", column " ++ toString column ++ ")"
       else "")

end MaskedReport.Pattern
