import MaskedReport.Endpoint
import MaskedReport.Text.Numeral
import MaskedReport.Text.Quoted

/-!
# Command lines

A command line is words and options. A part that starts with a dash is an option if a grammar has
one of that spelling, or just one whose spelling it begins; a value may be attached to it after an
equals sign, or follow it as a word. After two dashes alone only words come. What a grammar has no
use for is left over. All parts are taken to be of characters.
-/

set_option autoImplicit false

namespace MaskedReport.Command

/-- An option. -/
inductive Switch where
  | help
  | config
  | logLevel
  | masking
  | maskPattern
  | noEnvironment
  | principal
  | port
  | host
  deriving DecidableEq, Inhabited

namespace Switch

/-- The spellings of an option, all of which messages name. -/
def spellings : Switch → List String
  | help => ["-h", "--help"]
  | config => ["--config"]
  | logLevel => ["--log-level"]
  | masking => ["--masking"]
  | maskPattern => ["--mask-pattern"]
  | noEnvironment => ["--no-environ"]
  | principal => ["--principal"]
  | port => ["--port"]
  | host => ["--host"]

/-- The option as messages name it. -/
def title (s : Switch) : String := "/".intercalate s.spellings

/-- Whether the option has a value. -/
def hasValue : Switch → Bool
  | help => false
  | noEnvironment => false
  | _ => true

end Switch

/-- What is wrong with a command line. -/
inductive Misuse where
  | ambiguous (given : String) (candidates : List String)
  /-- A value is attached to an option that has none. -/
  | valueIgnored (s : Switch) (value : String)
  | valueMissing (s : Switch)
  | notAChoice (title value : String) (choices : List String)
  | notWhole (s : Switch) (value : String)
  | wordMissing (title : String)
  | unrecognized (given : List String)
  deriving DecidableEq

/-- The message on a command line. -/
def Misuse.message : Misuse → String
  | ambiguous given candidates =>
    "ambiguous option: " ++ given ++ " could match " ++ ", ".intercalate candidates
  | valueIgnored s value =>
    "argument " ++ s.title ++ ": ignored explicit argument " ++ Quoted.text value
  | valueMissing s => "argument " ++ s.title ++ ": expected one argument"
  | notAChoice title value choices =>
    "argument " ++ title ++ ": invalid choice: " ++ Quoted.text value ++ " (choose from " ++
      ", ".intercalate (choices.map fun c : String => Quoted.text c) ++ ")"
  | notWhole s value => "argument " ++ s.title ++ ": invalid int value: " ++ Quoted.text value
  | wordMissing title => "the following arguments are required: " ++ title
  | unrecognized given => "unrecognized arguments: " ++ " ".intercalate given

/-- Why a command line is not carried out. -/
inductive Refusal where
  /-- It asks for help on a program. -/
  | help (program : String)
  | misused (program : String) (why : Misuse)
  deriving DecidableEq

/-- Names the program that a command line is wrong for. -/
def blame {α : Type} (program : String) : Except Misuse α → Except Refusal α
  | .ok a => .ok a
  | .error why => .error (.misused program why)

/-- The words that a grammar has a use for. -/
inductive Words where
  | none
  | one (title : String)
  /-- A word that begins a command line of its own. -/
  | command (title : String)
  deriving DecidableEq, Inhabited

/-- The words and options of a program. -/
structure Grammar where
  program : String
  switches : List Switch
  words : Words := .none

/-! ## The parts of a command line -/

/-- What a part is. -/
inductive Role where
  | word
  /-- Two dashes alone. -/
  | separator
  /-- An option, in a short spelling or not, with the value attached to it. -/
  | switch (s : Switch) (short : Bool) (attached : Option String)
  /-- An option that the grammar does not have. -/
  | unknown
  deriving DecidableEq, Inhabited

/-- A part of a command line. -/
structure Part where
  text : String
  role : Role
  deriving DecidableEq, Inhabited

/-- A text up to its first equals sign, and what follows that. -/
def splitValue (given : List Char) : List Char × Option (List Char) :=
  let start := given.takeWhile (· != '=')
  match given.drop start.length with
  | [] => (start, none)
  | _ :: value => (start, some value)

/-- Whether a text is a negative number; a line feed may end it. -/
def isNegativeNumber : List Char → Bool
  | '-' :: rest =>
    let rest := if rest.getLast? = some '\n' then rest.dropLast else rest
    let whole := rest.takeWhile fun c => CharClass.isDecimal c.toNat
    match rest.drop whole.length with
    | [] => !whole.isEmpty
    | '.' :: places => !places.isEmpty && places.all fun c => CharClass.isDecimal c.toNat
    | _ => false
  | _ => false

/-- Whether a spelling has one dash. -/
def isShort : List Char → Bool
  | '-' :: '-' :: _ => false
  | _ => true

namespace Grammar

/-- Every spelling with its option. -/
def spelled (g : Grammar) : List (List Char × Switch) :=
  g.switches.flatMap fun s => s.spellings.map fun t => (t.toList, s)

/-- The option of exactly the given spelling. -/
def withSpelling? (g : Grammar) (given : List Char) : Option Switch :=
  (g.spelled.find? fun x => x.1 == given).map (·.2)

/-- The spellings that a text may stand for, with their roles. After one dash a value may follow the
spelling at once. -/
def candidates (g : Grammar) (given : List Char) : List (List Char × Role) :=
  if isShort given then
    (g.spelled.filter fun x => x.1 == given.take 2).map fun x =>
      (x.1, .switch x.2 true (some (String.ofList (given.drop 2))))
  else
    let (start, value) := splitValue given
    (g.spelled.filter fun x => start.isPrefixOf x.1).map fun x =>
      (x.1, .switch x.2 false (value.map String.ofList))

/-- The role of a text that has more than a dash and starts with one. -/
def dashedRole (g : Grammar) (given : List Char) : Except Misuse Role :=
  match g.withSpelling? given with
  | some s => .ok (.switch s (isShort given) none)
  | none =>
    let (start, value) := splitValue given
    match g.withSpelling? start, value with
    | some s, some value => .ok (.switch s (isShort start) (some (String.ofList value)))
    | _, _ =>
      match g.candidates given with
      | [] => .ok (if isNegativeNumber given || given.contains ' ' then .word else .unknown)
      | [x] => .ok x.2
      | several =>
        .error (.ambiguous (String.ofList given) (several.map fun x => String.ofList x.1))

/-- The role of a text. -/
def roleOf (g : Grammar) (given : String) : Except Misuse Role :=
  match given.toList with
  | '-' :: c :: rest => g.dashedRole ('-' :: c :: rest)
  | _ => .ok .word

/-- The parts of a command line. -/
def parts (g : Grammar) : List String → Except Misuse (List Part)
  | [] => .ok []
  | given :: rest => do
    if given = "--" then
      return { text := given, role := .separator } :: rest.map fun t => { text := t, role := .word }
    else
      let role ← g.roleOf given
      return { text := given, role } :: (← g.parts rest)

end Grammar

/-! ## Reading a command line -/

/-- What a command line holds. -/
structure Reading where
  /-- The options in order, each with its value. -/
  values : List (Switch × Value) := []
  words : List String := []
  leftOver : List String := []

namespace Reading

/-- The reading with a value of an option before it. -/
def addValue (s : Switch) (v : Value) (r : Reading) : Reading :=
  { r with values := (s, v) :: r.values }

/-- The reading with a word before it. -/
def addWord (word : String) (r : Reading) : Reading := { r with words := word :: r.words }

/-- The reading with something left over before it. -/
def leave (given : String) (r : Reading) : Reading := { r with leftOver := given :: r.leftOver }

/-- The last value of an option. -/
def value? (r : Reading) (s : Switch) : Option Value :=
  (r.values.reverse.find? fun x => x.1 == s).map (·.2)

/-- All values of an option in order. -/
def valuesOf (r : Reading) (s : Switch) : List Value :=
  (r.values.filter fun x => x.1 == s).map (·.2)

end Reading

/-- The names of the masking modes. -/
def maskingChoices : List String := Mode.every.map Mode.name

/-- The value of an option as given. Two dashes, which can only be attached, give an empty list. -/
def valueOf (s : Switch) (given : String) : Except Misuse Value :=
  if given = "--" then .ok (.list [])
  else match s with
    | .masking =>
      if maskingChoices.contains given then .ok (.text given)
      else .error (.notAChoice s.title given maskingChoices)
    | .port =>
      match Numeral.readInt 10 given.toList with
      | .number i => .ok (.int i)
      | _ => .error (.notWhole s given)
    | _ => .ok (.text given)

/-- What becomes of an option without a value: help ends the reading. In a short spelling the letter
for help may be repeated. -/
def readFlag (program : String) (s : Switch) (short : Bool) (attached : Option String) :
    Except Refusal Value :=
  match s, attached with
  | .help, none => .error (.help program)
  | .help, some value =>
    let letters := if short then value.toList.dropWhile (· == 'h') else value.toList
    if letters.isEmpty && !value.isEmpty then .error (.help program)
    else .error (.misused program (.valueIgnored s (String.ofList letters)))
  | _, none => .ok (.bool true)
  | _, some value => .error (.misused program (.valueIgnored s value))

/-- Reads parts. The words are those still wanted; two dashes alone may stand before the word that
is wanted, or right after it has been taken. -/
def readParts (program : String) (words : Words) (taken : Bool) :
    List Part → Except Refusal Reading
  | [] => .ok {}
  | ⟨text, .unknown⟩ :: rest => do return (← readParts program words false rest).leave text
  | ⟨_, .switch s short attached⟩ :: rest =>
    if s.hasValue then
      match attached with
      | some given => do
        let v ← blame program (valueOf s given)
        return (← readParts program words false rest).addValue s v
      | none =>
        match rest with
        | ⟨given, .word⟩ :: more => do
          let v ← blame program (valueOf s given)
          return (← readParts program words false more).addValue s v
        | _ => .error (.misused program (.valueMissing s))
    else do
      let v ← readFlag program s short attached
      return (← readParts program words false rest).addValue s v
  | ⟨text, .word⟩ :: rest =>
    match words with
    | .none => do return (← readParts program .none false rest).leave text
    | .command _ => .ok { words := text :: rest.map Part.text }
    | .one _ => do return (← readParts program .none true rest).addWord text
  | ⟨text, .separator⟩ :: rest =>
    match words with
    | .none => do
      let r ← readParts program .none false rest
      return if taken then r else r.leave text
    | .command _ =>
      if rest.isEmpty then .ok { leftOver := [text] }
      else .ok { words := text :: rest.map Part.text }
    | .one title =>
      if rest.isEmpty then .ok { leftOver := [text] }
      else readParts program (.one title) false rest

/-- A line that lists the options and words of a program. -/
def Grammar.usage (g : Grammar) : String :=
  let optional (s : Switch) : String :=
    "[" ++ s.spellings.head?.getD "" ++ (if s.hasValue then " VALUE]" else "]")
  let words := match g.words with
    | .none => []
    | .one title => [title]
    | .command title => [title, "..."]
  " ".intercalate ("usage:" :: g.program :: (g.switches.map optional ++ words))

/-- Reads a command line. -/
def Grammar.read (g : Grammar) (args : List String) : Except Refusal Reading := do
  let parts ← blame g.program (g.parts args)
  let r ← readParts g.program g.words false parts
  match g.words with
  | .none => return r
  | .one title | .command title =>
    if r.words.isEmpty then throw (.misused g.program (.wordMissing title)) else return r

end MaskedReport.Command
