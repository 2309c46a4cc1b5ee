import MaskedReport.Pattern.Syntax
import MaskedReport.Pattern.Fault
import MaskedReport.Text.Identifier
import MaskedReport.Text.CharName
import MaskedReport.Text.Numeral

/-!
# Reading patterns

A pattern text is cut into pieces, each a letter or a backslash with the letter after it, and read
by recursive descent with one piece of look-ahead. What has a meaning of its own is a character;
half of a surrogate pair stands for itself. `Pattern.read` is the entry point; its fuel
is a multiple of the number of pieces, because at most three nested calls pass before a piece is
taken. There is no limit to how deep groups may be nested: a pattern is read here however deep it
is, where an interpreter with a bounded stack gives up.
-/

set_option autoImplicit false

namespace MaskedReport.Pattern

/-- A letter, or a backslash with a letter. -/
inductive Piece where
  | plain (c : Letter)
  | escaped (c : Letter)
  deriving DecidableEq

namespace Piece

/-- The letters of a piece. -/
def letters : Piece → List Letter
  | plain c => [c]
  | escaped c => [.char '\\', c]

/-- The number of letters of a piece. -/
def size : Piece → Nat
  | plain _ => 1
  | escaped _ => 2

/-- Cuts a text into pieces; tells also whether a backslash is left over at the end. -/
def cut : List Letter → List Piece × Bool
  | [] => ([], false)
  | [.char '\\'] => ([], true)
  | .char '\\' :: c :: rest =>
    let (ps, dangling) := cut rest
    (escaped c :: ps, dangling)
  | c :: rest =>
    let (ps, dangling) := cut rest
    (plain c :: ps, dangling)

end Piece

/-- Where reading stands: the pieces to come with their position, and what is known of flags and
groups. `widths` has an entry for each group, empty while the group is open. `behindFrom` is the
number of groups at the start of the outermost look behind that is being read. -/
structure Reading where
  pieces : List Piece
  position : Nat
  dangling : Bool
  flags : Flags
  widths : List (Option (Nat × Nat)) := []
  names : List (List Letter × Nat) := []
  behindFrom : Option Nat := none
  /-- Groups that conditions name by number, with the place of the first mention. -/
  mentioned : List (Nat × Nat) := []

/-- A step of reading a pattern. -/
abbrev Read := StateT Reading (Except Refusal)

namespace Read

/-- Refuses the pattern with a fault `back` letters before the present place. -/
def fault {α : Type} (f : Fault) (back : Nat) : Read α := fun r =>
  .error (.malformed f (some (r.position - back)))

/-- The piece to come. -/
def peek : Read (Option Piece) := fun r => .ok (r.pieces.head?, r)

/-- The present position. -/
def position : Read Nat := fun r => .ok (r.position, r)

/-- Takes a piece. The look-ahead refuses a backslash with nothing after it as soon as it comes into
view. -/
def take : Read (Option Piece) := fun r =>
  match r.pieces with
  | [] => .ok (none, r)
  | p :: rest =>
    let here := r.position + p.size
    if rest.isEmpty && r.dangling then .error (.malformed .escapeAtEnd (some here))
    else .ok (some p, { r with pieces := rest, position := here })

/-- Takes the character if it comes next. -/
def accept (c : Char) : Read Bool := do
  if (← peek) = some (.plain c) then
    let _ ← take
    return true
  else return false

/-- Takes up to `n` characters that satisfy the test. -/
def takeUpTo (test : Char → Bool) : Nat → Read (List Char)
  | 0 => return []
  | n + 1 => do
    match ← peek with
    | some (.plain (.char c)) =>
      if test c then
        let _ ← take
        return c :: (← takeUpTo test n)
      else return []
    | _ => return []

/-- Takes all characters that satisfy the test. -/
def takeWhile (test : Char → Bool) : Read (List Char) := do
  takeUpTo test (← get).pieces.length

/-- Takes pieces until the closing character; `fuel` bounds their number. -/
def untilClosing (closing : Char) (what : String) : Nat → List Letter → Read (List Letter)
  | 0, _ => fault (.missingName what) 0
  | fuel + 1, found => do
    match ← take with
    | none =>
      if found.isEmpty then fault (.missingName what) 0
      else fault (.unterminatedName closing) found.length
    | some p =>
      if p = .plain closing then
        if found.isEmpty then fault (.missingName what) 1 else return found
      else untilClosing closing what fuel (found ++ p.letters)

/-- Takes a name up to its closing character. -/
def name (closing : Char) (what : String) : Read (List Letter) := do
  untilClosing closing what ((← get).pieces.length + 1) []

/-- Whether a group is closed. -/
def isClosed (group : Nat) : Read Bool := do
  if group = 0 then return false
  else return (((← get).widths[group - 1]?).bind id).isSome

/-- Refuses a reference from a look behind to a group that it holds. -/
def checkBehind (group : Nat) : Read Unit := do
  match (← get).behindFrom with
  | none => return
  | some first =>
    if !(← isClosed group) then fault .openGroup 0
    else if first < group then fault .sameLookBehind 0

end Read

open Read

/-- The number that digits stand for. -/
def number (base : Nat) (digits : List Char) : Nat :=
  Numeral.value base (digits.filterMap Numeral.digitValue?)

/-- The character that a simple escape stands for. -/
def controlEscape? : Char → Option Nat
  | 'a' => some 7
  | 'f' => some 12
  | 'n' => some 10
  | 'r' => some 13
  | 't' => some 9
  | 'v' => some 11
  | '\\' => some 92
  | _ => none

/-- The class that an escape stands for. -/
def kindEscape? : Char → Option (CharKind × Bool)
  | 'd' => some (.digit, false)
  | 'D' => some (.digit, true)
  | 's' => some (.blank, false)
  | 'S' => some (.blank, true)
  | 'w' => some (.word, false)
  | 'W' => some (.word, true)
  | _ => none

/-- The anchor that an escape stands for. -/
def anchorEscape? : Char → Option Anchor
  | 'A' => some .textStart
  | 'Z' => some .textEnd
  | 'b' => some .boundary
  | 'B' => some .notBoundary
  | _ => none

/-- A code point given by exactly `digits` hexadecimal digits. -/
def hexEscape (c : Char) (digits : Nat) : Read Nat := do
  let ds ← takeUpTo Ascii.isHexDigit digits
  let escape := '\\' :: c :: ds
  if ds.length ≠ digits then
    fault (.incompleteEscape (String.ofList escape)) escape.length
  else
    let n := number 16 ds
    if 0x10FFFF < n then fault (.badEscape (String.ofList escape)) escape.length
    else return n

/-- A code point given by the name of its character. A name that is not all characters cannot be
looked up, which refuses the escape itself. -/
def namedEscape : Read Nat := do
  if !(← accept '\x7b') then fault .missingBrace 0
  else
    let letters ← name '\x7d' "character name"
    match Text.charsOf? letters with
    | none => fault (.badEscape "\\N") 2
    | some chars =>
      match CharName.lookup? (String.ofList chars) with
      | some n => return n
      | none => fault (.undefinedCharacter (.ofList letters)) (letters.length + 4)

/-- A code point given by a letter escape that is the same inside and outside sets. -/
def codeEscape? (c : Char) : Option (Read Nat) :=
  if c = 'x' then some (hexEscape c 2)
  else if c = 'u' then some (hexEscape c 4)
  else if c = 'U' then some (hexEscape c 8)
  else if c = 'N' then some namedEscape
  else none

/-- Refuses an unknown escape, or takes the character for itself. -/
def plainEscape (c : Char) : Read Nat :=
  if Ascii.isLetter c || Ascii.isDigit c then
    fault (.badEscape (String.ofList ['\\', c])) 2
  else return c.toNat

/-- An escape in a character set, its backslash and character taken. -/
def setEscape (c : Char) : Read Member := do
  if c = 'b' then return .single 8
  else match controlEscape? c, kindEscape? c, codeEscape? c with
    | some n, _, _ => return .single n
    | _, some (k, negated), _ => return .kind k negated
    | _, _, some code => return .single (← code)
    | none, none, none =>
      if Ascii.isOctalDigit c then
        let ds := c :: (← takeUpTo Ascii.isOctalDigit 2)
        let n := number 8 ds
        if 0o377 < n then
          fault (.octalRange (String.ofList ('\\' :: ds))) (ds.length + 1)
        else return .single n
      else return .single (← plainEscape c)

/-- A reference to a group by its number. -/
def groupEscape (ds : List Char) : Read Node := do
  let group := number 10 ds
  if group ≤ (← get).widths.length then
    if !(← isClosed group) then fault .openGroup (ds.length + 1)
    else
      checkBehind group
      return .reference group
  else fault (.noSuchGroup group) ds.length

/-- An escape that starts with a digit other than zero: a group, or three octal digits. -/
def digitEscape (c : Char) : Read Node := do
  match ← peek with
  | some (.plain (.char d)) =>
    if Ascii.isDigit d then
      let _ ← Read.take
      let third ← peek
      match third with
      | some (.plain (.char e)) =>
        if Ascii.isOctalDigit c && Ascii.isOctalDigit d && Ascii.isOctalDigit e then
          let _ ← Read.take
          let n := number 8 [c, d, e]
          if 0o377 < n then fault (.octalRange (String.ofList ['\\', c, d, e])) 4
          else return .char n
        else groupEscape [c, d]
      | _ => groupEscape [c, d]
    else groupEscape [c]
  | _ => groupEscape [c]

/-- An escape outside character sets, its backslash and character taken. -/
def escape (c : Char) : Read Node := do
  match anchorEscape? c, controlEscape? c, kindEscape? c, codeEscape? c with
  | some a, _, _, _ => return .anchor a
  | _, some n, _, _ => return .char n
  | _, _, some (k, negated), _ => return .oneOf false [.kind k negated]
  | _, _, _, some code => return .char (← code)
  | none, none, none, none =>
    if c = '0' then return .char (number 8 ('0' :: (← takeUpTo Ascii.isOctalDigit 2)))
    else if Ascii.isDigit c then digitEscape c
    else return .char (← plainEscape c)

/-- What stands after a backslash outside character sets: an escape, or half of a pair. -/
def escaped : Letter → Read Node
  | .char c => escape c
  | .lone h => return .char h.code

/-- One member of a set as written, from its first piece. -/
def setMember (p : Piece) : Read Member :=
  match p with
  | .escaped (.char c) => setEscape c
  | .escaped (.lone h) => return .single h.code
  | .plain c => return .single c.code

/-- The members of a set up to its closing bracket; `here` is the position of the opening one. -/
def setMembers (here : Nat) : Nat → List Member → Read (List Member)
  | 0, _ => fault .unterminatedSet 0
  | fuel + 1, found => do
    let unterminated {α : Type} : Read α := do fault .unterminatedSet ((← Read.position) - here)
    match ← Read.take with
    | none => unterminated
    | some this =>
      if this = .plain ']' ∧ found ≠ [] then return found
      else
        let first ← setMember this
        if ← accept '-' then
          match ← Read.take with
          | none => unterminated
          | some that =>
            if that = .plain ']' then return found ++ [first, .single 45]
            else
              let last ← setMember that
              let bad : Read (List Member) :=
                fault (.badRange (.ofList this.letters) (.ofList that.letters))
                  (this.size + 1 + that.size)
              match first, last with
              | .single lo, .single hi =>
                if hi < lo then bad else setMembers here fuel (found ++ [.range lo hi])
              | _, _ => bad
        else setMembers here fuel (found ++ [first])

/-- A character set, its opening bracket taken. A set of one character is that character. -/
def charSet : Read Node := do
  let here := (← Read.position) - 1
  let negated ← accept '^'
  let members ← setMembers here ((← get).pieces.length + 1) []
  match members with
  | [.single c] => return if negated then .notChar c else .char c
  | _ => return .oneOf negated members

/-- A repetition bound. -/
def bound (digits : List Char) : Read (Option Nat) :=
  if digits.isEmpty then return none
  else if Numeral.digitLimit < digits.length then
    fun _ => .error (.numeralTooLong digits.length)
  else
    let n := number 10 digits
    if Node.unbounded ≤ n then fun _ => .error .repetitionTooLarge else return some n

/-- The bounds of a repetition by its sign, which is taken; none if braces turn out to be plain
characters. -/
def bounds (sign : Char) : Read (Option (Nat × Option Nat)) := do
  if sign = '?' then return some (0, some 1)
  else if sign = '*' then return some (0, none)
  else if sign = '+' then return some (1, none)
  else if (← peek) = some (.plain '\x7d') then return none
  else
    let start ← get
    let lo ← Read.takeWhile Ascii.isDigit
    let hi ← if ← accept ',' then Read.takeWhile Ascii.isDigit else pure lo
    if !(← accept '\x7d') then
      set { (← get) with pieces := start.pieces, position := start.position }
      return none
    else
      let least ← bound lo
      let most ← bound hi
      match most with
      | some m =>
        if m < least.getD 0 then fault .minAboveMax ((← Read.position) - start.position)
        else return some (least.getD 0, some m)
      | none => return some (least.getD 0, none)

/-- The mode of a repetition, by the sign after it. -/
def repetitionMode : Read Mode := do
  if ← accept '?' then return .lazy
  else if ← accept '+' then return .possessive
  else return .greedy

/-- Repeats the last item; `here` is the position after the sign. -/
def repeatLast (here : Nat) (least : Nat) (most : Option Nat) (items : List Node) :
    Read (List Node) := do
  let back := (← Read.position) - here + 1
  match items.getLast? with
  | none => fault .nothingToRepeat back
  | some (.anchor _) => fault .nothingToRepeat back
  | some (.rounds ..) => fault .multipleRepeat back
  | some item =>
    let mode ← repetitionMode
    return items.dropLast ++ [.rounds mode least most item]

/-- The flag that a letter stands for. -/
def flag? : Char → Option Flags
  | 'i' => some { ignoreCase := true }
  | 'm' => some { multiLine := true }
  | 's' => some { dotAll := true }
  | 'x' => some { verbose := true }
  | 'a' => some { ascii := true }
  | 'u' => some { unicode := true }
  | 't' => some { template := true }
  | _ => none

/-- Whether a letter stands for a flag, one for other kinds of patterns included. -/
def isFlagLetter (c : Char) : Bool := c = 'L' || (flag? c).isSome

/-- Refuses the piece where a flag should stand. -/
def notAFlag {α : Type} (p : Piece) (other : Fault) : Read α :=
  match p with
  | .plain c =>
    if CharClass.isAlphabetic c.code then fault .unknownFlag 1 else fault other 1
  | .escaped _ => fault other 2

/-- Flags to turn on, from the first letter, with the character that ends them. -/
def flagsOn : Nat → Char → Flags → Read (Flags × Char)
  | 0, _, _ => fault .missingFlagEnd 0
  | fuel + 1, c, on => do
    match flag? c with
    | none => fault .localeFlag 0
    | some f =>
      let on := on.union f
      if (f.ascii || f.unicode) && (on.ascii && on.unicode) then fault .incompatibleFlags 0
      else match ← Read.take with
        | none => fault .missingFlagEnd 0
        | some (.plain (.char d)) =>
          if d = ')' ∨ d = '-' ∨ d = ':' then return (on, d)
          else if isFlagLetter d then flagsOn fuel d on
          else notAFlag (.plain (.char d)) .missingFlagEnd
        | some p => notAFlag p .missingFlagEnd

/-- Flags to turn off, from the first letter up to the colon. -/
def flagsOff : Nat → Char → Flags → Read Flags
  | 0, _, _ => fault .missingColon 0
  | fuel + 1, c, off => do
    match flag? c with
    | none => fault .classFlagOff 0
    | some f =>
      if f.ascii || f.unicode then fault .classFlagOff 0
      else
        let off := off.union f
        match ← Read.take with
        | none => fault .missingColon 0
        | some (.plain (.char d)) =>
          if d = ':' then return off
          else if isFlagLetter d then flagsOff fuel d off
          else notAFlag (.plain (.char d)) .missingColon
        | some p => notAFlag p .missingColon

/-- The flags of a group from their first character; none if they hold for the whole pattern and
are set. -/
def groupFlags (c : Char) : Read (Option (Flags × Flags)) := do
  let fuel := (← get).pieces.length + 1
  let (on, closing) ← if c = '-' then pure (({} : Flags), '-') else flagsOn fuel c {}
  if closing = ')' then
    modify fun r => { r with flags := r.flags.union on }
    return none
  else if on.template then fault .cannotTurnOn 1
  else
    let off ← if closing = '-' then
        match ← Read.take with
        | none => fault .missingFlag 0
        | some (.plain (.char d)) =>
          if isFlagLetter d then flagsOff fuel d {} else notAFlag (.plain (.char d)) .missingFlag
        | some p => notAFlag p .missingFlag
      else pure ({} : Flags)
    if off.template then fault .cannotTurnOff 1
    else if on.meets off then fault .turnedOnAndOff 1
    else return some (on, off)

/-- Skips a comment up to its closing parenthesis. -/
def groupComment (start : Nat) : Nat → Read Unit
  | 0 => fault .unterminatedComment 0
  | fuel + 1 => do
    match ← Read.take with
    | none => fault .unterminatedComment ((← Read.position) - start)
    | some p => if p = .plain ')' then return else groupComment start fuel

/-- Skips the rest of the line. -/
def lineComment : Nat → Read Unit
  | 0 => return
  | fuel + 1 => do
    match ← Read.take with
    | none => return
    | some p => if p = .plain '\n' then return else lineComment fuel

/-- Whether letters are an identifier. -/
def isIdentifier (letters : List Letter) : Bool :=
  (Text.charsOf? letters).any CharClass.isIdentifier

/-- Refuses a name that is no identifier; its closing character is taken. -/
def checkName (letters : List Letter) : Read Unit :=
  if isIdentifier letters then return
  else fault (.badGroupName (.ofList letters)) (letters.length + 1)

/-- Opens a group and gives its number. -/
def openGroup (groupName : Option (List Letter)) : Read Nat := do
  let r ← get
  let group := r.widths.length + 1
  match groupName with
  | none =>
    set { r with widths := r.widths ++ [none] }
    return group
  | some letters =>
    match r.names.lookup letters with
    | some earlier =>
      fault (.groupRedefined (.ofList letters) group earlier) (letters.length + 1)
    | none =>
      set { r with widths := r.widths ++ [none], names := r.names ++ [(letters, group)] }
      return group

/-- Closes a group. -/
def closeGroup (group : Nat) (body : Node) : Read Unit :=
  modify fun r => { r with widths := r.widths.set (group - 1) (some (body.width r.widths)) }

/-- A reference to a group by its name, up to the closing parenthesis. -/
def namedReference : Read Node := do
  let letters ← name ')' "group name"
  checkName letters
  match (← get).names.lookup letters with
  | none => fault (.unknownGroupName (.ofList letters)) (letters.length + 1)
  | some group =>
    if !(← isClosed group) then fault .openGroup (letters.length + 1)
    else
      checkBehind group
      return .reference group

/-- The most groups that a pattern can have. -/
def groupLimit : Nat := 1073741823

/-- The group that a condition names, up to the closing parenthesis. -/
def conditionGroup : Read Nat := do
  let letters ← name ')' "group name"
  let back := letters.length + 1
  if isIdentifier letters then
    match (← get).names.lookup letters with
    | none => fault (.unknownGroupName (.ofList letters)) back
    | some group => return group
  else match Numeral.readInt 10 (letters.map Letter.asChar) with
    | .number (.ofNat 0) => fault .badGroupNumber back
    | .number (.ofNat group) =>
      if groupLimit ≤ group then fault (.noSuchGroup group) back
      else
        modify fun r =>
          if (r.mentioned.lookup group).isSome then r
          else { r with mentioned := r.mentioned ++ [(group, r.position - back)] }
        return group
    | _ => fault (.badGroupName (.ofList letters)) back

/-- What a parenthesis opens. -/
inductive Opening where
  | capture (groupName : Option (List Letter))
  | plain
  | atomic
  | flagged (on off : Flags)
  | ahead (negated : Bool)
  | behind (negated : Bool)
  | condition
  /-- A reference by name, which is complete. -/
  | whole (node : Node)
  | comment
  /-- Flags for the whole pattern, which are set. -/
  | globalFlags

/-- What a parenthesis at position `start` opens; the parenthesis is taken. -/
def opening (start : Nat) : Read Opening := do
  if !(← accept '?') then return .capture none
  else
    match ← Read.take with
    | none => fault .unexpectedEnd 0
    | some (.escaped c) =>
      fault (.unknownExtension (.ofList [.char '?', .char '\\', c])) 3
    | some (.plain (.char 'P')) =>
      if ← accept '<' then
        let letters ← name '>' "group name"
        checkName letters
        return .capture (some letters)
      else if ← accept '=' then return .whole (← namedReference)
      else match ← Read.take with
        | none => fault .unexpectedEnd 0
        | some p =>
          fault (.unknownExtension (.ofList (.char '?' :: .char 'P' :: p.letters))) (p.size + 2)
    | some (.plain (.char ':')) => return .plain
    | some (.plain (.char '#')) =>
      groupComment start ((← get).pieces.length + 1)
      return .comment
    | some (.plain (.char '=')) => return .ahead false
    | some (.plain (.char '!')) => return .ahead true
    | some (.plain (.char '<')) =>
      match ← Read.take with
      | none => fault .unexpectedEnd 0
      | some (.plain (.char '=')) => return .behind false
      | some (.plain (.char '!')) => return .behind true
      | some p =>
        fault (.unknownExtension (.ofList (.char '?' :: .char '<' :: p.letters))) (p.size + 2)
    | some (.plain (.char '(')) => return .condition
    | some (.plain (.char '>')) => return .atomic
    | some (.plain (.char c)) =>
      if c = '-' ∨ isFlagLetter c then
        match ← groupFlags c with
        | none => return .globalFlags
        | some (on, off) => return .flagged on off
      else fault (.unknownExtension (.ofList [.char '?', .char c])) 2
    | some (.plain c) => fault (.unknownExtension (.ofList [.char '?', c])) 2

/-- Takes the closing parenthesis of the group that starts at `start`. -/
def closing (start : Nat) : Read Unit := do
  if !(← accept ')') then fault .unterminatedGroup ((← Read.position) - start)

mutual

/-- Alternatives up to a closing parenthesis or the end. `outermost` tells that no group is open,
`first` that nothing is read yet. -/
def alternatives : Nat → (verbose outermost first : Bool) → Read (List Node)
  | 0, _, _, _ => fault .unexpectedEnd 0
  | fuel + 1, verbose, outermost, first => do
    let items ← items fuel verbose (outermost && first) []
    if ← accept '|' then
      let flags := (← get).flags
      let verbose := if outermost then flags.verbose else verbose
      return .sequence items :: (← alternatives fuel verbose outermost false)
    else return [.sequence items]

/-- Items up to a bar, a closing parenthesis or the end, after those already found. -/
def items : Nat → (verbose first : Bool) → List Node → Read (List Node)
  | 0, _, _, _ => fault .unexpectedEnd 0
  | fuel + 1, verbose, first, found => do
    match ← peek with
    | none => return found
    | some (.plain (.char '|')) => return found
    | some (.plain (.char ')')) => return found
    | some (.escaped c) =>
      let _ ← Read.take
      let node ← escaped c
      items fuel verbose first (found ++ [node])
    | some (.plain (.lone h)) =>
      let _ ← Read.take
      items fuel verbose first (found ++ [.char h.code])
    | some (.plain (.char c)) =>
      let _ ← Read.take
      if verbose && Ascii.isBlank c then items fuel verbose first found
      else if verbose && c = '#' then
        lineComment ((← get).pieces.length + 1)
        items fuel verbose first found
      else if c = '[' then
        let node ← charSet
        items fuel verbose first (found ++ [node])
      else if c = '*' || c = '+' || c = '?' || c = '\x7b' then
        let here ← Read.position
        match ← bounds c with
        | none => items fuel verbose first (found ++ [.char c.toNat])
        | some (least, most) =>
          let found ← repeatLast here least most found
          items fuel verbose first found
      else if c = '.' then items fuel verbose first (found ++ [.any])
      else if c = '(' then
        let start := (← Read.position) - 1
        match ← opening start with
        | .comment => items fuel verbose first found
        | .globalFlags =>
          if !first || !found.isEmpty then
            fault .flagsNotFirst ((← Read.position) - start)
          else
            let flags := (← get).flags
            items fuel flags.verbose first found
        | .whole node => items fuel verbose first (found ++ [node])
        | o =>
          let node ← group fuel verbose start o
          items fuel verbose first (found ++ [node])
      else if c = '^' then items fuel verbose first (found ++ [.anchor .lineStart])
      else if c = '$' then items fuel verbose first (found ++ [.anchor .lineEnd])
      else items fuel verbose first (found ++ [.char c.toNat])

/-- The rest of a group that starts at `start`. -/
def group : Nat → (verbose : Bool) → (start : Nat) → Opening → Read Node
  | 0, _, _, _ => fault .unexpectedEnd 0
  | fuel + 1, verbose, start, o => do
    match o with
    | .ahead negated =>
      let body := Node.alternatives (← alternatives fuel verbose false false)
      closing start
      return .ahead negated body
    | .behind negated =>
      let outer := (← get).behindFrom
      if outer.isNone then modify fun r => { r with behindFrom := some r.widths.length }
      let body := Node.alternatives (← alternatives fuel verbose false false)
      if outer.isNone then modify fun r => { r with behindFrom := none }
      closing start
      let (least, most) := body.width (← get).widths
      return .behind negated least most body
    | .condition =>
      let number ← conditionGroup
      checkBehind number
      let yes ← items fuel verbose false []
      let no ← if ← accept '|' then
          let no ← items fuel verbose false []
          if (← peek) = some (.plain '|') then fault .twoBranches 0 else pure no
        else pure []
      closing start
      return .conditional number (.sequence yes) (.sequence no)
    | .flagged on off =>
      let inner := (verbose || on.verbose) && !off.verbose
      let body := Node.alternatives (← alternatives fuel inner false false)
      closing start
      return .underFlags on off body
    | .atomic =>
      let body := Node.alternatives (← alternatives fuel verbose false false)
      closing start
      return .atomic body
    | .capture groupName =>
      let number ← openGroup groupName
      let body := Node.alternatives (← alternatives fuel verbose false false)
      closing start
      closeGroup number body
      return .capture number body
    | _ =>
      let body := Node.alternatives (← alternatives fuel verbose false false)
      closing start
      return .underFlags {} {} body

end

/-- The name of a mode of repetition. -/
def modeName : Mode → String
  | .greedy => "MAX_REPEAT"
  | .lazy => "MIN_REPEAT"
  | .possessive => "POSSESSIVE_REPEAT"

/-- The first part of a pattern that is well formed but cannot be matched: a look behind without a
fixed width, or a repetition in a template. -/
def unusable? (template : Bool) : Node → Option Fault
  | .seq a b => (unusable? template a).or (unusable? template b)
  | .alt a b => (unusable? template a).or (unusable? template b)
  | .rounds mode _ _ body =>
    if template then some (.templateRepetition (modeName mode)) else unusable? template body
  | .capture _ body => unusable? template body
  | .underFlags _ _ body => unusable? template body
  | .atomic body => unusable? template body
  | .ahead _ body => unusable? template body
  | .behind _ least most body =>
    if least = most then unusable? template body else some .lookBehindWidth
  | .conditional _ yes no => (unusable? template yes).or (unusable? template no)
  | _ => none

/-- Settles the choice of character classes. -/
def settleFlags (f : Flags) : Except Refusal Flags :=
  if !f.ascii then .ok { f with unicode := true }
  else if f.unicode then .error .flagsConflict
  else .ok f

/-- Reads a pattern under the given flags: the flags that it ends up with, and its syntax. -/
def read (given : Flags) (text : List Letter) : Except Refusal (Flags × Node) := do
  let (pieces, dangling) := Piece.cut text
  if pieces.isEmpty && dangling then throw (.malformed .escapeAtEnd (some 0))
  let (nodes, r) ← (alternatives (3 * pieces.length + 4) given.verbose true true).run
    { pieces, position := 0, dangling, flags := given }
  let flags ← settleFlags r.flags
  if !r.pieces.isEmpty then throw (.malformed .unbalanced (some r.position))
  match r.mentioned.find? fun m => r.widths.length < m.1 with
  | some (g, position) => throw (.malformed (.noSuchGroup g) (some position))
  | none =>
    let body := Node.alternatives nodes
    match unusable? flags.template body with
    | some f => throw (.malformed f none)
    | none => return (flags, body)

end MaskedReport.Pattern
