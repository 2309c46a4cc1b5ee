import MaskedReport.Value.Shown

/-!
# Masking policies

A policy decides for each key of a source whether its value is shown, masked or left out. It has a
mode and patterns that are matched against whole keys: where everything is masked the patterns are
the exceptions that are shown, and where nothing is masked they select what is. A policy is
configured by steps; a step that fails leaves it as it was.
-/

set_option autoImplicit false

namespace MaskedReport

/-- What becomes of a property. -/
inductive Verdict where
  | hide
  | mask
  | plain
  deriving DecidableEq, Inhabited

namespace Verdict

/-- The name of a verdict. -/
def name : Verdict → String
  | hide => "HIDE"
  | mask => "MASK"
  | plain => "PLAIN"

end Verdict

namespace Pattern

/-- Reads the pattern that a value gives. A pattern that has been read stands for itself. -/
def ofValue (flags : Flags) : Value → Except Failure Pattern
  | .pattern p => .ok p
  | .bytePattern source => .error (.invalidPattern (Quoted.bytes source) .overBytes)
  | .text s =>
    match compile flags s with
    | .ok p => .ok p
    | .error (.malformed fault position) => .error (.invalidPattern s (.malformed fault position))
    | .error .repetitionTooLarge => .error .repetitionTooLarge
    | .error .flagsConflict => .error .flagsConflict
    | .error (.numeralTooLong n) => .error (.scalar (.numeralTooLong n))
  | v => do throw (.invalidPattern (← v.shown) .notText)

/-- Reads all the patterns, or fails at the first that is none. -/
def ofValues : List Value → Except Failure (List Pattern)
  | [] => .ok []
  | v :: rest => do return (← ofValue {} v) :: (← ofValues rest)

/-- Whether the pattern matches a key. Only texts can be matched. -/
def matchesKey (p : Pattern) : Value → Except Failure Bool
  | .text s => .ok (p.matchesAll s)
  | .bytes _ => .error .keyOfBytes
  | v => .error (.keyNotText v.fullKind)

/-- Whether some pattern matches a key; no pattern after the first that does is tried. -/
def anyMatches (key : Value) : List Pattern → Except Failure Bool
  | [] => .ok false
  | p :: rest => do if ← p.matchesKey key then return true else anyMatches key rest

/-- The words that mark a key as secret. -/
def secretWords : List String :=
  ["password", "credential", "certificate", "key", "secret", "token"]

/-- The pattern of keys that hold a word, in either letter case. -/
def holdingWord (word : String) : Pattern :=
  let wild : Node := .rounds .greedy 0 none .any
  { text := ".*" ++ word ++ ".*"
    flags := { ignoreCase := true, unicode := true }
    node := .sequence (wild :: (word.toList.map fun c => .char c.toNat) ++ [wild]) }

/-- The patterns of keys that hold a secret word. -/
def secretPatterns : List Pattern := secretWords.map holdingWord

end Pattern

/-- A masking policy. -/
structure Policy where
  principal : Value
  allMasked : Bool := true
  patterns : List Pattern := []
  /-- Patterns kept for rules that hide; no rule reads them. -/
  allowed : List Pattern := []
  deriving Inhabited

namespace Policy

/-- A step of configuring a policy. -/
inductive Step where
  | maskAll
  | maskNone
  /-- Mask nothing but keys that hold a secret word. -/
  | legacy
  | patterns (given : List Value)

/-- Adds patterns that have been read. -/
def addPatterns (p : Policy) (new : List Pattern) : Policy :=
  { p with patterns := p.patterns ++ new }

/-- Carries out a step on the policy in place. A step may fail midway; what it did until then
stays. -/
def Step.perform : Step → ExceptT Failure (StateM Policy) Unit
  | .maskAll => modify fun p => { p with allMasked := true }
  | .maskNone => modify fun p => { p with allMasked := false }
  | .legacy => do
    modify fun p => { p with allMasked := false }
    modify fun p => p.addPatterns Pattern.secretPatterns
  | .patterns given => do
    let new ← liftExcept (Pattern.ofValues given)
    modify fun p => p.addPatterns new

/-- How a step ends, and the policy that it leaves. -/
def attempt (p : Policy) (s : Step) : Except Failure Unit × Policy := s.perform.run.run p

/-- The policy after a step that succeeds. -/
def apply (p : Policy) (s : Step) : Except Failure Policy :=
  match p.attempt s with
  | (.ok (), q) => .ok q
  | (.error f, _) => .error f

/-- The policy after steps, or the failure of the first step that fails. -/
def applyAll (p : Policy) : List Step → Except Failure Policy
  | [] => .ok p
  | s :: rest => do (← p.apply s).applyAll rest

/-- The policy after steps, each made on what the one before left, whether that failed or not. -/
def run (p : Policy) : List Step → Policy
  | [] => p
  | s :: rest => (p.attempt s).2.run rest

/-- What becomes of a key: a policy never hides one. -/
def classify (p : Policy) (key : Value) : Except Failure Verdict := do
  if ← Pattern.anyMatches key p.patterns then return if p.allMasked then .plain else .mask
  else return if p.allMasked then .mask else .plain

/-- The policy as messages show it. -/
def shown (p : Policy) : String :=
  "FilterSpecification(all_masked=" ++ (if p.allMasked then "True" else "False") ++
    ", masked_patterns=[" ++ ", ".intercalate (p.patterns.map fun q => Quoted.text q.text) ++ "])"

end Policy

end MaskedReport
