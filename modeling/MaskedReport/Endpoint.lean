import MaskedReport.Registry
import MaskedReport.Report

/-!
# Endpoints

An endpoint reports on the sources of a registry. For each request a new policy is made, which the
endpoint's hook may configure by who asks; without a hook everything is masked.
-/

set_option autoImplicit false

namespace MaskedReport

/-- Configures the policy of a request, or refuses the request. -/
abbrev Hook := Policy → Except Failure Policy

/-- How a hook from the settings masks: everything, nothing, or what looks secret. -/
inductive Mode where
  | all
  | none
  | legacy
  deriving DecidableEq, Inhabited

namespace Mode

/-- The name of a mode in settings. -/
def name : Mode → String
  | all => "all"
  | none => "none"
  | legacy => "legacy"

/-- The modes in the order in which messages list them. -/
def every : List Mode := [all, none, legacy]

/-- The mode that a value names. -/
def ofValue (v : Value) : Except Failure Mode :=
  match every.find? fun m => (Value.text m.name).same v with
  | some m => .ok m
  | _ => do throw (.unknownMode (← v.shown))

/-- The step that sets the mode of a policy. -/
def step : Mode → Policy.Step
  | all => .maskAll
  | none => .maskNone
  | legacy => .legacy

end Mode

/-- A hook from the settings: a mode and patterns, the same for every request. -/
structure Masking where
  mode : Mode
  patterns : List Pattern
  deriving Inhabited

namespace Masking

/-- The masking that values give; the patterns are what the second value yields. -/
def ofValues (mode patterns : Value) : Except Failure Masking := do
  let mode ← Mode.ofValue mode
  let given ← patterns.items
  return { mode, patterns := ← Pattern.ofValues given }

/-- The steps by which the masking configures a policy. -/
def steps (m : Masking) : List Policy.Step := [m.mode.step, .patterns (m.patterns.map .pattern)]

/-- The masking as a hook. -/
def hook (m : Masking) : Hook := fun p => p.applyAll m.steps

end Masking

/-- An endpoint. -/
structure Endpoint where
  registry : Registry
  hook : Option Hook := none
  enabled : Bool := false

namespace Endpoint

/-- The policy of a request. -/
def policy (e : Endpoint) (principal : Value) : Except Failure Policy :=
  match e.hook with
  | none => .ok { principal }
  | some configure => configure { principal }

/-- The full report. -/
def report (e : Endpoint) (principal : Value) : Except Failure Report := do
  let policy ← e.policy principal
  Report.full policy.classify e.registry.sources (.tuple e.registry.activeNames)
    (.tuple e.registry.packages)

/-- The entry of one source, if there is one of the name. -/
def properties? (e : Endpoint) (name principal : Value) : Except Failure (Option Entry) := do
  let policy ← e.policy principal
  Report.single? policy.classify e.registry.sources name

end Endpoint

end MaskedReport
