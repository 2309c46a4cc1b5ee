import MaskedReport.Value.Shown

/-!
# Sources

A source is an ordered collection of named properties with an order among other sources and a
naming convention for its keys. Its contents are stored entries, or keys whose values are computed
when they are read; reading such a value may fail.
-/

set_option autoImplicit false

namespace MaskedReport

/-- How the keys of a source are spelt: `server.port` or `SERVER_PORT`. -/
inductive Convention where
  | dotted
  | environment
  deriving DecidableEq, Inhabited

namespace Convention

/-- The name of a convention in reports. -/
def name : Convention → String
  | dotted => "JAVA_PROPERTIES"
  | environment => "ENVIRONMENT_VARIABLE"

/-- The convention of a name. -/
def ofName? (s : String) : Option Convention :=
  [dotted, environment].find? fun c => c.name == s

end Convention

/-- The properties of a source. -/
inductive Contents where
  | stored (entries : Entries)
  | computed (keys : List Value) (read : Value → Except Failure Value)
  deriving Inhabited

/-- A source of properties. -/
structure Source where
  name : Value
  order : Value
  convention : Convention
  contents : Contents
  deriving Inhabited

namespace Source

/-- The keys in order. A source with computed values may repeat a key. -/
def keys (s : Source) : List Value :=
  match s.contents with
  | .stored entries => entries.keys
  | .computed keys _ => keys

/-- The keys in order, each with what reading it gives. -/
def readings (s : Source) : List (Value × Except Failure Value) :=
  match s.contents with
  | .stored entries => entries.map fun e => (e.1, .ok e.2)
  | .computed keys read => keys.map fun k => (k, read k)

/-- The value of a key. -/
def get (s : Source) (key : Value) : Except Failure Value :=
  match s.contents with
  | .computed _ read => read key
  | .stored entries => do
    let key ← key.asKey
    match entries.get? key with
    | some v => return v
    | none => throw (.noSuchKey (← key.shown))

/-- The whole number by which a source is sorted, if its order is one. -/
def rank? (s : Source) : Option Int :=
  match s.order with
  | .int i => some i
  | _ => none

/-- The number of properties. -/
def size (s : Source) : Nat := s.keys.length

/-- A source over a mapping, which is copied. -/
def ofMapping (name mapping order : Value) (convention : Convention) : Except Failure Source := do
  return { name, order, convention, contents := .stored (← mapping.toEntries) }

/-- Environment variables come after sources from documents. -/
def environmentOrder : Value := .int 100

/-- The name of the source over environment variables. -/
def environmentName : Value := .text "env"

/-- A source over environment variables. -/
def ofEnvironment (bindings name order : Value) : Except Failure Source :=
  ofMapping name bindings order .environment

end Source

end MaskedReport
