import MaskedReport.Policy
import MaskedReport.Source.Basic
import MaskedReport.Value.Order

/-!
# Reports

A report has an entry for each source, the sources sorted by their order. An entry holds the
properties that are not hidden: the value of a plain one, the mask in place of a masked one. Only
plain properties are read.
-/

set_option autoImplicit false

namespace MaskedReport

/-- Written in place of a masked value. -/
def maskMark : Value := .text "*****"

/-- A rule that decides what becomes of each key. -/
abbrev Classify := Value → Except Failure Verdict

/-- A source in a report. -/
structure Entry where
  name : Value
  order : Value
  convention : Convention
  properties : Entries
  deriving Inhabited

/-- A report on all sources. -/
structure Report where
  activeNames : List Value
  packages : List Value
  entries : List Entry
  deriving Inhabited

namespace Entry

/-- Adds properties in order to those found so far. A key that comes again keeps its place. -/
def addProperties (classify : Classify) :
    List (Value × Except Failure Value) → Entries → Except Failure Entries
  | [], found => .ok found
  | (key, reading) :: rest, found => do
    match ← classify key with
    | .hide => addProperties classify rest found
    | .mask => addProperties classify rest (found.assign (← key.asKey) maskMark)
    | .plain =>
      let value ← reading
      addProperties classify rest (found.assign (← key.asKey) value)

/-- The entry of a source. -/
def ofSource (classify : Classify) (s : Source) : Except Failure Entry := do
  return {
    name := s.name
    order := s.order
    convention := s.convention
    properties := ← addProperties classify s.readings [] }

/-- The entry as a value. -/
def toValue (e : Entry) : Value :=
  .map [(.text "name", e.name), (.text "order", e.order),
    (.text "convention", .text e.convention.name), (.text "properties", .map e.properties)]

end Entry

namespace Report

/-- Entries of sources, or the failure of the first that has none. -/
def entriesOf (classify : Classify) : List Source → Except Failure (List Entry)
  | [] => .ok []
  | s :: rest => do return (← Entry.ofSource classify s) :: (← entriesOf classify rest)

/-- The sources from the lowest order to the highest, those of one order as they come. Whole numbers
always have an order; other values may have none. -/
def sorted (sources : List Source) : Except Failure (List Source) :=
  if sources.all fun s => s.rank?.isSome then
    .ok (sources.mergeSort fun a b => a.rank?.getD 0 ≤ b.rank?.getD 0)
  else Sorting.sortBy (fun a b => a.order.before b.order) sources

/-- The report on all sources; the names and packages are what the given values yield. -/
def full (classify : Classify) (sources : List Source) (activeNames packages : Value) :
    Except Failure Report := do
  let ordered ← sorted sources
  let activeNames ← activeNames.items
  let packages ← packages.items
  return { activeNames, packages, entries := ← entriesOf classify ordered }

/-- The entry of the first source of a name. -/
def single? (classify : Classify) (sources : List Source) (name : Value) :
    Except Failure (Option Entry) :=
  match sources.find? fun s => s.name.same name with
  | none => .ok none
  | some s => do return some (← Entry.ofSource classify s)

/-- The report as a value. -/
def toValue (r : Report) : Value :=
  .map [(.text "activeEnvironments", .list r.activeNames), (.text "packages", .list r.packages),
    (.text "propertySources", .list (r.entries.map Entry.toValue))]

end Report

end MaskedReport
