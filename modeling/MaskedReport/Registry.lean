import MaskedReport.Source.Basic

/-!
# Registries

The sources that reports are made of, in the order in which their names came first, with the names
of active environments and packages. A source takes the place of one of the same name.
-/

set_option autoImplicit false

namespace MaskedReport

/-- The sources, with the names of active environments and packages. -/
structure Registry where
  activeNames : List Value := []
  packages : List Value := []
  sources : List Source := []
  deriving Inhabited

namespace Registry

/-- Puts a source in the place of the first of the same name, or at the end. -/
def put (new : Source) : List Source → List Source
  | [] => [new]
  | s :: rest => if s.name.same new.name then new :: rest else s :: put new rest

/-- Registers a source. -/
def add (r : Registry) (s : Source) : Registry := { r with sources := put s r.sources }

/-- Registers sources one after the other. -/
def addAll (r : Registry) (sources : List Source) : Registry := sources.foldl add r

/-- Whether a source would take the place of another. -/
def hasName (r : Registry) (name : Value) : Bool := r.sources.any fun s => s.name.same name

/-- The source of a name. -/
def get? (r : Registry) (name : Value) : Option Source :=
  r.sources.find? fun s => s.name.same name

/-- A registry without sources; the names and packages are what the given values yield. -/
def create (activeNames packages : Value) : Except Failure Registry := do
  return { activeNames := ← activeNames.items, packages := ← packages.items }

/-- A registry in which sources have been registered one after the other. -/
def ofSources (activeNames packages : Value) (sources : List Source) : Except Failure Registry := do
  return (← create activeNames packages).addAll sources

end Registry

end MaskedReport
