import MaskedReport.Source.Basic
import MaskedReport.Source.Flatten
import MaskedReport.World.Document

/-!
# Sources from documents

A document in a file is a source of the leaves of its mapping. The source is named for the file
unless it is given a name.
-/

set_option autoImplicit false

namespace MaskedReport.Source

/-- The name of a source: the one given, unless it counts as false. -/
def nameOr (given : Value) (p : Path) : Value := if given.truthy then given else .text p.stem

/-- The source that the document at a path gives. -/
def ofPath (w : World) (p : Path) (name order : Value) : Except Failure Source := do
  let p ← p.expandHome w.home?
  let data ← w.document .sourceFile p
  let entries ← match data with
    | .null => pure []
    | .map _ => Flatten.flattenValue data (.text "")
    | v => throw (.sourceForm p.text v.kind)
  return { name := nameOr name p, order, convention := .dotted, contents := .stored entries }

/-- The source that the document at a path gives; the path is a value. -/
def ofFile (w : World) (path name order : Value) : Except Failure Source := do
  ofPath w (← Path.ofValue path) name order

end MaskedReport.Source
