import MaskedReport.Value.Shown

/-!
# Flattening

A nested mapping as one mapping whose keys are the dotted paths to the leaves. A leaf is a value
that is not a mapping with entries; lists are leaves. Where two leaves have one path, the place of
the first is kept and the value of the last.
-/

set_option autoImplicit false

namespace MaskedReport.Flatten

/-- The key of an entry below a path; nothing is put before the key where the path is empty. -/
def below (path key : Text) : Text := if path.isEmpty then key else path ++ "." ++ key

mutual

/-- The leaves at or below an entry. -/
def entry (path : Text) : Value → Value → Except Failure Entries
  | key, .map (first :: rest) => do
    let path := below path (← key.toText)
    return Entries.ofPairs (← entries path (first :: rest))
  | key, .loop true => do
    let _ ← key.toText
    throw .endlessNesting
  | key, value => do return [(.text (below path (← key.toText)), value)]

/-- The leaves at or below entries, one after the other. -/
def entries (path : Text) : List (Value × Value) → Except Failure Entries
  | [] => .ok []
  | (key, value) :: rest => do
    let here ← entry path key value
    return here ++ (← entries path rest)

end

/-- Flattens a mapping below a path. -/
def flatten (path : Text) (es : Entries) : Except Failure Entries := do
  return Entries.ofPairs (← entries path es)

/-- Flattens a value that should be a mapping below a path, which is empty if it counts as false. -/
def flattenValue (data path : Value) : Except Failure Entries :=
  match data with
  | .map [] => .ok []
  | .map es => do flatten (← if path.truthy then path.toText else pure (.ofString "")) es
  | .loop true => .error .endlessNesting
  | v => .error (.noEntries v.fullKind)

end MaskedReport.Flatten
