import MaskedReport.Endpoint
import MaskedReport.Source.Document

/-!
# Settings

Settings tell which sources an endpoint reports on and how it masks them. They come as a value, flat
or under the key `env_endpoint`, and are brought to a normal form that checks the kinds of their
parts. A document with settings gives the directory for relative paths.
-/

set_option autoImplicit false

namespace MaskedReport

/-- A document that is a source. -/
structure SourceSetting where
  path : Text
  name : Value
  order : Int
  deriving Inhabited

/-- Settings in normal form. -/
structure Settings where
  enabled : Bool
  masking : Value
  maskPatterns : List Value
  activeEnvironments : List Value
  packages : List Value
  includeEnvironment : Bool
  sources : List SourceSetting
  baseDirectory : Value
  deriving Inhabited

namespace Settings

/-- A setting that is a list; a single text counts as a list of one item, nothing as none. -/
def listSetting (es : Entries) (key : String) : Except Failure (List Value) :=
  match es.named? key with
  | none => .ok []
  | some .null => .ok []
  | some (.text s) => .ok [.text s]
  | some (.list items) => .ok items
  | some (.tuple items) => .ok items
  | some v => .error (.listSetting key v.kind)

/-- A setting that is true or false. -/
def flagSetting (es : Entries) (key : String) (default : Bool) : Except Failure Bool :=
  match es.named? key with
  | none => .ok default
  | some (.bool b) => .ok b
  | some v => do throw (.flagSetting key (← v.shown))

/-- The whole number that a value gives: none if it gives no number at all. -/
def orderOf : Value → Except Failure (Option Int)
  | .bool b => .ok (some (if b then 1 else 0))
  | .int i => .ok (some i)
  | .real (.infinite _) => .error .infiniteOrder
  | .real x => .ok x.truncate?
  | .text s =>
    match Numeral.readInt 10 s.chars with
    | .number i => .ok (some i)
    | _ => .ok none
  | .bytes bs =>
    if bs.all (· < 128) then
      match Numeral.readInt 10 (bs.map fun b => Char.ofNat b.toNat) with
      | .number i => .ok (some i)
      | _ => .ok none
    else .ok none
  | _ => .ok none

/-- A source by its entries. -/
def sourceOfEntries (shown : Except Failure String) (es : Entries) :
    Except Failure SourceSetting := do
  match es.named? "path" with
  | none => throw (.sourceEntry (← shown))
  | some path =>
    match ← orderOf ((es.named? "order").getD (.int 0)) with
    | none => throw (.sourceOrder (← path.shown))
    | some order =>
      return { path := ← path.toText, name := (es.named? "name").getD .null, order }

/-- A source: a path, or a mapping with a path and perhaps a name and an order. -/
def sourceOf : Value → Except Failure SourceSetting
  | .text s => sourceOfEntries (.ok "") [(.text "path", .text s)]
  | .map es => sourceOfEntries (Value.map es).shown es
  | v => do throw (.sourceEntry (← v.shown))

/-- The entries of settings: those under the key `env_endpoint`, if it is there. A value that counts
as false gives none. -/
def entriesOf (v : Value) : Except Failure Entries :=
  if !v.truthy then .ok []
  else match v with
    | .map es =>
      match Entries.named? "env_endpoint" es with
      | none => .ok es
      | some inner =>
        if !inner.truthy then .ok []
        else match inner with
          | .map es => .ok es
          | _ => .error .settingsForm
    | _ => .error .settingsForm

/-- The settings that a value gives. -/
def ofValue (v : Value) : Except Failure Settings := do
  let es ← entriesOf v
  return {
    enabled := ← flagSetting es "enabled" false
    masking := (es.named? "masking").getD (.text "all")
    maskPatterns := ← listSetting es "mask_patterns"
    activeEnvironments := ← listSetting es "active_environments"
    packages := ← listSetting es "packages"
    includeEnvironment := ← flagSetting es "include_environ" true
    sources := ← (← listSetting es "property_sources").mapM sourceOf
    baseDirectory := (es.named? "base_dir").getD .null }

/-- A source as a value. -/
def sourceToValue (s : SourceSetting) : Value :=
  .map [(.text "path", .text s.path), (.text "name", s.name), (.text "order", .int s.order)]

/-- The settings as a value. -/
def toValue (s : Settings) : Value :=
  .map [(.text "enabled", .bool s.enabled), (.text "masking", s.masking),
    (.text "mask_patterns", .list s.maskPatterns),
    (.text "active_environments", .list s.activeEnvironments),
    (.text "packages", .list s.packages),
    (.text "include_environ", .bool s.includeEnvironment),
    (.text "property_sources", .list (s.sources.map sourceToValue)),
    (.text "base_dir", s.baseDirectory)]

/-- The settings that the document at a path gives. Relative paths in them are seen from the
document's directory, unless they name another. -/
def ofFile (w : World) (path : Value) : Except Failure Settings := do
  let p ← (← Path.ofValue path).expandHome w.home?
  let s ← ofValue (← w.document .settingsFile p)
  match s.baseDirectory with
  | .null => return { s with baseDirectory := .text p.parent.text }
  | _ => return s

/-- The directory from which relative paths are seen. -/
def base (s : Settings) : Except Failure Path :=
  if s.baseDirectory.truthy then Path.ofValue s.baseDirectory else .ok (.ofText ".")

/-- The path of a source. -/
def pathOf (w : World) (base : Path) (s : SourceSetting) : Except Failure Path := do
  return base.join (← (Path.ofText s.path).expandHome w.home?)

/-- The source that a setting names. -/
def load (w : World) (base : Path) (s : SourceSetting) : Except Failure Source := do
  Source.ofPath w (← pathOf w base s) s.name (.int s.order)

/-- Registers the sources that settings name, one after the other. -/
def registerAll (w : World) (base : Path) :
    List SourceSetting → Registry → Except Failure Registry
  | [], r => .ok r
  | s :: rest, r => do registerAll w base rest (r.add (← load w base s))

/-- The source of the environment: the variables given, or those of the world. -/
def environment (w : World) (given : Option Value) : Except Failure Source :=
  Source.ofEnvironment (given.getD (.map w.environment)) Source.environmentName
    Source.environmentOrder

/-- The registry that settings give. -/
def registry (w : World) (s : Settings) (given : Option Value) : Except Failure Registry := do
  let base ← s.base
  let r ← registerAll w base s.sources
    { activeNames := s.activeEnvironments, packages := s.packages }
  if s.includeEnvironment then return r.add (← environment w given) else return r

/-- The masking that settings give. -/
def maskingHook (s : Settings) : Except Failure Masking :=
  Masking.ofValues s.masking (.list s.maskPatterns)

/-- The endpoint that settings give. The masking is settled before any source is read. -/
def endpoint (w : World) (s : Settings) (given : Option Value) : Except Failure Endpoint := do
  let masking ← s.maskingHook
  return {
    registry := ← s.registry w given
    hook := some masking.hook
    enabled := s.enabled }

/-- The endpoint that settings in a value give. -/
def endpointOfValue (w : World) (v : Value) (given : Option Value) : Except Failure Endpoint := do
  (← ofValue v).endpoint w given

end Settings

end MaskedReport
