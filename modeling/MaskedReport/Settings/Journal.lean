import MaskedReport.Journal
import MaskedReport.Settings

/-!
# The journal of settings

The lines that are told while an endpoint is made of settings: one for each document that is read,
one for each source that is registered, and one when the endpoint is ready. They end where the
making fails.
-/

set_option autoImplicit false

namespace MaskedReport

/-- The line on registering a source, unless its name or order cannot be shown. -/
def Registry.lineOf? (r : Registry) (s : Source) : Option Line := do
  let name ← s.name.shown.toOption
  let order ← s.order.shown.toOption
  let message :=
    if r.hasName s.name then "Replaced property source " ++ name
    else "Added property source " ++ name ++ " (order=" ++ order ++ ")"
  return { origin := .registry, severity := .debug, message }

namespace Settings

/-- The line on a document that has been read. -/
def loadedLine (w : World) (base : Path) (x : SourceSetting) (s : Source) : Line :=
  let path := do (← pathOf w base x).expandHome w.home?
  let name := match path with
    | .ok p => Quoted.bare p.text
    | .error _ => Quoted.bare x.path
  { origin := .sources
    severity := .debug
    message := "Loaded " ++ toString s.size ++ " properties from " ++ name }

/-- The line on an endpoint that is ready. -/
def readyLine (s : Settings) (m : Masking) (r : Registry) : Line where
  origin := .settings
  severity := .info
  message :=
    "env endpoint " ++ (if s.enabled then "enabled" else "disabled") ++ " (masking=" ++
      m.mode.name ++ ", " ++ toString m.patterns.length ++ " extra patterns, " ++
      toString r.sources.length ++ " property sources)"

/-- The lines from registering the environment on. -/
def closingLines (w : World) (s : Settings) (given : Option Value) (m : Masking) (r : Registry) :
    List Line :=
  if s.includeEnvironment then
    match environment w given with
    | .ok source => (r.lineOf? source).toList ++ [s.readyLine m (r.add source)]
    | .error _ => []
  else [s.readyLine m r]

/-- The lines from registering the given sources on. -/
def linesFrom (w : World) (s : Settings) (given : Option Value) (m : Masking) (base : Path) :
    List SourceSetting → Registry → List Line
  | [], r => s.closingLines w given m r
  | x :: rest, r =>
    match load w base x with
    | .ok source =>
      loadedLine w base x source ::
        ((r.lineOf? source).toList ++ linesFrom w s given m base rest (r.add source))
    | .error _ => []

/-- The lines that are told while an endpoint is made. -/
def journal (w : World) (s : Settings) (given : Option Value) : List Line :=
  match s.maskingHook, s.base with
  | .ok m, .ok base => s.linesFrom w given m base s.sources {}
  | _, _ => []

end Settings

end MaskedReport
