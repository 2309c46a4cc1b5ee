import MaskedReport.Command.Options
import MaskedReport.Http.Service
import MaskedReport.Settings

/-!
# The arguments of the command

The command has three tasks: the full report, the entry of one source, and the service. Options
before the task tell where the settings are, how to mask and what to log; the settings that they
give are those of the file with the options in place of its own, and always enabled.
-/

set_option autoImplicit false

namespace MaskedReport.Command

/-- What the command does. -/
inductive Task where
  | report
  | source (name : Text)
  | serve (port : Int) (host : String)
  deriving DecidableEq, Inhabited

/-- The arguments of the command. -/
structure Arguments where
  /-- The path of the settings; there are none if it counts as false. -/
  config : Value := .text ""
  level : Value := .text "WARNING"
  masking : Value := .null
  patterns : List Value := []
  withoutEnvironment : Bool := false
  principal : Value := .null
  task : Task := .report
  deriving Inhabited

/-- The command line of the command. -/
def grammar : Grammar where
  program := "env_endpoint"
  switches := [.help, .config, .logLevel, .masking, .maskPattern, .noEnvironment, .principal]
  words := .command "command"

/-- The command line of a task, by its name. -/
def taskGrammars : List (String × Grammar) :=
  [("report", { program := grammar.program ++ " report", switches := [.help] }),
    ("source",
      { program := grammar.program ++ " source", switches := [.help], words := .one "name" }),
    ("serve", { program := grammar.program ++ " serve", switches := [.help, .port, .host] })]

/-- The task that a command line of its own describes. -/
def taskOf (name : String) (r : Reading) : Task :=
  if name = "source" then .source (r.words.head?.getD "")
  else if name = "serve" then
    let port := match r.value? .port with
      | some (.int i) => i
      | _ => Http.defaultPort
    let host := match r.value? .host with
      | some (.text s) => s.string
      | _ => Http.defaultHost
    .serve port host
  else .report

namespace Arguments

/-- The arguments that a command line gives. -/
def ofList (args : List String) : Except Refusal Arguments := do
  let r ← grammar.read args
  let name := r.words.head?.getD ""
  match taskGrammars.lookup name with
  | none =>
    throw (.misused grammar.program (.notAChoice "command" name (taskGrammars.map (·.1))))
  | some g =>
    let t ← g.read r.words.tail
    let leftOver := r.leftOver ++ t.leftOver
    if leftOver.isEmpty then
      return {
        config := (r.value? .config).getD (.text "")
        level := (r.value? .logLevel).getD (.text "WARNING")
        masking := (r.value? .masking).getD .null
        patterns := r.valuesOf .maskPattern
        withoutEnvironment := (r.value? .noEnvironment).isSome
        principal := (r.value? .principal).getD .null
        task := taskOf name t }
    else throw (.misused grammar.program (.unrecognized leftOver))

/-- The least rank of the lines that are told. -/
def threshold (a : Arguments) : Except Failure Nat :=
  match a.level with
  | .text s =>
    match Severity.thresholds.lookup (Case.capitals s) with
    | some rank => .ok rank
    | none => .error (.unknownLevel (Case.capitals s))
  | v => .error (.levelKind v.kind)

/-- The settings of the file, if there is one, with the options in place of its own. -/
def overridden (w : World) (a : Arguments) : Except Failure Settings := do
  let s ← if a.config.truthy then Settings.ofFile w a.config else Settings.ofValue (.map [])
  return { s with
    enabled := true
    masking := if a.masking.truthy then a.masking else s.masking
    maskPatterns := s.maskPatterns ++ a.patterns
    includeEnvironment := s.includeEnvironment && !a.withoutEnvironment }

/-- The settings of the command, checked as a whole. -/
def settings (w : World) (a : Arguments) : Except Failure Settings := do
  Settings.ofValue (← a.overridden w).toValue

end Arguments

end MaskedReport.Command
