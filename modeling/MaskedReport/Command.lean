import MaskedReport.Command.Arguments
import MaskedReport.Settings.Journal

/-!
# The command

What the command does for its arguments: it makes an endpoint of the settings and carries out its
task on it. An outcome is what is told on the way and how it ends. Where the settings are to blame
the command ends with a line on the failure; any other failure leaves it as it is, and what has been
printed by then stays printed.
-/

set_option autoImplicit false

namespace MaskedReport.Command

/-- How the command ends. -/
inductive Ending where
  /-- The task is done, and its text is printed. -/
  | done (text : String)
  /-- There is no source of the name. -/
  | absent (name : Text)
  /-- Something fails, perhaps with a part of the text printed. -/
  | failed (printed : String) (why : Failure)
  deriving DecidableEq

namespace Ending

/-- The exit code that the command gives; none for a failure for which the settings are not to
blame. -/
def exitCode? : Ending → Option Nat
  | done _ => some 0
  | absent _ => some 1
  | failed _ why => if why.isOfSettings then some 2 else none

/-- The exit code of the process: what nothing catches ends it with code one. -/
def exitCode (e : Ending) : Nat := e.exitCode?.getD 1

/-- What is printed. -/
def output : Ending → String
  | done text => text
  | absent _ => ""
  | failed printed _ => printed

/-- The line on what went wrong. -/
def complaint? : Ending → Option String
  | done _ => none
  | absent name => some ("Property source " ++ Quoted.text name ++ " not found")
  | failed _ why => some ("error: " ++ why.message)

/-- The end with a value printed. -/
def printed (v : Value) : Ending :=
  match (Json.print Json.indented 0 "" v).run.run "" with
  | (.ok (), text) => .done (text ++ "\n")
  | (.error why, text) => .failed text why

end Ending

/-- What happens, and how it ends. -/
structure Outcome where
  events : List Http.Event
  ending : Ending
  deriving DecidableEq

/-- A line of the endpoint. -/
def note (message : String) : Http.Event :=
  .told { origin := .endpoint, severity := .debug, message }

/-- Carries out a task on an endpoint. -/
def perform (e : Endpoint) (principal : Value) : Task → Outcome
  | .report =>
    match e.report principal with
    | .error why => { events := [], ending := .failed "" why }
    | .ok r =>
      { events := [note ("Built environment report with " ++ toString r.entries.length ++
          " property sources")]
        ending := .printed r.toValue }
  | .source name =>
    match e.properties? (.text name) principal with
    | .error why => { events := [], ending := .failed "" why }
    | .ok none =>
      { events := [note ("Property source " ++ Quoted.text name ++ " not found")]
        ending := .absent name }
    | .ok (some entry) => { events := [], ending := .printed entry.toValue }
  | .serve port host => { events := Http.serve e port host, ending := .done "" }

/-- Whether an event shows when only lines of at least a rank do. -/
def shows (threshold : Nat) : Http.Event → Bool
  | .told l => threshold ≤ l.severity.rank
  | _ => true

/-- Everything that happens for the arguments. -/
def happenings (w : World) (a : Arguments) : Outcome :=
  match a.settings w with
  | .error why => { events := [], ending := .failed "" why }
  | .ok s =>
    let told := (s.journal w none).map .told
    match s.endpoint w none with
    | .error why => { events := told, ending := .failed "" why }
    | .ok e =>
      let o := perform e a.principal a.task
      { o with events := told ++ o.events }

/-- The outcome of the command for its arguments. -/
def run (w : World) (a : Arguments) : Outcome :=
  match a.threshold with
  | .error why => { events := [], ending := .failed "" why }
  | .ok threshold =>
    let o := happenings w a
    { o with events := o.events.filter (shows threshold) }

end MaskedReport.Command
