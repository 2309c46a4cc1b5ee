import MaskedReport.Text.Letter

/-!
# Journals

Lines that tell what a command does. A line has an origin and a severity; a journal keeps the lines
of at least the severity it is asked for.
-/

set_option autoImplicit false

namespace MaskedReport

/-- How grave a line is. -/
inductive Severity where
  | debug
  | info
  | warning
  | error
  | critical
  deriving DecidableEq, Inhabited

namespace Severity

/-- The rank of a severity. -/
def rank : Severity → Nat
  | debug => 10
  | info => 20
  | warning => 30
  | error => 40
  | critical => 50

/-- The name of a severity in lines. -/
def name : Severity → String
  | debug => "DEBUG"
  | info => "INFO"
  | warning => "WARNING"
  | error => "ERROR"
  | critical => "CRITICAL"

/-- The least rank of the lines that are kept, by its name. -/
def thresholds : List (Text × Nat) :=
  [("CRITICAL", 50), ("FATAL", 50), ("ERROR", 40), ("WARN", 30), ("WARNING", 30), ("INFO", 20),
    ("DEBUG", 10), ("NOTSET", 0)]

end Severity

/-- The part of the program that a line comes from. -/
inductive Origin where
  | sources
  | registry
  | settings
  | endpoint
  | service
  deriving DecidableEq, Inhabited

/-- The name of an origin in lines. -/
def Origin.name : Origin → String
  | sources => "env_endpoint.sources"
  | registry => "env_endpoint.environment"
  | settings => "env_endpoint.config"
  | endpoint => "env_endpoint.endpoint"
  | service => "env_endpoint.server"

/-- A line of a journal. -/
structure Line where
  origin : Origin
  severity : Severity
  message : String
  deriving DecidableEq, Inhabited

/-- The line as it is written, after the time. -/
def Line.text (time : String) (l : Line) : String :=
  time ++ " - " ++ l.origin.name ++ " - " ++ l.severity.name ++ " - " ++ l.message

end MaskedReport
