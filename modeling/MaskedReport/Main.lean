import MaskedReport.Command

/-!
# The program

Reads what the command needs of its surroundings, runs it and writes what it tells. The service
answers the requests that come on standard input, one after the other.
-/

set_option autoImplicit false

namespace MaskedReport.Program

/-- The letter that stands for a byte which is no character of its own. -/
def letterOf (b : UInt8) : Letter := Letter.ofCode (0xDC00 + b.toNat)

/-- The letters of bytes. Every step takes a byte, so the number of bytes bounds the steps. -/
def lettersFrom : Nat → List UInt8 → List Letter
  | 0, _ => []
  | fuel + 1, bytes =>
    match Utf8.step bytes with
    | .ok none => []
    | .ok (some (c, rest)) => .char c :: lettersFrom fuel rest
    | .error _ => (bytes.take 1).map letterOf ++ lettersFrom fuel (bytes.drop 1)

/-- The text of bytes that the system gives, which may be no UTF-8. -/
def textOf (bytes : List UInt8) : Text := .ofList (lettersFrom (bytes.length + 1) bytes)

/-- The environment variables from bytes that end each with a zero. -/
def environmentOf (bytes : List UInt8) : Entries :=
  Entries.ofPairs ((bytes.splitOn 0).filterMap fun piece =>
    let name := piece.takeWhile (· != 61)
    if name.length < piece.length then
      some (.text (textOf name), .text (textOf (piece.drop (name.length + 1))))
    else none)

/-- The bytes of a file, or nothing. -/
def bytesAt? (path : String) : IO (Option (List UInt8)) := do
  try
    let bytes ← IO.FS.readBinFile path
    return some bytes.toList
  catch _ => return none

/-- Whether a path is that of a directory. -/
def isDirectory (path : String) : IO Bool := do
  try
    let data ← ((← IO.currentDir) / path).metadata
    return data.type == .dir
  catch _ => return false

/-- The paths from the first part of a path to the whole. -/
def waysTo (p : Path) : List Path :=
  (List.range p.parts.length).map fun n => { p with parts := p.parts.take (n + 1) }

/-- The world with what stands at a path and above it. A directory is known by a file in it. Nothing
is looked up under a name that is not all characters. -/
def lookUp (w : World) (p : Path) : IO World := do
  let mut w := w
  for name in ((waysTo p).map Path.text).filter Text.isPlain do
    match ← bytesAt? name.string with
    | some bytes => w := { w with files := w.files ++ [(name, bytes)] }
    | none =>
      if ← isDirectory name.string then
        w := { w with files := w.files ++ [(name ++ "/_", [])] }
  return w

/-- The world with the file at a path that may begin with the home directory. -/
def lookUpHome (w : World) (path : Except Failure Path) : IO World := do
  match path >>= Path.expandHome w.home? with
  | .ok p => lookUp w p
  | .error _ => return w

/-- The world with every file that the settings name. -/
def lookUpSources (w : World) (s : Settings) : IO World := do
  match s.base with
  | .error _ => return w
  | .ok base => s.sources.foldlM (fun w x => lookUpHome w (Settings.pathOf w base x)) w

/-- The names of accounts with their home directories, by the lines of the table of accounts. -/
def accountsOf (table : List UInt8) : List (Text × Text) :=
  (table.splitOn 10).filterMap fun line =>
    match line.splitOn 58 with
    | name :: _ :: _ :: _ :: _ :: home :: _ => some (textOf name, textOf home)
    | _ => none

/-- The world as far as the command needs it. -/
def worldFor (a : Command.Arguments) : IO World := do
  let environment := environmentOf ((← bytesAt? "/proc/self/environ").getD [])
  let w : World := {
    directory := (← IO.currentDir).toString
    home := (← IO.getEnv "HOME").getD "/"
    accounts := accountsOf ((← bytesAt? "/etc/passwd").getD [])
    environment }
  let w ← if a.config.truthy then lookUpHome w (Path.ofValue a.config) else pure w
  match a.settings w with
  | .ok s => lookUpSources w s
  | .error _ => return w

/-- The present time. -/
def now : IO String := do
  let modified := (← ((← IO.currentDir) / "/proc/self/stat").metadata).modified
  return (Calendar.ofEpoch modified.sec.toNat (modified.nsec.toNat / 1000000)).stamp

/-- A line without its end. -/
def withoutEnd (line : String) : List UInt8 :=
  Utf8.encode (line.toList.filter fun c => c != '\n' && c != '\r')

/-- The headers of a request, up to an empty line. -/
partial def readHeaders (input : IO.FS.Stream) (headers : List (List UInt8 × List UInt8)) :
    IO (List (List UInt8 × List UInt8)) := do
  let line := withoutEnd (← input.getLine)
  if line.isEmpty then return headers.reverse
  else readHeaders input (Http.headerOfLine line :: headers)

/-- Answers requests until there are no more. -/
partial def answerAll (e : Endpoint) (input output : IO.FS.Stream) : IO Unit := do
  let line ← input.getLine
  if line.isEmpty then return
  let headers ← readHeaders input []
  let request : Http.Request := { line := withoutEnd line, headers }
  let (_, sent) := (request.handle e).run.run []
  for part in sent do
    output.putStr part.text
  output.flush
  answerAll e input output

/-- Carries out an event. -/
def carryOut (e : Except Failure Endpoint) : Http.Event → IO Unit
  | .told l => do IO.eprintln (l.text (← now))
  | .serving _ =>
    match e with
    | .ok e => do answerAll e (← IO.getStdin) (← IO.getStdout)
    | .error _ => pure ()
  | .closed => pure ()

/-- Runs the command for its arguments and gives the exit code. -/
def runWith (a : Command.Arguments) : IO UInt32 := do
  let w ← worldFor a
  let outcome := Command.run w a
  let endpoint := do (← a.settings w).endpoint w none
  outcome.events.forM (carryOut endpoint)
  IO.print outcome.ending.output
  match outcome.ending.complaint? with
  | some line => IO.eprintln line
  | none => pure ()
  return UInt32.ofNat outcome.ending.exitCode

/-- Runs the command line and gives the exit code. -/
def run (args : List String) : IO UInt32 := do
  match Command.Arguments.ofList args with
  | .ok a => runWith a
  | .error (.help program) =>
    let known := Command.grammar :: Command.taskGrammars.map (·.2)
    for g in known.filter fun g => g.program == program do
      IO.println g.usage
    return 0
  | .error (.misused program why) =>
    IO.eprintln (program ++ ": error: " ++ why.message)
    return 2

end MaskedReport.Program

/-- The program. -/
def main (args : List String) : IO UInt32 := MaskedReport.Program.run args
