import MaskedReport.World.Path

/-!
# The world of a command

Files, the working directory, the home directories and the environment variables, as far as they are
known. Every directory but the root and the working directory is known by a file in it. Files and
accounts are found by the bytes of their names, which may be no UTF-8: half of a pair in a name
stands for a byte that is part of no character.
-/

set_option autoImplicit false

namespace MaskedReport

/-- What a command sees of its surroundings. -/
structure World where
  /-- Paths with the bytes of the files; the last file of a path counts. -/
  files : List (Text × List UInt8) := []
  directory : Text := "/"
  home : Text := "/"
  /-- The names of accounts with their home directories. -/
  accounts : List (Text × Text) := []
  environment : Entries := []
  deriving Inhabited

namespace World

/-- The home directory of an account; the own one is that of no name. -/
def home? (w : World) (account : Text) : Option Text :=
  if account.isEmpty then some w.home
  else (w.accounts.find? fun a => Path.nameBytes a.1 == Path.nameBytes account).map (·.2)

/-- A text with every line end as a line feed. -/
def lineFeeds : List Char → List Char
  | [] => []
  | '\r' :: '\n' :: rest => '\n' :: lineFeeds rest
  | '\r' :: rest => '\n' :: lineFeeds rest
  | c :: rest => c :: lineFeeds rest

/-- Whether the names from the root on are those of a directory. -/
def isDirectory (w : World) (here : Path) (names : List (List UInt8)) : Bool :=
  names.isEmpty || names == here.names ⟨"/", here.parts⟩ ||
    w.files.any fun f => names.isPrefixOf (here.names (.ofText f.1))

/-- The bytes of a file. -/
def bytesOf (w : World) (p : Path) : Except FileFault (List UInt8) :=
  let here := Path.ofText w.directory
  let names := here.names p
  match w.files.reverse.find? fun f => here.names (.ofText f.1) == names with
  | some f => .ok f.2
  | none =>
    if w.isDirectory here names then .error (.directory p.text)
    else if w.files.any fun f => (here.names (.ofText f.1)).isPrefixOf names then
      .error (.belowFile p.text)
    else .error (.absent p.text)

/-- The text of a file. The place of a sequence that the end cuts off is counted from its own
start. -/
def textOf (w : World) (p : Path) : Except FileFault (List Char) := do
  let bytes ← w.bytesOf p
  match Utf8.decode bytes with
  | .ok cs => return lineFeeds cs
  | .error l =>
    throw (.undecodable l.fault (if l.fault = .ended then 0 else l.position) l.bytes)

end World

end MaskedReport
