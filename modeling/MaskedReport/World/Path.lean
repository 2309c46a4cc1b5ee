import MaskedReport.Value.Basic

/-!
# Paths

A path is a root, empty for a relative path, and its parts. Repeated slashes and parts that are a
single dot do not count; parts of two dots stay.
-/

set_option autoImplicit false

namespace MaskedReport

/-- A path. The root is empty, one slash or two. -/
structure Path where
  root : String
  parts : List Text
  deriving DecidableEq, Inhabited

namespace Path

/-- The root that a text starts with: exactly two slashes are a root of their own. -/
def rootOf (text : List Letter) : String :=
  match (text.takeWhile (· == .char '/')).length with
  | 0 => ""
  | 2 => "//"
  | _ => "/"

/-- The path that a text names. -/
def ofText (text : Text) : Path where
  root := rootOf text.toList
  parts := ((text.toList.splitOn (.char '/')).map Text.ofList).filter fun p => p != "" && p != "."

/-- The text of a path; that of the path without parts is a dot. -/
def text (p : Path) : Text :=
  let s := p.root ++ Text.intercalate "/" p.parts
  if s.isEmpty then "." else s

/-- Whether the path starts at a root. -/
def isAbsolute (p : Path) : Bool := !p.root.isEmpty

/-- The second path seen from the first. -/
def join (p q : Path) : Path := if q.isAbsolute then q else { p with parts := p.parts ++ q.parts }

/-- The path without its last part. -/
def parent (p : Path) : Path := { p with parts := p.parts.dropLast }

/-- The last part. -/
def fileName (p : Path) : Text := p.parts.getLast?.getD ""

/-- A text up to its last dot, if that is neither at its start nor at its end. -/
def withoutExtension (name : List Letter) : List Letter :=
  let extension := name.reverse.takeWhile (· != .char '.')
  let stem := (name.take (name.length - extension.length)).dropLast
  if extension.isEmpty ∨ stem.isEmpty then name else stem

/-- The last part without its extension. -/
def stem (p : Path) : Text := .ofList (withoutExtension p.fileName.toList)

/-- The path that a value gives. -/
def ofValue : Value → Except Failure Path
  | .text s => .ok (ofText s)
  | .bytes _ => .error .pathOfBytes
  | v => .error (.pathKind v.kind)

/-- A home directory without the slashes at its end; nothing but slashes is the root. -/
def homeText (home : Text) : Text :=
  match (home.toList.reverse.dropWhile (· == .char '/')).reverse with
  | [] => "/"
  | kept => .ofList kept

/-- The account whose home directory a path starts from: what its first part has after a tilde, if
it begins with one. The own account has no name. -/
def account? (p : Path) : Option Text :=
  if p.isAbsolute then none
  else match p.parts.head?.map Text.toList with
    | some (.char '~' :: account) => some (.ofList account)
    | _ => none

/-- Whether half of a pair stands for a byte in names that the system gives, which may be no text.
-/
def isByte (h : Surrogate) : Bool := 0xDC80 ≤ h.code && h.code ≤ 0xDCFF

/-- The bytes that a letter stands for in a name. -/
def letterBytes : Letter → List UInt8
  | .char c => Utf8.encodeChar c
  | .lone h => [UInt8.ofNat (0x80 + h.code % 0x80)]

/-- The bytes by which the system knows a name. -/
def nameBytes (name : Text) : List UInt8 := name.toList.flatMap letterBytes

/-- Checks a name for what the system does not take: halves of pairs that stand for no byte, and
NUL. -/
def checkName (name : Text) : Except Failure Unit :=
  match Text.unencodable? isByte 0 name.toList with
  | some why => .error (.nameUnencodable why)
  | none => if name.toList.contains (.char '\x00') then .error .nullInName else .ok ()

/-- The path with a home directory in place of its first part. A home that begins with a tilde
itself is none. -/
def inHome (p : Path) : Option Text → Except Failure Path
  | none => .error .noHome
  | some home =>
    let home := homeText home
    if home.toList.head? = some (.char '~') then .error .noHome
    else .ok { ofText home with parts := (ofText home).parts ++ p.parts.tail }

/-- The path with the home directory of an account in place of the first part that tells of it. -/
def expandHome (homes : Text → Option Text) (p : Path) : Except Failure Path :=
  match p.account? with
  | none => .ok p
  | some account => do
    checkName account
    p.inHome (homes account)

/-- The parts from the root on, each part of two dots taking back the part before it. -/
def resolveParts : List Text → List Text → List Text
  | done, [] => done
  | done, part :: rest =>
    resolveParts (if part = ".." then done.dropLast else done ++ [part]) rest

/-- The parts of a path from the root on, seen from a directory. -/
def resolve (directory p : Path) : List Text := resolveParts [] (directory.join p).parts

/-- The parts of a path from the root on, seen from a directory, as the system knows them. -/
def names (directory p : Path) : List (List UInt8) := (directory.resolve p).map nameBytes

end Path

end MaskedReport
