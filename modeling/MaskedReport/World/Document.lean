import MaskedReport.Document.Content
import MaskedReport.World.Basic

/-!
# Documents in files

Reading a file as a document. What is wrong with the file or its form is blamed on the file; a
scalar that does not convert is a failure of its own.
-/

set_option autoImplicit false

namespace MaskedReport.World

/-- The value that a file reads as, once its text is known or what is wrong with the file. -/
def valueOf (blame : FileFault → Failure) : Except FileFault (List Char) → Except Failure Value
  | .error why => .error (blame why)
  | .ok text =>
    match Document.read text with
    | .ok v => .ok v
    | .error (.fault f) => .error (blame (.document f))
    | .error (.scalar f) => .error (.scalar f)
    | .error (.calendar f) => .error (.calendar f)

/-- The value of the document at a path. -/
def document (w : World) (blame : Text → FileFault → Failure) (p : Path) :
    Except Failure Value := do
  Path.checkName p.text
  valueOf (blame p.text) (w.textOf p)

end MaskedReport.World
