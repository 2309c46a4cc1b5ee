import MaskedReport.Calendar
import MaskedReport.Document.Fault

/-!
# Why a document has no value

A document is refused for a fault of its own, or because a scalar does not convert to the kind of
value that it announces.
-/

set_option autoImplicit false

namespace MaskedReport.Document

/-- Why a document has no value. -/
inductive Refusal where
  | fault (f : Fault)
  | scalar (f : ScalarFault)
  | calendar (f : CalendarFault)
  deriving DecidableEq

end MaskedReport.Document
