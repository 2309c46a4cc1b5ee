import MaskedReport.Proofs.Nesting
import MaskedReport.Proofs.Rendering
import MaskedReport.Settings

/-!
# Causes of failures

What each step from settings to an endpoint can fail for. A failure has a cause, the settings or
something that they are not blamed for, and a computation fails by some causes if every failure of
it has one of them. Steps in a row fail by the causes of each, so the causes of an endpoint are read
off those of its parts: `Settings.failsBy_endpoint`.
-/

set_option autoImplicit false

namespace MaskedReport

/-! ## Causes -/

/-- What a failure comes from. -/
inductive Cause where
  /-- The settings are to blame. -/
  | settings
  /-- A value is no pattern, for which the settings are to blame too. -/
  | badPattern
  /-- A pattern is beyond the bounds of patterns, though well formed. -/
  | pattern
  /-- A whole number is too long to be written. -/
  | numeral
  /-- An order is infinite. -/
  | order
  /-- A value is no path, a home is not known, or a name cannot be that of a file or an account. -/
  | path
  /-- A scalar in a document, or a bound in a pattern, does not convert. -/
  | scalar
  /-- A mapping is within itself. -/
  | nesting
  /-- A value has no JSON text. -/
  | output
  /-- There is no such level. -/
  | level
  | other
  deriving DecidableEq

/-- The cause of a failure. -/
def Failure.cause : Failure → Cause
  | settingsForm | listSetting _ _ | flagSetting _ _ | sourceEntry _ | sourceOrder _
  | unknownMode _ | sourceFile _ _ | settingsFile _ _ | sourceForm _ _ => .settings
  | invalidPattern _ _ => .badPattern
  | repetitionTooLarge | flagsConflict => .pattern
  | numeralUnwritable => .numeral
  | infiniteOrder => .order
  | pathKind _ | pathOfBytes | noHome | nullInName | nameUnencodable _ => .path
  | scalar _ | calendar _ => .scalar
  | endlessNesting => .nesting
  | circular | keyUnwritable _ | textUnencodable _ => .output
  | unknownLevel _ | levelKind _ => .level
  | _ => .other

/-- The failure of a computation. -/
def failure? {α : Type} : Except Failure α → Option Failure
  | .ok _ => none
  | .error why => some why

/-- A computation that has a failure fails by it. -/
theorem eq_error_of_failure? {α : Type} {x : Except Failure α} {why : Failure}
    (h : failure? x = some why) : x = .error why := by
  cases x with
  | ok a => cases h
  | error e => exact congrArg Except.error (Option.some.inj h)

/-- Every failure of a computation has a property. -/
def FailsAs {α : Type} (P : Failure → Prop) (x : Except Failure α) : Prop :=
  ∀ why, x = .error why → P why

section FailsAs

variable {α β : Type} {P : Failure → Prop}

/-- A result is no failure. -/
theorem failsAs_ok (a : α) : FailsAs P (.ok a) := nofun

/-- A failure is the only one of itself. -/
theorem failsAs_error_iff {why : Failure} : FailsAs P (.error why : Except Failure α) ↔ P why := by
  constructor
  · exact fun h => h why rfl
  · intro h other hother
    cases hother
    exact h

/-- Steps in a row fail in a way if and only if each that is reached does. -/
theorem failsAs_bind_iff {x : Except Failure α} {f : α → Except Failure β} :
    FailsAs P (x >>= f) ↔ FailsAs P x ∧ ∀ a, x = .ok a → FailsAs P (f a) := by
  cases x with
  | error why =>
    show FailsAs P (.error why) ↔ _
    rw [failsAs_error_iff, failsAs_error_iff]
    exact (and_iff_left nofun).symm
  | ok a =>
    show FailsAs P (f a) ↔ _
    constructor
    · intro h
      refine ⟨failsAs_ok a, ?_⟩
      rintro _ ⟨⟩
      exact h
    · exact fun h => h.2 a rfl

/-- A step that is followed by one that cannot fail. -/
theorem failsAs_bind_pure_iff {x : Except Failure α} {f : α → β} :
    FailsAs P (x >>= fun a => pure (f a)) ↔ FailsAs P x := by
  rw [failsAs_bind_iff]
  exact and_iff_left fun a _ => failsAs_ok (f a)

/-- Steps for all items fail in a way if and only if that of each item does before which all steps
succeed. -/
theorem failsAs_mapM_iff {f : α → Except Failure β} {items : List α} :
    FailsAs P (items.mapM f) ↔ ∀ before a after, items = before ++ a :: after →
      (∀ b ∈ before, ∃ result, f b = .ok result) → FailsAs P (f a) := by
  induction items with
  | nil =>
    refine iff_of_true (failsAs_ok []) ?_
    intro before a after h
    simp at h
  | cons first rest ih =>
    rw [List.mapM_cons, failsAs_bind_iff]
    simp only [failsAs_bind_pure_iff, ih]
    constructor
    · rintro ⟨hfirst, hrest⟩ before a after hitems hbefore
      cases before with
      | nil =>
        cases hitems
        exact hfirst
      | cons b before =>
        cases hitems
        obtain ⟨result, hresult⟩ := hbefore first List.mem_cons_self
        exact hrest result hresult before a after rfl fun c hc =>
          hbefore c (List.mem_cons_of_mem first hc)
    · intro h
      refine ⟨h [] first rest rfl nofun, ?_⟩
      intro result hresult before a after hitems hbefore
      refine h (first :: before) a after (by rw [hitems, List.cons_append]) ?_
      intro b hb
      rcases List.mem_cons.mp hb with rfl | hb
      · exact ⟨result, hresult⟩
      · exact hbefore b hb

end FailsAs

/-- Every failure of a computation has one of the causes. -/
def FailsBy {α : Type} (causes : List Cause) (x : Except Failure α) : Prop :=
  FailsAs (fun why => why.cause ∈ causes) x

section FailsBy

variable {α β : Type} {causes : List Cause}

/-- A result fails by nothing. -/
theorem failsBy_ok (a : α) : FailsBy causes (.ok a) := failsAs_ok a

/-- A failure fails by its own cause. -/
theorem failsBy_error {why : Failure} (c : Cause) (hcause : why.cause = c) (h : c ∈ causes) :
    FailsBy causes (.error why : Except Failure α) := by
  refine failsAs_error_iff.mpr ?_
  rw [hcause]
  exact h

/-- Steps in a row fail by what either fails by. -/
theorem FailsBy.bind {x : Except Failure α} {f : α → Except Failure β} (hx : FailsBy causes x)
    (hf : ∀ a, FailsBy causes (f a)) : FailsBy causes (x >>= f) :=
  failsAs_bind_iff.mpr ⟨hx, fun a _ => hf a⟩

/-- More causes may be allowed. -/
theorem FailsBy.mono {more : List Cause} {x : Except Failure α} (h : FailsBy causes x)
    (hmore : causes ⊆ more) : FailsBy more x :=
  fun why hwhy => hmore (h why hwhy)

end FailsBy

/-! ## Values -/

/-- The text of a whole number fails only if it is too long. -/
theorem failsBy_wholeText (i : Int) : FailsBy [.numeral] (wholeText i) := by
  unfold wholeText
  split
  · exact failsBy_error .numeral rfl (by simp)
  · exact failsBy_ok _

namespace Value

mutual

/-- Showing a value fails only by a whole number that is too long. -/
theorem failsBy_shown : (v : Value) → FailsBy [.numeral] v.shown
  | .null => failsBy_ok _
  | .bool _ => failsBy_ok _
  | .int i => failsBy_wholeText i
  | .real _ => failsBy_ok _
  | .text _ => failsBy_ok _
  | .bytes _ => failsBy_ok _
  | .date _ => failsBy_ok _
  | .instant _ => failsBy_ok _
  | .list items => (failsBy_shownItems items).bind fun _ => failsBy_ok _
  | .tuple items => by
    rw [shown]
    apply (failsBy_shownItems items).bind
    intro all
    split
    · exact failsBy_ok _
    · exact failsBy_ok _
  | .set [] => failsBy_ok _
  | .set (v :: rest) => by
    rw [shown]
    · exact (failsBy_shownItems (v :: rest)).bind fun _ => failsBy_ok _
    · nofun
  | .map entries => (failsBy_shownEntries entries).bind fun _ => failsBy_ok _
  | .pattern _ => failsBy_ok _
  | .bytePattern _ => failsBy_ok _
  | .loop _ => failsBy_ok _

/-- Showing items fails only by a whole number that is too long. -/
theorem failsBy_shownItems : (items : List Value) → FailsBy [.numeral] (shownItems items)
  | [] => failsBy_ok _
  | v :: rest =>
    (failsBy_shown v).bind fun _ => (failsBy_shownItems rest).bind fun _ => failsBy_ok _

/-- Showing entries fails only by a whole number that is too long. -/
theorem failsBy_shownEntries :
    (entries : List (Value × Value)) → FailsBy [.numeral] (shownEntries entries)
  | [] => failsBy_ok _
  | (k, v) :: rest =>
    (failsBy_shown k).bind fun _ => (failsBy_shown v).bind fun _ =>
      (failsBy_shownEntries rest).bind fun _ => failsBy_ok _

end

/-- The text of a value fails only by a whole number that is too long. -/
theorem failsBy_toText (v : Value) : FailsBy [.numeral] v.toText := by
  cases v with
  | text s => exact failsBy_ok s
  | date d => exact failsBy_ok _
  | instant t => exact failsBy_ok _
  | _ => exact (failsBy_shown _).bind fun _ => failsBy_ok _

end Value

namespace Settings

/-- An order fails only by being infinite. -/
theorem failsBy_orderOf (v : Value) : FailsBy [.order] (orderOf v) := by
  unfold orderOf
  repeat' split
  case h_3 => exact failsBy_error .order rfl (by simp)
  all_goals exact failsBy_ok _

end Settings

/-! ## Files -/

namespace Path

end Path

namespace Flatten

/-- A leaf fails only by the text of its key or by being endless. -/
theorem failsBy_leaf (path : Text) (key value : Value) (h : IsLeaf value) :
    FailsBy [.numeral, .nesting] (entry path key value) := by
  rw [entry_leaf h]
  exact ((Value.failsBy_toText key).mono (by simp)).bind fun _ => failsBy_ok _

mutual

/-- An entry below a path fails only by the text of a key or by endless nesting. -/
theorem failsBy_entry (path : Text) (key : Value) :
    (value : Value) → FailsBy [.numeral, .nesting] (entry path key value)
  | .map (first :: rest) => by
    rw [entry]
    exact ((Value.failsBy_toText key).mono (by simp)).bind fun _ =>
      (failsBy_entries _ (first :: rest)).bind fun _ => failsBy_ok _
  | .loop true => by
    rw [entry]
    exact ((Value.failsBy_toText key).mono (by simp)).bind fun _ =>
      failsBy_error .nesting rfl (by simp)
  | .map [] => failsBy_leaf path key (.map []) trivial
  | .loop false => failsBy_leaf path key (.loop false) trivial
  | .null => failsBy_leaf path key .null trivial
  | .bool b => failsBy_leaf path key (.bool b) trivial
  | .int i => failsBy_leaf path key (.int i) trivial
  | .real x => failsBy_leaf path key (.real x) trivial
  | .text s => failsBy_leaf path key (.text s) trivial
  | .bytes bs => failsBy_leaf path key (.bytes bs) trivial
  | .date d => failsBy_leaf path key (.date d) trivial
  | .instant t => failsBy_leaf path key (.instant t) trivial
  | .list items => failsBy_leaf path key (.list items) trivial
  | .tuple items => failsBy_leaf path key (.tuple items) trivial
  | .set items => failsBy_leaf path key (.set items) trivial
  | .pattern p => failsBy_leaf path key (.pattern p) trivial
  | .bytePattern source => failsBy_leaf path key (.bytePattern source) trivial

/-- Entries below a path fail only by the text of a key or by endless nesting. -/
theorem failsBy_entries (path : Text) :
    (es : List (Value × Value)) → FailsBy [.numeral, .nesting] (entries path es)
  | [] => failsBy_ok _
  | (key, value) :: rest =>
    (failsBy_entry path key value).bind fun _ => (failsBy_entries path rest).bind fun _ =>
      failsBy_ok _

end

end Flatten

namespace Settings

end Settings

/-! ## Output -/

namespace Json

/-- A key fails only by having no name in JSON or by a number that is too long. -/
theorem failsBy_keyText (layout : Layout) (k : Value) :
    FailsBy [.output, .numeral] (keyText layout k) := by
  cases k with
  | int i => exact ((failsBy_wholeText i).mono (by simp)).bind fun _ => failsBy_ok _
  | null => exact failsBy_ok _
  | bool b => exact failsBy_ok _
  | real x => exact failsBy_ok _
  | text s => exact failsBy_ok _
  | _ => exact failsBy_error .output rfl (by simp)

/-- Encoding fails only as an output. -/
theorem failsBy_encoded (s : Text) : FailsBy [.output, .numeral] (encoded s) := by
  unfold encoded
  split
  · exact failsBy_ok _
  · exact failsBy_error .output rfl (by simp)

/-- A value written as a text fails only by that text. -/
theorem failsBy_quoted_toText (v : Value) :
    FailsBy [.output, .numeral] (do return quoted (← v.toText)) :=
  ((Value.failsBy_toText v).mono (by simp)).bind fun _ => failsBy_ok _

mutual

/-- Writing a value fails only by a key, a loop or a number that is too long. -/
theorem failsBy_write (layout : Layout) :
    (depth : Nat) → (v : Value) → FailsBy [.output, .numeral] (write layout depth v)
  | _, .null => failsBy_ok _
  | _, .bool _ => failsBy_ok _
  | _, .int i => ((failsBy_wholeText i).mono (by simp)).bind fun _ => failsBy_ok _
  | _, .real _ => failsBy_ok _
  | _, .text _ => failsBy_ok _
  | depth, .list items => (failsBy_writeItems layout (depth + 1) items).bind fun _ => failsBy_ok _
  | depth, .tuple items => (failsBy_writeItems layout (depth + 1) items).bind fun _ => failsBy_ok _
  | depth, .map entries =>
    (failsBy_writeEntries layout (depth + 1) entries).bind fun _ => failsBy_ok _
  | _, .loop _ => failsBy_error .output rfl (by simp)
  | _, .set items => failsBy_quoted_toText (.set items)
  | _, .bytes bs => failsBy_quoted_toText (.bytes bs)
  | _, .date d => failsBy_quoted_toText (.date d)
  | _, .instant t => failsBy_quoted_toText (.instant t)
  | _, .pattern p => failsBy_quoted_toText (.pattern p)
  | _, .bytePattern source => failsBy_quoted_toText (.bytePattern source)

/-- Writing items fails only by a key, a loop or a number that is too long. -/
theorem failsBy_writeItems (layout : Layout) :
    (depth : Nat) → (items : List Value) →
      FailsBy [.output, .numeral] (writeItems layout depth items)
  | _, [] => failsBy_ok _
  | depth, v :: rest =>
    (failsBy_write layout depth v).bind fun _ =>
      (failsBy_writeItems layout depth rest).bind fun _ => failsBy_ok _

/-- Writing entries fails only by a key, a loop or a number that is too long. -/
theorem failsBy_writeEntries (layout : Layout) :
    (depth : Nat) → (entries : List (Value × Value)) →
      FailsBy [.output, .numeral] (writeEntries layout depth entries)
  | _, [] => failsBy_ok _
  | depth, (k, v) :: rest =>
    (failsBy_keyText layout k).bind fun _ => (failsBy_write layout depth v).bind fun _ =>
      (failsBy_writeEntries layout depth rest).bind fun _ => failsBy_ok _

end

end Json

end MaskedReport
