import MaskedReport.Endpoint
import MaskedReport.Proofs.Configuration
import MaskedReport.Proofs.LargeBounds
import MaskedReport.Proofs.PatternRefusals
import MaskedReport.Proofs.Rendering

/-!
# Failures of bad patterns

A value that is given as a pattern should be read as one, or be named by the failure of a bad
pattern; of several values the first that is bad should be named. `bad_pattern_reported_iff` says
where that holds: where the value to be named does not escape. A text escapes only by a repetition
bound beyond what is counted or converted, or by flags for both classes of characters, and all of
these are in the text or given with it; any other value escapes if it has no shown form. Texts that
escape do occur: `not_forall_bad_pattern_reported`.
-/

set_option autoImplicit false

namespace MaskedReport

/-- What a value is called in the failure of a bad pattern: a text by itself, a pattern over bytes
by its quoted bytes, and any other value by its shown form. -/
def Value.nameAsPattern : Value → Except Failure Text
  | .text s => .ok s
  | .bytePattern source => .ok (Quoted.bytes source)
  | v => do return Text.ofString (← v.shown)

namespace Pattern

/-! ## Single values -/

/-- How the reading of a value as a pattern should end: a pattern stands for itself, a text is
read, and a bad value is named by the failure. -/
inductive Reported : Value → Except Failure Pattern → Prop
  | itself (p : Pattern) : Reported (.pattern p) (.ok p)
  | read (p : Pattern) : Reported (.text p.text) (.ok p)
  | named {v : Value} {name : Text} (why : PatternFault) (hbad : ∀ p, v ≠ .pattern p)
    (hname : v.nameAsPattern = .ok name) : Reported v (.error (.invalidPattern name why))

/-- Whether a refused text is malformed. -/
def Refusal.IsMalformed (why : Refusal) : Prop :=
  ∃ fault position, why = .malformed fault position

/-- The values whose reading fails without naming them. -/
inductive Escapes (flags : Flags) : Value → Prop
  | refused {s : Text} {why : Refusal} (h : compile flags s = .error why)
    (hwhy : ¬ why.IsMalformed) : Escapes flags (.text s)
  | unshown {v : Value} (h : v.isShowable = false) : Escapes flags v

/-- Whether a text is beyond the bounds of patterns under the given flags: a repetition bound in it
is too large or has too many digits, or flags for both classes of characters are given or turned
on. -/
def BeyondBounds (flags : Flags) (text : List Letter) : Prop :=
  (∃ digits, HasBound text digits ∧ IsBeyond digits) ∨
    (flags.ascii = true ∨ TurnsOn text 'a') ∧ (flags.unicode = true ∨ TurnsOn text 'u')

/-- A refusal that is not for a malformed text is for one beyond the bounds. -/
theorem Refusal.CausedBy.beyondBounds {why : Refusal} {flags : Flags} {text : List Letter}
    (h : why.CausedBy flags text) (hwhy : ¬ why.IsMalformed) : BeyondBounds flags text := by
  cases why with
  | malformed fault position => exact absurd ⟨fault, position, rfl⟩ hwhy
  | repetitionTooLarge =>
    obtain ⟨digits, hbound, hlarge⟩ := h
    exact Or.inl ⟨digits, hbound, Or.inl hlarge⟩
  | numeralTooLong n =>
    obtain ⟨digits, hbound, rfl, hlong⟩ := h
    exact Or.inl ⟨digits, hbound, Or.inr hlong⟩
  | flagsConflict => exact Or.inr h

/-- What escapes of a text is beyond the bounds of patterns. -/
theorem Escapes.beyondBounds {flags : Flags} {s : Text} (h : Escapes flags (.text s)) :
    BeyondBounds flags s.toList := by
  cases h with
  | refused h hwhy =>
    rename_i why
    have hread : Pattern.read flags s.toList = .error why := by
      unfold compile at h
      cases hread : Pattern.read flags s.toList with
      | ok result =>
        rw [hread] at h
        cases h
      | error other =>
        rw [hread] at h
        cases h
        rfl
    exact (causedBy_of_read hread).beyondBounds hwhy
  | unshown h => cases h

/-- A pattern keeps the text it was compiled from. -/
theorem text_of_compile {flags : Flags} {s : Text} {p : Pattern} (h : compile flags s = .ok p) :
    p.text = s := by
  unfold compile at h
  cases hread : Pattern.read flags s.toList with
  | ok result =>
    rw [hread] at h
    cases h
    rfl
  | error why =>
    rw [hread] at h
    cases h

/-- A text escapes if and only if it is refused though not malformed. -/
theorem escapes_text_iff {flags : Flags} {s : Text} :
    Escapes flags (.text s) ↔ ∃ why, compile flags s = .error why ∧ ¬ why.IsMalformed := by
  constructor
  · intro h
    cases h with
    | refused h hwhy => exact ⟨_, h, hwhy⟩
    | unshown h => cases h
  · rintro ⟨why, h, hwhy⟩
    exact .refused h hwhy

/-- A letter with a repetition in braces escapes where the bound is beyond those of patterns. -/
theorem escapes_of_isBeyond {flags : Flags} (hverbose : flags.verbose = false) {c : Letter}
    (hc : c ∉ metaChars) {digits : List Char} (hdigits : ∀ d ∈ digits, Ascii.isDigit d = true)
    (h : IsBeyond digits) :
    Escapes flags
      (.text (.ofList (c :: .char '\x7b' :: (digits.map .char ++ [.char '\x7d'])))) := by
  have hcompile :
      compile flags (.ofList (c :: .char '\x7b' :: (digits.map .char ++ [.char '\x7d']))) =
        .error (beyondRefusal digits) := by
    rw [compile, read_of_isBeyond hverbose hc hdigits h]
    rfl
  refine .refused hcompile ?_
  unfold beyondRefusal
  split <;> simp [Refusal.IsMalformed]

/-- A text is read, or named by the failure, unless it escapes. -/
theorem reported_text_iff (flags : Flags) (s : Text) :
    Reported (.text s) (ofValue flags (.text s)) ↔ ¬ Escapes flags (.text s) := by
  rw [ofValue]
  cases hcompile : compile flags s with
  | ok p =>
    apply iff_of_true
    · have hread := Reported.read p
      rwa [text_of_compile hcompile] at hread
    · rw [escapes_text_iff, hcompile]
      rintro ⟨why, h, -⟩
      cases h
  | error why =>
    cases why with
    | malformed fault position =>
      refine iff_of_true (.named _ (by simp) rfl) ?_
      rw [escapes_text_iff, hcompile]
      rintro ⟨why, h, hwhy⟩
      cases h
      exact hwhy ⟨fault, position, rfl⟩
    | _ =>
      apply iff_of_false
      · intro h
        cases h
      · rw [not_not]
        refine .refused hcompile ?_
        rintro ⟨fault, position, h⟩
        cases h

/-- A value that is neither text nor pattern is named by its shown form, if it has one. -/
theorem reported_shown_iff {flags : Flags} {v : Value}
    (hread : ofValue flags v = v.shown >>= fun name => .error (.invalidPattern name .notText))
    (hname : v.nameAsPattern = do return Text.ofString (← v.shown))
    (hpattern : ∀ p, v ≠ .pattern p) (htext : ∀ s, v ≠ .text s) :
    Reported v (ofValue flags v) ↔ ¬ Escapes flags v := by
  have hshown := v.isOk_shown
  rw [hread]
  cases hv : v.shown with
  | ok name =>
    rw [hv] at hshown hname
    refine iff_of_true (.named _ hpattern hname) ?_
    intro h
    cases h with
    | refused => exact htext _ rfl
    | unshown h =>
      rw [h] at hshown
      cases hshown
  | error why =>
    rw [hv] at hshown hname
    refine iff_of_false ?_ (not_not_intro (.unshown hshown.symm))
    intro h
    cases h with
    | named _ _ hnamed =>
      rw [hname] at hnamed
      cases hnamed

/-- A value is read, or named by the failure, unless it escapes. -/
theorem reported_iff (flags : Flags) (v : Value) :
    Reported v (ofValue flags v) ↔ ¬ Escapes flags v := by
  cases v with
  | text s => exact reported_text_iff flags s
  | pattern p =>
    refine iff_of_true (.itself p) ?_
    rintro (_ | ⟨h⟩)
    cases h
  | bytePattern source =>
    refine iff_of_true (.named _ (by simp) rfl) ?_
    rintro (_ | ⟨h⟩)
    cases h
  | _ => exact reported_shown_iff rfl rfl (by simp) (by simp)

/-! ## Several values -/

/-- Whether a value is read as a pattern among others. -/
def Reads (v : Value) : Prop := ∃ p, ofValue {} v = .ok p

/-- How the reading of values as patterns should end: with success where all of them are read, or
with the failure of the first that is not, which names it. -/
inductive AllReported {α : Type} (given : List Value) : Except Failure α → Prop
  | done (a : α) (h : ∀ v ∈ given, Reads v) : AllReported given (.ok a)
  | first {before after : List Value} {v : Value} {name : Text} {why : PatternFault}
    (hgiven : given = before ++ v :: after) (hbefore : ∀ u ∈ before, Reads u)
    (hv : ofValue {} v = .error (.invalidPattern name why)) (hname : v.nameAsPattern = .ok name) :
    AllReported given (.error (.invalidPattern name why))

/-- Whether no value that comes first among those that are not read escapes. -/
def NoneEscapes (given : List Value) : Prop :=
  ∀ before v after, given = before ++ v :: after → (∀ u ∈ before, Reads u) → ¬ Escapes {} v

section Several

variable {α β : Type} {v : Value} {rest : List Value}

/-- What escapes is not read. -/
theorem not_reads_of_escapes (h : Escapes {} v) : ¬ Reads v := by
  rintro ⟨p, hp⟩
  cases h with
  | @refused s why h hwhy =>
    rw [ofValue, h] at hp
    cases why with
    | malformed fault position => exact hwhy ⟨fault, position, rfl⟩
    | _ => cases hp
  | unshown h =>
    have hshown := v.isOk_shown
    rw [h] at hshown
    cases v with
    | text | pattern | bytePattern => cases h
    | _ =>
      obtain ⟨name, hname, -⟩ := bind_eq_ok hp
      rw [hname] at hshown
      cases hshown

/-- A value that is read is passed over. -/
theorem allReported_cons_of_reads (hv : Reads v) {x : Except Failure α} :
    AllReported (v :: rest) x ↔ AllReported rest x := by
  constructor
  · intro h
    cases h with
    | done a h => exact .done a (List.forall_mem_cons.mp h).2
    | @first before after u name why hgiven hbefore hu hname =>
      cases before with
      | nil =>
        cases hgiven
        obtain ⟨p, hp⟩ := hv
        rw [hu] at hp
        cases hp
      | cons w before =>
        cases hgiven
        exact .first rfl (List.forall_mem_cons.mp hbefore).2 hu hname
  · intro h
    cases h with
    | done a h => exact .done a (List.forall_mem_cons.mpr ⟨hv, h⟩)
    | @first before after u name why hgiven hbefore hu hname =>
      have hcons : v :: rest = (v :: before) ++ u :: after := by
        rw [hgiven]
        rfl
      exact .first hcons (List.forall_mem_cons.mpr ⟨hv, hbefore⟩) hu hname

/-- After a value that is read, the rest decides whether one escapes. -/
theorem noneEscapes_cons_of_reads (hv : Reads v) :
    NoneEscapes (v :: rest) ↔ NoneEscapes rest := by
  constructor
  · intro h before u after hrest hbefore
    exact h (v :: before) u after (by rw [hrest]; rfl) (List.forall_mem_cons.mpr ⟨hv, hbefore⟩)
  · intro h before u after hgiven hbefore
    cases before with
    | nil =>
      cases hgiven
      exact fun hescapes => not_reads_of_escapes hescapes hv
    | cons w before =>
      cases hgiven
      exact h before u after rfl (List.forall_mem_cons.mp hbefore).2

/-- Reading stops at a value that is not read. -/
theorem allReported_cons_of_error {why : Failure} (hv : ofValue {} v = .error why) :
    AllReported (v :: rest) (.error why : Except Failure α) ↔ Reported v (.error why) := by
  constructor
  · intro h
    cases h with
    | @first before after u name fault hgiven hbefore hu hname =>
      cases before with
      | nil =>
        cases hgiven
        refine .named fault ?_ hname
        rintro p rfl
        cases hv
      | cons w before =>
        cases hgiven
        obtain ⟨p, hp⟩ := hbefore v List.mem_cons_self
        rw [hv] at hp
        cases hp
  · intro h
    cases h with
    | named fault _ hname =>
      have hfirst : v :: rest = [] ++ v :: rest := rfl
      exact .first hfirst (by simp) hv hname

/-- The first value that is not read decides alone whether one escapes. -/
theorem noneEscapes_cons_of_error {why : Failure} (hv : ofValue {} v = .error why) :
    NoneEscapes (v :: rest) ↔ ¬ Escapes {} v := by
  constructor
  · exact fun h => h [] v rest rfl (by simp)
  · intro h before u after hgiven hbefore
    cases before with
    | nil =>
      cases hgiven
      exact h
    | cons w before =>
      cases hgiven
      obtain ⟨p, hp⟩ := hbefore v List.mem_cons_self
      rw [hv] at hp
      cases hp

/-- What is made of the patterns in the end makes no difference. -/
theorem allReported_map {given : List Value} {x : Except Failure α} {f : α → β} :
    AllReported given (x.map f) ↔ AllReported given x := by
  constructor
  · intro h
    cases x with
    | ok a =>
      cases h with
      | done _ h => exact .done a h
    | error why =>
      cases h with
      | first hgiven hbefore hv hname => exact .first hgiven hbefore hv hname
  · intro h
    cases h with
    | done a h => exact .done (f a) h
    | first hgiven hbefore hv hname => exact .first hgiven hbefore hv hname

end Several

/-- Values are read, or the first bad one is named by the failure, unless that one escapes. -/
theorem allReported_iff (given : List Value) :
    AllReported given (ofValues given) ↔ NoneEscapes given := by
  induction given with
  | nil =>
    refine iff_of_true (.done [] (by simp)) ?_
    intro before v after h
    simp at h
  | cons v rest ih =>
    rw [ofValues]
    cases hv : ofValue {} v with
    | ok p =>
      rw [noneEscapes_cons_of_reads ⟨p, hv⟩, ← ih]
      have hmap : (do return p :: (← ofValues rest) : Except Failure (List Pattern)) =
          (ofValues rest).map (p :: ·) := by
        cases ofValues rest with
        | ok ps => rfl
        | error why => rfl
      show AllReported (v :: rest) (do return p :: (← ofValues rest)) ↔ _
      rw [hmap, allReported_map, allReported_cons_of_reads ⟨p, hv⟩]
    | error why =>
      rw [noneEscapes_cons_of_error hv, ← reported_iff, hv]
      exact allReported_cons_of_error hv

end Pattern

/-- A mode with its name is a known one, and the patterns after it are read one after the other. -/
theorem Masking.ofValues_name (m : Mode) (given : List Value) :
    Masking.ofValues (.text m.name) (.list given) =
      (Pattern.ofValues given).map fun patterns => { mode := m, patterns } := by
  have hmode : Mode.ofValue (.text m.name) = .ok m := by
    cases m <;> simp [Mode.ofValue, Mode.every, Mode.name, Value.same]
  rw [Masking.ofValues, hmode]
  cases hgiven : Pattern.ofValues given with
  | ok patterns =>
    show (Pattern.ofValues given >>= _) = _
    rw [hgiven]
    rfl
  | error why =>
    show (Pattern.ofValues given >>= _) = _
    rw [hgiven]
    rfl

/-- A value that is given as a pattern is read or named by the failure of a bad pattern unless it
escapes, which a text does only beyond the bounds of patterns; of several values, whoever reads
them, the first that is bad decides. -/
theorem bad_pattern_reported_iff (flags : Pattern.Flags) (v : Value) (given : List Value)
    (p : Policy) (m : Mode) :
    (Pattern.Reported v (Pattern.ofValue flags v) ↔ ¬ Pattern.Escapes flags v) ∧
      (∀ s, v = .text s → Pattern.Escapes flags v → Pattern.BeyondBounds flags s.toList) ∧
      (Pattern.AllReported given (Pattern.ofValues given) ↔ Pattern.NoneEscapes given) ∧
      (Pattern.AllReported given (p.attempt (.patterns given)).1 ↔ Pattern.NoneEscapes given) ∧
      (Pattern.AllReported given (Masking.ofValues (.text m.name) (.list given)) ↔
        Pattern.NoneEscapes given) := by
  have hgiven := Pattern.allReported_iff given
  refine ⟨Pattern.reported_iff flags v, ?_, hgiven, ?_, ?_⟩
  · rintro s rfl h
    exact h.beyondBounds
  · rw [Policy.attempt_fst, Policy.Step.compiled, ← Pattern.ofValues_eq_mapM,
      Pattern.allReported_map]
    exact hgiven
  · rw [Masking.ofValues_name, Pattern.allReported_map]
    exact hgiven

/-- A text with a bound that is too large to be counted. -/
def Pattern.boundless : String := "a\x7b4294967296\x7d"

/-- The repetition with too large a bound escapes. -/
theorem Pattern.escapes_boundless : Pattern.Escapes {} (.text Pattern.boundless) := by
  have htext : Text.ofString Pattern.boundless = .ofList
      (.char 'a' :: .char '\x7b' :: ("4294967296".toList.map .char ++ [.char '\x7d'])) := rfl
  have hnumber : Pattern.number 10 "4294967296".toList = 4294967296 := rfl
  have hlarge : Pattern.Node.unbounded ≤ Pattern.number 10 "4294967296".toList := by
    rw [hnumber]
    simp [Pattern.Node.unbounded]
  have hdigits : "4294967296".toList.all Ascii.isDigit = true := rfl
  rw [htext]
  exact Pattern.escapes_of_isBeyond rfl (by decide) (List.all_eq_true.mp hdigits) (Or.inl hlarge)

/-- The repetition with too large a bound is beyond the bounds, so it is not reported. -/
theorem bad_pattern_reported_iff_boundless :
    Pattern.Escapes {} (.text Pattern.boundless) ∧
      Pattern.BeyondBounds {} (Text.ofString Pattern.boundless).toList :=
  ⟨Pattern.escapes_boundless, (bad_pattern_reported_iff {} _ [] default .all).2.1 _ rfl
    Pattern.escapes_boundless⟩

/-- Not every value is read or named: a bound that is too large to be counted ends the reading in a
failure that is not that of a bad pattern. -/
theorem not_forall_bad_pattern_reported : ¬ ∀ v, Pattern.Reported v (Pattern.ofValue {} v) := by
  intro h
  have hreported := h (.text Pattern.boundless)
  rw [Pattern.reported_iff] at hreported
  exact hreported Pattern.escapes_boundless

end MaskedReport
