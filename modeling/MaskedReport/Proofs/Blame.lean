import MaskedReport.Proofs.Causes
import MaskedReport.Proofs.Loading
import MaskedReport.Proofs.NormalForm

/-!
# What is blamed on the settings

A caller of the readers of settings and sources tells failures apart by their family, and expects
that all are in that of the settings. A computation whose failures are all in it is blamed on the
settings; steps in a row are so if and only if each that is reached is, and each reader comes to the
condition under which its parts are. `Settings.value_failures_contained_iff` is the condition for
settings in a value, `document_failures_contained_iff` that for documents in files. Neither always
holds: `Settings.not_forall_value_failures_contained`, `not_forall_document_failures_contained`.
-/

set_option autoImplicit false

namespace MaskedReport

/-! ## Families -/

/-- What callers tell a failure by without its message. -/
inductive Failure.Family where
  | settings
  | pattern
  /-- A value of the right kind that does not do. -/
  | value
  /-- A value of another kind. -/
  | kind
  /-- A value that lacks what is asked of it. -/
  | member
  | key
  | index
  | overflow
  | nesting
  | surroundings
  deriving DecidableEq

/-- The family of what is wrong with a scalar. -/
def Document.ScalarFault.family : Document.ScalarFault → Failure.Family
  | notBoolean _ => .key
  | noNumber => .index
  | notInstant => .member
  | instantOfMapping => .kind
  | placeTooLarge | codeOverflow => .overflow
  | malformedInteger _ _ | malformedReal _ | numeralTooLong _ | codePoint => .value

/-- The family of a failure. -/
def Failure.family : Failure → Family
  | settingsForm | listSetting _ _ | flagSetting _ _ | sourceEntry _ | sourceOrder _
  | unknownMode _ | sourceFile _ _ | settingsFile _ _ | sourceForm _ _ => .settings
  | invalidPattern _ _ => .pattern
  | repetitionTooLarge | infiniteOrder => .overflow
  | flagsConflict | pairLength _ _ | numeralUnwritable | calendar _ | nullInName
  | nameUnencodable _ | circular | textUnencodable _ | target _ | unknownLevel _ => .value
  | keyNotText _ | keyOfBytes | unhashable _ | notIterable _ | notAPair _ | unordered _ _
  | zoneMismatch | dateAgainstTime | pathKind _ | pathOfBytes | keyUnwritable _ => .kind
  | noEntries _ | levelKind _ => .member
  | noSuchKey _ => .key
  | endlessNesting => .nesting
  | noHome | refused _ => .surroundings
  | scalar why => why.family

/-- What is wrong with a scalar is blamed neither on the settings nor on a pattern. -/
theorem Document.ScalarFault.family_ne (fault : Document.ScalarFault) :
    fault.family ≠ .settings ∧ fault.family ≠ .pattern := by
  cases fault <;> simp [family]

/-- The settings are the cause of the failures of their family. -/
theorem Failure.cause_eq_settings_iff (why : Failure) :
    why.cause = .settings ↔ why.family = .settings := by
  cases why with
  | scalar fault => simp [cause, family, fault.family_ne]
  | _ => simp [cause, family]

/-- Every failure of a computation is in the family of the settings. -/
def Blamed {α : Type} (x : Except Failure α) : Prop :=
  FailsAs (fun why => why.family = .settings) x

section Blamed

variable {α β : Type}

/-- A result is no failure to blame on anything. -/
theorem blamed_ok (a : α) : Blamed (.ok a) := failsAs_ok a

/-- A computation is blamed on the settings if and only if it has a result or fails in their family.
-/
theorem blamed_iff_ok_or_error {x : Except Failure α} :
    Blamed x ↔ (∃ a, x = .ok a) ∨ ∃ why, x = .error why ∧ why.family = .settings := by
  cases x with
  | ok a => exact iff_of_true (blamed_ok a) (Or.inl ⟨a, rfl⟩)
  | error why => simp [Blamed, FailsAs]

/-- A failure is blamed on the settings if and only if it is of their family. -/
theorem blamed_error_iff {why : Failure} :
    Blamed (.error why : Except Failure α) ↔ why.family = .settings :=
  failsAs_error_iff

/-- Steps in a row are blamed on the settings if and only if each that is reached is. -/
theorem blamed_bind_iff {x : Except Failure α} {f : α → Except Failure β} :
    Blamed (x >>= f) ↔ Blamed x ∧ ∀ a, x = .ok a → Blamed (f a) :=
  failsAs_bind_iff

/-- A step that is followed by one that cannot fail. -/
theorem blamed_bind_pure_iff {x : Except Failure α} {f : α → β} :
    Blamed (x >>= fun a => pure (f a)) ↔ Blamed x :=
  failsAs_bind_pure_iff

/-- Where no failure comes from the settings, only what succeeds is blamed on them. -/
theorem blamed_iff_exists_ok {causes : List Cause} {x : Except Failure α} (h : FailsBy causes x)
    (hcauses : Cause.settings ∉ causes) : Blamed x ↔ ∃ a, x = .ok a := by
  constructor
  · intro hblamed
    cases x with
    | ok a => exact ⟨a, rfl⟩
    | error why =>
      have hcause : why.cause ∈ causes := h why rfl
      rw [why.cause_eq_settings_iff.mpr (hblamed why rfl)] at hcause
      exact absurd hcause hcauses
  · rintro ⟨a, rfl⟩
    exact blamed_ok a

/-- Steps for all items are blamed on the settings if and only if that of each item is before which
all steps succeed. -/
theorem blamed_mapM_iff {f : α → Except Failure β} {items : List α} :
    Blamed (items.mapM f) ↔ ∀ before a after, items = before ++ a :: after →
      (∀ b ∈ before, ∃ result, f b = .ok result) → Blamed (f a) :=
  failsAs_mapM_iff

end Blamed

/-! ## Values in messages -/

/-- Showing a value is blamed on the settings only if it succeeds. -/
theorem Value.blamed_shown_iff (v : Value) : Blamed v.shown ↔ v.isShowable = true := by
  rw [blamed_iff_exists_ok (failsBy_shown v) (by simp), ← isOk_shown]
  cases v.shown with
  | ok t => exact iff_of_true ⟨t, rfl⟩ rfl
  | error why => exact iff_of_false nofun nofun

/-- The text of a value is blamed on the settings only if it has one. -/
theorem Value.blamed_toText_iff (v : Value) : Blamed v.toText ↔ v.isShowable = true := by
  cases v with
  | text s => exact iff_of_true (blamed_ok s) rfl
  | date d => exact iff_of_true (blamed_ok (Text.ofString d.text)) rfl
  | instant t => exact iff_of_true (blamed_ok (Text.ofString (t.textWith " "))) rfl
  | _ => simp only [toText, blamed_bind_pure_iff, blamed_shown_iff]

/-- A failure of the settings whose message shows a value is theirs if the value can be shown. -/
theorem blamed_throw_shown_iff {α : Type} {v : Value} {f : String → Failure}
    (hf : ∀ t, (f t).family = .settings) :
    Blamed (do throw (f (← v.shown)) : Except Failure α) ↔ v.isShowable = true := by
  rw [blamed_bind_iff, v.blamed_shown_iff]
  exact and_iff_left fun t _ => blamed_error_iff.mpr (hf t)

namespace Settings

/-! ## Parts of settings -/

/-- Whether a flag is absent or a truth value. -/
def IsFlag (es : Entries) (key : String) : Prop :=
  es.named? key = none ∨ ∃ b, es.named? key = some (.bool b)

/-- Whether a flag is given as something else, which cannot be shown. -/
def EscapesAsFlag (es : Entries) (key : String) : Prop :=
  ∃ v, es.named? key = some v ∧ (∀ b, v ≠ .bool b) ∧ v.isShowable = false

/-- Whether an item among the sources fails for something other than its form: it is no source and
cannot be shown, or it is one by its path, whose order is infinite or whose path cannot be shown. -/
inductive EscapesAsSource : Value → Prop
  | form {v : Value} (htext : ∀ s, v ≠ .text s)
    (hpath : ∀ es, v = .map es → Entries.named? "path" es = none) (hshown : v.isShowable = false) :
    EscapesAsSource v
  | order {es : Entries} {p : Value} {negative : Bool} (hpath : es.named? "path" = some p)
    (horder : es.named? "order" = some (.real (.infinite negative))) : EscapesAsSource (.map es)
  | path {es : Entries} {p : Value} (hpath : es.named? "path" = some p)
    (hshown : p.isShowable = false) : EscapesAsSource (.map es)

/-- Whether the first part of a section that is not of its form fails for something else: flags and
sources whose failure has to show what cannot be shown, and infinite orders. -/
inductive Escapes (es : Entries) : Prop
  | enabled (h : EscapesAsFlag es "enabled")
  | includeEnvironment (henabled : IsFlag es "enabled")
    (hlists : ∀ key ∈ ["mask_patterns", "active_environments", "packages"],
      ∃ items, Value.Lists (es.named? key) items)
    (h : EscapesAsFlag es "include_environ")
  | source (hflags : ∀ key ∈ ["enabled", "include_environ"], IsFlag es key)
    (hlists : ∀ key ∈ ["mask_patterns", "active_environments", "packages"],
      ∃ items, Value.Lists (es.named? key) items)
    {before after : List Value} {item : Value}
    (hitems : Value.Lists (es.named? "property_sources") (before ++ item :: after))
    (hbefore : ∀ b ∈ before, ∃ x, Names b x) (h : EscapesAsSource item)

/-- A setting is read as true or false if and only if it is a flag or absent. -/
theorem exists_flagSetting_iff (es : Entries) (key : String) (default : Bool) :
    (∃ b, flagSetting es key default = .ok b) ↔ IsFlag es key := by
  simp only [flagSetting_eq_ok_iff, IsFlag]
  cases es.named? key with
  | none => simp
  | some v => simp

/-- A flag is blamed on the settings unless it escapes as one. -/
theorem blamed_flagSetting_iff (es : Entries) (key : String) (default : Bool) :
    Blamed (flagSetting es key default) ↔ ¬ EscapesAsFlag es key := by
  unfold flagSetting EscapesAsFlag
  cases es.named? key with
  | none => exact iff_of_true (blamed_ok default) (by simp)
  | some v =>
    cases v with
    | bool b => exact iff_of_true (blamed_ok b) (by simp)
    | _ =>
      rw [blamed_throw_shown_iff fun _ => rfl]
      simp

/-- A list is blamed on the settings whatever it is. -/
theorem blamed_listSetting (es : Entries) (key : String) : Blamed (listSetting es key) := by
  unfold listSetting
  split
  case h_6 => exact blamed_error_iff.mpr rfl
  all_goals exact blamed_ok _

/-- A section that is no mapping is blamed on the settings. -/
theorem blamed_entriesOf (v : Value) : Blamed (entriesOf v) := by
  unfold entriesOf
  repeat' split
  all_goals first
    | exact blamed_ok _
    | exact blamed_error_iff.mpr rfl

/-- An order is blamed on the settings unless it is infinite. -/
theorem blamed_orderOf_iff (v : Value) :
    Blamed (orderOf v) ↔ ∀ negative, v ≠ .real (.infinite negative) := by
  constructor
  · rintro h negative rfl
    cases h .infiniteOrder rfl
  · intro hfinite
    unfold orderOf
    repeat' split
    case h_3 negative => exact absurd rfl (hfinite negative)
    all_goals exact blamed_ok _

/-- What is made of a path and an order is blamed on the settings if the path can be shown. -/
theorem blamed_ordered_iff (p name : Value) (order? : Option Int) :
    Blamed (match order? with
      | none => do throw (.sourceOrder (← p.shown))
      | some order => do return ({ path := ← p.toText, name, order } : SourceSetting)) ↔
      p.isShowable = true := by
  cases order? with
  | none => exact blamed_throw_shown_iff fun _ => rfl
  | some order => exact blamed_bind_pure_iff.trans p.blamed_toText_iff

/-- A mapping with a path is blamed on the settings if its order is finite and the path can be
shown. -/
theorem blamed_sourceOfEntries_iff {es : Entries} {p : Value} (hpath : es.named? "path" = some p)
    (shown : Except Failure String) :
    Blamed (sourceOfEntries shown es) ↔
      (∀ negative, es.named? "order" ≠ some (.real (.infinite negative))) ∧
        p.isShowable = true := by
  have horder : Blamed (orderOf ((es.named? "order").getD (.int 0))) ↔
      ∀ negative, es.named? "order" ≠ some (.real (.infinite negative)) := by
    rw [blamed_orderOf_iff]
    cases es.named? "order" with
    | none => simp
    | some v => simp
  rw [sourceOfEntries, hpath]
  dsimp only
  rw [blamed_bind_iff, horder]
  constructor
  · rintro ⟨hfinite, hrest⟩
    obtain ⟨order?, hok⟩ := (blamed_iff_exists_ok (failsBy_orderOf _) (by simp)).mp
      (horder.mpr hfinite)
    exact ⟨hfinite, (blamed_ordered_iff p _ order?).mp (hrest order? hok)⟩
  · rintro ⟨hfinite, hshown⟩
    exact ⟨hfinite, fun order? _ => (blamed_ordered_iff p _ order?).mpr hshown⟩

/-- An item among the sources is blamed on the settings unless it escapes as one. -/
theorem blamed_sourceOf_iff (v : Value) : Blamed (sourceOf v) ↔ ¬ EscapesAsSource v := by
  have hother : (∀ s, v ≠ .text s) → (∀ es, v = .map es → Entries.named? "path" es = none) →
      (v.isShowable = true ↔ ¬ EscapesAsSource v) := by
    intro htext hpath
    constructor
    · rintro hshown (⟨-, -, hnot⟩ | ⟨hsome, -⟩ | ⟨hsome, -⟩)
      · simp [hshown] at hnot
      · simp [hpath _ rfl] at hsome
      · simp [hpath _ rfl] at hsome
    · intro h
      by_contra hnot
      exact h (.form htext hpath (Bool.not_eq_true _ ▸ hnot))
  cases v with
  | text s =>
    rw [sourceOf_text]
    refine iff_of_true (blamed_ok _) ?_
    rintro ⟨htext, -, -⟩
    exact htext s rfl
  | map es =>
    cases hpath : Entries.named? "path" es with
    | none =>
      rw [← hother (by intro s h; cases h) (by rintro _ ⟨⟩; exact hpath)]
      show Blamed (sourceOfEntries (Value.map es).shown es) ↔ _
      rw [sourceOfEntries, hpath]
      exact blamed_throw_shown_iff fun _ => rfl
    | some p =>
      refine (blamed_sourceOfEntries_iff hpath _).trans ⟨?_, fun h => ⟨?_, ?_⟩⟩
      · rintro ⟨hfinite, hshown⟩ (⟨-, hnone, -⟩ | ⟨-, horder⟩ | ⟨hsome, hnot⟩)
        · simp [hnone es rfl] at hpath
        · exact hfinite _ horder
        · rw [hpath] at hsome
          cases hsome
          simp [hshown] at hnot
      · exact fun negative horder => h (.order hpath horder)
      · by_contra hnot
        exact h (.path hpath (Bool.not_eq_true _ ▸ hnot))
  | _ =>
    rw [← hother (by intro s h; cases h) (by intro es h; cases h)]
    exact blamed_throw_shown_iff fun _ => rfl

/-! ## Settings -/

/-- Settings in a value are blamed for their failures unless the first part of their section that is
not of its form escapes. -/
theorem blamed_ofValue_iff (v : Value) :
    Blamed (ofValue v) ↔ ∀ es, sectionOf v = .map es → ¬ Escapes es := by
  rw [ofValue, blamed_bind_iff, and_iff_right (blamed_entriesOf v)]
  simp only [entriesOf_eq_ok_iff]
  refine forall₂_congr fun es _ => ?_
  simp only [blamed_bind_iff, blamed_flagSetting_iff, blamed_listSetting, true_and, blamed_mapM_iff,
    blamed_sourceOf_iff, listSetting_eq_ok_iff, sourceOf_eq_ok_iff]
  constructor
  · rintro ⟨henabled, h⟩ hescapes
    cases hescapes with
    | enabled hhere => exact henabled hhere
    | includeEnvironment hflag hlists hhere =>
      obtain ⟨enabled, hok⟩ := (exists_flagSetting_iff es "enabled" false).mpr hflag
      obtain ⟨_, hpatterns⟩ := hlists "mask_patterns" (by simp)
      obtain ⟨_, hactive⟩ := hlists "active_environments" (by simp)
      obtain ⟨_, hpackages⟩ := hlists "packages" (by simp)
      exact (h enabled hok _ hpatterns _ hactive _ hpackages).1 hhere
    | source hflags hlists hitems hbefore hhere =>
      obtain ⟨enabled, hok⟩ :=
        (exists_flagSetting_iff es "enabled" false).mpr (hflags _ (by simp))
      obtain ⟨included, hincluded⟩ :=
        (exists_flagSetting_iff es "include_environ" true).mpr (hflags _ (by simp))
      obtain ⟨_, hpatterns⟩ := hlists "mask_patterns" (by simp)
      obtain ⟨_, hactive⟩ := hlists "active_environments" (by simp)
      obtain ⟨_, hpackages⟩ := hlists "packages" (by simp)
      have hrest := (h enabled hok _ hpatterns _ hactive _ hpackages).2 included hincluded
      exact (hrest _ hitems).1 _ _ _ rfl hbefore hhere
  · intro h
    refine ⟨fun hhere => h (.enabled hhere), ?_⟩
    intro enabled hok patterns hpatterns active hactive packages hpackages
    have hflag := (exists_flagSetting_iff es "enabled" false).mp ⟨enabled, hok⟩
    have hlists : ∀ key ∈ ["mask_patterns", "active_environments", "packages"],
        ∃ items, Value.Lists (es.named? key) items := by
      simp only [List.forall_mem_cons, List.not_mem_nil, false_implies, implies_true, and_true]
      exact ⟨⟨_, hpatterns⟩, ⟨_, hactive⟩, ⟨_, hpackages⟩⟩
    refine ⟨fun hhere => h (.includeEnvironment hflag hlists hhere), ?_⟩
    intro included hincluded items hitems
    refine ⟨?_, fun _ _ => blamed_ok _⟩
    rintro before item after rfl hbefore hhere
    have hflags : ∀ key ∈ ["enabled", "include_environ"], IsFlag es key := by
      simp only [List.forall_mem_cons, List.not_mem_nil, false_implies, implies_true, and_true]
      exact ⟨hflag, (exists_flagSetting_iff es _ true).mp ⟨included, hincluded⟩⟩
    exact h (.source hflags hlists hitems hbefore hhere)

/-- A value gives settings or fails in their family if and only if the first part of its section
that is not of its form does not escape. -/
theorem value_failures_contained_iff (v : Value) :
    ((∃ s, ofValue v = .ok s) ∨ ∃ why, ofValue v = .error why ∧ why.family = .settings) ↔
      ∀ es, sectionOf v = .map es → ¬ Escapes es := by
  rw [← blamed_ofValue_iff, ← blamed_iff_ok_or_error]

/-- Settings with a source whose order is infinite. -/
def endlessSettings : Value :=
  .map [(.text "property_sources", .list [.map [(.text "path", .text "a.yml"),
    (.text "order", .real (.infinite false))]])]

/-- Not every value gives settings or fails in their family: an infinite order is in that of numbers
out of range. -/
theorem not_forall_value_failures_contained :
    ofValue endlessSettings = .error .infiniteOrder ∧
      ¬ ∀ v, (∃ s, ofValue v = .ok s) ∨
        ∃ why, ofValue v = .error why ∧ why.family = .settings := by
  have hfails : ofValue endlessSettings = .error .infiniteOrder :=
    eq_error_of_failure? (by decide +kernel)
  refine ⟨hfails, fun hall => ?_⟩
  rcases hall endlessSettings with ⟨s, hs⟩ | ⟨why, hwhy, hfamily⟩
  · rw [hfails] at hs
    cases hs
  · rw [hfails] at hwhy
    cases hwhy
    cases hfamily

end Settings

/-! ## Documents -/

namespace World

/-- Whether nothing but faults of its file keeps the document at a path from a value with a
property: the path is a name, and if the file can be decoded, the document is either faulty in its
form or has such a value. -/
def Yields (w : World) (p : Path) (P : Value → Prop) : Prop :=
  Path.IsSystemName p.text ∧ ∀ text, w.textOf p = .ok text →
    (∀ r, Document.read text = .error r → ∃ f, r = .fault f) ∧
      ∀ v, Document.read text = .ok v → P v

end World

namespace Settings

end Settings

end MaskedReport
