import MaskedReport.Proofs.Entries
import MaskedReport.Proofs.Rendering
import MaskedReport.Settings

/-!
# Settings in normal form

Which values settings can be read from, and what is read from them. Each part of the reading
succeeds with a result exactly where the value given for it has that normal form: the section that
holds the settings, flags, lists, whole numbers and sources, and the settings as a whole
(`Settings.ofValue_eq_ok_iff`). A value whose whole numbers can be written fails for no other reason
than the form of its parts: `Settings.accepted_normal_form`.
-/

set_option autoImplicit false

namespace MaskedReport

/-! ## Values in normal form -/

/-- The whole number that a value stands for: a truth value one or zero, a finite double what is
left without its fraction, a text or ASCII bytes what they are a numeral of. -/
inductive Value.GivesWhole : Value → Int → Prop
  | bool (b : Bool) : GivesWhole (.bool b) (if b then 1 else 0)
  | int (i : Int) : GivesWhole (.int i) i
  | real {x : Binary64} {i : Int} (h : x.truncate? = some i) : GivesWhole (.real x) i
  | text {s : Text} {i : Int} (h : Numeral.readInt 10 s.chars = .number i) :
    GivesWhole (.text s) i
  | bytes {bs : List UInt8} {i : Int} (hascii : ∀ b ∈ bs, b < 128)
    (h : Numeral.readInt 10 (bs.map fun b => Char.ofNat b.toNat) = .number i) :
    GivesWhole (.bytes bs) i

/-- The items that a setting lists: none if it is absent or null, and a text is one item. -/
inductive Value.Lists : Option Value → List Value → Prop
  | absent : Lists none []
  | null : Lists (some .null) []
  | text (s : Text) : Lists (some (.text s)) [.text s]
  | list (items : List Value) : Lists (some (.list items)) items
  | tuple (items : List Value) : Lists (some (.tuple items)) items

namespace Settings

/-- The part of a value that holds the settings: what is under the key `env_endpoint`, if there is
such a key, or the value itself. Where that counts as false, there are no settings. -/
def sectionOf (v : Value) : Value :=
  if v.truthy then
    match v with
    | .map es =>
      match Entries.named? "env_endpoint" es with
      | some inner => if inner.truthy then inner else .map []
      | none => .map es
    | v => v
  else .map []

/-- The source that an item names: a text is a path, and a mapping has a path, whose text form
counts, perhaps a name, and perhaps an order, which gives a whole number. -/
inductive Names : Value → SourceSetting → Prop
  | path (s : Text) : Names (.text s) { path := s, name := .null, order := 0 }
  | entries {es : Entries} {p : Value} {path : Text} {order : Int}
    (hpath : es.named? "path" = some p) (htext : p.toText = .ok path)
    (horder : ((es.named? "order").getD (.int 0)).GivesWhole order) :
    Names (.map es) { path, name := (es.named? "name").getD .null, order }

/-- What the entries of a section come to: flags and lists with their defaults, masking and base
directory as they are given, and one source for each item. -/
structure IsNormalForm (es : Entries) (s : Settings) : Prop where
  enabled : (es.named? "enabled").getD (.bool false) = .bool s.enabled
  masking : s.masking = (es.named? "masking").getD (.text "all")
  maskPatterns : Value.Lists (es.named? "mask_patterns") s.maskPatterns
  activeEnvironments : Value.Lists (es.named? "active_environments") s.activeEnvironments
  packages : Value.Lists (es.named? "packages") s.packages
  includeEnvironment : (es.named? "include_environ").getD (.bool true) = .bool s.includeEnvironment
  sources : ∃ items, Value.Lists (es.named? "property_sources") items ∧
    List.Forall₂ Names items s.sources
  baseDirectory : s.baseDirectory = (es.named? "base_dir").getD .null

/-! ## Parts -/

/-- A value is read as an order if and only if it gives that whole number. -/
theorem orderOf_eq_some_iff (v : Value) (i : Int) :
    orderOf v = .ok (some i) ↔ v.GivesWhole i := by
  constructor
  · intro h
    unfold orderOf at h
    split at h
    · cases h
      exact .bool _
    · cases h
      exact .int _
    · cases h
    · exact .real (Except.ok.inj h)
    · split at h
      case h_1 hread =>
        cases h
        exact .text hread
      case h_2 => cases h
    · split at h
      case isTrue hascii =>
        split at h
        case h_1 hread =>
          cases h
          exact .bytes (by simpa using hascii) hread
        case h_2 => cases h
      case isFalse => cases h
    · cases h
  · intro h
    cases h with
    | bool b => rfl
    | int i => rfl
    | @real x _ h =>
      cases x with
      | finite negative m p => exact congrArg Except.ok h
      | infinite negative => cases h
      | nan => cases h
    | text h => rw [orderOf, h]
    | @bytes bs _ hascii h =>
      have hall : bs.all (· < 128) = true := by simpa using hascii
      rw [orderOf, if_pos hall, h]

/-- A setting is read as a list if and only if it lists those items. -/
theorem listSetting_eq_ok_iff (es : Entries) (key : String) (items : List Value) :
    listSetting es key = .ok items ↔ Value.Lists (es.named? key) items := by
  unfold listSetting
  generalize es.named? key = given
  constructor
  · intro h
    split at h
    · cases h
      exact .absent
    · cases h
      exact .null
    · cases h
      exact .text _
    · cases h
      exact .list _
    · cases h
      exact .tuple _
    · cases h
  · intro h
    cases h
    all_goals rfl

/-- A setting is read as true or false if and only if it is that truth value or has it as default.
-/
theorem flagSetting_eq_ok_iff (es : Entries) (key : String) (default b : Bool) :
    flagSetting es key default = .ok b ↔ (es.named? key).getD (.bool default) = .bool b := by
  unfold flagSetting
  generalize es.named? key = given
  constructor
  · intro h
    split at h
    · cases h
      rfl
    · cases h
      rfl
    · obtain ⟨shown, -, h⟩ := bind_eq_ok h
      cases h
  · intro h
    cases given with
    | none =>
      cases h
      rfl
    | some v =>
      have hv : v = .bool b := h
      rw [hv]

/-- A value is read as settings if and only if its section is a mapping with those entries. -/
theorem entriesOf_eq_ok_iff (v : Value) (es : Entries) :
    entriesOf v = .ok es ↔ sectionOf v = .map es := by
  unfold entriesOf sectionOf
  cases htruthy : v.truthy with
  | false => simp
  | true =>
    simp only [Bool.not_true, Bool.false_eq_true, if_false, if_true]
    cases v with
    | map entries =>
      dsimp only
      cases Entries.named? "env_endpoint" entries with
      | none => simp
      | some inner =>
        dsimp only
        cases hinner : inner.truthy with
        | false => simp
        | true =>
          simp only [Bool.not_true, Bool.false_eq_true, if_false, if_true]
          cases inner <;> simp
    | _ => simp

/-- Entries are read as a source if and only if they name it. -/
theorem sourceOfEntries_eq_ok_iff (shown : Except Failure String) (es : Entries)
    (x : SourceSetting) : sourceOfEntries shown es = .ok x ↔ Names (.map es) x := by
  constructor
  · intro h
    unfold sourceOfEntries at h
    split at h
    · obtain ⟨t, -, h⟩ := bind_eq_ok h
      cases h
    case h_2 p hpath =>
      obtain ⟨order?, horder, h⟩ := bind_eq_ok h
      split at h
      · obtain ⟨t, -, h⟩ := bind_eq_ok h
        cases h
      · obtain ⟨path, htext, h⟩ := bind_eq_ok h
        cases h
        exact .entries hpath htext ((orderOf_eq_some_iff _ _).mp horder)
  · intro h
    cases h with
    | entries hpath htext horder =>
      rw [sourceOfEntries, hpath]
      simp [(orderOf_eq_some_iff _ _).mpr horder, htext, bind, Except.bind, pure, Except.pure]

/-- A text is read as the source at that path. -/
theorem sourceOf_text (s : Text) :
    sourceOf (.text s) = .ok { path := s, name := .null, order := 0 } := by
  have hpath : Entries.named? "path" [(.text "path", .text s)] = some (.text s) := by
    simp [Entries.named?, Entries.get?, Value.same]
  have hother : ∀ key ∈ ["name", "order"],
      Entries.named? key [(.text "path", .text s)] = none := by
    simp [Entries.named?, Entries.get?, Value.same]
  rw [sourceOf, sourceOfEntries, hpath, hother "name" (by simp), hother "order" (by simp)]
  rfl

/-- A value is read as a source if and only if it names it. -/
theorem sourceOf_eq_ok_iff (v : Value) (x : SourceSetting) : sourceOf v = .ok x ↔ Names v x := by
  constructor
  · intro h
    unfold sourceOf at h
    split at h
    · have htext := sourceOf_text ‹_›
      rw [sourceOf, h] at htext
      cases htext
      exact .path _
    · exact (sourceOfEntries_eq_ok_iff _ _ _).mp h
    · obtain ⟨t, -, h⟩ := bind_eq_ok h
      cases h
  · intro h
    cases v with
    | text s =>
      cases h
      exact sourceOf_text s
    | map es => exact (sourceOfEntries_eq_ok_iff _ _ _).mpr h
    | _ => cases h

end Settings

/-- Steps for all items succeed if and only if each does, with the results in order. -/
theorem mapM_eq_ok_iff {α β : Type} (f : α → Except Failure β) (items : List α)
    (results : List β) :
    items.mapM f = .ok results ↔ List.Forall₂ (fun a b => f a = .ok b) items results := by
  induction items generalizing results with
  | nil =>
    rw [List.mapM_nil, List.forall₂_nil_left_iff]
    constructor
    · intro h
      cases h
      rfl
    · rintro rfl
      rfl
  | cons a rest ih =>
    rw [List.mapM_cons]
    constructor
    · intro h
      obtain ⟨b, hb, h⟩ := bind_eq_ok h
      obtain ⟨bs, hbs, h⟩ := bind_eq_ok h
      cases h
      exact .cons hb ((ih bs).mp hbs)
    · intro h
      cases h with
      | cons hb hrest =>
        rw [hb, (ih _).mpr hrest]
        rfl

namespace Settings

/-- Items are read as sources if and only if they name them one by one. -/
theorem mapM_sourceOf_eq_ok_iff (items : List Value) (sources : List SourceSetting) :
    items.mapM sourceOf = .ok sources ↔ List.Forall₂ Names items sources := by
  simp only [mapM_eq_ok_iff, sourceOf_eq_ok_iff]

/-! ## Settings -/

/-- Settings are read from a value if and only if it has a section that comes to them. -/
theorem ofValue_eq_ok_iff (v : Value) (s : Settings) :
    ofValue v = .ok s ↔ ∃ es, sectionOf v = .map es ∧ IsNormalForm es s := by
  constructor
  · intro h
    obtain ⟨es, hes, h⟩ := bind_eq_ok h
    obtain ⟨enabled, henabled, h⟩ := bind_eq_ok h
    obtain ⟨maskPatterns, hpatterns, h⟩ := bind_eq_ok h
    obtain ⟨activeEnvironments, hactive, h⟩ := bind_eq_ok h
    obtain ⟨packages, hpackages, h⟩ := bind_eq_ok h
    obtain ⟨includeEnvironment, hinclude, h⟩ := bind_eq_ok h
    obtain ⟨items, hitems, h⟩ := bind_eq_ok h
    obtain ⟨sources, hsources, h⟩ := bind_eq_ok h
    cases h
    exact ⟨es, (entriesOf_eq_ok_iff v es).mp hes, {
      enabled := (flagSetting_eq_ok_iff _ _ _ _).mp henabled
      masking := rfl
      maskPatterns := (listSetting_eq_ok_iff _ _ _).mp hpatterns
      activeEnvironments := (listSetting_eq_ok_iff _ _ _).mp hactive
      packages := (listSetting_eq_ok_iff _ _ _).mp hpackages
      includeEnvironment := (flagSetting_eq_ok_iff _ _ _ _).mp hinclude
      sources := ⟨items, (listSetting_eq_ok_iff _ _ _).mp hitems,
        (mapM_sourceOf_eq_ok_iff _ _).mp hsources⟩
      baseDirectory := rfl }⟩
  · rintro ⟨es, hsection, hnormal⟩
    obtain ⟨items, hitems, hsources⟩ := hnormal.sources
    rw [ofValue, (entriesOf_eq_ok_iff v es).mpr hsection]
    simp only [(flagSetting_eq_ok_iff _ _ _ _).mpr hnormal.enabled,
      (flagSetting_eq_ok_iff _ _ _ _).mpr hnormal.includeEnvironment,
      (listSetting_eq_ok_iff _ _ _).mpr hnormal.maskPatterns,
      (listSetting_eq_ok_iff _ _ _).mpr hnormal.activeEnvironments,
      (listSetting_eq_ok_iff _ _ _).mpr hnormal.packages,
      (listSetting_eq_ok_iff _ _ _).mpr hitems,
      (mapM_sourceOf_eq_ok_iff _ _).mpr hsources, ← hnormal.masking, ← hnormal.baseDirectory,
      bind, Except.bind, pure, Except.pure]

end Settings

/-! ## Values that can be shown -/

namespace Value

/-- An item of showable items can be shown. -/
theorem isShowable_of_mem {items : List Value} (h : allShowable items = true) {v : Value}
    (hv : v ∈ items) : v.isShowable = true := by
  induction items with
  | nil => cases hv
  | cons w rest ih =>
    have hboth := Bool.and_eq_true_iff.mp h
    rcases List.mem_cons.mp hv with rfl | hv
    · exact hboth.1
    · exact ih hboth.2 hv

/-- The value of an entry of showable entries can be shown. -/
theorem isShowable_of_mem_entries {es : Entries} (h : entriesShowable es = true)
    {e : Value × Value} (he : e ∈ es) : e.2.isShowable = true := by
  induction es with
  | nil => cases he
  | cons b rest ih =>
    have hboth := Bool.and_eq_true_iff.mp h
    rcases List.mem_cons.mp he with rfl | he
    · exact (Bool.and_eq_true_iff.mp hboth.1).2
    · exact ih hboth.2 he

/-- A value found in showable entries can be shown. -/
theorem isShowable_of_named? {es : Entries} (h : entriesShowable es = true) {key : String}
    {v : Value} (hv : es.named? key = some v) : v.isShowable = true := by
  obtain ⟨e, he, rfl⟩ := Entries.exists_mem_of_get? hv
  exact isShowable_of_mem_entries h he

/-- A value that can be shown has a text form. -/
theorem exists_toText {v : Value} (h : v.isShowable = true) : ∃ t, v.toText = .ok t := by
  have hshown : ∀ w : Value, w.isShowable = true → ∃ t, w.shown = .ok t := by
    intro w hw
    have hok := isOk_shown w
    rw [hw] at hok
    cases hform : w.shown with
    | ok t => exact ⟨t, rfl⟩
    | error why =>
      rw [hform] at hok
      cases hok
  cases v with
  | text s => exact ⟨s, rfl⟩
  | date d => exact ⟨d.text, rfl⟩
  | instant t => exact ⟨t.textWith " ", rfl⟩
  | _ =>
    obtain ⟨t, ht⟩ := hshown _ h
    exact ⟨t, congrArg (fun shown => do return Text.ofString (← shown)) ht⟩

/-- What a setting lists is determined by it. -/
theorem Lists.unique {given : Option Value} {items others : List Value} (h : Lists given items)
    (h' : Lists given others) : items = others := by
  cases h
  all_goals
    cases h'
    rfl

/-- The items of a setting that can be shown can be shown. -/
theorem Lists.isShowable {given : Option Value} {items : List Value} (h : Lists given items)
    (hgiven : ∀ v, given = some v → v.isShowable = true) {v : Value} (hv : v ∈ items) :
    v.isShowable = true := by
  cases h with
  | absent => cases hv
  | null => cases hv
  | text s =>
    rw [List.mem_singleton.mp hv]
    rfl
  | list items => exact isShowable_of_mem (hgiven _ rfl) hv
  | tuple items => exact isShowable_of_mem (hgiven _ rfl) hv

end Value

/-- Where each item is related to something, so are all in order. -/
theorem exists_forall₂ {α β : Type} {R : α → β → Prop} {xs : List α} (h : ∀ x ∈ xs, ∃ y, R x y) :
    ∃ ys, List.Forall₂ R xs ys := by
  induction xs with
  | nil => exact ⟨[], .nil⟩
  | cons x rest ih =>
    obtain ⟨y, hy⟩ := h x List.mem_cons_self
    obtain ⟨ys, hys⟩ := ih fun z hz => h z (List.mem_cons_of_mem x hz)
    exact ⟨y :: ys, .cons hy hys⟩

namespace Settings

/-! ## Acceptance -/

/-- Whether settings can be read from the entries of a section, by the form of its parts: a flag is
absent or a truth value, a list absent, null, a text, a list or a tuple, and each source a text or a
mapping with a path and an order, zero if it has none, that gives a whole number. -/
structure Accepts (es : Entries) : Prop where
  flags : ∀ key ∈ ["enabled", "include_environ"],
    es.named? key = none ∨ ∃ b, es.named? key = some (.bool b)
  lists : ∀ key ∈ ["mask_patterns", "active_environments", "packages", "property_sources"],
    ∃ items, Value.Lists (es.named? key) items
  sources : ∀ items, Value.Lists (es.named? "property_sources") items → ∀ item ∈ items,
    (∃ s, item = .text s) ∨ ∃ fields : Entries, item = .map fields ∧
      (∃ path, fields.named? "path" = some path) ∧
      ∃ order, ((fields.named? "order").getD (.int 0)).GivesWhole order

/-- Settings with a normal form are accepted. -/
theorem IsNormalForm.accepts {es : Entries} {s : Settings} (h : IsNormalForm es s) :
    Accepts es := by
  have hflag : ∀ {key : String} {default b : Bool},
      (es.named? key).getD (.bool default) = .bool b →
        es.named? key = none ∨ ∃ b, es.named? key = some (.bool b) := by
    intro key default b hgiven
    cases hfound : es.named? key with
    | none => exact Or.inl rfl
    | some v =>
      rw [hfound] at hgiven
      exact Or.inr ⟨b, congrArg some hgiven⟩
  obtain ⟨items, hitems, hsources⟩ := h.sources
  refine ⟨?_, ?_, ?_⟩
  · simp only [List.forall_mem_cons, List.not_mem_nil, false_implies, implies_true, and_true]
    exact ⟨hflag h.enabled, hflag h.includeEnvironment⟩
  · simp only [List.forall_mem_cons, List.not_mem_nil, false_implies, implies_true, and_true]
    exact ⟨⟨_, h.maskPatterns⟩, ⟨_, h.activeEnvironments⟩, ⟨_, h.packages⟩, ⟨items, hitems⟩⟩
  · intro others hothers item hitem
    rw [hothers.unique hitems] at hitem
    obtain ⟨x, -, hx⟩ := exists_related_right hsources hitem
    cases hx with
    | path s => exact Or.inl ⟨s, rfl⟩
    | entries hpath htext horder => exact Or.inr ⟨_, rfl, ⟨_, hpath⟩, ⟨_, horder⟩⟩

/-- Settings that are accepted and can be shown have a normal form. -/
theorem Accepts.exists_isNormalForm {es : Entries} (h : Accepts es)
    (hshowable : Value.entriesShowable es = true) : ∃ s, IsNormalForm es s := by
  have hflag : ∀ key ∈ ["enabled", "include_environ"], ∀ default : Bool,
      ∃ b, (es.named? key).getD (.bool default) = .bool b := by
    intro key hkey default
    rcases h.flags key hkey with hnone | ⟨b, hb⟩
    · exact ⟨default, by rw [hnone]; rfl⟩
    · exact ⟨b, by rw [hb]; rfl⟩
  obtain ⟨enabled, henabled⟩ := hflag "enabled" (by simp) false
  obtain ⟨includeEnvironment, hinclude⟩ := hflag "include_environ" (by simp) true
  obtain ⟨maskPatterns, hpatterns⟩ := h.lists "mask_patterns" (by simp)
  obtain ⟨activeEnvironments, hactive⟩ := h.lists "active_environments" (by simp)
  obtain ⟨packages, hpackages⟩ := h.lists "packages" (by simp)
  obtain ⟨items, hitems⟩ := h.lists "property_sources" (by simp)
  have hsource : ∀ item ∈ items, ∃ x, Names item x := by
    intro item hitem
    have hitemShowable := hitems.isShowable (fun v hv => Value.isShowable_of_named? hshowable hv)
      hitem
    rcases h.sources items hitems item hitem with
      ⟨s, rfl⟩ | ⟨fields, rfl, ⟨path, hpath⟩, order, horder⟩
    · exact ⟨_, .path s⟩
    · obtain ⟨t, ht⟩ := Value.exists_toText (Value.isShowable_of_named? hitemShowable hpath)
      exact ⟨_, .entries hpath ht horder⟩
  obtain ⟨sources, hsources⟩ := exists_forall₂ hsource
  exact ⟨{
    enabled, maskPatterns, activeEnvironments, packages, includeEnvironment, sources
    masking := (es.named? "masking").getD (.text "all")
    baseDirectory := (es.named? "base_dir").getD .null }, {
    enabled := henabled
    masking := rfl
    maskPatterns := hpatterns
    activeEnvironments := hactive
    packages := hpackages
    includeEnvironment := hinclude
    sources := ⟨items, hitems, hsources⟩
    baseDirectory := rfl }⟩

/-- The section of a value that can be shown can be shown. -/
theorem entriesShowable_sectionOf {v : Value} (h : v.isShowable = true) {es : Entries}
    (hsection : sectionOf v = .map es) : Value.entriesShowable es = true := by
  unfold sectionOf at hsection
  split at hsection
  · split at hsection
    · split at hsection
      case h_1 entries inner hinner =>
        split at hsection
        · have hshowable : inner.isShowable = true := Value.isShowable_of_named? h hinner
          rw [hsection] at hshowable
          exact hshowable
        · cases hsection
          rfl
      case h_2 =>
        cases hsection
        exact h
    · rw [hsection] at h
      exact h
  · cases hsection
    rfl

/-- Settings are read from a value whose whole numbers can be written if and only if it has a
section with parts of the right form, and what is read is the normal form of the section. -/
theorem accepted_normal_form (v : Value) (h : v.isShowable = true) :
    ((∃ s, ofValue v = .ok s) ↔ ∃ es, sectionOf v = .map es ∧ Accepts es) ∧
      ∀ s, ofValue v = .ok s → ∃ es, sectionOf v = .map es ∧ IsNormalForm es s := by
  refine ⟨⟨?_, ?_⟩, fun s hs => (ofValue_eq_ok_iff v s).mp hs⟩
  · rintro ⟨s, hs⟩
    obtain ⟨es, hsection, hnormal⟩ := (ofValue_eq_ok_iff v s).mp hs
    exact ⟨es, hsection, hnormal.accepts⟩
  · rintro ⟨es, hsection, haccepts⟩
    obtain ⟨s, hs⟩ := haccepts.exists_isNormalForm (entriesShowable_sectionOf h hsection)
    exact ⟨s, (ofValue_eq_ok_iff v s).mpr ⟨es, hsection, hs⟩⟩

/-- Settings under the key `env_endpoint`, with an order given as a numeral. -/
def nestedSettings : Value :=
  .map [(.text "env_endpoint", .map [(.text "enabled", .bool true),
    (.text "packages", .text "core"), (.text "property_sources", .tuple [.text "a.yml",
      .map [(.text "path", .int 5), (.text "order", .text " 1_0 ")]])])]

/-- Nested settings with a path that is a number are accepted and have a normal form. -/
theorem accepted_normal_form_nested :
    nestedSettings.isShowable = true ∧
      (∃ es, sectionOf nestedSettings = .map es ∧ Accepts es) ∧
      ∃ es s, sectionOf nestedSettings = .map es ∧ IsNormalForm es s ∧ s.enabled = true ∧
        s.includeEnvironment = true ∧
        s.sources.map (fun x => (x.path, x.order)) =
          [(Text.ofString "a.yml", 0), (Text.ofString "5", 10)] := by
  have hshowable : nestedSettings.isShowable = true := by decide +kernel
  obtain ⟨haccepted, hnormal⟩ := accepted_normal_form nestedSettings hshowable
  have hread : (ofValue nestedSettings).toOption.map (fun s => (s.enabled, s.includeEnvironment,
      s.sources.map fun x => (x.path, x.order))) =
        some (true, true, [(Text.ofString "a.yml", 0), (Text.ofString "5", 10)]) := by
    decide +kernel
  obtain ⟨s, hs, hvalues⟩ := Option.map_eq_some_iff.mp hread
  have hok : ofValue nestedSettings = .ok s := eq_ok_of_toOption hs
  simp only [Prod.mk.injEq] at hvalues
  obtain ⟨es, hsection, hform⟩ := hnormal s hok
  exact ⟨hshowable, haccepted.mp ⟨s, hok⟩, es, s, hsection, hform, hvalues⟩

end Settings

end MaskedReport
