import MaskedReport.Proofs.Nesting
import MaskedReport.Proofs.PathTexts
import MaskedReport.Proofs.Registration
import MaskedReport.Settings

/-!
# What settings load

What an endpoint from settings is made of, read off the fact that it was made. Its hook configures
every policy; its sources are those of documents, which hold the leaves of a mapping, and that of
the environment. What holds of every source that can be loaded holds of every source of the
registry: `Settings.forall_mem_registry`.
-/

set_option autoImplicit false

namespace MaskedReport

/-! ## Hooks -/

/-- Patterns that have been read stand for themselves. -/
theorem Pattern.ofValues_pattern (patterns : List Pattern) :
    ofValues (patterns.map .pattern) = .ok patterns := by
  induction patterns with
  | nil => rfl
  | cons p rest ih =>
    rw [List.map_cons, ofValues, ih]
    rfl

namespace Policy

/-- A step whose patterns compile succeeds. -/
theorem apply_of_compiled {s : Step} {new : List Pattern} (h : s.compiled = .ok new) (p : Policy) :
    p.apply s = .ok (p.attempt s).2 := by
  have hend := attempt_fst p s
  rw [h] at hend
  unfold apply
  split
  case h_1 q hattempt => rw [hattempt]
  case h_2 f q hattempt =>
    rw [hattempt] at hend
    cases hend

/-- Steps that all compile are applied as they are run. -/
theorem applyAll_of_compiled {steps : List Step}
    (h : ∀ s ∈ steps, ∃ new, s.compiled = .ok new) (p : Policy) :
    p.applyAll steps = .ok (p.run steps) := by
  induction steps generalizing p with
  | nil => rfl
  | cons s rest ih =>
    obtain ⟨new, hnew⟩ := h s List.mem_cons_self
    rw [applyAll, apply_of_compiled hnew]
    exact ih (fun t ht => h t (List.mem_cons_of_mem s ht)) (p.attempt s).2

end Policy

/-- A hook from settings configures every policy. -/
theorem Masking.hook_eq_run (m : Masking) (p : Policy) : m.hook p = .ok (p.run m.steps) := by
  apply Policy.applyAll_of_compiled
  intro s hs
  rcases List.mem_pair.mp hs with rfl | rfl
  · cases m.mode with
    | all => exact ⟨[], rfl⟩
    | none => exact ⟨[], rfl⟩
    | legacy => exact ⟨Pattern.secretPatterns, Policy.Step.compiled_legacy⟩
  · refine ⟨m.patterns, ?_⟩
    rw [Policy.Step.compiled, ← Pattern.ofValues_eq_mapM, Pattern.ofValues_pattern]

/-! ## Sources -/

/-- The document at a path that is a name is what its file reads as. -/
theorem World.document_of_isSystemName {w : World} {p : Path} (hname : Path.IsSystemName p.text)
    (blame : Text → FileFault → Failure) :
    w.document blame p = valueOf (blame p.text) (w.textOf p) := by
  rw [document, (Path.checkName_eq_ok_iff _).mpr hname]
  rfl

/-- A document in a file is what its text reads as. -/
theorem World.document_of_read {w : World} {p : Path} {text : List Char} {v : Value}
    (hname : Path.IsSystemName p.text) (htext : w.textOf p = .ok text)
    (hread : Document.read text = .ok v) (blame : Text → FileFault → Failure) :
    w.document blame p = .ok v := by
  rw [document_of_isSystemName hname, htext, valueOf, hread]

/-- Values cannot be compared by deciding, but a part of a value that was read can be. -/
theorem Document.exists_read {α : Type} {text : List Char} {part? : Value → Option α} {a : α}
    (h : (read text).toOption.bind part? = some a) :
    ∃ v, read text = .ok v ∧ part? v = some a := by
  obtain ⟨v, hv, hpart⟩ := Option.bind_eq_some_iff.mp h
  exact ⟨v, eq_ok_of_toOption hv, hpart⟩

/-- A source from a document holds the leaves of its mapping. -/
theorem Source.ofPath_ok {w : World} {p : Path} {name order : Value} {s : Source}
    (h : ofPath w p name order = .ok s) :
    ∃ q data es, p.expandHome w.home? = .ok q ∧
      (w.document .sourceFile q = .ok (.map data) ∨
        w.document .sourceFile q = .ok .null ∧ data = []) ∧
      Flatten.flatten "" data = .ok es ∧
      s = { name := nameOr name q, order, convention := .dotted, contents := .stored es } := by
  obtain ⟨q, hq, h⟩ := bind_eq_ok h
  obtain ⟨v, hv, h⟩ := bind_eq_ok h
  cases v with
  | null =>
    cases h
    exact ⟨q, [], [], hq, Or.inr ⟨hv, rfl⟩, rfl, rfl⟩
  | map data =>
    obtain ⟨es, hes, h⟩ := bind_eq_ok h
    cases h
    refine ⟨q, data, es, hq, Or.inl hv, ?_, rfl⟩
    cases data with
    | nil =>
      cases hes
      rfl
    | cons e data => exact hes
  | _ => cases h

/-- A document that is a mapping whose leaves can be found is a source of them. -/
theorem Source.ofPath_of_document {w : World} {p q : Path} {data es : Entries}
    (hq : p.expandHome w.home? = .ok q) (hdocument : w.document .sourceFile q = .ok (.map data))
    (hes : Flatten.flatten "" data = .ok es) (name order : Value) :
    ofPath w p name order =
      .ok { name := nameOr name q, order, convention := .dotted, contents := .stored es } := by
  have hvalue : Flatten.flattenValue (.map data) (.text "") = .ok es := by
    cases data with
    | nil => exact hes
    | cons e data => exact hes
  rw [ofPath, hq]
  show (w.document .sourceFile q >>= _) = _
  rw [hdocument]
  show (Flatten.flattenValue (.map data) (.text "") >>= _) = _
  rw [hvalue]
  rfl

/-- The source of the environment holds the given variables. -/
theorem Settings.environment_ok {w : World} {given : Option Value} {bindings : Entries}
    {s : Source} (hbindings : given.getD (.map w.environment) = .map bindings)
    (h : environment w given = .ok s) :
    s = {
      name := Source.environmentName
      order := Source.environmentOrder
      convention := .environment
      contents := .stored bindings } := by
  rw [environment, hbindings] at h
  cases h
  rfl

/-! ## Registries -/

namespace Settings

variable {w : World} {base : Path}

/-- The source of the environment, if it is among the sources. -/
def environmentSources (w : World) (s : Settings) (given : Option Value) :
    Except Failure (List Source) := do
  if s.includeEnvironment then return [← environment w given] else return []

/-- A source of settings is that of its path. -/
theorem load_of_pathOf {x : SourceSetting} {p : Path} (hp : pathOf w base x = .ok p) :
    load w base x = Source.ofPath w p x.name (.int x.order) := by
  rw [load, hp]
  rfl

/-- The documents of settings are loaded in order and registered one after the other. -/
theorem registerAll_ok {settings : List SourceSetting} {r after : Registry}
    (h : registerAll w base settings r = .ok after) :
    ∃ documents, List.Forall₂ (fun x s => load w base x = .ok s) settings documents ∧
      after = r.addAll documents := by
  induction settings generalizing r with
  | nil =>
    cases h
    exact ⟨[], List.Forall₂.nil, rfl⟩
  | cons x rest ih =>
    obtain ⟨new, hnew, h⟩ := bind_eq_ok h
    obtain ⟨documents, hdocuments, rfl⟩ := ih h
    exact ⟨new :: documents, List.Forall₂.cons hnew hdocuments, rfl⟩

/-- A registry from settings holds the documents and then the environment. -/
theorem registry_ok {given : Option Value} {settings : Settings} {r : Registry}
    (h : settings.registry w given = .ok r) :
    ∃ base documents own, settings.base = .ok base ∧
      List.Forall₂ (fun x s => load w base x = .ok s) settings.sources documents ∧
      settings.environmentSources w given = .ok own ∧
      r = Registry.addAll
        { activeNames := settings.activeEnvironments, packages := settings.packages }
        (documents ++ own) := by
  obtain ⟨base, hbase, h⟩ := bind_eq_ok h
  obtain ⟨before, hbefore, h⟩ := bind_eq_ok h
  obtain ⟨documents, hdocuments, rfl⟩ := registerAll_ok hbefore
  refine ⟨base, documents, ?_⟩
  cases hincluded : settings.includeEnvironment with
  | false =>
    rw [hincluded] at h
    cases h
    refine ⟨[], hbase, hdocuments, ?_, ?_⟩
    · rw [environmentSources, hincluded]
      rfl
    · rw [List.append_nil]
  | true =>
    rw [hincluded] at h
    obtain ⟨new, hnew, h⟩ := bind_eq_ok h
    cases h
    refine ⟨[new], hbase, hdocuments, ?_, ?_⟩
    · rw [environmentSources, hincluded, hnew]
      rfl
    · rw [Registry.addAll, Registry.addAll, List.foldl_append]
      rfl

/-- A source of the environment among those of settings is the environment's. -/
theorem environment_of_mem {given : Option Value} {settings : Settings} {own : List Source}
    (h : settings.environmentSources w given = .ok own) :
    ∀ s ∈ own, environment w given = .ok s := by
  intro s hs
  unfold Settings.environmentSources at h
  split at h
  · obtain ⟨new, hnew, h⟩ := bind_eq_ok h
    cases h
    rw [List.mem_singleton.mp hs]
    exact hnew
  · cases h
    cases hs

/-- There is one source of the environment if the settings include it, and else none. -/
theorem length_environmentSources {given : Option Value} {settings : Settings} {own : List Source}
    (h : settings.environmentSources w given = .ok own) :
    own.length = if settings.includeEnvironment then 1 else 0 := by
  unfold Settings.environmentSources at h
  split at h
  case isTrue hincluded =>
    obtain ⟨new, -, h⟩ := bind_eq_ok h
    cases h
    rw [if_pos hincluded, List.length_singleton]
  case isFalse hincluded =>
    cases h
    rw [if_neg hincluded, List.length_nil]

/-- What holds of each source that is loaded holds of the whole registry. -/
theorem forall_mem_registry {P : Source → Prop} {given : Option Value}
    (hload : ∀ base x s, load w base x = .ok s → P s)
    (henvironment : ∀ s, environment w given = .ok s → P s) {settings : Settings} {r : Registry}
    (h : settings.registry w given = .ok r) : ∀ s ∈ r.sources, P s := by
  obtain ⟨base, documents, own, -, hdocuments, hown, rfl⟩ := registry_ok h
  refine Registry.forall_mem_addAll _ (by simp) fun s hs => ?_
  rcases List.mem_append.mp hs with hs | hs
  · obtain ⟨x, -, hx⟩ := exists_related_left hdocuments hs
    exact hload base x s hx
  · exact henvironment s (environment_of_mem hown s hs)

/-- A source setting is read back from its value. -/
theorem sourceOf_sourceToValue (x : SourceSetting) : sourceOf (sourceToValue x) = .ok x := by
  simp [sourceOf, sourceToValue, sourceOfEntries, Entries.named?, Entries.get?, Value.same, orderOf,
    Value.toText, bind, Except.bind, pure, Except.pure]

/-- Source settings are read back from their values. -/
theorem mapM_sourceOf (sources : List SourceSetting) :
    sources.mapM (sourceOf ∘ sourceToValue) = .ok sources := by
  induction sources with
  | nil => rfl
  | cons x rest ih =>
    rw [List.mapM_cons, Function.comp_apply, sourceOf_sourceToValue, ih]
    rfl

/-- Settings in normal form are their own normal form. -/
theorem ofValue_toValue (s : Settings) : ofValue s.toValue = .ok s := by
  simp [ofValue, entriesOf, toValue, Value.truthy, Entries.named?, Entries.get?, Value.same,
    flagSetting, listSetting, mapM_sourceOf, bind, Except.bind, pure, Except.pure]

/-- An endpoint from settings is made of the settings that a value gives: their masking, and the
registry of what they name. -/
theorem exists_settings {v : Value} {given : Option Value} {e : Endpoint}
    (h : endpointOfValue w v given = .ok e) :
    ∃ (settings : Settings) (m : Masking), ofValue v = .ok settings ∧
      settings.registry w given = .ok e.registry ∧ e.hook = some m.hook ∧
      e.enabled = settings.enabled := by
  obtain ⟨settings, hsettings, h⟩ := bind_eq_ok h
  obtain ⟨m, -, h⟩ := bind_eq_ok h
  obtain ⟨r, hr, h⟩ := bind_eq_ok h
  cases h
  exact ⟨settings, m, hsettings, hr, rfl, rfl⟩

/-- An endpoint from settings has a hook from settings and a registry of what they name. -/
theorem endpointOfValue_ok {v : Value} {given : Option Value} {e : Endpoint}
    (h : endpointOfValue w v given = .ok e) :
    ∃ (settings : Settings) (m : Masking), settings.registry w given = .ok e.registry ∧
      e.hook = some m.hook ∧ e.enabled = settings.enabled := by
  obtain ⟨settings, m, -, hmade⟩ := exists_settings h
  exact ⟨settings, m, hmade⟩

end Settings

end MaskedReport
