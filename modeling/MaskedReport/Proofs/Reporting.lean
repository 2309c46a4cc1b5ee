import MaskedReport.Proofs.Agreement
import MaskedReport.Proofs.Loading

/-!
# Endpoints from settings always report

The sources that settings load have whole numbers for orders and hold their properties under texts,
and the hook of settings configures every policy. So nothing can fail when an endpoint from settings
reports: `configured_endpoint_reports`.
-/

set_option autoImplicit false

namespace MaskedReport

/-- Whether a value is a mapping with texts for keys. -/
def Value.IsTextKeyed (v : Value) : Prop :=
  ∃ es : Entries, v = .map es ∧ ∀ key ∈ es.keys, ∃ t, key = .text t

/-- A source of which every policy makes an entry, and which has a place among others. -/
structure Source.Reportable (s : Source) : Prop where
  order : ∃ i, s.order = .int i
  contents : ∃ es : Entries, s.contents = .stored es ∧ ∀ key ∈ es.keys, ∃ t, key = .text t

/-! ## Reports on reportable sources -/

variable {sources : List Source}

/-- A reportable source has an entry under every policy. -/
theorem Entry.exists_ofSource (p : Policy) {s : Source} (h : s.Reportable) :
    ∃ e, ofSource p.classify s = .ok e := by
  obtain ⟨name, order, convention, contents⟩ := s
  obtain ⟨es, rfl, htexts⟩ := h.contents
  exact exists_ofSource_stored p name order convention htexts

namespace Report

/-- A full report on reportable sources has the given names and packages. -/
theorem exists_full (p : Policy) (h : ∀ s ∈ sources, s.Reportable)
    (activeNames packages : List Value) :
    ∃ entries, full p.classify sources (.tuple activeNames) (.tuple packages) =
      .ok { activeNames, packages, entries } := by
  have hordered := sorted_of_whole fun s hs => (h s hs).order
  obtain ⟨entries, hentries⟩ := exists_entriesOf_iff.mpr fun s hs =>
    Entry.exists_ofSource p (h s ((sorted_perm hordered).mem_iff.mp hs))
  exact ⟨entries, full_of_sorted hordered rfl rfl hentries⟩

/-- Among reportable sources no name fails. -/
theorem exists_single? (p : Policy) (h : ∀ s ∈ sources, s.Reportable) (name : Value) :
    ∃ found, single? p.classify sources name = .ok found := by
  obtain ⟨entries, hfull⟩ := exists_full p h [] []
  exact exists_single?_of_full hfull name

end Report

/-! ## Endpoints from settings -/

/-- The policy of a request is what the steps of the masking make of a new one. -/
theorem Endpoint.policy_of_masking {e : Endpoint} {m : Masking} (h : e.hook = some m.hook)
    (principal : Value) : e.policy principal = .ok (Policy.run { principal } m.steps) := by
  rw [policy, h]
  exact m.hook_eq_run { principal }

/-- An endpoint with reportable sources reports on them, with an entry for each. -/
theorem Endpoint.exists_report {e : Endpoint} {m : Masking} (hhook : e.hook = some m.hook)
    (hsources : ∀ s ∈ e.registry.sources, s.Reportable) (principal : Value) :
    ∃ (ordered : List Source) (entries : List Entry),
      e.report principal =
        .ok { activeNames := e.registry.activeNames, packages := e.registry.packages, entries } ∧
      ordered.Perm e.registry.sources ∧
      List.Forall₂ (fun s entry => Entry.ofSource (Policy.run { principal } m.steps).classify s =
        .ok entry) ordered entries := by
  obtain ⟨entries, hfull⟩ := Report.exists_full (Policy.run { principal } m.steps) hsources
    e.registry.activeNames e.registry.packages
  obtain ⟨ordered, hperm, hentries⟩ := Report.forall₂_full hfull
  refine ⟨ordered, entries, ?_, hperm, hentries⟩
  rw [report, policy_of_masking hhook]
  exact hfull

/-- An endpoint with reportable sources does not fail on any name. -/
theorem Endpoint.exists_properties? {e : Endpoint} {m : Masking} (hhook : e.hook = some m.hook)
    (hsources : ∀ s ∈ e.registry.sources, s.Reportable) (name principal : Value) :
    ∃ found, e.properties? name principal = .ok found := by
  obtain ⟨found, hfound⟩ := Report.exists_single? (Policy.run { principal } m.steps) hsources name
  refine ⟨found, ?_⟩
  rw [properties?, policy_of_masking hhook]
  exact hfound

/-- The source of a document is reportable, whatever the document. -/
theorem Settings.reportable_of_load {w : World} {base : Path} {x : SourceSetting} {s : Source}
    (h : load w base x = .ok s) : s.Reportable := by
  obtain ⟨p, -, h⟩ := bind_eq_ok h
  obtain ⟨q, data, es, -, -, hes, rfl⟩ := Source.ofPath_ok h
  exact ⟨⟨x.order, rfl⟩, es, rfl, Flatten.text_of_mem_keys_flatten hes⟩

/-- The source of an environment with texts for keys is reportable. -/
theorem Settings.reportable_of_environment {w : World} {given : Option Value} {s : Source}
    (hgiven : (given.getD (.map w.environment)).IsTextKeyed) (h : environment w given = .ok s) :
    s.Reportable := by
  obtain ⟨bindings, hbindings, htexts⟩ := hgiven
  rw [environment_ok hbindings h]
  exact ⟨⟨100, rfl⟩, bindings, rfl, htexts⟩

/-- An endpoint that settings give has the hook of a masking, and all its sources are reportable. -/
theorem Settings.reportable_of_endpoint {w : World} {v : Value} {given : Option Value}
    {e : Endpoint} (hgiven : (given.getD (.map w.environment)).IsTextKeyed)
    (h : endpointOfValue w v given = .ok e) :
    (∃ m : Masking, e.hook = some m.hook) ∧ ∀ s ∈ e.registry.sources, s.Reportable := by
  obtain ⟨settings, m, hregistry, hhook, -⟩ := endpointOfValue_ok h
  exact ⟨⟨m, hhook⟩, forall_mem_registry (fun _ _ _ => reportable_of_load)
    (fun _ => reportable_of_environment hgiven) hregistry⟩

/-- An endpoint that settings give, over an environment whose variables have texts for names,
reports to whoever asks: the full report has one entry for each source of the registry, made by the
policy of who asks, and asking for a single name does not fail either. -/
theorem configured_endpoint_reports {w : World} {v : Value} {given : Option Value} {e : Endpoint}
    (hgiven : (given.getD (.map w.environment)).IsTextKeyed)
    (h : Settings.endpointOfValue w v given = .ok e) (principal : Value) :
    ∃ (p : Policy) (report : Report) (ordered : List Source),
      e.policy principal = .ok p ∧ e.report principal = .ok report ∧
      ordered.Perm e.registry.sources ∧
      List.Forall₂ (fun s entry => Entry.ofSource p.classify s = .ok entry) ordered
        report.entries ∧
      report.entries.length = e.registry.sources.length ∧
      ∀ name, ∃ found, e.properties? name principal = .ok found := by
  obtain ⟨⟨m, hhook⟩, hsources⟩ := Settings.reportable_of_endpoint hgiven h
  obtain ⟨ordered, entries, hreport, hperm, hentries⟩ :=
    Endpoint.exists_report hhook hsources principal
  refine ⟨_, _, ordered, Endpoint.policy_of_masking hhook principal, hreport, hperm, hentries, ?_,
    ?_⟩
  · exact hentries.length_eq.symm.trans hperm.length_eq
  · exact fun name => Endpoint.exists_properties? hhook hsources name principal

/-! ## A list that holds a mapping -/

/-- A document with a mapping in a list; the key of the mapping is a byte. -/
def byteKeyDocument : List Char := "\"a\": [\x7b!!binary \"aw==\": \"x\"\x7d]".toList

/-- A world with that document and one variable. -/
def byteKeyWorld : World where
  files := [("a.yml", Utf8.encode byteKeyDocument)]
  directory := "/work"
  environment := [(.text "HOME", .text "/root")]

/-- Settings for an endpoint that masks nothing. -/
def byteKeySettings : Value :=
  .map [(.text "enabled", .bool true), (.text "masking", .text "none"),
    (.text "property_sources", .text "a.yml")]

/-- The source of the document. -/
def byteKeySource : Source where
  name := .text "a"
  order := .int 0
  convention := .dotted
  contents := .stored [(.text "a", .list [.map [(.bytes [107], .text "x")]])]

/-- The source of the variable. -/
def homeSource : Source where
  name := .text "env"
  order := .int 100
  convention := .environment
  contents := .stored [(.text "HOME", .text "/root")]

/-- The endpoint of the settings. -/
def byteKeyEndpoint : Endpoint where
  registry := { sources := [byteKeySource, homeSource] }
  hook := some (Masking.hook { mode := .none, patterns := [] })
  enabled := true

/-- The name, the key and the value in a document of that form. -/
def byteKeyParts? : Value → Option (Text × List UInt8 × Text)
  | .map [(.text name, .list [.map [(.bytes key, .text value)]])] => some (name, key, value)
  | _ => none

/-- A value with the parts of a mapping within a list is that value. -/
theorem eq_of_byteKeyParts {v : Value} {name value : Text} {key : List UInt8}
    (h : byteKeyParts? v = some (name, key, value)) :
    v = .map [(.text name, .list [.map [(.bytes key, .text value)]])] := by
  unfold byteKeyParts? at h
  split at h
  · cases h
    rfl
  · cases h

/-- The file of that world holds a mapping with a byte for a key. -/
theorem document_byteKeyWorld :
    byteKeyWorld.document .sourceFile (.ofText "a.yml") =
      .ok (.map [(.text "a", .list [.map [(.bytes [107], .text "x")]])]) := by
  have hname : Path.IsSystemName (Path.ofText "a.yml").text := by
    have htext : (Path.ofText "a.yml").text = Text.ofString "a.yml" := by decide +kernel
    rw [htext, Path.isSystemName_ofString]
    decide
  have htext : byteKeyWorld.textOf (.ofText "a.yml") = .ok byteKeyDocument := by decide +kernel
  have hparts : (Document.read byteKeyDocument).toOption.bind byteKeyParts? =
      some (Text.ofString "a", [107], Text.ofString "x") := by decide +kernel
  obtain ⟨v, hread, hshape⟩ := Document.exists_read hparts
  rw [eq_of_byteKeyParts hshape] at hread
  exact World.document_of_read hname htext hread .sourceFile

/-- The file is loaded as a source with that mapping. -/
theorem load_byteKeyWorld :
    Settings.load byteKeyWorld (.ofText ".") { path := "a.yml", name := .null, order := 0 } =
      .ok byteKeySource := by
  have hpath : Settings.pathOf byteKeyWorld (.ofText ".")
      { path := "a.yml", name := .null, order := 0 } = .ok (.ofText "a.yml") := by decide +kernel
  have hhome : Path.expandHome byteKeyWorld.home? (.ofText "a.yml") = .ok (.ofText "a.yml") := by
    decide +kernel
  have hstem : (Path.ofText "a.yml").stem = "a" := by decide +kernel
  have hnamed : Source.nameOr .null (.ofText "a.yml") = .text "a" := by
    rw [Source.nameOr, hstem]
    rfl
  have hsource := Source.ofPath_of_document hhome document_byteKeyWorld rfl .null (.int 0)
  rw [Settings.load_of_pathOf hpath, hsource, hnamed]
  rfl

/-- The mode that masks nothing, without patterns, is a masking. -/
theorem ofValues_none :
    Masking.ofValues (.text "none") (.list []) = .ok { mode := .none, patterns := [] } := by
  have hmode : Mode.ofValue (.text "none") = .ok .none := by
    simp [Mode.ofValue, Mode.every, Mode.name, Value.same]
  rw [Masking.ofValues, hmode]
  rfl

/-- The settings give the endpoint that shows a byte for a key. -/
theorem endpointOfValue_byteKey :
    Settings.endpointOfValue byteKeyWorld byteKeySettings none = .ok byteKeyEndpoint := by
  have hsettings : Settings.ofValue byteKeySettings = .ok {
      enabled := true
      masking := .text "none"
      maskPatterns := []
      activeEnvironments := []
      packages := []
      includeEnvironment := true
      sources := [{ path := "a.yml", name := .null, order := 0 }]
      baseDirectory := .null } := by
    simp [Settings.ofValue, Settings.entriesOf, byteKeySettings, Value.truthy, Entries.named?,
      Entries.get?, Value.same, Settings.flagSetting, Settings.listSetting, Settings.sourceOf,
      Settings.sourceOfEntries, Settings.orderOf, Value.toText, bind, Except.bind, pure,
      Except.pure]
  have hhome : Settings.environment byteKeyWorld none = .ok homeSource := rfl
  have hregistry : (({} : Registry).add byteKeySource).add homeSource =
      { sources := [byteKeySource, homeSource] } := by
    simp [Registry.add, Registry.put, byteKeySource, homeSource, Value.same]
  simp only [Settings.endpointOfValue, hsettings, Settings.endpoint, Settings.maskingHook,
    ofValues_none,
    Settings.registry, Settings.base, Value.truthy, Settings.registerAll, load_byteKeyWorld, hhome,
    Bool.false_eq_true, if_false, if_true, bind, Except.bind, pure, Except.pure, hregistry]
  rfl

/-- Whoever asks gets two entries. -/
theorem configured_endpoint_reports_byteKey :
    Settings.endpointOfValue byteKeyWorld byteKeySettings none = .ok byteKeyEndpoint ∧
      ∃ report, byteKeyEndpoint.report (.text "admin") = .ok report ∧
        report.entries.length = 2 := by
  have hgiven : (none.getD (Value.map byteKeyWorld.environment)).IsTextKeyed :=
    ⟨byteKeyWorld.environment, rfl, by simp [byteKeyWorld, Entries.keys]⟩
  obtain ⟨p, report, ordered, -, hreport, -, -, hlength, -⟩ :=
    configured_endpoint_reports hgiven endpointOfValue_byteKey (.text "admin")
  exact ⟨endpointOfValue_byteKey, report, hreport, hlength⟩

end MaskedReport
