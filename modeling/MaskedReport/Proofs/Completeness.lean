import MaskedReport.Proofs.Reporting

/-!
# Which sources a report from settings has

Settings promise an entry for each document that they name, with the name and order of the setting
and the leaves of the document, and one for the environment. All of these are in the report if and
only if no two of the sources have the same name: `configured_sources_kept_iff`. A source without a
name of its own is named for its file, so the file may take the name of the environment:
`configured_source_lost`.
-/

set_option autoImplicit false

namespace MaskedReport

/-! ## What a policy reveals -/

/-- What a policy reveals of properties: each plain value, and the mask in place of each other. -/
def Policy.reveal (p : Policy) (es : Entries) : Entries :=
  es.map fun e =>
    match p.classify e.1 with
    | .ok .plain => e
    | _ => (e.1, maskMark)

/-- Properties under texts that come once are revealed in order. -/
theorem Entry.addProperties_stored (p : Policy) {es found : Entries}
    (htexts : ∀ key ∈ es.keys, ∃ t, key = .text t)
    (hnodup : (Entries.keys (found ++ es)).Nodup) :
    addProperties p.classify (es.map fun e => (e.1, .ok e.2)) found =
      .ok (found ++ p.reveal es) := by
  induction es generalizing found with
  | nil =>
    have hnone : p.reveal [] = [] := rfl
    rw [hnone, List.append_nil]
    rfl
  | cons e rest ih =>
    obtain ⟨key, value⟩ := e
    obtain ⟨t, rfl⟩ := htexts key List.mem_cons_self
    have hrest := fun k hk => htexts k (List.mem_cons_of_mem _ hk)
    have hnew : .text t ∉ found.keys := by
      intro hmem
      rw [Entries.keys, List.map_append] at hnodup
      exact (List.nodup_append.mp hnodup).2.2 _ hmem _ List.mem_cons_self rfl
    -- whatever the key is given, the keys stay as they are
    have hstep : ∀ shown, addProperties p.classify (rest.map fun e => (e.1, .ok e.2))
        (found.assign (.text t) shown) = .ok (found ++ (.text t, shown) :: p.reveal rest) := by
      intro shown
      rw [Entries.assign_of_new hnew, ih hrest, List.append_assoc, List.singleton_append]
      simpa [Entries.keys] using hnodup
    rw [List.map_cons, addProperties, Policy.reveal, List.map_cons, ← Policy.reveal,
      Policy.classify_text]
    by_cases hplain : (p.patterns.any fun q => q.matchesAll t) = p.allMasked
    · rw [if_pos hplain]
      exact hstep value
    · rw [if_neg hplain]
      exact hstep maskMark

/-- The entry of a source with distinct texts for keys shows its entries under the policy. -/
theorem Entry.ofSource_stored (p : Policy) (name order : Value) (convention : Convention)
    {es : Entries} (htexts : ∀ key ∈ es.keys, ∃ t, key = .text t) (hnodup : es.keys.Nodup) :
    ofSource p.classify { name, order, convention, contents := .stored es } =
      .ok { name, order, convention, properties := p.reveal es } := by
  have hproperties : addProperties p.classify (es.map fun e => (e.1, .ok e.2)) [] =
      .ok (p.reveal es) := addProperties_stored p htexts hnodup
  rw [ofSource]
  show (addProperties p.classify (es.map fun e => (e.1, .ok e.2)) [] >>= _) = _
  rw [hproperties]
  rfl

/-! ## What settings promise -/

/-- Whether an entry is what a setting promises under a policy: it has the name and the order of the
setting, and shows the leaves of the document that the setting names. -/
def SourceSetting.Promises (w : World) (base : Path) (p : Policy) (x : SourceSetting)
    (entry : Entry) : Prop :=
  ∃ (path q : Path) (data leaves : Entries), Settings.pathOf w base x = .ok path ∧
    path.expandHome w.home? = .ok q ∧
    (w.document .sourceFile q = .ok (.map data) ∨
      w.document .sourceFile q = .ok .null ∧ data = []) ∧
    Flatten.flatten "" data = .ok leaves ∧
    entry = {
      name := Source.nameOr x.name q
      order := .int x.order
      convention := .dotted
      properties := p.reveal leaves }

/-- A setting that is loaded promises an entry, and its source has that entry. -/
theorem SourceSetting.exists_promise {w : World} {base : Path} {x : SourceSetting} {s : Source}
    (h : Settings.load w base x = .ok s) (p : Policy) :
    ∃ entry, x.Promises w base p entry ∧ Entry.ofSource p.classify s = .ok entry := by
  obtain ⟨path, hpath, h⟩ := bind_eq_ok h
  obtain ⟨q, data, leaves, hq, hdocument, hleaves, rfl⟩ := Source.ofPath_ok h
  exact ⟨_, ⟨path, q, data, leaves, hpath, hq, hdocument, hleaves, rfl⟩,
    Entry.ofSource_stored p _ _ _ (Flatten.text_of_mem_keys_flatten hleaves)
      (Flatten.nodup_keys_flatten hleaves)⟩

/-- Settings that are loaded promise entries one by one, and their sources have those entries. -/
theorem SourceSetting.exists_promises {w : World} {base : Path} {settings : List SourceSetting}
    {documents : List Source}
    (h : List.Forall₂ (fun x s => Settings.load w base x = .ok s) settings documents)
    (p : Policy) :
    ∃ promised, List.Forall₂ (Promises w base p) settings promised ∧
      List.Forall₂ (fun s entry => Entry.ofSource p.classify s = .ok entry) documents promised := by
  induction h with
  | nil => exact ⟨[], List.Forall₂.nil, List.Forall₂.nil⟩
  | cons hload _ ih =>
    obtain ⟨entry, hpromise, hentry⟩ := exists_promise hload p
    obtain ⟨promised, hpromises, hentries⟩ := ih
    exact ⟨entry :: promised, List.Forall₂.cons hpromise hpromises,
      List.Forall₂.cons hentry hentries⟩

/-! ## What is kept -/

/-- Whether no entry has the name of one before it. -/
def Entry.NamesDiffer (entries : List Entry) : Prop :=
  entries.Pairwise fun a b => a.name.same b.name = false

namespace Report

variable {classify : Classify} {sources : List Source} {entries : List Entry}

/-- The names of entries differ if and only if those of their sources do. -/
theorem namesDiffer_entries_iff
    (h : List.Forall₂ (fun s e => Entry.ofSource classify s = .ok e) sources entries) :
    Entry.NamesDiffer entries ↔ Registry.NamesDiffer sources := by
  have hsources : Registry.NamesDiffer sources ↔
      (sources.map Source.name).Pairwise fun a b => a.same b = false := by
    rw [List.pairwise_map]
    rfl
  rw [hsources, map_name_entries h, List.pairwise_map]
  rfl

/-- The last of the entries whose name is a text. -/
def lastNamed? (name : Text) (entries : List Entry) : Option Entry :=
  (entries.filter fun e => e.name.same (.text name)).getLast?

/-- The last entry of a name is that of the last source of the name. -/
theorem lastNamed?_eq_some_iff
    (h : List.Forall₂ (fun s e => Entry.ofSource classify s = .ok e) sources entries)
    (name : Text) (entry : Entry) :
    lastNamed? name entries = some entry ↔
      ∃ s, Registry.lastNamed? name sources = some s ∧ Entry.ofSource classify s = .ok entry := by
  have hnamed : List.Forall₂ (fun s e => Entry.ofSource classify s = .ok e)
      (sources.filter fun s => s.name.same (.text name)).reverse
      (entries.filter fun e => e.name.same (.text name)).reverse := by
    refine List.forall₂_reverse_iff.mpr (List.rel_filter ?_ h)
    intro s e he
    simp only [Entry.name_ofSource he]
  rw [lastNamed?, Registry.lastNamed?, List.getLast?_eq_head?_reverse,
    List.getLast?_eq_head?_reverse]
  generalize (sources.filter fun s => s.name.same (.text name)).reverse = ss at hnamed ⊢
  generalize (entries.filter fun e => e.name.same (.text name)).reverse = es at hnamed ⊢
  cases hnamed with
  | nil => simp
  | cons he _ => simp [he, eq_comm]

end Report

namespace Endpoint

variable {e : Endpoint} {r : Registry} {sources : List Source} {entries : List Entry}
  {p : Policy} {principal : Value} {report : Report}

/-- A report has the entries of all sources that were registered iff they differ in name. -/
theorem report_keeps_iff (hr : r.sources = []) (hregistry : e.registry = r.addAll sources)
    (hpolicy : e.policy principal = .ok p) (hreport : e.report principal = .ok report)
    (hentries : List.Forall₂ (fun s e => Entry.ofSource p.classify s = .ok e) sources entries) :
    (report.entries.length = sources.length ↔ Entry.NamesDiffer entries) ∧
    (report.entries.Perm entries ↔ Entry.NamesDiffer entries) := by
  rw [report_of_policy hpolicy] at hreport
  obtain ⟨ordered, hperm, hordered⟩ := Report.forall₂_full hreport
  have hdiffer := r.length_addAll_iff (by rw [hr]; exact List.Pairwise.nil) sources
  have hall : r.sources ++ sources = sources := by rw [hr, List.nil_append]
  rw [hall, hr, List.length_nil, Nat.zero_add, ← hregistry,
    ← Report.namesDiffer_entries_iff hentries] at hdiffer
  have hlength : report.entries.length = e.registry.sources.length := by
    rw [← hordered.length_eq, hperm.length_eq]
  refine ⟨by rw [hlength, hdiffer], ?_⟩
  constructor
  · intro hkept
    rw [← hdiffer, ← hlength, hkept.length_eq, hentries.length_eq]
  · intro hnames
    -- nothing was replaced, so the registry has the sources as they were registered
    have hsources : e.registry.sources = sources := by
      rw [Report.namesDiffer_entries_iff hentries, ← hall] at hnames
      rw [hregistry, r.sources_addAll hnames, hall]
    rw [hsources] at hperm
    exact List.rel_perm_imp (Report.ofSource_rightUnique p.classify) hordered hentries hperm

/-- Of the entries of one name a report has the last. -/
theorem mem_report_iff (hr : r.sources = []) (hregistry : e.registry = r.addAll sources)
    (hpolicy : e.policy principal = .ok p) (hreport : e.report principal = .ok report)
    (hentries : List.Forall₂ (fun s e => Entry.ofSource p.classify s = .ok e) sources entries)
    {name : Text} {entry : Entry} (hname : entry.name = .text name) :
    entry ∈ report.entries ↔ Report.lastNamed? name entries = some entry := by
  have honce : Registry.TextsOnce e.registry.sources := by
    rw [hregistry]
    exact r.textsOnce_of_registered hr sources
  have hlisted : entry ∈ report.entries ↔
      e.properties? (.text name) principal = .ok (some entry) := by
    rw [report_of_policy hpolicy] at hreport
    rw [properties?_of_policy hpolicy, Report.single?_eq_some_iff honce hreport,
      and_iff_left hname]
  rw [hlisted, properties?_of_registered hr hregistry, hpolicy,
    Report.lastNamed?_eq_some_iff hentries]
  cases Registry.lastNamed? name sources with
  | none => simp [bind, Except.bind, pure, Except.pure]
  | some s =>
    cases hshown : Entry.ofSource p.classify s with
    | error f => simp [hshown, bind, Except.bind]
    | ok shown => simp [hshown, bind, Except.bind, pure, Except.pure]

end Endpoint

/-- An endpoint that settings give, over an environment whose variables have texts for names,
reports to whoever asks. An entry is promised for each setting of a source, and one for the
environment if that is included. The report has as many entries, and has just these, if and only if
no two of them have the same name; of those of one name it has the last. -/
theorem configured_sources_kept_iff {w : World} {v : Value} {given : Option Value} {e : Endpoint}
    (hgiven : (given.getD (.map w.environment)).IsTextKeyed)
    (h : Settings.endpointOfValue w v given = .ok e) (principal : Value) :
    ∃ (settings : Settings) (base : Path) (p : Policy) (report : Report) (own : List Source)
      (promised ofOwn : List Entry),
      Settings.ofValue v = .ok settings ∧ settings.base = .ok base ∧
      e.policy principal = .ok p ∧ e.report principal = .ok report ∧
      List.Forall₂ (SourceSetting.Promises w base p) settings.sources promised ∧
      settings.environmentSources w given = .ok own ∧
      List.Forall₂ (fun s entry => Entry.ofSource p.classify s = .ok entry) own ofOwn ∧
      (report.entries.length =
          settings.sources.length + (if settings.includeEnvironment then 1 else 0) ↔
        Entry.NamesDiffer (promised ++ ofOwn)) ∧
      (report.entries.Perm (promised ++ ofOwn) ↔ Entry.NamesDiffer (promised ++ ofOwn)) ∧
      ∀ (name : Text) (entry : Entry), entry.name = .text name →
        (entry ∈ report.entries ↔ Report.lastNamed? name (promised ++ ofOwn) = some entry) := by
  obtain ⟨settings, m, hsettings, hregistry, hhook, -⟩ := Settings.exists_settings h
  have hsources : ∀ s ∈ e.registry.sources, s.Reportable :=
    Settings.forall_mem_registry (fun _ _ _ => Settings.reportable_of_load)
      (fun _ => Settings.reportable_of_environment hgiven) hregistry
  have hpolicy := Endpoint.policy_of_masking hhook principal
  obtain ⟨ordered, entries, hreport, -, -⟩ := Endpoint.exists_report hhook hsources principal
  obtain ⟨base, documents, own, hbase, hdocuments, hown, hadded⟩ := Settings.registry_ok hregistry
  obtain ⟨promised, hpromises, hpromised⟩ := SourceSetting.exists_promises hdocuments _
  obtain ⟨ofOwn, hofOwn⟩ : ∃ ofOwn,
      Report.entriesOf (Policy.run { principal } m.steps).classify own = .ok ofOwn :=
    Report.exists_entriesOf_iff.mpr fun s hs => Entry.exists_ofSource _
      (Settings.reportable_of_environment hgiven (Settings.environment_of_mem hown s hs))
  have hentries := Report.forall₂_entriesOf hofOwn
  have hall := List.rel_append hpromised hentries
  obtain ⟨hlength, hkept⟩ := Endpoint.report_keeps_iff rfl hadded hpolicy hreport hall
  rw [List.length_append, ← hdocuments.length_eq, Settings.length_environmentSources hown]
    at hlength
  exact ⟨settings, base, _, _, own, promised, ofOwn, hsettings, hbase, hpolicy, hreport, hpromises,
    hown, hentries, hlength, hkept,
    fun name entry => Endpoint.mem_report_iff rfl hadded hpolicy hreport hall⟩

/-! ## A document with the name of the environment -/

/-- A document with one property. -/
def portDocument : List Char := "\"port\": \"80\"".toList

/-- A world with a document that is named like the source of the environment, and one variable. -/
def portWorld : World where
  files := [("env.yml", Utf8.encode portDocument)]
  directory := "/work"
  environment := [(.text "HOME", .text "/root")]

/-- Settings for an endpoint that masks nothing and reports on the document under a name. -/
def portSettings (name : Value) : Value :=
  .map [(.text "enabled", .bool true), (.text "masking", .text "none"),
    (.text "property_sources", .list [.map [(.text "path", .text "env.yml"),
      (.text "name", name)]])]

/-- The source of the document. -/
def portSource (name : Value) : Source where
  name := Source.nameOr name (.ofText "env.yml")
  order := .int 0
  convention := .dotted
  contents := .stored [(.text "port", .text "80")]

/-- The endpoint of the settings. -/
def portEndpoint (name : Value) : Endpoint where
  registry := Registry.addAll {} [portSource name, homeSource]
  hook := some (Masking.hook { mode := .none, patterns := [] })
  enabled := true

/-- The key and the value in a document of that form. -/
def portParts? : Value → Option (Text × Text)
  | .map [(.text name, .text value)] => some (name, value)
  | _ => none

/-- The file of that world holds a port. -/
theorem document_portWorld :
    portWorld.document .sourceFile (.ofText "env.yml") =
      .ok (.map [(.text "port", .text "80")]) := by
  have hname : Path.IsSystemName (Path.ofText "env.yml").text := by
    have htext : (Path.ofText "env.yml").text = Text.ofString "env.yml" := by decide +kernel
    rw [htext, Path.isSystemName_ofString]
    decide
  have htext : portWorld.textOf (.ofText "env.yml") = .ok portDocument := by decide +kernel
  have hparts : (Document.read portDocument).toOption.bind portParts? =
      some (Text.ofString "port", Text.ofString "80") := by decide +kernel
  obtain ⟨v, hread, hshape⟩ := Document.exists_read hparts
  unfold portParts? at hshape
  split at hshape
  · cases hshape
    exact World.document_of_read hname htext hread .sourceFile
  · cases hshape

/-- The file is loaded as a source with the port. -/
theorem load_portWorld (name : Value) :
    Settings.load portWorld (.ofText ".") { path := "env.yml", name, order := 0 } =
      .ok (portSource name) := by
  have hjoined : (Path.ofText ".").join (.ofText "env.yml") = .ofText "env.yml" := by
    decide +kernel
  have hhome : Path.expandHome portWorld.home? (.ofText "env.yml") = .ok (.ofText "env.yml") := by
    decide +kernel
  have hpath : Settings.pathOf portWorld (.ofText ".") { path := "env.yml", name, order := 0 } =
      .ok (.ofText "env.yml") := by
    rw [Settings.pathOf, hhome]
    exact congrArg Except.ok hjoined
  rw [Settings.load_of_pathOf hpath]
  exact Source.ofPath_of_document hhome document_portWorld rfl name (.int 0)

/-- The settings are read in normal form. -/
theorem ofValue_portSettings (name : Value) :
    Settings.ofValue (portSettings name) = .ok {
      enabled := true
      masking := .text "none"
      maskPatterns := []
      activeEnvironments := []
      packages := []
      includeEnvironment := true
      sources := [{ path := "env.yml", name, order := 0 }]
      baseDirectory := .null } := by
  simp [Settings.ofValue, Settings.entriesOf, portSettings, Value.truthy, Entries.named?,
    Entries.get?, Value.same, Settings.flagSetting, Settings.listSetting, Settings.sourceOf,
    Settings.sourceOfEntries, Settings.orderOf, Value.toText, bind, Except.bind, pure, Except.pure]

/-- The settings give the endpoint with the port. -/
theorem endpointOfValue_portSettings (name : Value) :
    Settings.endpointOfValue portWorld (portSettings name) none = .ok (portEndpoint name) := by
  have hhome : Settings.environment portWorld none = .ok homeSource := rfl
  simp only [Settings.endpointOfValue, ofValue_portSettings, Settings.endpoint,
    Settings.maskingHook, ofValues_none, Settings.registry, Settings.base, Value.truthy,
    Settings.registerAll, load_portWorld, hhome, Bool.false_eq_true, if_false, if_true, bind,
    Except.bind, pure, Except.pure]
  rfl

/-- Under a name of its own the document is kept beside the environment. -/
theorem configured_sources_kept_iff_port :
    Settings.endpointOfValue portWorld (portSettings (.int 5)) none = .ok (portEndpoint (.int 5)) ∧
      ∃ report, (portEndpoint (.int 5)).report .null = .ok report ∧ report.entries.length = 2 := by
  have hgiven : (none.getD (Value.map portWorld.environment)).IsTextKeyed :=
    ⟨portWorld.environment, rfl, by simp [portWorld, Entries.keys]⟩
  obtain ⟨settings, base, p, report, own, promised, ofOwn, hsettings, -, -, hreport, hpromises,
    hown, hofOwn, hlength, -⟩ :=
    configured_sources_kept_iff hgiven (endpointOfValue_portSettings (.int 5)) .null
  refine ⟨endpointOfValue_portSettings (.int 5), report, hreport, ?_⟩
  rw [ofValue_portSettings] at hsettings
  cases hsettings
  obtain ⟨a, rest, ⟨path, q, data, leaves, -, -, -, -, rfl⟩, hnone, rfl⟩ :=
    List.forall₂_cons_left_iff.mp hpromises
  cases hnone
  cases hown
  obtain ⟨b, rest, hb, hnone, rfl⟩ := List.forall₂_cons_left_iff.mp hofOwn
  cases hnone
  refine hlength.mpr ?_
  have hnames : (Source.nameOr (.int 5) q).same b.name = false := by
    rw [Entry.name_ofSource hb]
    simp [Source.nameOr, Value.truthy, Source.environmentName, Value.same, Value.quantity?]
  simpa [Entry.NamesDiffer] using hnames

/-- Without a name of its own the document is lost: its file has the name of the environment, so the
report has one entry where the settings promise two. -/
theorem configured_source_lost :
    portWorld.document .sourceFile (.ofText "env.yml") =
        .ok (.map [(.text "port", .text "80")]) ∧
      Settings.endpointOfValue portWorld (portSettings .null) none = .ok (portEndpoint .null) ∧
      ∃ settings report, Settings.ofValue (portSettings .null) = .ok settings ∧
        settings.includeEnvironment = true ∧
        (portEndpoint .null).report .null = .ok report ∧
        report.entries = [{
          name := .text "env"
          order := .int 100
          convention := .environment
          properties := [(.text "HOME", .text "/root")] }] ∧
        report.entries.length < settings.sources.length + 1 := by
  have hstem : (Path.ofText "env.yml").stem = "env" := by decide +kernel
  have hnamed : (portSource .null).name = .text "env" := by
    show Source.nameOr .null (.ofText "env.yml") = _
    rw [Source.nameOr, hstem]
    rfl
  have hregistry : Registry.addAll {} [portSource .null, homeSource] =
      { sources := [homeSource] } := by
    simp [Registry.addAll, Registry.add, Registry.put, hnamed, homeSource, Value.same]
  have hsorted : Report.sorted [homeSource] = .ok [homeSource] := by
    rw [Report.sorted, List.mergeSort_singleton]
    rfl
  have hreport : (portEndpoint .null).report .null = .ok {
      activeNames := []
      packages := []
      entries := [{
        name := .text "env"
        order := .int 100
        convention := .environment
        properties := [(.text "HOME", .text "/root")] }] } := by
    rw [Endpoint.report, portEndpoint, hregistry]
    show Report.full _ [homeSource] (.tuple []) (.tuple []) = _
    rw [Report.full, hsorted]
    rfl
  exact ⟨document_portWorld, endpointOfValue_portSettings .null, _, _, ofValue_portSettings .null,
    rfl, hreport, rfl, by decide⟩

end MaskedReport
