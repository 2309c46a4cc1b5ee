import MaskedReport.Endpoint
import MaskedReport.Proofs.Registration

/-!
# The full report and the reports on single sources

Both are made of the entries of sources, one by sorting all of them and one by looking for a name.
They agree because a registry holds no text as the name of two sources: where the full report
succeeds it has the entry of each name and no other, and it fails only where the policy or the entry
of some name does. What is asked of one name goes by the source registered last with it alone:
`full_agrees_with_single`.
-/

set_option autoImplicit false

namespace MaskedReport

/-- What does not succeed fails. -/
theorem exists_error_iff {α : Type} (x : Except Failure α) :
    (∃ f, x = .error f) ↔ ¬ ∃ a, x = .ok a := by
  cases x with
  | error f => simp
  | ok a => simp

namespace Report

variable {classify : Classify} {sources : List Source} {s : Source} {name : Text}

/-! ## When reports succeed -/

/-- All sources have entries if and only if each has one. -/
theorem exists_entriesOf_iff : (∃ entries, entriesOf classify sources = .ok entries) ↔
    ∀ s ∈ sources, ∃ entry, Entry.ofSource classify s = .ok entry := by
  induction sources with
  | nil => exact iff_of_true ⟨[], rfl⟩ nofun
  | cons s rest ih =>
    rw [List.forall_mem_cons, ← ih]
    constructor
    · rintro ⟨entries, h⟩
      obtain ⟨entry, hentry, h⟩ := bind_eq_ok h
      obtain ⟨others, hothers, -⟩ := bind_eq_ok h
      exact ⟨⟨entry, hentry⟩, others, hothers⟩
    · rintro ⟨⟨entry, hentry⟩, others, hothers⟩
      refine ⟨entry :: others, ?_⟩
      rw [entriesOf, hentry, hothers]
      rfl

/-- Sources with whole numbers for orders are sorted. -/
theorem sorted_of_whole (h : ∀ s ∈ sources, ∃ i, s.order = .int i) :
    sorted sources = .ok (sources.mergeSort fun a b => a.rank?.getD 0 ≤ b.rank?.getD 0) := by
  have hranked : (sources.all fun s => s.rank?.isSome) = true := by
    rw [List.all_eq_true]
    intro s hs
    obtain ⟨i, hi⟩ := h s hs
    rw [Source.rank?, hi]
    rfl
  rw [sorted, if_pos hranked]

/-- A full report on sources with whole numbers for orders succeeds iff each source has an entry. -/
theorem exists_full_iff (horders : ∀ s ∈ sources, ∃ i, s.order = .int i)
    (activeNames packages : List Value) :
    (∃ report, full classify sources (.tuple activeNames) (.tuple packages) = .ok report) ↔
      ∀ s ∈ sources, ∃ entry, Entry.ofSource classify s = .ok entry := by
  constructor
  · rintro ⟨report, h⟩ s hs
    obtain ⟨ordered, hperm, hentries⟩ := forall₂_full h
    obtain ⟨entry, -, hentry⟩ := exists_related_right hentries (hperm.mem_iff.mpr hs)
    exact ⟨entry, hentry⟩
  · intro hall
    have hordered := sorted_of_whole horders
    obtain ⟨entries, hentries⟩ := exists_entriesOf_iff.mpr fun s hs =>
      hall s ((sorted_perm hordered).mem_iff.mp hs)
    exact ⟨_, full_of_sorted hordered rfl rfl hentries⟩

/-! ## Entries by name -/

/-- The report on a text is made of the source that the text leads to. -/
theorem single?_eq (classify : Classify) (sources : List Source) (name : Value) :
    single? classify sources name =
      match sources.find? fun s => s.name.same name with
      | none => .ok none
      | some s => (Entry.ofSource classify s).map some := by
  unfold single?
  cases sources.find? fun s => s.name.same name with
  | none => rfl
  | some s =>
    cases Entry.ofSource classify s with
    | error f => rfl
    | ok entry => rfl

/-- Where names that are texts come once, a source is found by its name. -/
theorem single?_of_mem (hnames : Registry.TextsOnce sources) (hs : s ∈ sources)
    (hname : s.name = .text name) :
    single? classify sources (.text name) = (Entry.ofSource classify s).map some := by
  rw [single?_eq, Registry.find?_of_mem hnames hs hname]

/-- The entries of sources are those that one of the sources has. -/
theorem mem_entries_iff {entries : List Entry}
    (h : List.Forall₂ (fun s e => Entry.ofSource classify s = .ok e) sources entries)
    (entry : Entry) :
    entry ∈ entries ↔ ∃ s ∈ sources, Entry.ofSource classify s = .ok entry := by
  constructor
  · exact exists_related_left h
  · rintro ⟨s, hs, hentry⟩
    obtain ⟨other, hmem, hother⟩ := exists_related_right h hs
    rw [hentry] at hother
    cases hother
    exact hmem

/-- Where the full report succeeds, the report on a text is the one entry of that name. -/
theorem single?_eq_some_iff (hnames : Registry.TextsOnce sources) {activeNames packages : Value}
    {report : Report} (h : full classify sources activeNames packages = .ok report)
    (entry : Entry) :
    single? classify sources (.text name) = .ok (some entry) ↔
      entry ∈ report.entries ∧ entry.name = .text name := by
  obtain ⟨ordered, hperm, hentries⟩ := forall₂_full h
  constructor
  · intro hsingle
    obtain ⟨s, hs, hname, hentry⟩ := exists_of_single? hsingle
    rw [Value.same_text_iff] at hname
    have hmem := (mem_entries_iff hentries entry).mpr ⟨s, hperm.mem_iff.mpr hs, hentry⟩
    exact ⟨hmem, (Entry.name_ofSource hentry).trans hname⟩
  · rintro ⟨hmem, hname⟩
    obtain ⟨s, hs, hentry⟩ := (mem_entries_iff hentries entry).mp hmem
    rw [Entry.name_ofSource hentry] at hname
    rw [single?_of_mem hnames (hperm.mem_iff.mp hs) hname, hentry]
    rfl

/-- Where the full report does not fail, neither does any single entry. -/
theorem exists_single?_of_full {activeNames packages : Value} {report : Report}
    (h : full classify sources activeNames packages = .ok report) (name : Value) :
    ∃ found, single? classify sources name = .ok found := by
  obtain ⟨ordered, hperm, hentries⟩ := forall₂_full h
  rw [single?_eq]
  cases hfind : sources.find? fun s => s.name.same name with
  | none => exact ⟨none, rfl⟩
  | some s =>
    have hs := hperm.mem_iff.mpr (List.mem_of_find?_eq_some hfind)
    obtain ⟨entry, -, hentry⟩ := exists_related_right hentries hs
    exact ⟨some entry, by simp only [hentry]; rfl⟩

/-- No entry is found for a name if and only if none of the full report has it. -/
theorem single?_eq_none_iff (hnames : Registry.TextsOnce sources) {activeNames packages : Value}
    {report : Report} (h : full classify sources activeNames packages = .ok report) :
    single? classify sources (.text name) = .ok none ↔
      ∀ entry ∈ report.entries, entry.name ≠ .text name := by
  obtain ⟨found, hfound⟩ := exists_single?_of_full h (.text name)
  constructor
  · intro hnone entry hmem hname
    have hsome := (single?_eq_some_iff hnames h entry).mpr ⟨hmem, hname⟩
    rw [hnone] at hsome
    cases hsome
  · intro hnames'
    cases found with
    | none => exact hfound
    | some entry =>
      obtain ⟨hmem, hname⟩ := (single?_eq_some_iff hnames h entry).mp hfound
      exact absurd hname (hnames' entry hmem)

/-- What entries take from their sources comes in the order of the sources. -/
theorem map_entries {β : Type} {f : Source → β} {g : Entry → β}
    (hfg : ∀ s e, Entry.ofSource classify s = .ok e → g e = f s) {entries : List Entry}
    (h : List.Forall₂ (fun s e => Entry.ofSource classify s = .ok e) sources entries) :
    sources.map f = entries.map g := by
  rw [← List.forall₂_eq_eq_eq, List.forall₂_map_left_iff, List.forall₂_map_right_iff]
  exact h.imp fun s e hentry => (hfg s e hentry).symm

/-- Entries have the names of their sources. -/
theorem map_name_entries {entries : List Entry}
    (h : List.Forall₂ (fun s e => Entry.ofSource classify s = .ok e) sources entries) :
    sources.map Source.name = entries.map Entry.name :=
  map_entries (fun _ _ => Entry.name_ofSource) h

/-- The entries of a full report bear different names if these are texts. -/
theorem nodup_names (hnames : Registry.TextsOnce sources)
    (htexts : ∀ s ∈ sources, ∃ t, s.name = .text t) {activeNames packages : Value}
    {report : Report} (h : full classify sources activeNames packages = .ok report) :
    (report.entries.map Entry.name).Nodup := by
  obtain ⟨ordered, hperm, hentries⟩ := forall₂_full h
  rw [← map_name_entries hentries, (hperm.map Source.name).nodup_iff, List.Nodup,
    List.pairwise_map]
  refine hnames.imp_of_mem ?_
  intro a b ha _ hab
  obtain ⟨t, ht⟩ := htexts a ha
  rw [ht]
  exact fun hb => hab t ht hb.symm

end Report

/-! ## Endpoints -/

namespace Endpoint

variable {e : Endpoint}

/-- A single entry of an endpoint is that under the policy for who asks. -/
theorem properties?_of_policy {principal : Value} {p : Policy} (h : e.policy principal = .ok p)
    (name : Value) :
    e.properties? name principal = Report.single? p.classify e.registry.sources name := by
  rw [properties?, h]
  rfl

/-- The report of an endpoint is that under the policy for who asks. -/
theorem report_of_policy {principal : Value} {p : Policy} (h : e.policy principal = .ok p) :
    e.report principal = Report.full p.classify e.registry.sources (.tuple e.registry.activeNames)
      (.tuple e.registry.packages) := by
  rw [report, h]
  rfl

variable {r : Registry} {sources : List Source}

/-- The report on a text is made of the source registered last with it. -/
theorem properties?_of_registered (hr : r.sources = []) (hregistry : e.registry = r.addAll sources)
    (name : Text) (principal : Value) :
    e.properties? (.text name) principal = do
      let p ← e.policy principal
      match Registry.lastNamed? name sources with
      | none => return none
      | some s => return some (← Entry.ofSource p.classify s) := by
  have hfind : e.registry.sources.find? (fun s => s.name.same (.text name)) =
      Registry.lastNamed? name sources := by
    have hget := Registry.get?_addAll r sources name
    rw [← hregistry, Registry.get?, Registry.get?, hr, List.find?_nil, Option.or_none] at hget
    exact hget
  rw [properties?]
  cases e.policy principal with
  | error f => rfl
  | ok p =>
    show Report.single? p.classify e.registry.sources (.text name) = _
    unfold Report.single?
    rw [hfind]
    rfl

/-- An endpoint that reports to someone fails for no name asked by them. -/
theorem exists_properties?_of_report {principal : Value} {report : Report}
    (h : e.report principal = .ok report) (name : Value) :
    ∃ found, e.properties? name principal = .ok found := by
  obtain ⟨p, hpolicy, h⟩ := bind_eq_ok h
  obtain ⟨found, hfound⟩ := Report.exists_single?_of_full h name
  exact ⟨found, by rw [properties?_of_policy hpolicy, hfound]⟩

/-- Where every report on the name of a source succeeds, so does the full report. -/
theorem exists_report_of_properties? (honce : Registry.TextsOnce e.registry.sources)
    (hnames : ∀ s ∈ e.registry.sources, ∃ t, s.name = .text t)
    (horders : ∀ s ∈ e.registry.sources, ∃ i, s.order = .int i) {principal : Value} {p : Policy}
    (hpolicy : e.policy principal = .ok p)
    (h : ∀ s ∈ e.registry.sources, ∃ found, e.properties? s.name principal = .ok found) :
    ∃ report, e.report principal = .ok report := by
  rw [report_of_policy hpolicy, Report.exists_full_iff horders]
  intro s hs
  obtain ⟨name, hname⟩ := hnames s hs
  obtain ⟨found, hfound⟩ := h s hs
  rw [hname, properties?_of_policy hpolicy, Report.single?_of_mem honce hs hname] at hfound
  cases hentry : Entry.ofSource p.classify s with
  | error f =>
    rw [hentry] at hfound
    cases hfound
  | ok entry => exact ⟨entry, rfl⟩

end Endpoint

/-- The full report of an endpoint whose sources have texts for names and whole numbers for orders
fails if and only if the policy of who asks does or the report on a registered name does. Where it
succeeds its entries bear different names, and the report on a name is the entry of that name, or
nothing if there is none. The report on a name is made of the source registered last with it, so
whatever else is registered in its place or beside it, the report on the name is the same. -/
theorem full_agrees_with_single {e : Endpoint} {r : Registry} (hr : r.sources = [])
    {sources : List Source} (hregistry : e.registry = r.addAll sources)
    (hnames : ∀ s ∈ sources, ∃ t, s.name = .text t) (horders : ∀ s ∈ sources, ∃ i, s.order = .int i)
    (principal : Value) :
    ((∃ f, e.report principal = .error f) ↔ (∃ f, e.policy principal = .error f) ∨
      ∃ s ∈ sources, ∃ f, e.properties? s.name principal = .error f) ∧
    (∀ report, e.report principal = .ok report → (report.entries.map Entry.name).Nodup ∧
      ∀ name : Text,
        (∀ entry, e.properties? (.text name) principal = .ok (some entry) ↔
          entry ∈ report.entries ∧ entry.name = .text name) ∧
        (e.properties? (.text name) principal = .ok none ↔
          ∀ entry ∈ report.entries, entry.name ≠ .text name)) ∧
    ∀ name : Text,
      (e.properties? (.text name) principal = do
        let p ← e.policy principal
        match Registry.lastNamed? name sources with
        | none => return none
        | some s => return some (← Entry.ofSource p.classify s)) ∧
      ∀ (d : Endpoint) (q : Registry) (others : List Source), d.hook = e.hook → q.sources = [] →
        d.registry = q.addAll others →
        Registry.lastNamed? name others = Registry.lastNamed? name sources →
        d.properties? (.text name) principal = e.properties? (.text name) principal := by
  have hempty : ∀ {P : Source → Prop}, ∀ s ∈ r.sources, P s := by
    intro P s hs
    rw [hr] at hs
    cases hs
  have honce : Registry.TextsOnce e.registry.sources := by
    rw [hregistry]
    exact r.textsOnce_of_registered hr sources
  have hregistered : ∀ s ∈ e.registry.sources, s ∈ sources := by
    rw [hregistry]
    exact r.forall_mem_addAll hempty fun s hs => hs
  have hlast := fun name => Endpoint.properties?_of_registered hr hregistry name principal
  refine ⟨?_, ?_, fun name => ⟨hlast name, ?_⟩⟩
  · cases hpolicy : e.policy principal with
    | error f =>
      -- without a policy there is no report
      refine iff_of_true ⟨f, ?_⟩ (Or.inl ⟨f, rfl⟩)
      rw [Endpoint.report, hpolicy]
      rfl
    | ok p =>
      rw [or_iff_right (by simp)]
      constructor
      · intro hfails
        by_contra hsucceed
        refine (exists_error_iff _).mp hfails ?_
        refine Endpoint.exists_report_of_properties? honce (fun s hs => hnames s (hregistered s hs))
          (fun s hs => horders s (hregistered s hs)) hpolicy fun s hs => ?_
        by_contra hlacks
        exact hsucceed ⟨s, hregistered s hs, (exists_error_iff _).mpr hlacks⟩
      · rintro ⟨s, -, f, hf⟩
        refine (exists_error_iff _).mpr fun ⟨report, hreport⟩ => ?_
        obtain ⟨found, hfound⟩ := Endpoint.exists_properties?_of_report hreport s.name
        rw [hfound] at hf
        cases hf
  · intro report hreport
    obtain ⟨p, hpolicy, hfull⟩ := bind_eq_ok hreport
    refine ⟨Report.nodup_names honce (fun s hs => hnames s (hregistered s hs)) hfull, ?_⟩
    intro name
    rw [Endpoint.properties?_of_policy hpolicy]
    exact ⟨Report.single?_eq_some_iff honce hfull, Report.single?_eq_none_iff honce hfull⟩
  · intro d q others hhook hq hothers hsame
    have hpolicy : d.policy principal = e.policy principal := by
      rw [Endpoint.policy, Endpoint.policy, hhook]
    rw [hlast, Endpoint.properties?_of_registered hq hothers, hpolicy, hsame]

/-- A source that cannot be read, and one of its name that comes after it. -/
theorem full_agrees_with_single_replaced :
    let source (order : Int) (read : Value → Except Failure Value) : Source := {
      name := .text "app"
      order := .int order
      convention := .dotted
      contents := .computed [.text "port", .text "port"] read }
    let broken := source 5 fun _ => .error (.refused "cannot read port")
    let e : Endpoint := {
      registry := Registry.addAll {} [broken, source 7 fun _ => .ok (.int 80)]
      hook := some fun p => .ok { p with allMasked := false } }
    (∃ report, e.report .null = .ok report) ∧
      e.properties? (.text "app") .null = .ok (some {
        name := .text "app"
        order := .int 7
        convention := .dotted
        properties := [(.text "port", .int 80)] }) := by
  intro source broken e
  have hnames : ∀ s ∈ [broken, source 7 fun _ => .ok (.int 80)], ∃ t, s.name = .text t := by
    intro s hs
    rcases List.mem_pair.mp hs with rfl | rfl
    · exact ⟨"app", rfl⟩
    · exact ⟨"app", rfl⟩
  have horders : ∀ s ∈ [broken, source 7 fun _ => .ok (.int 80)], ∃ i, s.order = .int i := by
    intro s hs
    rcases List.mem_pair.mp hs with rfl | rfl
    · exact ⟨5, rfl⟩
    · exact ⟨7, rfl⟩
  obtain ⟨hfails, -, hname⟩ :=
    full_agrees_with_single (e := e) (r := {}) rfl rfl hnames horders .null
  have hlast : Registry.lastNamed? "app" [broken, source 7 fun _ => .ok (.int 80)] =
      some (source 7 fun _ => .ok (.int 80)) := by
    simp [Registry.lastNamed?, broken, source, Value.same]
  have happ := (hname "app").1
  rw [hlast] at happ
  have hentry : e.properties? (.text "app") .null = .ok (some {
      name := .text "app"
      order := .int 7
      convention := .dotted
      properties := [(.text "port", .int 80)] }) := happ.trans (by
    have hport : (Value.text "port").same (.text "port") = true :=
      (Value.same_text_iff _ _).mpr rfl
    simp [e, source, Endpoint.policy, Entry.ofSource, Source.readings, Entry.addProperties,
      Policy.classify, Pattern.anyMatches, Value.asKey, Value.unhashable?, Entries.assign, hport,
      bind, Except.bind, pure, Except.pure])
  refine ⟨?_, hentry⟩
  by_contra hnone
  rcases hfails.mp ((exists_error_iff _).mpr hnone) with ⟨f, hf⟩ | ⟨s, hs, f, hf⟩
  · cases hf
  · have happName : s.name = .text "app" := by
      rcases List.mem_pair.mp hs with rfl | rfl
      · rfl
      · rfl
    rw [happName, hentry] at hf
    cases hf

end MaskedReport
