import MaskedReport.Proofs.ReportOrder

/-!
# What a registration changes

Registering a source puts its entry into the full report, in the place of the entry of its name if
there was one. It may move that entry, for the source may bring another order, but no other:
sorting goes with leaving out, so what the report has besides the entry is the report on the other
sources, and these are the same as before. `registration_affects_own_entry` says so.
-/

set_option autoImplicit false

namespace MaskedReport

namespace Report

variable {classify : Classify} {sources : List Source}

/-- One source is in order. -/
theorem inOrder_singleton (s : Source) : inOrder [s] = [s] :=
  List.perm_singleton.mp (inOrder_perm [s])

/-- A report without the entries of a name. -/
def without (r : Report) (name : Text) : Report :=
  { r with entries := r.entries.filter fun e => !e.name.same (.text name) }

/-- The entries of some names in a full report are those of the sources of these names, in order. -/
theorem forall₂_full_filter {activeNames packages : Value} {r : Report}
    (horders : ∀ s ∈ sources, ∃ i, s.order = .int i)
    (h : full classify sources activeNames packages = .ok r) (chosen : Value → Bool) :
    List.Forall₂ (fun s e => Entry.ofSource classify s = .ok e)
      (inOrder (sources.filter fun s => chosen s.name))
      (r.entries.filter fun e => chosen e.name) := by
  obtain ⟨ordered, hordered, -, -, hentries⟩ := full_ok h
  rw [sorted_eq_inOrder horders] at hordered
  cases hordered
  have hleft : (inOrder sources).filter (fun s => chosen s.name) =
      inOrder (sources.filter fun s => chosen s.name) := Sorting.filter_byRank_comm _ sources _
  rw [← hleft]
  refine forall₂_filter (fun s e hentry => ?_) hentries
  rw [Entry.name_ofSource hentry]

end Report

/-- The endpoint with one more source registered. -/
def Endpoint.withSource (e : Endpoint) (s : Source) : Endpoint :=
  { e with registry := e.registry.add s }

/-- A source with a text for its name and a whole number for its order is registered with an
endpoint whose sources have whole numbers for orders too, whether the name is new or taken. If the
endpoint reports before and after, the two reports are the same without the entries of the name, and
the later one has one entry of the name, that of the new source. -/
theorem registration_affects_own_entry {e : Endpoint} {r : Registry} (hr : r.sources = [])
    {sources : List Source} (hregistry : e.registry = r.addAll sources)
    (horders : ∀ s ∈ sources, ∃ i, s.order = .int i) {new : Source} {name : Text} {order : Int}
    (hname : new.name = .text name) (horder : new.order = .int order) {principal : Value}
    {before after : Report} (hbefore : e.report principal = .ok before)
    (hafter : (e.withSource new).report principal = .ok after) :
    after.without name = before.without name ∧
    ∃ (p : Policy) (entry : Entry), e.policy principal = .ok p ∧
      Entry.ofSource p.classify new = .ok entry ∧
      after.entries.filter (fun x => x.name.same (.text name)) = [entry] := by
  have hnone : ∀ s ∈ r.sources, ∃ i, s.order = .int i := by
    rw [hr]
    exact fun s hs => absurd hs List.not_mem_nil
  have hwhole : ∀ s ∈ e.registry.sources, ∃ i, s.order = .int i := by
    rw [hregistry]
    exact r.forall_mem_addAll hnone horders
  have hwholeAfter : ∀ s ∈ Registry.put new e.registry.sources, ∃ i, s.order = .int i := by
    intro s hs
    rcases Registry.mem_put hs with rfl | hs
    · exact ⟨order, horder⟩
    · exact hwhole s hs
  have honce : Registry.TextsOnce e.registry.sources := by
    rw [hregistry]
    exact r.textsOnce_of_registered hr sources
  -- both reports are made by the policy of who asks
  obtain ⟨p, hpolicy, hfull⟩ := bind_eq_ok hbefore
  have hpolicyAfter : (e.withSource new).policy principal = .ok p := hpolicy
  rw [Endpoint.report_of_policy hpolicyAfter] at hafter
  obtain ⟨-, -, hactive, hpackages, -⟩ := Report.full_ok hfull
  obtain ⟨-, -, hactiveAfter, hpackagesAfter, -⟩ := Report.full_ok hafter
  constructor
  · have hothers := Report.forall₂_full_filter hwhole hfull fun v => !v.same (.text name)
    have hothersAfter := Report.forall₂_full_filter hwholeAfter hafter fun v =>
      !v.same (.text name)
    rw [Registry.filter_put_of_others hname] at hothersAfter
    have hnames : after.activeNames = before.activeNames :=
      Except.ok.inj (hactiveAfter.symm.trans hactive)
    have hpaths : after.packages = before.packages :=
      Except.ok.inj (hpackagesAfter.symm.trans hpackages)
    rw [Report.without, Report.without, Report.entries_eq hothersAfter hothers, hnames, hpaths]
  · have hown := Report.forall₂_full_filter hwholeAfter hafter fun v => v.same (.text name)
    rw [Registry.filter_put_of_same honce hname, Report.inOrder_singleton] at hown
    obtain ⟨entry, others, hentry, hothers, hlisted⟩ := List.forall₂_cons_left_iff.mp hown
    rw [List.forall₂_nil_left_iff.mp hothers] at hlisted
    exact ⟨p, entry, hpolicy, hentry, hlisted⟩

/-- A source comes in the place of another with a higher order, behind which a third one was. -/
theorem registration_affects_own_entry_moved :
    let source (name : String) (order : Int) : Source := {
      name := .text name
      order := .int order
      convention := .dotted
      contents := .stored [(.text "port", .int order)] }
    let e : Endpoint := { registry := Registry.addAll {} [source "app" 1, source "base" 2] }
    ∃ before after, e.report .null = .ok before ∧
      (e.withSource (source "app" 3)).report .null = .ok after ∧
      after.without "app" = before.without "app" ∧
      after.entries.filter (fun x => x.name.same (.text "app")) = [{
        name := .text "app"
        order := .int 3
        convention := .dotted
        properties := [(.text "port", maskMark)] }] := by
  intro source e
  have hreports : ∀ d : Endpoint, d.hook = none →
      (∀ s ∈ d.registry.sources, ∃ name order, s = source name order) →
      ∃ report, d.report .null = .ok report := by
    intro d hhook hsources
    have hpolicy : d.policy .null = .ok { principal := .null } := by rw [Endpoint.policy, hhook]
    rw [Endpoint.report_of_policy hpolicy, Report.exists_full_iff]
    · intro s hs
      obtain ⟨name, order, rfl⟩ := hsources s hs
      exact ⟨_, rfl⟩
    · intro s hs
      obtain ⟨name, order, rfl⟩ := hsources s hs
      exact ⟨order, rfl⟩
  have hsources : ∀ s ∈ e.registry.sources, ∃ name order, s = source name order := by
    refine Registry.forall_mem_addAll {} (fun s hs => absurd hs List.not_mem_nil) fun s hs => ?_
    rcases List.mem_pair.mp hs with rfl | rfl
    · exact ⟨_, _, rfl⟩
    · exact ⟨_, _, rfl⟩
  have hsourcesAfter : ∀ s ∈ (e.withSource (source "app" 3)).registry.sources,
      ∃ name order, s = source name order := by
    intro s hs
    rcases Registry.mem_put hs with rfl | hs
    · exact ⟨_, _, rfl⟩
    · exact hsources s hs
  obtain ⟨before, hbefore⟩ := hreports e rfl hsources
  obtain ⟨after, hafter⟩ := hreports (e.withSource (source "app" 3)) rfl hsourcesAfter
  have horders : ∀ s ∈ [source "app" 1, source "base" 2], ∃ i, s.order = .int i := by
    simp [source]
  obtain ⟨hothers, p, entry, hpolicy, hentry, hown⟩ := registration_affects_own_entry rfl rfl
    horders rfl rfl hbefore hafter
  cases hpolicy
  cases hentry
  exact ⟨before, after, hbefore, hafter, hothers, hown⟩

end MaskedReport
