import MaskedReport.Proofs.Completeness
import MaskedReport.Proofs.Noninterference
import MaskedReport.Proofs.ReportOrder

/-!
# What added patterns do to a report

The report of a policy on stored properties is the bare one, which shows every value, with the
values of some keys masked: `Report.full_eq_masked`. Which keys these are goes by the mode and by
whether some pattern takes the key. So added patterns mask more where nothing else is masked, and
reveal more where everything else is; the two modes complement each other; and neither the order of
the patterns nor their number counts. All of this is `added_patterns_mask_one_way`.
-/

set_option autoImplicit false

namespace MaskedReport

/-! ## Masking in reports -/

/-- The entries with the mask in place of the values of some keys. -/
def Entries.masked (which : Value → Bool) (es : Entries) : Entries :=
  es.map fun e => if which e.1 then (e.1, maskMark) else e

/-- The entry with the mask in place of the values of some keys. -/
def Entry.masked (which : Value → Bool) (e : Entry) : Entry :=
  { e with properties := e.properties.masked which }

/-- The report with the mask in place of the values of some keys, and all else as it is. -/
def Report.masked (which : Value → Bool) (r : Report) : Report :=
  { r with entries := r.entries.map (Entry.masked which) }

/-- Masking entries twice masks the keys that either masking takes. -/
theorem Entries.masked_masked (f g : Value → Bool) (es : Entries) :
    (es.masked f).masked g = es.masked fun key => f key || g key := by
  unfold masked
  rw [List.map_map]
  apply List.map_congr_left
  intro e _
  cases hf : f e.1 <;> cases hg : g e.1 <;> simp [hf, hg]

/-- Masking an entry twice masks the keys that either masking takes. -/
theorem Entry.masked_masked (f g : Value → Bool) (e : Entry) :
    (e.masked f).masked g = e.masked fun key => f key || g key := by
  simp only [masked, Entries.masked_masked]

/-- Masking some keys and then others is masking both at once. -/
theorem Report.masked_masked (f g : Value → Bool) (r : Report) :
    (r.masked f).masked g = r.masked fun key => f key || g key := by
  simp only [masked, List.map_map, Function.comp_def, Entry.masked_masked]

/-- Masking keeps the keys and their order. -/
theorem Entries.keys_masked (which : Value → Bool) (es : Entries) :
    (es.masked which).keys = es.keys := by
  unfold masked keys
  rw [List.map_map]
  apply List.map_congr_left
  intro e _
  simp only [Function.comp_apply]
  split <;> rfl

/-- A key has the mask or its value, by whether it is masked. -/
theorem Entries.get?_masked (which : Value → Bool) (es : Entries) (name : Text) :
    (es.masked which).get? (.text name) =
      (es.get? (.text name)).map fun v => if which (.text name) then maskMark else v := by
  induction es with
  | nil => rfl
  | cons e rest ih =>
    obtain ⟨key, value⟩ := e
    have hmasked : masked which ((key, value) :: rest) =
        (key, if which key then maskMark else value) :: masked which rest := by
      unfold masked
      rw [List.map_cons]
      split <;> rfl
    rw [hmasked]
    by_cases hkey : key.same (.text name)
    · obtain rfl := (Value.same_text_iff key name).mp hkey
      simp [get?, hkey]
    · have hskip : ∀ v es, get? (.text name) ((key, v) :: es) = get? (.text name) es := by
        intro v es
        simp [get?, hkey]
      rw [hskip, hskip, ih]

/-! ## Which keys a policy masks -/

namespace Pattern

/-- Whether some of the patterns takes a key. -/
def anyTakes (patterns : List Pattern) : Value → Bool
  | .text s => patterns.any fun q => q.matchesAll s
  | _ => false

/-- A key is taken by one of two lists of patterns if one of either takes it. -/
theorem anyTakes_append (patterns others : List Pattern) (key : Value) :
    anyTakes (patterns ++ others) key = (anyTakes patterns key || anyTakes others key) := by
  cases key <;> simp [anyTakes]

/-- Whether some pattern takes a key goes by which patterns there are. -/
theorem anyTakes_congr {patterns others : List Pattern} (h : ∀ q, q ∈ patterns ↔ q ∈ others) :
    anyTakes patterns = anyTakes others := by
  funext key
  cases key with
  | text s =>
    rw [Bool.eq_iff_iff, anyTakes, anyTakes, List.any_eq_true, List.any_eq_true]
    simp only [h]
  | _ => rfl

end Pattern

/-- Whether a policy masks a key: where everything is masked, unless some pattern takes it, and
otherwise if one does. -/
def Policy.masks (p : Policy) (key : Value) : Bool := Pattern.anyTakes p.patterns key != p.allMasked

/-- A policy shows entries with texts for keys as they are but for the keys it masks. -/
theorem Policy.reveal_eq_masked (p : Policy) {es : Entries}
    (htexts : ∀ key ∈ es.keys, ∃ t, key = .text t) : p.reveal es = es.masked p.masks := by
  apply List.map_congr_left
  intro e he
  obtain ⟨key, value⟩ := e
  obtain ⟨t, rfl⟩ := htexts key (List.mem_map_of_mem he)
  simp only [classify_text, masks, Pattern.anyTakes]
  by_cases hplain : (p.patterns.any fun q => q.matchesAll t) = p.allMasked
  · simp [hplain]
  · simp [hplain]

/-! ## Reports on stored properties -/

/-- A source with a whole number for its order that stores its properties under different texts. -/
structure Source.IsMapping (s : Source) : Prop where
  order : ∃ i, s.order = .int i
  contents : ∃ es : Entries, s.contents = .stored es ∧
    (∀ key ∈ es.keys, ∃ t, key = .text t) ∧ es.keys.Nodup

/-- The entry that shows all that a source stores. -/
def Source.bare (s : Source) : Entry where
  name := s.name
  order := s.order
  convention := s.convention
  properties := match s.contents with
    | .stored es => es
    | .computed _ _ => []

namespace Source.IsMapping

variable {s : Source}

/-- The entry of a source under a policy shows what the source stores but for what is masked. -/
theorem ofSource_eq (h : s.IsMapping) (p : Policy) :
    Entry.ofSource p.classify s = .ok (s.bare.masked p.masks) := by
  obtain ⟨name, order, convention, contents⟩ := s
  obtain ⟨es, rfl, htexts, hnodup⟩ := h.contents
  rw [Entry.ofSource_stored p name order convention htexts hnodup, p.reveal_eq_masked htexts]
  rfl

/-- The keys of a source from a mapping are texts. -/
theorem text_of_mem_keys (h : s.IsMapping) {key : Value} (hkey : key ∈ s.keys) :
    ∃ t, key = .text t := by
  obtain ⟨es, hcontents, htexts, -⟩ := h.contents
  rw [keys, hcontents] at hkey
  exact htexts key hkey

/-- The bare entry of a source from a mapping has the keys of the source. -/
theorem keys_bare (h : s.IsMapping) : s.bare.properties.keys = s.keys := by
  obtain ⟨es, hcontents, -, -⟩ := h.contents
  simp only [bare, keys, hcontents]

/-- The entry that shows all shows what asking for each key gives. -/
theorem exists_get (h : s.IsMapping) {name : Text} (hname : .text name ∈ s.keys) :
    ∃ v, s.get (.text name) = .ok v ∧ s.bare.properties.get? (.text name) = some v := by
  obtain ⟨es, hcontents, -, -⟩ := h.contents
  have hmem : .text name ∈ es.keys := by
    rw [keys, hcontents] at hname
    exact hname
  obtain ⟨v, hv⟩ := Option.isSome_iff_exists.mp ((Entries.isSome_get?_iff es name).mpr hmem)
  refine ⟨v, ?_, ?_⟩
  · have hkey : (Value.text name).asKey = .ok (.text name) := rfl
    simp only [get, hcontents, hkey, hv, bind, Except.bind, pure, Except.pure]
  · simp only [bare, hcontents, hv]

end Source.IsMapping

namespace Report

variable {sources : List Source} {activeNames packages : Value} {active paths : List Value}

/-- The report that shows all that sources store, in order. -/
def bare (active paths : List Value) (sources : List Source) : Report where
  activeNames := active
  packages := paths
  entries := (inOrder sources).map Source.bare

/-- The full report on stored properties under a policy shows all but what the policy masks. -/
theorem full_eq_masked (hsources : ∀ s ∈ sources, s.IsMapping)
    (hactive : activeNames.items = .ok active) (hpaths : packages.items = .ok paths) (p : Policy) :
    full p.classify sources activeNames packages =
      .ok ((bare active paths sources).masked p.masks) := by
  have hentries : ∀ ordered : List Source, (∀ s ∈ ordered, s.IsMapping) →
      entriesOf p.classify ordered =
        .ok ((ordered.map Source.bare).map (Entry.masked p.masks)) := by
    intro ordered hordered
    induction ordered with
    | nil => rfl
    | cons s rest ih =>
      have hs := (hordered s List.mem_cons_self).ofSource_eq p
      have hrest := ih fun t ht => hordered t (List.mem_cons_of_mem s ht)
      rw [entriesOf, hs, hrest]
      rfl
  have hsorted := sorted_eq_inOrder fun s hs => (hsources s hs).order
  have hmem : ∀ s ∈ inOrder sources, s.IsMapping := fun s hs =>
    hsources s ((inOrder_perm sources).mem_iff.mp hs)
  exact full_of_sorted hsorted hactive hpaths (hentries _ hmem)

end Report

/-! ## More patterns, other modes -/

/-- Adding the patterns of a batch that can be read leaves the mode. -/
theorem Policy.apply_patterns_ok {p q : Policy} {batch : List Value}
    (h : p.apply (.patterns batch) = .ok q) :
    ∃ new, Pattern.ofValues batch = .ok new ∧ q = p.addPatterns new := by
  rw [apply, attempt_patterns] at h
  cases hnew : Pattern.ofValues batch with
  | error f =>
    rw [hnew] at h
    cases h
  | ok new =>
    rw [hnew] at h
    cases h
    exact ⟨new, rfl, rfl⟩

/-- Two entries of a source that complement each other: both have all keys of the source in order,
and under each of them one has the value and the other the mask. -/
structure Entry.Complement (s : Source) (e d : Entry) : Prop where
  left : e.name = s.name ∧ e.order = s.order ∧ e.convention = s.convention
  right : d.name = s.name ∧ d.order = s.order ∧ d.convention = s.convention
  keys : e.properties.keys = s.keys ∧ d.properties.keys = s.keys
  values : ∀ key ∈ s.keys, ∃ v, s.get key = .ok v ∧
    (e.properties.get? key = some v ∧ d.properties.get? key = some maskMark ∨
      e.properties.get? key = some maskMark ∧ d.properties.get? key = some v)

/-- Entries in which just the other keys are masked complement each other. -/
theorem Source.IsMapping.complement {s : Source} (h : s.IsMapping) (which : Value → Bool) :
    Entry.Complement s (s.bare.masked fun key => !which key) (s.bare.masked which) := by
  refine ⟨⟨rfl, rfl, rfl⟩, ⟨rfl, rfl, rfl⟩, ⟨?_, ?_⟩, ?_⟩
  · exact (Entries.keys_masked (fun key => !which key) _).trans h.keys_bare
  · exact (Entries.keys_masked which _).trans h.keys_bare
  · intro key hkey
    obtain ⟨name, rfl⟩ := h.text_of_mem_keys hkey
    obtain ⟨v, hget, hbare⟩ := h.exists_get hkey
    refine ⟨v, hget, ?_⟩
    simp only [Entry.masked, Entries.get?_masked, hbare, Option.map_some]
    cases which (.text name) <;> simp

/-- Patterns that are added to a policy change its full report on stored properties one way only:
where nothing else is masked some more values are masked and all else stays, and where everything
else is masked the report before has some more values masked than the one after. The two modes of a
policy complement each other, source by source and key by key; and the report goes by the mode and
by which patterns there are, not by their order or repetition. -/
theorem added_patterns_mask_one_way {sources : List Source}
    (hsources : ∀ s ∈ sources, s.IsMapping) {activeNames packages : Value}
    {active paths : List Value} (hactive : activeNames.items = .ok active)
    (hpaths : packages.items = .ok paths) (p : Policy) :
    let report (p : Policy) := Report.full p.classify sources activeNames packages
    (∀ batch q, p.apply (.patterns batch) = .ok q →
      ∃ new before after, Pattern.ofValues batch = .ok new ∧
        report p = .ok before ∧ report q = .ok after ∧
        (p.allMasked = false → after = before.masked (Pattern.anyTakes new)) ∧
        (p.allMasked = true →
          before = after.masked fun key => !Pattern.anyTakes p.patterns key)) ∧
    (∃ pairs : List (Entry × Entry),
      report { p with allMasked := true } =
        .ok { activeNames := active, packages := paths, entries := pairs.map Prod.fst } ∧
      report { p with allMasked := false } =
        .ok { activeNames := active, packages := paths, entries := pairs.map Prod.snd } ∧
      List.Forall₂ (fun s pair => Entry.Complement s pair.1 pair.2) (Report.inOrder sources)
        pairs) ∧
    ∀ q : Policy, q.allMasked = p.allMasked → (∀ x, x ∈ q.patterns ↔ x ∈ p.patterns) →
      report q = report p := by
  intro report
  have hreport : ∀ q : Policy,
      report q = .ok ((Report.bare active paths sources).masked q.masks) :=
    Report.full_eq_masked hsources hactive hpaths
  refine ⟨?_, ?_, ?_⟩
  · intro batch q hq
    obtain ⟨new, hnew, rfl⟩ := Policy.apply_patterns_ok hq
    refine ⟨new, _, _, hnew, hreport p, hreport (p.addPatterns new), ?_, ?_⟩
    · intro hnone
      rw [Report.masked_masked]
      congr 1
      funext key
      simp [Policy.masks, Policy.addPatterns, hnone, Pattern.anyTakes_append]
    · intro hall
      rw [Report.masked_masked]
      congr 1
      funext key
      simp only [Policy.masks, Policy.addPatterns, hall, Pattern.anyTakes_append]
      cases Pattern.anyTakes p.patterns key <;> simp
  · let takes := Pattern.anyTakes p.patterns
    refine ⟨(Report.inOrder sources).map fun s =>
      (s.bare.masked fun key => !takes key, s.bare.masked takes), ?_, ?_, ?_⟩
    · have hmasks : Policy.masks { p with allMasked := true } = fun key => !takes key := by
        funext key
        simp [Policy.masks, takes]
      rw [hreport, hmasks]
      simp [Report.masked, Report.bare]
    · have hmasks : Policy.masks { p with allMasked := false } = takes := by
        funext key
        simp [Policy.masks, takes]
      rw [hreport, hmasks]
      simp [Report.masked, Report.bare]
    · rw [List.forall₂_map_right_iff, List.forall₂_same]
      intro s hs
      exact (hsources s ((Report.inOrder_perm sources).mem_iff.mp hs)).complement takes
  · intro q hmode hpatterns
    have hmasks : q.masks = p.masks := by
      funext key
      simp only [Policy.masks, hmode, Pattern.anyTakes_congr hpatterns]
    rw [hreport, hreport, hmasks]

/-- A pattern that is added where nothing is masked masks the port of a server and not its path. -/
theorem added_patterns_mask_one_way_port :
    let source : Source := {
      name := .text "app"
      order := .int 0
      convention := .dotted
      contents := .stored [(.text "server.port", .int 80), (.text "path", .text "/")] }
    let p : Policy := { principal := .null, allMasked := false }
    let port := Pattern.holdingWord "port"
    source.IsMapping ∧ p.apply (.patterns [.pattern port]) = .ok (p.addPatterns [port]) ∧
      (∃ before after,
        Report.full p.classify [source] (.tuple []) (.tuple []) = .ok before ∧
        Report.full (p.addPatterns [port]).classify [source] (.tuple []) (.tuple []) = .ok after ∧
        after = before.masked (Pattern.anyTakes [port])) ∧
      Pattern.anyTakes [port] (.text "server.port") = true ∧
      Pattern.anyTakes [port] (.text "path") = false := by
  intro source p port
  have hsource : source.IsMapping :=
    ⟨⟨0, rfl⟩, _, rfl, by simp [Entries.keys], by simp [Entries.keys]⟩
  have happly : p.apply (.patterns [.pattern port]) = .ok (p.addPatterns [port]) := rfl
  have hsources : ∀ s ∈ [source], s.IsMapping := by simpa using hsource
  have hnames : (Value.tuple []).items = .ok [] := rfl
  obtain ⟨new, before, after, hnew, hbefore, hafter, hnone, -⟩ :=
    (added_patterns_mask_one_way hsources hnames hnames p).1 _ _ happly
  cases hnew
  exact ⟨hsource, happly, ⟨before, after, hbefore, hafter, hnone rfl⟩, by decide +kernel,
    by decide +kernel⟩

end MaskedReport
