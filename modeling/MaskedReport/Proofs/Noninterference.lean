import MaskedReport.Http.Service
import MaskedReport.Proofs.SecretKeys

/-!
# What is masked has no influence

Two sources are alike under a rule if they differ at most in what reading the keys gives that the
rule does not make plain. Alike sources have the same entries, the same place among others and the
same reports, and endpoints over alike sources give the same answers.
-/

set_option autoImplicit false

namespace MaskedReport

variable {classify : Classify}

/-! ## Alike sources -/

/-- Whether two properties have one key and, if it is plain, one value or failure. -/
def AlikeReading (classify : Classify) (a b : Value × Except Failure Value) : Prop :=
  a.1 = b.1 ∧ (classify a.1 = .ok .plain → a.2 = b.2)

namespace Source

/-- Sources that agree but for what reading the keys gives that are not plain. -/
structure Alike (classify : Classify) (s t : Source) : Prop where
  name : s.name = t.name
  order : s.order = t.order
  convention : s.convention = t.convention
  readings : List.Forall₂ (AlikeReading classify) s.readings t.readings

/-- Whether reading the keys one after the other gives what asking for each of them gives. -/
def ReadsByGet (s : Source) : Prop := ∀ r ∈ s.readings, s.get r.1 = r.2

/-- A source read by its keys has for each key what is found for it. -/
theorem ReadsByGet.readings_eq {s : Source} (h : s.ReadsByGet) :
    s.readings = s.keys.map fun key => (key, s.get key) := by
  rw [← s.map_fst_readings, List.map_map]
  calc s.readings = s.readings.map id := (List.map_id _).symm
    _ = s.readings.map ((fun key => (key, s.get key)) ∘ Prod.fst) := by
      apply List.map_congr_left
      intro r hr
      rw [Function.comp_apply, h r hr]
      rfl

/-- Values that are computed are asked for. -/
theorem readsByGet_computed (name order : Value) (convention : Convention) (keys : List Value)
    (read : Value → Except Failure Value) :
    ReadsByGet { name, order, convention, contents := .computed keys read } := by
  intro r hr
  obtain ⟨key, -, rfl⟩ := List.mem_map.mp hr
  rfl

/-- Entries are asked for if their keys can be keys and are the same as themselves and no other. -/
theorem readsByGet_stored (name order : Value) (convention : Convention) (entries : Entries)
    (hkeys : ∀ key ∈ entries.keys, key.asKey = .ok key ∧ key.same key)
    (hdistinct : entries.keys.Pairwise fun a b => ¬ a.same b) :
    ReadsByGet { name, order, convention, contents := .stored entries } := by
  intro r hr
  obtain ⟨e, he, rfl⟩ := List.mem_map.mp hr
  obtain ⟨hkey, hself⟩ := hkeys e.1 (List.mem_map_of_mem he)
  have hget : entries.get? e.1 = some e.2 := by
    obtain ⟨front, back, rfl⟩ := List.append_of_mem he
    have hfront : front.find? (fun d => d.1.same e.1) = none := by
      rw [List.find?_eq_none]
      intro d hd
      rw [Entries.keys, List.map_append, List.pairwise_append] at hdistinct
      exact hdistinct.2.2 d.1 (List.mem_map_of_mem hd) e.1 List.mem_cons_self
    rw [Entries.get?, List.find?_append, hfront, Option.none_or, List.find?_cons, hself]
    rfl
  simp only [get, hkey, bind, Except.bind, hget]
  rfl

/-- Sources with the same name, order, convention and keys are alike if asking for the plain keys
gives the same. -/
theorem Alike.of_get {s t : Source} (hs : s.ReadsByGet) (ht : t.ReadsByGet)
    (hname : s.name = t.name) (horder : s.order = t.order)
    (hconvention : s.convention = t.convention) (hkeys : s.keys = t.keys)
    (hget : ∀ key ∈ s.keys, classify key = .ok .plain → s.get key = t.get key) :
    s.Alike classify t := by
  refine ⟨hname, horder, hconvention, ?_⟩
  rw [hs.readings_eq, ht.readings_eq, ← hkeys, List.forall₂_map_left_iff,
    List.forall₂_map_right_iff, List.forall₂_same]
  exact fun key hkey => ⟨rfl, fun hplain => by rw [hget key hkey hplain]⟩

end Source

/-! ## Entries -/

/-- Properties that are alike are added alike. -/
theorem Entry.addProperties_congr {readings others : List (Value × Except Failure Value)}
    (h : List.Forall₂ (AlikeReading classify) readings others) (found : Entries) :
    addProperties classify readings found = addProperties classify others found := by
  induction h generalizing found with
  | nil => rfl
  | @cons a b readings others hab _ ih =>
    obtain ⟨key, reading⟩ := a
    obtain ⟨otherKey, other⟩ := b
    obtain ⟨hkey, hreading⟩ := hab
    simp only at hkey hreading
    subst hkey
    simp only [addProperties, ih]
    cases hverdict : classify key with
    | error f => rfl
    | ok verdict =>
      cases verdict with
      | hide => rfl
      | mask => rfl
      | plain => rw [hreading hverdict]

/-- Sources that are alike for a policy have the same entry. -/
theorem Entry.ofSource_congr {s t : Source} (h : s.Alike classify t) :
    ofSource classify s = ofSource classify t := by
  simp only [ofSource, h.name, h.order, h.convention, addProperties_congr h.readings]

/-! ## Reports -/

namespace Report

variable {sources others : List Source}

/-- Sources that are alike one by one have the same entries. -/
theorem entriesOf_congr (h : List.Forall₂ (Source.Alike classify) sources others) :
    entriesOf classify sources = entriesOf classify others := by
  induction h with
  | nil => rfl
  | cons hst _ ih => rw [entriesOf, entriesOf, Entry.ofSource_congr hst, ih]

/-- Two images of items are sorted alike if they have the same orders. -/
theorem exists_sorted_map {γ : Type} (f g : γ → Source) (h : ∀ c, (f c).order = (g c).order)
    (items : List γ) :
    ∃ result : Except Failure (List γ), sorted (items.map f) = result.map (List.map f) ∧
      sorted (items.map g) = result.map (List.map g) := by
  have hrank : ∀ c, (f c).rank? = (g c).rank? := by
    intro c
    rw [Source.rank?, Source.rank?, h c]
  have hall : ((items.map f).all fun s => s.rank?.isSome) =
      (items.map g).all fun s => s.rank?.isSome := by
    simp only [List.all_map, Function.comp_def, hrank]
  by_cases hranked : (items.map g).all fun s => s.rank?.isSome
  · refine ⟨.ok (items.mergeSort fun a b => (g a).rank?.getD 0 ≤ (g b).rank?.getD 0), ?_, ?_⟩
    · rw [sorted, hall, if_pos hranked, Except.map, List.map_mergeSort]
      intro a _ b _
      rw [hrank, hrank]
    · rw [sorted, if_pos hranked, Except.map, List.map_mergeSort]
      exact fun a _ b _ => rfl
  · let lt (a b : Source) : Except Failure Bool := a.order.before b.order
    have hthrough : Sorting.through f lt = Sorting.through g lt := by
      funext a b
      simp only [Sorting.through, lt, h]
    refine ⟨Sorting.sortBy (Sorting.through g lt) items, ?_, ?_⟩
    · rw [sorted, hall, if_neg hranked, ← hthrough]
      exact Sorting.sortBy_map f lt items
    · rw [sorted, if_neg hranked]
      exact Sorting.sortBy_map g lt items

/-- Lists of related items are images of one list of pairs. -/
theorem exists_pairs {α : Type} {R : α → α → Prop} {xs ys : List α} (h : List.Forall₂ R xs ys) :
    ∃ pairs : List { c : α × α // R c.1 c.2 },
      pairs.map (fun c => c.1.1) = xs ∧ pairs.map (fun c => c.1.2) = ys := by
  induction h with
  | nil => exact ⟨[], rfl, rfl⟩
  | @cons x y xs ys hxy _ ih =>
    obtain ⟨pairs, hxs, hys⟩ := ih
    refine ⟨⟨(x, y), hxy⟩ :: pairs, ?_, ?_⟩
    · rw [List.map_cons, hxs]
    · rw [List.map_cons, hys]

/-- Alike sources have the same full report. -/
theorem full_congr (h : List.Forall₂ (Source.Alike classify) sources others)
    (activeNames packages : Value) :
    full classify sources activeNames packages = full classify others activeNames packages := by
  obtain ⟨pairs, rfl, rfl⟩ := exists_pairs h
  obtain ⟨result, hleft, hright⟩ :=
    exists_sorted_map (fun c => c.1.1) (fun c => c.1.2) (fun c => c.2.order) pairs
  rw [full, full, hleft, hright]
  cases result with
  | error f => rfl
  | ok ordered =>
    have hentries : entriesOf classify (ordered.map fun c => c.1.1) =
        entriesOf classify (ordered.map fun c => c.1.2) := by
      apply entriesOf_congr
      rw [List.forall₂_map_left_iff, List.forall₂_map_right_iff, List.forall₂_same]
      exact fun c _ => c.2
    simp only [Except.map, bind, Except.bind, hentries]

/-- Alike sources have the same entry for a name. -/
theorem single?_congr (h : List.Forall₂ (Source.Alike classify) sources others) (name : Value) :
    single? classify sources name = single? classify others name := by
  induction h with
  | nil => rfl
  | @cons s t sources others hst _ ih =>
    unfold single? at ih ⊢
    rw [List.find?_cons, List.find?_cons, hst.name]
    cases t.name.same name with
    | true => simp only [Entry.ofSource_congr hst]
    | false => exact ih

end Report

/-! ## Endpoints -/

/-- Endpoints that agree, for who asks, but for what the keys hold that are not plain. -/
structure Endpoint.Alike (principal : Value) (e d : Endpoint) : Prop where
  enabled : e.enabled = d.enabled
  hook : e.hook = d.hook
  activeNames : e.registry.activeNames = d.registry.activeNames
  packages : e.registry.packages = d.registry.packages
  sources : ∀ p, e.policy principal = .ok p →
    List.Forall₂ (Source.Alike p.classify) e.registry.sources d.registry.sources

namespace Endpoint.Alike

variable {principal : Value} {e d : Endpoint}

/-- Endpoints that are alike for someone have the same policy for them. -/
theorem policy_eq (h : e.Alike principal d) : e.policy principal = d.policy principal := by
  rw [policy, policy, h.hook]

/-- Endpoints that are alike for someone have the same report for them. -/
theorem report_eq (h : e.Alike principal d) : e.report principal = d.report principal := by
  rw [report, report, ← h.policy_eq, h.activeNames, h.packages]
  cases hp : e.policy principal with
  | error f => rfl
  | ok p => exact Report.full_congr (h.sources p hp) _ _

/-- Endpoints that are alike for someone have the same entry for each name they ask for. -/
theorem properties?_eq (h : e.Alike principal d) (name : Value) :
    e.properties? name principal = d.properties? name principal := by
  rw [properties?, properties?, ← h.policy_eq]
  cases hp : e.policy principal with
  | error f => rfl
  | ok p => exact Report.single?_congr (h.sources p hp) name

/-- Endpoints that are alike for someone answer them alike on each path. -/
theorem routed_eq (h : e.Alike principal d) (path : List Char) :
    Http.routed e path principal = Http.routed d path principal := by
  simp only [Http.routed, h.enabled, h.report_eq, h.properties?_eq]

/-- Endpoints that are alike for someone answer each request of theirs alike. -/
theorem respond_eq (h : e.Alike principal d) (r : Http.Request)
    (hr : Http.principalOf r.headers = principal) : Http.respond e r = Http.respond d r := by
  have hanswer : ∀ target, Http.answer e target principal = Http.answer d target principal := by
    intro target
    simp only [Http.answer, h.routed_eq]
  simp only [Http.respond, hr, hanswer]

end Endpoint.Alike

/-- What is not plain has no influence: endpoints that differ in nothing else give who asks the same
reports, or the same failures, and the same answer to each request. Reports by any rule are the same
over alike sources. -/
theorem masked_without_influence {principal : Value} {e d : Endpoint} (h : e.Alike principal d) :
    e.report principal = d.report principal ∧
    (∀ name, e.properties? name principal = d.properties? name principal) ∧
    (∀ r : Http.Request, Http.principalOf r.headers = principal →
      Http.respond e r = Http.respond d r) ∧
    ∀ (classify : Classify) (sources others : List Source),
      List.Forall₂ (Source.Alike classify) sources others →
      (∀ activeNames packages, Report.full classify sources activeNames packages =
        Report.full classify others activeNames packages) ∧
      ∀ name, Report.single? classify sources name = Report.single? classify others name := by
  refine ⟨h.report_eq, h.properties?_eq, h.respond_eq, ?_⟩
  intro classify sources others hsources
  exact ⟨Report.full_congr hsources, Report.single?_congr hsources⟩

/-- Two passwords under a hook that masks what looks secret. -/
theorem masked_without_influence_password :
    let source (password : String) : Source := {
      name := .text "app"
      order := .int 0
      convention := .dotted
      contents := .stored [(.text "db.password", .text password), (.text "port", .int 80)] }
    let endpoint (password : String) : Endpoint := {
      registry := { sources := [source password] }
      hook := some (Masking.hook { mode := .legacy, patterns := [] })
      enabled := true }
    (endpoint "one").report .null = (endpoint "two").report .null ∧
      ∀ r : Http.Request, Http.principalOf r.headers = .null →
        Http.respond (endpoint "one") r = Http.respond (endpoint "two") r := by
  intro source endpoint
  have hreads : ∀ password, (source password).ReadsByGet := by
    intro password
    refine Source.readsByGet_stored _ _ _ _ ?_ ?_
    · intro key hkey
      rcases List.mem_pair.mp hkey with rfl | rfl
      · exact ⟨rfl, (Value.same_text_iff _ _).mpr rfl⟩
      · exact ⟨rfl, (Value.same_text_iff _ _).mpr rfl⟩
    · simp [Entries.keys, Value.same]
  have hport : ∀ password, (source password).get (.text "port") = .ok (.int 80) := by
    intro password
    have hreading : (.text "port", .ok (.int 80)) ∈ (source password).readings :=
      List.mem_cons_of_mem _ List.mem_cons_self
    exact hreads password _ hreading
  have halike : (endpoint "one").Alike .null (endpoint "two") := by
    refine ⟨rfl, rfl, rfl, rfl, ?_⟩
    intro p hp
    have hbatches : Policy.applyAll { principal := .null } (.legacy :: [[]].map .patterns) =
        .ok p := hp
    have hmask : p.classify (.text "db.password") = .ok .mask :=
      Policy.legacy_masks hbatches (by decide) (by decide)
    refine List.Forall₂.cons ?_ List.Forall₂.nil
    refine Source.Alike.of_get (hreads "one") (hreads "two") rfl rfl rfl rfl ?_
    intro key hkey hplain
    rcases List.mem_pair.mp hkey with rfl | rfl
    · rw [hmask] at hplain
      cases hplain
    · exact (hport "one").trans (hport "two").symm
  have hsame := masked_without_influence halike
  exact ⟨hsame.1, hsame.2.2.1⟩

end MaskedReport
