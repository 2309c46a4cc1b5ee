import Mathlib.Data.List.Induction
import Mathlib.Data.List.Nodup
import MaskedReport.Proofs.Registration

/-!
# What a registry holds after a run

A run of registrations leaves one source for each name: the one that was registered last with it,
in the place of the one that was registered first. It does not matter which of the sources the
registry was made with and which were registered later: `registered_in_first_order`.
-/

set_option autoImplicit false

namespace MaskedReport.Registry

/-! ## Names in the order in which they came first -/

/-- Whether names are those of a run, each once, in the order in which they came first. -/
structure InFirstOrder (run kept : List Text) : Prop where
  nodup : kept.Nodup
  mem_iff : ∀ name, name ∈ kept ↔ name ∈ run
  ordered : kept.Pairwise fun a b => run.idxOf a < run.idxOf b

namespace InFirstOrder

variable {run kept : List Text} {name : Text}

/-- Nothing kept is the order of no names. -/
theorem nil : InFirstOrder [] [] := ⟨List.nodup_nil, fun _ => Iff.rfl, List.Pairwise.nil⟩

/-- A longer run has the names so far where they were. -/
theorem ordered_concat (h : InFirstOrder run kept) (name : Text) :
    kept.Pairwise fun a b => (run ++ [name]).idxOf a < (run ++ [name]).idxOf b := by
  refine h.ordered.imp_of_mem fun ha hb hlt => ?_
  rwa [List.idxOf_append_of_mem ((h.mem_iff _).mp ha),
    List.idxOf_append_of_mem ((h.mem_iff _).mp hb)]

/-- A name that came before leaves the order as it is. -/
theorem concat_of_mem (h : InFirstOrder run kept) (hname : name ∈ run) :
    InFirstOrder (run ++ [name]) kept where
  nodup := h.nodup
  mem_iff other := by
    rw [h.mem_iff, List.mem_append, List.mem_singleton]
    refine (or_iff_left_of_imp ?_).symm
    rintro rfl
    exact hname
  ordered := h.ordered_concat name

/-- A new name comes last in the order. -/
theorem concat_of_notMem (h : InFirstOrder run kept) (hname : name ∉ run) :
    InFirstOrder (run ++ [name]) (kept ++ [name]) where
  nodup := by
    refine List.nodup_append.mpr ⟨h.nodup, List.nodup_singleton name, ?_⟩
    intro other hother last hlast
    rw [List.mem_singleton.mp hlast]
    rintro rfl
    exact hname ((h.mem_iff other).mp hother)
  mem_iff other := by
    rw [List.mem_append, List.mem_append, h.mem_iff]
  ordered := by
    refine List.pairwise_append.mpr
      ⟨h.ordered_concat name, List.pairwise_singleton _ _, ?_⟩
    intro other hother last hlast
    have hmem : other ∈ run := (h.mem_iff other).mp hother
    rw [List.mem_singleton.mp hlast, List.idxOf_append_of_mem hmem,
      List.idxOf_append_of_notMem hname]
    exact Nat.lt_of_lt_of_le (List.idxOf_lt_length_of_mem hmem) (Nat.le_add_right _ _)

end InFirstOrder

/-! ## Names in a registry -/

variable {new : Source} {sources : List Source} {name : Text}

/-- A source takes the place of one of the same name. -/
theorem map_name_put_of_mem (hname : new.name = .text name)
    (h : .text name ∈ sources.map Source.name) :
    (put new sources).map Source.name = sources.map Source.name := by
  induction sources with
  | nil => cases h
  | cons t rest ih =>
    unfold put
    split
    case isTrue hsame =>
      rw [hname, Value.same_text_iff] at hsame
      rw [List.map_cons, List.map_cons, hname, hsame]
    case isFalse hsame =>
      rw [hname, Value.same_text_iff] at hsame
      have hrest : .text name ∈ rest.map Source.name := by
        rcases List.mem_cons.mp h with hfirst | hrest
        · exact absurd hfirst.symm hsame
        · exact hrest
      rw [List.map_cons, List.map_cons, ih hrest]

/-- Putting a source with a new name adds the name at the end. -/
theorem map_name_put_of_notMem (hname : new.name = .text name)
    (h : .text name ∉ sources.map Source.name) :
    (put new sources).map Source.name = sources.map Source.name ++ [.text name] := by
  have hnew : ∀ s ∈ sources, s.name.same new.name = false := by
    intro s hs
    rw [hname, Bool.eq_false_iff, ne_eq, Value.same_text_iff]
    intro hsame
    exact h (hsame ▸ List.mem_map_of_mem hs)
  rw [put_of_new hnew, List.map_append, List.map_singleton, hname]

/-! ## Runs -/

variable (r : Registry)

/-- Adding one more source comes after adding the others. -/
theorem addAll_concat (sources : List Source) (s : Source) :
    r.addAll (sources ++ [s]) = (r.addAll sources).add s := by
  rw [addAll, List.foldl_append]
  rfl

/-- Sources in two lists are added one list after the other. -/
theorem addAll_append (first later : List Source) :
    r.addAll (first ++ later) = (r.addAll first).addAll later := List.foldl_append

/-- A run of registrations leaves each name where it came first. -/
theorem exists_names_addAll (hr : r.sources = []) {run : List Text}
    (h : sources.map Source.name = run.map .text) :
    ∃ kept, (r.addAll sources).sources.map Source.name = kept.map .text ∧
      InFirstOrder run kept := by
  induction sources using List.reverseRecOn generalizing run with
  | nil =>
    have hrun : run = [] := List.map_eq_nil_iff.mp h.symm
    refine ⟨[], ?_, hrun ▸ InFirstOrder.nil⟩
    rw [addAll, List.foldl_nil, hr]
    rfl
  | append_singleton front s ih =>
    rw [List.map_append] at h
    obtain ⟨before, last, rfl, hbefore, hlast⟩ := List.map_eq_append_iff.mp h.symm
    obtain ⟨name, rfl, hname⟩ := List.map_eq_singleton_iff.mp hlast
    obtain ⟨kept, hkept, hfirst⟩ := ih hbefore.symm
    have hmem : .text name ∈ (r.addAll front).sources.map Source.name ↔ name ∈ before := by
      rw [hkept, ← hfirst.mem_iff, List.mem_map_of_injective fun _ _ => Value.text.inj]
    rw [addAll_concat, add]
    by_cases hold : name ∈ before
    · refine ⟨kept, ?_, hfirst.concat_of_mem hold⟩
      rw [map_name_put_of_mem hname.symm (hmem.mpr hold), hkept]
    · refine ⟨kept ++ [name], ?_, hfirst.concat_of_notMem hold⟩
      rw [map_name_put_of_notMem hname.symm (mt hmem.mp hold), hkept, List.map_append]
      rfl

/-! ## What is found -/

/-- The source of a name in a registry is the one that was registered last with it. -/
theorem mem_addAll_iff (hr : r.sources = []) (sources : List Source) {s : Source} {name : Text}
    (hname : s.name = .text name) :
    s ∈ (r.addAll sources).sources ↔ lastNamed? name sources = some s := by
  have honce := r.textsOnce_of_registered hr sources
  have hget := r.get?_addAll sources name
  rw [get?, get?, hr, List.find?_nil, Option.or_none] at hget
  rw [← hget]
  exact ⟨fun hs => find?_of_mem honce hs hname, List.mem_of_find?_eq_some⟩

/-- Where all names are texts, nothing is found under what is no name. -/
theorem get?_eq_none_iff {names : List Text} (h : r.sources.map Source.name = names.map .text)
    (v : Value) : r.get? v = none ↔ v ∉ r.sources.map Source.name := by
  have hsame : ∀ s ∈ r.sources, (s.name.same v = true ↔ s.name = v) := by
    intro s hs
    have hname : s.name ∈ names.map .text := h ▸ List.mem_map_of_mem hs
    obtain ⟨name, -, hname⟩ := List.mem_map.mp hname
    rw [← hname, Value.text_same_iff]
    exact eq_comm
  rw [get?, List.find?_eq_none, List.mem_map, not_exists]
  refine forall_congr' fun s => ?_
  rw [not_and]
  exact forall_congr' fun hs => not_congr (hsame s hs)

/-- A registry of sources is an empty one with the names and packages to which they are added. -/
theorem ofSources_eq {activeNames packages : Value} {active paths : List Value}
    (hactive : activeNames.items = .ok active) (hpackages : packages.items = .ok paths)
    (sources : List Source) : ofSources activeNames packages sources =
      .ok (addAll { activeNames := active, packages := paths } sources) := by
  rw [ofSources, create, hactive, hpackages]
  rfl

/-- A registry is made with some sources and given others later, all of them with texts for names.
It has each name once, in the order in which the names came first, and under each name the source
that came last with it: this one is found, and nothing is found under what was never a name. A
registry that is made with more or fewer of the sources, and given the rest later, is the same. -/
theorem registered_in_first_order {activeNames packages : Value} {active paths : List Value}
    (hactive : activeNames.items = .ok active) (hpackages : packages.items = .ok paths)
    {first later : List Source} {run : List Text}
    (hrun : (first ++ later).map Source.name = run.map .text) :
    ∃ r, ofSources activeNames packages first = .ok r ∧
      (∃ kept, (r.addAll later).sources.map Source.name = kept.map .text ∧
        InFirstOrder run kept) ∧
      (∀ (s : Source) (name : Text), s.name = .text name →
        (s ∈ (r.addAll later).sources ↔ lastNamed? name (first ++ later) = some s)) ∧
      (∀ name : Text,
        (r.addAll later).get? (.text name) = lastNamed? name (first ++ later)) ∧
      (∀ v : Value, (r.addAll later).get? v = none ↔ ∀ s ∈ first ++ later, s.name ≠ v) ∧
      ∀ others rest : List Source, others ++ rest = first ++ later →
        ∃ q, ofSources activeNames packages others = .ok q ∧ q.addAll rest = r.addAll later := by
  let blank : Registry := { activeNames := active, packages := paths }
  have hmade := fun sources => ofSources_eq hactive hpackages sources
  obtain ⟨kept, hkept, hfirst⟩ := blank.exists_names_addAll rfl hrun
  refine ⟨blank.addAll first, hmade first, ?_⟩
  rw [← addAll_append]
  refine ⟨⟨kept, hkept, hfirst⟩, fun s name => blank.mem_addAll_iff rfl _, fun name => ?_,
    fun v => ?_, fun others rest hsplit => ⟨blank.addAll others, hmade others, ?_⟩⟩
  · rw [get?_addAll, get?, List.find?_nil, Option.or_none]
  · have hnames : v ∈ kept.map .text ↔ v ∈ (first ++ later).map Source.name := by
      rw [hrun, List.mem_map, List.mem_map]
      simp only [hfirst.mem_iff]
    rw [get?_eq_none_iff _ hkept, hkept, hnames, List.mem_map, not_exists]
    simp only [not_and, ne_eq]
  · rw [← addAll_append, hsplit]

/-- Three sources, the last of which takes the place of the first. -/
theorem registered_in_first_order_replaced :
    let source (name : String) (order : Int) : Source := {
      name := .text name
      order := .int order
      convention := .dotted
      contents := .stored [] }
    ∃ r, ofSources (.list [.text "dev"]) (.tuple []) [source "app" 5, source "base" 3] = .ok r ∧
      (r.add (source "app" 1)).sources.map Source.name = [.text "app", .text "base"] ∧
      (r.add (source "app" 1)).get? (.text "app") = some (source "app" 1) ∧
      (r.add (source "app" 1)).get? (.text "none") = none := by
  intro source
  obtain ⟨r, hmade, ⟨kept, hkept, hfirst⟩, -, hfound, hmissing, -⟩ :=
    @registered_in_first_order (.list [.text "dev"]) (.tuple []) _ _ rfl rfl
      [source "app" 5, source "base" 3] [source "app" 1] ["app", "base", "app"] rfl
  refine ⟨r, hmade, ?_, ?_, ?_⟩
  · cases hmade
    simp [addAll, add, put, source, Value.same]
  · exact (hfound "app").trans (by simp [lastNamed?, source, Value.same])
  · exact (hmissing (.text "none")).mpr (by simp [source])

end MaskedReport.Registry
