import MaskedReport.Registry
import MaskedReport.Proofs.Entries
import MaskedReport.Proofs.Letters

/-!
# Runs of registrations

What a registry holds after sources have been registered one after the other: under each text the
source that was registered last with it, and no text twice. No source is lost if and only if no two
of them have the same name: `Registry.length_addAll_iff`.
-/

set_option autoImplicit false

namespace MaskedReport.Registry

variable {s new : Source} {sources : List Source}

/-! ## One registration -/

/-- Registering a source brings in no other. -/
theorem mem_put (h : s ∈ put new sources) : s = new ∨ s ∈ sources := by
  induction sources with
  | nil => exact Or.inl (List.mem_singleton.mp h)
  | cons t rest ih =>
    unfold put at h
    split at h
    · rcases List.mem_cons.mp h with rfl | h
      · exact Or.inl rfl
      · exact Or.inr (List.mem_cons_of_mem t h)
    · rcases List.mem_cons.mp h with rfl | h
      · exact Or.inr List.mem_cons_self
      · exact (ih h).imp_right (List.mem_cons_of_mem t)

/-- A source with a new name comes last. -/
theorem put_of_new (h : ∀ s ∈ sources, s.name.same new.name = false) :
    put new sources = sources ++ [new] := by
  induction sources with
  | nil => rfl
  | cons t rest ih =>
    have ht := h t List.mem_cons_self
    have hrest := ih fun s hs => h s (List.mem_cons_of_mem t hs)
    simp [put, ht, hrest]

/-- A source with a name that is there replaces one. -/
theorem length_put_of_same (h : ∃ s ∈ sources, s.name.same new.name = true) :
    (put new sources).length = sources.length := by
  induction sources with
  | nil => simp at h
  | cons t rest ih =>
    unfold put
    split
    · rfl
    · obtain ⟨s, hs, hsame⟩ := h
      rcases List.mem_cons.mp hs with rfl | hs
      · contradiction
      · rw [List.length_cons, ih ⟨s, hs, hsame⟩, List.length_cons]

/-- Putting a source adds at most one. -/
theorem length_put_le (new : Source) (sources : List Source) :
    (put new sources).length ≤ sources.length + 1 := by
  by_cases h : ∃ s ∈ sources, s.name.same new.name = true
  · have := length_put_of_same h
    omega
  · have hput : put new sources = sources ++ [new] := put_of_new (by simpa using h)
    simp [hput]

/-- After a registration a text leads to the new source if that is its name, else to what it led to
before. -/
theorem find?_put (new : Source) (sources : List Source) (name : Text) :
    (put new sources).find? (fun s => s.name.same (.text name)) =
      if new.name.same (.text name) then some new
      else sources.find? fun s => s.name.same (.text name) := by
  induction sources with
  | nil =>
    by_cases hnew : new.name.same (.text name)
    · simp [put, hnew]
    · simp [put, hnew]
  | cons t rest ih =>
    by_cases hsame : t.name.same new.name
    · -- the new source stands in the place of this one, so the text finds it iff it found this one
      have hplace : t.name.same (.text name) = new.name.same (.text name) := by
        rw [Bool.eq_iff_iff, Value.same_text_iff, Value.same_text_iff]
        constructor
        · intro ht
          rw [ht] at hsame
          exact (Value.text_same_iff name new.name).mp hsame
        · intro hnew
          rw [hnew] at hsame
          exact (Value.same_text_iff t.name name).mp hsame
      by_cases hnew : new.name.same (.text name)
      · simp [put, hsame, hnew]
      · simp [put, hsame, hplace, hnew]
    · by_cases ht : t.name.same (.text name)
      · have hnew : ¬ new.name.same (.text name) = true := by
          intro hnew
          rw [Value.same_text_iff] at ht hnew
          rw [ht, hnew] at hsame
          exact hsame ((Value.same_text_iff (.text name) name).mpr rfl)
        simp [put, hsame, ht, hnew]
      · simp [put, hsame, ht, ih]

/-- A registration leaves the sources of other names as they are. -/
theorem filter_put_of_others {name : Text} (hnew : new.name = .text name) :
    (put new sources).filter (fun s => !s.name.same (.text name)) =
      sources.filter fun s => !s.name.same (.text name) := by
  have hself : new.name.same (.text name) = true := (Value.same_text_iff new.name name).mpr hnew
  induction sources with
  | nil => simp [put, hself]
  | cons t rest ih =>
    have hplace : t.name.same new.name = t.name.same (.text name) := by rw [hnew]
    by_cases hsame : t.name.same (.text name)
    · simp [put, hplace, hsame, hself]
    · simp [put, hplace, hsame, ih]

/-! ## Texts that name one source -/

/-- Whether no text is the name of two sources. -/
def TextsOnce (sources : List Source) : Prop :=
  sources.Pairwise fun a b => ∀ t, a.name = .text t → b.name ≠ .text t

/-- Putting a source keeps names that are texts to one each. -/
theorem textsOnce_put (h : TextsOnce sources) : TextsOnce (put new sources) := by
  unfold TextsOnce at h ⊢
  induction sources with
  | nil => exact List.pairwise_singleton _ _
  | cons t rest ih =>
    obtain ⟨ht, hrest⟩ := List.pairwise_cons.mp h
    unfold put
    split
    case isTrue hsame =>
      refine List.pairwise_cons.mpr ⟨fun b hb name hname => ?_, hrest⟩
      rw [hname] at hsame
      exact ht b hb name ((Value.same_text_iff t.name name).mp hsame)
    case isFalse hsame =>
      refine List.pairwise_cons.mpr ⟨fun b hb name hname => ?_, ih hrest⟩
      rcases mem_put hb with rfl | hb
      · intro hnew
        rw [hname, hnew] at hsame
        exact hsame ((Value.same_text_iff (.text name) name).mpr rfl)
      · exact ht b hb name hname

/-- The only source of a text is the one that it leads to. -/
theorem find?_of_mem (h : TextsOnce sources) (hs : s ∈ sources) {name : Text}
    (hname : s.name = .text name) :
    sources.find? (fun s => s.name.same (.text name)) = some s := by
  unfold TextsOnce at h
  induction sources with
  | nil => cases hs
  | cons t rest ih =>
    obtain ⟨ht, hrest⟩ := List.pairwise_cons.mp h
    rcases List.mem_cons.mp hs with rfl | hs
    · rw [List.find?_cons, (Value.same_text_iff s.name name).mpr hname]
    · have hne : t.name.same (.text name) = false := by
        rw [Bool.eq_false_iff, ne_eq, Value.same_text_iff]
        exact fun htext => ht s hs name htext hname
      rw [List.find?_cons, hne]
      exact ih hrest hs

/-- A registration leaves one source of the name, the new one. -/
theorem filter_put_of_same (h : TextsOnce sources) {name : Text}
    (hnew : new.name = .text name) :
    (put new sources).filter (fun s => s.name.same (.text name)) = [new] := by
  have hself : new.name.same (.text name) = true := (Value.same_text_iff new.name name).mpr hnew
  unfold TextsOnce at h
  induction sources with
  | nil => simp [put, hself]
  | cons t rest ih =>
    obtain ⟨ht, hrest⟩ := List.pairwise_cons.mp h
    have hplace : t.name.same new.name = t.name.same (.text name) := by rw [hnew]
    by_cases hsame : t.name.same (.text name)
    · have hnone : rest.filter (fun s => s.name.same (.text name)) = [] := by
        refine List.filter_eq_nil_iff.mpr fun s hs => ?_
        rw [Value.same_text_iff]
        exact ht s hs name ((Value.same_text_iff t.name name).mp hsame)
      simp [put, hplace, hsame, hself, hnone]
    · simp [put, hplace, hsame, ih hrest]

/-! ## Runs -/

variable (r : Registry)

/-- What the sources registered have in common holds of the whole registry. -/
theorem forall_mem_addAll {P : Source → Prop} (hr : ∀ s ∈ r.sources, P s)
    (h : ∀ s ∈ sources, P s) : ∀ s ∈ (r.addAll sources).sources, P s := by
  induction sources generalizing r with
  | nil => exact hr
  | cons new rest ih =>
    refine ih (r.add new) ?_ fun s hs => h s (List.mem_cons_of_mem new hs)
    intro s hs
    rcases mem_put hs with rfl | hs
    · exact h s List.mem_cons_self
    · exact hr s hs

/-- Adding any number of sources keeps names that are texts to one each. -/
theorem textsOnce_addAll (h : TextsOnce r.sources) (sources : List Source) :
    TextsOnce (r.addAll sources).sources := by
  induction sources generalizing r with
  | nil => exact h
  | cons s rest ih => exact ih (r.add s) (textsOnce_put h)

/-- In a registry that was filled from nothing a name that is a text comes once. -/
theorem textsOnce_of_registered (hr : r.sources = []) (sources : List Source) :
    TextsOnce (r.addAll sources).sources := by
  refine r.textsOnce_addAll ?_ sources
  rw [hr]
  exact List.Pairwise.nil

/-- The last of the sources whose name is a text. -/
def lastNamed? (name : Text) (sources : List Source) : Option Source :=
  (sources.filter fun s => s.name.same (.text name)).getLast?

/-- The last source of a name is in the rest, or else it is the first source. -/
theorem lastNamed?_cons (name : Text) (s : Source) (rest : List Source) :
    lastNamed? name (s :: rest) =
      (lastNamed? name rest).or (if s.name.same (.text name) then some s else none) := by
  unfold lastNamed?
  by_cases hname : s.name.same (.text name)
  · have hfilter : (s :: rest).filter (fun s => s.name.same (.text name)) =
        s :: rest.filter fun s => s.name.same (.text name) := List.filter_cons_of_pos hname
    rw [hfilter, if_pos hname, List.getLast?_cons]
    cases (rest.filter fun s => s.name.same (.text name)).getLast? with
    | none => rfl
    | some last => rfl
  · have hfilter : (s :: rest).filter (fun s => s.name.same (.text name)) =
        rest.filter fun s => s.name.same (.text name) := List.filter_cons_of_neg hname
    rw [hfilter, if_neg hname, Option.or_none]

/-- A text leads to the source that was registered last with it. -/
theorem get?_addAll (sources : List Source) (name : Text) :
    (r.addAll sources).get? (.text name) = (lastNamed? name sources).or (r.get? (.text name)) := by
  induction sources generalizing r with
  | nil => rfl
  | cons s rest ih =>
    have hstep : r.addAll (s :: rest) = (r.add s).addAll rest := rfl
    have hfirst : (r.add s).get? (.text name) =
        if s.name.same (.text name) then some s else r.get? (.text name) :=
      find?_put s r.sources name
    rw [hstep, ih, hfirst, lastNamed?_cons, Option.or_assoc]
    by_cases hname : s.name.same (.text name)
    · rw [if_pos hname, if_pos hname, Option.some_or]
    · rw [if_neg hname, if_neg hname, Option.none_or]

/-! ## Lost sources -/

/-- Whether no source has the name of one before it. -/
def NamesDiffer (sources : List Source) : Prop :=
  sources.Pairwise fun a b => a.name.same b.name = false

/-- There are at most as many sources as were added. -/
theorem length_addAll_le (sources : List Source) :
    (r.addAll sources).sources.length ≤ r.sources.length + sources.length := by
  induction sources generalizing r with
  | nil => exact Nat.le_refl _
  | cons s rest ih =>
    have hrest : (r.addAll (s :: rest)).sources.length ≤ (r.add s).sources.length + rest.length :=
      ih (r.add s)
    have hadd : (r.add s).sources.length ≤ r.sources.length + 1 := length_put_le s r.sources
    rw [List.length_cons]
    omega

/-- Sources whose names differ are all there in order. -/
theorem sources_addAll (h : NamesDiffer (r.sources ++ sources)) :
    (r.addAll sources).sources = r.sources ++ sources := by
  induction sources generalizing r with
  | nil => exact (List.append_nil r.sources).symm
  | cons s rest ih =>
    have hnew : ∀ t ∈ r.sources, t.name.same s.name = false := fun t ht =>
      (List.pairwise_append.mp h).2.2 t ht s List.mem_cons_self
    have hadd : (r.add s).sources = r.sources ++ [s] := put_of_new hnew
    have happend : (r.add s).sources ++ rest = r.sources ++ s :: rest := by
      rw [hadd, List.append_assoc, List.singleton_append]
    rw [← happend] at h ⊢
    exact ih (r.add s) h

/-- Sources that are registered one after the other are all kept if and only if they differ in
name. -/
theorem length_addAll_iff (h : NamesDiffer r.sources) (sources : List Source) :
    (r.addAll sources).sources.length = r.sources.length + sources.length ↔
      NamesDiffer (r.sources ++ sources) := by
  constructor
  · intro hlength
    induction sources generalizing r with
    | nil => rwa [List.append_nil]
    | cons s rest ih =>
      have hrest : (r.addAll (s :: rest)).sources.length ≤
          (r.add s).sources.length + rest.length := length_addAll_le (r.add s) rest
      rw [hlength, List.length_cons] at hrest
      -- a source in the place of another would be one too few at the end
      have hnew : ∀ t ∈ r.sources, t.name.same s.name = false := by
        by_contra hsame
        have hadd : (r.add s).sources.length = r.sources.length :=
          length_put_of_same (by simpa using hsame)
        omega
      have hadd : (r.add s).sources = r.sources ++ [s] := put_of_new hnew
      have hdiffer : NamesDiffer (r.add s).sources := by
        rw [hadd]
        refine List.pairwise_append.mpr ⟨h, List.pairwise_singleton _ _, ?_⟩
        intro t ht u hu
        rw [List.mem_singleton.mp hu]
        exact hnew t ht
      have happend : (r.add s).sources ++ rest = r.sources ++ s :: rest := by
        rw [hadd, List.append_assoc, List.singleton_append]
      rw [← happend]
      refine ih (r.add s) hdiffer ?_
      have hstep : (r.add s).addAll rest = r.addAll (s :: rest) := rfl
      rw [hstep, hlength, hadd, List.length_append, List.length_singleton, List.length_cons]
      omega
  · intro hdiffer
    rw [sources_addAll r hdiffer, List.length_append]

end MaskedReport.Registry
