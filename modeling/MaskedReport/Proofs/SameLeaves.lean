import Mathlib.Data.List.Perm.Subperm
import MaskedReport.Proofs.Leaves

/-!
# Mappings with the same leaves

Two leaves are alike if the same keys lead to them and their values are the same. Where all keys are
texts, two mappings are the same iff each leaf of either is alike to one of the other
(`Flatten.same_iff_matched`), so the leaves tell what a mapping is but for its order.
-/

set_option autoImplicit false

namespace MaskedReport

/-! ## Matching lists -/

section Matching

variable {α β γ δ : Type}

/-- Whether each element of either list is related to one of the other. -/
def Matched (R : α → β → Prop) (xs : List α) (ys : List β) : Prop :=
  (∀ x ∈ xs, ∃ y ∈ ys, R x y) ∧ ∀ y ∈ ys, ∃ x ∈ xs, R x y

/-- Lists that match do so the other way round. -/
theorem Matched.flip {R : α → β → Prop} {xs : List α} {ys : List β} (h : Matched R xs ys) :
    Matched (fun y x => R x y) ys xs := ⟨h.2, h.1⟩

/-- Lists of one item match if and only if the items do. -/
theorem matched_singleton_iff {R : α → β → Prop} {x : α} {y : β} : Matched R [x] [y] ↔ R x y := by
  simp [Matched]

/-- Mapped lists match if and only if the lists do through the mappings. -/
theorem matched_map_iff {R : γ → δ → Prop} {f : α → γ} {g : β → δ} {xs : List α} {ys : List β} :
    Matched R (xs.map f) (ys.map g) ↔ Matched (fun x y => R (f x) (g y)) xs ys := by
  simp [Matched]

/-- Relations that agree on the items match the same lists. -/
theorem matched_congr {R S : α → β → Prop} {xs : List α} {ys : List β}
    (h : ∀ x ∈ xs, ∀ y ∈ ys, (R x y ↔ S x y)) : Matched R xs ys ↔ Matched S xs ys := by
  have hfrom : ∀ x ∈ xs, ((∃ y ∈ ys, R x y) ↔ ∃ y ∈ ys, S x y) := fun x hx =>
    exists_congr fun y => and_congr_right (h x hx y)
  have hto : ∀ y ∈ ys, ((∃ x ∈ xs, R x y) ↔ ∃ x ∈ xs, S x y) := fun y hy =>
    exists_congr fun x => and_congr_right fun hx => h x hx y hy
  exact and_congr (forall₂_congr hfrom) (forall₂_congr hto)

/-- Lists match whose groups do. -/
theorem Matched.flatMap {R : γ → δ → Prop} {A : α → List γ} {B : β → List δ} {xs : List α}
    {ys : List β} (h : Matched (fun x y => Matched R (A x) (B y)) xs ys) :
    Matched R (xs.flatMap A) (ys.flatMap B) := by
  constructor
  · intro a ha
    obtain ⟨x, hx, ha⟩ := List.mem_flatMap.mp ha
    obtain ⟨y, hy, hgroups⟩ := h.1 x hx
    obtain ⟨b, hb, hab⟩ := hgroups.1 a ha
    exact ⟨b, List.mem_flatMap.mpr ⟨y, hy, hb⟩, hab⟩
  · intro b hb
    obtain ⟨y, hy, hb⟩ := List.mem_flatMap.mp hb
    obtain ⟨x, hx, hgroups⟩ := h.2 y hy
    obtain ⟨a, ha, hab⟩ := hgroups.2 b hb
    exact ⟨a, List.mem_flatMap.mpr ⟨x, hx, ha⟩, hab⟩

/-- Where lists match, and what is related is in groups with one label, which no two groups of a
list have, a group with an element matches one of the other list. -/
theorem Matched.exists_group {κ : Type} {R : γ → δ → Prop} {A : α → List γ} {B : β → List δ}
    {xs : List α} {ys : List β} {f : α → κ} {g : β → κ} (hf : (xs.map f).Nodup)
    (hg : (ys.map g).Nodup)
    (hlabel : ∀ x ∈ xs, ∀ y ∈ ys, ∀ a ∈ A x, ∀ b ∈ B y, R a b → f x = g y)
    (h : Matched R (xs.flatMap A) (ys.flatMap B)) {x : α} (hx : x ∈ xs) {a : γ} (ha : a ∈ A x) :
    ∃ y ∈ ys, Matched R (A x) (B y) := by
  obtain ⟨b, hb, hab⟩ := h.1 a (List.mem_flatMap.mpr ⟨x, hx, ha⟩)
  obtain ⟨y, hy, hb⟩ := List.mem_flatMap.mp hb
  have hxy := hlabel x hx y hy a ha b hb hab
  refine ⟨y, hy, ?_, ?_⟩
  · intro c hc
    obtain ⟨d, hd, hcd⟩ := h.1 c (List.mem_flatMap.mpr ⟨x, hx, hc⟩)
    obtain ⟨z, hz, hd⟩ := List.mem_flatMap.mp hd
    have hxz := hlabel x hx z hz c hc d hd hcd
    obtain rfl : z = y := List.inj_on_of_nodup_map hg hz hy (hxz.symm.trans hxy)
    exact ⟨d, hd, hcd⟩
  · intro d hd
    obtain ⟨c, hc, hcd⟩ := h.2 d (List.mem_flatMap.mpr ⟨y, hy, hd⟩)
    obtain ⟨z, hz, hc⟩ := List.mem_flatMap.mp hc
    have hzy := hlabel z hz y hy c hc d hd hcd
    obtain rfl : z = x := List.inj_on_of_nodup_map hf hz hx (hzy.trans hxy.symm)
    exact ⟨c, hc, hcd⟩

/-- Lists match iff their groups do, where what is related is in groups with one label, which no two
groups of a list have. -/
theorem matched_flatMap_iff {κ : Type} {R : γ → δ → Prop} {A : α → List γ} {B : β → List δ}
    {xs : List α} {ys : List β} {f : α → κ} {g : β → κ} (hf : (xs.map f).Nodup)
    (hg : (ys.map g).Nodup)
    (hlabel : ∀ x ∈ xs, ∀ y ∈ ys, ∀ a ∈ A x, ∀ b ∈ B y, R a b → f x = g y)
    (hA : ∀ x ∈ xs, A x ≠ []) (hB : ∀ y ∈ ys, B y ≠ []) :
    Matched R (xs.flatMap A) (ys.flatMap B) ↔ Matched (fun x y => Matched R (A x) (B y)) xs ys := by
  refine ⟨fun h => ⟨fun x hx => ?_, fun y hy => ?_⟩, Matched.flatMap⟩
  · obtain ⟨a, ha⟩ := List.exists_mem_of_ne_nil _ (hA x hx)
    obtain ⟨y, hy, hmatched⟩ := h.exists_group hf hg hlabel hx ha
    exact ⟨y, hy, hmatched⟩
  · obtain ⟨b, hb⟩ := List.exists_mem_of_ne_nil _ (hB y hy)
    have hback : ∀ y ∈ ys, ∀ x ∈ xs, ∀ b ∈ B y, ∀ a ∈ A x, R a b → g y = f x :=
      fun y hy x hx b hb a ha hab => (hlabel x hx y hy a ha b hb hab).symm
    obtain ⟨x, hx, hmatched⟩ := h.flip.exists_group hg hf hback hy hb
    exact ⟨x, hx, hmatched.flip⟩

end Matching

/-! ## Entries that are the same -/

/-- Whether two entries have one key and values that are the same. -/
def SameEntry (e d : Value × Value) : Prop := e.1 = d.1 ∧ e.2.same d.2 = true

/-- Entries are among others if each is the same as one of these. -/
theorem Value.allEntriesAmong_iff (a b : Entries) :
    allEntriesAmong a b = true ↔
      ∀ e ∈ a, ∃ d ∈ b, e.1.same d.1 = true ∧ e.2.same d.2 = true := by
  induction a with
  | nil => simp [allEntriesAmong]
  | cons e rest ih =>
    obtain ⟨key, value⟩ := e
    rw [allEntriesAmong, Bool.and_eq_true, ih, List.forall_mem_cons, List.any_eq_true]
    simp only [Bool.and_eq_true]

namespace Flatten

variable {ok : Text → Prop} {data others : Entries} {found more here there : List Leaf}

/-- A keyed mapping all of whose keys are in another mapping has as many of them at most. -/
theorem Keyed.subperm_keys (h : Keyed ok data) (hkeys : ∀ e ∈ data, ∃ d ∈ others, e.1 = d.1) :
    data.keys.Subperm others.keys := by
  refine List.subperm_of_subset h.nodup_keys fun key hkey => ?_
  obtain ⟨e, he, rfl⟩ := List.mem_map.mp hkey
  obtain ⟨d, hd, hed⟩ := hkeys e he
  rw [hed]
  exact List.mem_map_of_mem hd

/-- Two keyed mappings are the same iff each entry of either is the same as one of the other. -/
theorem Keyed.same_iff (hdata : Keyed ok data) (hothers : Keyed ok others) :
    (Value.map data).same (.map others) = true ↔ Matched SameEntry data others := by
  have hamong : Value.allEntriesAmong data others = true ↔
      ∀ e ∈ data, ∃ d ∈ others, SameEntry e d := by
    rw [Value.allEntriesAmong_iff]
    refine forall₂_congr fun e he => exists_congr fun d => ?_
    obtain ⟨name, hname⟩ := hdata.exists_text he
    rw [SameEntry, hname, Value.text_same_iff, eq_comm]
  have hlengths : ∀ es : Entries, es.keys.length = es.length := fun es => List.length_map _
  rw [Value.same, Bool.and_eq_true, beq_iff_eq, hamong]
  constructor
  · rintro ⟨hlength, hfrom⟩
    refine ⟨hfrom, fun d hd => ?_⟩
    -- as many keys, all of which are there, are all keys
    have hsub : data.keys.Subperm others.keys :=
      hdata.subperm_keys fun e he => (hfrom e he).imp fun _ h => ⟨h.1, h.2.1⟩
    have hperm : data.keys.Perm others.keys :=
      hsub.perm_of_length_le (by rw [hlengths, hlengths, hlength])
    obtain ⟨e, he, hed⟩ := List.mem_map.mp (hperm.mem_iff.mpr (List.mem_map_of_mem hd))
    obtain ⟨found, hfound, hsame⟩ := hfrom e he
    obtain rfl : found = d := hothers.eq_of_key hfound hd (hsame.1.symm.trans hed)
    exact ⟨e, he, hsame⟩
  · rintro ⟨hfrom, hto⟩
    have hle : data.keys.Subperm others.keys :=
      hdata.subperm_keys fun e he => (hfrom e he).imp fun _ h => ⟨h.1, h.2.1⟩
    have hge : others.keys.Subperm data.keys :=
      hothers.subperm_keys fun d hd => (hto d hd).imp fun _ h => ⟨h.1, h.2.1.symm⟩
    refine ⟨?_, hfrom⟩
    rw [← hlengths, ← hlengths, le_antisymm hle.length_le hge.length_le]

/-! ## Leaves that are alike -/

/-- Whether the same keys lead to two leaves, and their values are the same. -/
def Leaf.Alike (l m : Leaf) : Prop := l.keys = m.keys ∧ l.value.same m.value = true

/-- Leaves within keys are alike if and only if the keys are equal and the leaves alike. -/
theorem Leaf.alike_within_iff {name other : Text} {l m : Leaf} :
    (l.within name).Alike (m.within other) ↔ name = other ∧ l.Alike m := by
  show name :: l.keys = other :: m.keys ∧ _ ↔ _
  rw [List.cons.injEq, and_assoc]
  rfl

/-- Leaves that are alike are equally deep. -/
theorem Leaf.Alike.length_parents {l m : Leaf} (h : l.Alike m) :
    l.parents.length = m.parents.length := by
  have hlength := congrArg List.length h.1
  simpa [Leaf.keys] using hlength

/-- A leaf is not the same as a mapping with entries. -/
theorem IsLeaf.not_same_map {v : Value} {inner : Entries} (hv : IsLeaf v) (hne : inner ≠ []) :
    ¬ v.same (.map inner) = true ∧ ¬ (Value.map inner).same v = true := by
  cases v with
  | map entries =>
    cases entries with
    | nil =>
      have hlength : inner.length ≠ 0 := by simpa using hne
      simp [Value.same, hlength, hlength.symm]
    | cons e rest => exact hv.elim
  | _ => simp [Value.same, Value.quantity?]

/-- The leaves at two entries match iff the entries are the same, if this is so of the leaves in
mappings in them. -/
theorem matched_leavesAt_iff {name other : Text} {v w : Value}
    (hhere : leavesAt (.text name) v = .ok here) (hthere : leavesAt (.text other) w = .ok there)
    (hinner : ∀ inner outer, inner ≠ [] → outer ≠ [] → v = .map inner → w = .map outer →
      ∀ inside beside, leaves inner = .ok inside → leaves outer = .ok beside →
        ((Value.map inner).same (.map outer) = true ↔ Matched Leaf.Alike inside beside)) :
    SameEntry (.text name, v) (.text other, w) ↔ Matched Leaf.Alike here there := by
  have hnames : SameEntry (.text name, v) (.text other, w) ↔ name = other ∧ v.same w = true := by
    rw [SameEntry, Value.text.injEq]
  rw [hnames]
  obtain ⟨_, ⟨⟩, ⟨hv, rfl⟩ | ⟨inner, inside, hne, rfl, hinside, rfl⟩⟩ := leavesAt_ok hhere
  · obtain ⟨_, ⟨⟩, ⟨hw, rfl⟩ | ⟨outer, beside, hother, rfl, hbeside, rfl⟩⟩ := leavesAt_ok hthere
    · rw [matched_singleton_iff]
      simp [Leaf.Alike, Leaf.keys]
    · refine iff_of_false (fun h => (hv.not_same_map hother).1 h.2) fun h => ?_
      obtain ⟨m, hm⟩ := exists_mem_leaves outer hbeside hother
      obtain ⟨l, hl, halike⟩ := h.2 _ (List.mem_map_of_mem hm)
      rw [List.mem_singleton.mp hl] at halike
      exact absurd halike.length_parents (by simp [Leaf.within])
  · obtain ⟨_, ⟨⟩, ⟨hw, rfl⟩ | ⟨outer, beside, hother, rfl, hbeside, rfl⟩⟩ := leavesAt_ok hthere
    · refine iff_of_false (fun h => (hw.not_same_map hne).2 h.2) fun h => ?_
      obtain ⟨l, hl⟩ := exists_mem_leaves inner hinside hne
      obtain ⟨m, hm, halike⟩ := h.1 _ (List.mem_map_of_mem hl)
      rw [List.mem_singleton.mp hm] at halike
      exact absurd halike.length_parents (by simp [Leaf.within])
    · rw [hinner inner outer hne hother rfl rfl inside beside hinside hbeside, matched_map_iff]
      simp only [Leaf.alike_within_iff]
      constructor
      · rintro ⟨hname, hmatched⟩
        simpa [hname] using hmatched
      · intro hmatched
        obtain ⟨l, hl⟩ := exists_mem_leaves inner hinside hne
        obtain ⟨m, -, hname, -⟩ := hmatched.1 l hl
        exact ⟨hname, by simpa [hname] using hmatched⟩

/-- Two mappings with texts for keys are the same iff each leaf of either is alike to one of the
other. -/
theorem same_iff_matched {data others : Entries} {found more : List Leaf} (hdata : Keyed ok data)
    (hothers : Keyed ok others) (hfound : leaves data = .ok found)
    (hmore : leaves others = .ok more) :
    (Value.map data).same (.map others) = true ↔ Matched Leaf.Alike found more := by
  -- by induction on the nesting: at one level the leaves come in groups, one for each key
  have hentry : ∀ e ∈ data, ∀ d ∈ others,
      (SameEntry e d ↔ Matched Leaf.Alike (leavesOf e) (leavesOf d)) := by
    rintro ⟨key, v⟩ he ⟨other, w⟩ hd
    obtain ⟨name, rfl⟩ := hdata.exists_text he
    obtain ⟨text, rfl⟩ := hothers.exists_text hd
    refine matched_leavesAt_iff (leavesAt_of_mem hfound he) (leavesAt_of_mem hmore hd) ?_
    rintro inner outer hne hother rfl rfl inside beside hinside hbeside
    exact same_iff_matched (hdata.keyed_of_mem he hne) (hothers.keyed_of_mem hd hother) hinside
      hbeside
  rw [hdata.same_iff hothers, matched_congr hentry, leaves_eq_flatMap hfound,
    leaves_eq_flatMap hmore]
  symm
  refine matched_flatMap_iff hdata.nodup_keys hothers.nodup_keys ?_
    (fun e he => leavesAt_ne_nil (leavesAt_of_mem hfound he))
    (fun d hd => leavesAt_ne_nil (leavesAt_of_mem hmore hd))
  rintro ⟨key, v⟩ he ⟨other, w⟩ hd l hl m hm halike
  obtain ⟨name, rfl⟩ := hdata.exists_text he
  obtain ⟨text, rfl⟩ := hothers.exists_text hd
  have hfirst := head_leavesAt (leavesAt_of_mem hfound he) l hl
  rw [halike.1, head_leavesAt (leavesAt_of_mem hmore hd) m hm] at hfirst
  rw [Option.some.inj hfirst]
termination_by sizeOf data
decreasing_by
  have hsize := List.sizeOf_lt_of_mem he
  simp only [Prod.mk.sizeOf_spec, Value.map.sizeOf_spec] at hsize
  omega

end Flatten

end MaskedReport
