import Mathlib.Data.List.Perm.Basic
import MaskedReport.Proofs.Agreement

/-!
# The order of entries

Sources are sorted by whole numbers, those of one order as they were registered. Such a list is
determined by the sources of each order in turn, `Sorting.eq_of_pairwise_of_filter`, so the order of
a full report is canonical, and taking a source out does not move the others.
-/

set_option autoImplicit false

namespace MaskedReport

/-! ## Sorting by whole numbers -/

namespace Sorting

variable {α : Type} (rank : α → Int)

/-- Items from the lowest rank to the highest, those of one rank as they come. -/
def byRank (items : List α) : List α := items.mergeSort fun a b => rank a ≤ rank b

variable {rank} {items others : List α}

/-- Comparing by rank is transitive. -/
theorem rank_le_trans (rank : α → Int) (a b c : α) :
    decide (rank a ≤ rank b) → decide (rank b ≤ rank c) → decide (rank a ≤ rank c) := by
  simp only [decide_eq_true_eq]
  exact Int.le_trans

/-- Of two items one has at most the rank of the other. -/
theorem rank_le_total (rank : α → Int) (a b : α) :
    decide (rank a ≤ rank b) || decide (rank b ≤ rank a) := by
  simpa using Int.le_total (rank a) (rank b)

/-- Sorting by rank rearranges the items. -/
theorem byRank_perm (rank : α → Int) (items : List α) : (byRank rank items).Perm items :=
  List.mergeSort_perm items _

/-- Items sorted by rank have ranks that do not decrease. -/
theorem pairwise_byRank (rank : α → Int) (items : List α) :
    (byRank rank items).Pairwise fun a b => rank a ≤ rank b := by
  have hsorted := List.pairwise_mergeSort (rank_le_trans rank) (rank_le_total rank) items
  simpa only [byRank, decide_eq_true_eq] using hsorted

/-- Items of one rank stay as they come. -/
theorem filter_byRank (rank : α → Int) (items : List α) (i : Int) :
    (byRank rank items).filter (rank · == i) = items.filter (rank · == i) := by
  have hlevel : (items.filter (rank · == i)).Pairwise fun a b => decide (rank a ≤ rank b) := by
    refine List.pairwise_of_forall_mem_list fun a ha b hb => ?_
    have hrank : rank a = rank b := by
      rw [beq_iff_eq.mp (List.mem_filter.mp ha).2, beq_iff_eq.mp (List.mem_filter.mp hb).2]
    simp [hrank]
  have hkept : (items.filter (rank · == i)).Sublist (byRank rank items) :=
    List.sublist_mergeSort (rank_le_trans rank) (rank_le_total rank) hlevel List.filter_sublist
  have hsame : (items.filter (rank · == i)).Sublist
      ((byRank rank items).filter (rank · == i)) := by
    simpa only [List.filter_filter, Bool.and_self] using hkept.filter (rank · == i)
  exact (hsame.eq_of_length ((byRank_perm rank items).filter _).length_eq.symm).symm

/-- Lists that agree for each rank have the same items. -/
theorem mem_iff_of_filter
    (h : ∀ i, items.filter (rank · == i) = others.filter (rank · == i)) (a : α) :
    a ∈ items ↔ a ∈ others := by
  have ha : (a ∈ items.filter (rank · == rank a)) = (a ∈ others.filter (rank · == rank a)) := by
    rw [h]
  simpa using ha

/-- Sorted lists are equal if they have the same items of each rank in the same order. -/
theorem eq_of_pairwise_of_filter (hitems : items.Pairwise fun a b => rank a ≤ rank b)
    (hothers : others.Pairwise fun a b => rank a ≤ rank b)
    (h : ∀ i, items.filter (rank · == i) = others.filter (rank · == i)) : items = others := by
  induction items generalizing others with
  | nil =>
    cases others with
    | nil => rfl
    | cons b others =>
      exact absurd ((mem_iff_of_filter h b).mpr List.mem_cons_self) List.not_mem_nil
  | cons a items ih =>
    cases others with
    | nil => exact absurd ((mem_iff_of_filter h a).mp List.mem_cons_self) List.not_mem_nil
    | cons b others =>
      obtain ⟨ha, hitemsRest⟩ := List.pairwise_cons.mp hitems
      obtain ⟨hb, hothersRest⟩ := List.pairwise_cons.mp hothers
      -- each head is in the other list too, so both have the lowest rank
      have hle : rank a ≤ rank b := by
        rcases List.mem_cons.mp ((mem_iff_of_filter h b).mpr List.mem_cons_self) with heq | hin
        · exact Int.le_of_eq (congrArg rank heq.symm)
        · exact ha b hin
      have hge : rank b ≤ rank a := by
        rcases List.mem_cons.mp ((mem_iff_of_filter h a).mp List.mem_cons_self) with heq | hin
        · exact Int.le_of_eq (congrArg rank heq.symm)
        · exact hb a hin
      have hrank : rank b = rank a := Int.le_antisymm hge hle
      have hheads := h (rank a)
      rw [List.filter_cons, List.filter_cons, hrank, if_pos (beq_self_eq_true _),
        if_pos (beq_self_eq_true _)] at hheads
      obtain ⟨rfl, -⟩ := List.cons.inj hheads
      have htails : ∀ i, items.filter (rank · == i) = others.filter (rank · == i) := by
        intro i
        have hi := h i
        rw [List.filter_cons, List.filter_cons] at hi
        split at hi
        · exact (List.cons.inj hi).2
        · exact hi
      rw [ih hitemsRest hothersRest htails]

/-- Lists with the same items of each rank in the same order are sorted alike. -/
theorem byRank_congr (h : ∀ i, items.filter (rank · == i) = others.filter (rank · == i)) :
    byRank rank items = byRank rank others := by
  refine eq_of_pairwise_of_filter (pairwise_byRank rank items) (pairwise_byRank rank others) ?_
  intro i
  rw [filter_byRank, filter_byRank, h]

/-- Items that are left out do not move the others. -/
theorem filter_byRank_comm (rank : α → Int) (items : List α) (p : α → Bool) :
    (byRank rank items).filter p = byRank rank (items.filter p) := by
  refine eq_of_pairwise_of_filter ((pairwise_byRank rank items).filter p)
    (pairwise_byRank rank (items.filter p)) ?_
  intro i
  rw [filter_byRank, List.filter_comm, filter_byRank, List.filter_comm]

end Sorting

/-! ## Reports in order -/

/-- Whole numbers are the same as values only if they are equal. -/
theorem Value.int_same_iff (i j : Int) : (int i).same (int j) = true ↔ i = j := by
  simp [same, quantity?, Quantity.compare?]

/-- Whether two values are whole numbers, the first of which is at most the second. -/
def Value.AtMost (v w : Value) : Prop := ∃ i j, v = .int i ∧ w = .int j ∧ i ≤ j

namespace Report

variable {classify : Classify} {sources ordered : List Source} {entries : List Entry}

/-- The sources from the lowest order to the highest, those of one order as they come. -/
def inOrder (sources : List Source) : List Source :=
  Sorting.byRank (fun s => s.rank?.getD 0) sources

/-- Sources whose orders are whole numbers are sorted by these. -/
theorem sorted_eq_inOrder (h : ∀ s ∈ sources, ∃ i, s.order = .int i) :
    sorted sources = .ok (inOrder sources) := sorted_of_whole h

/-- Sources in order are the sources rearranged. -/
theorem inOrder_perm (sources : List Source) : (inOrder sources).Perm sources :=
  Sorting.byRank_perm _ sources

/-- A source whose order is a whole number has an order if and only if that is its rank. -/
theorem same_order_eq {s : Source} (h : ∃ i, s.order = .int i) (i : Int) :
    s.order.same (.int i) = (s.rank?.getD 0 == i) := by
  obtain ⟨j, hj⟩ := h
  rw [Source.rank?, hj, Bool.eq_iff_iff, Value.int_same_iff, Option.getD_some, beq_iff_eq]

/-- The sources of one order are those of its rank. -/
theorem filter_same_order (h : ∀ s ∈ sources, ∃ i, s.order = .int i) (i : Int) :
    sources.filter (fun s => s.order.same (.int i)) =
      sources.filter fun s => s.rank?.getD 0 == i :=
  List.filter_congr fun s hs => same_order_eq (h s hs) i

/-- Entries of sources in order are in order. -/
theorem pairwise_order_entries (h : ∀ s ∈ sources, ∃ i, s.order = .int i)
    (hentries : List.Forall₂ (fun s e => Entry.ofSource classify s = .ok e) (inOrder sources)
      entries) :
    entries.Pairwise fun a b => a.order.AtMost b.order := by
  have hsources : (inOrder sources).Pairwise fun a b => a.order.AtMost b.order := by
    refine (Sorting.pairwise_byRank _ sources).imp_of_mem fun ha hb hle => ?_
    obtain ⟨i, hi⟩ := h _ ((inOrder_perm sources).mem_iff.mp ha)
    obtain ⟨j, hj⟩ := h _ ((inOrder_perm sources).mem_iff.mp hb)
    rw [Source.rank?, Source.rank?, hi, hj] at hle
    exact ⟨i, j, hi, hj, hle⟩
  have horders : ((inOrder sources).map Source.order).Pairwise Value.AtMost :=
    List.pairwise_map.mpr hsources
  rw [map_entries (fun _ _ => Entry.order_ofSource) hentries] at horders
  exact List.pairwise_map.mp horders

/-- Where entries and sources are chosen alike, the entries chosen are those of the sources
chosen. -/
theorem forall₂_filter {p : Source → Bool} {q : Entry → Bool}
    (hpq : ∀ s e, Entry.ofSource classify s = .ok e → p s = q e)
    (h : List.Forall₂ (fun s e => Entry.ofSource classify s = .ok e) sources entries) :
    List.Forall₂ (fun s e => Entry.ofSource classify s = .ok e) (sources.filter p)
      (entries.filter q) := by
  refine List.rel_filter (fun s e hentry => ?_) h
  simp only [hpq s e hentry]

/-- Sources have one list of entries only. -/
theorem entries_eq {others : List Entry}
    (h : List.Forall₂ (fun s e => Entry.ofSource classify s = .ok e) sources entries)
    (hothers : List.Forall₂ (fun s e => Entry.ofSource classify s = .ok e) sources others) :
    entries = others := (ofSource_rightUnique classify).forall₂ h hothers

/-- The sources of one order are in the registry's order. -/
theorem filter_inOrder (h : ∀ s ∈ sources, ∃ i, s.order = .int i) (i : Int) :
    (inOrder sources).filter (fun s => s.order.same (.int i)) =
      sources.filter fun s => s.order.same (.int i) := by
  rw [filter_same_order h,
    filter_same_order fun s hs => h s ((inOrder_perm sources).mem_iff.mp hs)]
  exact Sorting.filter_byRank _ sources i

/-- The full report on sources with whole numbers for orders has their entries in order. -/
theorem exists_full_in_order {activeNames packages : Value} {active paths : List Value}
    (horders : ∀ s ∈ sources, ∃ i, s.order = .int i)
    (hentries : List.Forall₂ (fun s e => Entry.ofSource classify s = .ok e) sources entries)
    (hactive : activeNames.items = .ok active) (hpaths : packages.items = .ok paths) :
    ∃ listed, full classify sources activeNames packages =
        .ok { activeNames := active, packages := paths, entries := listed } ∧
      listed.Perm entries ∧ (listed.Pairwise fun a b => a.order.AtMost b.order) ∧
      ∀ i : Int, listed.filter (fun e => e.order.same (.int i)) =
        entries.filter fun e => e.order.same (.int i) := by
  obtain ⟨listed, hlisted⟩ : ∃ listed, entriesOf classify (inOrder sources) = .ok listed := by
    refine exists_entriesOf_iff.mpr fun s hs => ?_
    obtain ⟨entry, -, hentry⟩ :=
      exists_related_right hentries ((inOrder_perm sources).mem_iff.mp hs)
    exact ⟨entry, hentry⟩
  have hrelated := forall₂_entriesOf hlisted
  refine ⟨listed, full_of_sorted (sorted_eq_inOrder horders) hactive hpaths hlisted, ?_,
    pairwise_order_entries horders hrelated, fun i => ?_⟩
  · exact List.rel_perm_imp (ofSource_rightUnique classify) hrelated hentries
      (inOrder_perm sources)
  · have horder : ∀ s e, Entry.ofSource classify s = .ok e →
        s.order.same (.int i) = e.order.same (.int i) := by
      intro s e hentry
      rw [Entry.order_ofSource hentry]
    have hfiltered := forall₂_filter horder hrelated
    rw [filter_inOrder horders] at hfiltered
    exact entries_eq hfiltered (forall₂_filter horder hentries)

/-- Sources in which those of each order come alike are reported on alike. -/
theorem full_congr_of_order {others : List Source}
    (horders : ∀ s ∈ sources, ∃ i, s.order = .int i)
    (hothers : ∀ s ∈ others, ∃ i, s.order = .int i)
    (h : ∀ i : Int, sources.filter (fun s => s.order.same (.int i)) =
      others.filter fun s => s.order.same (.int i))
    (classify : Classify) (activeNames packages : Value) :
    full classify sources activeNames packages = full classify others activeNames packages := by
  have hsorted : inOrder sources = inOrder others := by
    refine Sorting.byRank_congr fun i => ?_
    rw [← filter_same_order horders, ← filter_same_order hothers, h]
  rw [full, full, sorted_eq_inOrder horders, sorted_eq_inOrder hothers, hsorted]

end Report

/-- A registry of sources with different texts for names has the sources as they came. -/
theorem Registry.sources_addAll_of_nodup {r : Registry} (hr : r.sources = [])
    {sources : List Source} (hnames : ∀ s ∈ sources, ∃ t, s.name = .text t)
    (hnodup : (sources.map Source.name).Nodup) : (r.addAll sources).sources = sources := by
  have hdiffer : NamesDiffer (r.sources ++ sources) := by
    rw [hr, List.nil_append]
    refine (List.pairwise_map.mp hnodup).imp_of_mem fun ha _ hne => ?_
    obtain ⟨t, ht⟩ := hnames _ ha
    rw [ht, Bool.eq_false_iff, ne_eq, Value.text_same_iff]
    rw [ht] at hne
    exact fun hsame => hne hsame.symm
  rw [r.sources_addAll hdiffer, hr, List.nil_append]

/-- A full report on sources with whole numbers for orders, each of which has an entry, succeeds. It
has just these entries, from the lowest order to the highest and those of one order as the sources
come. So registries of sources with different names give the same reports, by whatever rule, if the
sources of each order were registered in the same order. -/
theorem full_report_in_order :
    (∀ (classify : Classify) (sources : List Source) (entries : List Entry)
      (activeNames packages : Value) (active paths : List Value),
      (∀ s ∈ sources, ∃ i, s.order = .int i) →
      List.Forall₂ (fun s e => Entry.ofSource classify s = .ok e) sources entries →
      activeNames.items = .ok active → packages.items = .ok paths →
      ∃ listed, Report.full classify sources activeNames packages =
          .ok { activeNames := active, packages := paths, entries := listed } ∧
        listed.Perm entries ∧ (listed.Pairwise fun a b => a.order.AtMost b.order) ∧
        ∀ i : Int, listed.filter (fun e => e.order.same (.int i)) =
          entries.filter fun e => e.order.same (.int i)) ∧
    ∀ (r : Registry) (first second : List Source), r.sources = [] →
      (∀ s ∈ first, ∃ t, s.name = .text t) → (∀ s ∈ first, ∃ i, s.order = .int i) →
      (first.map Source.name).Nodup → first.Perm second →
      (∀ i : Int, first.filter (fun s => s.order.same (.int i)) =
        second.filter fun s => s.order.same (.int i)) →
      ∀ (classify : Classify) (activeNames packages : Value),
        Report.full classify (r.addAll first).sources activeNames packages =
          Report.full classify (r.addAll second).sources activeNames packages := by
  refine ⟨fun _ _ _ _ _ _ _ => Report.exists_full_in_order, ?_⟩
  intro r first second hr hnames horders hnodup hperm halike classify activeNames packages
  have hsecond : (r.addAll second).sources = second :=
    Registry.sources_addAll_of_nodup hr (fun s hs => hnames s (hperm.mem_iff.mpr hs))
      ((hperm.map Source.name).nodup_iff.mp hnodup)
  rw [Registry.sources_addAll_of_nodup hr hnames hnodup, hsecond]
  exact Report.full_congr_of_order horders (fun s hs => horders s (hperm.mem_iff.mpr hs)) halike
    classify activeNames packages

/-- Three sources, two of one order, that are registered in two ways. -/
theorem full_report_in_order_tie :
    let source (name : String) (order : Int) : Source := {
      name := .text name
      order := .int order
      convention := .dotted
      contents := .stored [] }
    let entry (name : String) (order : Int) : Entry := {
      name := .text name
      order := .int order
      convention := .dotted
      properties := [] }
    let classify : Classify := fun _ => .ok .plain
    let first : List Source := [source "a" 2, source "b" (-1), source "c" 2]
    let second : List Source := [source "a" 2, source "c" 2, source "b" (-1)]
    (∃ listed, Report.full classify first (.tuple []) (.tuple []) =
        .ok { activeNames := [], packages := [], entries := listed } ∧
      (listed.Pairwise fun a b => a.order.AtMost b.order) ∧
      listed.filter (fun e => e.order.same (.int 2)) = [entry "a" 2, entry "c" 2]) ∧
    Report.full classify (Registry.addAll {} first).sources (.tuple []) (.tuple []) =
      Report.full classify (Registry.addAll {} second).sources (.tuple []) (.tuple []) := by
  intro source entry classify first second
  have horders : ∀ s ∈ first, ∃ i, s.order = .int i := by simp [first, source]
  have hnames : ∀ s ∈ first, ∃ t, s.name = .text t := by simp [first, source]
  have hentries : List.Forall₂ (fun s e => Entry.ofSource classify s = .ok e) first
      [entry "a" 2, entry "b" (-1), entry "c" 2] := .cons rfl (.cons rfl (.cons rfl .nil))
  constructor
  · obtain ⟨listed, hfull, -, hordered, halike⟩ := full_report_in_order.1 classify first _
      (.tuple []) (.tuple []) [] [] horders hentries rfl rfl
    exact ⟨listed, hfull, hordered, (halike 2).trans (by simp [entry, Value.int_same_iff])⟩
  · have hperm : first.Perm second := (List.Perm.swap _ _ _).cons _
    have halike : ∀ i : Int, first.filter (fun s => s.order.same (.int i)) =
        second.filter fun s => s.order.same (.int i) := by
      intro i
      simp only [first, second, source, List.filter_cons, List.filter_nil, Value.int_same_iff]
      by_cases hi : i = 2
      · simp [hi]
      · simp [Ne.symm hi]
    exact full_report_in_order.2 {} first second rfl hnames horders (by simp [first, source])
      hperm halike classify (.tuple []) (.tuple [])

end MaskedReport
