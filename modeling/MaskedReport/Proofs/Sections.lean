import MaskedReport.Proofs.Leaves

/-!
# Sections below a parent

A mapping that is flattened below a parent has the full keys of its leaves with the parent before
them, so it makes no difference what the parent is called. At the top an empty key does not count as
a parent: the leaves below it lose their first dots. `Flatten.section_renamed_iff` says when a
mapping comes below a parent to what it comes to at the top, with the parent put before each key,
and `Flatten.not_forall_section_renamed` that it does not always.
-/

set_option autoImplicit false

namespace MaskedReport

/-- Without repetitions a list is part of what it was, in order. -/
theorem eraseDups_sublist (names : List Text) : names.eraseDups.Sublist names := by
  match names with
  | [] => exact List.Sublist.slnil
  | name :: rest =>
    rw [List.eraseDups_cons]
    exact ((eraseDups_sublist _).trans List.filter_sublist).cons_cons name
termination_by names.length
decreasing_by
  exact Nat.lt_succ_of_le (List.length_filter_le _ rest)

/-- Names that come once have no repetitions to leave out. -/
theorem eraseDups_of_nodup {names : List Text} (h : names.Nodup) : names.eraseDups = names := by
  induction names with
  | nil => rfl
  | cons name rest ih =>
    obtain ⟨hname, hrest⟩ := List.nodup_cons.mp h
    have hkept : rest.filter (fun other => !other == name) = rest := by
      rw [List.filter_eq_self]
      intro other hother
      have hne : other ≠ name := ne_of_mem_of_not_mem hother hname
      simpa using hne
    rw [List.eraseDups_cons, hkept, ih hrest]

/-! ## Putting a parent before keys -/

/-- A key below a parent: a text gets the parent and a dot before it. -/
def Value.under (parent : Text) : Value → Value
  | .text s => .text (parent ++ "." ++ s)
  | key => key

/-- Keys under a parent differ as the keys do. -/
theorem Value.under_injective (parent : Text) : Function.Injective (under parent) := by
  intro key other h
  cases key with
  | text s =>
    cases other with
    | text t =>
      have htexts : parent ++ "." ++ s = parent ++ "." ++ t := Value.text.inj h
      rw [(Text.append_right_inj _).mp htexts]
    | _ => cases h
  | _ =>
    cases other with
    | text t => cases h
    | _ => exact h

/-- A key under a parent is the same as a name there if and only if it is the same as the name. -/
theorem Value.under_same_text (parent name : Text) (key : Value) :
    (key.under parent).same (.text (parent ++ "." ++ name)) = key.same (.text name) := by
  rw [Bool.eq_iff_iff, same_text_iff, same_text_iff]
  exact (under_injective parent).eq_iff (b := .text name)

namespace Entries

/-- Entries with a parent and a dot before each text. -/
def under (parent : Text) (es : Entries) : Entries := es.map fun e => (e.1.under parent, e.2)

/-- Entries are told from what they are below a parent. -/
theorem under_injective (parent : Text) : Function.Injective (under parent) := by
  apply List.map_injective_iff.mpr
  intro e d h
  obtain ⟨hkey, hvalue⟩ := Prod.ext_iff.mp h
  exact Prod.ext (Value.under_injective parent hkey) hvalue

/-- A text can be given its value before the parent is put before it or after. -/
theorem under_assign (parent name : Text) (value : Value) (es : Entries) :
    (es.assign (.text name) value).under parent =
      (es.under parent).assign (.text (parent ++ "." ++ name)) value := by
  induction es with
  | nil => rfl
  | cons e rest ih =>
    obtain ⟨key, other⟩ := e
    have hsame := Value.under_same_text parent name key
    show under parent (assign (.text name) value ((key, other) :: rest)) =
      assign (.text (parent ++ "." ++ name)) value ((key.under parent, other) :: under parent rest)
    rw [assign, assign, hsame]
    by_cases hkey : key.same (.text name)
    · rw [if_pos hkey, if_pos hkey]
      rfl
    · rw [if_neg hkey, if_neg hkey, ← ih]
      rfl

/-- Pairs can be merged before a parent is put before their texts or after. -/
theorem under_ofPairs {pairs : Entries} (htexts : ∀ key ∈ pairs.keys, ∃ t, key = .text t)
    (parent : Text) : (ofPairs pairs).under parent = ofPairs (pairs.under parent) := by
  induction pairs using List.reverseRecOn with
  | nil => rfl
  | append_singleton front e ih =>
    obtain ⟨key, value⟩ := e
    simp only [keys, List.map_append, List.mem_append] at htexts
    obtain ⟨t, rfl⟩ := htexts key (Or.inr List.mem_cons_self)
    have happend : under parent (front ++ [(.text t, value)]) =
        under parent front ++ [(.text (parent ++ "." ++ t), value)] := List.map_append
    rw [ofPairs_concat, under_assign, ih fun k hk => htexts k (Or.inl hk), happend, ofPairs_concat]

end Entries

namespace Flatten

/-! ## Full keys below a parent -/

/-- The entries that come of giving each leaf its full key and its value in one pass. -/
def fullKeyed (found : List Leaf) : Entries := Entries.ofPairs (found.map Leaf.fullEntry)

/-- Whether no mapping with entries stands under an empty key at the top. -/
def ParentsNamed (data : Entries) : Prop := ∀ e ∈ data, e.1.toText = .ok "" → IsLeaf e.2

variable {data : Entries} {found : List Leaf} {parent : Text}

/-- Below a parent leaves come under their full keys with the parent before them. -/
theorem onePass_of_ne_empty (hparent : parent ≠ "") (found : List Leaf) :
    onePass parent found = (fullKeyed found).under parent := by
  have htexts : ∀ key ∈ Entries.keys (found.map Leaf.fullEntry), ∃ t, key = .text t := by
    intro key hkey
    obtain ⟨e, he, rfl⟩ := List.mem_map.mp hkey
    obtain ⟨l, -, rfl⟩ := List.mem_map.mp he
    exact ⟨l.dotted, rfl⟩
  rw [fullKeyed, Entries.under_ofPairs htexts, onePass, Entries.under, List.map_map]
  congr 1
  refine List.map_congr_left fun l _ => ?_
  rw [Leaf.entry, Leaf.name_of_ne_empty hparent]
  rfl

/-- No mapping with entries stands under an empty key iff the way to no leaf begins with one. -/
theorem parentsNamed_iff (h : leaves data = .ok found) :
    ParentsNamed data ↔ ∀ l ∈ found, l.parents.head? ≠ some "" := by
  constructor
  · intro hnamed l hl
    obtain ⟨⟨key, value⟩, he, hl⟩ := (mem_leaves_iff h).mp hl
    obtain ⟨text, htext, ⟨-, hhere⟩ | ⟨inner, inside, hne, rfl, -, hhere⟩⟩ :=
      leavesAt_ok (leavesAt_of_mem h he)
    · rw [hhere, List.mem_singleton] at hl
      subst hl
      nofun
    · rw [hhere] at hl
      obtain ⟨l, -, rfl⟩ := List.mem_map.mp hl
      intro hempty
      obtain rfl : text = "" := Option.some.inj hempty
      exact not_isLeaf_map hne (hnamed _ he htext)
  · intro hparents
    rintro ⟨key, value⟩ he hkey
    obtain ⟨text, htext, ⟨hv, -⟩ | ⟨inner, inside, hne, rfl, hinside, hhere⟩⟩ :=
      leavesAt_ok (leavesAt_of_mem h he)
    · exact hv
    · obtain ⟨l, hl⟩ := exists_mem_leaves inner hinside hne
      rw [hkey, Except.ok.injEq] at htext
      subst htext
      have hfound : l.within "" ∈ found := by
        refine (mem_leaves_iff h).mpr ⟨_, he, ?_⟩
        rw [hhere]
        exact List.mem_map_of_mem hl
      exact absurd rfl (hparents _ hfound)

/-- Where all full keys differ, merging under other keys gives the same only if these are the full
ones. -/
theorem dotted_eq_name (hnodup : (found.map Leaf.dotted).Nodup)
    (heq : fullKeyed found = onePass "" found) : ∀ l ∈ found, l.name "" = l.dotted := by
  have hkeys : (found.map Leaf.dotted).eraseDups = (found.map (Leaf.name "")).eraseDups := by
    apply List.map_injective_iff.mpr fun _ _ => Value.text.inj
    have hfull := Entries.keys_ofPairs_map Leaf.dotted Leaf.value found
    have hshort := Entries.keys_ofPairs_map (Leaf.name "") Leaf.value found
    rw [← hfull, ← hshort]
    exact congrArg Entries.keys heq
  rw [eraseDups_of_nodup hnodup] at hkeys
  have hlength : (found.map (Leaf.name "")).eraseDups.length =
      (found.map (Leaf.name "")).length := by
    rw [← hkeys, List.length_map, List.length_map]
  have hnames := (eraseDups_sublist _).eq_of_length hlength
  exact List.map_inj_left.mp (hnames.symm.trans hkeys.symm)

/-- A mapping under a key is flattened as below the key. -/
theorem flatten_nested (hne : data ≠ []) (parent : Text) :
    flatten "" [(.text parent, .map data)] = flatten parent data := by
  have hleaves : leaves [(.text parent, .map data)] =
      (leaves data).map fun found => found.map (Leaf.within parent) := by
    rw [leaves, leavesAt_map hne]
    cases leaves data with
    | error f => rfl
    | ok found => exact congrArg Except.ok (List.append_nil _)
  rw [flatten_eq, flatten_eq, hleaves]
  cases leaves data with
  | error f => rfl
  | ok found =>
    show Except.ok (onePass "" (found.map (Leaf.within parent))) = .ok (onePass parent found)
    rw [onePass, map_entry_within]
    rfl

/-- What a mapping comes to below a parent. It has the full keys of its leaves with the parent
before them, whatever the parent is called. These are the keys of the leaves at the top with the
parent put before them exactly where no mapping with entries stands under an empty key at the top,
and the whole is what the mapping comes to at the top with the parent put before each key exactly
where the leaves merge under their full keys as at the top: always where no mapping with entries
stands under an empty key, and where no two leaves have the same full key only then. A mapping that
is moved under a key is flattened as below the key. -/
theorem section_renamed_iff (hdata : Writable data) :
    ∃ found flat, leaves data = .ok found ∧ flatten "" data = .ok flat ∧
      ∀ parent : Text, parent ≠ "" →
        flatten parent data = .ok ((fullKeyed found).under parent) ∧
        ((∀ l ∈ found, l.name parent = parent ++ "." ++ l.name "") ↔ ParentsNamed data) ∧
        (flatten parent data = .ok (flat.under parent) ↔ fullKeyed found = flat) ∧
        (ParentsNamed data → flatten parent data = .ok (flat.under parent)) ∧
        ((found.map Leaf.dotted).Nodup → flatten parent data = .ok (flat.under parent) →
          ParentsNamed data) ∧
        (data ≠ [] → flatten "" [(.text parent, .map data)] = flatten parent data) := by
  obtain ⟨found, hfound⟩ := (exists_leaves_iff data).mpr hdata
  have hflatten : ∀ path, flatten path data = .ok (onePass path found) := by
    intro path
    rw [flatten_eq, hfound]
    rfl
  refine ⟨found, onePass "" found, hfound, hflatten "", fun parent hparent => ?_⟩
  have hbelow : flatten parent data = .ok ((fullKeyed found).under parent) := by
    rw [hflatten, onePass_of_ne_empty hparent]
  have hsame : flatten parent data = .ok ((onePass "" found).under parent) ↔
      fullKeyed found = onePass "" found := by
    rw [hbelow, Except.ok.injEq]
    exact (Entries.under_injective parent).eq_iff
  have hleaves : (∀ l ∈ found, l.name parent = parent ++ "." ++ l.name "") ↔ ParentsNamed data := by
    rw [parentsNamed_iff hfound]
    refine forall₂_congr fun l _ => ?_
    rw [← l.name_eq_dotted_iff, Leaf.name_of_ne_empty hparent, Text.append_right_inj, eq_comm]
  refine ⟨hbelow, hleaves, hsame, ?_, ?_, fun hne => flatten_nested hne parent⟩
  · intro hnamed
    rw [hsame, onePass, fullKeyed]
    congr 1
    refine List.map_congr_left fun l hl => ?_
    rw [Leaf.entry, l.name_eq_dotted_iff.mpr ((parentsNamed_iff hfound).mp hnamed l hl)]
    rfl
  · intro hnodup hrenamed
    rw [parentsNamed_iff hfound]
    intro l hl
    exact l.name_eq_dotted_iff.mp (dotted_eq_name hnodup (hsame.mp hrenamed) l hl)

/-- An empty key is kept below a parent, and at the top where it stands for a leaf. -/
theorem section_renamed_iff_port :
    let data : Entries :=
      [(.text "", .int 1), (.text "server", .map [(.text "", .map [(.text "port", .int 80)])])]
    ∃ flat, flatten "" data = .ok flat ∧ flatten "app" data = .ok (flat.under "app") ∧
      flatten "" [(.text "app", .map data)] = .ok (flat.under "app") ∧
      flat = [(.text "", .int 1), (.text "server..port", .int 80)] := by
  intro data
  have hdata : Writable data := by
    refine .leaf rfl trivial (.within rfl (by simp) ?_ .nil)
    exact .within rfl (by simp) (.leaf rfl trivial .nil) .nil
  have hnamed : ParentsNamed data := by
    rintro e he hkey
    rcases List.mem_pair.mp he with rfl | rfl
    · trivial
    · simp [Value.toText] at hkey
  obtain ⟨found, flat, -, hflat, hbelow⟩ := section_renamed_iff hdata
  obtain ⟨-, -, -, hrenamed, -, hnested⟩ := hbelow "app" (by decide)
  have happ := hrenamed hnamed
  refine ⟨flat, hflat, happ, (hnested (by simp [data])).trans happ, ?_⟩
  have hshown : flatten "" data = .ok [(.text "", .int 1), (.text "server..port", .int 80)] := by
    simp +decide [data, flatten, entries, entry, below, Value.toText, bind, Except.bind, pure,
      Except.pure, Entries.ofPairs, Entries.update, Entries.assign, Value.same]
  exact Except.ok.inj (hflat.symm.trans hshown)

/-- Below a parent the key of a leaf is not always that at the top with the parent before it: at the
top an empty key before it is left out. -/
theorem not_forall_section_renamed :
    ¬ ∀ (data : Entries) (parent : Text), Keyed (fun _ => True) data → parent ≠ "" →
      flatten parent data = (flatten "" data).map (Entries.under parent) := by
  intro h
  let data : Entries := [(.text "", .map [(.text "a", .int 1)])]
  have hdata : Keyed (fun _ => True) data :=
    .within trivial List.not_mem_nil (by simp)
      (.leaf trivial List.not_mem_nil trivial .nil) .nil
  have htop : flatten "" data = .ok [(.text "a", .int 1)] := rfl
  have hbelow : flatten "p" data = .ok [(.text "p..a", .int 1)] := rfl
  have hrenamed := h data "p" hdata (by decide)
  rw [htop, hbelow] at hrenamed
  simp only [Except.map, Entries.under, Value.under, List.map_cons, List.map_nil, Except.ok.injEq,
    List.cons.injEq, Prod.mk.injEq, Value.text.injEq, and_true] at hrenamed
  exact absurd hrenamed (by decide)

end Flatten

end MaskedReport
