import Mathlib.Data.List.Pairwise
import MaskedReport.Proofs.SameLeaves

/-!
# Rebuilding nested mappings

Where the keys of a nested mapping are texts that are not empty and have no dots, a flattened key
falls apart into the keys that led to its leaf. No two leaves come under one key, no leaf stands
where another key leads through, and putting each value where its components lead gives the mapping
back with the order at each level: `Flatten.flatten_reversible`.
-/

set_option autoImplicit false

namespace MaskedReport.Flatten

/-! ## Putting values where keys lead -/

/-- The mapping under a key, which has no entries where there is none. -/
def mappingAt (name : Text) (es : Entries) : Entries :=
  match es.get? (.text name) with
  | some (.map inner) => inner
  | _ => []

/-- Puts a value where keys lead. A mapping on the way that is not there is made. -/
def insertAt : List Text → Value → Entries → Entries
  | [], _, es => es
  | [name], value, es => es.assign (.text name) value
  | name :: next :: rest, value, es =>
    es.assign (.text name) (.map (insertAt (next :: rest) value (mappingAt name es)))

/-- The components of a key: what stands between its dots. -/
def components (name : Text) : List Text := (name.toList.splitOn (.char '.')).map Text.ofList

/-- Rebuilds a nested mapping from entries one after the other: the value of each text goes where
its components lead. -/
def rebuild (flat : Entries) : Entries :=
  flat.foldl (fun es e =>
    match e.1 with
    | .text name => insertAt (components name) e.2 es
    | _ => es) []

/-! ## Components -/

/-- Whether a text can be a component: it is not empty and has no dot. -/
def IsComponent (name : Text) : Prop := name ≠ "" ∧ .char '.' ∉ name.toList

namespace Leaf

/-- A leaf has keys. -/
theorem keys_ne_nil (l : Leaf) : l.keys ≠ [] := by simp [keys]

/-- The components of a full key are the keys that lead to the leaf. -/
theorem components_dotted {l : Leaf} (h : ∀ name ∈ l.keys, IsComponent name) :
    components l.dotted = l.keys := by
  have hpieces : ∀ piece ∈ l.keys.map Text.toList, .char '.' ∉ piece := by
    rintro _ hpiece
    obtain ⟨name, hname, rfl⟩ := List.mem_map.mp hpiece
    exact (h name hname).2
  have hdot : (Text.ofString ".").toList = [.char '.'] := rfl
  rw [components, dotted, Text.toList_intercalate, hdot,
    List.splitOn_intercalate (Letter.char '.') hpieces (by simp [keys]), List.map_map,
    show Text.ofList ∘ Text.toList = id from rfl, List.map_id]

/-- A leaf whose keys are components has its full key for a key. -/
theorem name_eq_dotted {l : Leaf} (h : ∀ name ∈ l.keys, IsComponent name) :
    l.name "" = l.dotted := by
  rw [name_eq_dotted_iff]
  intro hempty
  exact (h "" (List.mem_append_left _ (List.mem_of_head? hempty))).1 rfl

/-- Where a full key with a dot after it is the start of another, the keys of the one leaf lead on
to the other. -/
theorem exists_keys_append {l m : Leaf} (hl : ∀ name ∈ l.keys, IsComponent name)
    (hm : ∀ name ∈ m.keys, IsComponent name)
    (h : (l.dotted ++ ".").toList <+: m.dotted.toList) :
    ∃ more, more ≠ [] ∧ m.keys = l.keys ++ more := by
  obtain ⟨back, hback⟩ := h
  have hsplit : m.dotted.toList = l.dotted.toList ++ .char '.' :: back := by
    rw [← hback]
    simp
  refine ⟨(back.splitOn (.char '.')).map Text.ofList, by simp, ?_⟩
  rw [← components_dotted hm, components, hsplit, List.splitOn_append_cons_self, List.map_append,
    ← components, components_dotted hl]

end Leaf

/-! ## Leaves of keyed mappings -/

section Keyed

variable {ok : Text → Prop} {name : Text} {v : Value} {data inner rest : Entries}
  {found : List Leaf}

/-- The leaves of entries that begin with a leaf are this leaf and those of the rest. -/
theorem leaves_leaf_ok (hv : IsLeaf v) (h : leaves ((.text name, v) :: rest) = .ok found) :
    ∃ more, leaves rest = .ok more ∧
      found = { parents := [], key := name, value := v } :: more := by
  obtain ⟨here, more, hhere, hmore, rfl⟩ := leaves_cons_ok h
  rw [leavesAt_leaf hv] at hhere
  cases hhere
  exact ⟨more, hmore, rfl⟩

/-- The leaves of entries that begin with a mapping are those in it, within its key, and those of
the rest. -/
theorem leaves_within_ok (hne : inner ≠ [])
    (h : leaves ((.text name, .map inner) :: rest) = .ok found) :
    ∃ inside more, leaves inner = .ok inside ∧ leaves rest = .ok more ∧
      found = inside.map (Leaf.within name) ++ more := by
  obtain ⟨here, more, hhere, hmore, rfl⟩ := leaves_cons_ok h
  rw [leavesAt_map hne] at hhere
  obtain ⟨text, htext, hhere⟩ := bind_eq_ok hhere
  obtain ⟨inside, hinside, hhere⟩ := bind_eq_ok hhere
  cases htext
  cases hhere
  exact ⟨inside, more, hinside, hmore, rfl⟩

/-- What holds of each leaf in its own mapping, and where it does also below a key, holds of all
leaves. -/
theorem Keyed.forall_leaves {P : Leaf → Prop}
    (hleaf : ∀ name v, ok name → IsLeaf v → P { parents := [], key := name, value := v })
    (hwithin : ∀ name l, ok name → P l → P (l.within name)) (h : Keyed ok data)
    (hfound : leaves data = .ok found) : ∀ l ∈ found, P l := by
  induction h generalizing found with
  | nil =>
    cases hfound
    nofun
  | leaf hname _ hv _ ih =>
    obtain ⟨more, hmore, rfl⟩ := leaves_leaf_ok hv hfound
    exact List.forall_mem_cons.mpr ⟨hleaf _ _ hname hv, ih hmore⟩
  | within hname _ hne _ _ ihinner ih =>
    obtain ⟨inside, more, hinside, hmore, rfl⟩ := leaves_within_ok hne hfound
    intro l hl
    rcases List.mem_append.mp hl with hl | hl
    · obtain ⟨m, hm, rfl⟩ := List.mem_map.mp hl
      exact hwithin _ m hname (ihinner hinside m hm)
    · exact ih hmore l hl

/-- What holds of the keys at each level holds of those that lead to a leaf. -/
theorem Keyed.forall_keys (h : Keyed ok data) (hfound : leaves data = .ok found) :
    ∀ l ∈ found, ∀ name ∈ l.keys, ok name := by
  refine h.forall_leaves ?_ ?_ hfound
  · intro name v hname _
    simpa [Leaf.keys] using hname
  · intro name l hname hl
    exact List.forall_mem_cons.mpr ⟨hname, hl⟩

/-- The values of the leaves of keyed data are leaves. -/
theorem Keyed.isLeaf_value (h : Keyed ok data) (hfound : leaves data = .ok found) :
    ∀ l ∈ found, IsLeaf l.value :=
  h.forall_leaves (fun _ _ _ hv => hv) (fun _ _ _ hl => hl) hfound

/-- The first key on the way to a leaf is one of the mapping. -/
theorem Keyed.head_keys (h : Keyed ok data) (hfound : leaves data = .ok found) :
    ∀ l ∈ found, ∃ name, l.keys.head? = some name ∧ .text name ∈ data.keys := by
  intro l hl
  obtain ⟨⟨key, value⟩, he, hl⟩ := (mem_leaves_iff hfound).mp hl
  obtain ⟨name, rfl⟩ := h.exists_text he
  exact ⟨name, head_leavesAt (leavesAt_of_mem hfound he) l hl, List.mem_map_of_mem he⟩

/-- Whether the keys of neither leaf lead on to the other. -/
def Apart (l m : Leaf) : Prop := ¬ l.keys <+: m.keys ∧ ¬ m.keys <+: l.keys

/-- Being apart is symmetric. -/
instance : Std.Symm Apart where
  symm _ _ h := ⟨h.2, h.1⟩

/-- Leaves whose first keys differ are apart. -/
theorem apart_of_head {l m : Leaf} {other : Text} (hl : l.keys.head? = some name)
    (hm : m.keys.head? = some other) (hne : name ≠ other) : Apart l m := by
  obtain ⟨after, hafter⟩ := List.head?_eq_some_iff.mp hl
  obtain ⟨behind, hbehind⟩ := List.head?_eq_some_iff.mp hm
  rw [Apart, hafter, hbehind, List.cons_prefix_cons, List.cons_prefix_cons]
  exact ⟨fun h => hne h.1, fun h => hne h.1.symm⟩

/-- Leaves within one key are apart if and only if they are. -/
theorem apart_within_iff {l m : Leaf} : Apart (l.within name) (m.within name) ↔ Apart l m := by
  show ¬ name :: l.keys <+: name :: m.keys ∧ ¬ name :: m.keys <+: name :: l.keys ↔ Apart l m
  rw [List.prefix_cons_inj, List.prefix_cons_inj]
  rfl

/-- The keys of no leaf lead on to another. -/
theorem Keyed.pairwise_apart (h : Keyed ok data) (hfound : leaves data = .ok found) :
    found.Pairwise Apart := by
  induction h generalizing found with
  | nil =>
    cases hfound
    exact List.Pairwise.nil
  | @leaf name v rest _ hnew hv hrest ih =>
    obtain ⟨more, hmore, rfl⟩ := leaves_leaf_ok hv hfound
    refine List.Pairwise.cons ?_ (ih hmore)
    intro m hm
    obtain ⟨other, hhead, hmem⟩ := hrest.head_keys hmore m hm
    refine apart_of_head rfl hhead ?_
    rintro rfl
    exact hnew hmem
  | @within name inner rest _ hnew hne _ hrest ihinner ih =>
    obtain ⟨inside, more, hinside, hmore, rfl⟩ := leaves_within_ok hne hfound
    refine List.pairwise_append.mpr ⟨?_, ih hmore, ?_⟩
    · refine List.pairwise_map.mpr ((ihinner hinside).imp ?_)
      exact apart_within_iff.mpr
    · intro l hl m hm
      obtain ⟨k, -, rfl⟩ := List.mem_map.mp hl
      obtain ⟨other, hhead, hmem⟩ := hrest.head_keys hmore m hm
      refine apart_of_head rfl hhead ?_
      rintro rfl
      exact hnew hmem

end Keyed

/-! ## Putting leaves back -/

/-- Puts the value of a leaf where its keys lead. -/
def putLeaf (es : Entries) (l : Leaf) : Entries := insertAt l.keys l.value es

section Put

variable {name : Text} {es : Entries}

/-- A leaf within a key is put into the mapping at that key. -/
theorem putLeaf_within (name : Text) (l : Leaf) (es : Entries) :
    putLeaf es (l.within name) =
      es.assign (.text name) (.map (putLeaf (mappingAt name es) l)) := by
  have hkeys : (l.within name).keys = name :: l.keys := rfl
  obtain ⟨next, rest, hnext⟩ := List.exists_cons_of_ne_nil l.keys_ne_nil
  rw [putLeaf, putLeaf, hkeys, hnext]
  rfl

/-- No mapping is at a key that is not there. -/
theorem mappingAt_of_notMem (hname : .text name ∉ es.keys) : mappingAt name es = [] := by
  have hnone : es.get? (.text name) = none := by
    rw [← Option.not_isSome_iff_eq_none]
    exact fun hsome => hname ((Entries.isSome_get?_iff es name).mp hsome)
  rw [mappingAt, hnone]

/-- The mapping at a new last key is the one that stands there. -/
theorem mappingAt_concat (hname : .text name ∉ es.keys) (inner : Entries) :
    mappingAt name (es ++ [(.text name, .map inner)]) = inner := by
  have hthere : Entries.get? (.text name) (es ++ [(.text name, .map inner)]) =
      some (.map inner) := by
    rw [← Entries.assign_of_new hname, Entries.get?_assign,
      if_pos ((Value.same_text_iff _ name).mpr rfl)]
  rw [mappingAt, hthere]

/-- Assigning to a new last key replaces its value. -/
theorem assign_concat (hname : .text name ∉ es.keys) (v w : Value) :
    Entries.assign (.text name) w (es ++ [(.text name, v)]) = es ++ [(.text name, w)] := by
  rw [← Entries.assign_of_new hname, Entries.assign_assign, Entries.assign_of_new hname]

/-- Leaves under a key go into the mapping of the key. -/
theorem foldl_putLeaf_within (hname : .text name ∉ es.keys) (inside : List Leaf) (inner : Entries) :
    (inside.map (Leaf.within name)).foldl putLeaf (es ++ [(.text name, .map inner)]) =
      es ++ [(.text name, .map (inside.foldl putLeaf inner))] := by
  induction inside generalizing inner with
  | nil => rfl
  | cons l inside ih =>
    rw [List.map_cons, List.foldl_cons, List.foldl_cons, putLeaf_within, mappingAt_concat hname,
      assign_concat hname, ih]

/-- Leaves under a key that is not there yet come to a mapping at the end. -/
theorem foldl_putLeaf_new (hname : .text name ∉ es.keys) {inside : List Leaf} (hne : inside ≠ []) :
    (inside.map (Leaf.within name)).foldl putLeaf es =
      es ++ [(.text name, .map (inside.foldl putLeaf []))] := by
  cases inside with
  | nil => exact absurd rfl hne
  | cons l inside =>
    rw [List.map_cons, List.foldl_cons, putLeaf_within, mappingAt_of_notMem hname,
      Entries.assign_of_new hname, foldl_putLeaf_within hname]
    rfl

/-- The keys that follow an entry are new also where the entry has been put. -/
theorem notMem_keys_concat {rest : Entries} (hfirst : .text name ∉ rest.keys)
    (hnew : ∀ other, .text other ∈ .text name :: rest.keys → .text other ∉ es.keys) (v : Value)
    (other : Text) (hother : .text other ∈ rest.keys) :
    .text other ∉ Entries.keys (es ++ [(.text name, v)]) := by
  rw [Entries.keys, List.map_append, List.mem_append]
  rintro (hmem | hmem)
  · exact hnew other (List.mem_cons_of_mem _ hother) hmem
  · rw [List.mem_singleton.mp hmem] at hother
    exact hfirst hother

/-- The leaves of a mapping with other keys come to the mapping at the end. -/
theorem Keyed.foldl_putLeaf {ok : Text → Prop} {data : Entries} {found : List Leaf}
    (h : Keyed ok data) (hfound : leaves data = .ok found)
    (hnew : ∀ name, .text name ∈ data.keys → .text name ∉ es.keys) :
    found.foldl putLeaf es = es ++ data := by
  -- entries that are put stay before those that follow, in mappings on the way from `[]` on
  induction h generalizing es found with
  | nil =>
    cases hfound
    exact (List.append_nil es).symm
  | @leaf name v rest _ hfirst hv _ ih =>
    obtain ⟨more, hmore, rfl⟩ := leaves_leaf_ok hv hfound
    have hname := hnew name List.mem_cons_self
    have hput : putLeaf es { parents := [], key := name, value := v } =
        es.assign (.text name) v := rfl
    rw [List.foldl_cons, hput, Entries.assign_of_new hname,
      ih hmore (notMem_keys_concat hfirst hnew v)]
    exact List.append_assoc es _ rest
  | @within name inner rest _ hfirst hne _ _ ihinner ih =>
    obtain ⟨inside, more, hinside, hmore, rfl⟩ := leaves_within_ok hne hfound
    have hname := hnew name List.mem_cons_self
    have hsome : inside ≠ [] := by
      obtain ⟨l, hl⟩ := exists_mem_leaves inner hinside hne
      exact List.ne_nil_of_mem hl
    have hback : inside.foldl putLeaf [] = inner := ihinner hinside fun _ _ => List.not_mem_nil
    rw [List.foldl_append, foldl_putLeaf_new hname hsome, hback,
      ih hmore (notMem_keys_concat hfirst hnew (.map inner))]
    exact List.append_assoc es _ rest

end Put

/-- Entries under the full keys of leaves are rebuilt as the leaves are put back. -/
theorem rebuild_eq_foldl {found : List Leaf} (h : ∀ l ∈ found, ∀ name ∈ l.keys, IsComponent name) :
    rebuild (found.map Leaf.fullEntry) = found.foldl putLeaf [] := by
  rw [rebuild, List.foldl_map]
  refine List.foldl_ext _ _ _ fun es l hl => ?_
  show insertAt (components l.dotted) l.value es = _
  rw [Leaf.components_dotted (h l hl)]
  rfl

/-- Leaves whose keys lead to different places have different full keys. -/
theorem nodup_dotted {found : List Leaf} (h : ∀ l ∈ found, ∀ name ∈ l.keys, IsComponent name)
    (hapart : found.Pairwise Apart) : (found.map Leaf.dotted).Nodup := by
  refine List.pairwise_map.mpr (hapart.imp_of_mem fun hl hm hlm heq => hlm.1 ?_)
  rw [← Leaf.components_dotted (h _ hl), heq, Leaf.components_dotted (h _ hm)]

/-! ## Flattened mappings whose keys are components -/

section Components

variable {data others : Entries} {found more : List Leaf}

/-- A mapping whose keys are components is flattened to its leaves under their full keys. -/
theorem Keyed.flatten_eq_fullEntries (h : Keyed IsComponent data)
    (hfound : leaves data = .ok found) :
    flatten "" data = .ok (found.map Leaf.fullEntry) := by
  have hkeys := h.forall_keys hfound
  have hnames : found.map (Leaf.entry "") = found.map Leaf.fullEntry := by
    refine List.map_congr_left fun l hl => ?_
    rw [Leaf.entry, Leaf.name_eq_dotted (hkeys l hl)]
    rfl
  rw [flatten_eq, hfound]
  show Except.ok (Entries.ofPairs (found.map (Leaf.entry ""))) = _
  rw [hnames]
  exact congrArg Except.ok
    (Entries.ofPairs_map_of_nodup (nodup_dotted hkeys (h.pairwise_apart hfound)) Leaf.value)

/-- Rebuilding takes flattening back. -/
theorem Keyed.rebuild_fullEntries (h : Keyed IsComponent data) (hfound : leaves data = .ok found) :
    rebuild (found.map Leaf.fullEntry) = data := by
  rw [rebuild_eq_foldl (h.forall_keys hfound)]
  exact h.foldl_putLeaf hfound fun _ _ => List.not_mem_nil

/-- No full key with a dot after it is the start of another. -/
theorem Keyed.not_prefix_dotted (h : Keyed IsComponent data) (hfound : leaves data = .ok found)
    {l m : Leaf} (hl : l ∈ found) (hm : m ∈ found) :
    ¬ (l.dotted ++ ".").toList <+: m.dotted.toList := by
  have hkeys := h.forall_keys hfound
  intro hprefix
  obtain ⟨after, hne, hafter⟩ := Leaf.exists_keys_append (hkeys l hl) (hkeys m hm) hprefix
  have hapart : l ≠ m → Apart l m := (h.pairwise_apart hfound).forall hl hm
  by_cases heq : l = m
  · subst heq
    simp [hne] at hafter
  · exact (hapart heq).1 ⟨after, hafter.symm⟩

/-- A leaf as it stands at the top under its full key. -/
def Leaf.alone (l : Leaf) : Leaf := { parents := [], key := l.dotted, value := l.value }

/-- The leaves of entries under full names are these leaves with the full names as keys. -/
theorem leaves_fullEntries (hleaf : ∀ l ∈ found, IsLeaf l.value) :
    leaves (found.map Leaf.fullEntry) = .ok (found.map Leaf.alone) := by
  induction found with
  | nil => rfl
  | cons l rest ih =>
    obtain ⟨hl, hrest⟩ := List.forall_mem_cons.mp hleaf
    rw [List.map_cons, Leaf.fullEntry, leaves, leavesAt_leaf hl, ih hrest]
    rfl

/-- Entries under full names that come once are keyed data. -/
theorem keyed_fullEntries (hleaf : ∀ l ∈ found, IsLeaf l.value)
    (hnodup : (found.map Leaf.dotted).Nodup) :
    Keyed (fun _ => True) (found.map Leaf.fullEntry) := by
  induction found with
  | nil => exact .nil
  | cons l rest ih =>
    obtain ⟨hl, hrest⟩ := List.forall_mem_cons.mp hleaf
    obtain ⟨hnew, hnodup⟩ := List.nodup_cons.mp hnodup
    refine .leaf trivial (fun hmem => hnew ?_) hl (ih hrest hnodup)
    exact (Entries.text_mem_keys_map Leaf.dotted Leaf.value rest).mp hmem

/-- Two mappings whose keys are components are the same iff what they are flattened to is. -/
theorem Keyed.same_fullEntries_iff (hdata : Keyed IsComponent data)
    (hothers : Keyed IsComponent others) (hfound : leaves data = .ok found)
    (hmore : leaves others = .ok more) :
    (Value.map (found.map Leaf.fullEntry)).same (.map (more.map Leaf.fullEntry)) = true ↔
      (Value.map data).same (.map others) = true := by
  have hleaf := hdata.isLeaf_value hfound
  have hleaves := hothers.isLeaf_value hmore
  have hkeys := hdata.forall_keys hfound
  have hothersKeys := hothers.forall_keys hmore
  have hflat := keyed_fullEntries hleaf (nodup_dotted hkeys (hdata.pairwise_apart hfound))
  have hflats := keyed_fullEntries hleaves (nodup_dotted hothersKeys (hothers.pairwise_apart hmore))
  rw [same_iff_matched hdata hothers hfound hmore,
    same_iff_matched hflat hflats (leaves_fullEntries hleaf) (leaves_fullEntries hleaves),
    matched_map_iff]
  refine matched_congr fun l hl m hm => ?_
  -- under full keys that are equal the same components lead to both
  have hdotted : l.dotted = m.dotted ↔ l.keys = m.keys := by
    constructor
    · intro heq
      rw [← Leaf.components_dotted (hkeys l hl), heq, Leaf.components_dotted (hothersKeys m hm)]
    · exact congrArg (Text.intercalate "." ·)
  show [l.dotted] = [m.dotted] ∧ _ ↔ l.keys = m.keys ∧ _
  rw [List.singleton_inj, hdotted]
  rfl

end Components

/-- Flattening a mapping whose keys are components can be taken back. Each leaf comes under its full
key, no two under one, and none where another key leads through; and rebuilding gives the mapping
with the order at each level. So of two such mappings what they are flattened to is the same, or
equal with its order, only where the mappings are. -/
theorem flatten_reversible {data : Entries} (hdata : Keyed IsComponent data) :
    ∃ found flat, leaves data = .ok found ∧ flatten "" data = .ok flat ∧
      flat = found.map Leaf.fullEntry ∧ (found.map Leaf.dotted).Nodup ∧
      (∀ name other, .text name ∈ flat.keys → .text other ∈ flat.keys →
        ¬ (name ++ ".").toList <+: other.toList) ∧
      rebuild flat = data ∧
      ∀ others, Keyed IsComponent others → ∃ flats, flatten "" others = .ok flats ∧
        ((Value.map flat).same (.map flats) = true ↔ (Value.map data).same (.map others) = true) ∧
        (flat = flats → data = others) := by
  obtain ⟨found, hfound⟩ := (exists_leaves_iff data).mpr hdata.writable
  have hdotted : ∀ name, .text name ∈ Entries.keys (found.map Leaf.fullEntry) →
      ∃ l ∈ found, l.dotted = name := fun name hname =>
    List.mem_map.mp ((Entries.text_mem_keys_map Leaf.dotted Leaf.value found).mp hname)
  refine ⟨found, found.map Leaf.fullEntry, hfound, hdata.flatten_eq_fullEntries hfound, rfl,
    nodup_dotted (hdata.forall_keys hfound) (hdata.pairwise_apart hfound), ?_,
    hdata.rebuild_fullEntries hfound, fun others hothers => ?_⟩
  · intro name other hname hother
    obtain ⟨l, hl, rfl⟩ := hdotted name hname
    obtain ⟨m, hm, rfl⟩ := hdotted other hother
    exact hdata.not_prefix_dotted hfound hl hm
  · obtain ⟨more, hmore⟩ := (exists_leaves_iff others).mpr hothers.writable
    refine ⟨more.map Leaf.fullEntry, hothers.flatten_eq_fullEntries hmore,
      hdata.same_fullEntries_iff hothers hfound hmore, ?_⟩
    intro heq
    rw [← hdata.rebuild_fullEntries hfound, heq, hothers.rebuild_fullEntries hmore]

/-- An empty mapping is a leaf and comes back, and another order of the entries is told from the
flattened mapping. -/
theorem flatten_reversible_server :
    let data : Entries :=
      [(.text "server", .map [(.text "port", .int 80), (.text "tls", .map [])]),
        (.text "debug", .bool true)]
    let others : Entries :=
      [(.text "debug", .bool true),
        (.text "server", .map [(.text "tls", .map []), (.text "port", .int 80)])]
    ∃ flat flats, flatten "" data = .ok flat ∧ flatten "" others = .ok flats ∧
      flat.keys = [.text "server.port", .text "server.tls", .text "debug"] ∧ rebuild flat = data ∧
      (Value.map flat).same (.map flats) = true ∧ flat ≠ flats := by
  intro data others
  have hcomponent : ∀ name ∈ ["server", "port", "tls", "debug"], IsComponent name := by
    simp [IsComponent]
  have hdata : Keyed IsComponent data := by
    refine .within (hcomponent _ (by simp)) (by simp [Entries.keys]) (by simp) ?_ ?_
    · exact .leaf (hcomponent _ (by simp)) (by simp [Entries.keys]) trivial
        (.leaf (hcomponent _ (by simp)) (by simp [Entries.keys]) trivial .nil)
    · exact .leaf (hcomponent _ (by simp)) (by simp [Entries.keys]) trivial .nil
  have hothers : Keyed IsComponent others := by
    refine .leaf (hcomponent _ (by simp)) (by simp [Entries.keys]) trivial ?_
    refine .within (hcomponent _ (by simp)) (by simp [Entries.keys]) (by simp) ?_ .nil
    exact .leaf (hcomponent _ (by simp)) (by simp [Entries.keys]) trivial
      (.leaf (hcomponent _ (by simp)) (by simp [Entries.keys]) trivial .nil)
  obtain ⟨found, flat, -, hflat, -, -, -, hrebuild, hback⟩ := flatten_reversible hdata
  obtain ⟨flats, hflats, hsame, hequal⟩ := hback others hothers
  have hkeys : (flatten "" data).map Entries.keys =
      .ok [.text "server.port", .text "server.tls", .text "debug"] := by
    simp +decide [data, flatten, entries, entry, below, Value.toText, bind, Except.bind, pure,
      Except.pure, Entries.ofPairs, Entries.update, Entries.assign, Entries.keys, Value.same,
      Except.map]
  rw [hflat] at hkeys
  have hvalues : (Value.map data).same (.map others) = true := by
    simp [data, others, Value.same, Value.allEntriesAmong, Value.quantity?,
      Value.Quantity.compare?]
  exact ⟨flat, flats, hflat, hflats, Except.ok.inj hkeys, hrebuild, hsame.mpr hvalues,
    fun heq => by simpa [data, others] using hequal heq⟩

end MaskedReport.Flatten
