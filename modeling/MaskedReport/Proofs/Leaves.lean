import MaskedReport.Proofs.Nesting
import MaskedReport.Proofs.Updates

/-!
# Flattening in one pass

The leaves of a nested mapping can be visited one after the other, each with the texts of the keys
that lead to it. Flattening merges the leaves of each mapping on the way before those around it;
`Flatten.flatten_in_one_pass` says that this comes to the same as giving each leaf its place and
value in a single pass. The key of a leaf is told from its full key, which leaves out none of the
texts: `Flatten.Leaf.name_eq_dotted_iff`.
-/

set_option autoImplicit false

namespace MaskedReport

/-! ## Leaves -/

namespace Flatten

/-- A leaf of a nested mapping: the texts of the keys that lead to the mapping it stands in, the
text of its own key, and its value. -/
structure Leaf where
  parents : List Text
  key : Text
  value : Value

namespace Leaf

/-- A leaf of a mapping that stands under a key. -/
def within (text : Text) (l : Leaf) : Leaf := { l with parents := text :: l.parents }

/-- The key of a leaf in the flattened mapping below a path: the path, the texts on the way and the
leaf's own one with dots between. Of the texts before the last one those are left out that are empty
and have only empty ones before them. -/
def name (path : Text) (l : Leaf) : Text :=
  Text.intercalate "." ((path :: l.parents).dropWhile Text.isEmpty ++ [l.key])

/-- The entry of a leaf in the flattened mapping below a path. -/
def entry (path : Text) (l : Leaf) : Value × Value := (.text (l.name path), l.value)

end Leaf

mutual

/-- The leaves at or below an entry in order. -/
def leavesAt : Value → Value → Except Failure (List Leaf)
  | key, .map (first :: rest) => do
    let text ← key.toText
    return (← leaves (first :: rest)).map (Leaf.within text)
  | key, .loop true => do
    let _ ← key.toText
    throw .endlessNesting
  | key, value => do return [{ parents := [], key := ← key.toText, value }]

/-- The leaves at or below entries in order, depth first. -/
def leaves : List (Value × Value) → Except Failure (List Leaf)
  | [] => .ok []
  | (key, value) :: rest => do
    let here ← leavesAt key value
    return here ++ (← leaves rest)

end

/-- The entries that come of giving each leaf its key and value in one pass. -/
def onePass (path : Text) (found : List Leaf) : Entries :=
  Entries.ofPairs (found.map (Leaf.entry path))

/-- A leaf at the top has its key below the path for a name. -/
theorem Leaf.name_of_top (path key : Text) (value : Value) :
    Leaf.name path { parents := [], key, value } = below path key := by
  by_cases hpath : path.isEmpty <;>
    simp [name, below, hpath, Text.intercalate_cons_cons]

/-- A leaf has the key below a path that it has in its own mapping below the longer path. -/
theorem Leaf.name_within (path text : Text) (l : Leaf) :
    (l.within text).name path = l.name (below path text) := by
  by_cases hpath : path = ""
  · subst hpath
    simp [name, within, below]
  · have hpath : path.isEmpty = false := by simpa using hpath
    have hbelow : (path ++ "." ++ text).isEmpty = false := by simp [Text.isEmpty]
    simp only [name, within, below, hpath, hbelow, List.dropWhile_cons, Bool.false_eq_true,
      if_false, List.cons_append, Text.intercalate_cons_cons, Text.intercalate_cons_append]

/-- Leaves under a key have the entries that they have below the longer path. -/
theorem map_entry_within (path text : Text) (found : List Leaf) :
    (found.map (Leaf.within text)).map (Leaf.entry path) =
      found.map (Leaf.entry (below path text)) := by
  rw [List.map_map]
  refine List.map_congr_left fun l _ => ?_
  show (Value.text ((l.within text).name path), l.value) = _
  rw [Leaf.name_within]
  rfl

/-- A leaf is the one leaf at its entry. -/
theorem leavesAt_leaf {v : Value} (hv : IsLeaf v) (key : Value) :
    leavesAt key v = do return [{ parents := [], key := ← key.toText, value := v }] := by
  cases v with
  | map inner =>
    cases inner with
    | nil => rfl
    | cons e rest => exact hv.elim
  | loop ofMap =>
    cases ofMap with
    | false => rfl
    | true => exact hv.elim
  | _ => rfl

/-- The leaves of a mapping with entries are within its key. -/
theorem leavesAt_map {inner : Entries} (hinner : inner ≠ []) (key : Value) :
    leavesAt key (.map inner) = do
      let text ← key.toText
      return (← leaves inner).map (Leaf.within text) := by
  cases inner with
  | nil => exact absurd rfl hinner
  | cons e rest => rfl

/-- How leaves and flattened entries below a path belong together: finding them fails alike, and
other entries are updated by the leaves as by the flattened entries, whose keys are texts. -/
inductive Agree (path : Text) : Except Failure (List Leaf) → Except Failure Entries → Prop
  | failed (f : Failure) : Agree path (.error f) (.error f)
  | found {found : List Leaf} {pairs : Entries} (htexts : ∀ key ∈ pairs.keys, ∃ t, key = .text t)
      (hupdate : ∀ es : Entries, es.update pairs = es.update (found.map (Leaf.entry path))) :
      Agree path (.ok found) (.ok pairs)

/-- Leaves of entries one after the other belong to what is flattened one after the other. -/
theorem Agree.append {path : Text} {here rest : Except Failure (List Leaf)}
    {pairs others : Except Failure Entries} (hhere : Agree path here pairs)
    (hrest : Agree path rest others) :
    Agree path (do return (← here) ++ (← rest)) (do return (← pairs) ++ (← others)) := by
  cases hhere with
  | failed f => exact .failed f
  | @found found pairs htexts hupdate =>
    cases hrest with
    | failed f => exact .failed f
    | @found more others hmore hupdates =>
      refine .found ?_ fun es => ?_
      · intro key hkey
        rw [Entries.keys, List.map_append, List.mem_append] at hkey
        exact hkey.elim (htexts key) (hmore key)
      · rw [List.map_append, Entries.update_append, Entries.update_append, hupdate, hupdates]

/-- Leaves of a mapping under a key belong to what the mapping is flattened to. -/
theorem Agree.within {path text : Text} {found : Except Failure (List Leaf)}
    {pairs : Except Failure Entries} (h : Agree (below path text) found pairs) :
    Agree path (do return (← found).map (Leaf.within text))
      (do return Entries.ofPairs (← pairs)) := by
  cases h with
  | failed f => exact .failed f
  | @found found pairs htexts hupdate =>
    refine .found (Entries.forall_text_ofPairs htexts) fun es => ?_
    rw [Entries.update_ofPairs htexts, hupdate, map_entry_within]

/-- The leaves of entries belong to what the entries are flattened to. -/
theorem agree_entries : (data : Entries) → (path : Text) →
    Agree path (leaves data) (entries path data)
  | [], path => .found nofun fun _ => rfl
  | (key, value) :: rest, path => by
    have hrest := agree_entries rest path
    have hhere : Agree path (leavesAt key value) (entry path key value) := by
      rcases leaf_or_map value with hv | ⟨inner, hne, rfl⟩ | rfl
      · rw [leavesAt_leaf hv, entry_leaf hv]
        cases key.toText with
        | error f => exact .failed f
        | ok text =>
          refine .found (fun k hk => ⟨below path text, List.mem_singleton.mp hk⟩) fun es => ?_
          rw [← Leaf.name_of_top path text value]
          rfl
      · have hinner := agree_entries inner
        rw [leavesAt_map hne, entry_map hne]
        cases key.toText with
        | error f => exact .failed f
        | ok text => exact (hinner (below path text)).within
      · show Agree path (key.toText >>= _) (key.toText >>= _)
        cases key.toText with
        | error f => exact .failed f
        | ok text => exact .failed _
    rw [leaves, entries]
    exact hhere.append hrest

/-- Flattening is one pass over the leaves, and fails as finding them does. -/
theorem flatten_eq (path : Text) (data : Entries) :
    flatten path data = (leaves data).map (onePass path) := by
  have hagree := agree_entries data path
  rw [flatten]
  generalize leaves data = found at hagree
  generalize entries path data = pairs at hagree
  cases hagree with
  | failed f => rfl
  | found _ hupdate => exact congrArg Except.ok (hupdate [])

/-- The leaves are found in a mapping that is finite and whose keys have texts. -/
theorem exists_leaves_iff (data : Entries) :
    (∃ found, leaves data = .ok found) ↔ Writable data := by
  rw [← exists_flatten_iff "" data, flatten_eq]
  cases leaves data with
  | error f => simp [Except.map]
  | ok found => simp [Except.map]

/-! ## Finding leaves -/

section Found

variable {key value : Value} {data rest : Entries} {found here : List Leaf} {l : Leaf}

/-- The leaves of entries are those of the first and then those of the rest. -/
theorem leaves_cons_ok (h : leaves ((key, value) :: rest) = .ok found) :
    ∃ here more, leavesAt key value = .ok here ∧ leaves rest = .ok more ∧ found = here ++ more := by
  obtain ⟨here, hhere, h⟩ := bind_eq_ok h
  obtain ⟨more, hmore, h⟩ := bind_eq_ok h
  cases h
  exact ⟨here, more, hhere, hmore, rfl⟩

/-- What is found at an entry: itself, if it is a leaf, or the leaves of the mapping under its
key. -/
theorem leavesAt_ok (h : leavesAt key value = .ok found) :
    ∃ text, key.toText = .ok text ∧
      (IsLeaf value ∧ found = [{ parents := [], key := text, value }] ∨
        ∃ inner inside, inner ≠ [] ∧ value = .map inner ∧ leaves inner = .ok inside ∧
          found = inside.map (Leaf.within text)) := by
  rcases leaf_or_map value with hv | ⟨inner, hne, rfl⟩ | rfl
  · rw [leavesAt_leaf hv] at h
    obtain ⟨text, htext, h⟩ := bind_eq_ok h
    cases h
    exact ⟨text, htext, .inl ⟨hv, rfl⟩⟩
  · rw [leavesAt_map hne] at h
    obtain ⟨text, htext, h⟩ := bind_eq_ok h
    obtain ⟨inside, hinside, h⟩ := bind_eq_ok h
    cases h
    exact ⟨text, htext, .inr ⟨inner, inside, hne, rfl, hinside, rfl⟩⟩
  · obtain ⟨text, -, hthrow⟩ := bind_eq_ok h
    cases hthrow

/-- The leaves at an entry, or none where they are not found. -/
def leavesOf (e : Value × Value) : List Leaf := (leavesAt e.1 e.2).toOption.getD []

/-- The leaves of entries are those at one after the other. -/
theorem leaves_eq_flatMap (h : leaves data = .ok found) : found = data.flatMap leavesOf := by
  induction data generalizing found with
  | nil =>
    cases h
    rfl
  | cons e rest ih =>
    obtain ⟨here, more, hhere, hmore, rfl⟩ := leaves_cons_ok h
    rw [List.flatMap_cons, ← ih hmore, leavesOf, hhere]
    rfl

/-- Where leaves are found in entries they are found at each. -/
theorem leavesAt_of_mem (h : leaves data = .ok found) {e : Value × Value} (he : e ∈ data) :
    leavesAt e.1 e.2 = .ok (leavesOf e) := by
  induction data generalizing found with
  | nil => cases he
  | cons d rest ih =>
    obtain ⟨here, more, hhere, hmore, -⟩ := leaves_cons_ok h
    rcases List.mem_cons.mp he with rfl | he
    · rw [leavesOf, hhere]
      rfl
    · exact ih hmore he

/-- A leaf is found at one of the entries. -/
theorem mem_leaves_iff (h : leaves data = .ok found) : l ∈ found ↔ ∃ e ∈ data, l ∈ leavesOf e := by
  rw [leaves_eq_flatMap h, List.mem_flatMap]

/-- A mapping with entries is no leaf. -/
theorem not_isLeaf_map {inner : Entries} (hne : inner ≠ []) : ¬ IsLeaf (.map inner) := by
  cases inner with
  | nil => exact absurd rfl hne
  | cons e rest => exact id

/-- Entries have a leaf if there are any. -/
theorem exists_mem_leaves : (data : Entries) → {found : List Leaf} → leaves data = .ok found →
    data ≠ [] → ∃ l, l ∈ found
  | [], _, _, hne => absurd rfl hne
  | (key, value) :: rest, _, h, _ => by
    obtain ⟨here, more, hhere, -, rfl⟩ := leaves_cons_ok h
    obtain ⟨text, -, ⟨-, rfl⟩ | ⟨inner, inside, hne, rfl, hinside, rfl⟩⟩ := leavesAt_ok hhere
    · exact ⟨_, List.mem_append_left more List.mem_cons_self⟩
    · obtain ⟨l, hl⟩ := exists_mem_leaves inner hinside hne
      exact ⟨l.within text, List.mem_append_left more (List.mem_map_of_mem hl)⟩

/-- There is a leaf at each entry. -/
theorem leavesAt_ne_nil (h : leavesAt key value = .ok here) : here ≠ [] := by
  obtain ⟨text, -, ⟨-, rfl⟩ | ⟨inner, inside, hne, -, hinside, rfl⟩⟩ := leavesAt_ok h
  · exact List.cons_ne_nil _ _
  · obtain ⟨l, hl⟩ := exists_mem_leaves inner hinside hne
    exact List.ne_nil_of_mem (List.mem_map_of_mem hl)

end Found

/-! ## Mappings with texts for keys -/

/-- Whether entries are finite, and at each level have texts for keys, each of which comes once and
is as the predicate says. The keys in leaves, such as those of mappings in lists, may be any. -/
inductive Keyed (ok : Text → Prop) : Entries → Prop
  | nil : Keyed ok []
  | leaf {name : Text} {v : Value} {rest : Entries} (hname : ok name)
      (hnew : .text name ∉ rest.keys) (hv : IsLeaf v) (hrest : Keyed ok rest) :
      Keyed ok ((.text name, v) :: rest)
  | within {name : Text} {inner rest : Entries} (hname : ok name) (hnew : .text name ∉ rest.keys)
      (hne : inner ≠ []) (hinner : Keyed ok inner) (hrest : Keyed ok rest) :
      Keyed ok ((.text name, .map inner) :: rest)

namespace Keyed

variable {ok : Text → Prop} {data : Entries}

/-- Keyed data are writable. -/
theorem writable (h : Keyed ok data) : Writable data := by
  induction h with
  | nil => exact .nil
  | leaf _ _ hv _ ih => exact .leaf rfl hv ih
  | within _ _ hne _ _ ihinner ih => exact .within rfl hne ihinner ih

/-- The keys of keyed data come once. -/
theorem nodup_keys (h : Keyed ok data) : data.keys.Nodup := by
  induction h with
  | nil => exact List.nodup_nil
  | leaf _ hnew _ _ ih => exact List.nodup_cons.mpr ⟨hnew, ih⟩
  | within _ hnew _ _ _ _ ih => exact List.nodup_cons.mpr ⟨hnew, ih⟩

/-- A key of keyed data is a text. -/
theorem exists_text (h : Keyed ok data) {e : Value × Value} (he : e ∈ data) :
    ∃ name, e.1 = .text name := by
  induction h with
  | nil => cases he
  | leaf _ _ _ _ ih | within _ _ _ _ _ _ ih =>
    rcases List.mem_cons.mp he with rfl | he
    · exact ⟨_, rfl⟩
    · exact ih he

/-- What is nested in keyed data is keyed. -/
theorem keyed_of_mem (h : Keyed ok data) {key : Value} {inner : Entries}
    (hmem : (key, .map inner) ∈ data) (hne : inner ≠ []) : Keyed ok inner := by
  induction h with
  | nil => cases hmem
  | leaf _ _ hv _ ih =>
    rcases List.mem_cons.mp hmem with heq | hmem
    · obtain ⟨-, rfl⟩ := Prod.mk.inj heq
      exact absurd hv (not_isLeaf_map hne)
    · exact ih hmem
  | within _ _ _ hinner _ _ ih =>
    rcases List.mem_cons.mp hmem with heq | hmem
    · obtain ⟨-, heq⟩ := Prod.mk.inj heq
      rwa [Value.map.inj heq]
    · exact ih hmem

/-- No two entries of a keyed mapping have one key. -/
theorem eq_of_key (h : Keyed ok data) {e d : Value × Value} (he : e ∈ data) (hd : d ∈ data)
    (hkey : e.1 = d.1) : e = d :=
  List.inj_on_of_nodup_map h.nodup_keys he hd hkey

end Keyed

/-! ## Full keys -/

namespace Leaf

/-- The texts of all the keys that lead to a leaf. -/
def keys (l : Leaf) : List Text := l.parents ++ [l.key]

/-- The full key of a leaf: the texts of all keys that lead to it, with dots between. -/
def dotted (l : Leaf) : Text := Text.intercalate "." l.keys

/-- The entry of a leaf under its full key. -/
def fullEntry (l : Leaf) : Value × Value := (.text l.dotted, l.value)

/-- A leaf within a key has the key before its dotted name. -/
theorem dotted_within (text : Text) (l : Leaf) :
    (l.within text).dotted = text ++ "." ++ l.dotted := by
  have hne : l.keys ≠ [] := by simp [keys]
  exact Text.intercalate_cons_of_ne_nil _ _ hne

/-- Below a path that is not empty no text is left out. -/
theorem name_of_ne_empty {path : Text} (hpath : path ≠ "") (l : Leaf) :
    l.name path = path ++ "." ++ l.dotted := by
  have hempty : path.isEmpty = false := by simpa using hpath
  have hkept : (path :: l.parents).dropWhile Text.isEmpty = path :: l.parents := by simp [hempty]
  rw [name, hkept]
  exact dotted_within path l

/-- The key that a leaf has at the top is at the end of its full key. -/
theorem suffix_name (l : Leaf) : (l.name "").toList <:+ l.dotted.toList := by
  obtain ⟨parents, key, value⟩ := l
  induction parents with
  | nil => exact List.suffix_rfl
  | cons text parents ih =>
    let l : Leaf := { parents, key, value }
    show ((l.within text).name "").toList <:+ (l.within text).dotted.toList
    rw [name_within, dotted_within]
    have hbelow : below "" text = text := rfl
    by_cases htext : text = ""
    · subst htext
      have hdot : (Text.ofString "" ++ "." ++ l.dotted).toList =
          Letter.char '.' :: l.dotted.toList := rfl
      rw [hdot]
      exact ih.trans (List.suffix_cons (Letter.char '.') _)
    · rw [hbelow, name_of_ne_empty htext]

/-- The key of a leaf at the top is its full key unless the first key on the way is empty. -/
theorem name_eq_dotted_iff (l : Leaf) : l.name "" = l.dotted ↔ l.parents.head? ≠ some "" := by
  obtain ⟨parents, key, value⟩ := l
  cases parents with
  | nil => exact iff_of_true rfl nofun
  | cons text parents =>
    let l : Leaf := { parents, key, value }
    show (l.within text).name "" = (l.within text).dotted ↔ some text ≠ some ""
    rw [name_within, dotted_within]
    have hbelow : below "" text = text := rfl
    by_cases htext : text = ""
    · subst htext
      refine iff_of_false (fun heq => ?_) (by simp)
      have hlength := (suffix_name l).length_le
      have hdot : (Text.ofString "" ++ "." ++ l.dotted).toList.length =
          l.dotted.toList.length + 1 := by simp
      rw [hbelow] at heq
      rw [heq, hdot] at hlength
      omega
    · rw [hbelow, name_of_ne_empty htext]
      simp [htext]

end Leaf

/-- The first key on the way to a leaf at an entry is that of the entry. -/
theorem head_leavesAt {name : Text} {v : Value} {here : List Leaf}
    (h : leavesAt (.text name) v = .ok here) : ∀ l ∈ here, l.keys.head? = some name := by
  intro l hl
  obtain ⟨_, ⟨⟩, ⟨-, rfl⟩ | ⟨inner, inside, -, -, -, rfl⟩⟩ := leavesAt_ok h
  · rw [List.mem_singleton.mp hl]
    rfl
  · obtain ⟨m, -, rfl⟩ := List.mem_map.mp hl
    rfl

/-- Flattening is one pass over the leaves. It fails as finding the leaves does, which it does
exactly where the mapping is within itself or a key has no text; and the entries have the keys of
the leaves, each where it comes first, with the value of the last leaf of the key. -/
theorem flatten_in_one_pass (path : Text) (data : Entries) :
    flatten path data = (leaves data).map (onePass path) ∧
      ((∃ found, leaves data = .ok found) ↔ Writable data) ∧
      ∀ found : List Leaf,
        (onePass path found).keys = (found.map (Leaf.name path)).eraseDups.map .text ∧
        ∀ name, (onePass path found).get? (.text name) =
          (found.filter fun l => l.name path == name).getLast?.map Leaf.value := by
  refine ⟨flatten_eq path data, exists_leaves_iff data, ?_⟩
  intro found
  exact ⟨Entries.keys_ofPairs_map (Leaf.name path) Leaf.value found,
    Entries.get?_ofPairs_map (Leaf.name path) Leaf.value found⟩

/-- A key that a mapping and a path both lead to keeps the place of the first and the value of the
last. -/
example :
    flatten "" [(.text "a", .map [(.text "b", .int 1), (.text "c", .int 2)]),
      (.text "a.b", .int 3)] = .ok [(.text "a.b", .int 3), (.text "a.c", .int 2)] := by cbv

end Flatten

end MaskedReport
