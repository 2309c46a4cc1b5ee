import MaskedReport.Source.Flatten
import MaskedReport.Proofs.Noninterference

/-!
# Secrets in nested mappings

A leaf of a nested mapping comes to stand under the texts of the keys that lead to it, with dots
between. A secret word in one of these texts is in the joined one, so the leaf is masked; and since
the leaf decides nothing but the value of that key, another leaf in its place gives the same entry.
-/

set_option autoImplicit false

namespace MaskedReport

namespace Flatten

/-! ## Paths -/

/-- The key of the leaf to which keys lead from a path. -/
def leafPath (path : Text) : List Value → Except Failure Text
  | [] => .ok path
  | key :: rest => do leafPath (below path (← key.toText)) rest

/-- A name below a path is the key, after the path and a dot unless that is empty. -/
theorem toList_below (path key : Text) :
    (below path key).toList =
      if path.isEmpty then key.toList else path.toList ++ .char '.' :: key.toList := by
  unfold below
  by_cases hpath : path.isEmpty
  · rw [if_pos hpath, if_pos hpath]
  · rw [if_neg hpath, if_neg hpath]
    simp

/-- A path is at the start of what is below it. -/
theorem prefix_below (path key : Text) : path.toList <+: (below path key).toList := by
  rw [toList_below]
  by_cases hpath : path.isEmpty
  · rw [Text.isEmpty_iff] at hpath
    subst hpath
    exact List.nil_prefix
  · rw [if_neg hpath]
    exact List.prefix_append _ _

/-- A key is at the end of what it leads to. -/
theorem suffix_below (path key : Text) : key.toList <:+ (below path key).toList := by
  rw [toList_below]
  by_cases hpath : path.isEmpty
  · rw [if_pos hpath]
  · rw [if_neg hpath]
    exact (List.suffix_cons (.char '.') key.toList).trans (List.suffix_append _ _)

/-- The text of each key on the way is in the key of the leaf. -/
theorem infix_leafPath {path name : Text} {keys : List Value}
    (h : leafPath path keys = .ok name) :
    path.toList <+: name.toList ∧
      ∀ key ∈ keys, ∀ t, key.toText = .ok t → t.toList <:+: name.toList := by
  induction keys generalizing path with
  | nil =>
    cases h
    exact ⟨List.prefix_rfl, nofun⟩
  | cons key keys ih =>
    obtain ⟨text, htext, h⟩ := bind_eq_ok h
    obtain ⟨hpath, hrest⟩ := ih h
    refine ⟨(prefix_below path text).trans hpath, ?_⟩
    intro k hk t ht
    rcases List.mem_cons.mp hk with rfl | hk
    · rw [htext] at ht
      cases ht
      exact (suffix_below path text).isInfix.trans hpath.isInfix
    · exact hrest k hk t ht

/-- The key of a leaf is on one line if the path and the keys on the way are. -/
theorem newline_notMem_leafPath {path name : Text} {keys : List Value}
    (h : leafPath path keys = .ok name) (hpath : .char '\n' ∉ path.toList)
    (hkeys : ∀ key ∈ keys, ∀ t, key.toText = .ok t → .char '\n' ∉ t.toList) :
    .char '\n' ∉ name.toList := by
  induction keys generalizing path with
  | nil =>
    cases h
    exact hpath
  | cons key keys ih =>
    obtain ⟨text, htext, h⟩ := bind_eq_ok h
    have hhere := hkeys key List.mem_cons_self text htext
    refine ih h ?_ fun k hk => hkeys k (List.mem_cons_of_mem key hk)
    rw [toList_below]
    by_cases hempty : path.isEmpty
    · rwa [if_pos hempty]
    · rw [if_neg hempty]
      simp [hpath, hhere]

/-! ## Leaves -/

/-- Whether a value is a leaf: anything but a mapping with entries, such as one within itself. -/
def IsLeaf : Value → Prop
  | .map (_ :: _) => False
  | .loop true => False
  | _ => True

/-- A mapping in which keys lead to one leaf, and the mapping with another leaf in its place. -/
inductive LeafReplaced (v w : Value) : List Value → Entries → Entries → Prop
  | leaf (front back : Entries) (key : Value) :
      LeafReplaced v w [key] (front ++ (key, v) :: back) (front ++ (key, w) :: back)
  | within (front back : Entries) (key : Value) {keys : List Value} {inner others : Entries}
      (h : LeafReplaced v w keys inner others) :
      LeafReplaced v w (key :: keys) (front ++ (key, .map inner) :: back)
        (front ++ (key, .map others) :: back)

/-- Whether entries are finite, and their keys and those of the mappings in them have texts. -/
inductive Writable : Entries → Prop
  | nil : Writable []
  | leaf {key v : Value} {text : Text} {rest : Entries} (hkey : key.toText = .ok text)
      (hv : IsLeaf v) (hrest : Writable rest) : Writable ((key, v) :: rest)
  | within {key : Value} {text : Text} {inner rest : Entries} (hkey : key.toText = .ok text)
      (hne : inner ≠ []) (hinner : Writable inner) (hrest : Writable rest) :
      Writable ((key, .map inner) :: rest)

/-- Whether entries differ at most in what they give a text. -/
def AgreeBut (name : Text) (es others : Entries) : Prop :=
  List.Forall₂ (fun a b => a.1 = b.1 ∧ (a.1 = .text name ∨ a.2 = b.2)) es others

/-- A leaf stands under its own key. -/
theorem entry_leaf {v : Value} (hv : IsLeaf v) (path : Text) (key : Value) :
    entry path key v = do return [(.text (below path (← key.toText)), v)] := by
  cases v with
  | map inner =>
    cases inner with
    | nil => rfl
    | cons e rest => exact hv.elim
  | loop ofMap =>
    cases ofMap with
    | false => rfl
    | true => exact hv.elim
  | _ => rfl

/-- The leaves of a mapping with entries stand below its key. -/
theorem entry_map {inner : Entries} (hinner : inner ≠ []) (path : Text) (key : Value) :
    entry path key (.map inner) = do
      let path := below path (← key.toText)
      return Entries.ofPairs (← entries path inner) := by
  cases inner with
  | nil => exact absurd rfl hinner
  | cons e rest => rfl

/-- The leaves of entries are those of the first ones and then those of the others. -/
theorem entries_append (path : Text) (front back : Entries) :
    entries path (front ++ back) = do
      let first ← entries path front
      return first ++ (← entries path back) := by
  induction front with
  | nil =>
    show entries path back = do
      let last ← entries path back
      return [] ++ last
    simp only [List.nil_append, bind_pure]
  | cons e front ih =>
    obtain ⟨key, value⟩ := e
    simp only [List.cons_append, entries, ih, bind_assoc, pure_bind, List.append_assoc]

/-- The leaves of entries around one of them. -/
theorem entries_around {path : Text} {front back pairs : Entries} {key value : Value} :
    entries path (front ++ (key, value) :: back) = .ok pairs ↔
      ∃ first here last, entries path front = .ok first ∧ entry path key value = .ok here ∧
        entries path back = .ok last ∧ pairs = first ++ (here ++ last) := by
  rw [entries_append]
  constructor
  · intro h
    obtain ⟨first, hfirst, h⟩ := bind_eq_ok h
    obtain ⟨others, hothers, h⟩ := bind_eq_ok h
    cases h
    obtain ⟨here, hhere, hothers⟩ := bind_eq_ok hothers
    obtain ⟨last, hlast, hothers⟩ := bind_eq_ok hothers
    cases hothers
    exact ⟨first, here, last, hfirst, hhere, hlast, rfl⟩
  · rintro ⟨first, here, last, hfirst, hhere, hlast, rfl⟩
    rw [hfirst, entries, hhere, hlast]
    rfl

/-- Entries agree with themselves but for any name. -/
theorem AgreeBut.refl (name : Text) (es : Entries) : AgreeBut name es es :=
  List.forall₂_same.mpr fun _ _ => ⟨rfl, Or.inr rfl⟩

/-- Entries that agree but for one text still do when keys get values that do. -/
theorem AgreeBut.assign {name : Text} {es others : Entries} (h : AgreeBut name es others)
    {key v w : Value} (hvalues : key = .text name ∨ v = w) :
    AgreeBut name (es.assign key v) (others.assign key w) := by
  unfold AgreeBut at h ⊢
  induction h with
  | nil => exact List.Forall₂.cons ⟨rfl, hvalues⟩ List.Forall₂.nil
  | @cons a b es others hab hrest ih =>
    obtain ⟨k, x⟩ := a
    obtain ⟨k', y⟩ := b
    obtain ⟨hkey, hvalue⟩ := hab
    simp only at hkey hvalue
    subst hkey
    by_cases hsame : k.same key
    · simp only [Entries.assign, hsame, if_true]
      refine List.Forall₂.cons ⟨rfl, hvalues.imp_left ?_⟩ hrest
      rintro rfl
      exact (Value.same_text_iff k name).mp hsame
    · simp only [Entries.assign, hsame, Bool.false_eq_true, if_false]
      exact List.Forall₂.cons ⟨rfl, hvalue⟩ ih

/-- Pairs that agree but for a name give entries that do. -/
theorem AgreeBut.ofPairs {name : Text} {pairs others : Entries} (h : AgreeBut name pairs others) :
    AgreeBut name (Entries.ofPairs pairs) (Entries.ofPairs others) := by
  have hupdate : ∀ es news : Entries, AgreeBut name es news →
      AgreeBut name (es.update pairs) (news.update others) := by
    induction h with
    | nil => exact fun es news hes => hes
    | @cons a b pairs others hab _ ih =>
      intro es news hes
      obtain ⟨k, x⟩ := a
      obtain ⟨k', y⟩ := b
      obtain ⟨hkey, hvalue⟩ := hab
      simp only at hkey hvalue
      subst hkey
      exact ih (es.assign k x) (news.assign k y) (hes.assign hvalue)
  exact hupdate [] [] List.Forall₂.nil

/-- A leaf in the place of another gives the text of its path another value and nothing else. -/
theorem entries_of_leafReplaced {v w : Value} (hv : IsLeaf v) (hw : IsLeaf w) {keys : List Value}
    {data others : Entries} (h : LeafReplaced v w keys data others) {path : Text}
    {pairs : Entries} (hpairs : entries path data = .ok pairs) :
    ∃ name pairs', leafPath path keys = .ok name ∧ entries path others = .ok pairs' ∧
      AgreeBut name pairs pairs' ∧ .text name ∈ pairs.keys := by
  induction h generalizing path pairs with
  | leaf front back key =>
    obtain ⟨first, here, last, hfirst, hhere, hlast, rfl⟩ := entries_around.mp hpairs
    rw [entry_leaf hv] at hhere
    obtain ⟨text, htext, hhere⟩ := bind_eq_ok hhere
    cases hhere
    have hother : entry path key w = .ok [(.text (below path text), w)] := by
      rw [entry_leaf hw, htext]
      rfl
    refine ⟨below path text, first ++ ([(.text (below path text), w)] ++ last), ?_,
      entries_around.mpr ⟨first, _, last, hfirst, hother, hlast, rfl⟩, ?_, ?_⟩
    · rw [leafPath, htext]
      rfl
    · apply List.rel_append (AgreeBut.refl _ first)
      exact List.Forall₂.cons ⟨rfl, Or.inl rfl⟩ (AgreeBut.refl _ last)
    · simp [Entries.keys]
  | @within front back key keys inner others h ih =>
    obtain ⟨first, here, last, hfirst, hhere, hlast, rfl⟩ := entries_around.mp hpairs
    have hne : inner ≠ [] ∧ others ≠ [] := by
      cases h with
      | leaf => simp
      | within => simp
    rw [entry_map hne.1] at hhere
    obtain ⟨text, htext, hhere⟩ := bind_eq_ok hhere
    obtain ⟨inside, hinside, hhere⟩ := bind_eq_ok hhere
    cases hhere
    obtain ⟨name, inside', hname, hinside', hagree, hmem⟩ := ih hinside
    have hother : entry path key (.map others) = .ok (Entries.ofPairs inside') := by
      rw [entry_map hne.2, htext]
      simp only [bind, Except.bind, hinside']
      rfl
    refine ⟨name, first ++ (Entries.ofPairs inside' ++ last), ?_,
      entries_around.mpr ⟨first, _, last, hfirst, hother, hlast, rfl⟩, ?_, ?_⟩
    · rw [leafPath, htext]
      exact hname
    · apply List.rel_append (AgreeBut.refl _ first)
      exact List.rel_append hagree.ofPairs (AgreeBut.refl _ last)
    · have hplace := (Entries.text_mem_keys_ofPairs inside name).mpr hmem
      simp only [Entries.keys, List.map_append, List.mem_append] at hplace ⊢
      exact Or.inr (Or.inl hplace)

/-- The leaves of entries that can be written stand under texts. -/
theorem exists_entries {data : Entries} (h : Writable data) (path : Text) :
    ∃ pairs, entries path data = .ok pairs ∧ ∀ key ∈ pairs.keys, ∃ s, key = .text s := by
  induction h generalizing path with
  | nil => exact ⟨[], rfl, nofun⟩
  | @leaf key v text rest hkey hv _ ih =>
    obtain ⟨last, hlast, htexts⟩ := ih path
    refine ⟨(.text (below path text), v) :: last, ?_, ?_⟩
    · rw [entries, entry_leaf hv, hkey, hlast]
      rfl
    · rintro k (_ | ⟨_, hk⟩)
      · exact ⟨below path text, rfl⟩
      · exact htexts k hk
  | @within key text inner rest hkey hne _ _ ihinner ih =>
    obtain ⟨last, hlast, htexts⟩ := ih path
    obtain ⟨inside, hinside, hinsideTexts⟩ := ihinner (below path text)
    refine ⟨Entries.ofPairs inside ++ last, ?_, ?_⟩
    · have hhere : entry path key (.map inner) = .ok (Entries.ofPairs inside) := by
        rw [entry_map hne, hkey]
        simp only [bind, Except.bind, hinside]
        rfl
      rw [entries, hhere, hlast]
      rfl
    · intro k hk
      rw [Entries.keys, List.map_append, List.mem_append] at hk
      rcases hk with hk | hk
      · rcases Entries.mem_keys_update hk with hnone | hk
        · cases hnone
        · exact hinsideTexts k hk
      · exact htexts k hk

/-- A value is a leaf, a mapping with entries or a mapping within itself. -/
theorem leaf_or_map (v : Value) :
    IsLeaf v ∨ (∃ inner, inner ≠ [] ∧ v = .map inner) ∨ v = .loop true := by
  cases v with
  | map inner =>
    by_cases hinner : inner = []
    · subst hinner
      exact Or.inl trivial
    · exact Or.inr (Or.inl ⟨inner, hinner, rfl⟩)
  | loop ofMap =>
    cases ofMap with
    | true => exact Or.inr (Or.inr rfl)
    | false => exact Or.inl trivial
  | _ => exact Or.inl trivial

/-- Entries whose leaves are found can be written. -/
theorem writable_of_entries : (data : Entries) → {path : Text} → {pairs : Entries} →
    entries path data = .ok pairs → Writable data
  | [], _, _, _ => Writable.nil
  | (key, value) :: rest, path, _, h => by
    obtain ⟨here, hhere, h⟩ := bind_eq_ok h
    obtain ⟨last, hlast, -⟩ := bind_eq_ok h
    have hrest := writable_of_entries rest hlast
    rcases leaf_or_map value with hv | ⟨inner, hne, rfl⟩ | rfl
    · rw [entry_leaf hv] at hhere
      obtain ⟨text, htext, -⟩ := bind_eq_ok hhere
      exact Writable.leaf htext hv hrest
    · rw [entry_map hne] at hhere
      obtain ⟨text, htext, hhere⟩ := bind_eq_ok hhere
      obtain ⟨inside, hinside, -⟩ := bind_eq_ok hhere
      exact Writable.within htext hne (writable_of_entries inner hinside) hrest
    · obtain ⟨text, -, hthrow⟩ := bind_eq_ok hhere
      cases hthrow

/-- Flattening succeeds exactly on what can be written. -/
theorem exists_flatten_iff (path : Text) (data : Entries) :
    (∃ flat, flatten path data = .ok flat) ↔ Writable data := by
  constructor
  · rintro ⟨flat, hflat⟩
    obtain ⟨pairs, hpairs, -⟩ := bind_eq_ok hflat
    exact writable_of_entries data hpairs
  · intro hdata
    obtain ⟨pairs, hpairs, -⟩ := exists_entries hdata path
    exact ⟨Entries.ofPairs pairs, by rw [flatten, hpairs]; rfl⟩

/-- The keys of a flattened mapping are texts. -/
theorem text_of_mem_keys_flatten {path : Text} {data flat : Entries}
    (h : flatten path data = .ok flat) : ∀ key ∈ flat.keys, ∃ s, key = .text s := by
  obtain ⟨pairs, hpairs, hpure⟩ := bind_eq_ok h
  cases hpure
  obtain ⟨found, hfound, htexts⟩ := exists_entries (writable_of_entries data hpairs) path
  rw [hpairs] at hfound
  cases hfound
  intro key hkey
  rcases Entries.mem_keys_update hkey with hnone | hkey
  · cases hnone
  · exact htexts key hkey

/-- A flattened mapping has each key once. -/
theorem nodup_keys_flatten {path : Text} {data flat : Entries}
    (h : flatten path data = .ok flat) : flat.keys.Nodup := by
  obtain ⟨pairs, hpairs, hpure⟩ := bind_eq_ok h
  cases hpure
  obtain ⟨found, hfound, htexts⟩ := exists_entries (writable_of_entries data hpairs) path
  rw [hpairs] at hfound
  cases hfound
  exact Entries.nodup_keys_ofPairs htexts

end Flatten

/-- Under a policy texts whose values can be read have an entry. -/
theorem Entry.exists_addProperties (p : Policy)
    (readings : List (Value × Except Failure Value))
    (h : ∀ r ∈ readings, (∃ s, r.1 = .text s) ∧ ∃ v, r.2 = .ok v) (found : Entries) :
    ∃ es, addProperties p.classify readings found = .ok es := by
  induction readings generalizing found with
  | nil => exact ⟨found, rfl⟩
  | cons r rest ih =>
    obtain ⟨key, reading⟩ := r
    obtain ⟨⟨s, hs⟩, v, hv⟩ := h (key, reading) List.mem_cons_self
    simp only at hs hv
    subst hs hv
    have hrest := ih fun r hr => h r (List.mem_cons_of_mem _ hr)
    rw [addProperties, Policy.classify_text]
    by_cases hplain : (p.patterns.any fun q => q.matchesAll s) = p.allMasked
    · rw [if_pos hplain]
      exact hrest (found.assign (.text s) v)
    · rw [if_neg hplain]
      exact hrest (found.assign (.text s) maskMark)

/-- Under a policy a source over text keys has an entry. -/
theorem Entry.exists_ofSource_stored (p : Policy) (name order : Value) (convention : Convention)
    {es : Entries} (htexts : ∀ key ∈ es.keys, ∃ s, key = .text s) :
    ∃ e, ofSource p.classify { name, order, convention, contents := .stored es } = .ok e := by
  let source : Source := { name, order, convention, contents := .stored es }
  have hreadings : ∀ r ∈ source.readings, (∃ s, r.1 = .text s) ∧ ∃ v, r.2 = .ok v := by
    intro r hr
    obtain ⟨e, he, rfl⟩ := List.mem_map.mp hr
    exact ⟨htexts e.1 (List.mem_map_of_mem he), e.2, rfl⟩
  obtain ⟨properties, hproperties⟩ := exists_addProperties p source.readings hreadings []
  refine ⟨{ name, order, convention, properties }, ?_⟩
  rw [ofSource, hproperties]
  rfl

/-- Sources over entries that agree but for a text are alike if the text is masked. -/
theorem Flatten.AgreeBut.alike {classify : Classify} {key : Text} {es others : Entries}
    (h : AgreeBut key es others) (hmask : classify (.text key) = .ok .mask) (name order : Value)
    (convention : Convention) :
    Source.Alike classify { name, order, convention, contents := .stored es }
      { name, order, convention, contents := .stored others } := by
  refine ⟨rfl, rfl, rfl, ?_⟩
  show List.Forall₂ _ (es.map _) (others.map _)
  rw [List.forall₂_map_left_iff, List.forall₂_map_right_iff]
  refine h.imp ?_
  rintro a b ⟨hkey, hvalue⟩
  refine ⟨hkey, fun hplain => ?_⟩
  rcases hvalue with htext | hvalue
  · rw [htext, hmask] at hplain
    cases hplain
  · rw [hvalue]

/-- A leaf below a key that holds a secret word is masked if the keys that lead to it are each on
one line, and another leaf in its place gives the same entry. Flattening succeeds exactly on
mappings that are finite and whose keys have texts, and then making the entry does not fail. -/
theorem secret_leaf_masked {principal : Value} {batches : List (List Value)} {p : Policy}
    (hp : Policy.applyAll { principal } (.legacy :: batches.map .patterns) = .ok p)
    {data others : Entries} {keys : List Value} {v w : Value} (hv : Flatten.IsLeaf v)
    (hw : Flatten.IsLeaf w) (hleaf : Flatten.LeafReplaced v w keys data others)
    (hsecret : ∃ key ∈ keys, ∃ t, key.toText = .ok t ∧ Pattern.IsSecret t)
    (hlines : ∀ key ∈ keys, ∀ t, key.toText = .ok t → .char '\n' ∉ t.toList)
    (name order : Value) (convention : Convention) :
    ((∃ flat, Flatten.flatten "" data = .ok flat) ↔ Flatten.Writable data) ∧
    ∀ flat, Flatten.flatten "" data = .ok flat →
      ∃ path flat' e, Flatten.leafPath "" keys = .ok path ∧
        Flatten.flatten "" others = .ok flat' ∧ Flatten.AgreeBut path flat flat' ∧
        Entry.ofSource p.classify { name, order, convention, contents := .stored flat } = .ok e ∧
        Entry.ofSource p.classify { name, order, convention, contents := .stored flat' } = .ok e ∧
        e.properties.get? (.text path) = some maskMark := by
  refine ⟨Flatten.exists_flatten_iff "" data, ?_⟩
  intro flat hflat
  obtain ⟨pairs, hpairs, hpure⟩ := bind_eq_ok hflat
  cases hpure
  obtain ⟨path, pairs', hpath, hpairs', hagree, hmem⟩ :=
    Flatten.entries_of_leafReplaced hv hw hleaf hpairs
  have hflat' : Flatten.flatten "" others = .ok (Entries.ofPairs pairs') := by
    rw [Flatten.flatten, hpairs']
    rfl
  have hmask : p.classify (.text path) = .ok .mask := by
    obtain ⟨key, hkey, t, ht, word, hword, hholds⟩ := hsecret
    have hpart := (Flatten.infix_leafPath hpath).2 key hkey t ht
    exact Policy.legacy_masks hp ⟨word, hword, hholds.of_infix hpart⟩
      (Flatten.newline_notMem_leafPath hpath (by decide) hlines)
  have halike := hagree.ofPairs.alike hmask name order convention
  obtain ⟨e, he⟩ := Entry.exists_ofSource_stored p name order convention
    (Flatten.text_of_mem_keys_flatten hflat)
  refine ⟨path, Entries.ofPairs pairs', e, hpath, hflat', hagree.ofPairs, he, ?_, ?_⟩
  · rw [← Entry.ofSource_congr halike]
    exact he
  · apply Entry.get?_ofSource_of_mask he hmask
    exact (Entries.text_mem_keys_ofPairs pairs path).mpr hmem

/-- A password below an empty key, beside one with the same path. -/
theorem secret_leaf_masked_password :
    let data (password : String) : Entries :=
      [(.text "", .map [(.text "password", .text password)]), (.text "password", .text "other")]
    let source (es : Entries) : Source := {
      name := .text "app"
      order := .int 0
      convention := .dotted
      contents := .stored es }
    ∃ p flat flat' e,
      Policy.applyAll { principal := .null } [.legacy] = .ok p ∧
      Flatten.flatten "" (data "one") = .ok flat ∧ Flatten.flatten "" (data "two") = .ok flat' ∧
      Entry.ofSource p.classify (source flat) = .ok e ∧
      Entry.ofSource p.classify (source flat') = .ok e ∧
      e.properties.get? (.text "password") = some maskMark := by
  intro data source
  let p : Policy := {
    principal := .null
    allMasked := false
    patterns := Pattern.secretPatterns }
  have hp : Policy.applyAll { principal := .null } (.legacy :: [].map .patterns) = .ok p := rfl
  have hdata : Flatten.Writable (data "one") :=
    .within rfl (List.cons_ne_nil _ _) (.leaf rfl trivial .nil) (.leaf rfl trivial .nil)
  have hleaf : Flatten.LeafReplaced (.text "one") (.text "two") [.text "", .text "password"]
      (data "one") (data "two") := .within [] _ _ (.leaf [] [] _)
  have hone : Flatten.IsLeaf (.text "one") := trivial
  have htwo : Flatten.IsLeaf (.text "two") := trivial
  have hsecret : ∃ key ∈ [Value.text "", .text "password"], ∃ t, key.toText = .ok t ∧
      Pattern.IsSecret t := ⟨.text "password", by simp, "password", rfl, by decide⟩
  have hlines : ∀ key ∈ [Value.text "", .text "password"], ∀ t, key.toText = .ok t →
      .char '\n' ∉ t.toList := by
    intro key hkey t ht
    rcases List.mem_pair.mp hkey with rfl | rfl
    · cases ht
      decide
    · cases ht
      decide
  obtain ⟨hflattens, hmasked⟩ :=
    secret_leaf_masked hp hone htwo hleaf hsecret hlines (.text "app") (.int 0) .dotted
  obtain ⟨flat, hflat⟩ := hflattens.mpr hdata
  obtain ⟨path, flat', e, hpath, hflat', -, he, he', hmask⟩ := hmasked flat hflat
  cases hpath
  exact ⟨p, flat, flat', e, hp, hflat, hflat', he, he', hmask⟩

end MaskedReport
