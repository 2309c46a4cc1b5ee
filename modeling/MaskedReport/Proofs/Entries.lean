import Mathlib.Data.List.Forall2
import Mathlib.Data.List.Nodup
import MaskedReport.Report
import MaskedReport.Proofs.Sorting

/-!
# Entries by text keys

What giving keys their values does to the value of a text, in the entries of a mapping and in those
of a report. A text is the same as no other value, so its place is never taken by another key.
-/

set_option autoImplicit false

namespace MaskedReport

/-! ## Related lists -/

/-- What stands in the second of two related lists is related to something in the first. -/
theorem exists_related_left {α β : Type} {R : α → β → Prop} {xs : List α} {ys : List β}
    (h : List.Forall₂ R xs ys) {y : β} (hy : y ∈ ys) : ∃ x ∈ xs, R x y := by
  induction h with
  | nil => cases hy
  | @cons x z xs ys hz _ ih =>
    rcases List.mem_cons.mp hy with rfl | hy
    · exact ⟨x, List.mem_cons_self, hz⟩
    · obtain ⟨u, hu, hrelated⟩ := ih hy
      exact ⟨u, List.mem_cons_of_mem x hu, hrelated⟩

/-- Each item of the first of two related lists is related to one of the second. -/
theorem exists_related_right {α β : Type} {R : α → β → Prop} {xs : List α} {ys : List β}
    (h : List.Forall₂ R xs ys) {x : α} (hx : x ∈ xs) : ∃ y ∈ ys, R x y :=
  exists_related_left (R := fun y x => R x y) h.flip hx

/-! ## Keys -/

/-- A text is the same as no other value. -/
theorem Value.same_text_iff (v : Value) (s : Text) : v.same (.text s) = true ↔ v = .text s := by
  cases v with
  | text t => simp [Value.same]
  | _ => simp [Value.same, Value.quantity?]

/-- A text is the same as itself only. -/
theorem Value.text_same_iff (s : Text) (v : Value) : (text s).same v = true ↔ v = .text s := by
  cases v with
  | text t =>
    simp only [Value.same, beq_iff_eq, Value.text.injEq]
    exact eq_comm
  | _ => simp [Value.same, Value.quantity?]

/-- A value that can be a key is kept as it is. -/
theorem Value.eq_of_asKey {v key : Value} (h : v.asKey = .ok key) : key = v := by
  unfold Value.asKey at h
  cases hv : v.unhashable? with
  | some kind =>
    rw [hv] at h
    cases h
  | none =>
    rw [hv] at h
    cases h
    rfl

namespace Entries

/-- A value that is found stands in an entry. -/
theorem exists_mem_of_get? {key value : Value} {es : Entries} (h : es.get? key = some value) :
    ∃ e ∈ es, e.2 = value := by
  obtain ⟨e, hfind, hvalue⟩ := Option.map_eq_some_iff.mp h
  exact ⟨e, List.mem_of_find?_eq_some hfind, hvalue⟩

/-- Where keys come once, a text has the value of its entry. -/
theorem get?_eq_some_iff {es : Entries} (hnodup : es.keys.Nodup) {name : Text} {value : Value} :
    es.get? (.text name) = some value ↔ (.text name, value) ∈ es := by
  have hfound {value : Value} (h : es.get? (.text name) = some value) :
      (.text name, value) ∈ es := by
    obtain ⟨⟨key, _⟩, hfind, rfl⟩ := Option.map_eq_some_iff.mp h
    have hsame := List.find?_some hfind
    rw [Value.same_text_iff] at hsame
    rw [← hsame]
    exact List.mem_of_find?_eq_some hfind
  refine ⟨hfound, fun hmem => ?_⟩
  have hsome : (es.get? (.text name)).isSome := by
    rw [get?, Option.isSome_map, List.find?_isSome]
    exact ⟨_, hmem, (Value.same_text_iff _ name).mpr rfl⟩
  obtain ⟨other, hother⟩ := Option.isSome_iff_exists.mp hsome
  have hsame := List.inj_on_of_nodup_map hnodup (hfound hother) hmem rfl
  rw [hother]
  exact congrArg (fun e => some e.2) hsame

/-- Giving a key a value changes that of a text only if the text is the key. -/
theorem get?_assign (key value : Value) (es : Entries) (name : Text) :
    (es.assign key value).get? (.text name) =
      if key.same (.text name) then some value else es.get? (.text name) := by
  induction es with
  | nil =>
    by_cases hname : key.same (.text name)
    · simp [assign, get?, hname]
    · simp [assign, get?, hname]
  | cons e rest ih =>
    obtain ⟨k, v⟩ := e
    by_cases hkey : k.same key
    · -- the place of the key is found, and it is that of the text iff the key is
      have hplace : k.same (.text name) = key.same (.text name) := by
        rw [Bool.eq_iff_iff, Value.same_text_iff, Value.same_text_iff]
        constructor
        · rintro rfl
          exact (Value.text_same_iff name key).mp hkey
        · rintro rfl
          exact (Value.same_text_iff k name).mp hkey
      by_cases hname : key.same (.text name)
      · simp [assign, get?, hkey, hplace, hname]
      · simp [assign, get?, hkey, hplace, hname]
    · have hrest : (assign key value ((k, v) :: rest)) = (k, v) :: assign key value rest := by
        simp [assign, hkey]
      by_cases hname : k.same (.text name)
      · have hne : ¬ key.same (.text name) := by
          intro hsame
          rw [Value.same_text_iff] at hname hsame
          subst hname hsame
          exact hkey ((Value.same_text_iff (.text name) name).mpr rfl)
        simp [hrest, get?, hname, hne]
      · have hskip : ∀ v' es', get? (.text name) ((k, v') :: es') = get? (.text name) es' := by
          intro v' es'
          simp [get?, hname]
        rw [hrest, hskip, hskip, ih]

/-- A text has a value iff it is a key. -/
theorem isSome_get?_iff (es : Entries) (name : Text) :
    (es.get? (.text name)).isSome ↔ .text name ∈ es.keys := by
  rw [get?, Option.isSome_map, List.find?_isSome, keys, List.mem_map]
  simp only [Value.same_text_iff]

/-- A text is a key after an update iff it was one before or is given a value. -/
theorem text_mem_keys_update (es news : Entries) (name : Text) :
    .text name ∈ (es.update news).keys ↔ .text name ∈ es.keys ∨ .text name ∈ news.keys := by
  rw [← isSome_get?_iff, ← isSome_get?_iff]
  induction news generalizing es with
  | nil => simp [update, keys]
  | cons e news ih =>
    have hstep : es.update (e :: news) = (es.assign e.1 e.2).update news := rfl
    have hkeys : keys (e :: news) = e.1 :: keys news := rfl
    rw [hstep, ih, get?_assign, hkeys, List.mem_cons]
    by_cases hname : e.1.same (.text name)
    · rw [if_pos hname, (Value.same_text_iff _ _).mp hname]
      simp
    · have hne : ¬ Value.text name = e.1 := by
        intro heq
        exact hname ((Value.same_text_iff _ _).mpr heq.symm)
      simp [hname, hne]

/-- Entries that come of pairs have the text keys of the pairs. -/
theorem text_mem_keys_ofPairs (pairs : Entries) (name : Text) :
    .text name ∈ (ofPairs pairs).keys ↔ .text name ∈ pairs.keys := by
  rw [ofPairs, text_mem_keys_update]
  exact or_iff_right (List.not_mem_nil)

/-- A text that is not there yet is added at the end. -/
theorem assign_of_new {name : Text} {es : Entries} (h : .text name ∉ es.keys)
    (value : Value) : es.assign (.text name) value = es ++ [(.text name, value)] := by
  induction es with
  | nil => rfl
  | cons e rest ih =>
    obtain ⟨key, other⟩ := e
    obtain ⟨hkey, hrest⟩ : .text name ≠ key ∧ .text name ∉ keys rest := by
      simpa [keys] using h
    have hsame : ¬ key.same (.text name) = true := by
      rw [Value.same_text_iff]
      exact fun heq => hkey heq.symm
    rw [assign, if_neg hsame, ih hrest, List.cons_append]

/-- Giving a key a value brings in no other key. -/
theorem mem_keys_assign {k key value : Value} {es : Entries} (h : k ∈ (es.assign key value).keys) :
    k = key ∨ k ∈ es.keys := by
  induction es with
  | nil =>
    left
    simpa [assign, keys] using h
  | cons e rest ih =>
    obtain ⟨first, v⟩ := e
    by_cases hsame : first.same key
    · right
      simpa [assign, hsame, keys] using h
    · simp only [assign, hsame, Bool.false_eq_true, if_false, keys, List.map_cons,
        List.mem_cons] at h ⊢
      rcases h with hfirst | h
      · exact Or.inr (Or.inl hfirst)
      · exact (ih h).imp_right Or.inr

/-- An update brings in no keys but those that it gives values. -/
theorem mem_keys_update {k : Value} {es news : Entries} (h : k ∈ (es.update news).keys) :
    k ∈ es.keys ∨ k ∈ news.keys := by
  induction news generalizing es with
  | nil => exact Or.inl h
  | cons e news ih =>
    have hkeys : keys (e :: news) = e.1 :: keys news := rfl
    rw [hkeys, List.mem_cons]
    rcases ih h with hassigned | hnews
    · rcases mem_keys_assign hassigned with hkey | hes
      · exact Or.inr (Or.inl hkey)
      · exact Or.inl hes
    · exact Or.inr (Or.inr hnews)

/-- Giving a text key a value keeps the keys distinct. -/
theorem nodup_keys_assign {name : Text} {value : Value} {es : Entries} (h : es.keys.Nodup) :
    (es.assign (.text name) value).keys.Nodup := by
  induction es with
  | nil => simp [assign, keys]
  | cons d rest ih =>
    obtain ⟨k, v⟩ := d
    obtain ⟨hk, hrest⟩ : k ∉ keys rest ∧ (keys rest).Nodup := List.nodup_cons.mp h
    by_cases hsame : k.same (.text name)
    · simpa [assign, hsame, keys] using h
    · have hkeys : (assign (.text name) value ((k, v) :: rest)).keys =
          k :: keys (assign (.text name) value rest) := by
        simp [assign, hsame, keys]
      rw [hkeys, List.nodup_cons]
      refine ⟨fun hmem => ?_, ih hrest⟩
      rcases mem_keys_assign hmem with hname | hmem
      · exact hsame ((Value.same_text_iff k name).mpr hname)
      · exact hk hmem

/-- Entries that come of pairs with text keys have each key once. -/
theorem nodup_keys_ofPairs {pairs : Entries} (h : ∀ key ∈ pairs.keys, ∃ t, key = .text t) :
    (ofPairs pairs).keys.Nodup := by
  have hupdate : ∀ es : Entries, es.keys.Nodup → (es.update pairs).keys.Nodup := by
    induction pairs with
    | nil => exact fun es hes => hes
    | cons e rest ih =>
      intro es hes
      obtain ⟨key, value⟩ := e
      obtain ⟨t, rfl⟩ := h key List.mem_cons_self
      exact ih (fun k hk => h k (List.mem_cons_of_mem _ hk)) _ (nodup_keys_assign hes)
  exact hupdate [] List.nodup_nil

end Entries

/-! ## Properties of an entry -/

/-- The keys of a source are read in order. -/
theorem Source.map_fst_readings (s : Source) : s.readings.map Prod.fst = s.keys := by
  unfold Source.readings Source.keys
  cases s.contents with
  | stored entries =>
    rw [List.map_map]
    rfl
  | computed keys read =>
    rw [List.map_map]
    exact List.map_id keys

namespace Entry

variable {classify : Classify} {key : Value} {reading : Except Failure Value}
  {rest : List (Value × Except Failure Value)} {found es : Entries}

/-- How a property is added: left out, masked unread, or read and shown. -/
theorem addProperties_cons_ok
    (h : addProperties classify ((key, reading) :: rest) found = .ok es) :
    (classify key = .ok .hide ∧ addProperties classify rest found = .ok es) ∨
    (classify key = .ok .mask ∧ addProperties classify rest (found.assign key maskMark) = .ok es) ∨
    ∃ value, classify key = .ok .plain ∧ reading = .ok value ∧
      addProperties classify rest (found.assign key value) = .ok es := by
  unfold addProperties at h
  obtain ⟨verdict, hverdict, h⟩ := bind_eq_ok h
  cases verdict with
  | hide => exact Or.inl ⟨hverdict, h⟩
  | mask =>
    obtain ⟨k, hkey, h⟩ := bind_eq_ok h
    rw [Value.eq_of_asKey hkey] at h
    exact Or.inr (Or.inl ⟨hverdict, h⟩)
  | plain =>
    obtain ⟨value, hvalue, h⟩ := bind_eq_ok h
    obtain ⟨k, hkey, h⟩ := bind_eq_ok h
    rw [Value.eq_of_asKey hkey] at h
    exact Or.inr (Or.inr ⟨value, hverdict, hvalue, h⟩)

/-- A text key that comes shows what each of its properties shows. -/
theorem get?_addProperties {name : Text} {shown : Value}
    (readings : List (Value × Except Failure Value)) {found es : Entries}
    (hshown : ∀ r ∈ readings, r.1 = .text name →
      classify r.1 = .ok .mask ∧ shown = maskMark ∨
      classify r.1 = .ok .plain ∧ r.2 = .ok shown)
    (h : addProperties classify readings found = .ok es)
    (hname : found.get? (.text name) = some shown ∨ .text name ∈ readings.map Prod.fst) :
    es.get? (.text name) = some shown := by
  induction readings generalizing found with
  | nil =>
    cases h
    simpa using hname
  | cons r rest ih =>
    obtain ⟨key, reading⟩ := r
    have hrest := fun r hr => hshown r (List.mem_cons_of_mem _ hr)
    have hhere := hshown (key, reading) List.mem_cons_self
    -- the text gets a value here, or else what it shows stays
    have hassigned : ∀ value, (key = .text name → value = shown) →
        ((found.assign key value).get? (.text name) = some shown ∨
          .text name ∈ rest.map Prod.fst) := by
      intro value hvalue
      rw [Entries.get?_assign]
      by_cases hsame : key.same (.text name)
      · rw [if_pos hsame, hvalue ((Value.same_text_iff key name).mp hsame)]
        exact Or.inl rfl
      · rw [if_neg hsame]
        have hne : ¬ Value.text name = key := fun heq =>
          hsame ((Value.same_text_iff key name).mpr heq.symm)
        simpa [hne] using hname
    rcases addProperties_cons_ok h with ⟨hhide, h⟩ | ⟨hmask, h⟩ | ⟨value, hplain, hread, h⟩
    · have hne : ¬ Value.text name = key := by
        intro heq
        rcases hhere heq.symm with ⟨hmask, -⟩ | ⟨hplain, -⟩
        · simp only [hhide, Except.ok.injEq, reduceCtorEq] at hmask
        · simp only [hhide, Except.ok.injEq, reduceCtorEq] at hplain
      exact ih hrest h (by simpa [hne] using hname)
    · refine ih hrest h (hassigned maskMark fun heq => ?_)
      rcases hhere heq with ⟨-, hmark⟩ | ⟨hplain, -⟩
      · exact hmark.symm
      · simp only [hmask, Except.ok.injEq, reduceCtorEq] at hplain
    · refine ih hrest h (hassigned value fun heq => ?_)
      rcases hhere heq with ⟨hmask, -⟩ | ⟨-, hshows⟩
      · simp only [hplain, Except.ok.injEq, reduceCtorEq] at hmask
      · simp only [hread, Except.ok.injEq] at hshows
        exact hshows

/-- A text key that is masked shows the mask, whatever reading it gives and however often it
comes. -/
theorem get?_addProperties_of_mask {name : Text} (hmask : classify (.text name) = .ok .mask)
    (readings : List (Value × Except Failure Value)) {found es : Entries}
    (h : addProperties classify readings found = .ok es)
    (hname : found.get? (.text name) = some maskMark ∨ .text name ∈ readings.map Prod.fst) :
    es.get? (.text name) = some maskMark := by
  refine get?_addProperties readings (fun r _ hr => ?_) h hname
  rw [hr]
  exact Or.inl ⟨hmask, rfl⟩

/-- The properties have no keys but those that come and are not hidden. -/
theorem mem_keys_addProperties {k : Value} (readings : List (Value × Except Failure Value))
    {found es : Entries} (h : addProperties classify readings found = .ok es)
    (hk : k ∈ es.keys) :
    k ∈ found.keys ∨ k ∈ readings.map Prod.fst ∧ classify k ≠ .ok .hide := by
  induction readings generalizing found with
  | nil =>
    cases h
    exact Or.inl hk
  | cons r rest ih =>
    obtain ⟨key, reading⟩ := r
    have hlater (h : k ∈ rest.map Prod.fst ∧ classify k ≠ .ok .hide) :
        k ∈ ((key, reading) :: rest).map Prod.fst ∧ classify k ≠ .ok .hide :=
      ⟨List.mem_cons_of_mem _ h.1, h.2⟩
    have hassigned {value : Value} (hshown : classify key ≠ .ok .hide)
        (h : addProperties classify rest (found.assign key value) = .ok es) :
        k ∈ found.keys ∨ k ∈ ((key, reading) :: rest).map Prod.fst ∧ classify k ≠ .ok .hide := by
      rcases ih h with hmem | hmem
      · rcases Entries.mem_keys_assign hmem with rfl | hmem
        · exact Or.inr ⟨List.mem_cons_self, hshown⟩
        · exact Or.inl hmem
      · exact Or.inr (hlater hmem)
    rcases addProperties_cons_ok h with ⟨-, h⟩ | ⟨hmask, h⟩ | ⟨value, hplain, -, h⟩
    · exact (ih h).imp_right hlater
    · exact hassigned (by simp [hmask]) h
    · exact hassigned (by simp [hplain]) h

/-- Properties are added one list of readings after the other. -/
theorem addProperties_append (before after : List (Value × Except Failure Value))
    (found : Entries) : addProperties classify (before ++ after) found =
      addProperties classify before found >>= addProperties classify after := by
  induction before generalizing found with
  | nil => rfl
  | cons r rest ih =>
    obtain ⟨key, reading⟩ := r
    rw [List.cons_append, addProperties, addProperties]
    cases classify key with
    | error why => rfl
    | ok verdict =>
      cases verdict with
      | hide => exact ih found
      | mask =>
        show (key.asKey >>= fun k => _) = (key.asKey >>= fun k => _) >>= _
        rw [bind_assoc]
        exact congrArg (key.asKey >>= ·) (funext fun k => ih _)
      | plain =>
        show (reading >>= fun value => key.asKey >>= fun k => _) =
          (reading >>= fun value => key.asKey >>= fun k => _) >>= _
        simp only [bind_assoc, ih]

/-- Where all keys that come are texts, the properties have each key once. -/
theorem nodup_keys_addProperties (readings : List (Value × Except Failure Value))
    (htexts : ∀ key ∈ readings.map Prod.fst, ∃ t, key = .text t) {found es : Entries}
    (h : addProperties classify readings found = .ok es) (hfound : found.keys.Nodup) :
    es.keys.Nodup := by
  induction readings generalizing found with
  | nil =>
    cases h
    exact hfound
  | cons r rest ih =>
    obtain ⟨key, reading⟩ := r
    obtain ⟨⟨t, rfl⟩, hrest⟩ := List.forall_mem_cons.mp htexts
    rcases addProperties_cons_ok h with ⟨-, h⟩ | ⟨-, h⟩ | ⟨value, -, -, h⟩
    · exact ih hrest h hfound
    · exact ih hrest h (Entries.nodup_keys_assign hfound)
    · exact ih hrest h (Entries.nodup_keys_assign hfound)

/-- Whether a reading is the last of its key, the one that an entry keeps. -/
def IsLast (readings : List (Value × Except Failure Value)) (r : Value × Except Failure Value) :
    Prop :=
  ∃ before after, readings = before ++ r :: after ∧ r.1 ∉ after.map Prod.fst

/-- A key that is read has a last reading. -/
theorem exists_isLast {readings : List (Value × Except Failure Value)}
    (h : key ∈ readings.map Prod.fst) : ∃ reading, IsLast readings (key, reading) := by
  induction readings with
  | nil => cases h
  | cons r rest ih =>
    by_cases hrest : key ∈ rest.map Prod.fst
    · obtain ⟨reading, before, after, rfl, hafter⟩ := ih hrest
      exact ⟨reading, r :: before, after, rfl, hafter⟩
    · rcases List.mem_cons.mp h with rfl | hmem
      · exact ⟨r.2, [], rest, rfl, hrest⟩
      · exact absurd hmem hrest

/-- Once the last reading of a key is added, none of the readings that follow is of that key. -/
theorem exists_addProperties_of_isLast {readings : List (Value × Except Failure Value)}
    (h : addProperties classify readings [] = .ok es) (hlast : IsLast readings (key, reading)) :
    ∃ after found, key ∉ after.map Prod.fst ∧
      addProperties classify ((key, reading) :: after) found = .ok es := by
  obtain ⟨before, after, hsplit, hafter⟩ := hlast
  rw [hsplit, addProperties_append] at h
  obtain ⟨found, -, h⟩ := bind_eq_ok h
  exact ⟨after, found, hafter, h⟩

/-- A text key shows what its last reading shows. -/
theorem get?_addProperties_of_isLast {readings : List (Value × Except Failure Value)}
    (h : addProperties classify readings [] = .ok es) {name : Text}
    (hlast : IsLast readings (.text name, reading)) {shown : Value}
    (hshown : classify (.text name) = .ok .mask ∧ shown = maskMark ∨
      classify (.text name) = .ok .plain ∧ reading = .ok shown) :
    es.get? (.text name) = some shown := by
  obtain ⟨after, found, hafter, h⟩ := exists_addProperties_of_isLast h hlast
  refine get?_addProperties _ (fun r hr hkey => ?_) h (Or.inr List.mem_cons_self)
  rcases List.mem_cons.mp hr with rfl | hr
  · exact hshown
  · have hmem : .text name ∈ after.map Prod.fst := by
      rw [← hkey]
      exact List.mem_map_of_mem hr
    exact absurd hmem hafter

/-- The properties are those that the last reading of each key shows: the mask of a masked key, and
what is read of a plain one. -/
theorem mem_addProperties_iff {readings : List (Value × Except Failure Value)}
    (htexts : ∀ key ∈ readings.map Prod.fst, ∃ t, key = .text t)
    (h : addProperties classify readings [] = .ok es) {name : Text} {value : Value} :
    (.text name, value) ∈ es ↔ ∃ reading, IsLast readings (.text name, reading) ∧
      (classify (.text name) = .ok .mask ∧ value = maskMark ∨
        classify (.text name) = .ok .plain ∧ reading = .ok value) := by
  have hnodup := nodup_keys_addProperties readings htexts h List.nodup_nil
  rw [← Entries.get?_eq_some_iff hnodup]
  constructor
  · intro hvalue
    have hkey : .text name ∈ es.keys :=
      List.mem_map_of_mem (f := Prod.fst) ((Entries.get?_eq_some_iff hnodup).mp hvalue)
    obtain ⟨hread, hshown⟩ := (mem_keys_addProperties readings h hkey).resolve_left List.not_mem_nil
    obtain ⟨reading, hlast⟩ := exists_isLast hread
    obtain ⟨after, found, -, hstep⟩ := exists_addProperties_of_isLast h hlast
    refine ⟨reading, hlast, ?_⟩
    rcases addProperties_cons_ok hstep with ⟨hhide, -⟩ | ⟨hmask, -⟩ | ⟨shown, hplain, hreading, -⟩
    · exact absurd hhide hshown
    · have hmark := get?_addProperties_of_isLast h hlast (Or.inl ⟨hmask, rfl⟩)
      exact Or.inl ⟨hmask, Option.some.inj (hvalue.symm.trans hmark)⟩
    · have hown := get?_addProperties_of_isLast h hlast (Or.inr ⟨hplain, hreading⟩)
      rw [Option.some.inj (hvalue.symm.trans hown)]
      exact Or.inr ⟨hplain, hreading⟩
  · rintro ⟨reading, hlast, hshown⟩
    exact get?_addProperties_of_isLast h hlast hshown

/-- An entry bears the name of its source. -/
theorem name_ofSource {s : Source} {e : Entry} (h : ofSource classify s = .ok e) :
    e.name = s.name := by
  obtain ⟨es, -, h⟩ := bind_eq_ok h
  cases h
  rfl

/-- An entry has the order of its source. -/
theorem order_ofSource {s : Source} {e : Entry} (h : ofSource classify s = .ok e) :
    e.order = s.order := by
  obtain ⟨es, -, h⟩ := bind_eq_ok h
  cases h
  rfl

/-- The entry of a source shows the mask for each of its text keys that is masked. -/
theorem get?_ofSource_of_mask {s : Source} {e : Entry} (h : ofSource classify s = .ok e)
    {name : Text} (hmask : classify (.text name) = .ok .mask) (hname : .text name ∈ s.keys) :
    e.properties.get? (.text name) = some maskMark := by
  obtain ⟨es, hes, h⟩ := bind_eq_ok h
  cases h
  have hkeys : .text name ∈ s.readings.map Prod.fst := by rwa [s.map_fst_readings]
  exact get?_addProperties_of_mask hmask s.readings hes (Or.inr hkeys)

end Entry

/-! ## Entries of a report -/

namespace Report

variable {classify : Classify} {sources ordered : List Source}

/-- Sources are sorted by permuting them. -/
theorem sorted_perm (h : sorted sources = .ok ordered) : ordered.Perm sources := by
  unfold sorted at h
  split at h
  · cases h
    exact List.mergeSort_perm sources _
  · exact Sorting.sortBy_perm h

/-- The entries are those of the sources in order. -/
theorem forall₂_entriesOf {entries : List Entry} (h : entriesOf classify sources = .ok entries) :
    List.Forall₂ (fun s e => Entry.ofSource classify s = .ok e) sources entries := by
  induction sources generalizing entries with
  | nil =>
    cases h
    exact List.Forall₂.nil
  | cons s rest ih =>
    obtain ⟨e, he, h⟩ := bind_eq_ok h
    obtain ⟨es, hes, h⟩ := bind_eq_ok h
    cases h
    exact List.Forall₂.cons he (ih hes)

/-- A source has at most one entry. -/
theorem ofSource_rightUnique (classify : Classify) :
    Relator.RightUnique fun s e => Entry.ofSource classify s = .ok e := by
  intro s e f he hf
  rw [he] at hf
  cases hf
  rfl

/-- A full report is made of the names, the packages and the entries of the sorted sources. -/
theorem full_ok {activeNames packages : Value} {r : Report}
    (h : full classify sources activeNames packages = .ok r) :
    ∃ ordered : List Source, sorted sources = .ok ordered ∧
      activeNames.items = .ok r.activeNames ∧ packages.items = .ok r.packages ∧
      List.Forall₂ (fun s e => Entry.ofSource classify s = .ok e) ordered r.entries := by
  obtain ⟨ordered, hordered, h⟩ := bind_eq_ok h
  obtain ⟨names, hnames, h⟩ := bind_eq_ok h
  obtain ⟨paths, hpaths, h⟩ := bind_eq_ok h
  obtain ⟨entries, hentries, h⟩ := bind_eq_ok h
  cases h
  exact ⟨ordered, hordered, hnames, hpaths, forall₂_entriesOf hentries⟩

/-- The full report is put together from the ordered sources, the names and the packages. -/
theorem full_of_sorted {activeNames packages : Value} {active paths : List Value}
    {entries : List Entry} (hordered : sorted sources = .ok ordered)
    (hactive : activeNames.items = .ok active) (hpaths : packages.items = .ok paths)
    (hentries : entriesOf classify ordered = .ok entries) :
    full classify sources activeNames packages =
      .ok { activeNames := active, packages := paths, entries } := by
  rw [full, hordered, hactive, hpaths]
  show (entriesOf classify ordered >>= fun entries => _) = _
  rw [hentries]
  rfl

/-- A full report has the entry of each source. -/
theorem forall₂_full {activeNames packages : Value} {r : Report}
    (h : full classify sources activeNames packages = .ok r) :
    ∃ ordered : List Source, ordered.Perm sources ∧
      List.Forall₂ (fun s e => Entry.ofSource classify s = .ok e) ordered r.entries := by
  obtain ⟨ordered, hordered, -, -, hentries⟩ := full_ok h
  exact ⟨ordered, sorted_perm hordered, hentries⟩

/-- The report on one source is the entry of a source of that name. -/
theorem exists_of_single? {name : Value} {e : Entry}
    (h : single? classify sources name = .ok (some e)) :
    ∃ s ∈ sources, s.name.same name ∧ Entry.ofSource classify s = .ok e := by
  unfold single? at h
  cases hfind : sources.find? fun s => s.name.same name with
  | none =>
    rw [hfind] at h
    cases h
  | some s =>
    rw [hfind] at h
    obtain ⟨found, hfound, h⟩ := bind_eq_ok h
    cases h
    have hname := List.find?_some hfind
    exact ⟨s, List.mem_of_find?_eq_some hfind, hname, hfound⟩

end Report

end MaskedReport
