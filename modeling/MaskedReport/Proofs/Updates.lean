import Mathlib.Data.List.Induction
import MaskedReport.Proofs.Entries

/-!
# Entries given texts one after the other

Entries that are merged from pairs with texts for keys: a text has the place where it comes first
and the last value that it is given (`Entries.keys_ofPairs_map`, `Entries.get?_ofPairs_map`). Merged
entries update others as the pairs do that they were merged from: `Entries.update_ofPairs`.
-/

set_option autoImplicit false

namespace MaskedReport.Entries

/-! ## Updates by merged entries -/

variable {es news pairs : Entries} {name other : Text}

/-- Pairs in two lists are assigned one list after the other. -/
theorem update_append (es front back : Entries) :
    es.update (front ++ back) = (es.update front).update back := List.foldl_append

/-- One more pair is assigned after the others. -/
theorem ofPairs_concat (pairs : Entries) (key value : Value) :
    ofPairs (pairs ++ [(key, value)]) = (ofPairs pairs).assign key value := by
  rw [ofPairs, update_append]
  rfl

/-- After an assignment the keys are those before and the one assigned. -/
theorem text_mem_keys_assign (es : Entries) (key : Text) (value : Value) :
    .text name ∈ (es.assign (.text key) value).keys ↔ .text name ∈ es.keys ∨ name = key := by
  have hupdate := text_mem_keys_update es [(.text key, value)] name
  have hsingle : keys [(Value.text key, value)] = [.text key] := rfl
  rw [hsingle, List.mem_singleton, Value.text.injEq] at hupdate
  exact hupdate

/-- Merged entries have texts for keys if the pairs do. -/
theorem forall_text_ofPairs (htexts : ∀ key ∈ pairs.keys, ∃ t, key = .text t) :
    ∀ key ∈ (ofPairs pairs).keys, ∃ t, key = .text t := by
  intro key hkey
  rcases mem_keys_update hkey with hnone | hkey
  · cases hnone
  · exact htexts key hkey

/-- A text that is there keeps its place. -/
theorem keys_assign_of_mem (hmem : .text name ∈ es.keys) (value : Value) :
    (es.assign (.text name) value).keys = es.keys := by
  induction es with
  | nil => cases hmem
  | cons e rest ih =>
    obtain ⟨key, x⟩ := e
    by_cases hkey : key.same (.text name)
    · simp [assign, hkey, keys]
    · have hrest : .text name ∈ keys rest := by
        refine List.mem_of_ne_of_mem ?_ hmem
        rintro rfl
        exact hkey ((Value.same_text_iff _ name).mpr rfl)
      rw [assign, if_neg hkey]
      exact congrArg (key :: ·) (ih hrest)

/-- Of two values that a text is given, the last counts. -/
theorem assign_assign (es : Entries) (name : Text) (v w : Value) :
    (es.assign (.text name) v).assign (.text name) w = es.assign (.text name) w := by
  induction es with
  | nil => simp [assign, Value.same]
  | cons e rest ih =>
    obtain ⟨key, x⟩ := e
    by_cases hkey : key.same (.text name)
    · simp [assign, hkey]
    · simp [assign, hkey, ih]

/-- A text that is there can be given its value before another one or after it. -/
theorem assign_comm (hne : name ≠ other) (hmem : .text name ∈ es.keys) (v w : Value) :
    (es.assign (.text name) v).assign (.text other) w =
      (es.assign (.text other) w).assign (.text name) v := by
  induction es with
  | nil => cases hmem
  | cons e rest ih =>
    obtain ⟨key, x⟩ := e
    by_cases hkey : key.same (.text name)
    · rw [Value.same_text_iff] at hkey
      subst hkey
      simp [assign, Value.same, hne]
    · have hrest : .text name ∈ keys rest := by
        refine List.mem_of_ne_of_mem ?_ hmem
        rintro rfl
        exact hkey ((Value.same_text_iff _ name).mpr rfl)
      by_cases hother : key.same (.text other)
      · simp [assign, hkey, hother]
      · simp [assign, hkey, hother, ih hrest]

/-- A text that is there, and that an update leaves alone, can be given its value before. -/
theorem assign_update (htexts : ∀ key ∈ news.keys, ∃ t, key = .text t) (hmem : .text name ∈ es.keys)
    (hnew : .text name ∉ news.keys) (v : Value) :
    (es.update news).assign (.text name) v = (es.assign (.text name) v).update news := by
  induction news generalizing es with
  | nil => rfl
  | cons e rest ih =>
    obtain ⟨key, x⟩ := e
    obtain ⟨t, rfl⟩ := htexts key List.mem_cons_self
    obtain ⟨hne, hrest⟩ : .text name ≠ Value.text t ∧ .text name ∉ keys rest := by
      simpa [keys] using hnew
    have hthere : .text name ∈ (es.assign (.text t) x).keys :=
      (text_mem_keys_assign es t x).mpr (Or.inl hmem)
    have hstep := ih (fun k hk => htexts k (List.mem_cons_of_mem _ hk)) hthere hrest
    show ((es.assign (.text t) x).update rest).assign (.text name) v =
      ((es.assign (.text name) v).assign (.text t) x).update rest
    rw [hstep, assign_comm (fun heq => hne (by rw [heq])) hmem]

/-- To give a text a value in the update is to give it after the update. -/
theorem update_assign (htexts : ∀ key ∈ news.keys, ∃ t, key = .text t) (hnodup : news.keys.Nodup)
    (es : Entries) (name : Text) (v : Value) :
    es.update (news.assign (.text name) v) = (es.update news).assign (.text name) v := by
  induction news generalizing es with
  | nil => rfl
  | cons e rest ih =>
    obtain ⟨key, x⟩ := e
    obtain ⟨t, rfl⟩ := htexts key List.mem_cons_self
    have hsplit : (.text t :: keys rest).Nodup := hnodup
    obtain ⟨hnew, hrest⟩ := List.nodup_cons.mp hsplit
    have htail : ∀ k ∈ keys rest, ∃ t, k = .text t :=
      fun k hk => htexts k (List.mem_cons_of_mem _ hk)
    by_cases hname : t = name
    · subst hname
      have hplace : assign (.text t) v ((.text t, x) :: rest) = (.text t, v) :: rest := by
        simp [assign, Value.same]
      have hthere : .text t ∈ (es.assign (.text t) x).keys :=
        (text_mem_keys_assign es t x).mpr (Or.inr rfl)
      rw [hplace]
      show (es.assign (.text t) v).update rest =
        ((es.assign (.text t) x).update rest).assign (.text t) v
      rw [assign_update htail hthere hnew, assign_assign]
    · have hplace : assign (.text name) v ((.text t, x) :: rest) =
          (.text t, x) :: assign (.text name) v rest := by
        simp [assign, Value.same, hname]
      rw [hplace]
      exact ih htail hrest (es.assign (.text t) x)

/-- Merged entries update others as the pairs do that they were merged from. -/
theorem update_ofPairs (htexts : ∀ key ∈ pairs.keys, ∃ t, key = .text t) (es : Entries) :
    es.update (ofPairs pairs) = es.update pairs := by
  induction pairs using List.reverseRecOn with
  | nil => rfl
  | append_singleton front e ih =>
    obtain ⟨key, x⟩ := e
    simp only [keys, List.map_append, List.mem_append] at htexts
    obtain ⟨t, rfl⟩ := htexts key (Or.inr List.mem_cons_self)
    have hfront : ∀ k ∈ keys front, ∃ t, k = .text t := fun k hk => htexts k (Or.inl hk)
    rw [ofPairs_concat, update_assign (forall_text_ofPairs hfront) (nodup_keys_ofPairs hfront),
      ih hfront, update_append]
    rfl

/-! ## What merging comes to -/

variable {α : Type}

/-- The keys of pairs made from items are the texts made from them. -/
theorem text_mem_keys_map (f : α → Text) (g : α → Value) (xs : List α) :
    .text name ∈ keys (xs.map fun x => (.text (f x), g x)) ↔ name ∈ xs.map f := by
  have hkeys : keys (xs.map fun x => (.text (f x), g x)) = (xs.map f).map .text := by
    rw [keys, List.map_map, List.map_map]
    rfl
  rw [hkeys, List.mem_map_of_injective fun _ _ => Value.text.inj]

/-- The texts of merged entries, each where it comes first. -/
theorem keys_ofPairs_map (f : α → Text) (g : α → Value) (xs : List α) :
    (ofPairs (xs.map fun x => (.text (f x), g x))).keys = (xs.map f).eraseDups.map .text := by
  induction xs using List.reverseRecOn with
  | nil => rfl
  | append_singleton front x ih =>
    have hthere : .text (f x) ∈ (ofPairs (front.map fun x => (.text (f x), g x))).keys ↔
        f x ∈ front.map f := by
      rw [text_mem_keys_ofPairs, text_mem_keys_map]
    rw [List.map_append, List.map_singleton, ofPairs_concat, List.map_append, List.map_singleton,
      List.eraseDups_append]
    by_cases hmem : f x ∈ front.map f
    · have hold : [f x].removeAll (front.map f) = [] := by simpa [List.removeAll] using hmem
      rw [keys_assign_of_mem (hthere.mpr hmem), ih, hold]
      simp
    · have hnew : [f x].removeAll (front.map f) = [f x] := by simpa [List.removeAll] using hmem
      rw [assign_of_new fun h => hmem (hthere.mp h), keys, List.map_append, ← keys, ih, hnew]
      simp [List.eraseDups_cons]

/-- The value of a text in merged entries is the last that it is given. -/
theorem get?_ofPairs_map (f : α → Text) (g : α → Value) (xs : List α) (name : Text) :
    (ofPairs (xs.map fun x => (.text (f x), g x))).get? (.text name) =
      (xs.filter fun x => f x == name).getLast?.map g := by
  induction xs using List.reverseRecOn with
  | nil => rfl
  | append_singleton front x ih =>
    rw [List.map_append, List.map_singleton, ofPairs_concat, get?_assign, ih, List.filter_append]
    by_cases hname : f x = name
    · simp [Value.same, hname]
    · simp [Value.same, hname]

/-- Pairs whose texts are distinct are merged to themselves. -/
theorem ofPairs_map_of_nodup {f : α → Text} {xs : List α} (h : (xs.map f).Nodup) (g : α → Value) :
    ofPairs (xs.map fun x => (.text (f x), g x)) = xs.map fun x => (.text (f x), g x) := by
  induction xs using List.reverseRecOn with
  | nil => rfl
  | append_singleton front x ih =>
    rw [List.map_append, List.map_singleton, List.nodup_append] at h
    obtain ⟨hfront, -, hapart⟩ := h
    have hnew : .text (f x) ∉ keys (front.map fun x => (.text (f x), g x)) := by
      rw [text_mem_keys_map]
      exact fun hmem => hapart _ hmem _ List.mem_cons_self rfl
    rw [List.map_append, List.map_singleton, ofPairs_concat, ih hfront, assign_of_new hnew]

end MaskedReport.Entries
