import MaskedReport.Value.Order

/-!
# Sorting with an order that may fail

Sorting permutes its items, and it looks at them only through the order: sorting images is the image
of sorting by the order of the images, with the same failure where there is one.
-/

set_option autoImplicit false

namespace MaskedReport

/-- What follows a step succeeds only if the step does. -/
theorem bind_eq_ok {α β : Type} {x : Except Failure α} {f : α → Except Failure β} {b : β}
    (h : x >>= f = .ok b) : ∃ a, x = .ok a ∧ f a = .ok b := by
  cases x with
  | error e => cases h
  | ok a => exact ⟨a, rfl, h⟩

/-- A computation that has a result succeeds with it. -/
theorem eq_ok_of_toOption {ε α : Type} {x : Except ε α} {a : α} (h : x.toOption = some a) :
    x = .ok a := by
  cases x with
  | error e => cases h
  | ok b => exact congrArg Except.ok (Option.some.inj h)

namespace Sorting

variable {α β : Type}

/-! ## Permutation -/

/-- Putting items in their places keeps all of them. -/
theorem insertAll_perm {lt : α → α → Except Failure Bool} {sorted rest result : List α}
    (h : insertAll lt sorted rest = .ok result) : result.Perm (sorted ++ rest) := by
  induction rest generalizing sorted with
  | nil =>
    cases h
    rw [List.append_nil]
  | cons x rest ih =>
    obtain ⟨n, -, h⟩ := bind_eq_ok h
    have hplaced : (sorted.take n ++ x :: sorted.drop n).Perm (x :: sorted) := by
      have hmiddle : (sorted.take n ++ x :: sorted.drop n).Perm
          (x :: (sorted.take n ++ sorted.drop n)) := List.perm_middle
      rwa [List.take_append_drop] at hmiddle
    calc result
      _ |>.Perm ((sorted.take n ++ x :: sorted.drop n) ++ rest) := ih h
      _ |>.Perm ((x :: sorted) ++ rest) := hplaced.append_right rest
      _ |>.Perm (sorted ++ x :: rest) := List.perm_middle.symm

/-- Sorting permutes the items. -/
theorem sortBy_perm {lt : α → α → Except Failure Bool} {items result : List α}
    (h : sortBy lt items = .ok result) : result.Perm items := by
  match items with
  | [] =>
    cases h
    exact List.Perm.refl _
  | [x] =>
    cases h
    exact List.Perm.refl _
  | x :: y :: rest =>
    have hjoin : ∀ n, (x :: y :: rest.take n) ++ rest.drop n = x :: y :: rest := by
      intro n
      rw [List.cons_append, List.cons_append, List.take_append_drop]
    obtain ⟨before, -, h⟩ := bind_eq_ok h
    cases before with
    | true =>
      obtain ⟨n, -, h⟩ := bind_eq_ok h
      have hturned := (List.reverse_perm (x :: y :: rest.take n)).append_right (rest.drop n)
      rw [hjoin n] at hturned
      exact (insertAll_perm h).trans hturned
    | false =>
      obtain ⟨n, -, h⟩ := bind_eq_ok h
      have hperm := insertAll_perm h
      rwa [hjoin n] at hperm

/-! ## Images -/

variable (f : α → β) (lt : β → β → Except Failure Bool)

/-- The order of images. -/
abbrev through : α → α → Except Failure Bool := fun a b => lt (f a) (f b)

/-- The falling run of mapped items is that of the items, compared through the mapping. -/
theorem falling_map (last : α) (items : List α) :
    falling lt (f last) (items.map f) = falling (through f lt) last items := by
  induction items generalizing last with
  | nil => rfl
  | cons x rest ih => simp only [List.map_cons, falling, ih]

/-- The rising run of mapped items is that of the items, compared through the mapping. -/
theorem rising_map (last : α) (items : List α) :
    rising lt (f last) (items.map f) = rising (through f lt) last items := by
  induction items generalizing last with
  | nil => rfl
  | cons x rest ih => simp only [List.map_cons, rising, ih]

/-- The place of a mapped item is that of the item, compared through the mapping. -/
theorem place_map (sorted : List α) (x : α) (fuel low high : Nat) :
    place lt (sorted.map f) (f x) fuel low high = place (through f lt) sorted x fuel low high := by
  induction fuel generalizing low high with
  | zero => rfl
  | succ fuel ih =>
    simp only [place, List.getElem?_map, ih]
    cases sorted[low + (high - low) / 2]? with
    | none => rfl
    | some y => rfl

/-- Inserting mapped items is inserting the items, compared through the mapping. -/
theorem insertAll_map (sorted rest : List α) :
    insertAll lt (sorted.map f) (rest.map f) =
      (insertAll (through f lt) sorted rest).map (List.map f) := by
  induction rest generalizing sorted with
  | nil => rfl
  | cons x rest ih =>
    simp only [List.map_cons, insertAll, List.length_map, place_map]
    cases place (through f lt) sorted x (sorted.length + 1) 0 sorted.length with
    | error e => rfl
    | ok n =>
      have hplaced : (sorted.map f).take n ++ f x :: (sorted.map f).drop n =
          (sorted.take n ++ x :: sorted.drop n).map f := by
        rw [List.map_append, List.map_cons, List.map_take, List.map_drop]
      show insertAll lt (_ ++ _ :: _) (rest.map f) = _
      rw [hplaced, ih]
      rfl

/-- Sorting images is the image of sorting. -/
theorem sortBy_map (items : List α) :
    sortBy lt (items.map f) = (sortBy (through f lt) items).map (List.map f) := by
  match items with
  | [] => rfl
  | [x] => rfl
  | x :: y :: rest =>
    have hthrough : through f lt y x = lt (f y) (f x) := rfl
    simp only [List.map_cons, sortBy, falling_map, rising_map, hthrough]
    cases lt (f y) (f x) with
    | error e => rfl
    | ok before =>
      cases before with
      | true =>
        cases falling (through f lt) y rest with
        | error e => rfl
        | ok n =>
          have hturned : (f x :: f y :: (rest.map f).take n).reverse =
              ((x :: y :: rest.take n).reverse).map f := by
            rw [List.map_reverse, List.map_cons, List.map_cons, List.map_take]
          show insertAll lt (f x :: f y :: (rest.map f).take n).reverse ((rest.map f).drop n) = _
          rw [hturned, ← List.map_drop, insertAll_map]
          rfl
      | false =>
        cases rising (through f lt) y rest with
        | error e => rfl
        | ok n =>
          have hkept : f x :: f y :: (rest.map f).take n = (x :: y :: rest.take n).map f := by
            rw [List.map_cons, List.map_cons, List.map_take]
          show insertAll lt (f x :: f y :: (rest.map f).take n) ((rest.map f).drop n) = _
          rw [hkept, ← List.map_drop, insertAll_map]
          rfl

end Sorting

end MaskedReport
