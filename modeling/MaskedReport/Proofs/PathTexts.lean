import Mathlib.Data.List.Basic
import MaskedReport.Proofs.Letters
import MaskedReport.World.Path

/-!
# Texts of paths

A path is read from a text and written as one. What follows a slash in a text adds its parts:
`Path.parts_ofText_append`. The text of an absolute path whose parts can be parts is read as that
path: `Path.ofText_text`. From the root on, parts below a directory come after its parts unless they
lead out of it: `Path.resolveParts_below`.
-/

set_option autoImplicit false

namespace MaskedReport.Path

/-! ## Pieces between slashes -/

variable {α : Type} {a b : α}

/-- The pieces of a split list have no item that it is split at. -/
theorem notMem_of_mem_splitOn [DecidableEq α] {xs piece : List α} (h : piece ∈ xs.splitOn a) :
    a ∉ piece := by
  induction xs generalizing piece with
  | nil =>
    rw [List.splitOn_nil, List.mem_singleton] at h
    simp [h]
  | cons x rest ih =>
    obtain ⟨first, others, hrest⟩ := List.exists_cons_of_ne_nil (List.splitOn_ne_nil a rest)
    simp only [hrest, List.mem_cons] at ih
    rw [List.splitOn_cons_eq_if_modifyHead, hrest] at h
    split at h
    · rcases List.mem_cons.mp h with rfl | h
      · exact List.not_mem_nil
      · exact ih (List.mem_cons.mp h)
    · rename_i hne
      rcases List.mem_cons.mp h with rfl | h
      · have hx : a ≠ x := fun heq => hne (by simp [heq])
        simp [hx, ih (Or.inl rfl)]
      · exact ih (Or.inr h)

/-- An item other than the one between the pieces is in their join if and only if it is in a piece.
-/
theorem mem_intercalate_iff (h : b ≠ a) (pieces : List (List α)) :
    b ∈ [a].intercalate pieces ↔ ∃ piece ∈ pieces, b ∈ piece := by
  induction pieces with
  | nil => simp
  | cons first rest ih =>
    cases rest with
    | nil => simp
    | cons second rest =>
      rw [List.intercalate_cons_cons, List.mem_append, List.mem_append, ih, List.mem_singleton]
      simp [h]

/-! ## Parts of a text -/

/-- Whether a text can be a part of a path. -/
def IsPart (part : Text) : Prop := part ≠ "" ∧ part ≠ "." ∧ .char '/' ∉ part.toList

/-- The parts of a path that a text names. -/
def partsOf (text : List Letter) : List Text :=
  ((text.splitOn (.char '/')).map Text.ofList).filter fun p => p != "" && p != "."

/-- The parts of the path of a text are those of the text. -/
theorem parts_ofText (text : Text) : (ofText text).parts = partsOf text.toList := rfl

/-- A part of a text is a piece between slashes that is neither empty nor a dot. -/
theorem mem_partsOf_iff {text : List Letter} {part : Text} :
    part ∈ partsOf text ↔ part.toList ∈ text.splitOn (.char '/') ∧ part ≠ "" ∧ part ≠ "." := by
  rw [partsOf, List.mem_filter, List.mem_map, Bool.and_eq_true, bne_iff_ne, bne_iff_ne]
  refine and_congr_left fun _ => ⟨?_, fun h => ⟨part.toList, h, rfl⟩⟩
  rintro ⟨piece, hpiece, rfl⟩
  exact hpiece

/-- The parts of the path of a text can be parts. -/
theorem isPart_of_mem {text : Text} {part : Text} (h : part ∈ (ofText text).parts) :
    IsPart part := by
  rw [parts_ofText, mem_partsOf_iff] at h
  exact ⟨h.2.1, h.2.2, notMem_of_mem_splitOn h.1⟩

/-- What follows a slash adds its parts, in lists of letters. -/
theorem partsOf_append (front back : List Letter) :
    partsOf (front ++ .char '/' :: back) = partsOf front ++ partsOf back := by
  rw [partsOf, List.splitOn_append_cons_self, List.map_append, List.filter_append]
  rfl

/-- What follows a slash adds its parts. -/
theorem parts_ofText_append (d c : Text) :
    (ofText (d ++ Text.ofString "/" ++ c)).parts = (ofText d).parts ++ (ofText c).parts := by
  have htext : (d ++ Text.ofString "/" ++ c).toList = d.toList ++ .char '/' :: c.toList := by simp
  rw [parts_ofText, htext, partsOf_append]
  rfl

/-- Texts that can be parts, with slashes between them, are their parts. -/
theorem partsOf_intercalate {parts : List Text} (h : ∀ part ∈ parts, IsPart part) :
    partsOf ([.char '/'].intercalate (parts.map Text.toList)) = parts := by
  cases parts with
  | nil => rfl
  | cons first rest =>
    have hpieces : ∀ piece ∈ (first :: rest).map Text.toList, .char '/' ∉ piece := by
      rintro _ hpiece
      obtain ⟨part, hpart, rfl⟩ := List.mem_map.mp hpiece
      exact (h part hpart).2.2
    have hpart : ∀ part ∈ first :: rest, (part != "" && part != ".") = true := by
      intro part hmem
      obtain ⟨hempty, hdot, -⟩ := h part hmem
      simp [hempty, hdot]
    rw [partsOf, List.splitOn_intercalate (Letter.char '/') hpieces (by simp), List.map_map,
      show Text.ofList ∘ Text.toList = id from rfl, List.map_id,
      List.filter_eq_self.mpr hpart]

/-- A letter other than those that paths drop is in a text if and only if it is in a part. -/
theorem mem_toList_iff {c : Letter} (hslash : c ≠ .char '/') (hdot : c ≠ .char '.') (text : Text) :
    c ∈ text.toList ↔ ∃ part ∈ (ofText text).parts, c ∈ part.toList := by
  have hpieces := mem_intercalate_iff hslash (text.toList.splitOn (.char '/'))
  rw [List.intercalate_splitOn] at hpieces
  rw [hpieces]
  constructor
  · rintro ⟨piece, hpiece, hc⟩
    refine ⟨Text.ofList piece, mem_partsOf_iff.mpr ⟨hpiece, ?_, ?_⟩, ?_⟩
    · intro hempty
      cases congrArg Text.toList hempty
      cases hc
    · intro hsingle
      cases congrArg Text.toList hsingle
      exact hdot (List.mem_singleton.mp hc)
    · exact hc
  · rintro ⟨part, hpart, hc⟩
    exact ⟨part.toList, (mem_partsOf_iff.mp hpart).1, hc⟩

/-! ## Roots -/

/-- The path of a text is absolute if and only if the text begins with a slash. -/
theorem isAbsolute_ofText_iff (text : Text) :
    (ofText text).isAbsolute = true ↔ ∃ rest, text.toList = .char '/' :: rest := by
  show (!(rootOf text.toList).isEmpty) = true ↔ _
  cases text.toList with
  | nil => simp [rootOf]
  | cons c rest =>
    by_cases hc : c = .char '/'
    · subst hc
      refine iff_of_true ?_ ⟨rest, rfl⟩
      unfold rootOf
      split
      case h_1 hlength => simp at hlength
      all_goals rfl
    · refine iff_of_false ?_ (by simp [hc])
      simp [rootOf, hc]

/-- More text after an absolute path leaves it absolute. -/
theorem isAbsolute_ofText_append {d : Text} (h : (ofText d).isAbsolute = true) (c : Text) :
    (ofText (d ++ c)).isAbsolute = true := by
  rw [isAbsolute_ofText_iff] at h ⊢
  obtain ⟨rest, hrest⟩ := h
  exact ⟨rest ++ c.toList, by rw [Text.toList_append, hrest, List.cons_append]⟩

/-- The roots that a text can start with. -/
theorem root_ofText (text : Text) : (ofText text).root ∈ ["", "/", "//"] := by
  show rootOf text.toList ∈ _
  unfold rootOf
  split <;> simp

/-! ## The text of a path -/

/-- The text of an absolute path is its root and its parts with slashes between them. -/
theorem toList_text {p : Path} (h : p.isAbsolute = true) :
    p.text.toList = (Text.ofString p.root).toList ++
      [.char '/'].intercalate (p.parts.map Text.toList) := by
  have hroot : p.root ≠ "" := by simpa [isAbsolute] using h
  have hne : (Text.ofString p.root ++ Text.intercalate "/" p.parts).isEmpty = false := by
    simp [Text.isEmpty, hroot]
  rw [text, hne]
  simp

/-- The text of a path is not empty. -/
theorem text_ne_empty (p : Path) : p.text ≠ "" := by
  unfold text
  dsimp only
  split
  · decide
  · rename_i h
    simpa [Text.isEmpty_iff] using h

/-- A letter other than a slash is in the text of an absolute path if and only if it is in a part,
unless it is in the root. -/
theorem mem_text_iff {p : Path} (h : p.isAbsolute = true) {c : Letter} (hslash : c ≠ .char '/')
    (hroot : c ∉ (Text.ofString p.root).toList) :
    c ∈ p.text.toList ↔ ∃ part ∈ p.parts, c ∈ part.toList := by
  rw [toList_text h, List.mem_append, or_iff_right hroot, mem_intercalate_iff hslash]
  simp

/-- Parts that can be parts begin with no slash. -/
theorem takeWhile_intercalate {parts : List Text} (h : ∀ part ∈ parts, IsPart part) :
    ([.char '/'].intercalate (parts.map Text.toList)).takeWhile (· == .char '/') = [] := by
  cases parts with
  | nil => rfl
  | cons first rest =>
    obtain ⟨hempty, -, hslash⟩ := h first List.mem_cons_self
    obtain ⟨c, cs, hfirst⟩ := List.exists_cons_of_ne_nil (mt Text.toList_eq_nil_iff.mp hempty)
    rw [hfirst, List.mem_cons, not_or] at hslash
    have hc : (c == .char '/') = false := beq_eq_false_iff_ne.mpr (Ne.symm hslash.1)
    cases rest with
    | nil => simp [hfirst, hc]
    | cons second rest =>
      rw [List.map_cons, List.map_cons, List.intercalate_cons_cons, hfirst]
      simp [hc]

/-- A root is read off the front of a text, and gives no parts. -/
theorem rootOf_append {root : String} (hroot : root ∈ ["/", "//"]) {rest : List Letter}
    (h : rest.takeWhile (· == .char '/') = []) :
    rootOf ((Text.ofString root).toList ++ rest) = root ∧
      partsOf ((Text.ofString root).toList ++ rest) = partsOf rest := by
  have hone (rest : List Letter) : partsOf (.char '/' :: rest) = partsOf rest :=
    partsOf_append [] rest
  rw [List.mem_pair] at hroot
  rcases hroot with rfl | rfl
  · simp [rootOf, h, hone]
  · simp [rootOf, h, hone]

/-- The text of an absolute path is read as that path. -/
theorem ofText_text {p : Path} (hroot : p.root ∈ ["/", "//"])
    (hparts : ∀ part ∈ p.parts, IsPart part) : ofText p.text = p := by
  have habsolute : p.isAbsolute = true := by
    rcases List.mem_pair.mp hroot with h | h <;> simp [isAbsolute, h]
  obtain ⟨hread, hrest⟩ := rootOf_append hroot (takeWhile_intercalate hparts)
  rw [ofText, toList_text habsolute, hread, ← partsOf, hrest, partsOf_intercalate hparts]

/-! ## Names -/

/-- Whether the system takes a text as a name: halves of pairs in it stand for bytes, and it has no
NUL. -/
def IsSystemName (name : Text) : Prop :=
  (∀ h, .lone h ∈ name.toList → isByte h = true) ∧ .char '\x00' ∉ name.toList

/-- A text passes the check of names if and only if it is one. -/
theorem checkName_eq_ok_iff (name : Text) : checkName name = .ok () ↔ IsSystemName name := by
  unfold checkName IsSystemName
  rw [← Text.unencodable?_eq_none_iff isByte 0]
  cases hwhy : Text.unencodable? isByte 0 name.toList with
  | some why => simp
  | none =>
    by_cases hnull : Letter.char '\x00' ∈ name.toList <;> simp [hnull]

/-- A string is a name if and only if it has no NUL. -/
theorem isSystemName_ofString (s : String) : IsSystemName s ↔ '\x00' ∉ s.toList := by
  simp [IsSystemName, List.mem_map]

/-- A text is a name if and only if its parts are, where these have all its letters but slashes and
dots. -/
theorem isSystemName_iff_of_mem {text : Text} {parts : List Text}
    (h : ∀ l, l ≠ .char '/' → l ≠ .char '.' → (l ∈ text.toList ↔ ∃ part ∈ parts, l ∈ part.toList)) :
    IsSystemName text ↔ ∀ part ∈ parts, IsSystemName part := by
  have hlone := fun s => h (.lone s) (by simp) (by simp)
  have hnull := h (.char '\x00') (by decide) (by decide)
  simp only [IsSystemName, hlone, hnull]
  constructor
  · rintro ⟨hbytes, hnone⟩ part hpart
    exact ⟨fun s hs => hbytes s ⟨part, hpart, hs⟩, fun hs => hnone ⟨part, hpart, hs⟩⟩
  · intro hparts
    refine ⟨?_, ?_⟩
    · rintro s ⟨part, hpart, hs⟩
      exact (hparts part hpart).1 s hs
    · rintro ⟨part, hpart, hs⟩
      exact (hparts part hpart).2 hs

/-- A text is a name if and only if the parts of its path are. -/
theorem isSystemName_iff_parts (text : Text) :
    IsSystemName text ↔ ∀ part ∈ (ofText text).parts, IsSystemName part :=
  isSystemName_iff_of_mem fun _ hslash hdot => mem_toList_iff hslash hdot text

/-- The text of an absolute path has the letters of its parts, but for slashes. -/
theorem mem_text_iff_of_root {p : Path} (hroot : p.root ∈ ["/", "//"]) {l : Letter}
    (hslash : l ≠ .char '/') : l ∈ p.text.toList ↔ ∃ part ∈ p.parts, l ∈ part.toList := by
  rcases List.mem_pair.mp hroot with h | h <;>
    exact mem_text_iff (by simp [isAbsolute, h]) hslash (by simp [h, hslash])

/-- The text of an absolute path is a name if and only if its parts are. -/
theorem isSystemName_text_iff {p : Path} (hroot : p.root ∈ ["/", "//"]) :
    IsSystemName p.text ↔ ∀ part ∈ p.parts, IsSystemName part :=
  isSystemName_iff_of_mem fun _ hslash _ => mem_text_iff_of_root hroot hslash

/-! ## Parts from the root on -/

/-- Parts after parts are followed from where these lead. -/
theorem resolveParts_append (done front back : List Text) :
    resolveParts done (front ++ back) = resolveParts (resolveParts done front) back := by
  induction front generalizing done with
  | nil => rfl
  | cons part rest ih => exact ih _

/-- Parts without two dots come after those that are done. -/
theorem resolveParts_of_notMem {parts : List Text} (h : Text.ofString ".." ∉ parts)
    (done : List Text) :
    resolveParts done parts = done ++ parts := by
  induction parts generalizing done with
  | nil => exact (List.append_nil done).symm
  | cons part rest ih =>
    rw [List.mem_cons, not_or] at h
    rw [resolveParts, if_neg (Ne.symm h.1), ih h.2, List.append_assoc]
    rfl

/-- Parts that do not lead out of a directory come after its parts. -/
theorem resolveParts_below {parts : List Text} (h : Text.ofString ".." ∉ parts)
    (front : List Text) :
    resolveParts [] (front ++ parts) = resolveParts [] front ++ parts := by
  rw [resolveParts_append, resolveParts_of_notMem h]

/-- A part from the root on is one that is done, or one that follows and is not of two dots. -/
theorem mem_resolveParts {done parts : List Text} {part : Text}
    (h : part ∈ resolveParts done parts) : part ∈ done ∨ part ∈ parts ∧ part ≠ ".." := by
  induction parts generalizing done with
  | nil => exact Or.inl h
  | cons first rest ih =>
    rcases ih h with hdone | ⟨hrest, hne⟩
    · split at hdone
      · exact Or.inl (List.dropLast_subset done hdone)
      · rename_i hfirst
        rcases List.mem_append.mp hdone with hdone | hdone
        · exact Or.inl hdone
        · rw [List.mem_singleton.mp hdone]
          exact Or.inr ⟨List.mem_cons_self, hfirst⟩
    · exact Or.inr ⟨List.mem_cons_of_mem first hrest, hne⟩

end MaskedReport.Path
