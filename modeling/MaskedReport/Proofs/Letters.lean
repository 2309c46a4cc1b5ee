import Mathlib.Data.List.Basic
import MaskedReport.Text.Letter

/-!
# Texts and their characters

The laws of texts: what putting texts together does to their letters and to their characters. A text
whose letters are all characters is the text of a string, `Text.ofString_string`, and just such a
text can be encoded, `Text.unencodable?_eq_none_iff_isPlain`.
-/

set_option autoImplicit false

namespace MaskedReport

namespace Letter

/-- The character of a character is itself. -/
@[simp]
theorem asChar_char (c : Char) : (char c).asChar = c := rfl

/-- The code point of a character is its own. -/
@[simp]
theorem code_char (c : Char) : (char c).code = c.toNat := rfl

/-- A character is not half of a pair. -/
@[simp]
theorem isLone_char (c : Char) : (char c).isLone = false := rfl

/-- Half of a pair is one. -/
@[simp]
theorem isLone_lone (s : Surrogate) : (lone s).isLone = true := rfl

/-- A letter that is not half of a pair is its character. -/
theorem char_asChar {l : Letter} (h : l.isLone = false) : char l.asChar = l := by
  cases l with
  | char c => rfl
  | lone s => cases h

/-- Different characters are different letters. -/
theorem char_injective : Function.Injective char := fun _ _ h => Letter.char.inj h

/-- Different letters have different code points: no character has that of half of a pair. -/
theorem code_injective : Function.Injective code := by
  have hapart : ∀ (c : Char) (s : Surrogate), c.toNat ≠ s.code := by
    intro c s h
    have hvalid : c.toNat.isValidChar := c.valid
    have hhalf := s.isHalf
    rw [h, Nat.isValidChar] at hvalid
    omega
  intro l m h
  cases l with
  | char c =>
    cases m with
    | char d => exact congrArg char (Char.toNat_inj.mp h)
    | lone s => exact absurd h (hapart c s)
  | lone s =>
    cases m with
    | char d => exact absurd h.symm (hapart d s)
    | lone t =>
      cases s
      cases t
      cases h
      rfl

end Letter

namespace Text

/-! ## Letters -/

/-- Texts of the same letters are the same. -/
@[ext]
theorem ext {s t : Text} (h : s.toList = t.toList) : s = t := by
  cases s
  cases t
  cases h
  rfl

/-- The text of the letters of a text is that text. -/
@[simp]
theorem ofList_toList (s : Text) : ofList s.toList = s := rfl

/-- The letters of the text of a string are its characters. -/
@[simp]
theorem toList_ofString (s : String) : (ofString s).toList = s.toList.map .char := rfl

/-- The letters of two texts one after the other. -/
@[simp]
theorem toList_append (s t : Text) : (s ++ t).toList = s.toList ++ t.toList := rfl

/-- The letters of joined texts. -/
@[simp]
theorem toList_intercalate (between : Text) (texts : List Text) :
    (intercalate between texts).toList = between.toList.intercalate (texts.map toList) := rfl

/-- Strings put together give the texts put together. -/
@[simp]
theorem ofString_append (s t : String) : ofString (s ++ t) = ofString s ++ ofString t := by
  ext1
  simp

/-- Different strings are different texts. -/
theorem ofString_injective : Function.Injective ofString := by
  intro s t h
  have hletters : s.toList.map Letter.char = t.toList.map .char := congrArg toList h
  exact String.toList_inj.mp ((List.map_injective_iff.mpr Letter.char_injective) hletters)

/-- Texts of strings are the same iff the strings are. -/
@[simp]
theorem ofString_inj {s t : String} : ofString s = ofString t ↔ s = t := ofString_injective.eq_iff

/-- Putting texts together is associative. -/
theorem append_assoc (s t u : Text) : s ++ t ++ u = s ++ (t ++ u) :=
  ext (List.append_assoc ..)

/-- Nothing before a text leaves it as it is. -/
@[simp]
theorem empty_append (s : Text) : ofString "" ++ s = s := rfl

/-- Nothing after a text leaves it as it is. -/
@[simp]
theorem append_empty (s : Text) : s ++ ofString "" = s := ext (List.append_nil _)

/-- A text has no letters iff it is empty. -/
theorem toList_eq_nil_iff {s : Text} : s.toList = [] ↔ s = ofString "" :=
  ⟨fun h => ext h, fun h => congrArg toList h⟩

/-- A text is empty iff it has no letters. -/
@[simp]
theorem isEmpty_iff {s : Text} : s.isEmpty = true ↔ s = ofString "" := by
  rw [isEmpty, List.isEmpty_iff, toList_eq_nil_iff]

/-- A text with letters is not empty. -/
@[simp]
theorem isEmpty_eq_false_iff {s : Text} : s.isEmpty = false ↔ s ≠ ofString "" := by
  rw [← Bool.not_eq_true, isEmpty_iff]

/-- What comes after a text is determined by both together. -/
theorem append_right_inj (s : Text) {t u : Text} : s ++ t = s ++ u ↔ t = u := by
  simp [Text.ext_iff]

/-! ## Joining -/

/-- Nothing joined is nothing. -/
@[simp]
theorem intercalate_nil (between : Text) : intercalate between [] = ofString "" := rfl

/-- One text joined is itself. -/
@[simp]
theorem intercalate_singleton (between s : Text) : intercalate between [s] = s := by
  ext1
  simp

/-- The first of several texts comes before the others. -/
theorem intercalate_cons_cons (between s t : Text) (rest : List Text) :
    intercalate between (s :: t :: rest) = s ++ between ++ intercalate between (t :: rest) := by
  ext1
  simp

/-- The first of more texts comes before the others. -/
theorem intercalate_cons_of_ne_nil (between s : Text) {rest : List Text} (h : rest ≠ []) :
    intercalate between (s :: rest) = s ++ between ++ intercalate between rest := by
  cases rest with
  | nil => exact absurd rfl h
  | cons t rest => exact intercalate_cons_cons between s t rest

/-- What the first text begins with comes before all. -/
theorem intercalate_cons_append (between s t : Text) (rest : List Text) :
    intercalate between ((s ++ t) :: rest) = s ++ intercalate between (t :: rest) := by
  cases rest with
  | nil => simp
  | cons u rest => simp only [intercalate_cons_cons, append_assoc]

/-! ## Characters -/

/-- The characters of the text of a string are those of the string. -/
@[simp]
theorem chars_ofString (s : String) : (ofString s).chars = s.toList := by
  simp [chars, Function.comp_def]

/-- The characters of two texts one after the other. -/
@[simp]
theorem chars_append (s t : Text) : (s ++ t).chars = s.chars ++ t.chars := List.map_append

/-- The text of a string has that string. -/
@[simp]
theorem string_ofString (s : String) : (ofString s).string = s := by
  rw [string, chars_ofString, String.ofList_toList]

/-- The characters of the string of a text are its own. -/
@[simp]
theorem toList_string (s : Text) : s.string.toList = s.chars := String.toList_ofList

/-- The strings of two texts one after the other. -/
theorem string_append (s t : Text) : (s ++ t).string = s.string ++ t.string := by
  apply String.toList_inj.mp
  simp

/-! ## Plain texts -/

/-- The text of a string is plain. -/
@[simp]
theorem isPlain_ofString (s : String) : (ofString s).isPlain = true := by
  simp [isPlain]

/-- Two texts one after the other are plain iff each is. -/
@[simp]
theorem isPlain_append (s t : Text) : (s ++ t).isPlain = (s.isPlain && t.isPlain) :=
  List.all_append

/-- A plain text is that of its string. -/
theorem ofString_string {s : Text} (h : s.isPlain = true) : ofString s.string = s := by
  ext1
  rw [toList_ofString, toList_string, chars, List.map_map]
  refine (List.map_congr_left fun l hl => ?_).trans (List.map_id s.toList)
  have hlone := List.all_eq_true.mp h l hl
  exact Letter.char_asChar (by simpa using hlone)

/-- A text is plain iff it is the text of a string. -/
theorem isPlain_iff {s : Text} : s.isPlain = true ↔ ∃ t, s = ofString t :=
  ⟨fun h => ⟨s.string, (ofString_string h).symm⟩, by rintro ⟨t, rfl⟩; exact isPlain_ofString t⟩

/-- Joined texts are plain iff the parts are, where what joins them is plain. -/
theorem isPlain_intercalate {between : Text} (h : between.isPlain = true) (texts : List Text) :
    (intercalate between texts).isPlain = texts.all isPlain := by
  induction texts with
  | nil => rfl
  | cons s rest ih =>
    cases rest with
    | nil => simp
    | cons t rest =>
      rw [intercalate_cons_cons, isPlain_append, isPlain_append, h, ih, Bool.and_true]
      rfl

/-- Letters can be encoded iff each half of a pair among them is one that is kept. -/
theorem unencodable?_eq_none_iff (isKept : Surrogate → Bool) (n : Nat) (letters : List Letter) :
    unencodable? isKept n letters = none ↔ ∀ s, .lone s ∈ letters → isKept s = true := by
  induction letters generalizing n with
  | nil => exact iff_of_true rfl (by simp)
  | cons l rest ih =>
    cases l with
    | char c => rw [unencodable?, ih]; simp
    | lone s =>
      cases hkept : isKept s with
      | true => rw [unencodable?, if_pos hkept, ih]; simp [hkept]
      | false => simp [unencodable?, hkept]

/-- A text is plain iff no letter of it is half of a pair. -/
theorem isPlain_iff_notMem {s : Text} : s.isPlain = true ↔ ∀ h, .lone h ∉ s.toList := by
  rw [isPlain, List.all_eq_true]
  constructor
  · intro hplain h hmem
    cases hplain _ hmem
  · intro hnone l hl
    cases l with
    | char c => rfl
    | lone h => exact absurd hl (hnone h)

/-- Nothing keeps a text from being encoded iff it is plain. -/
theorem unencodable?_eq_none_iff_isPlain (n : Nat) (s : Text) :
    unencodable? (fun _ => false) n s.toList = none ↔ s.isPlain = true := by
  rw [unencodable?_eq_none_iff, isPlain_iff_notMem]
  simp

end Text

end MaskedReport
