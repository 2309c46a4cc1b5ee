import Mathlib.Data.List.Forall2
import MaskedReport.Proofs.Rendering

/-!
# JSON in two layouts

The layouts of JSON differ in white space outside string literals and in nothing else. A scan of the
characters tells where the literals are: `Json.withoutSpace` drops the white space outside of them,
and by `Json.sameButSpace_write` what is left does not depend on the layout.
-/

set_option autoImplicit false

namespace MaskedReport

/-! ## Numerals -/

/-- Digits have no quotation mark. -/
theorem Decimal.quote_notMem_digitsOf (n : Nat) : '"' ∉ digitsOf n := by
  intro hmem
  have hdigit := Nat.isDigit_of_mem_toDigits (by decide) (by decide) hmem
  exact absurd hdigit (by decide)

/-- The digits without zeros at their end have no quotation mark. -/
theorem Decimal.quote_notMem_significant (n : Nat) : '"' ∉ significant n := by
  intro hmem
  have hkept := List.mem_reverse.mp hmem
  have hdigits := List.mem_reverse.mp ((List.dropWhile_sublist _).subset hkept)
  exact quote_notMem_digitsOf n hdigits

/-- An exponent has no quotation mark. -/
theorem Decimal.quote_notMem_exponentText (e : Int) : '"' ∉ exponentText e := by
  have hdigits := quote_notMem_digitsOf e.natAbs
  have hsign : '"' ≠ if e < 0 then '-' else '+' := by
    split
    · decide
    · decide
  rw [exponentText, List.mem_cons, not_or]
  refine ⟨hsign, ?_⟩
  split
  · simp [hdigits]
  · exact hdigits

/-- A decimal as it is written has no quotation mark. -/
theorem Decimal.quote_notMem_written (d : Decimal) : '"' ∉ d.written := by
  have hdigits := quote_notMem_significant d.digits
  have hexponent := quote_notMem_exponentText (d.point - 1)
  have htake : ∀ n, '"' ∉ (significant d.digits).take n :=
    fun n hmem => hdigits (List.mem_of_mem_take hmem)
  have hdrop : ∀ n, '"' ∉ (significant d.digits).drop n :=
    fun n hmem => hdigits (List.mem_of_mem_drop hmem)
  unfold written
  dsimp only
  split
  · split
    · simp [hdigits]
    · split
      · simp [hdigits]
      · simp [htake, hdrop]
  · split
    · simp [hexponent]
    · simp_all
    · simp_all

/-- The text of a double has no quotation mark. -/
theorem Binary64.quote_notMem_text (x : Binary64) : '"' ∉ x.text.toList := by
  have hsign : ∀ n : Bool, '"' ∉ if n then ['-'] else [] := by decide
  cases x with
  | nan => decide
  | infinite n => cases n <;> decide
  | finite n m p =>
    cases m with
    | zero =>
      cases n with
      | false => exact (by decide : '"' ∉ "0.0".toList)
      | true => exact (by decide : '"' ∉ "-0.0".toList)
    | succ m =>
      have hwritten := Decimal.quote_notMem_written (Decimal.shortest (m + 1) p)
      show '"' ∉ (String.ofList _).toList
      rw [String.toList_ofList, List.mem_append, not_or]
      exact ⟨hsign n, hwritten⟩

/-- The text of a whole number has no quotation mark. -/
theorem quote_notMem_wholeText {i : Int} {t : String} (h : wholeText i = .ok t) :
    '"' ∉ t.toList := by
  unfold wholeText at h
  split at h
  · cases h
  · cases h
    rw [Int.toString_eq_repr, Int.repr_eq_if]
    split
    · rw [Nat.toList_repr]
      exact Decimal.quote_notMem_digitsOf _
    · rw [String.toList_append, Nat.toList_repr, List.mem_append, not_or]
      exact ⟨by decide, Decimal.quote_notMem_digitsOf _⟩

namespace Json

/-- The form of a double has no quotation mark. -/
theorem quote_notMem_realText (x : Binary64) : '"' ∉ (realText x).toList := by
  cases x with
  | nan => decide
  | infinite n => cases n <;> decide
  | finite n m p => exact (Binary64.finite n m p).quote_notMem_text

/-! ## White space -/

/-- Where a character of a JSON text stands: outside string literals, inside one, or inside one
after a backslash. -/
inductive Zone where
  | outside
  | inside
  | escaped
  deriving DecidableEq

/-- Where the next character stands. -/
def Zone.next : Zone → Char → Zone
  | .outside, c => if c = '"' then .inside else .outside
  | .inside, c => if c = '"' then .outside else if c = '\\' then .escaped else .inside
  | .escaped, _ => .inside

/-- Whether a character is white space. -/
def isSpace (c : Char) : Bool := c = ' ' || c = '\t' || c = '\n' || c = '\r'

/-- The characters but for white space outside string literals. -/
def spaceless : Zone → List Char → List Char
  | _, [] => []
  | z, c :: rest =>
    if z = .outside ∧ isSpace c then spaceless z rest else c :: spaceless (z.next c) rest

/-- A text without the white space outside its string literals. -/
def withoutSpace (s : String) : String := String.ofList (spaceless .outside s.toList)

/-- A space outside the literals leads into none. -/
theorem next_of_isSpace {c : Char} (h : isSpace c = true) : Zone.next .outside c = .outside := by
  have hquote : c ≠ '"' := by
    rintro rfl
    exact absurd h (by decide)
  rw [Zone.next, if_neg hquote]

/-- Space is left out of two texts one after the other as it is of either. -/
theorem spaceless_append (z : Zone) (s t : List Char) :
    spaceless z (s ++ t) = spaceless z s ++ spaceless (s.foldl Zone.next z) t := by
  induction s generalizing z with
  | nil => rfl
  | cons c s ih =>
    rw [List.cons_append, spaceless, spaceless, List.foldl_cons]
    by_cases hdropped : z = .outside ∧ isSpace c = true
    · rw [if_pos hdropped, if_pos hdropped, ih, hdropped.1, next_of_isSpace hdropped.2]
    · rw [if_neg hdropped, if_neg hdropped, ih, List.cons_append]

/-- Texts that have their literals closed and differ only in white space outside of them. -/
structure SameButSpace (s t : Text) : Prop where
  closed_left : s.chars.foldl Zone.next .outside = .outside
  closed_right : t.chars.foldl Zone.next .outside = .outside
  spaceless_eq : spaceless .outside s.chars = spaceless .outside t.chars

/-- A text without quotation marks leads into no literal. -/
theorem foldl_next_of_quote_notMem {s : List Char} (h : '"' ∉ s) :
    s.foldl Zone.next .outside = .outside := by
  induction s with
  | nil => rfl
  | cons c s ih =>
    obtain ⟨hc, hs⟩ := not_or.mp fun hmem => h (List.mem_cons.mpr hmem)
    rw [List.foldl_cons, Zone.next, if_neg (Ne.symm hc), ih hs]

/-- The text of a string without quotation marks leads into no literal. -/
theorem foldl_next_ofString {s : String} (h : '"' ∉ s.toList) :
    (Text.ofString s).chars.foldl Zone.next .outside = .outside := by
  rw [Text.chars_ofString]
  exact foldl_next_of_quote_notMem h

/-- A character in its form keeps the scan inside the literal. -/
theorem foldl_next_escape (c : Char) : (escape c).foldl Zone.next .inside = .inside := by
  by_cases hquote : c = '"'
  · rw [escape, if_pos hquote]
    rfl
  by_cases hslash : c = '\\'
  · rw [escape, if_neg hquote, if_pos hslash]
    rfl
  have hplain : [c].foldl Zone.next .inside = .inside := by
    rw [List.foldl_cons, Zone.next, if_neg hquote, if_neg hslash, List.foldl_nil]
  have hcode : ∀ n < 32, ('\\' :: 'u' :: Quoted.hex 4 n).foldl Zone.next .inside = .inside := by
    decide
  rw [escape, if_neg hquote, if_neg hslash]
  repeat' split
  · rfl
  · rfl
  · rfl
  · rfl
  · rfl
  · exact hcode _ ‹_›
  · exact hplain

/-- A quoted text closes its literal. -/
theorem foldl_next_quoted (s : Text) :
    (quoted s).chars.foldl Zone.next .outside = .outside := by
  have hinside : ∀ t : List Char, (t.flatMap escape).foldl Zone.next .inside = .inside := by
    intro t
    induction t with
    | nil => rfl
    | cons c t ih => rw [List.flatMap_cons, List.foldl_append, foldl_next_escape, ih]
  have hopened : Zone.next .outside '"' = .inside := rfl
  rw [chars_quoted, List.foldl_cons, hopened, List.foldl_append, hinside]
  rfl

namespace SameButSpace

variable {s t u v : Text}

/-- A text that closes its literals is the same as itself. -/
theorem of_closed (h : s.chars.foldl Zone.next .outside = .outside) : SameButSpace s s :=
  ⟨h, h, rfl⟩

/-- Texts that are the same but for space may stand one after the other. -/
theorem append (h : SameButSpace s t) (h' : SameButSpace u v) :
    SameButSpace (s ++ u) (t ++ v) := by
  constructor
  · rw [Text.chars_append, List.foldl_append, h.closed_left, h'.closed_left]
  · rw [Text.chars_append, List.foldl_append, h.closed_right, h'.closed_right]
  · rw [Text.chars_append, Text.chars_append, spaceless_append, spaceless_append,
      h.closed_left, h.closed_right, h.spaceless_eq, h'.spaceless_eq]

/-- White space makes no difference. -/
theorem of_spaces (hs : ∀ c ∈ s.chars, isSpace c = true) (ht : ∀ c ∈ t.chars, isSpace c = true) :
    SameButSpace s t := by
  have hscan : ∀ r : List Char, (∀ c ∈ r, isSpace c = true) →
      r.foldl Zone.next .outside = .outside ∧ spaceless .outside r = [] := by
    intro r hr
    induction r with
    | nil => exact ⟨rfl, rfl⟩
    | cons c r ih =>
      have hc := hr c List.mem_cons_self
      have hrest := ih fun d hd => hr d (List.mem_cons_of_mem c hd)
      rw [List.foldl_cons, next_of_isSpace hc, spaceless, if_pos ⟨rfl, hc⟩]
      exact hrest
  obtain ⟨hs, hsnil⟩ := hscan s.chars hs
  obtain ⟨ht, htnil⟩ := hscan t.chars ht
  exact ⟨hs, ht, hsnil.trans htnil.symm⟩

/-- A line end after a text makes no difference. -/
theorem append_newline (h : SameButSpace s t) : SameButSpace (s ++ "\n") t := by
  have hspaces : ∀ c ∈ (Text.ofString "\n").chars, isSpace c = true := by
    intro c hc
    rw [List.mem_singleton.mp hc]
    rfl
  have hend : SameButSpace "\n" "" := .of_spaces hspaces nofun
  have happended := h.append hend
  rwa [Text.append_empty] at happended

/-- Strings that are the same but for space are equal without it. -/
theorem withoutSpace_eq {s t : String} (h : SameButSpace s t) :
    withoutSpace s = withoutSpace t := by
  have hspaceless := h.spaceless_eq
  rw [Text.chars_ofString, Text.chars_ofString] at hspaceless
  exact congrArg String.ofList hspaceless

end SameButSpace

/-! ## Layouts -/

section

variable (l m : Layout) (d e : Nat)

/-- A line end is all space. -/
theorem isSpace_of_mem_lineEnd {l : Layout} {d : Nat} {c : Char} (h : c ∈ (lineEnd l d).toList) :
    isSpace c = true := by
  unfold lineEnd at h
  split at h
  · cases h
  · rw [String.toList_append] at h
    rcases List.mem_append.mp h with h | h
    · rw [List.mem_singleton.mp h]
      rfl
    · rw [String.toList_ofList] at h
      rw [List.eq_of_mem_replicate h]
      rfl

/-- Line ends of any layouts are the same but for space. -/
theorem sameButSpace_lineEnd : SameButSpace (lineEnd l d) (lineEnd m e) :=
  .of_spaces (by simpa using fun _ => isSpace_of_mem_lineEnd)
    (by simpa using fun _ => isSpace_of_mem_lineEnd)

/-- A separator is a comma and white space. -/
theorem exists_separator : ∃ spaces : String,
    separator l d = "," ++ spaces ∧ ∀ c ∈ spaces.toList, isSpace c = true := by
  unfold separator
  split
  · refine ⟨" ", rfl, fun c hc => ?_⟩
    rw [List.mem_singleton.mp hc]
    rfl
  · exact ⟨lineEnd l d, rfl, fun _ => isSpace_of_mem_lineEnd⟩

/-- Separators of any layouts are the same but for space. -/
theorem sameButSpace_separator : SameButSpace (separator l d) (separator m e) := by
  obtain ⟨spaces, hl, hspaces⟩ := exists_separator l d
  obtain ⟨others, hm, hothers⟩ := exists_separator m e
  rw [hl, hm, Text.ofString_append, Text.ofString_append]
  exact (SameButSpace.of_closed rfl).append
    (.of_spaces (by simpa using hspaces) (by simpa using hothers))

/-- Texts that are the same but for space may be joined. -/
theorem sameButSpace_intercalate {s t : Text} (hseparator : SameButSpace s t)
    {texts others : List Text} (h : List.Forall₂ SameButSpace texts others) :
    SameButSpace (s.intercalate texts) (t.intercalate others) := by
  induction h with
  | nil => exact .of_closed rfl
  | @cons a b rest others hfirst hrest ih =>
    cases hrest with
    | nil =>
      rw [Text.intercalate_singleton, Text.intercalate_singleton]
      exact hfirst
    | cons _ _ =>
      rw [Text.intercalate_cons_cons, Text.intercalate_cons_cons]
      exact (hfirst.append hseparator).append ih

/-- Texts that are the same but for space may stand between brackets. -/
theorem sameButSpace_enclose {opening closing : String} (hopening : SameButSpace opening opening)
    (hclosing : SameButSpace closing closing) {texts others : List Text}
    (h : List.Forall₂ SameButSpace texts others) :
    SameButSpace (enclose l d opening closing texts) (enclose m e opening closing others) := by
  have hinside := sameButSpace_intercalate (sameButSpace_separator l m (d + 1) (e + 1)) h
  unfold enclose
  cases h with
  | nil => exact hopening.append hclosing
  | cons _ _ =>
    exact (((hopening.append (sameButSpace_lineEnd ..)).append hinside).append
      (sameButSpace_lineEnd ..)).append hclosing

end

/-- A key has one text in all layouts. -/
theorem keyText_of_keyText {l m : Layout} {k : Value} {t : Text} (h : keyText l k = .ok t) :
    keyText m k = .ok t := by
  cases k <;> first | exact h | cases h

/-- A text that does not depend on the layout. -/
theorem sameButSpace_of_quoted {x : Except Failure Text} {t u : Text}
    (ht : (do return quoted (← x)) = Except.ok t) (hu : (do return quoted (← x)) = Except.ok u) :
    SameButSpace t u := by
  obtain ⟨s, hs, ht⟩ := bind_eq_ok ht
  cases Except.ok.inj (hu.symm.trans (by rw [hs]; exact ht))
  cases ht
  exact .of_closed (foldl_next_quoted s)

mutual

/-- A value written in two layouts, and at two depths, is the same but for white space. -/
theorem sameButSpace_write (l m : Layout) :
    (d e : Nat) → (v : Value) → ∀ {t u : Text}, write l d v = .ok t → write m e v = .ok u →
      SameButSpace t u
  | _, _, .null => by
    intro ht hu
    cases ht
    cases hu
    exact .of_closed rfl
  | _, _, .bool b => by
    intro ht hu
    cases ht
    cases hu
    refine .of_closed (foldl_next_ofString ?_)
    cases b <;> decide
  | _, _, .int i => by
    intro ht hu
    obtain ⟨s, hs, ht⟩ := bind_eq_ok ht
    obtain ⟨r, hr, hu⟩ := bind_eq_ok hu
    cases hs.symm.trans hr
    cases ht
    cases hu
    exact .of_closed (foldl_next_ofString (quote_notMem_wholeText hs))
  | _, _, .real x => by
    intro ht hu
    cases ht
    cases hu
    exact .of_closed (foldl_next_ofString (quote_notMem_realText x))
  | _, _, .text s => by
    intro ht hu
    cases ht
    cases hu
    exact .of_closed (foldl_next_quoted s)
  | d, e, .list items => by
    intro ht hu
    obtain ⟨texts, htexts, ht⟩ := bind_eq_ok ht
    obtain ⟨others, hothers, hu⟩ := bind_eq_ok hu
    cases ht
    cases hu
    exact sameButSpace_enclose l m d e (.of_closed rfl) (.of_closed rfl)
      (sameButSpace_writeItems l m _ _ items htexts hothers)
  | d, e, .tuple items => by
    intro ht hu
    obtain ⟨texts, htexts, ht⟩ := bind_eq_ok ht
    obtain ⟨others, hothers, hu⟩ := bind_eq_ok hu
    cases ht
    cases hu
    exact sameButSpace_enclose l m d e (.of_closed rfl) (.of_closed rfl)
      (sameButSpace_writeItems l m _ _ items htexts hothers)
  | d, e, .map entries => by
    intro ht hu
    obtain ⟨texts, htexts, ht⟩ := bind_eq_ok ht
    obtain ⟨others, hothers, hu⟩ := bind_eq_ok hu
    cases ht
    cases hu
    exact sameButSpace_enclose l m d e (.of_closed rfl) (.of_closed rfl)
      (sameButSpace_writeEntries l m _ _ entries htexts hothers)
  | _, _, .set _ => sameButSpace_of_quoted
  | _, _, .bytes _ => sameButSpace_of_quoted
  | _, _, .date _ => sameButSpace_of_quoted
  | _, _, .instant _ => sameButSpace_of_quoted
  | _, _, .pattern _ => sameButSpace_of_quoted
  | _, _, .bytePattern _ => sameButSpace_of_quoted
  | _, _, .loop _ => by nofun

/-- The texts of items in two layouts are the same but for space. -/
theorem sameButSpace_writeItems (l m : Layout) :
    (d e : Nat) → (items : List Value) → ∀ {texts others : List Text},
      writeItems l d items = .ok texts → writeItems m e items = .ok others →
      List.Forall₂ SameButSpace texts others
  | _, _, [] => by
    intro ht hu
    cases ht
    cases hu
    exact .nil
  | d, e, v :: rest => by
    intro ht hu
    obtain ⟨t, htext, ht⟩ := bind_eq_ok ht
    obtain ⟨ts, htexts, ht⟩ := bind_eq_ok ht
    obtain ⟨u, hother, hu⟩ := bind_eq_ok hu
    obtain ⟨us, hothers, hu⟩ := bind_eq_ok hu
    cases ht
    cases hu
    exact .cons (sameButSpace_write l m d e v htext hother)
      (sameButSpace_writeItems l m d e rest htexts hothers)

/-- The texts of entries in two layouts are the same but for space. -/
theorem sameButSpace_writeEntries (l m : Layout) :
    (d e : Nat) → (entries : List (Value × Value)) → ∀ {texts others : List Text},
      writeEntries l d entries = .ok texts → writeEntries m e entries = .ok others →
      List.Forall₂ SameButSpace texts others
  | _, _, [] => by
    intro ht hu
    cases ht
    cases hu
    exact .nil
  | d, e, (k, v) :: rest => by
    intro ht hu
    obtain ⟨key, hkey, ht⟩ := bind_eq_ok ht
    obtain ⟨t, htext, ht⟩ := bind_eq_ok ht
    obtain ⟨ts, htexts, ht⟩ := bind_eq_ok ht
    obtain ⟨key', hkey', hu⟩ := bind_eq_ok hu
    obtain ⟨u, hother, hu⟩ := bind_eq_ok hu
    obtain ⟨us, hothers, hu⟩ := bind_eq_ok hu
    cases ht
    cases hu
    cases (keyText_of_keyText hkey).symm.trans hkey'
    have hlabel : SameButSpace (quoted key ++ ": ") (quoted key ++ ": ") :=
      (SameButSpace.of_closed (foldl_next_quoted key)).append (.of_closed rfl)
    exact .cons (hlabel.append (sameButSpace_write l m d e v htext hother))
      (sameButSpace_writeEntries l m d e rest htexts hothers)

end

end Json

end MaskedReport
