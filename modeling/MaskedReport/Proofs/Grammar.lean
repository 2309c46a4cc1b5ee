import MaskedReport.Proofs.Layouts

/-!
# The grammar of JSON

Which characters are a JSON text: a value with white space around it, where a value is a name, a
number, a string literal, an array or an object. The grammar knows the names `null`, `true` and
`false` only, so no text of it has a capital `N` or `I` outside its string literals:
`Json.IsText.lowercase`. That is what keeps `NaN` and `Infinity` out.
-/

set_option autoImplicit false

namespace MaskedReport.Json

/-! ## Tokens -/

/-- Characters that are all white space. -/
def IsSpaces (s : List Char) : Prop := ∀ c ∈ s, isSpace c = true

/-- Whether a character is a hexadecimal digit. -/
def isHexDigit (c : Char) : Bool :=
  c.isDigit || ('a' ≤ c && c ≤ 'f') || ('A' ≤ c && c ≤ 'F')

/-- One character of a string literal, as it is or escaped. -/
inductive IsLetter : List Char → Prop
  | plain (c : Char) (hcontrol : 32 ≤ c.toNat) (hquote : c ≠ '"') (hslash : c ≠ '\\') :
    IsLetter [c]
  | escaped (c : Char) (h : c ∈ ['"', '\\', '/', 'b', 'f', 'n', 'r', 't']) : IsLetter ['\\', c]
  | code (ds : List Char) (hlength : ds.length = 4) (h : ∀ c ∈ ds, isHexDigit c = true) :
    IsLetter ('\\' :: 'u' :: ds)

/-- A string literal: letters between quotation marks. -/
inductive IsLiteral : List Char → Prop
  | quoted (letters : List (List Char)) (h : ∀ l ∈ letters, IsLetter l) :
    IsLiteral ('"' :: (letters.flatten ++ ['"']))

/-- One or more decimal digits. -/
structure IsDigits (s : List Char) : Prop where
  ne_nil : s ≠ []
  digits : ∀ c ∈ s, c.isDigit = true

/-- The whole part of a number: no zero stands before other digits. -/
inductive IsWhole : List Char → Prop
  | zero : IsWhole ['0']
  | positive (c : Char) (rest : List Char) (hc : c.isDigit = true) (hzero : c ≠ '0')
    (hrest : ∀ d ∈ rest, d.isDigit = true) : IsWhole (c :: rest)

/-- The fraction of a number, if it has one. -/
inductive IsFraction : List Char → Prop
  | none : IsFraction []
  | places (ds : List Char) (h : IsDigits ds) : IsFraction ('.' :: ds)

/-- The exponent of a number, if it has one. -/
inductive IsExponent : List Char → Prop
  | none : IsExponent []
  | power (mark : Char) (sign ds : List Char) (hmark : mark = 'e' ∨ mark = 'E')
    (hsign : sign = [] ∨ sign = ['+'] ∨ sign = ['-']) (h : IsDigits ds) :
    IsExponent (mark :: (sign ++ ds))

/-- A number. -/
inductive IsNumber : List Char → Prop
  | parts (sign whole fraction exponent : List Char) (hsign : sign = [] ∨ sign = ['-'])
    (hwhole : IsWhole whole) (hfraction : IsFraction fraction) (hexponent : IsExponent exponent) :
    IsNumber (sign ++ whole ++ fraction ++ exponent)

/-! ## Values -/

mutual

/-- A value. -/
inductive IsValue : List Char → Prop
  | null : IsValue "null".toList
  | true : IsValue "true".toList
  | false : IsValue "false".toList
  | number {s : List Char} (h : IsNumber s) : IsValue s
  | literal {s : List Char} (h : IsLiteral s) : IsValue s
  | emptyArray {spaces : List Char} (h : IsSpaces spaces) : IsValue ('[' :: (spaces ++ [']']))
  | array {elements : List (List Char)} (hsome : elements ≠ [])
    (h : ∀ s ∈ elements, IsElement s) : IsValue ('[' :: ([','].intercalate elements ++ [']']))
  | emptyObject {spaces : List Char} (h : IsSpaces spaces) :
    IsValue ('\x7b' :: (spaces ++ ['\x7d']))
  | object {members : List (List Char)} (hsome : members ≠ []) (h : ∀ s ∈ members, IsMember s) :
    IsValue ('\x7b' :: ([','].intercalate members ++ ['\x7d']))

/-- A value with white space around it. -/
inductive IsElement : List Char → Prop
  | spaced {before s after : List Char} (hbefore : IsSpaces before) (h : IsValue s)
    (hafter : IsSpaces after) : IsElement (before ++ s ++ after)

/-- A name and a value with a colon between them, and white space around each. -/
inductive IsMember : List Char → Prop
  | named {before name after s : List Char} (hbefore : IsSpaces before) (hname : IsLiteral name)
    (hafter : IsSpaces after) (h : IsElement s) : IsMember (before ++ name ++ after ++ ':' :: s)

end

/-- A JSON text. -/
def IsText (s : List Char) : Prop := IsElement s

/-! ## White space around values -/

/-- No characters are spaces. -/
theorem isSpaces_nil : IsSpaces [] := nofun

/-- Spaces after spaces are spaces. -/
theorem IsSpaces.append {s t : List Char} (hs : IsSpaces s) (ht : IsSpaces t) :
    IsSpaces (s ++ t) := by
  intro c hc
  rcases List.mem_append.mp hc with h | h
  · exact hs c h
  · exact ht c h

/-- A value is an element without spaces around it. -/
theorem IsValue.isElement {s : List Char} (h : IsValue s) : IsElement s := by
  have hspaced := IsElement.spaced isSpaces_nil h isSpaces_nil
  simpa using hspaced

/-- More white space around an element is an element. -/
theorem IsElement.pad {before s after : List Char} (h : IsElement s) (hbefore : IsSpaces before)
    (hafter : IsSpaces after) : IsElement (before ++ s ++ after) := by
  cases h with
  | @spaced front t back hfront ht hback =>
    have hpadded := IsElement.spaced (hbefore.append hfront) ht (hback.append hafter)
    simpa using hpadded

/-- A member may have spaces around it. -/
theorem IsMember.pad {before s after : List Char} (h : IsMember s) (hbefore : IsSpaces before)
    (hafter : IsSpaces after) : IsMember (before ++ s ++ after) := by
  cases h with
  | named hfront hname hback helement =>
    have hvalue := helement.pad isSpaces_nil hafter
    have hpadded := IsMember.named (hbefore.append hfront) hname hback hvalue
    simpa using hpadded

/-! ## Outside string literals -/

/-- The characters that stand outside string literals, with the marks that open them. -/
def bare : Zone → List Char → List Char
  | _, [] => []
  | z, c :: rest => if z = .outside then c :: bare (z.next c) rest else bare (z.next c) rest

/-- What is bare in two texts one after the other is bare in either, read on from the zone before
it. -/
theorem bare_append (z : Zone) (s t : List Char) :
    bare z (s ++ t) = bare z s ++ bare (s.foldl Zone.next z) t := by
  induction s generalizing z with
  | nil => rfl
  | cons c s ih =>
    rw [List.cons_append, bare, bare, List.foldl_cons, ih]
    split
    · rfl
    · rfl

/-- All is bare in a text without quotation marks. -/
theorem bare_of_quote_notMem {s : List Char} (h : '"' ∉ s) : bare .outside s = s := by
  induction s with
  | nil => rfl
  | cons c s ih =>
    simp only [List.mem_cons, not_or] at h
    rw [bare, if_pos rfl, Zone.next, if_neg (Ne.symm h.1), ih h.2]

/-- Characters with all string literals closed and, outside of them, no capital that begins the
name of a double that is not finite. -/
structure IsLowercase (s : List Char) : Prop where
  closed : s.foldl Zone.next .outside = .outside
  free : ∀ c ∈ bare .outside s, c ≠ 'N' ∧ c ≠ 'I'

namespace IsLowercase

/-- Lower-case texts one after the other are lower-case. -/
theorem append {s t : List Char} (hs : IsLowercase s) (ht : IsLowercase t) :
    IsLowercase (s ++ t) := by
  refine ⟨?_, ?_⟩
  · rw [List.foldl_append, hs.closed, ht.closed]
  · intro c hc
    rw [bare_append, hs.closed] at hc
    rcases List.mem_append.mp hc with h | h
    · exact hs.free c h
    · exact ht.free c h

/-- A text without quotation marks and the two capitals is lower-case. -/
theorem of_chars {s : List Char} (h : ∀ c ∈ s, c ≠ '"' ∧ c ≠ 'N' ∧ c ≠ 'I') : IsLowercase s := by
  have hquote : '"' ∉ s := fun hmem => (h _ hmem).1 rfl
  refine ⟨foldl_next_of_quote_notMem hquote, ?_⟩
  rw [bare_of_quote_notMem hquote]
  exact fun c hc => (h c hc).2

/-- A text in which no character is found to be a quotation mark or a capital is lower-case. -/
theorem of_all {s : List Char} (h : (s.all fun c => c != '"' && c != 'N' && c != 'I') = true) :
    IsLowercase s :=
  of_chars (by simpa [and_assoc] using h)

/-- A character that is neither a quotation mark nor a capital may stand before a lower-case text.
-/
theorem cons {c : Char} {s : List Char} (hc : c ≠ '"' ∧ c ≠ 'N' ∧ c ≠ 'I') (hs : IsLowercase s) :
    IsLowercase (c :: s) := by
  have hfirst : IsLowercase [c] := of_chars (by simpa using hc)
  exact hfirst.append hs

/-- Lower-case texts with commas between them are lower-case. -/
theorem intercalate {parts : List (List Char)} (h : ∀ s ∈ parts, IsLowercase s) :
    IsLowercase ([','].intercalate parts) := by
  induction parts with
  | nil => exact of_chars nofun
  | cons s rest ih =>
    have hfirst := h s List.mem_cons_self
    have hrest := ih fun t ht => h t (List.mem_cons_of_mem s ht)
    cases rest with
    | nil => simpa using hfirst
    | cons t rest =>
      rw [List.intercalate_cons_cons]
      exact (hfirst.append (of_all (by decide))).append hrest

end IsLowercase

/-- Spaces are lower-case. -/
theorem IsSpaces.lowercase {s : List Char} (h : IsSpaces s) : IsLowercase s := by
  refine .of_chars fun c hc => ?_
  have hspace := h c hc
  refine ⟨?_, ?_, ?_⟩
  all_goals
    rintro rfl
    exact absurd hspace (by decide)

/-- A letter of a literal stays inside of it, where nothing is bare. -/
theorem IsLetter.inside {s : List Char} (h : IsLetter s) :
    s.foldl Zone.next .inside = .inside ∧ bare .inside s = [] := by
  have hplain : ∀ t : List Char, (∀ c ∈ t, c ≠ '"' ∧ c ≠ '\\') →
      t.foldl Zone.next .inside = .inside ∧ bare .inside t = [] := by
    intro t ht
    induction t with
    | nil => exact ⟨rfl, rfl⟩
    | cons c t ih =>
      have hc := ht c List.mem_cons_self
      have hnext : Zone.next .inside c = .inside := by rw [Zone.next, if_neg hc.1, if_neg hc.2]
      have hrest := ih fun d hd => ht d (List.mem_cons_of_mem c hd)
      rw [List.foldl_cons, bare, if_neg (by decide), hnext]
      exact hrest
  cases h with
  | plain c _ hquote hslash =>
    refine hplain [c] ?_
    intro d hd
    rw [List.mem_singleton.mp hd]
    exact ⟨hquote, hslash⟩
  | escaped c _ => exact ⟨rfl, rfl⟩
  | code ds _ hdigits =>
    refine hplain ('u' :: ds) ?_
    intro c hc
    rcases List.mem_cons.mp hc with rfl | hc
    · decide
    · have hdigit := hdigits c hc
      refine ⟨?_, ?_⟩
      all_goals
        rintro rfl
        exact absurd hdigit (by decide)

/-- A literal is lower-case whatever is in it. -/
theorem IsLiteral.lowercase {s : List Char} (h : IsLiteral s) : IsLowercase s := by
  cases h with
  | quoted letters hletters =>
    have hinside : letters.flatten.foldl Zone.next .inside = .inside ∧
        bare .inside letters.flatten = [] := by
      induction letters with
      | nil => exact ⟨rfl, rfl⟩
      | cons l rest ih =>
        obtain ⟨hfold, hbare⟩ := (hletters l List.mem_cons_self).inside
        obtain ⟨hfolds, hbares⟩ := ih fun m hm => hletters m (List.mem_cons_of_mem l hm)
        rw [List.flatten_cons, List.foldl_append, bare_append, hfold, hbare]
        exact ⟨hfolds, hbares⟩
    have hopened : Zone.next .outside '"' = .inside := rfl
    refine ⟨?_, ?_⟩
    · rw [List.foldl_cons, hopened, List.foldl_append, hinside.1]
      rfl
    · intro c hc
      rw [bare, if_pos rfl, hopened, bare_append, hinside.2, hinside.1] at hc
      have hmark : c = '"' := by simpa [bare] using hc
      rw [hmark]
      decide

/-- A number is lower-case. -/
theorem IsNumber.lowercase {s : List Char} (h : IsNumber s) : IsLowercase s := by
  have hdigits : ∀ ds : List Char, (∀ c ∈ ds, c.isDigit = true) → IsLowercase ds := by
    intro ds hds
    refine .of_chars fun c hc => ?_
    have hdigit := hds c hc
    refine ⟨?_, ?_, ?_⟩
    all_goals
      rintro rfl
      exact absurd hdigit (by decide)
  cases h with
  | parts sign whole fraction exponent hsign hwhole hfraction hexponent =>
    have hsign : IsLowercase sign := by
      rcases hsign with rfl | rfl
      · exact .of_chars nofun
      · exact .of_all (by decide)
    have hwhole : IsLowercase whole := by
      cases hwhole with
      | zero => exact .of_all (by decide)
      | positive c rest hc _ hrest => exact hdigits _ (List.forall_mem_cons.mpr ⟨hc, hrest⟩)
    have hfraction : IsLowercase fraction := by
      cases hfraction with
      | none => exact .of_chars nofun
      | places ds hds => exact .cons (by decide) (hdigits ds hds.digits)
    have hexponent : IsLowercase exponent := by
      cases hexponent with
      | none => exact .of_chars nofun
      | power mark sign ds hmark hsign hds =>
        have hmark : mark ≠ '"' ∧ mark ≠ 'N' ∧ mark ≠ 'I' := by
          rcases hmark with rfl | rfl
          · decide
          · decide
        refine .cons hmark (.append ?_ (hdigits ds hds.digits))
        rcases hsign with rfl | rfl | rfl
        · exact .of_chars nofun
        · exact .of_all (by decide)
        · exact .of_all (by decide)
    exact ((hsign.append hwhole).append hfraction).append hexponent

mutual

/-- No value of the grammar has the capitals outside its literals. -/
theorem IsValue.lowercase {s : List Char} : IsValue s → IsLowercase s
  | .null => .of_all (by decide)
  | .true => .of_all (by decide)
  | .false => .of_all (by decide)
  | .number h => h.lowercase
  | .literal h => h.lowercase
  | .emptyArray h => .cons (by decide) (h.lowercase.append (.of_all (by decide)))
  | .array _ h =>
    .cons (by decide) (.append (.intercalate fun s hs => IsElement.lowercase (h s hs))
      (.of_all (by decide)))
  | .emptyObject h => .cons (by decide) (h.lowercase.append (.of_all (by decide)))
  | .object _ h =>
    .cons (by decide) (.append (.intercalate fun s hs => IsMember.lowercase (h s hs))
      (.of_all (by decide)))

/-- An element is lower-case. -/
theorem IsElement.lowercase {s : List Char} : IsElement s → IsLowercase s
  | .spaced hbefore h hafter =>
    (hbefore.lowercase.append (IsValue.lowercase h)).append hafter.lowercase

/-- A member is lower-case. -/
theorem IsMember.lowercase {s : List Char} : IsMember s → IsLowercase s
  | .named hbefore hname hafter h =>
    ((hbefore.lowercase.append hname.lowercase).append hafter.lowercase).append
      (.cons (by decide) (IsElement.lowercase h))

end

/-- No JSON text has the capitals outside its literals. -/
theorem IsText.lowercase {s : List Char} (h : IsText s) : IsLowercase s := IsElement.lowercase h

end MaskedReport.Json
