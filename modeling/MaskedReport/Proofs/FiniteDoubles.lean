import MaskedReport.Proofs.Numerals

/-!
# Written values in the grammar of JSON

A value that is written is a JSON text if and only if every double in it is a number: what is not
finite is written by a name that the grammar does not have. One induction shows that all else is of
the grammar, and another that the name stands outside every string literal: `Json.isText_iff`.
-/

set_option autoImplicit false

namespace MaskedReport

namespace Value

mutual

/-- Whether every double in a value is a number. Those in sets and in keys do not count, for they
are written within a string literal. -/
def isFinite : Value → Bool
  | .real x => x.isFinite
  | .list items => allFinite items
  | .tuple items => allFinite items
  | .map entries => entriesFinite entries
  | _ => true

/-- Whether all values hold finite doubles only. -/
def allFinite : List Value → Bool
  | [] => true
  | v :: rest => isFinite v && allFinite rest

/-- Whether the values of all entries hold finite doubles only. -/
def entriesFinite : List (Value × Value) → Bool
  | [] => true
  | (_, v) :: rest => isFinite v && entriesFinite rest

end

end Value

namespace Json

/-! ## String literals -/

/-- The form of a character is a letter of a literal. -/
theorem isLetter_escape (c : Char) : IsLetter (escape c) := by
  have hcode : ∀ n < 32, (Quoted.hex 4 n).length = 4 ∧
      (Quoted.hex 4 n).all isHexDigit = true := by decide
  unfold escape
  by_cases hquote : c = '"'
  · rw [if_pos hquote]
    exact .escaped '"' (by decide)
  by_cases hslash : c = '\\'
  · rw [if_neg hquote, if_pos hslash]
    exact .escaped '\\' (by decide)
  rw [if_neg hquote, if_neg hslash]
  repeat' split
  · exact .escaped 'n' (by decide)
  · exact .escaped 'r' (by decide)
  · exact .escaped 't' (by decide)
  · exact .escaped 'b' (by decide)
  · exact .escaped 'f' (by decide)
  case isTrue hcontrol =>
    obtain ⟨hlength, hdigits⟩ := hcode c.toNat hcontrol
    exact .code _ hlength (List.all_eq_true.mp hdigits)
  case isFalse hcontrol => exact .plain c (by omega) hquote hslash

/-- A quoted text is a literal. -/
theorem isLiteral_quoted (s : Text) : IsLiteral (quoted s).chars := by
  have hletters : ∀ l ∈ s.chars.map escape, IsLetter l := by
    intro l hl
    obtain ⟨c, -, rfl⟩ := List.mem_map.mp hl
    exact isLetter_escape c
  rw [chars_quoted, List.flatMap_def]
  exact .quoted _ hletters

/-! ## Items between brackets -/

/-- Texts with separators between them, and white space around all, are parts with commas between
them. -/
theorem exists_parts {P : List Char → Prop}
    (hpad : ∀ before s after, P s → IsSpaces before → IsSpaces after → P (before ++ s ++ after))
    (l : Layout) (d : Nat) {texts : List Text} (hsome : texts ≠ [])
    (h : ∀ t ∈ texts, P t.chars) {before after : List Char} (hbefore : IsSpaces before)
    (hafter : IsSpaces after) :
    ∃ parts, parts ≠ [] ∧ (∀ s ∈ parts, P s) ∧
      before ++ (Text.intercalate (separator l d) texts).chars ++ after =
        [','].intercalate parts := by
  induction texts generalizing before with
  | nil => exact absurd rfl hsome
  | cons t rest ih =>
    have ht := h t List.mem_cons_self
    cases rest with
    | nil =>
      refine ⟨[before ++ t.chars ++ after], by simp, ?_, by simp⟩
      simpa using hpad before t.chars after ht hbefore hafter
    | cons u rest =>
      obtain ⟨spaces, hseparator, hspaces⟩ := exists_separator l d
      obtain ⟨parts, hne, hparts, heq⟩ :=
        ih (by simp) (fun v hv => h v (List.mem_cons_of_mem t hv)) hspaces
      have hfirst := hpad before t.chars [] ht hbefore isSpaces_nil
      rw [List.append_nil] at hfirst
      refine ⟨(before ++ t.chars) :: parts, by simp, ?_, ?_⟩
      · exact List.forall_mem_cons.mpr ⟨hfirst, hparts⟩
      · rw [List.intercalate_cons_of_ne_nil hne, ← heq, Text.intercalate_cons_cons]
        simp [hseparator]

/-- What is enclosed is white space, or parts with commas between them. -/
theorem enclosed {P : List Char → Prop}
    (hpad : ∀ before s after, P s → IsSpaces before → IsSpaces after → P (before ++ s ++ after))
    (l : Layout) (d : Nat) (opening closing : String) {texts : List Text}
    (h : ∀ t ∈ texts, P t.chars) :
    (enclose l d opening closing texts).chars = opening.toList ++ ([] ++ closing.toList) ∨
      ∃ parts, parts ≠ [] ∧ (∀ s ∈ parts, P s) ∧
        (enclose l d opening closing texts).chars =
          opening.toList ++ ([','].intercalate parts ++ closing.toList) := by
  cases texts with
  | nil =>
    left
    simp [enclose]
  | cons t rest =>
    right
    obtain ⟨parts, hne, hparts, heq⟩ := exists_parts hpad l (d + 1) (List.cons_ne_nil t rest) h
      (fun _ => isSpace_of_mem_lineEnd : IsSpaces (lineEnd l (d + 1)).toList)
      (fun _ => isSpace_of_mem_lineEnd : IsSpaces (lineEnd l d).toList)
    refine ⟨parts, hne, hparts, ?_⟩
    rw [← heq]
    simp [enclose]

/-- Elements between brackets are a value. -/
theorem isValue_array (l : Layout) (d : Nat) {texts : List Text}
    (h : ∀ t ∈ texts, IsElement t.chars) : IsValue (enclose l d "[" "]" texts).chars := by
  rcases enclosed (fun _ _ _ hs => hs.pad) l d "[" "]" h with heq | ⟨parts, hne, hparts, heq⟩
  · rw [heq]
    exact .emptyArray isSpaces_nil
  · rw [heq]
    exact .array hne hparts

/-- Members between braces are a value. -/
theorem isValue_object (l : Layout) (d : Nat) {texts : List Text}
    (h : ∀ t ∈ texts, IsMember t.chars) : IsValue (enclose l d "\x7b" "\x7d" texts).chars := by
  rcases enclosed (fun _ _ _ hs => hs.pad) l d "\x7b" "\x7d" h with heq | ⟨parts, hne, hparts, heq⟩
  · rw [heq]
    exact .emptyObject isSpaces_nil
  · rw [heq]
    exact .object hne hparts

/-! ## Finite doubles -/

/-- The form of a finite double is a value. -/
theorem isValue_realText {x : Binary64} (h : x.isFinite = true) :
    IsValue (realText x).toList := by
  cases x with
  | nan => cases h
  | infinite n => cases h
  | finite n m p => exact .number (Binary64.isNumber_text h)

/-- A computed text in quotation marks is a value. -/
theorem isValue_of_quoted {x : Except Failure Text} {t : Text}
    (h : (do return quoted (← x)) = Except.ok t) : IsValue t.chars := by
  obtain ⟨s, -, h⟩ := bind_eq_ok h
  cases h
  exact .literal (isLiteral_quoted s)

mutual

/-- A value with finite doubles only is written as a value of the grammar. -/
theorem isValue_write (l : Layout) : (d : Nat) → (v : Value) → ∀ {t : Text},
    write l d v = .ok t → v.isFinite = true → IsValue t.chars
  | _, .null => by
    intro ht _
    cases ht
    exact .null
  | _, .bool b => by
    intro ht _
    cases ht
    cases b with
    | false => exact .false
    | true => exact .true
  | _, .int i => by
    intro ht _
    obtain ⟨s, hs, ht⟩ := bind_eq_ok ht
    cases ht
    rw [Text.chars_ofString]
    exact .number (isNumber_wholeText hs)
  | _, .real x => by
    intro ht hfinite
    cases ht
    rw [Text.chars_ofString]
    exact isValue_realText hfinite
  | _, .text s => by
    intro ht _
    cases ht
    exact .literal (isLiteral_quoted s)
  | d, .list items => by
    intro ht hfinite
    obtain ⟨texts, htexts, ht⟩ := bind_eq_ok ht
    cases ht
    exact isValue_array l d (isElement_writeItems l _ items htexts hfinite)
  | d, .tuple items => by
    intro ht hfinite
    obtain ⟨texts, htexts, ht⟩ := bind_eq_ok ht
    cases ht
    exact isValue_array l d (isElement_writeItems l _ items htexts hfinite)
  | d, .map entries => by
    intro ht hfinite
    obtain ⟨texts, htexts, ht⟩ := bind_eq_ok ht
    cases ht
    exact isValue_object l d (isMember_writeEntries l _ entries htexts hfinite)
  | _, .set _ => fun ht _ => isValue_of_quoted ht
  | _, .bytes _ => fun ht _ => isValue_of_quoted ht
  | _, .date _ => fun ht _ => isValue_of_quoted ht
  | _, .instant _ => fun ht _ => isValue_of_quoted ht
  | _, .pattern _ => fun ht _ => isValue_of_quoted ht
  | _, .bytePattern _ => fun ht _ => isValue_of_quoted ht
  | _, .loop _ => nofun

/-- The texts of finite items are elements. -/
theorem isElement_writeItems (l : Layout) : (d : Nat) → (items : List Value) →
    ∀ {texts : List Text}, writeItems l d items = .ok texts → Value.allFinite items = true →
      ∀ t ∈ texts, IsElement t.chars
  | _, [] => by
    intro ht _
    cases ht
    nofun
  | d, v :: rest => by
    intro ht hfinite
    obtain ⟨t, htext, ht⟩ := bind_eq_ok ht
    obtain ⟨ts, htexts, ht⟩ := bind_eq_ok ht
    cases ht
    have hboth := Bool.and_eq_true_iff.mp hfinite
    exact List.forall_mem_cons.mpr ⟨(isValue_write l d v htext hboth.1).isElement,
      isElement_writeItems l d rest htexts hboth.2⟩

/-- The texts of finite entries are members. -/
theorem isMember_writeEntries (l : Layout) : (d : Nat) → (entries : List (Value × Value)) →
    ∀ {texts : List Text}, writeEntries l d entries = .ok texts →
      Value.entriesFinite entries = true → ∀ t ∈ texts, IsMember t.chars
  | _, [] => by
    intro ht _
    cases ht
    nofun
  | d, (k, v) :: rest => by
    intro ht hfinite
    obtain ⟨key, -, ht⟩ := bind_eq_ok ht
    obtain ⟨t, htext, ht⟩ := bind_eq_ok ht
    obtain ⟨ts, htexts, ht⟩ := bind_eq_ok ht
    cases ht
    have hboth := Bool.and_eq_true_iff.mp hfinite
    have hspace : IsSpaces [' '] := by simp [IsSpaces, isSpace]
    have helement := (isValue_write l d v htext hboth.1).isElement.pad hspace isSpaces_nil
    have hmember := IsMember.named isSpaces_nil (isLiteral_quoted key) isSpaces_nil helement
    refine List.forall_mem_cons.mpr ⟨?_, isMember_writeEntries l d rest htexts hboth.2⟩
    simpa using hmember

end

/-! ## Doubles that are not finite -/

/-- A text with its string literals closed. -/
def IsClosed (t : Text) : Prop := t.chars.foldl Zone.next .outside = .outside

/-- A text that has, outside its string literals, a capital that begins the name of a double that is
not finite. -/
def HasCapital (t : Text) : Prop := ∃ c ∈ bare .outside t.chars, c = 'N' ∨ c = 'I'

/-- A capital outside the literals is kept before any text. -/
theorem HasCapital.append_right {s : Text} (h : HasCapital s) (t : Text) :
    HasCapital (s ++ t) := by
  obtain ⟨c, hc, hcapital⟩ := h
  refine ⟨c, ?_, hcapital⟩
  rw [Text.chars_append, bare_append]
  exact List.mem_append_left _ hc

/-- A capital outside the literals is kept after a text that closes its literals. -/
theorem HasCapital.append_left {s t : Text} (hs : IsClosed s) (h : HasCapital t) :
    HasCapital (s ++ t) := by
  obtain ⟨c, hc, hcapital⟩ := h
  refine ⟨c, ?_, hcapital⟩
  rw [Text.chars_append, bare_append, hs]
  exact List.mem_append_right _ hc

/-- A capital in one of several texts is in their join. -/
theorem hasCapital_intercalate {separator : Text} (hseparator : IsClosed separator)
    {texts : List Text} (hclosed : ∀ t ∈ texts, IsClosed t) (h : ∃ t ∈ texts, HasCapital t) :
    HasCapital (separator.intercalate texts) := by
  induction texts with
  | nil =>
    obtain ⟨t, ht, -⟩ := h
    cases ht
  | cons t rest ih =>
    have hcases : HasCapital t ∨ ∃ u ∈ rest, HasCapital u := by simpa using h
    cases rest with
    | nil =>
      rcases hcases with ht | ⟨u, hu, -⟩
      · rw [Text.intercalate_singleton]
        exact ht
      · cases hu
    | cons u rest =>
      rw [Text.intercalate_cons_cons, Text.append_assoc]
      rcases hcases with ht | hrest
      · exact ht.append_right _
      · have hlater := ih (fun v hv => hclosed v (List.mem_cons_of_mem t hv)) hrest
        exact (hlater.append_left hseparator).append_left (hclosed t List.mem_cons_self)

/-- A capital in one of several texts is in them between brackets. -/
theorem hasCapital_enclose (l : Layout) (d : Nat) {opening closing : String}
    (hopening : IsClosed opening) {texts : List Text} (hclosed : ∀ t ∈ texts, IsClosed t)
    (h : ∃ t ∈ texts, HasCapital t) : HasCapital (enclose l d opening closing texts) := by
  have hseparator : IsClosed (separator l (d + 1)) :=
    (sameButSpace_separator l l (d + 1) (d + 1)).closed_left
  have hlineEnd : IsClosed (lineEnd l (d + 1)) :=
    (sameButSpace_lineEnd l l (d + 1) (d + 1)).closed_left
  have hinside := hasCapital_intercalate hseparator hclosed h
  obtain ⟨t, ht, -⟩ := h
  have hsome : texts.isEmpty = false := List.isEmpty_eq_false_iff_exists_mem.mpr ⟨t, ht⟩
  rw [enclose, hsome]
  have hall := (((hinside.append_left hlineEnd).append_left hopening).append_right
    (lineEnd l d)).append_right closing
  simpa [Text.append_assoc] using hall

/-- Texts that are the same but for space as themselves close their literals. -/
theorem isClosed_of_forall₂ {texts : List Text} (h : List.Forall₂ SameButSpace texts texts) :
    ∀ t ∈ texts, IsClosed t := by
  intro t ht
  exact (List.forall₂_same.mp h t ht).closed_left

mutual

/-- A value with a double that is not finite is written with a capital outside string literals. -/
theorem hasCapital_write (l : Layout) : (d : Nat) → (v : Value) → ∀ {t : Text},
    write l d v = .ok t → v.isFinite = false → HasCapital t
  | _, .real x => by
    intro ht hfinite
    cases ht
    cases x with
    | nan => exact ⟨'N', by decide, Or.inl rfl⟩
    | infinite n =>
      cases n with
      | false => exact ⟨'I', by decide, Or.inr rfl⟩
      | true => exact ⟨'I', by decide, Or.inr rfl⟩
    | finite n m p => cases hfinite
  | d, .list items => by
    intro ht hfinite
    obtain ⟨texts, htexts, ht⟩ := bind_eq_ok ht
    cases ht
    have hopening : IsClosed "[" := rfl
    exact hasCapital_enclose l d hopening
      (isClosed_of_forall₂ (sameButSpace_writeItems l l _ _ items htexts htexts))
      (hasCapital_writeItems l _ items htexts hfinite)
  | d, .tuple items => by
    intro ht hfinite
    obtain ⟨texts, htexts, ht⟩ := bind_eq_ok ht
    cases ht
    have hopening : IsClosed "[" := rfl
    exact hasCapital_enclose l d hopening
      (isClosed_of_forall₂ (sameButSpace_writeItems l l _ _ items htexts htexts))
      (hasCapital_writeItems l _ items htexts hfinite)
  | d, .map entries => by
    intro ht hfinite
    obtain ⟨texts, htexts, ht⟩ := bind_eq_ok ht
    cases ht
    have hopening : IsClosed "\x7b" := rfl
    exact hasCapital_enclose l d hopening
      (isClosed_of_forall₂ (sameButSpace_writeEntries l l _ _ entries htexts htexts))
      (hasCapital_writeEntries l _ entries htexts hfinite)
  | _, .null => fun _ h => nomatch h
  | _, .bool _ => fun _ h => nomatch h
  | _, .int _ => fun _ h => nomatch h
  | _, .text _ => fun _ h => nomatch h
  | _, .set _ => fun _ h => nomatch h
  | _, .bytes _ => fun _ h => nomatch h
  | _, .date _ => fun _ h => nomatch h
  | _, .instant _ => fun _ h => nomatch h
  | _, .pattern _ => fun _ h => nomatch h
  | _, .bytePattern _ => fun _ h => nomatch h
  | _, .loop _ => nofun

/-- Among the texts of items that are not all finite one has a capital. -/
theorem hasCapital_writeItems (l : Layout) : (d : Nat) → (items : List Value) →
    ∀ {texts : List Text}, writeItems l d items = .ok texts → Value.allFinite items = false →
      ∃ t ∈ texts, HasCapital t
  | _, [] => nofun
  | d, v :: rest => by
    intro ht hfinite
    obtain ⟨t, htext, ht⟩ := bind_eq_ok ht
    obtain ⟨ts, htexts, ht⟩ := bind_eq_ok ht
    cases ht
    rcases Bool.and_eq_false_iff.mp hfinite with hv | hrest
    · exact ⟨t, List.mem_cons_self, hasCapital_write l d v htext hv⟩
    · obtain ⟨u, hu, hcapital⟩ := hasCapital_writeItems l d rest htexts hrest
      exact ⟨u, List.mem_cons_of_mem t hu, hcapital⟩

/-- Among the texts of entries that are not all finite one has a capital. -/
theorem hasCapital_writeEntries (l : Layout) : (d : Nat) → (entries : List (Value × Value)) →
    ∀ {texts : List Text}, writeEntries l d entries = .ok texts →
      Value.entriesFinite entries = false → ∃ t ∈ texts, HasCapital t
  | _, [] => nofun
  | d, (k, v) :: rest => by
    intro ht hfinite
    obtain ⟨key, -, ht⟩ := bind_eq_ok ht
    obtain ⟨t, htext, ht⟩ := bind_eq_ok ht
    obtain ⟨ts, htexts, ht⟩ := bind_eq_ok ht
    cases ht
    rcases Bool.and_eq_false_iff.mp hfinite with hv | hrest
    · have hlabel : IsClosed (quoted key ++ ": ") := by
        rw [IsClosed, Text.chars_append, List.foldl_append, foldl_next_quoted]
        rfl
      exact ⟨_, List.mem_cons_self, (hasCapital_write l d v htext hv).append_left hlabel⟩
    · obtain ⟨u, hu, hcapital⟩ := hasCapital_writeEntries l d rest htexts hrest
      exact ⟨u, List.mem_cons_of_mem _ hu, hcapital⟩

end

/-- The text of a value is a JSON text iff every double in the value is a number. -/
theorem isText_iff {l : Layout} {v : Value} {t : String} (h : text l v = .ok t) :
    IsText t.toList ↔ v.isFinite = true := by
  obtain ⟨s, hs, h⟩ := bind_eq_ok h
  rw [← string_of_encoded h, Text.toList_string]
  constructor
  · intro htext
    cases hfinite : v.isFinite with
    | true => rfl
    | false =>
      obtain ⟨c, hc, hcapital⟩ := hasCapital_write l 0 v hs hfinite
      obtain ⟨hn, hi⟩ := htext.lowercase.free c hc
      rcases hcapital with rfl | rfl
      · exact absurd rfl hn
      · exact absurd rfl hi
  · intro hfinite
    exact (isValue_write l 0 v hs hfinite).isElement

end Json

end MaskedReport
