import MaskedReport.Http.Service
import MaskedReport.Proofs.JsonReader
import MaskedReport.Proofs.Printing

/-!
# Reports read back

A report that holds what JSON knows is read back from its bytes as it is, from the body of an answer
as well as from what the command prints: `rendering_loses_nothing`. A value is read from its text
whatever white space comes before it and whatever comes after it, if only that does not go on a
number. Items and members differ in how one of them is read; the reading of all of them is the same.
-/

set_option autoImplicit false

namespace MaskedReport

/-! ## What JSON knows -/

namespace Value

mutual

/-- Whether JSON has a value as it is. -/
def isPortable : Value → Bool
  | .null => true
  | .bool _ => true
  | .int i => isWritableWhole i
  | .text s => s.isPlain
  | .list items => allPortable items
  | .map entries => entriesPortable entries
  | _ => false

/-- Whether JSON has all values as they are. -/
def allPortable : List Value → Bool
  | [] => true
  | v :: rest => isPortable v && allPortable rest

/-- Whether all keys are strings and JSON has all values as they are. -/
def entriesPortable : List (Value × Value) → Bool
  | [] => true
  | (.text s, v) :: rest => (s.isPlain && isPortable v) && entriesPortable rest
  | _ => false

end

/-- Items are portable if each is. -/
theorem allPortable_iff (items : List Value) :
    allPortable items = true ↔ ∀ v ∈ items, v.isPortable = true := by
  induction items with
  | nil => simp [allPortable]
  | cons v rest ih => simp [allPortable, ih]

/-- Entries are portable if each key is a string and each value portable. -/
theorem entriesPortable_iff (entries : Entries) :
    entriesPortable entries = true ↔
      ∀ e ∈ entries, (∃ s : String, e.1 = .text s) ∧ e.2.isPortable = true := by
  induction entries with
  | nil => simp [entriesPortable]
  | cons e rest ih =>
    obtain ⟨k, v⟩ := e
    cases k <;> simp [entriesPortable, ih, Text.isPlain_iff]

mutual

/-- A portable value can be written. -/
theorem isWritable_of_isPortable : (v : Value) → v.isPortable = true → v.isWritable = true
  | .null => fun _ => rfl
  | .bool _ => fun _ => rfl
  | .int _ => fun h => h
  | .text _ => fun h => h
  | .list items => allWritable_of_allPortable items
  | .map entries => entriesWritable_of_entriesPortable entries
  | .real _ => fun h => nomatch h
  | .tuple _ => fun h => nomatch h
  | .set _ => fun h => nomatch h
  | .bytes _ => fun h => nomatch h
  | .date _ => fun h => nomatch h
  | .instant _ => fun h => nomatch h
  | .pattern _ => fun h => nomatch h
  | .bytePattern _ => fun h => nomatch h
  | .loop _ => fun h => nomatch h

/-- Portable items can be written. -/
theorem allWritable_of_allPortable :
    (items : List Value) → allPortable items = true → allWritable items = true
  | [] => fun _ => rfl
  | v :: rest => by
    intro h
    have hboth := Bool.and_eq_true_iff.mp h
    simp [allWritable, isWritable_of_isPortable v hboth.1, allWritable_of_allPortable rest hboth.2]

/-- Portable entries can be written. -/
theorem entriesWritable_of_entriesPortable :
    (entries : List (Value × Value)) → entriesPortable entries = true →
      entriesWritable entries = true
  | [] => fun _ => rfl
  | (k, v) :: rest => by
    intro h
    obtain ⟨⟨⟨s, rfl⟩, hv⟩, hrest⟩ : ((∃ s : String, k = .text s) ∧ v.isPortable = true) ∧
        entriesPortable rest = true := by
      simpa [entriesPortable_iff] using h
    simp [entriesWritable, isWritableKey, isWritable_of_isPortable v hv,
      entriesWritable_of_entriesPortable rest hrest]

end

end Value

namespace Json

/-! ## Parts between brackets -/

/-- A reader reads a part from its text, with white space before it and whatever may come after a
number after it. -/
def Reads {α : Type} (part : List Char → Option (α × List Char)) (a : α) (t : Text) : Prop :=
  ∀ {before rest : List Char}, IsSpaces before → Stops rest →
    part (before ++ (t.chars ++ rest)) = some (a, rest)

/-- White space is no part of a number. -/
theorem stops_of_isSpace {c : Char} (h : isSpace c = true) (s : List Char) : Stops (c :: s) := by
  apply stops_cons
  simp only [isSpace, Bool.or_eq_true, decide_eq_true_eq] at h
  rcases h with ((rfl | rfl) | rfl) | rfl
  all_goals decide

/-- Spaces and then a character that continues no number stop a number. -/
theorem stops_before {before : List Char} (h : IsSpaces before) {c : Char}
    (hc : c.isDigit = false ∧ c ≠ '.' ∧ c ≠ 'e' ∧ c ≠ 'E') (s : List Char) :
    Stops (before ++ c :: s) := by
  cases before with
  | nil => exact stops_cons hc s
  | cons b more => exact stops_of_isSpace (h b List.mem_cons_self) _

/-- Spaces stop a number. -/
theorem stops_of_isSpaces {s : List Char} (h : IsSpaces s) : Stops s := by
  cases s with
  | nil => nofun
  | cons c rest => exact stops_of_isSpace (h c List.mem_cons_self) rest

/-- After an item comes a comma or the closing mark, spaces aside. -/
theorem readEnd_before {before : List Char} (h : IsSpaces before) {c : Char}
    (hc : isSpace c = false) (closing : Char) (s : List Char) :
    readEnd closing (before ++ c :: s) =
      if c = ',' then some (true, s) else if c = closing then some (false, s) else none := by
  rw [readEnd, skipSpaces_before h hc]

section Parts

variable {α : Type} {part : List Char → Option (α × List Char)} {closing : Char} (l : Layout)
  (d : Nat)

/-- Parts are read from their texts with separators between them. -/
theorem readSome_joined (hclosing : closing = ']' ∨ closing = '\x7d') {parts : List α}
    {texts : List Text} (h : List.Forall₂ (Reads part) parts texts) (hsome : texts ≠ [])
    {before after : List Char} (hbefore : IsSpaces before) (hafter : IsSpaces after)
    (rest : List Char) {fuel : Nat}
    (hfuel : (before ++ ((Text.intercalate (separator l d) texts).chars ++
      (after ++ closing :: rest))).length ≤ fuel) :
    readSome part closing fuel (before ++ ((Text.intercalate (separator l d) texts).chars ++
      (after ++ closing :: rest))) = some (parts, rest) := by
  induction h generalizing before fuel with
  | nil => exact absurd rfl hsome
  | @cons a t parts texts ha hmore ih =>
    obtain ⟨fuel, rfl⟩ : ∃ n, fuel = n + 1 := by
      simp at hfuel
      exact ⟨fuel - 1, by omega⟩
    cases hmore with
    | nil =>
      have hstops : Stops (after ++ closing :: rest) := by
        apply stops_before hafter
        rcases hclosing with rfl | rfl
        all_goals decide
      have hend : readEnd closing (after ++ closing :: rest) = some (false, rest) := by
        rcases hclosing with rfl | rfl
        all_goals exact readEnd_before hafter rfl _ rest
      rw [Text.intercalate_singleton, readSome, ha hbefore hstops]
      simp [hend]
    | @cons b u parts texts hb hmore =>
      obtain ⟨spaces, hseparator, hspaces⟩ := exists_separator l d
      have hsplit : (Text.intercalate (separator l d) (t :: u :: texts)).chars ++
          (after ++ closing :: rest) = t.chars ++ ',' :: (spaces.toList ++
            ((Text.intercalate (separator l d) (u :: texts)).chars ++
              (after ++ closing :: rest))) := by
        rw [Text.intercalate_cons_cons]
        simp [hseparator]
      have hshorter := fun hlength => @ih (List.cons_ne_nil _ _) spaces.toList hspaces fuel hlength
      rw [hsplit] at hfuel ⊢
      generalize spaces.toList ++ ((Text.intercalate (separator l d) (u :: texts)).chars ++
        (after ++ closing :: rest)) = later at hfuel hshorter ⊢
      have hend : readEnd closing (',' :: later) = some (true, later) :=
        readEnd_before isSpaces_nil rfl closing later
      have hlater : readSome part closing fuel later = some (b :: parts, rest) := by
        apply hshorter
        simp only [List.length_append, List.length_cons] at hfuel
        omega
      rw [readSome, ha hbefore (stops_cons (by decide) later)]
      simp [hend, hlater]

/-- Where some parts are read the first is. -/
theorem isSome_of_readSome {fuel : Nat} {s : List Char} {r : List α × List Char}
    (h : readSome part closing fuel s = some r) : (part s).isSome = true := by
  cases fuel with
  | zero => cases h
  | succ fuel =>
    rw [readSome] at h
    cases hpart : part s with
    | none =>
      rw [hpart] at h
      cases h
    | some first => rfl

/-- Parts are read with the brackets around them, if no part begins with the closing one. -/
theorem readParts_enclose (hclosing : closing = ']' ∨ closing = '\x7d')
    (hopen : ∀ s, (part s).isSome = true → ∃ c rest, skipSpaces s = c :: rest ∧ c ≠ closing)
    {parts : List α} {texts : List Text} (h : List.Forall₂ (Reads part) parts texts)
    (opening : Char) (rest : List Char) :
    ∃ inside, (enclose l d (String.singleton opening) (String.singleton closing) texts).chars ++
        rest = opening :: inside ∧ readParts part closing inside = some (parts, rest) := by
  cases h with
  | nil =>
    refine ⟨closing :: rest, by simp [enclose], ?_⟩
    have hspace : isSpace closing = false := by
      rcases hclosing with rfl | rfl
      all_goals rfl
    rw [readParts, skipSpaces_cons hspace]
    simp
  | @cons a t parts texts ha hmore =>
    have hbefore : IsSpaces (lineEnd l (d + 1)).toList := fun _ => isSpace_of_mem_lineEnd
    have hafter : IsSpaces (lineEnd l d).toList := fun _ => isSpace_of_mem_lineEnd
    have hread := readSome_joined l (d + 1) hclosing (.cons ha hmore) (List.cons_ne_nil t texts)
      hbefore hafter rest (Nat.le_refl _)
    have henclosed : (enclose l d (String.singleton opening) (String.singleton closing)
        (t :: texts)).chars ++ rest = opening :: ((lineEnd l (d + 1)).toList ++
          ((Text.intercalate (separator l (d + 1)) (t :: texts)).chars ++
            ((lineEnd l d).toList ++ closing :: rest))) := by
      simp [enclose]
    refine ⟨_, henclosed, ?_⟩
    obtain ⟨c, more, hskip, hc⟩ := hopen _ (isSome_of_readSome hread)
    rw [readParts, hskip]
    show (if c = closing then _ else _) = _
    rw [if_neg hc]
    exact hread

end Parts

/-! ## Values -/

/-- What begins with a closing bracket is no value. -/
theorem not_closing_of_readValue {closing : Char} (hclosing : closing = ']' ∨ closing = '\x7d')
    (depth : Nat) (s : List Char) (h : (readValue depth s).isSome = true) :
    ∃ c rest, skipSpaces s = c :: rest ∧ c ≠ closing := by
  cases depth with
  | zero => cases h
  | succ depth =>
    rw [readValue] at h
    cases hskip : skipSpaces s with
    | nil =>
      rw [hskip] at h
      cases h
    | cons c rest =>
      refine ⟨c, rest, rfl, ?_⟩
      rintro rfl
      rw [hskip] at h
      rcases hclosing with rfl | rfl
      · cases h
      · cases h

/-- Where a member is read no brace closes. -/
theorem not_closing_of_readMember (value : List Char → Option (Value × List Char)) (s : List Char)
    (h : (readMember value s).isSome = true) :
    ∃ c rest, skipSpaces s = c :: rest ∧ c ≠ '\x7d' := by
  cases hskip : skipSpaces s with
  | nil =>
    rw [readMember, readName, hskip] at h
    cases h
  | cons c rest =>
    refine ⟨c, rest, rfl, ?_⟩
    rintro rfl
    rw [readMember, readName, hskip] at h
    cases h

/-- A value whose text begins with no white space is read after white space as it is without. -/
theorem readValue_before {before : List Char} (h : IsSpaces before) {c : Char}
    (hc : isSpace c = false) (depth : Nat) (s : List Char) :
    readValue (depth + 1) (before ++ c :: s) =
      if c = '"' then (readText s).map fun r => (.text r.1, r.2)
      else if c = '[' then (readParts (readValue depth) ']' s).map fun r => (.list r.1, r.2)
      else if c = '\x7b' then
        (readParts (readMember (readValue depth)) '\x7d' s).map fun r => (.map r.1, r.2)
      else readAtom (c :: s) := by
  rw [readValue, skipSpaces_before h hc]

/-- The characters of a quoted string are the written ones between two marks. -/
theorem chars_quoted_append (s : String) (rest : List Char) :
    (quoted s).chars ++ rest = '"' :: (s.toList.flatMap escape ++ '"' :: rest) := by
  simp [chars_quoted]

/-- A quoted string is read as that string. -/
theorem reads_quoted (depth : Nat) (s : String) :
    Reads (readValue (depth + 1)) (.text s) (quoted s) := by
  intro before rest hbefore _
  rw [chars_quoted_append, readValue_before hbefore rfl, if_pos rfl, readText_quoted]
  rfl

/-- A whole number begins with a digit or a sign, so it is read as nothing but a number. -/
theorem reads_wholeText (depth : Nat) {i : Int} {t : String} (h : wholeText i = .ok t) :
    Reads (readValue (depth + 1)) (.int i) t := by
  intro before rest hbefore hrest
  rw [Text.chars_ofString]
  have hnumber := readNumber_of_wholeText h hrest
  obtain ⟨c, s, hcons, hc⟩ : ∃ c s, t.toList = c :: s ∧ (c = '-' ∨ c.isDigit = true) := by
    rw [toList_of_wholeText h]
    split
    · exact ⟨'-', _, rfl, Or.inl rfl⟩
    · obtain ⟨c, ds, hdigits⟩ := List.exists_cons_of_ne_nil (Decimal.digitsOf_ne_nil i.natAbs)
      have hmem : c ∈ Decimal.digitsOf i.natAbs := by simp [hdigits]
      exact ⟨c, ds, hdigits, Or.inr (Decimal.isDigit_of_mem_digitsOf hmem)⟩
  have hne : ∀ d, d ≠ '-' → d.isDigit = false → c ≠ d := by
    rintro d hsign hdigit rfl
    rcases hc with hc | hc
    · exact hsign hc
    · rw [hdigit] at hc
      cases hc
  have hspace : isSpace c = false := by
    simp [isSpace, hne ' ' (by decide) rfl, hne '\t' (by decide) rfl, hne '\n' (by decide) rfl,
      hne '\r' (by decide) rfl]
  have hname : readAtom (c :: (s ++ rest)) = readNumber (c :: (s ++ rest)) := by
    simp [readAtom, (hne 'n' (by decide) rfl).symm, (hne 't' (by decide) rfl).symm,
      (hne 'f' (by decide) rfl).symm]
  rw [hcons, List.cons_append] at hnumber ⊢
  rw [readValue_before hbefore hspace, if_neg (hne '"' (by decide) rfl),
    if_neg (hne '[' (by decide) rfl), if_neg (hne '\x7b' (by decide) rfl), hname, hnumber]

/-- A member is read as its name and value, if the value is read. -/
theorem reads_member {value : List Char → Option (Value × List Char)} {v : Value} {t : Text}
    (h : Reads value v t) (name : String) :
    Reads (readMember value) (.text name, v) (quoted name ++ ": " ++ t) := by
  intro before rest hbefore hrest
  have hspace : IsSpaces [' '] := by simp [IsSpaces, isSpace]
  have hvalue : value (' ' :: (t.chars ++ rest)) = some (v, rest) := h hspace hrest
  have hsplit : (quoted name ++ Text.ofString ": " ++ t).chars ++ rest =
      '"' :: (name.toList.flatMap escape ++ '"' :: (':' :: ' ' :: (t.chars ++ rest))) := by
    rw [← chars_quoted_append]
    simp
  have hname : readName (before ++ ((quoted name ++ Text.ofString ": " ++ t).chars ++ rest)) =
      some (name, ' ' :: (t.chars ++ rest)) := by
    rw [hsplit, readName, skipSpaces_before hbefore rfl]
    simp [readText_quoted, skipSpaces_cons (show isSpace ':' = false from rfl)]
  rw [readMember, hname]
  simp [hvalue]

/-! ## Texts -/

/-- A text is at most as long as the join that it is in. -/
theorem length_le_intercalate (separator : Text) {t : Text} {texts : List Text} (h : t ∈ texts) :
    t.chars.length ≤ (Text.intercalate separator texts).chars.length := by
  induction texts with
  | nil => cases h
  | cons u rest ih =>
    cases rest with
    | nil =>
      rw [List.mem_singleton.mp h, Text.intercalate_singleton]
    | cons w rest =>
      rw [Text.intercalate_cons_cons, Text.chars_append, Text.chars_append, List.length_append,
        List.length_append]
      rcases List.mem_cons.mp h with rfl | h
      · omega
      · have hrest := ih h
        omega

/-- What is enclosed is shorter than what it is enclosed in. -/
theorem length_lt_enclose (l : Layout) (d : Nat) {opening closing : String}
    (hopening : opening.toList.length = 1) {t : Text} {texts : List Text} (h : t ∈ texts) :
    t.chars.length < (enclose l d opening closing texts).chars.length := by
  have hinside := length_le_intercalate (separator l (d + 1)) h
  have hsome : texts.isEmpty = false := List.isEmpty_eq_false_iff_exists_mem.mpr ⟨t, h⟩
  rw [enclose, hsome]
  simp only [Bool.false_eq_true, if_false, Text.chars_append, List.length_append,
    Text.chars_ofString]
  omega

mutual

/-- A value that JSON has is read from its text as it is. -/
theorem reads_write (l : Layout) : (d : Nat) → (v : Value) → ∀ {t : Text} {depth : Nat},
    write l d v = .ok t → v.isPortable = true → t.chars.length < depth → Reads (readValue depth) v t
  | _, .null => by
    intro ht _ hdepth
    cases ht
    obtain ⟨depth, rfl⟩ := Nat.exists_eq_add_one_of_ne_zero (Nat.ne_zero_of_lt hdepth)
    intro before rest hbefore _
    exact readValue_before hbefore rfl depth _
  | _, .bool b => by
    intro ht _ hdepth
    cases ht
    obtain ⟨depth, rfl⟩ := Nat.exists_eq_add_one_of_ne_zero (Nat.ne_zero_of_lt hdepth)
    intro before rest hbefore _
    cases b with
    | false => exact readValue_before hbefore rfl depth _
    | true => exact readValue_before hbefore rfl depth _
  | _, .int i => by
    intro ht _ hdepth
    obtain ⟨s, hs, ht⟩ := bind_eq_ok ht
    cases ht
    obtain ⟨depth, rfl⟩ := Nat.exists_eq_add_one_of_ne_zero (Nat.ne_zero_of_lt hdepth)
    exact reads_wholeText depth hs
  | _, .text s => by
    intro ht hplain hdepth
    cases ht
    obtain ⟨r, rfl⟩ := Text.isPlain_iff.mp hplain
    obtain ⟨depth, rfl⟩ := Nat.exists_eq_add_one_of_ne_zero (Nat.ne_zero_of_lt hdepth)
    exact reads_quoted depth r
  | d, .list items => by
    intro ht hportable hdepth
    obtain ⟨texts, htexts, ht⟩ := bind_eq_ok ht
    cases ht
    obtain ⟨depth, rfl⟩ := Nat.exists_eq_add_one_of_ne_zero (Nat.ne_zero_of_lt hdepth)
    have hitems : List.Forall₂ (Reads (readValue depth)) items texts :=
      reads_writeItems l (d + 1) items htexts hportable fun u hu =>
        Nat.lt_of_lt_of_le (length_lt_enclose l d rfl hu) (Nat.le_of_lt_succ hdepth)
    intro before rest hbefore _
    obtain ⟨inside, hinside, hread⟩ := readParts_enclose l d (Or.inl rfl)
      (not_closing_of_readValue (Or.inl rfl) depth) hitems '[' rest
    show readValue (depth + 1) (before ++ ((enclose l d (String.singleton '[')
      (String.singleton ']') texts).chars ++ rest)) = _
    rw [hinside, readValue_before hbefore rfl]
    simp [hread]
  | d, .map entries => by
    intro ht hportable hdepth
    obtain ⟨texts, htexts, ht⟩ := bind_eq_ok ht
    cases ht
    obtain ⟨depth, rfl⟩ := Nat.exists_eq_add_one_of_ne_zero (Nat.ne_zero_of_lt hdepth)
    have hmembers : List.Forall₂ (Reads (readMember (readValue depth))) entries texts :=
      reads_writeEntries l (d + 1) entries htexts hportable fun u hu =>
        Nat.lt_of_lt_of_le (length_lt_enclose l d rfl hu) (Nat.le_of_lt_succ hdepth)
    intro before rest hbefore _
    obtain ⟨inside, hinside, hread⟩ := readParts_enclose l d (Or.inr rfl)
      (not_closing_of_readMember (readValue depth)) hmembers '\x7b' rest
    show readValue (depth + 1) (before ++ ((enclose l d (String.singleton '\x7b')
      (String.singleton '\x7d') texts).chars ++ rest)) = _
    rw [hinside, readValue_before hbefore rfl]
    simp [hread]
  | _, .real _ => fun _ h => nomatch h
  | _, .tuple _ => fun _ h => nomatch h
  | _, .set _ => fun _ h => nomatch h
  | _, .bytes _ => fun _ h => nomatch h
  | _, .date _ => fun _ h => nomatch h
  | _, .instant _ => fun _ h => nomatch h
  | _, .pattern _ => fun _ h => nomatch h
  | _, .bytePattern _ => fun _ h => nomatch h
  | _, .loop _ => fun _ h => nomatch h

/-- The texts of portable items are read as these. -/
theorem reads_writeItems (l : Layout) : (d : Nat) → (items : List Value) →
    ∀ {texts : List Text} {depth : Nat}, writeItems l d items = .ok texts →
      Value.allPortable items = true → (∀ t ∈ texts, t.chars.length < depth) →
        List.Forall₂ (Reads (readValue depth)) items texts
  | _, [] => by
    intro ht _ _
    cases ht
    exact .nil
  | d, v :: rest => by
    intro ht hportable hdepth
    obtain ⟨t, htext, ht⟩ := bind_eq_ok ht
    obtain ⟨ts, htexts, ht⟩ := bind_eq_ok ht
    cases ht
    have hboth := Bool.and_eq_true_iff.mp hportable
    have hall := List.forall_mem_cons.mp hdepth
    exact .cons (reads_write l d v htext hboth.1 hall.1)
      (reads_writeItems l d rest htexts hboth.2 hall.2)

/-- The texts of portable entries are read as these. -/
theorem reads_writeEntries (l : Layout) : (d : Nat) → (entries : List (Value × Value)) →
    ∀ {texts : List Text} {depth : Nat}, writeEntries l d entries = .ok texts →
      Value.entriesPortable entries = true → (∀ t ∈ texts, t.chars.length < depth) →
        List.Forall₂ (Reads (readMember (readValue depth))) entries texts
  | _, [] => by
    intro ht _ _
    cases ht
    exact .nil
  | d, (k, v) :: rest => by
    intro ht hportable hdepth
    obtain ⟨key, hkey, ht⟩ := bind_eq_ok ht
    obtain ⟨t, htext, ht⟩ := bind_eq_ok ht
    obtain ⟨ts, htexts, ht⟩ := bind_eq_ok ht
    cases ht
    obtain ⟨⟨⟨s, rfl⟩, hv⟩, hrest⟩ : ((∃ s : String, k = .text s) ∧ v.isPortable = true) ∧
        Value.entriesPortable rest = true := by
      simpa [Value.entriesPortable_iff] using hportable
    cases hkey
    have hall := List.forall_mem_cons.mp hdepth
    have hpart : t.chars.length ≤ (quoted s ++ Text.ofString ": " ++ t).chars.length := by
      rw [Text.chars_append, List.length_append]
      exact Nat.le_add_left _ _
    have hshorter := Nat.lt_of_le_of_lt hpart hall.1
    exact .cons (reads_member (reads_write l d v htext hv hshorter) s)
      (reads_writeEntries l d rest htexts hrest hall.2)

end

/-- The text of a value that JSON has, with white space after it, is read as the value. -/
theorem read_of_text {l : Layout} {v : Value} {t : String} (h : text l v = .ok t)
    (hportable : v.isPortable = true) {after : List Char} (hafter : IsSpaces after) :
    read (t.toList ++ after) = some v := by
  obtain ⟨s, hs, h⟩ := bind_eq_ok h
  rw [encoded_eq_ok_iff.mp h] at hs
  have hdepth : (Text.ofString t).chars.length < (t.toList ++ after).length + 1 := by
    rw [Text.chars_ofString, List.length_append]
    omega
  have hvalue : readValue ((t.toList ++ after).length + 1) (t.toList ++ after) =
      some (v, after) := by
    have hreads := reads_write l 0 v hs hportable hdepth isSpaces_nil (stops_of_isSpaces hafter)
    rwa [Text.chars_ofString] at hreads
  have hnothing : skipSpaces after = [] := by
    rw [← List.append_nil after, skipSpaces_append hafter]
    rfl
  rw [read, hvalue]
  simp [hnothing]

end Json

/-! ## Reports -/

/-- An entry that holds what JSON knows: its name and keys are strings and its order is a whole
number. -/
structure Entry.IsPortable (e : Entry) : Prop where
  name : ∃ s : String, e.name = .text s
  order : ∃ i, e.order = .int i ∧ isWritableWhole i = true
  keys : ∀ p ∈ e.properties, ∃ s : String, p.1 = .text s
  values : ∀ p ∈ e.properties, p.2.isPortable = true

/-- A report that holds what JSON knows: its names and packages are strings. -/
structure Report.IsPortable (r : Report) : Prop where
  activeNames : ∀ v ∈ r.activeNames, ∃ s : String, v = .text s
  packages : ∀ v ∈ r.packages, ∃ s : String, v = .text s
  entries : ∀ e ∈ r.entries, e.IsPortable

/-- Strings are portable items. -/
theorem Value.allPortable_of_texts {items : List Value}
    (h : ∀ v ∈ items, ∃ s : String, v = .text s) : allPortable items = true := by
  apply (allPortable_iff items).mpr
  intro v hv
  obtain ⟨s, rfl⟩ := h v hv
  exact Text.isPlain_ofString s

/-- A portable entry is a portable value. -/
theorem Entry.IsPortable.toValue {e : Entry} (h : e.IsPortable) : e.toValue.isPortable = true := by
  obtain ⟨s, hname⟩ := h.name
  obtain ⟨i, horder, hwhole⟩ := h.order
  have hproperties : Value.entriesPortable e.properties = true :=
    (Value.entriesPortable_iff e.properties).mpr fun p hp => ⟨h.keys p hp, h.values p hp⟩
  simp [Entry.toValue, Value.isPortable, Value.entriesPortable, hname, horder, hwhole, hproperties]

/-- A portable report is a portable value. -/
theorem Report.IsPortable.toValue {r : Report} (h : r.IsPortable) :
    r.toValue.isPortable = true := by
  have hentries : Value.allPortable (r.entries.map Entry.toValue) = true := by
    apply (Value.allPortable_iff _).mpr
    intro v hv
    obtain ⟨e, he, rfl⟩ := List.mem_map.mp hv
    exact (h.entries e he).toValue
  simp [Report.toValue, Value.isPortable, Value.entriesPortable, hentries,
    Value.allPortable_of_texts h.activeNames, Value.allPortable_of_texts h.packages]

/-- A value that is read back from the bytes of each text it is given as: the body of an answer, and
what the command prints. -/
structure Value.ReadsBack (v : Value) : Prop where
  body : ∀ status, ∃ answer, Http.Response.json status v = .ok answer ∧
    Json.readBytes (Utf8.encode answer.body.toList) = some v
  printed : ∃ text, Command.Ending.printed v = .done text ∧
    Json.readBytes (Utf8.encode text.toList) = some v

/-- A portable value is read back from its texts in both layouts. -/
theorem Value.readsBack_of_isPortable {v : Value} (h : v.isPortable = true) : v.ReadsBack := by
  have hwritten : ∀ l, ∃ t, Json.text l v = .ok t := fun l =>
    (Json.exists_text_iff l v).mpr (isWritable_of_isPortable v h)
  constructor
  · intro status
    obtain ⟨t, ht⟩ := hwritten Json.oneLine
    have hread := Json.read_of_text ht h Json.isSpaces_nil
    rw [List.append_nil] at hread
    refine ⟨{ status, contentType := "application/json", body := t }, ?_, ?_⟩
    · rw [Http.Response.json, ht]
      rfl
    · rw [Json.readBytes, Utf8.decode_encode]
      exact hread
  · obtain ⟨t, ht⟩ := hwritten Json.indented
    have hnewline : Json.IsSpaces ['\n'] := by simp [Json.IsSpaces, Json.isSpace]
    refine ⟨t ++ "\n", Command.Ending.printed_of_ok ht, ?_⟩
    rw [Json.readBytes, Utf8.decode_encode, String.toList_append]
    exact Json.read_of_text ht h hnewline

/-- A full report or a single entry that holds what JSON knows is read back as it is. -/
theorem rendering_loses_nothing :
    (∀ r : Report, r.IsPortable → r.toValue.ReadsBack) ∧
      ∀ e : Entry, e.IsPortable → e.toValue.ReadsBack :=
  ⟨fun _ h => Value.readsBack_of_isPortable h.toValue,
    fun _ h => Value.readsBack_of_isPortable h.toValue⟩

/-- An entry with empty collections, nested ones and a text with a control. -/
def nestedEntry : Entry where
  name := .text "a"
  order := .int (-7)
  convention := .dotted
  properties :=
    [(.text "quote\"", .text "tab\tnull\x00\\é😀"), (.text "", .list []),
      (.text "list", .list [.map [], .map [(.text "k", .list [.null, .bool true])], .int 12])]

/-- A report of it. -/
def nestedReport : Report where
  activeNames := [.text "dev"]
  packages := []
  entries := [nestedEntry]

/-- The entry with a nested value is portable. -/
theorem isPortable_nestedEntry : nestedEntry.IsPortable where
  name := ⟨"a", rfl⟩
  order := ⟨-7, rfl, by decide +kernel⟩
  keys := by simp [nestedEntry]
  values := by decide +kernel

/-- The report with that entry is portable. -/
theorem isPortable_nestedReport : nestedReport.IsPortable where
  activeNames := by simp [nestedReport]
  packages := by simp [nestedReport]
  entries := by simp [nestedReport, isPortable_nestedEntry]

/-- The nested report and its entry are read back. -/
theorem rendering_loses_nothing_nested :
    nestedReport.toValue.ReadsBack ∧ nestedEntry.toValue.ReadsBack :=
  ⟨rendering_loses_nothing.1 nestedReport isPortable_nestedReport,
    rendering_loses_nothing.2 nestedEntry isPortable_nestedEntry⟩

end MaskedReport
