import MaskedReport.Json
import MaskedReport.Proofs.Letters
import MaskedReport.Proofs.Sorting

/-!
# Values that can be written

Which values have a shown form, and which have a JSON text. A shown form lacks only where a whole
number is too long. A JSON text lacks there too, where a collection is within itself or a mapping,
at any depth, has a key that JSON cannot name: such a key is not replaced by its text, as a value
would be; and where a text has a letter that is half of a surrogate pair. `Json.isOk_text` says that
nothing else keeps a value from being written and encoded.
-/

set_option autoImplicit false

namespace MaskedReport

/-! ## Success -/

/-- A step succeeds with what follows it if what follows succeeds whatever the step gives. -/
theorem isOk_bind {α β : Type} {x : Except Failure α} {f : α → Except Failure β} {b : Bool}
    (h : ∀ a, (f a).isOk = b) : (x >>= f).isOk = (x.isOk && b) := by
  cases x with
  | error e => rfl
  | ok a => exact h a

/-- A step after which nothing can fail decides whether there is a result. -/
theorem isOk_bind_pure {α β : Type} (x : Except Failure α) (f : α → β) :
    (x >>= fun a => pure (f a)).isOk = x.isOk := by
  rw [isOk_bind (b := true) fun _ => rfl, Bool.and_true]

/-- Whether there is a result that passes a test. -/
def gives {α : Type} (test : α → Bool) : Except Failure α → Bool
  | .ok a => test a
  | .error _ => false

/-- A step after which nothing can fail gives what passes a test iff its result passes the test on
what comes of it. -/
theorem gives_bind_pure {α β : Type} {test : α → Bool} {test' : β → Bool} {f : α → β}
    (h : ∀ a, test' (f a) = test a) (x : Except Failure α) :
    gives test' (do return f (← x)) = gives test x := by
  cases x with
  | error e => rfl
  | ok a => exact h a

/-- A step succeeds with one that follows it iff it gives what the one that follows succeeds for. -/
theorem isOk_bind_eq_gives {α β : Type} (x : Except Failure α) (f : α → Except Failure β) :
    (x >>= f).isOk = gives (fun a => (f a).isOk) x := by
  cases x with
  | error e => rfl
  | ok a => rfl

/-! ## Shown forms -/

/-- Whether a whole number has few enough digits to be written. -/
def isWritableWhole (i : Int) : Bool := i.natAbs < pow10 4300

/-- A whole number has a text if and only if it can be written. -/
theorem isOk_wholeText (i : Int) : (wholeText i).isOk = isWritableWhole i := by
  unfold wholeText isWritableWhole
  by_cases hlong : pow10 4300 ≤ i.natAbs
  · rw [if_pos hlong, decide_eq_false (Nat.not_lt.mpr hlong)]
    rfl
  · rw [if_neg hlong, decide_eq_true (Nat.not_le.mp hlong)]
    rfl

namespace Value

mutual

/-- Whether a value has a shown form. -/
def isShowable : Value → Bool
  | .int i => isWritableWhole i
  | .list items => allShowable items
  | .tuple items => allShowable items
  | .set items => allShowable items
  | .map entries => entriesShowable entries
  | _ => true

/-- Whether all values have shown forms. -/
def allShowable : List Value → Bool
  | [] => true
  | v :: rest => isShowable v && allShowable rest

/-- Whether all keys and values of entries have shown forms. -/
def entriesShowable : List (Value × Value) → Bool
  | [] => true
  | (k, v) :: rest => (isShowable k && isShowable v) && entriesShowable rest

end

mutual

/-- Showing a value succeeds if and only if the value is showable. -/
theorem isOk_shown : (v : Value) → v.shown.isOk = v.isShowable
  | .null => rfl
  | .bool b => rfl
  | .int i => isOk_wholeText i
  | .real x => rfl
  | .text s => rfl
  | .bytes bs => rfl
  | .date d => rfl
  | .instant t => rfl
  | .list items => by
    rw [shown, isShowable, ← isOk_shownItems items, isOk_bind_pure]
  | .tuple items => by
    rw [shown, isShowable, ← isOk_shownItems items, isOk_bind (b := true), Bool.and_true]
    intro all
    split
    · rfl
    · rfl
  | .set [] => rfl
  | .set (v :: rest) => by
    rw [shown, isShowable, ← isOk_shownItems (v :: rest), isOk_bind_pure]
    nofun
  | .map entries => by
    rw [shown, isShowable, ← isOk_shownEntries entries, isOk_bind_pure]
  | .pattern p => rfl
  | .bytePattern source => rfl
  | .loop ofMap => rfl

/-- Showing items succeeds if and only if all are showable. -/
theorem isOk_shownItems : (items : List Value) → (shownItems items).isOk = allShowable items
  | [] => rfl
  | v :: rest => by
    rw [shownItems, allShowable, ← isOk_shown v, ← isOk_shownItems rest]
    exact isOk_bind fun _ => isOk_bind_pure _ _

/-- Showing entries succeeds if and only if all keys and values are showable. -/
theorem isOk_shownEntries :
    (entries : List (Value × Value)) → (shownEntries entries).isOk = entriesShowable entries
  | [] => rfl
  | (k, v) :: rest => by
    rw [shownEntries, entriesShowable, ← isOk_shown k, ← isOk_shown v, ← isOk_shownEntries rest,
      Bool.and_assoc]
    exact isOk_bind fun _ => isOk_bind fun _ => isOk_bind_pure _ _

end

/-! ## JSON -/

/-- Whether JSON can name a key. -/
def isWritableKey : Value → Bool
  | .null => true
  | .bool _ => true
  | .int i => isWritableWhole i
  | .real _ => true
  | .text s => s.isPlain
  | _ => false

mutual

/-- Whether a value has a JSON text. -/
def isWritable : Value → Bool
  | .int i => isWritableWhole i
  | .text s => s.isPlain
  | .list items => allWritable items
  | .tuple items => allWritable items
  | .set items => allShowable items
  | .map entries => entriesWritable entries
  | .loop _ => false
  | _ => true

/-- Whether all values have JSON texts. -/
def allWritable : List Value → Bool
  | [] => true
  | v :: rest => isWritable v && allWritable rest

/-- Whether JSON can name all keys of entries and all values have JSON texts. -/
def entriesWritable : List (Value × Value) → Bool
  | [] => true
  | (k, v) :: rest => (isWritableKey k && isWritable v) && entriesWritable rest

end

/-- Items can be written if each can. -/
theorem allWritable_eq_all (items : List Value) : allWritable items = items.all isWritable := by
  induction items with
  | nil => rfl
  | cons v rest ih => rw [allWritable, ih, List.all_cons]

/-- Entries can be written if each key can be one in JSON and each value can be written. -/
theorem entriesWritable_eq_all (entries : Entries) :
    entriesWritable entries = entries.all fun e => isWritableKey e.1 && isWritable e.2 := by
  induction entries with
  | nil => rfl
  | cons e rest ih => rw [entriesWritable, ih, List.all_cons]

end Value

namespace Json

/-! ## Texts that can be encoded -/

/-- A text can be encoded iff it is plain, and then as its string. -/
theorem encoded_eq_ok_iff {s : Text} {t : String} : encoded s = .ok t ↔ s = Text.ofString t := by
  unfold encoded
  cases hwhy : Text.unencodable? (fun _ => false) 0 s.toList with
  | none =>
    have hplain : s.isPlain = true := (Text.unencodable?_eq_none_iff_isPlain 0 s).mp hwhy
    constructor
    · rintro ⟨⟩
      exact (Text.ofString_string hplain).symm
    · rintro rfl
      simp
  | some why =>
    refine iff_of_false nofun ?_
    rintro rfl
    have hnone := (Text.unencodable?_eq_none_iff_isPlain 0 _).mpr (Text.isPlain_ofString t)
    cases hnone.symm.trans hwhy

/-- The text of a string is encoded as that string. -/
@[simp]
theorem encoded_ofString (s : String) : encoded (Text.ofString s) = .ok s :=
  encoded_eq_ok_iff.mpr rfl

/-- Encoding succeeds just for plain texts. -/
theorem isOk_encoded (s : Text) : (encoded s).isOk = s.isPlain := by
  cases hplain : s.isPlain with
  | true =>
    rw [← Text.ofString_string hplain, encoded_ofString]
    rfl
  | false =>
    cases hencoded : encoded s with
    | ok t =>
      rw [encoded_eq_ok_iff.mp hencoded, Text.isPlain_ofString] at hplain
      cases hplain
    | error why => rfl

/-- What has been encoded is the string of its characters. -/
theorem string_of_encoded {s : Text} {t : String} (h : encoded s = .ok t) : s.string = t := by
  rw [encoded_eq_ok_iff.mp h, Text.string_ofString]

/-! ## Quoted and enclosed texts -/

/-- The characters of a quoted text are those of the text in their forms, between two marks. -/
theorem chars_quoted (s : Text) : (quoted s).chars = '"' :: (s.chars.flatMap escape ++ ['"']) := by
  have hletter : ∀ l : Letter, (escapeLetter l).map Letter.asChar = escape l.asChar := by
    intro l
    cases l with
    | char c => simp [escapeLetter, Function.comp_def]
    | lone h => rfl
  simp [quoted, Text.chars, List.map_flatMap, List.flatMap_map, hletter]

/-- A quoted text is plain iff the text is. -/
@[simp]
theorem isPlain_quoted (s : Text) : (quoted s).isPlain = s.isPlain := by
  have hletter : ∀ l : Letter, (escapeLetter l).all (!·.isLone) = !l.isLone := by
    intro l
    cases l with
    | char c => simp [escapeLetter]
    | lone h => rfl
  simp [quoted, Text.isPlain, List.all_flatMap, hletter]

/-- What is enclosed in brackets is plain iff all its parts are. -/
@[simp]
theorem isPlain_enclose (layout : Layout) (depth : Nat) (opening closing : String)
    (texts : List Text) : (enclose layout depth opening closing texts).isPlain =
      texts.all Text.isPlain := by
  unfold enclose
  cases texts with
  | nil => simp
  | cons t rest => simp [Text.isPlain_intercalate]

/-! ## What can be written -/

/-- A string as a text is plain wherever there is one. -/
theorem gives_ofString (x : Except Failure String) :
    gives Text.isPlain (do return Text.ofString (← x)) = x.isOk := by
  cases x with
  | error e => rfl
  | ok s => exact Text.isPlain_ofString s

/-- A string is quoted plainly wherever there is one. -/
theorem gives_quoted (x : Except Failure String) :
    gives Text.isPlain (do return quoted (← (do return Text.ofString (← x)))) = x.isOk := by
  cases x with
  | error e => rfl
  | ok s => exact (isPlain_quoted _).trans (Text.isPlain_ofString s)

/-- A key has a plain name in JSON if and only if it can be written as one. -/
theorem gives_keyText (layout : Layout) (k : Value) :
    gives Text.isPlain (keyText layout k) = k.isWritableKey := by
  cases k with
  | int i => exact (gives_ofString _).trans (isOk_wholeText i)
  | null => exact Text.isPlain_ofString _
  | bool b => exact Text.isPlain_ofString _
  | real x => exact Text.isPlain_ofString _
  | _ => rfl

/-- A text and more texts are plain iff each is. -/
theorem gives_cons (x : Except Failure Text) (texts : Except Failure (List Text)) :
    gives (List.all · Text.isPlain) (do return (← x) :: (← texts)) =
      (gives Text.isPlain x && gives (List.all · Text.isPlain) texts) := by
  cases x with
  | error e => rfl
  | ok t =>
    cases texts with
    | error e => exact (Bool.and_false _).symm
    | ok ts => rfl

/-- An entry and more texts are plain iff the key and the value of the entry are, and the texts. -/
theorem gives_entry (key x : Except Failure Text) (texts : Except Failure (List Text)) :
    gives (List.all · Text.isPlain) (do
        let key ← key
        let value ← x
        return (quoted key ++ ": " ++ value) :: (← texts)) =
      ((gives Text.isPlain key && gives Text.isPlain x) &&
        gives (List.all · Text.isPlain) texts) := by
  cases key with
  | error e => rfl
  | ok k =>
    cases x with
    | error e =>
      show false = (_ && false && _)
      rw [Bool.and_false, Bool.false_and]
    | ok t =>
      cases texts with
      | error e => exact (Bool.and_false _).symm
      | ok ts =>
        show ((quoted k ++ Text.ofString ": " ++ t).isPlain && ts.all Text.isPlain) =
          (k.isPlain && t.isPlain && ts.all Text.isPlain)
        simp

mutual

/-- A value is written plainly if and only if it is writable, in whatever layout. -/
theorem gives_write (layout : Layout) :
    (depth : Nat) → (v : Value) → gives Text.isPlain (write layout depth v) = v.isWritable
  | _, .null => Text.isPlain_ofString _
  | _, .bool _ => Text.isPlain_ofString _
  | _, .int i => (gives_ofString _).trans (isOk_wholeText i)
  | _, .real _ => Text.isPlain_ofString _
  | _, .text s => isPlain_quoted s
  | _, .bytes bs => gives_quoted (.ok _)
  | _, .date d => gives_quoted (.ok _)
  | _, .instant t => gives_quoted (.ok _)
  | depth, .list items => by
    rw [write, Value.isWritable, ← gives_writeItems layout (depth + 1) items]
    exact gives_bind_pure (isPlain_enclose layout depth _ _) _
  | depth, .tuple items => by
    rw [write, Value.isWritable, ← gives_writeItems layout (depth + 1) items]
    exact gives_bind_pure (isPlain_enclose layout depth _ _) _
  | depth, .map entries => by
    rw [write, Value.isWritable, ← gives_writeEntries layout (depth + 1) entries]
    exact gives_bind_pure (isPlain_enclose layout depth _ _) _
  | _, .set items => (gives_quoted _).trans (Value.isOk_shown (.set items))
  | _, .pattern p => gives_quoted (.ok _)
  | _, .bytePattern source => gives_quoted (.ok _)
  | _, .loop ofMap => rfl

/-- Items are written plainly if and only if all can be written. -/
theorem gives_writeItems (layout : Layout) :
    (depth : Nat) → (items : List Value) →
      gives (List.all · Text.isPlain) (writeItems layout depth items) = Value.allWritable items
  | _, [] => rfl
  | depth, v :: rest => by
    rw [writeItems, Value.allWritable, ← gives_write layout depth v,
      ← gives_writeItems layout depth rest]
    exact gives_cons _ _

/-- Entries are written plainly if and only if all can be written. -/
theorem gives_writeEntries (layout : Layout) :
    (depth : Nat) → (entries : List (Value × Value)) →
      gives (List.all · Text.isPlain) (writeEntries layout depth entries) =
        Value.entriesWritable entries
  | _, [] => rfl
  | depth, (k, v) :: rest => by
    rw [writeEntries, Value.entriesWritable, ← gives_keyText layout k, ← gives_write layout depth v,
      ← gives_writeEntries layout depth rest]
    exact gives_entry _ _ _

end

/-- A value has a JSON text if and only if it can be written. -/
theorem isOk_text (l : Layout) (v : Value) : (text l v).isOk = v.isWritable := by
  rw [text, isOk_bind_eq_gives, ← gives_write l 0 v]
  simp only [isOk_encoded]

/-- There is a JSON text of a value if and only if it can be written. -/
theorem exists_text_iff (l : Layout) (v : Value) :
    (∃ t, text l v = .ok t) ↔ v.isWritable = true := by
  rw [← isOk_text l v]
  cases hwritten : text l v with
  | ok t => exact iff_of_true ⟨t, rfl⟩ rfl
  | error why => exact iff_of_false nofun Bool.false_ne_true

end Json

end MaskedReport
