import MaskedReport.Proofs.Configuration
import MaskedReport.Proofs.Matching
import MaskedReport.Proofs.PathTexts

/-!
# Idioms of mask patterns

A simple pattern takes what its parts take one after the other, whatever the parts are:
`denotes_parts`. Most mask patterns use this in three ways. They select one key, the keys below it,
or the keys that hold it, where the dots of the key are escaped and its words are written as they
are. `idiom_selects_keys` says that each way selects the keys it is meant to select and no others.
-/

set_option autoImplicit false

namespace MaskedReport.Pattern

open scoped Computability

/-! ## What simple patterns take -/

/-- What ends in a line feed before an end without one does so itself. -/
theorem getLast?_of_append {s t : List Letter} (ht : .char '\n' ∉ t)
    (h : (s ++ t).getLast? = some (.char '\n')) : s.getLast? = some (.char '\n') := by
  rw [List.getLast?_append] at h
  cases hlast : t.getLast? with
  | none => simpa [hlast] using h
  | some c =>
    have hc : c = .char '\n' := by simpa [hlast] using h
    exact absurd (hc ▸ List.mem_of_getLast? hlast) ht

namespace Part

/-- The texts that a part takes. -/
def language (flags : Flags) : Part → Language Letter
  | letter c => spelt flags [c]
  | dot => spelt flags [.char '.']
  | wild => line

/-- The part that takes a character, which escapes a dot. -/
def ofLetter (c : Letter) : Part := if c = .char '.' then dot else letter c

/-- A character that is no mark of patterns stands for itself. -/
theorem ofLetter_of_notMem {c : Letter} (hc : c ∉ metaChars) : ofLetter c = letter c := by
  have hne : c ≠ .char '.' := by
    rintro rfl
    exact hc (by decide)
  exact if_neg hne

/-- The part for a character takes the spellings of that character. -/
theorem language_ofLetter (flags : Flags) (c : Letter) :
    (ofLetter c).language flags = spelt flags [c] := by
  unfold ofLetter
  split
  · subst_vars
    rfl
  · rfl

/-- The part for a character is read as that character. -/
theorem node_ofLetter (c : Letter) : (ofLetter c).node = .char c.code := by
  unfold ofLetter
  split
  · subst_vars
    rfl
  · rfl

/-- Where the wildcard stops at line feeds, a part is read as a node that denotes its language. -/
theorem denotes_node {flags : Flags} (hdotAll : flags.dotAll = false) (part : Part) :
    part.node.Denotes flags (part.language flags) := by
  have hchar : ∀ c : Letter, (Node.char c.code).Denotes flags (spelt flags [c]) := by
    intro c
    rw [spelt_cons, spelt_nil, mul_one]
    exact Node.denotes_char c.code
  cases part with
  | letter c => exact hchar c
  | dot => exact hchar (.char '.')
  | wild =>
    have hany : Node.any.Denotes flags (single fun c => flags.dotAll || c != .char '\n') :=
      Node.denotes_any
    simp only [hdotAll, Bool.false_or] at hany
    rw [language, ← kstar_single_eq_line]
    exact hany.star

end Part

/-- A simple pattern takes what its parts take one after the other. -/
theorem denotes_parts {flags : Flags} (hdotAll : flags.dotAll = false) (parts : List Part) :
    (Node.sequence (parts.map Part.node)).Denotes flags
      (parts.map (Part.language flags)).prod := by
  induction parts with
  | nil => exact Node.denotes_empty
  | cons part parts ih => exact (part.denotes_node hdotAll).seq ih

/-- The parts of the characters of a text take the spellings of the text. -/
theorem prod_language_ofLetter (flags : Flags) (s : List Letter) :
    ((s.map Part.ofLetter).map (Part.language flags)).prod = spelt flags s := by
  induction s with
  | nil => exact (spelt_nil flags).symm
  | cons c s ih =>
    rw [List.map_cons, List.map_cons, List.prod_cons, ih, Part.language_ofLetter, spelt_cons,
      spelt_cons, spelt_nil, mul_one]

/-! ## The three ways -/

/-- A way to select keys by a key: that one, those below it, or those that hold it. -/
inductive Idiom where
  | exactly
  | below
  | holding
  deriving DecidableEq

namespace Idiom

/-- The text of the pattern, from that of the key's pattern. -/
def pattern : Idiom → Text → Text
  | exactly, text => text
  | below, text => text ++ "\\..*"
  | holding, text => ".*" ++ text ++ ".*"

/-- Whether a key is meant by the way and the key given for it. What stands before and after the
given key is free of line feeds. -/
def Covers : Idiom → (given key : Text) → Prop
  | exactly, given, key => key = given
  | below, given, key => ∃ rest : Text, .char '\n' ∉ rest.toList ∧ key = given ++ "." ++ rest
  | holding, given, key => ∃ before after : Text,
      .char '\n' ∉ before.toList ∧ .char '\n' ∉ after.toList ∧ key = before ++ given ++ after

/-- The parts of the pattern, from those of the key. -/
def parts : Idiom → List Part → List Part
  | exactly, key => key
  | below, key => key ++ [.dot, .wild]
  | holding, key => .wild :: key ++ [.wild]

/-- The texts that the pattern takes. -/
def language (flags : Flags) : Idiom → (given : List Letter) → Language Letter
  | exactly, given => spelt flags given
  | below, given => spelt flags given * (spelt flags [.char '.'] * line)
  | holding, given => line * (spelt flags given * line)

variable {idiom : Idiom} {given key : Text}

/-- The pattern of a way is read as a node that denotes the language of the way. -/
theorem denotes {flags : Flags} (hdotAll : flags.dotAll = false) (idiom : Idiom)
    (given : List Letter) :
    (Node.sequence ((idiom.parts (given.map Part.ofLetter)).map Part.node)).Denotes flags
      (idiom.language flags given) := by
  have hprod : ((idiom.parts (given.map Part.ofLetter)).map (Part.language flags)).prod =
      idiom.language flags given := by
    cases idiom <;> simp only [parts, language, Part.language, List.map_append, List.map_cons,
      List.map_nil, List.cons_append, List.prod_append, List.prod_cons, List.prod_nil, mul_one,
      prod_language_ofLetter]
  rw [← hprod]
  exact denotes_parts hdotAll _

/-- Where keys that hold a key are selected, a spelling of it stands between texts without a line
feed. -/
theorem mem_language_holding {flags : Flags} {given s : List Letter} :
    s ∈ holding.language flags given ↔
      ∃ before spelling after, s = before ++ spelling ++ after ∧
        .char '\n' ∉ before ∧ .char '\n' ∉ after ∧ spelling ∈ spelt flags given := by
  simp only [language, Language.mem_mul, mem_line]
  constructor
  · rintro ⟨before, hbefore, _, ⟨spelling, hspelling, after, hafter, rfl⟩, rfl⟩
    exact ⟨before, spelling, after, by rw [List.append_assoc], hbefore, hafter, hspelling⟩
  · rintro ⟨before, spelling, after, rfl, hbefore, hafter, hspelling⟩
    exact ⟨before, hbefore, _, ⟨spelling, hspelling, after, hafter, rfl⟩,
      by rw [List.append_assoc]⟩

/-- Where case counts, the texts that the pattern takes are the keys that are meant. -/
theorem mem_language_iff {flags : Flags} (hcase : flags.ignoreCase = false) :
    key.toList ∈ idiom.language flags given.toList ↔ idiom.Covers given key := by
  cases idiom with
  | exactly => rw [language, mem_spelt_iff_eq hcase, ← Text.ext_iff, Covers]
  | below =>
    simp only [language, Covers, Language.mem_mul, mem_spelt_iff_eq hcase, mem_line,
      exists_eq_left]
    constructor
    · rintro ⟨_, ⟨rest, hrest, rfl⟩, hkey⟩
      refine ⟨Text.ofList rest, by simpa using hrest, ?_⟩
      rw [Text.ext_iff, ← hkey]
      simp
    · rintro ⟨rest, hrest, rfl⟩
      exact ⟨_, ⟨rest.toList, hrest, rfl⟩, by simp⟩
  | holding =>
    rw [mem_language_holding, Covers]
    constructor
    · rintro ⟨before, spelling, after, hkey, hbefore, hafter, hspelling⟩
      rw [mem_spelt_iff_eq hcase] at hspelling
      refine ⟨Text.ofList before, Text.ofList after, by simpa using hbefore,
        by simpa using hafter, ?_⟩
      rw [Text.ext_iff, hkey, hspelling]
      simp
    · rintro ⟨before, after, hbefore, hafter, rfl⟩
      have hspelling : given.toList ∈ spelt flags given.toList := (mem_spelt_iff_eq hcase).mpr rfl
      exact ⟨before.toList, given.toList, after.toList, by simp, hbefore, hafter, hspelling⟩

/-- A key that is meant holds the given one letter by letter. -/
theorem Covers.isInfix (h : idiom.Covers given key) : given.toList <:+: key.toList := by
  cases idiom with
  | exactly => rw [show key = given from h]
  | below =>
    obtain ⟨rest, -, rfl⟩ := h
    exact ⟨[], .char '.' :: rest.toList, by simp⟩
  | holding =>
    obtain ⟨before, after, -, -, rfl⟩ := h
    exact ⟨before.toList, after.toList, by simp⟩

/-- A key that is meant ends in a line feed only where the given one does. -/
theorem Covers.getLast? (h : idiom.Covers given key)
    (hend : key.toList.getLast? = some (.char '\n')) :
    given.toList.getLast? = some (.char '\n') := by
  cases idiom with
  | exactly => rwa [show key = given from h] at hend
  | below =>
    obtain ⟨rest, hrest, rfl⟩ := h
    have hline : .char '\n' ∉ .char '.' :: rest.toList := by simpa using hrest
    exact getLast?_of_append hline (by simpa using hend)
  | holding =>
    obtain ⟨before, after, hbefore, hafter, rfl⟩ := h
    have hgiven : (before.toList ++ given.toList).getLast? = some (.char '\n') :=
      getLast?_of_append hafter (by simpa using hend)
    rw [List.getLast?_append] at hgiven
    cases hlast : given.toList.getLast? with
    | none =>
      have hmem : before.toList.getLast? = some (.char '\n') := by simpa [hlast] using hgiven
      exact absurd (List.mem_of_getLast? hmem) hbefore
    | some c => simpa [hlast] using hgiven

end Idiom

/-! ## Reading the patterns -/

section Words

variable {words : List (List Letter)} (ordinary : ∀ word ∈ words, ∀ c ∈ word, c ∉ metaChars)

include ordinary

/-- The parts of words with dots between them have the text of the words with escaped dots between
them. -/
theorem flatMap_text_intercalate :
    (([.char '.'].intercalate words).map Part.ofLetter).flatMap Part.text =
      [.char '\\', .char '.'].intercalate words := by
  induction words with
  | nil => rfl
  | cons word rest ih =>
    obtain ⟨hword, hrest⟩ := List.forall_mem_cons.mp ordinary
    have hletters : (word.map Part.ofLetter).flatMap Part.text = word := by
      rw [List.map_congr_left fun c hc => Part.ofLetter_of_notMem (hword c hc)]
      exact Part.flatMap_text_letters word
    cases rest with
    | nil => rw [List.intercalate_singleton, List.intercalate_singleton, hletters]
    | cons second rest =>
      have hdot : ([Letter.char '.'].map Part.ofLetter).flatMap Part.text =
          [.char '\\', .char '.'] := rfl
      rw [List.intercalate_cons_cons, List.intercalate_cons_cons, List.map_append, List.map_append,
        List.flatMap_append, List.flatMap_append, hletters, hdot, ih hrest]

/-- The parts for words with dots between them are ordinary. -/
theorem isOrdinary_intercalate :
    ∀ part ∈ ([.char '.'].intercalate words).map Part.ofLetter, part.IsOrdinary := by
  intro part hpart
  obtain ⟨c, hc, rfl⟩ := List.mem_map.mp hpart
  by_cases hdot : c = .char '.'
  · subst hdot
    trivial
  · obtain ⟨word, hword, hc⟩ := (Path.mem_intercalate_iff hdot _).mp hc
    have hmeta := ordinary word hword c hc
    rw [Part.ofLetter_of_notMem hmeta]
    exact hmeta

end Words

namespace Idiom

variable {key : List Part}

/-- The text of the pattern is that of its parts. -/
theorem flatMap_text_parts (idiom : Idiom) {text : Text}
    (htext : key.flatMap Part.text = text.toList) :
    (idiom.parts key).flatMap Part.text = (idiom.pattern text).toList := by
  cases idiom with
  | exactly => exact htext
  | below => simp [parts, pattern, htext, Part.text]
  | holding => simp [parts, pattern, htext, Part.text]

/-- The parts of an idiom are ordinary where those of the key are. -/
theorem isOrdinary_parts (idiom : Idiom) (ordinary : ∀ part ∈ key, part.IsOrdinary) :
    ∀ part ∈ idiom.parts key, part.IsOrdinary := by
  intro part hpart
  have hcases : part ∈ key ∨ part = .dot ∨ part = .wild := by
    cases idiom with
    | exactly => exact Or.inl hpart
    | below => simpa [parts] using hpart
    | holding =>
      simp only [parts, List.cons_append, List.mem_cons, List.mem_append, List.not_mem_nil,
        or_false] at hpart
      rcases hpart with rfl | hkey | rfl
      · exact Or.inr (Or.inr rfl)
      · exact Or.inl hkey
      · exact Or.inr (Or.inr rfl)
  rcases hcases with hkey | rfl | rfl
  · exact ordinary part hkey
  · trivial
  · trivial

/-- The pattern of a key whose words are written as they are, its dots being escaped, is read as
its parts one after the other. -/
theorem compile_pattern {words : List Text}
    (ordinary : ∀ word ∈ words, ∀ c ∈ word.toList, c ∉ metaChars) (idiom : Idiom) :
    compile {} (idiom.pattern (Text.intercalate "\\." words)) =
      .ok { text := idiom.pattern (Text.intercalate "\\." words)
            flags := { unicode := true }
            node := .sequence
              ((idiom.parts ((Text.intercalate "." words).toList.map Part.ofLetter)).map
                Part.node) } := by
  let key := ([.char '.'].intercalate (words.map Text.toList)).map Part.ofLetter
  have hwords : ∀ word ∈ words.map Text.toList, ∀ c ∈ word, c ∉ metaChars := by
    simpa using ordinary
  have hkey : (Text.intercalate "." words).toList.map Part.ofLetter = key := by
    rw [Text.toList_intercalate]
    rfl
  have hescaped : key.flatMap Part.text = (Text.intercalate "\\." words).toList := by
    rw [Text.toList_intercalate]
    exact flatMap_text_intercalate hwords
  have htext : idiom.pattern (Text.intercalate "\\." words) =
      Text.ofList ((idiom.parts key).flatMap Part.text) := by
    rw [idiom.flatMap_text_parts hescaped, Text.ofList_toList]
  have hparts := idiom.isOrdinary_parts (isOrdinary_intercalate hwords)
  rw [hkey, htext]
  exact compile_simple {} _ hparts rfl rfl rfl

end Idiom

/-- Where the words of a key are written as they are and its dots are escaped, the text of each way
is read as a pattern for which case counts, and the pattern matches exactly the keys that are meant.
These hold the given key letter by letter, and end in a line feed only where it does. -/
theorem idiom_selects_keys {words : List Text}
    (ordinary : ∀ word ∈ words, ∀ c ∈ word.toList, c ∉ metaChars) (idiom : Idiom) :
    ∃ p, ofValue {} (.text (idiom.pattern (Text.intercalate "\\." words))) = .ok p ∧
      p.flags = { unicode := true } ∧
      ∀ key : Text,
        (anyMatches (.text key) [p] = .ok true ↔ idiom.Covers (Text.intercalate "." words) key) ∧
        (anyMatches (.text key) [p] = .ok false ↔ ¬ idiom.Covers (Text.intercalate "." words) key) ∧
        (anyMatches (.text key) [p] = .ok true →
          (Text.intercalate "." words).toList <:+: key.toList ∧
          (key.toList.getLast? = some (.char '\n') →
            (Text.intercalate "." words).toList.getLast? = some (.char '\n'))) := by
  let given := Text.intercalate "." words
  let p : Pattern := {
    text := idiom.pattern (Text.intercalate "\\." words)
    flags := { unicode := true }
    node := .sequence ((idiom.parts (given.toList.map Part.ofLetter)).map Part.node) }
  have hread : ofValue {} (.text (idiom.pattern (Text.intercalate "\\." words))) = .ok p := by
    rw [ofValue, idiom.compile_pattern ordinary]
  refine ⟨p, hread, rfl, ?_⟩
  intro key
  have hmatches : p.matchesAll key ↔ idiom.Covers given key := by
    rw [matchesAll, (idiom.denotes rfl given.toList).takesAll_iff]
    exact Idiom.mem_language_iff rfl
  have hany : anyMatches (.text key) [p] = .ok (p.matchesAll key) := by
    rw [anyMatches_text, List.any_cons, List.any_nil, Bool.or_false]
  rw [hany, Except.ok.injEq, Except.ok.injEq, ← Bool.not_eq_true, hmatches]
  exact ⟨Iff.rfl, Iff.rfl, fun h => ⟨h.isInfix, h.getLast?⟩⟩

/-- A key that holds the password of a database is selected, but not one that spells it in capital
letters or ends in a line feed. -/
theorem idiom_selects_keys_dbPassword :
    (∀ word ∈ [Text.ofString "db", Text.ofString "password"], ∀ c ∈ word.toList,
        c ∉ metaChars) ∧
      ∃ p, ofValue {} (.text ".*db\\.password.*") = .ok p ∧
        anyMatches (.text "main.db.password") [p] = .ok true ∧
        anyMatches (.text "main.DB.PASSWORD") [p] = .ok false ∧
        anyMatches (.text "main.db.password\n") [p] = .ok false := by
  let words : List Text := ["db", "password"]
  have hall : (words.all fun word => word.toList.all (· ∉ metaChars)) = true := rfl
  have hwords : ∀ word ∈ words, ∀ c ∈ word.toList, c ∉ metaChars := by
    intro word hword c hc
    exact of_decide_eq_true (List.all_eq_true.mp (List.all_eq_true.mp hall word hword) c hc)
  obtain ⟨p, hp, -, hkeys⟩ := idiom_selects_keys hwords .holding
  have hcovered : Idiom.holding.Covers "db.password" "main.db.password" :=
    ⟨"main.", "", by decide, by decide, rfl⟩
  refine ⟨hwords, p, hp, (hkeys _).1.mpr hcovered, ?_, ?_⟩
  · rw [(hkeys _).2.1]
    intro h
    exact absurd h.isInfix (by decide)
  · rw [(hkeys _).2.1]
    intro h
    exact absurd (h.getLast? (by decide)) (by decide)

end MaskedReport.Pattern
