import MaskedReport.Proofs.SecretKeys

/-!
# How secret words are spelt

The patterns of secret words ignore letter case in the way of Unicode, so a few characters beyond
the small and the capital letters stand for the letters of a word. `Case.mem_withLower_iff` inverts
the map to small letters, which gives the characters that stand for each letter, and
`Policy.legacy_verdict_iff` says exactly which keys are masked where the policy masks what looks
secret and nothing else.
-/

set_option autoImplicit false

namespace MaskedReport

/-! ## The inverse of the map to small letters -/

namespace Case

/-- A code point with a given small letter is that letter or is where a row has it from. -/
theorem mem_withLower {c d : Nat} : d ∈ withLower c ↔ lower d = c ∧
    (d = c ∨ ∃ r ∈ lowerRows, r.2.2.2 ≤ c ∧ r.covers d ∧ r.1 + (c - r.2.2.2) = d) := by
  unfold withLower
  have hrow : ∀ r : Row, (if r.2.2.2 ≤ c ∧ r.covers (r.1 + (c - r.2.2.2)) ∧
      lower (r.1 + (c - r.2.2.2)) = c then some (r.1 + (c - r.2.2.2)) else none) = some d ↔
      lower d = c ∧ r.2.2.2 ≤ c ∧ r.covers d ∧ r.1 + (c - r.2.2.2) = d := by
    intro r
    rw [Option.ite_none_right_eq_some, Option.some.injEq]
    constructor
    · rintro ⟨⟨himage, hcovers, hlower⟩, rfl⟩
      exact ⟨hlower, himage, hcovers, rfl⟩
    · rintro ⟨hlower, himage, hcovers, rfl⟩
      exact ⟨⟨himage, hcovers, hlower⟩, rfl⟩
  by_cases hself : lower c = c
  · simp only [hself, if_true, List.mem_cons, List.mem_filterMap, hrow]
    grind
  · simp only [hself, if_false, List.mem_filterMap, hrow]
    grind

/-- The code points with a given small letter are those that the map takes to it. -/
theorem mem_withLower_iff (c d : Nat) : d ∈ withLower c ↔ lower d = c := by
  rw [mem_withLower]
  apply and_iff_left_of_imp
  intro h
  unfold lower at h
  by_cases hascii : d < 128
  · rw [if_pos hascii] at h
    by_cases hcapital : 65 ≤ d ∧ d ≤ 90
    · rw [if_pos hcapital] at h
      have hcovers : Row.covers (65, 90, 1, 97) d = true := by
        simp [Row.covers, hcapital, Nat.mod_one]
      have himage : 97 ≤ c := by omega
      have hsource : 65 + (c - 97) = d := by omega
      exact Or.inr ⟨(65, 90, 1, 97), List.mem_cons_self, himage, hcovers, hsource⟩
    · rw [if_neg hcapital] at h
      exact Or.inl h
  · rw [if_neg hascii] at h
    unfold Row.apply at h
    cases hfind : lowerRows.find? (·.covers d) with
    | none =>
      simp only [hfind] at h
      exact Or.inl h
    | some r =>
      simp only [hfind] at h
      have hcovers := List.find?_some hfind
      have hfirst : r.1 ≤ d := by
        simp only [Row.covers, Bool.and_eq_true, decide_eq_true_eq] at hcovers
        exact hcovers.1.1
      exact Or.inr ⟨r, List.mem_of_find?_eq_some hfind, by omega, hcovers, by omega⟩

end Case

namespace Pattern

/-! ## Characters that stand for letters -/

/-- Where case is ignored a character takes those with its small letter, and those with a small
letter that shares a capital with it. -/
theorem charTakes_iff {flags : Flags} (hignore : flags.ignoreCase = true)
    (hascii : flags.ascii = false) (c d : Nat) :
    charTakes flags c d = true ↔
      d ∈ (Case.lower c :: Case.companions (Case.lower c)).flatMap Case.withLower := by
  simp only [charTakes, hignore, if_true, sameFolded, folded, hascii, Bool.false_eq_true, if_false,
    List.contains_iff_mem, List.mem_flatMap, Case.mem_withLower_iff, exists_eq_right']

/-- The characters that stand for a letter of a secret word: the letter, small or capital, the long
s for an s, the sign of the kelvin for a k, and for an i the capital one with a dot and the small
one without. -/
def standIns (letter : Char) : List Char :=
  [letter, letter.toUpper] ++
    match letter with
    | 's' => ['\u017f']
    | 'k' => ['\u212a']
    | 'i' => ['\u0130', '\u0131']
    | _ => []

/-- A letter of a secret word takes the characters that stand for it. -/
theorem charTakes_iff_mem_standIns {word : String} (hword : word ∈ secretWords) {letter : Char}
    (hletter : letter ∈ word.toList) (l : Letter) :
    charTakes (holdingWord word).flags letter.toNat l.code = true ↔
      ∃ c ∈ standIns letter, .char c = l := by
  have hall : (secretWords.all fun word => word.toList.all fun letter =>
      ((Case.lower letter.toNat :: Case.companions (Case.lower letter.toNat)).flatMap
        Case.withLower).isPerm ((standIns letter).map Char.toNat)) = true := by
    decide +kernel
  have hlisted := List.all_eq_true.mp (List.all_eq_true.mp hall word hword) letter hletter
  rw [charTakes_iff rfl rfl, (List.isPerm_iff.mp hlisted).mem_iff]
  have hcode : ∀ c : Char, c.toNat = l.code ↔ .char c = l := fun c =>
    Letter.code_injective.eq_iff (a := .char c)
  simp only [List.mem_map, hcode]

/-! ## Keys that spell a secret word -/

/-- Whether a text spells a word: its letters are characters that stand for the letters of the word
one by one. -/
def Spells (part : List Letter) (word : String) : Prop :=
  List.Forall₂ (fun letter l => ∃ c ∈ standIns letter, .char c = l) word.toList part

/-- Whether a key is on one line and has a part that spells a secret word. -/
def SpellsSecret (key : Text) : Prop :=
  .char '\n' ∉ key.toList ∧ ∃ word ∈ secretWords, ∃ part, part <:+: key.toList ∧ Spells part word

/-- The letters of a secret word take the texts that spell the word. -/
theorem mem_spelt_iff_spells {word : String} (hword : word ∈ secretWords) (part : List Letter) :
    part ∈ spelt (holdingWord word).flags (Text.ofString word).toList ↔ Spells part word := by
  rw [mem_spelt, Text.toList_ofString, List.forall₂_map_left_iff, Spells, List.forall₂_iff_zip,
    List.forall₂_iff_zip]
  apply and_congr_right
  intro _
  constructor
  · intro h letter c hpair
    exact (charTakes_iff_mem_standIns hword (List.of_mem_zip hpair).1 c).mp (h hpair)
  · intro h letter c hpair
    exact (charTakes_iff_mem_standIns hword (List.of_mem_zip hpair).1 c).mpr (h hpair)

/-- Some pattern of a secret word matches a key iff the key is on one line and spells a secret
word. -/
theorem any_secretPatterns_iff_spells (key : Text) :
    (secretPatterns.any fun q => q.matchesAll key) = true ↔ SpellsSecret key := by
  rw [List.any_eq_true]
  constructor
  · rintro ⟨q, hq, hmatches⟩
    obtain ⟨word, hword, rfl⟩ := List.mem_map.mp hq
    have hline : .char '\n' ∉ key.toList := fun hmem =>
      not_matchesAll_of_newline hword hmem hmatches
    obtain ⟨before, part, after, hkey, -, -, hpart⟩ :=
      (matchesAll_holdingWord_iff word key).mp hmatches
    have hspells := (mem_spelt_iff_spells hword part).mp hpart
    exact ⟨hline, word, hword, part, ⟨before, after, hkey.symm⟩, hspells⟩
  · rintro ⟨hline, word, hword, part, ⟨before, after, hkey⟩, hspells⟩
    have hpart := (mem_spelt_iff_spells hword part).mpr hspells
    rw [← hkey] at hline
    simp only [List.mem_append, not_or] at hline
    refine ⟨holdingWord word, List.mem_map_of_mem hword, ?_⟩
    rw [matchesAll_holdingWord_iff]
    exact ⟨before, part, after, hkey.symm, hline.1.1, hline.2, hpart⟩

end Pattern

/-- Where a new policy masks what looks secret, and nothing else is configured, its patterns are
those read from the texts of the secret words; it masks exactly the keys on one line that spell a
secret word, and every other key is plain. -/
theorem Policy.legacy_verdict_iff (principal : Value) (key : Text) :
    ∃ p, applyAll { principal } [.legacy] = .ok p ∧ Step.legacy.compiled = .ok p.patterns ∧
      (p.classify (.text key) = .ok .mask ↔ Pattern.SpellsSecret key) ∧
      (p.classify (.text key) = .ok .plain ↔ ¬ Pattern.SpellsSecret key) := by
  let p : Policy := { principal, allMasked := false, patterns := Pattern.secretPatterns }
  have hp : applyAll { principal } (.legacy :: [].map .patterns) = .ok p := rfl
  refine ⟨p, hp, Step.compiled_legacy, ?_⟩
  rw [legacy_classify hp, ← Pattern.any_secretPatterns_iff_spells]
  cases p.patterns.any fun q => q.matchesAll key <;> simp

end MaskedReport
