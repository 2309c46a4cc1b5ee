import MaskedReport.Proofs.Configuration
import MaskedReport.Proofs.Entries
import MaskedReport.Proofs.Idioms

/-!
# Keys that look secret

The patterns of secret words match the keys of one line that hold such a word in either letter case.
Their wildcards stop at the end of a line, so a key with a line feed is matched by none of them.
-/

set_option autoImplicit false

namespace MaskedReport

/-! ## Letter case -/

/-- A letter has the small letter of its own small letter. -/
theorem Case.lower_toLower (c : Char) : Case.lower c.toLower.toNat = Case.lower c.toNat := by
  by_cases hcapital : c.val ≥ 'A'.val ∧ c.val ≤ 'Z'.val
  · have hlow : 65 ≤ c.toNat := hcapital.1
    have hhigh : c.toNat ≤ 90 := hcapital.2
    have hsmall : c.toLower.toNat = c.toNat + 32 := by
      have hmoved : c.toLower = ⟨c.val + 32, _⟩ := dif_pos hcapital
      rw [hmoved]
      show (c.val + 32).toNat = c.val.toNat + 32
      rw [UInt32.toNat_add]
      exact Nat.mod_eq_of_lt (show c.toNat + 32 < 2 ^ 32 by omega)
    have hleft : Case.lower (c.toNat + 32) = c.toNat + 32 := by
      rw [Case.lower, if_pos (by omega), if_neg (by omega)]
    have hright : Case.lower c.toNat = c.toNat + 32 := by
      rw [Case.lower, if_pos (by omega), if_pos ⟨hlow, hhigh⟩]
    rw [hsmall, hleft, hright]
  · have hkept : c.toLower = c := dif_neg hcapital
    rw [hkept]

/-- The small letter of a letter of ASCII; any other letter itself. -/
def Letter.toLower : Letter → Letter
  | char c => char c.toLower
  | lone h => lone h

namespace Pattern

/-- A letter is taken by itself where case is ignored. -/
theorem charTakes_self {flags : Flags} (hignore : flags.ignoreCase = true) (n : Nat) :
    charTakes flags n n = true := by
  cases hascii : flags.ascii <;> simp [charTakes, hignore, sameFolded, hascii]

/-- A character is taken by its small letter where case is ignored. -/
theorem charTakes_toLower {flags : Flags} (hignore : flags.ignoreCase = true)
    (hascii : flags.ascii = false) (c : Char) : charTakes flags c.toLower.toNat c.toNat = true := by
  have hfolded : folded flags c.toNat = folded flags c.toLower.toNat := by
    simp only [folded, hascii, Bool.false_eq_true, if_false, Case.lower_toLower]
  simp only [charTakes, hignore, if_true, hfolded, sameFolded, hascii, Bool.false_eq_true,
    if_false, List.contains_cons, BEq.rfl, Bool.true_or]

/-- A text is a spelling of its small letters where case is ignored. -/
theorem mem_spelt_map_toLower {flags : Flags} (hignore : flags.ignoreCase = true)
    (hascii : flags.ascii = false) (s : List Letter) :
    s ∈ spelt flags (s.map Letter.toLower) := by
  rw [mem_spelt, List.forall₂_map_left_iff, List.forall₂_same]
  intro l _
  cases l with
  | char c => exact charTakes_toLower hignore hascii c
  | lone h => exact charTakes_self hignore h.code

/-! ## Secret words -/

/-- Whether a text holds a word in either letter case. -/
def HoldsWord (word : String) (key : Text) : Prop :=
  (Text.ofString word).toList <:+: key.toList.map Letter.toLower

/-- Whether a key holds a word can be computed. -/
instance (word : String) (key : Text) : Decidable (HoldsWord word key) :=
  inferInstanceAs (Decidable (_ <:+: _))

/-- Whether a text holds a secret word in either letter case. -/
def IsSecret (key : Text) : Prop := ∃ word ∈ secretWords, HoldsWord word key

/-- Whether a key is secret can be computed. -/
instance (key : Text) : Decidable (IsSecret key) :=
  inferInstanceAs (Decidable (∃ word ∈ secretWords, HoldsWord word key))

/-- A word in a text is in whatever holds the text. -/
theorem HoldsWord.of_infix {word : String} {part key : Text} (h : HoldsWord word part)
    (hpart : part.toList <:+: key.toList) : HoldsWord word key :=
  h.trans (hpart.map Letter.toLower)

/-- The wildcards of a word's pattern take the characters of a line, and its letters a spelling of
the word. -/
theorem matchesAll_holdingWord_iff (word : String) (key : Text) :
    (holdingWord word).matchesAll key ↔
      ∃ before spelling after, key.toList = before ++ spelling ++ after ∧
        .char '\n' ∉ before ∧ .char '\n' ∉ after ∧
        spelling ∈ spelt (holdingWord word).flags (Text.ofString word).toList := by
  have hletters : Part.node ∘ Part.ofLetter ∘ Letter.char = fun c => .char c.toNat :=
    funext fun c => Part.node_ofLetter (.char c)
  have hnode : (holdingWord word).node =
      .sequence ((Idiom.holding.parts ((Text.ofString word).toList.map Part.ofLetter)).map
        Part.node) := by
    simp only [Idiom.parts, List.cons_append, List.map_cons, List.map_append, List.map_map,
      Text.toList_ofString, hletters]
    rfl
  have hdenotes : (holdingWord word).node.Denotes (holdingWord word).flags
      (Idiom.holding.language (holdingWord word).flags (Text.ofString word).toList) := by
    rw [hnode]
    exact Idiom.holding.denotes rfl _
  rw [matchesAll, hdenotes.takesAll_iff, Idiom.mem_language_holding]

/-- A key of one line that holds a word is matched by the word's pattern. -/
theorem matchesAll_of_holdsWord {word : String} {key : Text} (hword : HoldsWord word key)
    (hline : .char '\n' ∉ key.toList) : (holdingWord word).matchesAll key := by
  obtain ⟨before, after, hkey⟩ := hword
  obtain ⟨front, last, hsplit, hfront, -⟩ := List.map_eq_append_iff.mp hkey.symm
  obtain ⟨first, spelling, rfl, -, hspelling⟩ := List.map_eq_append_iff.mp hfront
  rw [hsplit] at hline
  simp only [List.mem_append, not_or] at hline
  rw [matchesAll_holdingWord_iff, ← hspelling]
  exact ⟨first, spelling, last, hsplit, hline.1.1, hline.2, mem_spelt_map_toLower rfl rfl spelling⟩

/-- A key with a line feed is matched by no pattern of a secret word. -/
theorem not_matchesAll_of_newline {word : String} {key : Text} (hword : word ∈ secretWords)
    (hline : .char '\n' ∈ key.toList) : ¬ (holdingWord word).matchesAll key := by
  rw [matchesAll_holdingWord_iff]
  rintro ⟨before, spelling, after, hkey, hbefore, hafter, hspelling⟩
  have hmem : .char '\n' ∈ spelling := by
    rw [hkey] at hline
    simpa [hbefore, hafter] using hline
  obtain ⟨c, hc, htakes⟩ := exists_mem_of_mem_spelt hspelling hmem
  have hall : (secretWords.all fun w => (Text.ofString w).toList.all fun c =>
      !charTakes { ignoreCase := true, unicode := true } c.code 10) = true := by decide
  have hletter := List.all_eq_true.mp (List.all_eq_true.mp hall word hword) c hc
  rw [Bool.not_eq_true'] at hletter
  exact Bool.false_ne_true (hletter.symm.trans htakes)

/-- Some pattern of a secret word matches a key that holds one iff the key is on one line. -/
theorem any_secretPatterns_iff {key : Text} (hkey : IsSecret key) :
    (secretPatterns.any fun q => q.matchesAll key) = true ↔ .char '\n' ∉ key.toList := by
  rw [List.any_eq_true]
  constructor
  · rintro ⟨q, hq, hmatches⟩ hline
    obtain ⟨word, hword, rfl⟩ := List.mem_map.mp hq
    exact not_matchesAll_of_newline hword hline hmatches
  · intro hline
    obtain ⟨word, hword, hholds⟩ := hkey
    exact ⟨holdingWord word, List.mem_map_of_mem hword, matchesAll_of_holdsWord hholds hline⟩

end Pattern

/-! ## Policies that mask what looks secret -/

namespace Policy

variable {principal : Value} {batches : List (List Value)} {p : Policy}

/-- The mode and the patterns of a policy that masks what looks secret and then adds patterns. -/
theorem legacy_run (hp : applyAll { principal } (.legacy :: batches.map .patterns) = .ok p) :
    p.allMasked = false ∧
      p.patterns = Pattern.secretPatterns ++ batches.flatMap fun b => (Step.patterns b).added := by
  have hrun := run_of_applyAll hp
  subst hrun
  constructor
  · rw [← Bool.not_eq_true, allMasked_run]
    intro hlast
    have hmode : ((Step.legacy :: batches.map Step.patterns).filter Step.setsMode).getLast? =
        some .legacy := by
      have hnone : (batches.map Step.patterns).filter Step.setsMode = [] := by
        simp [Step.setsMode]
      rw [List.filter_cons_of_pos rfl, hnone]
      rfl
    cases hlast _ hmode
  · rw [patterns_run, List.flatMap_cons, List.flatMap_map, Step.added, Step.compiled_legacy]
    rfl

/-- The verdict of such a policy on a text is to mask it iff some pattern matches. -/
theorem legacy_classify (hp : applyAll { principal } (.legacy :: batches.map .patterns) = .ok p)
    (key : Text) :
    p.classify (.text key) =
      .ok (if p.patterns.any fun q => q.matchesAll key then .mask else .plain) := by
  rw [classify_text, (legacy_run hp).1]
  cases p.patterns.any fun q => q.matchesAll key with
  | true => rfl
  | false => rfl

/-- Which keys that hold a secret word some pattern of such a policy matches. -/
theorem legacy_any_iff (hp : applyAll { principal } (.legacy :: batches.map .patterns) = .ok p)
    {key : Text} (hkey : Pattern.IsSecret key) :
    (p.patterns.any fun q => q.matchesAll key) = true ↔ .char '\n' ∉ key.toList ∨
      ∃ b ∈ batches, ∃ q ∈ (Step.patterns b).added, q.matchesAll key := by
  rw [(legacy_run hp).2, List.any_append, Bool.or_eq_true, Pattern.any_secretPatterns_iff hkey]
  apply or_congr_right
  rw [List.any_eq_true]
  constructor
  · rintro ⟨q, hq, hmatches⟩
    obtain ⟨b, hb, hadded⟩ := List.mem_flatMap.mp hq
    exact ⟨b, hb, q, hadded, hmatches⟩
  · rintro ⟨b, hb, q, hadded, hmatches⟩
    exact ⟨q, List.mem_flatMap.mpr ⟨b, hb, hadded⟩, hmatches⟩

/-- A key of one line that holds a secret word is masked. -/
theorem legacy_masks (hp : applyAll { principal } (.legacy :: batches.map .patterns) = .ok p)
    {key : Text} (hkey : Pattern.IsSecret key) (hline : .char '\n' ∉ key.toList) :
    p.classify (.text key) = .ok .mask := by
  have hany := (legacy_any_iff hp hkey).mpr (Or.inl hline)
  rw [legacy_classify hp, if_pos hany]

/-- Which keys that hold a secret word are masked: those of one line, and those that patterns added
later match. The others are plain. Reports show the mask for the keys that are masked. -/
theorem legacy_masks_iff (hp : applyAll { principal } (.legacy :: batches.map .patterns) = .ok p)
    {key : Text} (hkey : Pattern.IsSecret key) :
    (p.classify (.text key) = .ok .mask ↔ .char '\n' ∉ key.toList ∨
      ∃ b ∈ batches, ∃ q ∈ (Step.patterns b).added, q.matchesAll key) ∧
    (p.classify (.text key) ≠ .ok .mask → p.classify (.text key) = .ok .plain) ∧
    (p.classify (.text key) = .ok .mask → ∀ sources,
      (∀ activeNames packages r, Report.full p.classify sources activeNames packages = .ok r →
        ∃ ordered : List Source, ordered.Perm sources ∧
          List.Forall₂ (fun s e => e.name = s.name ∧
            (.text key ∈ s.keys → e.properties.get? (.text key) = some maskMark))
            ordered r.entries) ∧
      ∀ name e, Report.single? p.classify sources name = .ok (some e) →
        ∃ s ∈ sources, s.name.same name ∧
          (.text key ∈ s.keys → e.properties.get? (.text key) = some maskMark)) := by
  have hverdict := legacy_classify hp key
  refine ⟨?_, ?_, ?_⟩
  · rw [hverdict, ← legacy_any_iff hp hkey]
    cases p.patterns.any fun q => q.matchesAll key <;> simp
  · rw [hverdict]
    cases p.patterns.any fun q => q.matchesAll key <;> simp
  · intro hmask sources
    constructor
    · intro activeNames packages r hr
      obtain ⟨ordered, hperm, hentries⟩ := Report.forall₂_full hr
      refine ⟨ordered, hperm, hentries.imp ?_⟩
      intro s e he
      exact ⟨Entry.name_ofSource he, Entry.get?_ofSource_of_mask he hmask⟩
    · intro name e he
      obtain ⟨s, hs, hname, he⟩ := Report.exists_of_single? he
      exact ⟨s, hs, hname, Entry.get?_ofSource_of_mask he hmask⟩

/-- The password of a database is masked by a policy to which another pattern was added. -/
theorem legacy_masks_dbPassword :
    ∃ p, applyAll { principal := .null }
        [.legacy, .patterns [.pattern (Pattern.holdingWord "db")]] = .ok p ∧
      p.classify (.text "DB_PASSWORD") = .ok .mask := by
  let batches : List (List Value) := [[.pattern (Pattern.holdingWord "db")]]
  let p : Policy := {
    principal := .null
    allMasked := false
    patterns := Pattern.secretPatterns ++ [Pattern.holdingWord "db"] }
  have hp : applyAll { principal := .null } (.legacy :: batches.map .patterns) = .ok p := rfl
  have hkey : Pattern.IsSecret "DB_PASSWORD" := by decide
  exact ⟨p, hp, (legacy_masks_iff hp hkey).1.mpr (Or.inl (by decide))⟩

/-- A line feed before the word keeps a password from being masked. -/
theorem not_forall_legacy_masks :
    ¬ ∀ (principal : Value) (batches : List (List Value)) (p : Policy) (key : Text),
      applyAll { principal } (.legacy :: batches.map .patterns) = .ok p →
      Pattern.IsSecret key → p.classify (.text key) = .ok .mask := by
  intro h
  let p : Policy := {
    principal := .null
    allMasked := false
    patterns := Pattern.secretPatterns }
  have hp : applyAll { principal := .null } (.legacy :: [].map .patterns) = .ok p := rfl
  have hkey : Pattern.IsSecret "a\npassword" := by decide
  have hnone : ¬ (p.patterns.any fun q => q.matchesAll "a\npassword") = true := by
    rw [Pattern.any_secretPatterns_iff hkey]
    decide
  have hmask := h .null [] p "a\npassword" hp hkey
  rw [legacy_classify hp, if_neg hnone] at hmask
  cases hmask

end Policy

end MaskedReport
