import Mathlib.Computability.Language
import MaskedReport.Pattern.Matching
import MaskedReport.Proofs.Letters

/-!
# The languages of patterns

A node without captures, references and conditions on its surroundings takes the texts of a
language, wherever it stands and whatever comes after it. `Node.Denotes` says so of a node and a
language; it is shown for characters, sequences and greedy repetitions, and `Denotes.takesAll_iff`
reads off what such a node matches as a whole.
-/

set_option autoImplicit false

namespace MaskedReport.Pattern

open scoped Computability

/-! ## Places -/

/-- The place past a text that comes next. -/
def Place.past (p : Place) (taken : List Letter) : Place :=
  { p with
    before := taken.reverse ++ p.before
    after := p.after.drop taken.length
    position := p.position + taken.length }

/-- A place is past no letters as it is. -/
theorem Place.past_nil (p : Place) : p.past [] = p := rfl

/-- Going past two texts one after the other is going past both at once. -/
theorem Place.past_past (p : Place) (a b : List Letter) : (p.past a).past b = p.past (a ++ b) := by
  simp [Place.past, Nat.add_assoc]

/-- Past a text that is not empty less text is left. -/
theorem Place.length_past_lt (p : Place) (a : List Letter) (hne : a ≠ []) (ha : a <+: p.after) :
    (p.past a).after.length < p.after.length := by
  have hpos : 0 < a.length := List.length_pos_of_ne_nil hne
  have hle : a.length ≤ p.after.length := ha.length_le
  simp only [Place.past, List.length_drop]
  omega

/-- Two texts come one after the other iff both together come next. -/
theorem Place.prefix_past_iff (p : Place) (a b : List Letter) :
    a <+: p.after ∧ b <+: (p.past a).after ↔ a ++ b <+: p.after := by
  constructor
  · rintro ⟨⟨rest, hrest⟩, hb⟩
    simp only [Place.past, ← hrest, List.drop_left] at hb
    obtain ⟨tail, rfl⟩ := hb
    exact ⟨tail, by rw [List.append_assoc, hrest]⟩
  · rintro ⟨tail, htail⟩
    rw [List.append_assoc] at htail
    refine ⟨⟨b ++ tail, htail⟩, ?_⟩
    simp only [Place.past, ← htail, List.drop_left]
    exact List.prefix_append b tail

/-- Taking a letter leads past it. -/
theorem Place.isSome_take?_bind (p : Place) (test : Letter → Bool) (k : Rest) :
    ((p.take? test).bind k).isSome ↔
      ∃ c, test c ∧ [c] <+: p.after ∧ (k (p.past [c])).isSome := by
  unfold Place.take? Place.past
  cases hafter : p.after with
  | nil => simp
  | cons c rest =>
    by_cases hc : test c
    · simp [hc]
    · have hno : ∀ d, test d → d = c → False := by
        rintro d hd rfl
        exact hc hd
      simp only [hc, Bool.false_eq_true, if_false, Option.bind_none, Option.isSome_none,
        List.cons_prefix_cons, List.nil_prefix, and_true, false_iff, not_exists]
      rintro d ⟨hd, hdc, -⟩
      exact hno d hd hdc

/-! ## Languages -/

/-- The texts of one letter that satisfies a test. -/
def single (test : Letter → Bool) : Language Letter := {s | ∃ c, test c ∧ s = [c]}

/-- The texts whose letters are taken by those of a word one by one. -/
def spelt (flags : Flags) (word : List Letter) : Language Letter :=
  {s | List.Forall₂ (fun c d => charTakes flags c.code d.code) word s}

/-- A text spells a word if each letter takes the one in its place. -/
theorem mem_spelt {flags : Flags} {word s : List Letter} :
    s ∈ spelt flags word ↔
      List.Forall₂ (fun c d => charTakes flags c.code d.code) word s := Iff.rfl

/-- The word without letters is spelt by the empty text only. -/
theorem spelt_nil (flags : Flags) : spelt flags [] = 1 := by
  ext s
  rw [mem_spelt, List.forall₂_nil_left_iff, Language.mem_one]

/-- The spellings of a word are those of its first letter and then those of the rest. -/
theorem spelt_cons (flags : Flags) (c : Letter) (word : List Letter) :
    spelt flags (c :: word) =
      single (fun d => charTakes flags c.code d.code) * spelt flags word := by
  ext s
  rw [mem_spelt, List.forall₂_cons_left_iff, Language.mem_mul]
  constructor
  · rintro ⟨d, rest, hd, hrest, rfl⟩
    exact ⟨[d], ⟨d, hd, rfl⟩, rest, hrest, rfl⟩
  · rintro ⟨_, ⟨d, hd, rfl⟩, rest, hrest, rfl⟩
    exact ⟨d, rest, hd, hrest, rfl⟩

/-- Each letter of a spelling is taken by one of the word. -/
theorem exists_mem_of_mem_spelt {flags : Flags} {word s : List Letter} (hs : s ∈ spelt flags word)
    {d : Letter} (hd : d ∈ s) : ∃ c ∈ word, charTakes flags c.code d.code := by
  rw [mem_spelt] at hs
  induction hs with
  | nil => cases hd
  | @cons c e word s hce _ ih =>
    rcases List.mem_cons.mp hd with rfl | hd
    · exact ⟨c, List.mem_cons_self, hce⟩
    · obtain ⟨b, hb, htakes⟩ := ih hd
      exact ⟨b, List.mem_cons_of_mem c hb, htakes⟩

/-- Where case counts, a word is spelt in one way only. -/
theorem mem_spelt_iff_eq {flags : Flags} (hcase : flags.ignoreCase = false) {word s : List Letter} :
    s ∈ spelt flags word ↔ s = word := by
  have htakes : (fun c d : Letter => charTakes flags c.code d.code = true) = Eq := by
    funext c d
    simp [charTakes, hcase, Letter.code_injective.eq_iff]
  rw [mem_spelt, htakes, List.forall₂_eq_eq_eq, eq_comm]

/-- Repeating one letter that satisfies a test gives the texts of such letters. -/
theorem mem_kstar_single {test : Letter → Bool} {s : List Letter} :
    s ∈ (single test)∗ ↔ ∀ c ∈ s, test c := by
  rw [Language.mem_kstar]
  constructor
  · rintro ⟨parts, rfl, hparts⟩ c hc
    obtain ⟨part, hpart, hcpart⟩ := List.mem_flatten.mp hc
    obtain ⟨d, hd, rfl⟩ := hparts part hpart
    rw [List.mem_singleton] at hcpart
    rwa [hcpart]
  · intro h
    refine ⟨s.map fun c => [c], ?_, ?_⟩
    · rw [← List.flatMap_def, List.flatMap_singleton']
    · intro part hpart
      obtain ⟨c, hc, rfl⟩ := List.mem_map.mp hpart
      exact ⟨c, h c hc, rfl⟩

/-- The texts without a line feed. -/
def line : Language Letter := {s | .char '\n' ∉ s}

/-- A line is a text without a line feed. -/
theorem mem_line {s : List Letter} : s ∈ line ↔ .char '\n' ∉ s := Iff.rfl

/-- Repeating one letter other than a line feed gives the texts without one. -/
theorem kstar_single_eq_line : (single fun c => c != .char '\n')∗ = line := by
  ext s
  rw [mem_kstar_single, mem_line]
  constructor
  · intro h hmem
    simpa using h (.char '\n') hmem
  · rintro h c hc
    rw [bne_iff_ne]
    rintro rfl
    exact h hc

/-! ## Nodes and their languages -/

/-- A node denotes a language if it succeeds before a rest exactly where a text of the language
comes next past which the rest succeeds. -/
def Node.Denotes (flags : Flags) (node : Node) (language : Language Letter) : Prop :=
  ∀ (k : Rest) (p : Place), (node.find flags k p).isSome ↔
    ∃ taken ∈ language, taken <+: p.after ∧ (k (p.past taken)).isSome

namespace Node

variable {flags : Flags} {a b node : Node} {l m : Language Letter}

/-- Taking one letter denotes the texts of one such letter. -/
theorem denotes_of_find_eq {test : Letter → Bool}
    (h : ∀ k p, node.find flags k p = (p.take? test).bind k) :
    node.Denotes flags (single test) := by
  intro k p
  rw [h, Place.isSome_take?_bind]
  constructor
  · rintro ⟨c, hc, hnext, hk⟩
    exact ⟨[c], ⟨c, hc, rfl⟩, hnext, hk⟩
  · rintro ⟨_, ⟨c, hc, rfl⟩, hnext, hk⟩
    exact ⟨c, hc, hnext, hk⟩

/-- A character denotes the letters that it takes. -/
theorem denotes_char (c : Nat) :
    (char c).Denotes flags (single fun d => charTakes flags c d.code) :=
  denotes_of_find_eq fun _ _ => rfl

/-- The point denotes every letter, or every one but the line feed. -/
theorem denotes_any : any.Denotes flags (single fun d => flags.dotAll || d != .char '\n') :=
  denotes_of_find_eq fun _ _ => rfl

/-- The empty pattern denotes the empty text. -/
theorem denotes_empty : empty.Denotes flags 1 := by
  intro k p
  simp [find, Language.mem_one, Place.past_nil]

/-- Patterns in a row denote the texts of the one followed by those of the other. -/
theorem Denotes.seq (ha : a.Denotes flags l) (hb : b.Denotes flags m) :
    (Node.seq a b).Denotes flags (l * m) := by
  intro k p
  rw [show (Node.seq a b).find flags k p = a.find flags (b.find flags k) p from rfl, ha]
  simp only [hb k]
  constructor
  · rintro ⟨s, hs, hsp, t, ht, htp, hk⟩
    refine ⟨s ++ t, Language.append_mem_mul hs ht, ?_, ?_⟩
    · exact (p.prefix_past_iff s t).mp ⟨hsp, htp⟩
    · rwa [← Place.past_past]
  · rintro ⟨u, hu, hup, hk⟩
    obtain ⟨s, hs, t, ht, rfl⟩ := Language.mem_mul.mp hu
    obtain ⟨hsp, htp⟩ := (p.prefix_past_iff s t).mpr hup
    exact ⟨s, hs, hsp, t, ht, htp, by rwa [Place.past_past]⟩

/-- Greedy rounds without bounds, where the last round did not start at this place: the fuel
suffices because each further round but one takes a letter. -/
theorem Denotes.isSome_greedyRounds (hbody : node.Denotes flags l) (k : Rest) (fuel done : Nat)
    (last : Option Nat) (p : Place) (hfuel : p.after.length + 2 ≤ fuel)
    (hlast : last ≠ some p.position) :
    (greedyRounds (node.find flags) 0 none k fuel done last p).isSome ↔
      ∃ taken ∈ l∗, taken <+: p.after ∧ (k (p.past taken)).isSome := by
  induction fuel generalizing done last p with
  | zero => omega
  | succ fuel ih =>
    have hstep : greedyRounds (node.find flags) 0 none k (fuel + 1) done last p =
        (node.find flags
          (greedyRounds (node.find flags) 0 none k fuel (done + 1) (some p.position)) p).or
          (k p) := by
      simp [greedyRounds, hlast]
    rw [hstep, Option.isSome_or, Bool.or_eq_true, hbody]
    constructor
    · rintro (⟨s, hs, hsp, hrounds⟩ | hk)
      · by_cases hne : s = []
        · -- an empty round is the last one
          subst hne
          obtain ⟨fuel, rfl⟩ : ∃ n, fuel = n + 1 := ⟨fuel - 1, by omega⟩
          refine ⟨[], Language.nil_mem_kstar l, List.nil_prefix, ?_⟩
          simpa [greedyRounds, Place.past_nil] using hrounds
        · have hshort := p.length_past_lt s hne hsp
          have hmoved : some p.position ≠ some (p.past s).position := by
            have := List.length_pos_of_ne_nil hne
            simp only [Place.past, ne_eq, Option.some.injEq]
            omega
          obtain ⟨t, ht, htp, hk⟩ := (ih (done + 1) _ (p.past s) (by omega) hmoved).mp hrounds
          refine ⟨s ++ t, ?_, (p.prefix_past_iff s t).mp ⟨hsp, htp⟩, ?_⟩
          · exact mul_kstar_le_kstar (a := l) (Language.append_mem_mul hs ht)
          · rwa [← Place.past_past]
      · exact ⟨[], Language.nil_mem_kstar l, List.nil_prefix, hk⟩
    · rintro ⟨u, hu, hup, hk⟩
      obtain ⟨parts, rfl, hparts⟩ := Language.mem_kstar_iff_exists_nonempty.mp hu
      cases parts with
      | nil => exact Or.inr hk
      | cons s parts =>
        left
        obtain ⟨hs, hne⟩ := hparts s List.mem_cons_self
        rw [List.flatten_cons] at hup hk
        obtain ⟨hsp, htp⟩ := (p.prefix_past_iff s parts.flatten).mpr hup
        have hshort := p.length_past_lt s hne hsp
        have hmoved : some p.position ≠ some (p.past s).position := by
          have := List.length_pos_of_ne_nil hne
          simp only [Place.past, ne_eq, Option.some.injEq]
          omega
        have hrest : parts.flatten ∈ l∗ :=
          Language.join_mem_kstar fun t ht => (hparts t (List.mem_cons_of_mem s ht)).1
        refine ⟨s, hs, hsp, (ih (done + 1) _ (p.past s) (by omega) hmoved).mpr ?_⟩
        exact ⟨parts.flatten, hrest, htp, by rwa [Place.past_past]⟩

/-- Any number of rounds denotes any number of the texts of one round. -/
theorem Denotes.star (hbody : node.Denotes flags l) :
    (rounds .greedy 0 none node).Denotes flags l∗ := by
  intro k p
  exact hbody.isSome_greedyRounds k _ 0 none p (by omega) (by simp)

/-- A node matches the texts of its language. -/
theorem Denotes.takesAll_iff (h : node.Denotes flags l) (text : List Letter) :
    node.takesAll flags text ↔ text ∈ l := by
  have hend : ∀ taken, taken <+: text →
      ((fun q : Place => if q.after.isEmpty then some q else none)
        ((Place.start text).past taken)).isSome → taken = text := by
    rintro taken ⟨rest, rfl⟩ hk
    have hrest : rest = [] := by
      by_contra hne
      simp [Place.past, Place.start, hne] at hk
    simp [hrest]
  unfold takesAll
  rw [h]
  constructor
  · rintro ⟨taken, htaken, hpre, hk⟩
    rwa [← hend taken hpre hk]
  · intro htext
    refine ⟨text, htext, List.prefix_rfl, ?_⟩
    simp [Place.past, Place.start]

end Node

end MaskedReport.Pattern
