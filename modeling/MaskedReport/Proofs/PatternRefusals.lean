import MaskedReport.Proofs.PatternParts

/-!
# Why the reader of patterns refuses a text

Groups are where flags for the whole pattern come from: `meets_opening` says that a flag for a class
of characters is turned on by the group that is read. Alternatives, items and groups call each
other; what holds of all of them with some fuel holds with one more, so they all keep what holds of
a reading (`keepAll`). `causedBy_of_read` is the outcome: what refuses a text, its malformations
aside, is in the text.
-/

set_option autoImplicit false

namespace MaskedReport.Pattern

open Read

section Readers

variable {α : Type} {given : Flags} {text : List Letter} {pre : Reading → Prop}
  {post : α → Reading → Prop}

/-! ## Groups -/

/-- Nothing comes after the refusal of a piece that is no flag. -/
theorem meets_notAFlag (p : Piece) (other : Fault) :
    Meets given text pre (notAFlag p other) post := by
  unfold notAFlag
  split
  · split
    · exact meets_fault _ _
    · exact meets_fault _ _
  · exact meets_fault _ _

/-- A flag for a class of characters stands for that class and nothing else. -/
theorem class_of_flag? {c : Char} {f : Flags} (h : flag? c = some f) :
    (f.ascii = true → c = 'a') ∧ (f.unicode = true → c = 'u') := by
  unfold flag? at h
  split at h <;> cases h <;> simp

/-- Flags that letters stand for, as far as classes of characters go. -/
def Flags.AreAmong (on : Flags) (letters : List Char) : Prop :=
  (on.ascii = true → 'a' ∈ letters) ∧ (on.unicode = true → 'u' ∈ letters)

/-- No flags are among no letters. -/
theorem Flags.areAmong_nil : Flags.AreAmong {} [] := by
  simp [Flags.AreAmong]

/-- A flag and its letter may be added. -/
theorem Flags.AreAmong.concat {on f : Flags} {letters : List Char} {c : Char}
    (h : on.AreAmong letters) (hf : flag? c = some f) :
    (on.union f).AreAmong (letters ++ [c]) := by
  obtain ⟨hascii, hunicode⟩ := class_of_flag? hf
  constructor
  · intro hon
    rcases Bool.or_eq_true_iff.mp hon with hon | hon
    · exact List.mem_append_left _ (h.1 hon)
    · rw [hascii hon]
      exact List.mem_concat_self
  · intro hon
    rcases Bool.or_eq_true_iff.mp hon with hon | hon
    · exact List.mem_append_left _ (h.2 hon)
    · rw [hunicode hon]
      exact List.mem_concat_self

/-- What a group whose flags end with a character turns on for the whole pattern. -/
def Flags.TurnedOn (text : List Letter) (on : Flags) (ending : Char) : Prop :=
  ending = ')' → (on.ascii = true → TurnsOn text 'a') ∧ (on.unicode = true → TurnsOn text 'u')

/-- Flags that a group of the text turns on are kept with those before them. -/
theorem Reading.After.turnOn {r : Reading} {on : Flags} (hr : r.After given text [])
    (hon : on.TurnedOn text ')') :
    Reading.After given text [] { r with flags := r.flags.union on } := by
  obtain ⟨hascii, hunicode⟩ := hon rfl
  refine ⟨hr.pieces, ?_, ?_⟩
  · intro h
    exact (Bool.or_eq_true_iff.mp h).elim hr.ascii fun h => Or.inr (hascii h)
  · intro h
    exact (Bool.or_eq_true_iff.mp h).elim hr.unicode fun h => Or.inr (hunicode h)

/-- Flags up to the closing parenthesis are turned on by their group. -/
theorem meets_flagsOn (fuel : Nat) {letters : List Char} {c : Char} {on : Flags}
    (hletters : ∀ d ∈ letters, (flag? d).isSome = true) (hon : on.AreAmong letters) :
    Meets given text
      (Reading.After given text (('(' :: '?' :: (letters ++ [c])).map fun c => .plain (.char c)))
      (flagsOn fuel c on)
      fun result r => result.1.TurnedOn text result.2 ∧ r.After given text [] := by
  induction fuel generalizing letters c on with
  | zero => exact meets_fault _ _
  | succ fuel ih =>
    unfold flagsOn
    split
    case h_1 => exact meets_fault _ _
    case h_2 f hf =>
      have hletters' : ∀ d ∈ letters ++ [c], (flag? d).isSome = true := by
        intro d hd
        rcases List.mem_append.mp hd with hd | hd
        · exact hletters d hd
        · rw [List.mem_singleton.mp hd, hf]
          rfl
      have hon' := hon.concat hf
      dsimp only
      split
      · exact meets_fault _ _
      · apply meets_take.bind
        intro p
        split
        case h_1 => exact meets_fault _ _
        case h_2 d =>
          split
          · apply meets_pure
            intro r hr
            refine ⟨?_, hr.nil⟩
            rintro rfl
            have hinfix : ('(' :: '?' :: (letters ++ [c] ++ [')'])).map .char <:+: text := by
              apply Reading.After.isInfix (r := r)
              simpa using hr
            rw [List.map_cons, List.map_cons, List.map_append] at hinfix
            exact ⟨fun h => ⟨_, hon'.1 h, hletters', hinfix⟩,
              fun h => ⟨_, hon'.2 h, hletters', hinfix⟩⟩
          · split
            · apply (ih hletters' hon').mono _ fun _ _ hr => hr
              intro r hr
              simpa using hr
            · exact meets_notAFlag _ _
        case h_3 => exact meets_notAFlag _ _

/-- Flags that are turned off keep to the text. -/
theorem keeps_flagsOff (fuel : Nat) (c : Char) (off : Flags) :
    Keeps given text (flagsOff fuel c off) := by
  induction fuel generalizing c off with
  | zero => exact keeps_fault _ _
  | succ fuel ih =>
    unfold flagsOff
    split
    · exact keeps_fault _ _
    · split
      · exact keeps_fault _ _
      · apply keeps_take.bind
        intro p
        split
        · exact keeps_fault _ _
        · split
          · exact keeps_pure _
          · split
            · exact ih _ _
            · exact meets_notAFlag _ _
        · exact meets_notAFlag _ _

/-- Flags for the whole pattern are turned on by their group. -/
theorem meets_groupFlags (c : Char) :
    Meets given text (Reading.After given text (['(', '?', c].map fun c => .plain (.char c)))
      (groupFlags c) fun _ => Reading.After given text [] := by
  unfold groupFlags
  apply meets_get_bind
  rintro start -
  extract_lets fuel rest
  have hrest : ∀ result : Flags × Char, Meets given text
      (fun r => result.1.TurnedOn text result.2 ∧ r.After given text []) (rest result)
      fun _ => Reading.After given text [] := by
    rintro ⟨on, ending⟩
    apply meets_of_fact
    intro hon
    simp -zeta only [rest]
    split
    case isTrue hending =>
      rw [hending] at hon
      apply (keeps_modify fun r hr => hr.turnOn hon).bind
      intro _
      exact keeps_pure _
    case isFalse =>
      -- flags of a group that is not closed here do not hold for the whole pattern
      split
      · exact keeps_fault _ _
      · extract_lets last
        have hlast : ∀ off, Keeps given text (last off) := by
          intro off
          simp only [last]
          split
          · exact keeps_fault _ _
          · split
            · exact keeps_fault _ _
            · exact keeps_pure _
        split
        · apply keeps_take.bind
          intro p
          split
          · exact (keeps_fault _ _).bind hlast
          · split
            · exact (keeps_flagsOff _ _ _).bind hlast
            · exact Keeps.bind (meets_notAFlag _ _) hlast
          · exact Keeps.bind (meets_notAFlag _ _) hlast
        · exact (keeps_pure _).bind hlast
  split
  · -- no flags come before a hyphen
    apply Meets.bind (meets_pure fun r hr => ?_) hrest
    exact ⟨fun h => absurd h (by decide), hr.nil⟩
  · exact (meets_flagsOn fuel (by simp) Flags.areAmong_nil).bind hrest

/-- A comment in a group keeps to the text. -/
theorem keeps_groupComment (start fuel : Nat) : Keeps given text (groupComment start fuel) := by
  induction fuel with
  | zero => exact keeps_fault _ _
  | succ fuel ih =>
    unfold groupComment
    apply keeps_take.bind
    intro p
    split
    · apply keeps_position.bind
      intro here
      exact keeps_fault _ _
    · split
      · exact keeps_pure _
      · exact ih

/-- A comment to the end of a line keeps to the text. -/
theorem keeps_lineComment (fuel : Nat) : Keeps given text (lineComment fuel) := by
  induction fuel with
  | zero => exact keeps_pure _
  | succ fuel ih =>
    unfold lineComment
    apply keeps_take.bind
    intro p
    split
    · exact keeps_pure _
    · split
      · exact keeps_pure _
      · exact ih

/-- The check of a name keeps to the text. -/
theorem keeps_checkName (letters : List Letter) : Keeps given text (checkName letters) := by
  unfold checkName
  split
  · exact keeps_pure _
  · exact keeps_fault _ _

/-- Opening a group keeps to the text. -/
theorem keeps_openGroup (groupName : Option (List Letter)) :
    Keeps given text (openGroup groupName) := by
  unfold openGroup
  apply meets_get_bind
  intro start hstart
  split
  · apply (meets_set fun _ _ => ?_).bind
    · intro _
      exact keeps_pure _
    · exact ⟨hstart.pieces, hstart.ascii, hstart.unicode⟩
  · split
    · exact keeps_fault _ _
    · apply (meets_set fun _ _ => ?_).bind
      · intro _
        exact keeps_pure _
      · exact ⟨hstart.pieces, hstart.ascii, hstart.unicode⟩

/-- Closing a group keeps to the text. -/
theorem keeps_closeGroup (group : Nat) (body : Node) : Keeps given text (closeGroup group body) :=
  keeps_modify fun _ hr => ⟨hr.pieces, hr.ascii, hr.unicode⟩

/-- A reference by name keeps to the text. -/
theorem keeps_namedReference : Keeps given text namedReference := by
  unfold namedReference
  apply (keeps_name _ _).bind
  intro chars
  apply (keeps_checkName _).bind
  intro _
  apply keeps_get.bind
  intro r
  split
  · exact keeps_fault _ _
  · apply (keeps_isClosed _).bind
    intro closed
    split
    · exact keeps_fault _ _
    · apply (keeps_checkBehind _).bind
      intro _
      exact keeps_pure _

/-- The group of a condition keeps to the text. -/
theorem keeps_conditionGroup : Keeps given text conditionGroup := by
  unfold conditionGroup
  apply (keeps_name _ _).bind
  intro chars
  split
  · apply keeps_get.bind
    intro r
    split
    · exact keeps_fault _ _
    · exact keeps_pure _
  · split
    · exact keeps_fault _ _
    · split
      · exact keeps_fault _ _
      · apply Keeps.bind
        · apply keeps_modify
          intro r hr
          split
          · exact hr
          · exact ⟨hr.pieces, hr.ascii, hr.unicode⟩
        · intro _
          exact keeps_pure _
    · exact keeps_fault _ _

/-- A parenthesis may open a group of flags, and these are turned on by it. -/
theorem meets_opening (start : Nat) :
    Meets given text (Reading.After given text [.plain (.char '(')]) (opening start) fun _ =>
      Reading.After given text [] := by
  unfold opening
  apply (meets_accept _).bind
  intro question
  cases question with
  | false => exact (keeps_pure _).after
  | true =>
    simp only [Bool.not_true, Bool.false_eq_true, if_false, if_true]
    apply meets_take.bind
    intro p
    split
    · exact meets_fault _ _
    · exact meets_fault _ _
    · apply Keeps.after
      apply (keeps_accept _).bind
      intro less
      split
      · apply (keeps_name _ _).bind
        intro chars
        apply (keeps_checkName _).bind
        intro _
        exact keeps_pure _
      · apply (keeps_accept _).bind
        intro equals
        split
        · apply keeps_namedReference.bind
          intro node
          exact keeps_pure _
        · apply keeps_take.bind
          intro p
          split
          · exact keeps_fault _ _
          · exact keeps_fault _ _
    · exact (keeps_pure _).after
    · apply Keeps.after
      apply keeps_get.bind
      intro r
      apply (keeps_groupComment _ _).bind
      intro _
      exact keeps_pure _
    · exact (keeps_pure _).after
    · exact (keeps_pure _).after
    · apply Keeps.after
      apply keeps_take.bind
      intro p
      split
      · exact keeps_fault _ _
      · exact keeps_pure _
      · exact keeps_pure _
      · exact keeps_fault _ _
    · exact (keeps_pure _).after
    · exact (keeps_pure _).after
    · split
      · apply (meets_groupFlags _).bind
        intro flags
        split
        · exact keeps_pure _
        · exact keeps_pure _
      · exact meets_fault _ _
    · exact meets_fault _ _

/-- A closing parenthesis keeps to the text. -/
theorem keeps_closing (start : Nat) : Keeps given text (closing start) := by
  unfold closing
  apply (keeps_accept _).bind
  intro closed
  split
  · apply keeps_position.bind
    intro here
    exact keeps_fault _ _
  · exact keeps_pure _

/-! ## Whole patterns -/

/-- Whether the readers of alternatives, items and groups keep what holds of a reading, with the
given fuel. -/
structure KeepAll (given : Flags) (text : List Letter) (fuel : Nat) : Prop where
  alternatives (verbose outermost first : Bool) :
    Keeps given text (alternatives fuel verbose outermost first)
  items (verbose first : Bool) (found : List Node) :
    Keeps given text (items fuel verbose first found)
  group (verbose : Bool) (start : Nat) (o : Opening) : Keeps given text (group fuel verbose start o)

/-- With more fuel alternatives keep to the text if all does with less. -/
theorem KeepAll.alternatives_succ {fuel : Nat} (h : KeepAll given text fuel)
    (verbose outermost first : Bool) :
    Keeps given text (Pattern.alternatives (fuel + 1) verbose outermost first) := by
  rw [Pattern.alternatives]
  apply (h.items _ _ _).bind
  intro found
  apply (keeps_accept _).bind
  intro bar
  split
  · apply keeps_get.bind
    intro r
    apply (h.alternatives _ _ _).bind
    intro rest
    exact keeps_pure _
  · exact keeps_pure _

/-- With more fuel items keep to the text if all does with less. -/
theorem KeepAll.items_succ {fuel : Nat} (h : KeepAll given text fuel) (verbose first : Bool)
    (found : List Node) : Keeps given text (Pattern.items (fuel + 1) verbose first found) := by
  rw [Pattern.items]
  apply meets_peek.bind
  intro p
  split
  · exact meets_pure fun _ hr => hr.2
  · exact meets_pure fun _ hr => hr.2
  · exact meets_pure fun _ hr => hr.2
  · apply meets_take_of_head?.bind
    intro _
    apply Keeps.after
    apply (keeps_escaped _).bind
    intro node
    exact h.items _ _ _
  · apply meets_take_of_head?.bind
    intro _
    exact (h.items _ _ _).after
  · apply meets_take_of_head?.bind
    intro _
    split
    · exact (h.items _ _ _).after
    · split
      · apply Keeps.after
        apply keeps_get.bind
        intro r
        apply (keeps_lineComment _).bind
        intro _
        exact h.items _ _ _
      · split
        · apply Keeps.after
          apply keeps_charSet.bind
          intro node
          exact h.items _ _ _
        · split
          case isTrue hsign =>
            apply meets_position.bind
            intro here
            apply (meets_bounds (by simpa [or_assoc] using hsign)).bind
            intro bounds
            split
            · exact h.items _ _ _
            · apply (keeps_repeatLast _ _ _ _).bind
              intro found
              exact h.items _ _ _
          case isFalse =>
            split
            · exact (h.items _ _ _).after
            · split
              case isTrue hopen =>
                subst hopen
                apply meets_position.bind
                intro here
                apply (meets_opening _).bind
                intro o
                split
                · exact h.items _ _ _
                · split
                  · apply keeps_position.bind
                    intro position
                    exact keeps_fault _ _
                  · apply keeps_get.bind
                    intro r
                    exact h.items _ _ _
                · exact h.items _ _ _
                · apply (h.group _ _ _).bind
                  intro node
                  exact h.items _ _ _
              case isFalse =>
                split
                · exact (h.items _ _ _).after
                · split
                  · exact (h.items _ _ _).after
                  · exact (h.items _ _ _).after

/-- With more fuel groups keep to the text if all does with less. -/
theorem KeepAll.group_succ {fuel : Nat} (h : KeepAll given text fuel) (verbose : Bool) (start : Nat)
    (o : Opening) : Keeps given text (Pattern.group (fuel + 1) verbose start o) := by
  have hbody : ∀ inner (wrap : List Node → Node), Keeps given text (do
      let nodes ← Pattern.alternatives fuel inner false false
      closing start
      return wrap nodes) := by
    intro inner wrap
    apply (h.alternatives _ _ _).bind
    intro nodes
    apply (keeps_closing _).bind
    intro _
    exact keeps_pure _
  unfold Pattern.group
  cases o with
  | ahead negated => exact hbody _ _
  | behind negated =>
    apply keeps_get.bind
    intro r
    extract_lets outer enter
    have henter : ∀ u, Keeps given text (enter u) := by
      intro u
      simp -zeta only [enter]
      apply (h.alternatives _ _ _).bind
      intro nodes
      extract_lets body leave
      have hleave : ∀ u, Keeps given text (leave u) := by
        intro u
        apply (keeps_closing _).bind
        intro _
        apply keeps_get.bind
        intro r
        exact keeps_pure _
      split
      · refine (keeps_modify ?_).bind hleave
        exact fun _ hr => ⟨hr.pieces, hr.ascii, hr.unicode⟩
      · exact hleave ()
    split
    · refine (keeps_modify ?_).bind henter
      exact fun _ hr => ⟨hr.pieces, hr.ascii, hr.unicode⟩
    · exact henter ()
  | condition =>
    apply keeps_conditionGroup.bind
    intro number
    apply (keeps_checkBehind _).bind
    intro _
    apply (h.items _ _ _).bind
    intro yes
    apply (keeps_accept _).bind
    intro bar
    extract_lets rest
    have hrest : ∀ no, Keeps given text (rest no) := by
      intro no
      apply (keeps_closing _).bind
      intro _
      exact keeps_pure _
    split
    · apply (h.items _ _ _).bind
      intro no
      apply keeps_peek.bind
      intro p
      split
      · exact (keeps_fault _ _).bind hrest
      · exact (keeps_pure _).bind hrest
    · exact (keeps_pure _).bind hrest
  | flagged on off => exact hbody _ _
  | atomic => exact hbody _ _
  | capture groupName =>
    apply (keeps_openGroup _).bind
    intro number
    apply (h.alternatives _ _ _).bind
    intro nodes
    apply (keeps_closing _).bind
    intro _
    apply (keeps_closeGroup _ _).bind
    intro _
    exact keeps_pure _
  | plain => exact hbody _ _
  | whole node => exact hbody _ _
  | comment => exact hbody _ _
  | globalFlags => exact hbody _ _

/-- Whatever the fuel, all keeps to the text. -/
theorem keepAll (fuel : Nat) : KeepAll given text fuel := by
  induction fuel with
  | zero =>
    refine ⟨?_, ?_, ?_⟩
    · intro verbose outermost first
      rw [Pattern.alternatives]
      exact keeps_fault _ _
    · intro verbose first found
      rw [Pattern.items]
      exact keeps_fault _ _
    · intro verbose start o
      rw [Pattern.group]
      exact keeps_fault _ _
  | succ fuel ih => exact ⟨ih.alternatives_succ, ih.items_succ, ih.group_succ⟩

end Readers

/-- The pieces of a text are what the text starts with; a backslash may be left over. -/
theorem flatMap_letters_cut (text : List Letter) :
    (Piece.cut text).1.flatMap Piece.letters <+: text := by
  fun_induction Piece.cut text with
  | case1 => exact List.prefix_refl _
  | case2 => exact List.nil_prefix
  | case3 c rest ps dangling hcut ih =>
    rw [hcut] at ih
    simpa [Piece.letters] using ih
  | case4 c rest _ _ ps dangling hcut ih =>
    rw [hcut] at ih
    simpa [Piece.letters] using ih

/-- A reading that has not begun is where its text starts. -/
theorem Reading.after_nil {given : Flags} {text : List Letter} {r : Reading}
    (hpieces : r.pieces = (Piece.cut text).1) (hflags : r.flags = given) :
    r.After given text [] := by
  refine ⟨?_, ?_, ?_⟩
  · rw [List.nil_append, hpieces]
    exact (flatMap_letters_cut text).isInfix
  · rw [hflags]
    exact Or.inl
  · rw [hflags]
    exact Or.inl

/-- Flags are in conflict only where each of them is given or turned on. -/
theorem causedBy_of_settleFlags {given : Flags} {text : List Letter} {why : Refusal} {r : Reading}
    (hr : r.After given text []) (h : settleFlags r.flags = .error why) :
    why.CausedBy given text := by
  unfold settleFlags at h
  split at h
  · cases h
  case isFalse hascii =>
    split at h
    case isTrue hunicode =>
      cases h
      exact ⟨hr.ascii (by simpa using hascii), hr.unicode hunicode⟩
    case isFalse => cases h

/-- What refuses a text, its malformations aside, is in the text. -/
theorem causedBy_of_read {given : Flags} {text : List Letter} {why : Refusal}
    (h : read given text = .error why) : why.CausedBy given text := by
  obtain ⟨pieces, dangling, hcut⟩ : ∃ pieces dangling, Piece.cut text = (pieces, dangling) :=
    ⟨_, _, rfl⟩
  let start : Reading := { pieces, position := 0, dangling, flags := given }
  have hstart : start.After given text [] := Reading.after_nil (by rw [hcut]) rfl
  obtain ⟨hok, herror⟩ := (keepAll (3 * pieces.length + 4)).alternatives given.verbose true true
    start hstart
  rw [read, hcut] at h
  dsimp only at h
  split at h
  · cases h
    trivial
  · cases hrun : alternatives (3 * pieces.length + 4) given.verbose true true start with
    | error refusal =>
      rw [StateT.run, hrun] at h
      cases h
      exact herror why hrun
    | ok result =>
      obtain ⟨nodes, r⟩ := result
      rw [StateT.run, hrun] at h
      cases hsettle : settleFlags r.flags with
      | error refusal =>
        simp only [bind, Except.bind, hsettle] at h
        cases h
        exact causedBy_of_settleFlags (hok nodes r hrun) hsettle
      | ok flags =>
        simp only [bind, Except.bind, hsettle] at h
        split at h
        · cases h
          trivial
        · split at h
          · cases h
            trivial
          · split at h
            · cases h
              trivial
            · cases h

end MaskedReport.Pattern
